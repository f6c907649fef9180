import AccessLog.Command.Options
import AccessLog.Command.Response
import AccessLog.Text.Quoted

/-!
# The program and its toolkit

What the program does by itself is to read dates in the form of the logs, to decide what a command
prints, and in which order. The rest it leaves to a toolkit, of which nothing is assumed here: to
read dates in other forms, to find its commands and options among the arguments, to know further
encodings, to put a line on the terminal and to draw a table.

The toolkit is told how the program reads a date, and hands it the bounds of a time window together
with the moments that were read (`Bound`).
-/

namespace AccessLog.Command

/-- What reads a date, or says why it cannot be read. -/
abbrev DateReader := String → Except String Moment

/-- A bound of a time window: the text that was typed, and the moment that is read from it. -/
structure Bound (read : DateReader) where
  /-- The text. -/
  text : String
  /-- The moment. -/
  moment : Moment
  /-- The text is read so. -/
  reads : read text = .ok moment
deriving DecidableEq

/-- The bounds of a time window, as far as they are given. -/
structure Bounds (read : DateReader) where
  /-- What the window begins behind. -/
  after : Option (Bound read) := none
  /-- What the window ends before. -/
  before : Option (Bound read) := none
deriving DecidableEq

/-- The period of a time window. -/
def Bounds.period {read : DateReader} (w : Bounds read) : Period :=
  ⟨w.after.map Bound.moment, w.before.map Bound.moment⟩

/-- What the arguments of the program come to. -/
inductive Call (read : DateReader) where
  /-- A command, with its source and its job. -/
  | command (src : Source) (job : Job (Bounds read))
  /-- Nothing to do, as after a wrong argument: the exit code, and what is printed as the result and
  as an error. -/
  | ended (exit : Nat) (output errors : String)
deriving DecidableEq

/-- What the program is given to work with. -/
structure Toolkit where
  /-- Reads a date that has not the form of the logs. -/
  dateOf : DateReader
  /-- Reads the arguments, with what reads a date and what tells where a path leads. -/
  call : (read : DateReader) → (String → Place) → List String → Call read
  /-- The codecs under the names of encodings that are not written out. -/
  codecs : Registry := .empty
  /-- A line as it is printed. -/
  echo : String → String
  /-- A table as it is printed, or why it cannot be. -/
  draw : Table → Except String String

namespace Toolkit

/-- Reads a date: in the form of the logs if it has it, or else as the toolkit does. -/
def readDate (kit : Toolkit) : DateReader := fun text =>
  match Timestamp.read Timestamp.logFormat text with
  | .ok t => .ok ⟨t, none⟩
  | .error _ =>
    (kit.dateOf text).mapError fun m => s!"cannot parse date {Text.quoted text}: {m}"

end Toolkit

/-- What the program does. -/
structure Outcome where
  /-- The exit code. -/
  exit : Nat := 0
  /-- What is printed as the result. -/
  output : String := ""
  /-- What is printed as an error. -/
  errors : String := ""
  /-- The log. -/
  log : List LogEntry := []
  /-- What ended the program, if it did not come to its end. -/
  raised : Option Raised := none
deriving DecidableEq, Repr

/-- Adds a text to what is printed as the result. -/
def Outcome.addOutput (o : Outcome) (text : String) : Outcome :=
  { o with output := o.output ++ text }

/-- Adds a text to what is printed as an error. -/
def Outcome.addErrors (o : Outcome) (text : String) : Outcome :=
  { o with errors := o.errors ++ text }

namespace Toolkit

/-- Prints one thing after the other. A table that cannot be drawn ends the printing. -/
def print (kit : Toolkit) (o : Outcome) : List Print → Outcome
  | [] => o
  | .line text :: rest => kit.print (o.addOutput (kit.echo text)) rest
  | .errorLine text :: rest => kit.print (o.addErrors (kit.echo text)) rest
  | .table t :: rest =>
    match kit.draw t with
    | .ok text => kit.print (o.addOutput text) rest
    | .error m => { o with exit := 1, raised := some (.drawing m) }

/-- Prints a response. -/
def write (kit : Toolkit) (r : Response) : Outcome :=
  kit.print { exit := r.exit, log := r.log, raised := r.raised } r.prints

/-- **What the program does** with its arguments. -/
def run (kit : Toolkit) (look : String → Place) (args : List String) : Outcome :=
  match kit.call kit.readDate look args with
  | .ended exit output errors => { exit, output, errors }
  | .command src job => kit.write (runJob kit.codecs look src (job.map Bounds.period))

end Toolkit

end AccessLog.Command
