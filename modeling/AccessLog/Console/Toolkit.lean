import AccessLog.Console.Arguments
import AccessLog.Console.Drawing
import AccessLog.Console.Plain
import AccessLog.Console.TypedDate

/-!
# A toolkit

A toolkit with which the program can be run: options in the usual syntax, dates that are typed in
common ways, lines as plain text and tables of box characters. The program is not tied to it, and
what is said of the program for all toolkits is said of it as well.
-/

namespace AccessLog.Console

/-- What the arguments come to, where a wrong argument is reported and leaves nothing to do. -/
def call (read : Command.DateReader) (look : String → Place) (args : List String) :
    Command.Call read :=
  match readArguments read look args with
  | .ok c => c
  | .error e => .ended 2 "" (withoutSequences e.report)

/-- A line as plain text. -/
def echo (text : String) : String := withoutSequences (text ++ "\n")

/-- The lines of a drawn table. -/
def draw (t : Table) : String := String.join ((drawnLines t).map (· ++ "\n"))

/-- The toolkit in the given year. -/
def toolkit (thisYear : Nat) : Command.Toolkit where
  dateOf text := (readTyped thisYear text).mapError (·.message text)
  call := call
  echo := echo
  draw t := .ok (draw t)

end AccessLog.Console
