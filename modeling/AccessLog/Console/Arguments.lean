import AccessLog.Command.Toolkit
import AccessLog.Console.Syntax

/-!
# Arguments

The arguments of a command are read: dates as moments, an event as an event. The options are read in
the order in which they are first given, then comes the query text, and then the options that are
not given, in the order in which they are declared; the first thing that is wrong is reported. The
usage of the command is shown with it, unless it is about an option that lacks its value or is given
a needless one.

Whether a path leads to a regular file is asked of a function from paths to places.
-/

namespace AccessLog.Console

open Command (Opt Verb DateReader Bound Bounds Call Job Source)

/-- The name by which messages refer to the program. -/
def programName : String := "cli"

/-! ## Usage errors -/

/-- What is wrong with the arguments. -/
inductive UsageFault where
  /-- The arguments cannot be sorted. -/
  | scan (f : ScanFault)
  /-- An option is missing. -/
  | missingOption (o : Opt)
  /-- The query text is missing. -/
  | missingQuery
  /-- A regular file is given for the directory. -/
  | notFolder (path : String)
  /-- The value of an option is no date, with a message of its own. -/
  | badDate (o : Opt) (message : String)
  /-- The value of an option is no event. -/
  | badEvent (text : String)
  /-- There are operands that nothing asks for. -/
  | extra (operands : List String)
  /-- The command is missing. -/
  | missingCommand
  /-- There is no such command. -/
  | unknownCommand (name : String)
deriving DecidableEq, Repr

/-- The names of an option, as messages show them. -/
def hint (o : Opt) : String :=
  match o.letter? with
  | none => s!"'{o.long}'"
  | some c => s!"'{o.long}' / '-{c}'"

/-- The name of the query text in messages. -/
def queryName : String := "QUERY"

/-- The wording of what is wrong. -/
def UsageFault.message : UsageFault → String
  | scan f => f.message
  | missingOption o => s!"Missing option {hint o}."
  | missingQuery => s!"Missing argument '{queryName}'."
  | notFolder path =>
    s!"Invalid value for {hint .logDir}: Directory {Text.quoted path} is a file."
  | badDate o message => s!"Invalid value for {hint o}: {message}"
  | badEvent text =>
    s!"Invalid value for {hint .event}: {Text.quoted text} is not one of " ++
      ", ".intercalate (Event.all.map fun e => Text.quoted e.name) ++ "."
  | extra [one] => s!"Got unexpected extra argument ({one})"
  | extra operands => "Got unexpected extra arguments (" ++ " ".intercalate operands ++ ")"
  | missingCommand => "Missing command."
  | unknownCommand name => s!"No such command {Text.quoted name}."

/-- What is wrong with the arguments, and the command that they were meant for, if it is known. -/
structure UsageError where
  /-- The command. -/
  verb : Option Verb
  /-- What is wrong. -/
  fault : UsageFault
deriving DecidableEq, Repr

/-- How the program, or one of its commands, is called. -/
def callPath : Option Verb → String
  | none => programName
  | some v => s!"{programName} {v.name}"

/-- The line that shows how the program, or one of its commands, is used. -/
def usage (verb : Option Verb) : String :=
  let rest := match verb with
    | none => "[OPTIONS] COMMAND [ARGS]..."
    | some v => if v.takesQuery then s!"[OPTIONS] {queryName}" else "[OPTIONS]"
  s!"Usage: {callPath verb} {rest}\n"

/-- Whether the usage is shown with what is wrong. -/
def UsageFault.showsUsage : UsageFault → Bool
  | scan (.noValue _) | scan (.needlessValue _) => false
  | _ => true

/-- The text that a usage error is reported with. -/
def UsageError.report (e : UsageError) : String :=
  let help :=
    if e.fault.showsUsage then
      usage e.verb ++ s!"Try '{callPath e.verb} {Opt.help.long}' for help.\n\n"
    else ""
  help ++ s!"Error: {e.fault.message}\n"

/-! ## Arguments -/

/-- The arguments of a command. -/
structure Arguments (read : DateReader) where
  /-- The path of the directory. -/
  directory : String := ""
  /-- The encoding, if one is given. -/
  encoding : Option String := none
  /-- The end of the names of log files, if one is given. -/
  extension : Option String := none
  /-- Whether all notices are shown. -/
  verbose : Bool := false
  /-- The query text. -/
  query : String := ""
  /-- Whether dates that cannot be read make a query malformed. -/
  strict : Bool := false
  /-- The bounds of the window. -/
  window : Bounds read := {}
  /-- The user, if one is given. -/
  user : Option String := none
  /-- The event, if one is given. -/
  event : Option Event := none
  /-- The address, if one is given. -/
  ip : Option String := none
  /-- Whether completed tasks are counted. -/
  done : Bool := false
deriving DecidableEq

/-- What is read one after the other. -/
inductive Param where
  /-- An option. -/
  | option (o : Opt)
  /-- The query text. -/
  | query
deriving DecidableEq, Repr

/-- The elements of a list without repetitions, in the order in which they first occur. -/
def firstOccurrences {α : Type} [DecidableEq α] (l : List α) : List α :=
  l.foldl (fun seen a => if a ∈ seen then seen else seen ++ [a]) []

/-- The order in which the arguments of a command are read. -/
def readingOrder (v : Verb) (s : Scanned) : List Param :=
  let given := firstOccurrences (s.options.map Prod.fst)
  given.map .option ++ (if v.takesQuery then [.query] else []) ++
    (v.options.filter (· ∉ given)).map .option

section

variable {read : DateReader}

/-- Reads a date that is given for an option. -/
def readBound (o : Opt) (text : String) : Except UsageFault (Bound read) :=
  match h : read text with
  | .ok m => .ok ⟨text, m, h⟩
  | .error message => .error (.badDate o message)

/-- Reads the value of an option. -/
def Arguments.enter (look : String → Place) (a : Arguments read) (o : Opt) (value : String) :
    Except UsageFault (Arguments read) :=
  match o with
  | .logDir =>
    if look value = .file then .error (.notFolder value) else .ok { a with directory := value }
  | .encoding => .ok { a with encoding := some value }
  | .extension => .ok { a with extension := some value }
  | .verbose => .ok { a with verbose := true }
  | .strict => .ok { a with strict := true }
  | .after => (readBound o value).map fun b => { a with window.after := some b }
  | .before => (readBound o value).map fun b => { a with window.before := some b }
  | .user => .ok { a with user := some value }
  | .event =>
    match Event.ofName? value with
    | some e => .ok { a with event := some e }
    | none => .error (.badEvent value)
  | .ip => .ok { a with ip := some value }
  | .done => .ok { a with done := true }
  | .help | .version => .ok a

/-- Reads one argument of a command. -/
def Arguments.take (look : String → Place) (s : Scanned) (a : Arguments read) :
    Param → Except UsageFault (Arguments read)
  | .query =>
    match s.operands with
    | [] => .error .missingQuery
    | text :: _ => .ok { a with query := text }
  | .option o =>
    match s.value? o with
    | some value => a.enter look o value
    | none => if o = .logDir then .error (.missingOption o) else .ok a

end

/-! ## Calls -/

/-- The source that the arguments of a command give. -/
def Arguments.source {read : DateReader} (a : Arguments read) : Source :=
  ⟨a.directory, a.encoding, a.extension, a.verbose⟩

/-- The job that the arguments of a command give. -/
def Arguments.job {read : DateReader} (a : Arguments read) : Verb → Job (Bounds read)
  | .execute => .execute a.query a.strict
  | .stats => .stats
  | .ips => .list (.ips a.user) a.window
  | .users => .list (.users a.event a.ip) a.window
  | .events => .list (.events a.user a.ip) a.window
  | .tasks => .tasks a.done a.window

/-- The version of the program. -/
def versionLine : String := s!"{programName}, version 1.0.0\n"

/-- Reads the arguments of a command. -/
def callVerb (read : DateReader) (look : String → Place) (v : Verb) (args : List String) :
    Except UsageFault (Call read) := do
  let s ← (scan v.options true args).mapError .scan
  if s.has .help then return .ended 0 (usage (some v)) ""
  let a ← (readingOrder v s).foldlM (Arguments.take look s) ({} : Arguments read)
  let extra := if v.takesQuery then s.operands.drop 1 else s.operands
  if extra.isEmpty then return .command a.source (a.job v) else throw (.extra extra)

/-- Reads the arguments of the program. -/
def readArguments (read : DateReader) (look : String → Place) (args : List String) :
    Except UsageError (Call read) :=
  if args.isEmpty then .ok (.ended 0 (usage none) "")
  else match scan [.version, .help] false args with
    | .error f => .error ⟨none, .scan f⟩
    | .ok s =>
      match s.options, s.operands with
      | (.version, _) :: _, _ => .ok (.ended 0 versionLine "")
      | _ :: _, _ => .ok (.ended 0 (usage none) "")
      | [], [] => .error ⟨none, .missingCommand⟩
      | [], name :: rest =>
        match Verb.ofName? name with
        | none => .error ⟨none, .unknownCommand name⟩
        | some v => (callVerb read look v rest).mapError (⟨some v, ·⟩)

end AccessLog.Console
