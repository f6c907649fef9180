/-!
# Commands and options

The program has six commands. Each has options, which stand in the order in which they are declared,
and `execute` has a query text besides. An option has a long name, and perhaps a letter. How they
are found among the arguments is not said here.
-/

namespace AccessLog.Command

/-- The options. -/
inductive Opt where
  /-- The directory with the log files. -/
  | logDir
  /-- The encoding of the log files. -/
  | encoding
  /-- The end of the names of the log files. -/
  | extension
  /-- Whether all notices are shown. -/
  | verbose
  /-- Whether dates that cannot be read make a query malformed. -/
  | strict
  /-- The instant that the window begins behind. -/
  | after
  /-- The instant that the window ends before. -/
  | before
  /-- A user. -/
  | user
  /-- An event. -/
  | event
  /-- An address. -/
  | ip
  /-- Whether completed tasks are counted. -/
  | done
  /-- Whether help is asked for. -/
  | help
  /-- Whether the version is asked for. -/
  | version
deriving DecidableEq, Repr

namespace Opt

/-- The long name. -/
def long : Opt → String
  | logDir => "--log-dir"
  | encoding => "--encoding"
  | extension => "--extension"
  | verbose => "--verbose"
  | strict => "--strict"
  | after => "--after"
  | before => "--before"
  | user => "--user"
  | event => "--event"
  | ip => "--ip"
  | done => "--done"
  | help => "--help"
  | version => "--version"

/-- The letter. -/
def letter? : Opt → Option Char
  | logDir => some 'd'
  | verbose => some 'v'
  | _ => none

/-- Whether a value belongs to the option. -/
def takesValue : Opt → Bool
  | verbose | strict | done | help | version => false
  | _ => true

end Opt

/-- The commands. -/
inductive Verb where
  /-- Answers a query text. -/
  | execute
  /-- Shows the statistics. -/
  | stats
  /-- Lists addresses. -/
  | ips
  /-- Lists users. -/
  | users
  /-- Lists events. -/
  | events
  /-- Counts tasks. -/
  | tasks
deriving DecidableEq, Repr

namespace Verb

/-- All commands. -/
def all : List Verb := [execute, stats, ips, users, events, tasks]

/-- The name of a command. -/
def name : Verb → String
  | execute => "execute"
  | stats => "stats"
  | ips => "ips"
  | users => "users"
  | events => "events"
  | tasks => "tasks"

/-- The command of the given name. -/
def ofName? (name : String) : Option Verb := all.find? fun v => v.name == name

/-- The options that only this command has, or shares with some. -/
def ownOptions : Verb → List Opt
  | execute => [.strict]
  | stats => []
  | ips => [.after, .before, .user]
  | users => [.after, .before, .event, .ip]
  | events => [.after, .before, .user, .ip]
  | tasks => [.after, .before, .done]

/-- The options of a command, in the order in which they are declared. -/
def options (v : Verb) : List Opt :=
  [.logDir, .encoding, .extension, .verbose] ++ v.ownOptions ++ [.help]

/-- Whether a query text belongs to the command. -/
def takesQuery (v : Verb) : Bool := v == execute

end Verb

end AccessLog.Command
