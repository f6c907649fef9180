import AccessLog.Archive

/-!
# What a command is asked to do

Each command reads a directory and does one job: it answers a query text, shows the statistics,
lists the values of a field or counts tasks. A listing is narrowed down by the options that are
given for it, which are looked at one after the other: an empty text is as good as none, and the
first one that counts is the only one that does.

The time window of a job is left open at first (`Job.map`): it is typed as two texts and worked with
as a period.
-/

namespace AccessLog.Command

/-! ## Sources -/

/-- Where a command reads, and how. -/
structure Source where
  /-- The path of the directory. -/
  directory : String
  /-- The encoding, if one is given. -/
  encoding : Option String := none
  /-- The end of the names of log files, if one is given. -/
  extension : Option String := none
  /-- Whether all notices are shown. -/
  verbose : Bool := false
deriving DecidableEq, Repr

/-- The settings that a source is read with, where there are the given codecs: the default ones but
for what is given. -/
def Source.settings (codecs : Registry) (src : Source) : Settings :=
  Settings.changeAll { codecs }
    (src.encoding.toList.map .encoding ++ src.extension.toList.map .extension)

/-! ## Listings -/

/-- What is listed, with the options that are given for it. -/
inductive Listing where
  /-- Addresses, those of a user. -/
  | ips (user : Option String)
  /-- Users, those with an event or those that came from an address. -/
  | users (event : Option Event) (ip : Option String)
  /-- Events, those of a user or those that came from an address. -/
  | events (user ip : Option String)
deriving DecidableEq, Repr

/-- A text that is given and not empty, as a value. -/
def given (text : Option String) : Option Scalar :=
  (text.filter fun s => !s.isEmpty).map .text

namespace Listing

/-- The field whose values are listed. -/
def field : Listing → Field
  | ips _ => .ip
  | users _ _ => .user
  | events _ _ => .event

/-- The title of a listing. -/
def title : Listing → String
  | ips _ => "IP addresses"
  | users _ _ => "Users"
  | events _ _ => "Events"

/-- The predicates that select the records of a listing. -/
def predicates : Listing → List Predicate
  | ips user =>
    match given user with
    | some user => [Archive.byUser (some user)]
    | none => []
  | users event ip =>
    match event, given ip with
    | some e, _ => [Archive.onEvent e]
    | none, some ip => [Archive.byIp (some ip)]
    | none, none => []
  | events user ip =>
    match given user, given ip with
    | some user, _ => [Archive.byUser (some user)]
    | none, some ip => [Archive.byIp (some ip)]
    | none, none => []

end Listing

/-! ## Jobs -/

/-- What a command is asked to do, with the time window as it is known. -/
inductive Job (ω : Type) where
  /-- To answer a query text, perhaps strictly. -/
  | execute (query : String) (strict : Bool)
  /-- To show the statistics. -/
  | stats
  /-- To list values. -/
  | list (l : Listing) (window : ω)
  /-- To count how often tasks were tried, or completed. -/
  | tasks (done : Bool) (window : ω)
deriving DecidableEq, Repr

/-- The job with its time window made into something else. -/
def Job.map {ω ω' : Type} (f : ω → ω') : Job ω → Job ω'
  | execute query strict => .execute query strict
  | stats => .stats
  | list l window => .list l (f window)
  | tasks done window => .tasks done (f window)

end AccessLog.Command
