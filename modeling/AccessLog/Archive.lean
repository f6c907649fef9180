import AccessLog.Ingestion
import AccessLog.Query.Basic

/-!
# Archives

An archive is what reading a directory gives: the records and the report. It answers questions by
name. Each of them fixes some predicates, a field and a way to reduce the values of the field, and
takes the time window as its last argument.

A value to compare with may be missing, and then no record holds it. Values compare by their
rendered forms, so an event or a task may also be given by its text.
-/

namespace AccessLog

/-- The records and the report of a directory. -/
structure Archive where
  /-- The records. -/
  dataset : Dataset
  /-- The report. -/
  report : Report
deriving DecidableEq, Repr

namespace Archive

/-- The archive that a reading gives. -/
def ofProgress (p : Progress) : Archive := ⟨p.dataset, p.report⟩

/-- Reads the directory of the given path, which leads to the given place. -/
def read (s : Settings) (directory : String) (place : Place) : Except Interruption Archive :=
  (Ingestion.read s directory place).map ofProgress

/-! ## Predicates -/

/-- The user is the given one. -/
def byUser (user : Option Scalar) : Predicate := ⟨.user, user⟩

/-- The address is the given one. -/
def byIp (ip : Option Scalar) : Predicate := ⟨.ip, ip⟩

/-- The event is the given one. -/
def byEvent (event : Option Scalar) : Predicate := ⟨.event, event⟩

/-- The status is the given one. -/
def byStatus (status : Option Scalar) : Predicate := ⟨.status, status⟩

/-- The task is the given one. -/
def byTask (task : Option Scalar) : Predicate := ⟨.task, task⟩

/-- The event is the given one. -/
def onEvent (e : Event) : Predicate := byEvent (some (.event e))

/-- The status is the given one. -/
def onStatus (s : Status) : Predicate := byStatus (some (.status s))

/-! ## Ways to reduce -/

/-- The distinct values of a field. -/
def collect (a : Archive) (f : Field) (w : Window) (ps : List Predicate) : List Scalar :=
  distinct (a.dataset.values f w ps)

/-- The number of distinct values of a field. -/
def countDistinct (a : Archive) (f : Field) (w : Window) (ps : List Predicate) : Nat :=
  (a.collect f w ps).length

/-- The number of values of a field. -/
def count (a : Archive) (f : Field) (w : Window) (ps : List Predicate) : Nat :=
  (a.dataset.values f w ps).length

/-- How often each value of a field occurs. -/
def tallyOf (a : Archive) (f : Field) (w : Window) (ps : List Predicate) : Tally :=
  tally (a.dataset.values f w ps)

/-- The first of the instants. -/
def first (a : Archive) (w : Window) (ps : List Predicate) : Except Incomparable (Option Scalar) :=
  earliest (a.dataset.values .date w ps)

/-! ## Addresses -/

/-- The addresses. -/
def ips (a : Archive) (w : Window) : List Scalar := a.collect .ip w []

/-- The number of addresses. -/
def ipCount (a : Archive) (w : Window) : Nat := (a.ips w).length

/-- The addresses that a user came from. -/
def ipsOfUser (a : Archive) (user : Option Scalar) (w : Window) : List Scalar :=
  a.collect .ip w [byUser user]

/-- The addresses from which an event came. -/
def ipsOfEvent (a : Archive) (event : Option Scalar) (w : Window) : List Scalar :=
  a.collect .ip w [byEvent event]

/-- The addresses from which something came that ended with a status. -/
def ipsOfStatus (a : Archive) (status : Option Scalar) (w : Window) : List Scalar :=
  a.collect .ip w [byStatus status]

/-! ## Users -/

/-- All users. -/
def allUsers (a : Archive) : List Scalar := a.collect .user {} []

/-- The number of users. -/
def userCount (a : Archive) (w : Window) : Nat := a.countDistinct .user w []

/-- The number of different events of a user. -/
def userEventCount (a : Archive) (user : Option Scalar) (w : Window) : Nat :=
  a.countDistinct .event w [byUser user]

/-- The users that came from an address. -/
def usersOfIp (a : Archive) (ip : Option Scalar) (w : Window) : List Scalar :=
  a.collect .user w [byIp ip]

/-- The users with an event. -/
def usersOfEvent (a : Archive) (e : Event) (w : Window) : List Scalar :=
  a.collect .user w [onEvent e]

/-- The users with an event, on the given task if there is one. -/
def usersOfTaskEvent (a : Archive) (e : Event) (task : Option Scalar) (w : Window) : List Scalar :=
  a.collect .user w (onEvent e :: task.toList.map fun t => byTask (some t))

/-- The users that logged in. -/
def loggedInUsers (a : Archive) (w : Window) : List Scalar := a.usersOfEvent .login w

/-- The users that downloaded the plugin. -/
def pluginUsers (a : Archive) (w : Window) : List Scalar := a.usersOfEvent .downloadPlugin w

/-- The users that wrote a message. -/
def messageUsers (a : Archive) (w : Window) : List Scalar := a.usersOfEvent .writeMessage w

/-- The users that tried to solve the given task, or any if none is given. -/
def solvingUsers (a : Archive) (task : Option Scalar) (w : Window) : List Scalar :=
  a.usersOfTaskEvent .solveTask task w

/-- The users that completed the given task, or any if none is given. -/
def doneUsers (a : Archive) (task : Option Scalar) (w : Window) : List Scalar :=
  a.usersOfTaskEvent .doneTask task w

/-! ## Dates -/

/-- When a user had an event. -/
def datesOfUserAndEvent (a : Archive) (user event : Option Scalar) (w : Window) : List Scalar :=
  a.collect .date w [byUser user, byEvent event]

/-- When something failed. -/
def failureDates (a : Archive) (w : Window) : List Scalar := a.collect .date w [onStatus .failed]

/-- When an error happened. -/
def errorDates (a : Archive) (w : Window) : List Scalar := a.collect .date w [onStatus .error]

/-- When a user logged in first. -/
def firstLogin (a : Archive) (user : Option Scalar) (w : Window) :
    Except Incomparable (Option Scalar) :=
  a.first w [byUser user, onEvent .login]

/-- When a user tried first to solve a task. -/
def firstAttempt (a : Archive) (user task : Option Scalar) (w : Window) :
    Except Incomparable (Option Scalar) :=
  a.first w [byUser user, onEvent .solveTask, byTask task]

/-- When a user completed a task first. -/
def firstDone (a : Archive) (user task : Option Scalar) (w : Window) :
    Except Incomparable (Option Scalar) :=
  a.first w [byUser user, onEvent .doneTask, byTask task]

/-- When a user wrote a message. -/
def messageDates (a : Archive) (user : Option Scalar) (w : Window) : List Scalar :=
  a.collect .date w [byUser user, onEvent .writeMessage]

/-- When a user downloaded the plugin. -/
def pluginDates (a : Archive) (user : Option Scalar) (w : Window) : List Scalar :=
  a.collect .date w [byUser user, onEvent .downloadPlugin]

/-! ## Events and tasks -/

/-- The events. -/
def events (a : Archive) (w : Window) : List Scalar := a.collect .event w []

/-- The number of different events. -/
def eventCount (a : Archive) (w : Window) : Nat := (a.events w).length

/-- The events that came from an address. -/
def eventsOfIp (a : Archive) (ip : Option Scalar) (w : Window) : List Scalar :=
  a.collect .event w [byIp ip]

/-- The events of a user. -/
def eventsOfUser (a : Archive) (user : Option Scalar) (w : Window) : List Scalar :=
  a.collect .event w [byUser user]

/-- The events that failed. -/
def failedEvents (a : Archive) (w : Window) : List Scalar := a.collect .event w [onStatus .failed]

/-- The events with an error. -/
def errorEvents (a : Archive) (w : Window) : List Scalar := a.collect .event w [onStatus .error]

/-- How often someone tried to solve a task. -/
def attemptCount (a : Archive) (task : Option Scalar) (w : Window) : Nat :=
  a.count .task w [onEvent .solveTask, byTask task]

/-- How often someone completed a task. -/
def doneCount (a : Archive) (task : Option Scalar) (w : Window) : Nat :=
  a.count .task w [onEvent .doneTask, byTask task]

/-- How often someone tried to solve each task. -/
def attempts (a : Archive) (w : Window) : Tally := a.tallyOf .task w [onEvent .solveTask]

/-- How often someone completed each task. -/
def completions (a : Archive) (w : Window) : Tally := a.tallyOf .task w [onEvent .doneTask]

/-! ## Statistics -/

/-- A summary of an archive. -/
structure Statistics where
  /-- The number of records. -/
  records : Nat
  /-- The number of addresses. -/
  ips : Nat
  /-- The number of users. -/
  users : Nat
  /-- How often each event occurs. -/
  events : Tally
  /-- How often each status occurs. -/
  statuses : Tally
  /-- The report. -/
  report : Report
deriving DecidableEq, Repr

/-- The summary of an archive. -/
def statistics (a : Archive) : Statistics where
  records := a.dataset.records.length
  ips := a.ipCount {}
  users := a.userCount {}
  events := a.tallyOf .event {} []
  statuses := a.tallyOf .status {} []
  report := a.report

end Archive

end AccessLog
