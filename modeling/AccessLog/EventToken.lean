import AccessLog.Record
import AccessLog.Text.Numeral
import AccessLog.Text.Separated

/-!
# Event tokens

The fourth field of a line names the event. An event that concerns a task stands there with the
number of the task, in any arrangement: the token holds the name somewhere, and what is left of it
without the name and without spaces is a numeral. Any other event is the whole token. A token that
names nothing is no error, for its record is kept without an event.

The task events are looked for in a fixed order. `readAmong` takes that order as an argument.
-/

namespace AccessLog

/-- What an event token tells. -/
structure Activity where
  /-- The event, if the token names one. -/
  event : Option Event
  /-- The number of the task, if the event concerns one. -/
  task : Option Int
deriving DecidableEq, Repr

namespace EventToken

/-- Why a token that names a task event cannot be read. -/
inductive Fault where
  /-- What stands beside the name is no numeral. -/
  | badTask (token : String)
  /-- The numeral has too many digits. -/
  | longNumeral (digits : Nat)
deriving DecidableEq, Repr

/-- The wording of a fault. -/
def Fault.message : Fault → String
  | .badTask token => s!"invalid task id in event token {Text.quoted token}"
  | .longNumeral digits =>
    s!"Exceeds the limit ({Text.Numeral.maxDigits} digits) for integer string conversion: " ++
      s!"value has {digits} digits; use sys.set_int_max_str_digits() to increase the limit"

/-- What stands in a token beside the name of an event, spaces aside. -/
def beside (e : Event) (token : List Char) : List Char :=
  (Text.eraseAll e.name.toList token).filter (· ≠ ' ')

/-- The event and the number of its task, from a token that holds the name of the event. -/
def readTask (e : Event) (token : String) : Except Fault Activity :=
  match Text.Numeral.read? (beside e token.toList) with
  | none => .error (.badTask token)
  | some n =>
    if n.digits.length ≤ Text.Numeral.maxDigits then .ok ⟨some e, some n.value⟩
    else .error (.longNumeral n.digits.length)

/-- The event that makes up the whole token, none if there is no such event or it wants a task. -/
def readPlain (token : String) : Activity :=
  ⟨(Event.ofName? token).filter (!·.hasTask), none⟩

/-- Reads a token, looking for the given events in turn before it is taken as a whole. -/
def readAmong (kinds : List Event) (token : String) : Except Fault Activity :=
  match kinds.find? fun e => Text.occursIn e.name.toList token.toList with
  | some e => readTask e token
  | none => .ok (readPlain token)

/-- The events that concern a task. -/
def taskEvents : List Event := Event.all.filter Event.hasTask

/-- Reads a token. -/
def read (token : String) : Except Fault Activity := readAmong taskEvents token

end EventToken

end AccessLog
