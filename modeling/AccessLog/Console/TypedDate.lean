import AccessLog.Console.Token
import AccessLog.Text.Numeral
import AccessLog.Timestamp.Moment

/-!
# Typed dates

Where someone types a date, it can be spelled in many ways. The tokens of the text are read from the
left into a draft: numbers with hyphens, slashes or full stops between them are the date, numbers
with colons between them are the time of day, and a number whose length tells what it is stands for
several parts, as `20200131` does. Three numbers make a date; a part of the time of day that is not
given is zero.

Which of the three is the year, the month and the day is decided at the end. A number with more than
two digits is the year, and there can be only one. Of the two numbers beside the year the first is
taken for the day wherever that is possible: with the year first, the last number is the month if it
can be one; with the year last, the second number is the month if it can be one or if the first
cannot. A year of two digits lies within fifty years of the present one.

A word for universal time at the end, behind a time of day, is the offset of the clock.
-/

namespace AccessLog.Console

/-- Why a text spells no instant. -/
inductive Misspelling where
  /-- The text has the form of a date, and there is no such instant. -/
  | range (f : Timestamp.RangeFault)
  /-- A part is greater than any machine integer. -/
  | tooGreat
  /-- The text has no numbers or words that say anything. -/
  | empty
  /-- The text has no form that is known. -/
  | unknown
deriving DecidableEq, Repr

/-- The wording for a text that spells no instant. -/
def Misspelling.message (text : String) : Misspelling → String
  | .range f => s!"{f.message}: {text}"
  | .tooGreat => "signed integer is greater than maximum"
  | .empty => s!"String does not contain a date: {text}"
  | .unknown => s!"Unknown string format: {text}"

/-! ## Numbers -/

/-- The number that a text of digits spells, if there are not too many of them. -/
def whole? (cs : List Char) : Option Nat :=
  if !cs.isEmpty && cs.all Token.isDigit && cs.length ≤ Text.Numeral.maxDigits then
    some (Text.decimal cs)
  else none

/-- The digits before the full stop of a number. -/
def beforeStop (cs : List Char) : List Char := cs.takeWhile (· != '.')

/-- The digits behind the full stop of a number. -/
def afterStop (cs : List Char) : List Char := (cs.dropWhile (· != '.')).drop 1

/-- Seconds with a fraction: the whole seconds and the microseconds, the rest of the fraction cut
off. -/
def seconds? (cs : List Char) : Option (Nat × Nat) := do
  let second ← whole? (beforeStop cs)
  if !cs.contains '.' then return (second, 0)
  let micro ← whole? ((afterStop cs ++ List.replicate 6 '0').take 6)
  return (second, micro)

/-- The seconds in a fraction of a minute, if it is not zero. -/
def fractionSeconds? (fraction : List Char) : Option Nat :=
  let n := Text.decimal fraction
  if n = 0 then none else some (60 * n / Nat.pow 10 fraction.length)

/-! ## Drafts -/

/-- The parts of an instant as far as they are found. -/
structure Draft where
  /-- The numbers of the date, in order. -/
  date : List Nat := []
  /-- Which of them is the year, if that is known, counted from zero. -/
  yearIndex : Option Nat := none
  /-- The hour. -/
  hour : Option Nat := none
  /-- The minute. -/
  minute : Option Nat := none
  /-- The second. -/
  second : Option Nat := none
  /-- The microsecond. -/
  micro : Option Nat := none
deriving DecidableEq, Repr

namespace Draft

/-- Adds a number of the date. There can be only one that is known to be the year. -/
def add (d : Draft) (value : Nat) (isYear : Bool) : Option Draft :=
  if !isYear then some { d with date := d.date ++ [value] }
  else if d.yearIndex.isSome then none
  else some { d with date := d.date ++ [value], yearIndex := some d.date.length }

/-- Adds a number of the date that is written with digits only; with more than two it is the year.
-/
def addDigits (d : Draft) (cs : List Char) : Option Draft := do
  d.add (← whole? cs) (2 < cs.length)

/-- Adds a number of the date that stands alone, any fraction cut off; above a hundred it is the
year. -/
def addAlone (d : Draft) (cs : List Char) : Option Draft :=
  let n := Text.decimal (beforeStop cs)
  d.add n (100 < n || n == 100 && Text.decimal (afterStop cs) != 0)

/-- Sets the hour and the minute by two digits each, and the seconds by what follows. -/
def setClock (d : Draft) (cs : List Char) : Option Draft := do
  let hour ← whole? (cs.take 2)
  let minute ← whole? ((cs.drop 2).take 2)
  let (second, micro) ← seconds? (cs.drop 4)
  return { d with hour := some hour, minute := some minute, second := some second,
                  micro := some micro }

/-- Sets the hour by two digits, and the minute by two more if there are any. -/
def setHour (d : Draft) (cs : List Char) : Option Draft := do
  let d := { d with hour := some (← whole? (cs.take 2)) }
  if cs.length = 2 then return d else return { d with minute := some (← whole? (cs.drop 2)) }

/-- Adds a date of eight digits, the year first, and sets the time of day by the digits behind it.
-/
def addWhole (d : Draft) (cs : List Char) : Option Draft := do
  let d ← d.addDigits (cs.take 4)
  let d ← d.addDigits ((cs.drop 4).take 2)
  let d ← d.addDigits ((cs.drop 6).take 2)
  if cs.length = 8 then return d
  let hour ← whole? ((cs.drop 8).take 2)
  let minute ← whole? ((cs.drop 10).take 2)
  let d := { d with hour := some hour, minute := some minute }
  if cs.length = 12 then return d else return { d with second := some (← whole? (cs.drop 12)) }

/-- Sets the time of day by an hour, by what follows the colon behind it, and by what follows that.
The result says also how many tokens it takes. -/
def setTimes (d : Draft) (hour : List Char) : List Token → Option (Draft × Nat)
  | .number minute :: rest => do
    let d := { d with
      hour := some (Text.decimal (beforeStop hour))
      minute := some (Text.decimal (beforeStop minute))
      second := fractionSeconds? (afterStop minute) }
    match rest with
    | .mark ':' :: .number seconds :: _ =>
      let (second, micro) ← seconds? seconds
      return ({ d with second := some second, micro := some micro }, 3)
    | .mark ':' :: _ :: _ => none
    | _ => return (d, 1)
  | _ => none

/-- Adds a number of the date and those that follow the mark behind it. The result says also how
many tokens behind the mark it takes. -/
def addJoined (d : Draft) (first : List Char) (joint : Char) :
    List Token → Option (Draft × Nat)
  | [] => do return (← d.addDigits first, 0)
  | .number second :: rest => do
    let d ← (← d.addDigits first).addDigits second
    match rest with
    | .mark c :: more =>
      if c = joint then
        match more with
        | .number third :: _ => return (← d.addDigits third, 3)
        | _ => none
      else return (d, 1)
    | _ => return (d, 1)
  | t :: _ => if t.isFiller then do return (← d.addDigits first, 0) else none

/-- The lengths of numbers that hold a whole date, and perhaps a time of day. -/
def wholeLengths : List Nat := [8, 12, 14]

/-- The marks that join the numbers of a date. -/
def joints : List Char := ['-', '/', '.']

/-- Whether a number behind a whole date is its hour, or its hour and minute. -/
def isBareHour (d : Draft) (cs : List Char) (rest : List Token) : Bool :=
  d.date.length == 3 && d.hour.isNone && (cs.length == 2 || cs.length == 4) &&
    rest.head? != some (.mark ':')

/-- Whether a number has two digits for each of three parts. -/
def isTriple (cs : List Char) : Bool :=
  cs.length == 6 || (6 < cs.length && (beforeStop cs).length == 6)

/-- Takes a number, together with the tokens behind it that it goes with; the result says how many
these are. -/
def takeNumber (d : Draft) (cs : List Char) (rest : List Token) : Option (Draft × Nat) :=
  if d.isBareHour cs rest then (d.setHour cs).map (·, 0)
  else if isTriple cs then
    if d.date.isEmpty && !cs.contains '.' then do
      let d ← d.addDigits (cs.take 2)
      let d ← d.addDigits ((cs.drop 2).take 2)
      return (← d.addDigits (cs.drop 4), 0)
    else (d.setClock cs).map (·, 0)
  else if wholeLengths.contains cs.length then (d.addWhole cs).map (·, 0)
  else
    match rest with
    | [] => (d.addAlone cs).map (·, 0)
    | .mark c :: more =>
      if c = ':' then (d.setTimes cs more).map fun r => (r.1, r.2 + 1)
      else if joints.contains c then (d.addJoined cs c more).map fun r => (r.1, r.2 + 1)
      else if (Token.mark c).isFiller then (d.addAlone cs).map (·, 1)
      else none
    | t :: _ => if t.isFiller then (d.addAlone cs).map (·, 1) else none

/-- Takes tokens one after the other. The first number counts those that have been taken together
with one before them. -/
def takeFrom : Nat → Draft → List Token → Option Draft
  | _, d, [] => some d
  | k + 1, d, _ :: ts => takeFrom k d ts
  | 0, d, .number cs :: ts => do
    let (d, k) ← d.takeNumber cs ts
    takeFrom k d ts
  | 0, d, t :: ts => if t.isFiller then takeFrom 0 d ts else none

/-- The draft that tokens give. -/
def ofTokens (ts : List Token) : Option Draft := takeFrom 0 {} ts

/-! ## The instant of a draft -/

/-- The year that two digits mean: one of the hundred years from fifty before the present one on. -/
def yearOfShort (thisYear n : Nat) : Nat :=
  let earliest := thisYear - 50
  if n < earliest % 100 then earliest - earliest % 100 + 100 + n
  else earliest - earliest % 100 + n

/-- The year, the month and the day that three numbers mean. -/
def arrange (yearIsFirst : Bool) (a b c : Nat) : Nat × Nat × Nat :=
  if yearIsFirst || 31 < a then if c ≤ 12 then (a, c, b) else (a, b, c)
  else if 12 < a || b ≤ 12 then (c, b, a)
  else (c, a, b)

/-- The year, the month and the day of a draft with a whole date. -/
def date? (thisYear : Nat) (d : Draft) : Option (Nat × Nat × Nat) :=
  match d.date with
  | [a, b, c] =>
    let (year, month, day) := arrange (d.yearIndex == some 0) a b c
    some (if d.yearIndex.isNone && year < 100 then yearOfShort thisYear year else year, month, day)
  | _ => none

end Draft

/-- The least number that no part can be. -/
def tooGreatFrom : Nat := 0x80000000

/-- The instant that a draft means. -/
def ofDraft (thisYear : Nat) (d : Draft) : Except Misspelling Timestamp :=
  match d.date? thisYear with
  | none => .error .unknown
  | some (year, month, day) =>
    let clock := [d.hour, d.minute, d.second, d.micro].map (·.getD 0)
    if ([year, month, day] ++ clock).any (tooGreatFrom ≤ ·) then .error .tooGreat
    else
      (Timestamp.ofParts year month day (d.hour.getD 0) (d.minute.getD 0) (d.second.getD 0)
        (d.micro.getD 0)).mapError .range

/-- The words for universal time. -/
def universalWords : List String := ["Z", "z", "UTC", "GMT"]

/-- Takes a word for universal time off the end of some tokens. The result says also
whether there is one. -/
def takeZone (ts : List Token) : List Token × Bool :=
  match ts.getLast? with
  | some (.word cs) =>
    if universalWords.contains (String.ofList cs) then (ts.dropLast, true) else (ts, false)
  | _ => (ts, false)

/-- The offset of universal time. -/
def universalOffset : Offset := ⟨0, by decide⟩

/-- The moment that a text spells, in the given year. -/
def readTyped (thisYear : Nat) (text : String) : Except Misspelling Moment :=
  let tokens := Token.ofText text.toList
  if tokens.all Token.isFiller then .error .empty
  else
    let (ts, isUniversal) := takeZone tokens
    match Draft.ofTokens ts with
    | none => .error .unknown
    | some d =>
      if isUniversal && d.hour.isNone then .error .unknown
      else (ofDraft thisYear d).map (⟨·, if isUniversal then some universalOffset else none⟩)

end AccessLog.Console
