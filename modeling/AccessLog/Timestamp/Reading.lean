import AccessLog.Text.Blank
import AccessLog.Text.Caseless
import AccessLog.Text.DecimalDigit
import AccessLog.Text.LowerCase
import AccessLog.Text.Quoted
import AccessLog.Timestamp.Format
import AccessLog.Timestamp.Moment

/-!
# Timestamps read by a format

Reading goes in three steps. The text, less the blanks at its ends, is laid out along the items of
the format: each item has a list of forms, the preferred ones first, and the first choice of forms
that fits from the start of the text is taken. Nothing may be left over. Then the texts found for
the parts are turned into numbers, and the numbers into an instant. A format that asks for an offset
gives the moment that the instant is by a clock with this offset (`readMoment`).

Many forms mix two kinds of digit: a leading digit that is restricted to some values is an ASCII
digit, one that may be anything is a decimal digit of any script.
-/

namespace AccessLog

/-! ## The forms of a part -/

/-- What one character of a form may be. -/
inductive Slot where
  /-- A decimal digit of any script. -/
  | digit
  /-- A character between two others. -/
  | between (first last : Char)
  /-- A letter, in either case. -/
  | letter (c : Char)
deriving DecidableEq, Repr

/-- Whether a character fits the slot. -/
def Slot.admits : Slot → Char → Bool
  | .digit, c => (Text.digit? c).isSome
  | .between first last, c => first ≤ c && c ≤ last
  | .letter l, c => Text.sameLetter l c

/-- A slot for one character only. -/
def Slot.just (c : Char) : Slot := .between c c

/-- The start of the text that fits the slots, and the rest. -/
def fit : List Slot → List Char → Option (List Char × List Char)
  | [], cs => some ([], cs)
  | _ :: _, [] => none
  | s :: slots, c :: cs =>
    if s.admits c then (fit slots cs).map fun r => (c :: r.1, r.2) else none

namespace Directive

/-- The names of the months. -/
def monthNames : List String :=
  ["january", "february", "march", "april", "may", "june", "july", "august", "september",
   "october", "november", "december"]

/-- The first three letters of the names of the months. -/
def shortMonthNames : List String :=
  ["jan", "feb", "mar", "apr", "may", "jun", "jul", "aug", "sep", "oct", "nov", "dec"]

/-- The names of the weekdays. -/
def weekdayNames : List String :=
  ["monday", "tuesday", "wednesday", "thursday", "friday", "saturday", "sunday"]

/-- The first three letters of the names of the weekdays. -/
def shortWeekdayNames : List String := ["mon", "tue", "wed", "thu", "fri", "sat", "sun"]

/-- The two halves of the day. -/
def meridiems : List String := ["am", "pm"]

/-- The names of time zones. -/
def zoneNames : List String := ["utc", "gmt"]

/-- One form for each of the given words. -/
def wordForms (names : List String) : List (List Slot) :=
  names.map fun w => w.toList.map .letter

/-- The marks of some forms in turn, or nothing, before the forms that follow. -/
def withOrWithout (mark : Char) (rest : List (List Slot)) : List (List Slot) :=
  rest.map (.just mark :: ·) ++ rest

open Slot in
/-- The forms of a fraction of a second, the longest first. -/
def fractionForms : List (List Slot) :=
  [6, 5, 4, 3, 2, 1].map fun n => just '.' :: List.replicate n digit

open Slot in
/-- The forms of what can follow the minutes of an offset: seconds, perhaps with a fraction, or
nothing. -/
def offsetEnds : List (List Slot) :=
  withOrWithout ':' ((fractionForms ++ [[]]).map ([between '0' '5', digit] ++ ·)) ++ [[]]

open Slot in
/-- The forms of an offset. -/
def offsetForms : List (List Slot) :=
  ['+', '-'].flatMap fun sign =>
    (withOrWithout ':' (offsetEnds.map ([between '0' '5', digit] ++ ·))).map
      ([just sign, digit, digit] ++ ·)

open Slot in
/-- The forms of each part, in order of preference. -/
def forms : Directive → List (List Slot)
  | .day =>
    [[just '3', between '0' '1'], [between '1' '2', digit], [just '0', between '1' '9'],
     [between '1' '9'], [just ' ', between '1' '9']]
  | .month | .clockHour =>
    [[just '1', between '0' '2'], [just '0', between '1' '9'], [between '1' '9']]
  | .year => [[digit, digit, digit, digit]]
  | .shortYear => [[digit, digit]]
  | .hour => [[just '2', between '0' '3'], [between '0' '1', digit], [digit]]
  | .minute => [[between '0' '5', digit], [digit]]
  | .second => [[just '6', between '0' '1'], [between '0' '5', digit], [digit]]
  | .fraction => [6, 5, 4, 3, 2, 1].map fun n => List.replicate n (between '0' '9')
  | .dayOfYear =>
    [[just '3', just '6', between '0' '6'], [just '3', between '0' '5', digit],
     [between '1' '2', digit, digit], [just '0', between '1' '9', digit],
     [just '0', just '0', between '1' '9'], [between '1' '9', digit],
     [just '0', between '1' '9'], [between '1' '9']]
  | .meridiem => wordForms meridiems
  | .monthName => wordForms monthNames
  | .shortMonthName => wordForms shortMonthNames
  | .weekdayName => wordForms weekdayNames
  | .shortWeekdayName => wordForms shortWeekdayNames
  | .weekday => [[between '0' '6']]
  | .isoWeekday => [[between '1' '7']]
  | .sundayWeek | .mondayWeek => [[just '5', between '0' '3'], [between '0' '4', digit], [digit]]
  | .isoYear => [[digit, digit, digit, digit]]
  | .isoWeek =>
    [[just '5', between '0' '3'], [just '0', between '1' '9'], [between '1' '4', digit], [digit]]
  | .offset => offsetForms ++ [[just 'Z']]
  | .zoneName => wordForms zoneNames

end Directive

/-! ## Laying a text out along a format -/

namespace Format

/-- The texts found for the parts of a format, in its order. -/
abbrev Found := List (Directive × List Char)

/-- The ways in which an item can stand at the start of a text, in order of preference: what is
found for a part, and the rest of the text. -/
def Item.starts : Item → List Char → List (Found × List Char)
  | .part d, cs => d.forms.filterMap fun f => (fit f cs).map fun r => ([(d, r.1)], r.2)
  | .literal _, [] => []
  | .literal l, c :: cs => if Text.sameLetter l c then [([], cs)] else []
  | .gap, cs =>
    let n := (cs.takeWhile Text.isBlank).length
    (List.range n).map fun k => ([], cs.drop (n - k))

/-- The first way of choosing forms that lays the items out from the start of the text: the texts of
the parts, and the rest behind the last item. -/
def layOut : List Item → List Char → Option (Found × List Char)
  | [], cs => some ([], cs)
  | i :: items, cs =>
    (i.starts cs).findSome? fun s => (layOut items s.2).map fun r => (s.1 ++ r.1, r.2)

end Format

/-! ## From texts to an instant -/

namespace Timestamp

/-- Why a text is no timestamp. -/
inductive Fault where
  /-- The format is none. -/
  | badFormat (format : String) (f : Format.Fault)
  /-- No choice of forms lays the text out. -/
  | mismatch (format text : String)
  /-- Something is left over at the end of the text. -/
  | leftOver (rest : String)
  /-- A word agrees with a name letter by letter but not in its lower-case form. -/
  | unknownName (word : String)
  /-- An offset has a colon before its minutes and none before its seconds. -/
  | unevenColons (text : String)
  /-- A part of an offset is no numeral. -/
  | noNumeral (text : String)
  /-- The offset is a day or more. -/
  | tooFar (f : Offset.TooFar)
  /-- A year of weeks is given with the number of a day. -/
  | dayOfIsoYear
  /-- A year of weeks is given without the week or without the weekday. -/
  | bareIsoYear
  /-- A week is given without a year of any kind or without the weekday. -/
  | bareIsoWeek
  /-- A week is given with a year that is none of weeks. -/
  | isoWeekOfYear
  /-- The parts form no instant. -/
  | range (f : RangeFault)
deriving DecidableEq, Repr

/-- The wording of a fault. -/
def Fault.message : Fault → String
  | .badFormat format f => f.message format
  | .mismatch format text =>
    s!"time data {Text.quoted text} does not match format {Text.quoted format}"
  | .leftOver rest => s!"unconverted data remains: {rest}"
  | .unknownName word => s!"{Text.quoted word} is not in list"
  | .unevenColons text => s!"Inconsistent use of : in {text}"
  | .noNumeral text => s!"invalid literal for int() with base 10: {Text.quoted text}"
  | .tooFar f => f.message
  | .dayOfIsoYear =>
    "Day of the year directive '%j' is not compatible with ISO year directive '%G'. " ++
      "Use '%Y' instead."
  | .bareIsoYear =>
    "ISO year directive '%G' must be used with the ISO week directive '%V' and a weekday " ++
      "directive ('%A', '%a', '%w', or '%u')."
  | .bareIsoWeek =>
    "ISO week directive '%V' must be used with the ISO year directive '%G' and a weekday " ++
      "directive ('%A', '%a', '%w', or '%u')."
  | .isoWeekOfYear =>
    "ISO week directive '%V' is incompatible with the year directive '%Y'. " ++
      "Use the ISO year '%G' instead."
  | .range f => f.message

/-- The numbers that a text gives for the parts of an instant. Parts that the format does not ask
for have those of midnight on the first of January; the year may be missing. -/
structure Parts where
  /-- The year. -/
  year : Option Nat := none
  /-- The month. -/
  month : Nat := 1
  /-- The day of the month. -/
  day : Nat := 1
  /-- The number of the day in its year, which overrides the month and the day of the month. -/
  dayOfYear : Option Nat := none
  /-- The weekday, Monday being 0. -/
  weekday : Option Nat := none
  /-- Whether weeks start on Monday, and the number of the week. -/
  week : Option (Bool × Nat) := none
  /-- The year of weeks. -/
  isoYear : Option Nat := none
  /-- The number of the week in such a year. -/
  isoWeek : Option Nat := none
  /-- The hour. -/
  hour : Nat := 0
  /-- The minute. -/
  minute : Nat := 0
  /-- The second. -/
  second : Nat := 0
  /-- The microsecond. -/
  micro : Nat := 0
  /-- The microseconds of the offset. -/
  offset : Option Int := none
deriving DecidableEq, Repr

/-- The position of a word in a list of names, from one, by its lower-case form. -/
def position (names : List String) (word : List Char) : Except Fault Nat :=
  let w := Text.lower (String.ofList word)
  match names.idxOf? w with
  | some i => .ok (i + 1)
  | none => .error (.unknownName w)

/-- The microseconds that a fraction of a second makes. -/
def fractionMicros (digits : List Char) : Nat :=
  Text.decimal digits * Nat.pow 10 (6 - digits.length)

/-- The microseconds of an offset. A letter alone stands for none. Where a colon stands before the
minutes, one must stand before the seconds, and only there. -/
def offsetMicros : List Char → Except Fault Int
  | sign :: hour :: hour' :: cs =>
    let isParted := cs.head? == some ':'
    let cs' := if isParted then cs.drop 1 else cs
    let behind := cs'.drop 2
    if isParted && !behind.isEmpty && behind.head? != some ':' then
      .error (.unevenColons (String.ofList (sign :: hour :: hour' :: cs)))
    else
      let behind := if isParted then behind.drop 1 else behind
      let second := behind.take 2
      if second.contains ':' then .error (.noNumeral (String.ofList second))
      else
        let minutes := Text.decimal [hour, hour'] * 60 + Text.decimal (cs'.take 2)
        let micros : Int :=
          (minutes * 60 + Text.decimal second) * 1000000 + fractionMicros (behind.drop 3)
        .ok (if sign = '-' then -micros else micros)
  | _ => .ok 0

/-- Enters the text found for one part. Whether the second half of the day is meant is known
beforehand, since the hour on the clock face may stand before it. -/
def Parts.enter (afternoon : Bool) (p : Parts) (found : Directive × List Char) :
    Except Fault Parts :=
  let n := Text.decimal found.2
  match found.1 with
  | .day => .ok { p with day := n }
  | .month => .ok { p with month := n }
  | .year => .ok { p with year := some n }
  | .shortYear => .ok { p with year := some (if n ≤ 68 then 2000 + n else 1900 + n) }
  | .hour => .ok { p with hour := n }
  | .clockHour => .ok { p with hour := n % 12 + if afternoon then 12 else 0 }
  | .minute => .ok { p with minute := n }
  | .second => .ok { p with second := n }
  | .fraction => .ok { p with micro := fractionMicros found.2 }
  | .dayOfYear => .ok { p with dayOfYear := some n }
  | .meridiem => .ok p
  | .monthName => (position Directive.monthNames found.2).map fun m => { p with month := m }
  | .shortMonthName =>
    (position Directive.shortMonthNames found.2).map fun m => { p with month := m }
  | .weekdayName =>
    (position Directive.weekdayNames found.2).map fun d => { p with weekday := some (d - 1) }
  | .shortWeekdayName =>
    (position Directive.shortWeekdayNames found.2).map fun d => { p with weekday := some (d - 1) }
  | .weekday => .ok { p with weekday := some ((n + 6) % 7) }
  | .isoWeekday => .ok { p with weekday := some (n - 1) }
  | .sundayWeek => .ok { p with week := some (false, n) }
  | .mondayWeek => .ok { p with week := some (true, n) }
  | .isoYear => .ok { p with isoYear := some n }
  | .isoWeek => .ok { p with isoWeek := some n }
  | .offset => (offsetMicros found.2).map fun micros => { p with offset := some micros }
  | .zoneName => .ok p

/-- Whether the second half of the day was found. -/
def isAfternoon (found : Format.Found) : Bool :=
  found.any fun f => f.1 == .meridiem && Text.lower (String.ofList f.2) == "pm"

/-- The number of a day in its year by the number of the week and the weekday, where the first week
is the first one that is whole. It is not positive if the day lies in the year before. -/
def dayInWeek (year : Nat) (fromMonday : Bool) (week weekday : Nat) : Int :=
  let shift := if fromMonday then 0 else 1
  let first := (firstWeekday year + shift) % 7
  let day : Int := 1 + (weekday + shift) % 7
  if week = 0 then day - first else day + (7 - first) % 7 + 7 * (week - 1)

/-- The number of a day in its year by the number of the week and the weekday, where the first week
is the one with the fourth of January. It is not positive if the day lies in the year before. -/
def dayInIsoWeek (year week weekday : Nat) : Int :=
  7 * week + weekday + 1 - ((firstWeekday year + 3) % 7 + 4)

/-- The year and the number of the day, where a number that is not positive goes back to the year
before. -/
def carried (year : Nat) (day : Int) : Nat × Nat :=
  if day ≤ 0 then (year - 1, (day + yearLength (year - 1)).toNat) else (year, day.toNat)

namespace Parts

/-- Whether the leap day is named without a year. It is counted in a leap year then. -/
def onLeapDay (p : Parts) : Bool := p.year.isNone && p.month == 2 && p.day == 29

/-- The year in which days are counted. -/
def countingYear (p : Parts) : Nat := p.year.getD (if p.onLeapDay then 1904 else 1900)

/-- What is wrong with years of weeks and their weeks. -/
def isoFault? (p : Parts) : Option Fault :=
  if p.isoYear.isSome then
    if p.dayOfYear.isSome then some .dayOfIsoYear
    else if p.isoWeek.isNone || p.weekday.isNone then some .bareIsoYear
    else none
  else if p.isoWeek.isSome then
    if p.year.isNone || p.weekday.isNone then some .bareIsoWeek else some .isoWeekOfYear
  else none

/-- The year and the number of the day, if they are given by a number or by a week. A week is
counted in a year that exists. -/
def numberedDay? (p : Parts) : Except RangeFault (Option (Nat × Nat)) :=
  match p.dayOfYear, p.weekday, p.week, p.isoYear, p.isoWeek with
  | some n, _, _, _, _ => .ok (some (p.countingYear, n))
  | none, some d, some (fromMonday, week), _, _ =>
    if p.countingYear = 0 then .error (.year 0)
    else .ok (some (carried p.countingYear (dayInWeek p.countingYear fromMonday week d)))
  | none, some d, none, some year, some week =>
    if year = 0 then .error (.year 0) else .ok (some (carried year (dayInIsoWeek year week d)))
  | _, _, _, _, _ => .ok none

/-- The year, the month and the day of the month. -/
def date (p : Parts) : Except Fault (Nat × Nat × Nat) :=
  match p.isoFault? with
  | some f => .error f
  | none => (p.numberedDay?.mapError .range).map fun
    | some (year, n) => dateOfDay year n
    | none => (p.countingYear, p.month, p.day)

/-- The offset behind a date, which must exist for that. -/
def offsetOn (p : Parts) (date : Nat × Nat × Nat) : Except Fault (Option Offset) :=
  match p.offset with
  | none => .ok none
  | some micros => do
    let _ ← (ofParts date.1 date.2.1 date.2.2 0 0 0 0).mapError .range
    some <$> (Offset.ofMicros micros).mapError .tooFar

/-- The moment that the numbers name. A missing year is 1900, also where days were counted in
another one for the sake of the leap day. -/
def toMoment (p : Parts) : Except Fault Moment := do
  let date ← p.date
  let offset ← p.offsetOn date
  let clock ← (ofParts (if p.onLeapDay then 1900 else date.1) date.2.1 date.2.2 p.hour p.minute
    p.second p.micro).mapError .range
  return ⟨clock, offset⟩

end Parts

/-- The moment that a text without blanks at its ends names by the given items. -/
def ofText (format : String) (items : List Format.Item) (cs : List Char) : Except Fault Moment :=
  match Format.layOut items cs with
  | none => .error (.mismatch format (String.ofList cs))
  | some (_, c :: rest) => .error (.leftOver (String.ofList (c :: rest)))
  | some (found, []) =>
    match found.foldlM (Parts.enter (isAfternoon found)) {} with
    | .error f => .error f
    | .ok p => p.toMoment

/-- A text that names no instant, and why. -/
structure Unreadable where
  /-- The text. -/
  text : String
  /-- Why it names no instant. -/
  fault : Fault
deriving DecidableEq, Repr

/-- The wording for a text that names no instant. -/
def Unreadable.message (u : Unreadable) : String :=
  s!"unparseable timestamp {Text.quoted u.text}: {u.fault.message}"

/-- The repetition in the format that makes the text unreadable, if that is why. -/
def Unreadable.repetition? (u : Unreadable) : Option Format.Repetition :=
  match u.fault with
  | .badFormat _ (.repeated r) => some r
  | _ => none

/-- The moment that a text names by a format, blanks at its ends aside. -/
def readMoment (format text : String) : Except Unreadable Moment :=
  match Format.read format with
  | .error f => .error ⟨text, .badFormat format f⟩
  | .ok items => (ofText format items (Text.strip text.toList)).mapError (⟨text, ·⟩)

/-- The instant that a text names by a format: what a clock shows at the moment. -/
def read (format text : String) : Except Unreadable Timestamp :=
  (readMoment format text).map Moment.clock

/-- The format that the logs use. -/
def logFormat : String := "%d.%m.%Y %H:%M:%S"

end Timestamp

end AccessLog
