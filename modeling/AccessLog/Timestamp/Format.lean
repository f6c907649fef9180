import AccessLog.Text.Blank

/-!
# Date formats

A date format is a text in which a percent sign and a letter stand for a part of the date or the
time of day, or for several of them in a fixed order, two percent signs for one, and a run of blanks
for any run of blanks. All other characters stand for themselves, letters in either case.
`Format.read` takes the text apart; it refuses a percent sign with an unknown letter, one at the
very end, and a part that is asked for twice.

Where a part is repeated is told by its position in the expanded format, in which every item is
replaced by the pattern of the texts that fit it.
-/

namespace AccessLog

/-- The parts of date and time that a format can ask for. -/
inductive Directive where
  /-- The day of the month. -/
  | day
  /-- The number of the month. -/
  | month
  /-- The year with four digits. -/
  | year
  /-- The year with two digits, from 1969 to 2068. -/
  | shortYear
  /-- The hour, from 0 to 23. -/
  | hour
  /-- The hour on the clock face, from 1 to 12. -/
  | clockHour
  /-- The minute. -/
  | minute
  /-- The second. -/
  | second
  /-- A decimal fraction of a second. -/
  | fraction
  /-- The number of the day in its year. -/
  | dayOfYear
  /-- The half of the day. -/
  | meridiem
  /-- The name of the month. -/
  | monthName
  /-- The first three letters of the name of the month. -/
  | shortMonthName
  /-- The name of the weekday. -/
  | weekdayName
  /-- The first three letters of the name of the weekday. -/
  | shortWeekdayName
  /-- The number of the weekday, from Sunday as 0. -/
  | weekday
  /-- The number of the weekday, from Monday as 1. -/
  | isoWeekday
  /-- The number of the week in its year, where weeks start on Sunday. -/
  | sundayWeek
  /-- The number of the week in its year, where weeks start on Monday. -/
  | mondayWeek
  /-- The year that a week from Monday on belongs to with more than half of its days. -/
  | isoYear
  /-- The number of the week in such a year. -/
  | isoWeek
  /-- The offset of the clock from universal time. -/
  | offset
  /-- The name of a time zone, which says nothing more. -/
  | zoneName
deriving DecidableEq, Repr

/-- The part that a letter behind a percent sign asks for. -/
def Directive.ofLetter? : Char → Option Directive
  | 'd' => some .day
  | 'm' => some .month
  | 'Y' => some .year
  | 'y' => some .shortYear
  | 'H' => some .hour
  | 'I' => some .clockHour
  | 'M' => some .minute
  | 'S' => some .second
  | 'f' => some .fraction
  | 'j' => some .dayOfYear
  | 'p' => some .meridiem
  | 'B' => some .monthName
  | 'b' => some .shortMonthName
  | 'A' => some .weekdayName
  | 'a' => some .shortWeekdayName
  | 'w' => some .weekday
  | 'u' => some .isoWeekday
  | 'U' => some .sundayWeek
  | 'W' => some .mondayWeek
  | 'G' => some .isoYear
  | 'V' => some .isoWeek
  | 'z' => some .offset
  | 'Z' => some .zoneName
  | _ => none

namespace Directive

/-- The letter that asks for a part. -/
def letter : Directive → Char
  | day => 'd'
  | month => 'm'
  | year => 'Y'
  | shortYear => 'y'
  | hour => 'H'
  | clockHour => 'I'
  | minute => 'M'
  | second => 'S'
  | fraction => 'f'
  | dayOfYear => 'j'
  | meridiem => 'p'
  | monthName => 'B'
  | shortMonthName => 'b'
  | weekdayName => 'A'
  | shortWeekdayName => 'a'
  | weekday => 'w'
  | isoWeekday => 'u'
  | sundayWeek => 'U'
  | mondayWeek => 'W'
  | isoYear => 'G'
  | isoWeek => 'V'
  | offset => 'z'
  | zoneName => 'Z'

/-- The length of the pattern of a part. -/
def extent : Directive → Nat
  | day => 41
  | month => 26
  | year => 15
  | shortYear => 11
  | hour => 24
  | clockHour => 26
  | minute => 17
  | second => 24
  | fraction => 17
  | dayOfYear => 71
  | meridiem => 12
  | monthName => 92
  | shortMonthName => 54
  | weekdayName => 63
  | shortWeekdayName => 34
  | weekday | isoWeekday => 12
  | sundayWeek | mondayWeek => 24
  | isoYear => 15
  | isoWeek => 31
  | offset => 56
  | zoneName => 14

/-- The number of groups in the pattern of a part. -/
def groups : Directive → Nat
  | offset => 3
  | _ => 1

end Directive

namespace Format

/-- One item of a format. -/
inductive Item where
  /-- A part of the date or the time of day. -/
  | part (d : Directive)
  /-- A character that stands for itself. -/
  | literal (c : Char)
  /-- A run of blanks. -/
  | gap
deriving DecidableEq, Repr

/-- Punctuation that has a meaning of its own in a pattern. -/
def special : List Char :=
  ['\\', '.', '^', '$', '*', '+', '?', '(', ')', '[', ']', '|', '\x7b', '\x7d']

/-- Three parts with a mark between each two. -/
def threeParts (mark : Char) (a b c : Directive) : List Item :=
  [.part a, .literal mark, .part b, .literal mark, .part c]

/-- The items that a letter behind a percent sign asks for: a part, the date, the time of day, or a
whole instant. -/
def Item.ofLetter? : Char → Option (List Item)
  | 'x' => some (threeParts '/' .month .day .shortYear)
  | 'X' => some (threeParts ':' .hour .minute .second)
  | 'c' =>
    some (.part .shortWeekdayName :: .gap :: .part .shortMonthName :: .gap :: .part .day :: .gap ::
      (threeParts ':' .hour .minute .second ++ [.gap, .part .year]))
  | c => (Directive.ofLetter? c).map fun d => [.part d]

/-- The length of the pattern of an item. Special punctuation has a sign before it. -/
def Item.extent : Item → Nat
  | .part d => d.extent
  | .literal c => if special.contains c then 2 else 1
  | .gap => 3

/-- A part that is asked for a second time. -/
structure Repetition where
  /-- The part. -/
  part : Directive
  /-- The number of its group, from one. -/
  number : Nat
  /-- The number of the group of the same part before. -/
  earlier : Nat
  /-- The position of its letter in the expanded format. -/
  position : Nat
deriving DecidableEq, Repr

/-- The number of characters before the letter in the pattern of a part. -/
def letterOffset : Nat := 4

/-- The number of the group that follows those of the given parts. -/
def nextGroup (seen : List Directive) : Nat := seen.foldl (fun n d => n + d.groups) 1

/-- The first repetition in some items, behind the given parts and the given number of characters.
-/
def repetitionFrom (seen : List Directive) (offset : Nat) : List Item → Option Repetition
  | [] => none
  | .part d :: items =>
    match seen.idxOf? d with
    | some i => some ⟨d, nextGroup seen, nextGroup (seen.take i), offset + letterOffset⟩
    | none => repetitionFrom (seen ++ [d]) (offset + d.extent) items
  | i :: items => repetitionFrom seen (offset + i.extent) items

/-- The first repetition in some items. -/
def repetition? (items : List Item) : Option Repetition := repetitionFrom [] 0 items

/-- The wording of a repetition. -/
def Repetition.message (r : Repetition) : String :=
  s!"redefinition of group name '{r.part.letter}' as group {r.number}; " ++
    s!"was group {r.earlier} at position {r.position}"

/-- Why a text is no format. -/
inductive Fault where
  /-- The letter behind a percent sign asks for nothing. -/
  | unknownLetter (c : Char)
  /-- A percent sign ends the text. -/
  | lonePercent
  /-- A part is asked for twice. -/
  | repeated (r : Repetition)
deriving DecidableEq, Repr

/-- The wording of a fault in the given format. A blank and special punctuation is reported as a
percent sign. -/
def Fault.message (format : String) : Fault → String
  | .unknownLetter c =>
    let shown := if Text.isBlank c || special.contains c then '%' else c
    s!"'{shown}' is a bad directive in format '{format}'"
  | .lonePercent => s!"stray % in format '{format}'"
  | .repeated r => r.message

/-- The items of a format; `inGap` says that the last item is a run of blanks that goes on. -/
def readFrom (inGap : Bool) : List Char → Except Fault (List Item)
  | [] => .ok []
  | ['%'] => .error .lonePercent
  | '%' :: '%' :: cs => (readFrom false cs).map (.literal '%' :: ·)
  | '%' :: c :: cs =>
    match Item.ofLetter? c with
    | none => .error (.unknownLetter c)
    | some items => (readFrom false cs).map (items ++ ·)
  | c :: cs =>
    if Text.isBlank c then
      if inGap then readFrom true cs else (readFrom true cs).map (.gap :: ·)
    else (readFrom false cs).map (.literal c :: ·)

/-- The items of a format. Repetitions are looked for last. -/
def read (format : String) : Except Fault (List Item) :=
  match readFrom false format.toList with
  | .error f => .error f
  | .ok items =>
    match repetition? items with
    | some r => .error (.repeated r)
    | none => .ok items

end Format

end AccessLog
