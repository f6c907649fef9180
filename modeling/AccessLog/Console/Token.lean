import AccessLog.Text.Blank
import AccessLog.Text.DecimalDigit

/-!
# Tokens of a typed date

A typed date is cut into numbers, words and marks. A word is a run of ASCII letters and a number is
a run of decimal digits of any script, perhaps with one full stop among them; where two characters
of it stand before, a comma counts as the full stop. Digits with more stops than that, or with one
at the end, are several numbers with marks between them. Every other character is a mark by itself,
and a blank is a space.

Some tokens only stand between others: fillers are the space, a few marks of punctuation and a few
words.
-/

namespace AccessLog.Console

/-- A number, a word or a mark. -/
inductive Token where
  /-- Decimal digits, with a full stop among them or without. -/
  | number (text : List Char)
  /-- Letters. -/
  | word (text : List Char)
  /-- Any other character. -/
  | mark (c : Char)
deriving DecidableEq, Repr

namespace Token

/-- Whether the character is a decimal digit of some script. -/
def isDigit (c : Char) : Bool := (Text.digit? c).isSome

/-- Whether the character may stand between the digits of a number. -/
def isStop (c : Char) : Bool := c == '.' || c == ','

/-- A number, or nothing if it has no digits. -/
def ofDigits (cs : List Char) : List Token := if cs.isEmpty then [] else [number cs]

/-- The numbers and marks of a text that is cut at every stop, where some digits stand before it. -/
def cut (digits : List Char) : List Char → List Token
  | [] => ofDigits digits
  | c :: cs =>
    if isStop c then ofDigits digits ++ mark c :: cut [] cs else cut (digits ++ [c]) cs

/-- The tokens of a run of digits and stops that begins with a digit. A run with a comma and a full
stop that cannot be cut is no number, and counts as a word. -/
def ofRun (run : List Char) : List Token :=
  if 1 < run.count '.' || run.getLast?.any isStop then cut [] run
  else if !run.contains ',' then [number run]
  else if run.contains '.' then [word run]
  else [number (run.map fun c => if c = ',' then '.' else c)]

/-- What the last characters that were read may be part of. -/
inductive Run where
  /-- Nothing that goes on. -/
  | none
  /-- A word. -/
  | letters (text : List Char)
  /-- Digits and stops. -/
  | digits (text : List Char)
deriving DecidableEq, Repr

namespace Run

/-- The tokens of a run that ends here. -/
def tokens : Run → List Token
  | none => []
  | letters cs => [word cs]
  | digits cs => ofRun cs

/-- The run with one more character, if the character can be part of it. A comma can only be the
first stop, behind two digits. -/
def extend? : Run → Char → Option Run
  | none, _ => .none
  | letters cs, c => if c.isAlpha then some (letters (cs ++ [c])) else .none
  | digits cs, c =>
    let commaFits := c == ',' && 2 ≤ cs.length && !cs.any isStop
    if isDigit c || c == '.' || commaFits then some (digits (cs ++ [c])) else .none

/-- The token that a character is by itself, if it begins no run, and the run that it begins. -/
def start (c : Char) : List Token × Run :=
  if c.isAlpha then ([], letters [c])
  else if isDigit c then ([], digits [c])
  else ([mark (if Text.isBlank c then ' ' else c)], none)

end Run

/-- The tokens of a text that follows a run. -/
def tokensFrom : Run → List Char → List Token
  | r, [] => r.tokens
  | r, c :: cs =>
    match r.extend? c with
    | some longer => tokensFrom longer cs
    | none => r.tokens ++ (Run.start c).1 ++ tokensFrom (Run.start c).2 cs

/-- The tokens of a text. -/
def ofText (cs : List Char) : List Token := tokensFrom .none cs

/-- The marks that only stand between other tokens. -/
def fillerMarks : List Char := [' ', '.', ',', ';', '-', '/', '\'']

/-- The words that only stand between other tokens, in lower case. -/
def fillerWords : List String :=
  ["at", "on", "and", "ad", "m", "t", "of", "st", "nd", "rd", "th"]

/-- Whether a token only stands between others. -/
def isFiller : Token → Bool
  | number _ => false
  | word cs => fillerWords.contains (String.ofList (cs.map Char.toLower))
  | mark c => fillerMarks.contains c

end Token

end AccessLog.Console
