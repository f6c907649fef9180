import AccessLog.Text.Blank
import AccessLog.Console.Width

/-!
# Text fitted into a column

A text that is wider than its column is broken into lines between its words. A word goes on the line
if it fits there without the blanks behind it, and begins a new line otherwise; the blanks stay with
the word before them. Of the blanks at the end of a line that has more characters than the column
has places, as many are dropped as there are characters too many. What is too wide even so, such as
a single long word, is cut off, with an ellipsis in the last place.
-/

namespace AccessLog.Console

open Text (allBlank dropTrailing isBlank)

/-- The words of a text, each with the blanks behind it and the first with those before it, where
some characters of the first stand before the text. -/
def wordsFrom (word : List Char) : List Char → List (List Char)
  | [] => if allBlank word then [] else [word]
  | c :: cs =>
    if !isBlank c && word.getLast?.any isBlank && !allBlank word then word :: wordsFrom [c] cs
    else wordsFrom (word ++ [c]) cs

/-- The lines of some words, the first of which is begun already and takes up some columns. -/
def breakFrom (limit : Nat) (line : List Char) (used : Nat) :
    List (List Char) → List (List Char)
  | [] => [line]
  | word :: words =>
    if used + columns (dropTrailing isBlank word) ≤ limit then
      breakFrom limit (line ++ word) (used + columns word) words
    else if line.isEmpty then breakFrom limit word (columns word) words
    else line :: breakFrom limit word (columns word) words

/-- A line without as many blanks at its end as it has characters too many. -/
def trimTo (limit : Nat) (line : List Char) : List Char :=
  let blanks := line.length - (dropTrailing isBlank line).length
  line.take (line.length - min blanks (line.length - limit))

/-- The lines into which a text is broken; a blank text is one line. -/
def brokenLines (limit : Nat) (cs : List Char) : List (List Char) :=
  let lines := match wordsFrom [] cs with
    | [] => [cs]
    | words => breakFrom limit [] 0 words
  lines.map (trimTo limit)

/-- The start of a line that takes up the given number of columns, sought between two positions by
halving: the line is cut in the middle, and where that is too much or too little the search goes on
in the half before or behind. Half of a wide character becomes a space. Several starts take up the
same columns if they differ by characters without a width; the first one that is met is taken. -/
def startOf (limit : Nat) (line : List Char) (low high : Nat) : List Char :=
  let middle := (low + high) / 2
  let start := line.take (middle + 1)
  let used := columns start
  if used = limit + 1 ∧ start.getLast?.any (charWidth · == 2) = true then start.dropLast ++ [' ']
  else if limit < used ∧ middle < high then startOf limit line low middle
  else if used < limit ∧ low < middle then startOf limit line middle high
  else start
termination_by high - low

/-- The sign that something is cut off. -/
def ellipsis : Char := '…'

/-- A line that is cut off where it is too wide. -/
def cutTo (limit : Nat) (line : List Char) : List Char :=
  if columns line ≤ limit then line
  else startOf (limit - 1) line 0 line.length ++ [ellipsis]

end AccessLog.Console
