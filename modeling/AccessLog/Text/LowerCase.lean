import AccessLog.Text.LetterCase

/-!
# Lower-casing

The full lower-case mapping of a text. Two characters do not map one to one: the capital I with a
dot becomes an i followed by a combining dot, and a capital sigma becomes the final form where it
ends a word, that is, where the nearest character before it that is not ignorable has a case and the
nearest one behind it has none.

File names and the extension that is looked for are compared after this mapping.
-/

namespace AccessLog.Text

/-- Whether the first character that is not ignorable, if there is one, is a letter with a case. -/
def nextIsCased (cs : List Char) : Bool :=
  match cs.dropWhile caseIgnorable.contains with
  | [] => false
  | c :: _ => casedLetters.contains c

/-- The lower-case form of a text whose characters `before` (nearest first) precede it. -/
def lowerFrom (before : List Char) : List Char → List Char
  | [] => []
  | c :: cs =>
    let form :=
      if c = 'Σ' then if nextIsCased before && !nextIsCased cs then ['ς'] else ['σ']
      else if c = 'İ' then ['i', '\u0307']
      else [lowerChar c]
    form ++ lowerFrom (c :: before) cs

/-- The lower-case form of a text. -/
def lower (s : String) : String := String.ofList (lowerFrom [] s.toList)

end AccessLog.Text
