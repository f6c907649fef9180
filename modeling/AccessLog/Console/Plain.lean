/-!
# Plain text

What is printed as plain text holds no terminal sequences. A terminal sequence is an escape and an
opening bracket, any number of digits, semicolons and question marks, and an ASCII letter. An escape
that begins no such sequence stays where it is.
-/

namespace AccessLog.Console

/-- Whether the character may stand between the bracket and the letter of a terminal sequence. -/
def isParameter (c : Char) : Bool := c.isDigit || c == ';' || c == '?'

/-- The length of the terminal sequence that a text begins with, zero if there is none. -/
def sequenceLength : List Char → Nat
  | '\x1b' :: '[' :: cs =>
    match cs.dropWhile isParameter with
    | c :: _ => if c.isAlpha then (cs.takeWhile isParameter).length + 3 else 0
    | [] => 0
  | _ => 0

/-- The text without its terminal sequences. The number counts the characters of a sequence that are
still to be passed over. -/
def withoutSequencesFrom : Nat → List Char → List Char
  | _, [] => []
  | k + 1, _ :: cs => withoutSequencesFrom k cs
  | 0, c :: cs =>
    match sequenceLength (c :: cs) with
    | 0 => c :: withoutSequencesFrom 0 cs
    | k + 1 => withoutSequencesFrom k cs

/-- The text without its terminal sequences. -/
def withoutSequences (s : String) : String := String.ofList (withoutSequencesFrom 0 s.toList)

end AccessLog.Console
