/-!
# Lines of a text

A line ends at a line feed, at a carriage return, or at the two together, and at nothing else: the
other characters that Unicode calls line separators are part of the line. Every line is given with
one line feed in place of its ending; only the last line of a text can lack an ending.
-/

namespace AccessLog.Text

/-- The lines of a text, each with a line feed for its ending. -/
def lines : List Char → List (List Char)
  | [] => []
  | '\r' :: '\n' :: cs => ['\n'] :: lines cs
  | '\r' :: cs => ['\n'] :: lines cs
  | '\n' :: cs => ['\n'] :: lines cs
  | c :: cs =>
    match lines cs with
    | [] => [[c]]
    | l :: ls => (c :: l) :: ls

end AccessLog.Text
