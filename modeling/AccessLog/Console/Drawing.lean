import AccessLog.Console.Fitting
import AccessLog.Table

/-!
# Drawn tables

A table is drawn with lines of box characters: heavy ones around the headings, light ones around the
rows. A column is as wide as its widest cell or its heading, with one space on either side; where
that makes the table too wide, the widest columns are narrowed, and a cell that does not fit takes
up several lines. The title stands over the table, cut at spaces into lines that fit its width, and
each of these lines is centred; where the space on both sides cannot be equal, there is more on the
right.

Cells are drawn as they are: an opening bracket or a colon in them begins no markup.
-/

namespace AccessLog.Console

open Text (dropTrailing isBlank)

/-- A text of some spaces. -/
def spaces (n : Nat) : String := String.ofList (List.replicate n ' ')

/-- A text filled up with spaces to a width. -/
def padTo (width : Nat) (side : Side) (text : String) : String :=
  let gap := spaces (width - textWidth text)
  match side with
  | .left => text ++ gap
  | .right => gap ++ text

/-- A text with spaces on both sides of it, as equal as possible and the greater part on the right.
-/
def centre (width : Nat) (text : String) : String :=
  let free := width - textWidth text
  spaces (free / 2) ++ text ++ spaces (free - free / 2)

/-- Lines of words, with one space between words, that are filled one after the other. A line is
begun already. -/
def fillFrom (width : Nat) (line : String) : List String → List String
  | [] => [line]
  | w :: ws =>
    let longer := line ++ " " ++ w
    if textWidth longer ≤ width then fillFrom width longer ws else line :: fillFrom width w ws

/-- The words of a text in lines that are filled one after the other. -/
def fill (width : Nat) (text : String) : List String :=
  match text.splitOn " " with
  | [] => []
  | w :: ws => fillFrom width w ws

/-- The widths that the columns have if there is room enough. -/
def naturalWidths (t : Table) : List Nat :=
  (t.columns.zipIdx).map fun c =>
    (t.rows.map fun r => textWidth (r.getD c.2 "")).foldl max (textWidth c.1.heading)

/-- The greatest width of a table. -/
def maxWidth : Nat := 80

/-- The width of a table whose columns have the given widths. -/
def wholeWidth (ws : List Nat) : Nat := ws.foldl (fun n w => n + w + 3) 1

/-- The widths with all of them bounded by the greatest number that lets the table fit. -/
def narrowed (ws : List Nat) : List Nat :=
  let bounds := (List.range (maxWidth + 1)).reverse
  match bounds.find? fun b => wholeWidth (ws.map (min b)) ≤ maxWidth with
  | some b => ws.map (min b)
  | none => ws

/-- The widths of the columns. -/
def widths (t : Table) : List Nat :=
  let ws := naturalWidths t
  if wholeWidth ws ≤ maxWidth then ws else narrowed ws

/-- The characters that a line of a table is drawn with. -/
structure Pen where
  /-- At the left end. -/
  left : String
  /-- Under or over a cell, and beside it. -/
  fill : Char
  /-- Between two cells. -/
  between : String
  /-- At the right end. -/
  right : String
deriving DecidableEq, Repr

/-- A line between rows. -/
def rule (p : Pen) (ws : List Nat) : String :=
  p.left ++ p.between.intercalate (ws.map fun w => String.ofList (List.replicate (w + 2) p.fill)) ++
    p.right

/-- The lines of a cell, each as wide as its column. A line at the right has no blanks at its end.
-/
def cellLines (c : Column) (width : Nat) (cell : String) : List String :=
  (brokenLines width cell.toList).map fun line =>
    let line := match c.side with
      | .left => line
      | .right => dropTrailing isBlank line
    padTo width c.side (String.ofList (cutTo width line))

/-- A line across the cells of a row. -/
def across (bar : String) (parts : List String) : String :=
  bar ++ bar.intercalate (parts.map fun p => " " ++ p ++ " ") ++ bar

/-- The lines of a row of cells. Below the last line of a cell there is blank space. -/
def row (bar : String) (columns : List Column) (ws : List Nat) (cells : List String) :
    List String :=
  let drawn := (columns.zip (ws.zip cells)).map fun c => (c.2.1, cellLines c.1 c.2.1 c.2.2)
  let height := (drawn.map fun c => c.2.length).foldl max 0
  (List.range height).map fun i => across bar (drawn.map fun c => c.2.getD i (spaces c.1))

/-- The lines of a table. -/
def drawnLines (t : Table) : List String :=
  let ws := widths t
  let whole := wholeWidth ws
  (fill whole t.title).map (centre whole) ++
    rule ⟨"┏", '━', "┳", "┓"⟩ ws ::
      (row "┃" t.columns ws (t.columns.map Column.heading) ++
        rule ⟨"┡", '━', "╇", "┩"⟩ ws ::
          (t.rows.flatMap (row "│" t.columns ws) ++ [rule ⟨"└", '─', "┴", "┘"⟩ ws]))

end AccessLog.Console
