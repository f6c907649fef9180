/-!
# Tables

A table has a title, columns with headings, and rows of cells. How it is drawn is not said here.
-/

namespace AccessLog

/-- The side of a column at which its cells stand. -/
inductive Side where
  /-- The left. -/
  | left
  /-- The right. -/
  | right
deriving DecidableEq, Repr

/-- A column. -/
structure Column where
  /-- The heading. -/
  heading : String
  /-- Where the heading and the cells stand. -/
  side : Side := .left
deriving DecidableEq, Repr

/-- A table. -/
structure Table where
  /-- The title. -/
  title : String
  /-- The columns. -/
  columns : List Column
  /-- The rows, each with a cell for every column. -/
  rows : List (List String)
deriving DecidableEq, Repr

end AccessLog
