import AccessLog.Record

/-!
# Readings of a query text

A query text asks for a field, may restrict it to records that hold a value in a field, and may
restrict it to a time window:

    get FIELD
    get FIELD for FIELD = "VALUE"
    get FIELD and date between "DATE" and "DATE"
    get FIELD for FIELD = "VALUE" and date between "DATE" and "DATE"

A reading is one way of writing a text in this form. The quoted parts may hold anything but a line
feed, quotes and whole clauses included, so a text can have several readings. `Reading.ofText?`
takes the one with the shortest value, and among those the one with the shortest first date.
`Reading.text` writes a reading out.
-/

namespace AccessLog

/-- The fields that a query text can name. -/
def Field.queryable : List Field := [.ip, .user, .date, .event, .status]

/-- The dates of a window clause, as texts. -/
structure WindowClause where
  /-- The date that the window begins behind. -/
  after : List Char
  /-- The date that the window ends before. -/
  before : List Char
deriving DecidableEq, Repr

/-- A restriction to the records that hold a value in a field. -/
structure ValueClause where
  /-- The field. -/
  field : Field
  /-- The value, as a text. -/
  value : List Char
deriving DecidableEq, Repr

/-- One way of writing a query text. -/
structure Reading where
  /-- The field that is asked for. -/
  target : Field
  /-- The restriction to a value, if there is one. -/
  value : Option ValueClause
  /-- The restriction to a window, if there is one. -/
  window : Option WindowClause
deriving DecidableEq, Repr

/-! ## Writing -/

namespace Reading

/-- The words at the start of a query. -/
def getWord : List Char := "get ".toList

/-- The words before the field of a value clause. -/
def forWord : List Char := " for ".toList

/-- The words between the field and the value of a value clause. -/
def equalsWord : List Char := " = \"".toList

/-- The words before the first date of a window clause. -/
def betweenWord : List Char := " and date between \"".toList

/-- The words between the dates of a window clause, behind the quote that ends the first. -/
def andWord : List Char := " and \"".toList

end Reading

/-- The text of a window clause. -/
def WindowClause.text (w : WindowClause) : List Char :=
  Reading.betweenWord ++ (w.after ++ '"' :: (Reading.andWord ++ (w.before ++ ['"'])))

/-- The text of a value clause. -/
def ValueClause.text (v : ValueClause) : List Char :=
  Reading.forWord ++ (v.field.key.toList ++ (Reading.equalsWord ++ (v.value ++ ['"'])))

/-- The text of a clause that may be missing. -/
def clauseText {α : Type} (text : α → List Char) : Option α → List Char
  | none => []
  | some a => text a

/-- The text of a reading. -/
def Reading.text (r : Reading) : List Char :=
  getWord ++ (r.target.key.toList ++
    (clauseText ValueClause.text r.value ++ clauseText WindowClause.text r.window))

/-! ## Reading -/

namespace Reading

/-- The rest of a text behind a word that it starts with. -/
def behind? (word cs : List Char) : Option (List Char) :=
  if word.isPrefixOf cs then some (cs.drop word.length) else none

/-- The first field whose key the text starts with, and the rest. -/
def field? (cs : List Char) : Option (Field × List Char) :=
  Field.queryable.findSome? fun f => (behind? f.key.toList cs).map (f, ·)

/-- The shortest start of a text that holds no line feed and is followed by a quote and by something
that can be read, and what is read there. -/
def shortest? {α : Type} (rest : List Char → Option α) : List Char → Option (List Char × α)
  | [] => none
  | c :: cs =>
    match if c = '"' then rest cs else none with
    | some a => some ([], a)
    | none =>
      if c = '\n' then none else (shortest? rest cs).map fun found => (c :: found.1, found.2)

/-- Reads the empty text. -/
def atEnd? : List Char → Option Unit
  | [] => some ()
  | _ :: _ => none

/-- Reads a window clause. -/
def windowClause? (cs : List Char) : Option WindowClause := do
  let cs ← behind? betweenWord cs
  let (after, before, _) ← shortest? (fun cs => do shortest? atEnd? (← behind? andWord cs)) cs
  return ⟨after, before⟩

/-- Reads a window clause that may be missing. -/
def tail? : List Char → Option (Option WindowClause)
  | [] => some none
  | cs => (windowClause? cs).map some

/-- Reads a value clause and a window clause that may be missing. -/
def valueClause? (cs : List Char) : Option (ValueClause × Option WindowClause) := do
  let cs ← behind? forWord cs
  let (field, cs) ← field? cs
  let cs ← behind? equalsWord cs
  let (value, window) ← shortest? tail? cs
  return (⟨field, value⟩, window)

/-- Reads a query text. -/
def ofText? (cs : List Char) : Option Reading := do
  let cs ← behind? getWord cs
  let (target, cs) ← field? cs
  match valueClause? cs with
  | some (value, window) => return ⟨target, some value, window⟩
  | none => return ⟨target, none, ← tail? cs⟩

end Reading

end AccessLog
