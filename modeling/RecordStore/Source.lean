import RecordStore.Record

/-!
# Sources

Where the rows of an entity come from: a table with its declared shape and natural key, or a read
statement of its own for entities that span several tables.  A read statement has a form in SQL, a
`View` over a snapshot of the in-memory store, or both.
-/

namespace RecordStore

/-- The records of every table, in the order in which the tables were first written. -/
abbrev Snapshot := Assoc (List Record)

/-- A function of the snapshot that gives rows. -/
abbrev View := Snapshot → Outcome (List Row)

/-- A way to read that is not just the table. -/
structure ReadStatement where
  sql : Option String := none
  view : Option View := none

/-- Everything that a backend needs to know about the storage of an entity. -/
structure Source where
  table : String
  fields : Shape
  key : List String := []
  read : Option ReadStatement := none

/-- The SQL of the read statement, where there is any text. -/
def Source.sql? (s : Source) : Option String :=
  (s.read.bind ReadStatement.sql).filter (!·.isEmpty)

/-- The view of the read statement. -/
def Source.view? (s : Source) : Option View := s.read.bind ReadStatement.view

namespace View

/-- Always the same rows. -/
def rows (rs : List Row) : View := fun _ => pure rs

/-- Always a fault. -/
def failing (f : Fault) : View := fun _ => throw f

/-- The records of a table; none for a table that is not there. -/
def recordsOf (s : Snapshot) (table : String) : List Record := (s.lookup table).getD []

/-- The rows of a table without some of its columns. -/
def table (name : String) (omitted : List String) : View := fun s =>
  pure ((recordsOf s name).map fun r =>
    (Assoc.ofPairs r.items).filter fun p => !omitted.contains p.1)

/-- The rows of a base table, each with one more column: the list of the values of a column of
those rows of another table that refer to it. -/
structure Join where
  base : String
  child : String
  baseKey : String
  childKey : String
  collect : String
  column : String
  deriving Inhabited

/-- Has a child the key of a base row?  Where both are one row and the columns are one, the value is
compared with itself. -/
def Join.refers? (j : Join) (row child : Record × Nat) : Outcome Bool := do
  let here ← child.1.get? j.childKey
  let there ← row.1.get? j.baseKey
  if j.base = j.child ∧ row.2 = child.2 ∧ j.baseKey = j.childKey then here.sameAsItself?
  else here.same? there

/-- The values that the children of a row contribute. -/
def Join.collected? (j : Join) (row : Record × Nat) : List (Record × Nat) → Outcome (List Datum)
  | [] => pure []
  | c :: cs => do
    if ← j.refers? row c then
      let d ← c.1.get? j.collect
      return d :: (← collected? j row cs)
    else collected? j row cs

/-- The joined rows. -/
def join (j : Join) : View := fun s =>
  let children := (recordsOf s j.child).zipIdx
  (recordsOf s j.base).zipIdx.mapM fun r => do
    let ds ← j.collected? r children
    return (Assoc.ofPairs r.1.items).insert j.column (.list ds)

end View

end RecordStore
