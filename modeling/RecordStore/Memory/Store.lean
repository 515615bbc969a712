import RecordStore.Filter.Evaluation
import RecordStore.Filter.Validation
import RecordStore.Source
import RecordStore.Value.Sort

/-!
# The in-memory store

A `Store` holds the records of every table under row numbers, in the order of insertion.  A table
may have a declared key, which no two of its records may share, and a declared shape, which every
record that is read or written takes on.

* `Store.insert` uses up a row number even when the record is refused.
* `Store.update?` and `Store.delete?` change all the records that pass a filter, or none.
* `Store.checkpoint` and `Store.restore` keep and bring back the records and the last row number.
-/

namespace RecordStore

/-- A record under its row number.  A value that one update gave to several rows is one value, so
each field that an update has written keeps the number of that update. -/
structure StoredRow where
  number : Nat
  record : Record
  writers : Assoc Nat := []
  deriving Inhabited

/-- The rows of a table, in the order of insertion. -/
abbrev Rows := List StoredRow

/-- A value of a key, with the number of the update that wrote it, if one did. -/
structure KeyValue where
  value : Value
  writer : Option Nat
  deriving Inhabited

/-- Do two rows hold the same value, be it one value for both, or equal ones of one kind?  A value
that does not equal itself is the same only in the first way. -/
def KeyValue.same (a b : KeyValue) : Bool :=
  (a.writer.isSome && a.writer == b.writer) || a.value.isAmong [b.value]

namespace StoredRow

/-- The row with its record in another shape: a value that changes its kind is a new value. -/
def reshaped (row : StoredRow) (r : Record) : StoredRow :=
  let kept := fun (p : String × Nat) =>
    (r.valueOrNull p.1).kind == (row.record.valueOrNull p.1).kind
  { row with record := r, writers := row.writers.filter kept }

/-- The row once an update has overwritten values. -/
def overwritten (row : StoredRow) (update : Nat) (values : Assoc Value) : StoredRow :=
  { row with
    record := row.record.replace values
    writers := row.writers.merge (values.mapValues fun _ => update) }

/-- The values under the names of a key. -/
def keyValues (key : List String) (row : StoredRow) : List KeyValue :=
  key.map fun name => ⟨row.record.valueOrNull name, row.writers.lookup name⟩

/-- The greatest number of an update that has written a field of the row. -/
def lastUpdate (row : StoredRow) : Nat := row.writers.foldl (fun n p => max n p.2) 0

end StoredRow

/-- A number that no update has which wrote a value of these rows. -/
def Rows.nextUpdate (rows : Rows) : Nat := rows.foldl (fun n row => max n row.lastUpdate) 0 + 1

/-- The tables, with what is declared of them. -/
structure Store where
  tables : Assoc Rows := []
  keys : Assoc (List String) := []
  shapes : Assoc Shape := []
  lastRow : Nat := 0
  deriving Inhabited

/-- The records of every table and the last row number. -/
structure Checkpoint where
  tables : Assoc Rows
  lastRow : Nat
  deriving Inhabited

namespace Store

/-- The records of a table. -/
def rowsOf (s : Store) (table : String) : Rows := (s.tables.lookup table).getD []

/-- The declared shape of a table. -/
def shape? (s : Store) (table : String) : Option Shape := s.shapes.lookup table

/-- Declares the key of a table, unless it is empty. -/
def declareKey (s : Store) (table : String) (key : List String) : Store :=
  if key.isEmpty then s else { s with keys := s.keys.insert table key }

/-- Declares the shape of a table, unless it is empty. -/
def declareShape (s : Store) (table : String) (fields : Shape) : Store :=
  if fields.isEmpty then s else { s with shapes := s.shapes.insert table fields }

/-- Declares what a source says of its table. -/
def declare (s : Store) (src : Source) : Store :=
  (s.declareKey src.table src.key).declareShape src.table src.fields

/-- What is kept for a later return. -/
def checkpoint (s : Store) : Checkpoint := ⟨s.tables, s.lastRow⟩

/-- Returns to what was kept; declarations stay. -/
def restore (s : Store) (c : Checkpoint) : Store :=
  { s with tables := c.tables, lastRow := c.lastRow }

/-- Tells a fault of type as a mismatch of rows and shape. -/
def mismatch (table : String) (why : String → SerializationFault) (f : Fault) : Fault :=
  if f.isFilterType then .serialization table (why f.message) (some f) else f

/-- A record in the given shape; an empty shape asks for nothing. -/
def conformTo? (table : String) (fields : Shape) (r : Record) : Outcome Record :=
  if fields.isEmpty then pure r
  else (r.conform? fields).mapError (mismatch table .rowMismatch)

/-- A record in the declared shape of a table. -/
def conform? (s : Store) (table : String) (r : Record) : Outcome Record :=
  conformTo? table ((s.shape? table).getD []) r

/-- The records of a table in the given shape, or in the declared one where none is given. -/
def records? (s : Store) (table : String) (fields : Shape) : Outcome (List Record) :=
  let shape := if fields.isEmpty then (s.shape? table).getD [] else fields
  (s.rowsOf table).mapM fun row => conformTo? table shape row.record

/-- The records of every table. -/
def snapshot? (s : Store) : Outcome Snapshot :=
  s.tables.mapM fun p => do return (p.1, ← s.records? p.1 [])

/-- The text of a key and its values in messages. -/
def showKey (key : List String) (vs : List KeyValue) : String :=
  braced ((Assoc.ofPairs (key.zip vs)).map fun p => Text.quoted p.1 ++ ": " ++ p.2.value.shown)

/-- The fault of a key. -/
def keyFault (table : String) (detail : String) : Fault :=
  .constraint (table ++ "_pkey") detail none

/-- Do two rows hold the same values under the names of a key? -/
def sameKey (vs ws : List KeyValue) : Bool :=
  vs.length == ws.length && (vs.zip ws).all fun p => p.1.same p.2

/-- The key of a row, which must be complete and not among those seen before. -/
def newKey? (table : String) (key : List String) (seen : List (List KeyValue)) (row : StoredRow) :
    Outcome (List KeyValue) :=
  let vs := row.keyValues key
  if vs.any (·.value.isNull) then
    throw (keyFault table ("key field is null in " ++ showKey key vs))
  else if !vs.all (·.value.isHashable) then throw .wrongType
  else if seen.any (sameKey vs) then throw (keyFault table ("duplicate key " ++ showKey key vs))
  else pure vs

/-- A row with its record in the declared shape of the table. -/
def conformRow? (s : Store) (table : String) (row : StoredRow) : Outcome StoredRow := do
  return row.reshaped (← s.conform? table row.record)

/-- Fails at the first row, in the declared shape, whose key is not complete or was seen
before. -/
def checkKeys? (s : Store) (table : String) (key : List String) (seen : List (List KeyValue)) :
    Rows → Outcome Unit
  | [] => pure ()
  | row :: rest => do
    let vs ← newKey? table key seen (← s.conformRow? table row)
    checkKeys? s table key (seen ++ [vs]) rest

/-- Fails unless the rows of a table have different and complete keys. -/
def checkUnique? (s : Store) (table : String) (rows : Rows) : Outcome Unit :=
  match s.keys.lookup table with
  | none => pure ()
  | some key => s.checkKeys? table key [] rows

/-- The store with other records in a table. -/
def setRows (s : Store) (table : String) (rows : Rows) : Store :=
  { s with tables := s.tables.insert table rows }

/-- The rows of a table once a record is appended. -/
def appended? (s : Store) (table : String) (r : Record) : Outcome Rows := do
  let rows := s.rowsOf table ++ [⟨s.lastRow, ← s.conform? table r, []⟩]
  s.checkUnique? table rows
  return rows

/-- Appends a record under the next row number. -/
def insert (s : Store) (table : String) (r : Record) : Store × Outcome Unit :=
  let s := { s with lastRow := s.lastRow + 1 }
  match s.appended? table r with
  | .ok rows => (s.setRows table rows, .ok ())
  | .error f => (s, .error f)

/-- Overwrites values, under the number of the update, in the rows that pass the filter; gives the
rows and how many changed. -/
def overwrite? (s : Store) (table : String) (f : Filter) (update : Nat) (values : Assoc Value) :
    Rows → Outcome (Rows × Nat)
  | [] => pure ([], 0)
  | row :: rest => do
    let current ← s.conformRow? table row
    let passes ← f.matches? current.record
    let (rows, changed) ← overwrite? s table f update values rest
    if passes then return (current.overwritten update values :: rows, changed + 1)
    else return (row :: rows, changed)

/-- Overwrites values in every record that passes the filter; tells how many there are. -/
def update? (s : Store) (table : String) (f : Filter) (values : Assoc Value) :
    Outcome (Store × Nat) := do
  let replacement ← s.conform? table { values }
  let rows := s.rowsOf table
  let (rows, changed) ← s.overwrite? table f rows.nextUpdate replacement.values rows
  if changed = 0 then return (s, 0)
  s.checkUnique? table rows
  return (s.setRows table rows, changed)

/-- The rows that do not pass the filter. -/
def keep? (s : Store) (table : String) (f : Filter) : Rows → Outcome Rows
  | [] => pure []
  | row :: rest => do
    let passes ← f.matches? (← s.conform? table row.record)
    let rows ← keep? s table f rest
    return if passes then rows else row :: rows

/-- Removes every record that passes the filter; tells how many there are. -/
def delete? (s : Store) (table : String) (f : Filter) : Outcome (Store × Nat) := do
  let rows := s.rowsOf table
  let kept ← s.keep? table f rows
  let removed := rows.length - kept.length
  return (if removed = 0 then s else s.setRows table kept, removed)

/-- The text of the store in messages: how many records every table has. -/
def shown (s : Store) : String :=
  "MemoryStore(" ++ commaSeparated (s.tables.map fun p => p.1 ++ "=" ++ toString p.2.length) ++ ")"

/-- The records that a source gives, out of its view where it has one. -/
def sourceRecords? (s : Store) (src : Source) : Outcome (List Record) :=
  match src.view? with
  | none => s.records? src.table src.fields
  | some view =>
    Except.mapError (mismatch src.table .viewMismatch) do
      (← view (← s.snapshot?)).mapM fun row => Record.ofRow? row src.fields

end Store

end RecordStore
