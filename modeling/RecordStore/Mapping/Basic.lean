import RecordStore.Record

/-!
# Entity mappings

A mapping is a pair of functions between the entities of one type and their records, together
with the shape of these records: every field with the kind of value that is stored under it.

* `EntityMapping.toRecord?` accepts what dumping gives only if it has exactly the declared fields
  and every value takes its field's kind.
* `EntityMapping.fromRecord?` rebuilds an entity.
-/

namespace RecordStore

/-- The two ways between entities and records of a shape that declares some field. -/
structure EntityMapping (α : Type) where
  fields : Shape
  name : String
  dump : α → Outcome Row
  load : Record → Outcome α
  declares : fields ≠ []

namespace EntityMapping

variable {α : Type}

/-- A mapping of the given shape, which must not be empty. -/
def make? (fields : Shape) (name : String) (dump : α → Outcome Row)
    (load : Record → Outcome α) : Outcome (EntityMapping α) :=
  if h : fields = [] then throw (.argument .emptyShape)
  else pure ⟨fields, name, dump, load, h⟩

/-- A fault between entities of this type and their records. -/
def fault (m : EntityMapping α) (why : SerializationFault) (cause : Option Fault) : Fault :=
  .serialization m.name why cause

/-- What dumping gives; a fault of dumping is told with its cause. -/
def dumped? (m : EntityMapping α) (entity : α) : Outcome Row :=
  match m.dump entity with
  | .ok row => pure row
  | .error f => throw (if f.isOrdinary then m.fault (.dumpFailed f.message) (some f) else f)

/-- The declared fields that a row lacks. -/
def missing (m : EntityMapping α) (row : Row) : List String :=
  m.fields.keys.filter fun n => !row.has n

/-- The columns of a row that are not declared. -/
def extra (m : EntityMapping α) (row : Row) : List String :=
  row.keys.filter fun n => !m.fields.has n

/-- Fails unless the row has exactly the declared fields. -/
def checkShape? (m : EntityMapping α) (row : Row) : Outcome Unit :=
  if (m.missing row).isEmpty && (m.extra row).isEmpty then pure ()
  else throw (m.fault (.shape (m.missing row) (m.extra row)) none)

/-- The value of one field in its declared kind. -/
def field? (m : EntityMapping α) (row : Row) (name : String) (kind : Kind) : Outcome Value :=
  match (do (← Value.of? ((row.lookup name).getD .null)).coerce? kind) with
  | .ok v => pure v
  | .error f => throw (if f.isFilterType then m.fault (.field name f.message) (some f) else f)

/-- The record of an entity. -/
def toRecord? (m : EntityMapping α) (entity : α) : Outcome Record := do
  let row ← m.dumped? entity
  m.checkShape? row
  return { values := ← m.fields.mapM fun p => do return (p.1, ← m.field? row p.1 p.2) }

/-- Is the fault one between an entity and its record? -/
def isSerialization : Fault → Bool
  | .serialization .. => true
  | _ => false

/-- The entity of a record; a fault of loading is told with its cause, unless it is one between
an entity and its record already. -/
def fromRecord? (m : EntityMapping α) (r : Record) : Outcome α :=
  match m.load r with
  | .ok a => pure a
  | .error f =>
    if isSerialization f || !f.isOrdinary then throw f
    else throw (m.fault (.loadFailed f.message) (some f))

/-- The text of a mapping in messages. -/
def shown (m : EntityMapping α) : String :=
  "EntityMapping(" ++ m.name ++ ", fields=" ++ showNames m.fields.keys ++ ")"

end EntityMapping

end RecordStore
