import RecordStore.Backend
import RecordStore.Mapping.Basic

/-!
# Repositories

A repository stores the entities of one type in a table.  It checks filters and queries against
the shape of the table before any backend is called, turns entities into records and back, and
makes the writes that its hooks ask for in the same transaction as the primary write.

Every verb takes the handle to work with; where there is none, it fails.
-/

namespace RecordStore

/-- What is to be written after a primary write. -/
structure Hooks (α : Type) where
  afterAdd : Option (α → Outcome (List WriteStatement)) := none
  afterUpdate : Option (α → Outcome (List WriteStatement)) := none
  afterDelete : Option (Filter → Outcome (List WriteStatement)) := none

/-- The entities of one type in a table. -/
structure Repository (α : Type) where
  table : String
  mapping : EntityMapping α
  key : List String := []
  read : Option ReadStatement := none
  hooks : Hooks α := {}

namespace Repository

variable {α : Type}

/-- The names that the mapping does not declare. -/
def undeclared (m : EntityMapping α) (key : List String) : List String :=
  key.filter fun n => !m.fields.has n

/-- A repository with a table and a key that the mapping declares. -/
def make? (r : Repository α) : Outcome (Repository α) :=
  if r.table.isEmpty then throw (.argument .emptyTable)
  else if (undeclared r.mapping r.key).isEmpty then pure r
  else throw (.argument (.undeclaredKey (undeclared r.mapping r.key)))

/-- Where the records of the repository come from. -/
def source (r : Repository α) : Source := ⟨r.table, r.mapping.fields, r.key, r.read⟩

/-- The text of a repository in messages. -/
def shown (r : Repository α) : String :=
  "Repository(" ++ Text.quoted r.table ++ ", " ++ r.mapping.shown ++ ")"

variable {β ε η : Type} [Backend β η]

/-- The handle, which must be there. -/
def requireHandle (db : Option η) (operation : String) : Action (β × ε) η :=
  match db with
  | some h => pure h
  | none => throw (.usage (.missingHandle operation))

/-- The filter with its operands in the kinds of their fields. -/
def validate? (r : Repository α) (f : Filter) : Outcome Filter := f.validate? r.source.fields

/-- Does work in the transaction of the handle, or in one of its own. -/
def atomically {γ : Type} (db : η) (work : η → Action (β × ε) γ) : Action (β × ε) γ := do
  if ← Backend.inTransaction db then work db else Backend.transaction db work

/-- Makes a primary write and then the writes that a hook asks for, all of them or none. -/
def writing (db : η) (primary : η → Action (β × ε) Unit)
    (hook : Option (Outcome (List WriteStatement))) : Action (β × ε) Unit :=
  match hook with
  | none => primary db
  | some statements => atomically db fun h => do
    primary h
    Backend.execute h (← statements)

/-- The entities of records. -/
def loadAll? (r : Repository α) (rs : List Record) : Outcome (List α) :=
  rs.mapM r.mapping.fromRecord?

/-- The entity of the first record, where there is one. -/
def loadFirst? (r : Repository α) : List Record → Outcome (Option α)
  | [] => pure none
  | x :: _ => some <$> r.mapping.fromRecord? x

/-- Adds an entity. -/
def add (r : Repository α) (db : Option η) (entity : α) : Action (β × ε) Unit := do
  let h ← requireHandle db "add"
  let record ← r.mapping.toRecord? entity
  writing h (Backend.insert · r.source record) (r.hooks.afterAdd.map (· entity))

/-- The first entity that passes the filter. -/
def get (r : Repository α) (db : Option η) (f : Filter) : Action (β × ε) (Option α) := do
  let h ← requireHandle db "get"
  let f ← r.validate? f
  r.loadFirst? (← Backend.fetch h r.source { condition := some f, limit := some 1 } false)

/-- The entities of a query. -/
def getMany (r : Repository α) (db : Option η) (q : Query) : Action (β × ε) (List α) := do
  let h ← requireHandle db "get_many"
  let q ← q.validate? r.source.fields
  if q.isEmptyPage then return []
  r.loadAll? (← Backend.fetch h r.source q false)

/-- Overwrites every entity that passes the filter. -/
def update (r : Repository α) (db : Option η) (f : Filter) (entity : α) :
    Action (β × ε) Unit := do
  let h ← requireHandle db "update"
  let f ← r.validate? f
  let record ← r.mapping.toRecord? entity
  writing h (Backend.update · r.source f record) (r.hooks.afterUpdate.map (· entity))

/-- Removes every entity that passes the filter. -/
def delete (r : Repository α) (db : Option η) (f : Filter) : Action (β × ε) Unit := do
  let h ← requireHandle db "delete"
  let f ← r.validate? f
  writing h (Backend.delete · r.source f) (r.hooks.afterDelete.map (· f))

/-- Does some entity pass the filter? -/
def any (r : Repository α) (db : Option η) (f : Filter) : Action (β × ε) Bool := do
  let h ← requireHandle db "exists"
  let f ← r.validate? f
  Backend.any h r.source f

/-- How many entities pass the filter. -/
def count (r : Repository α) (db : Option η) (f : Filter) : Action (β × ε) Int := do
  let h ← requireHandle db "count"
  let f ← r.validate? f
  Backend.count h r.source (some f)

/-- How many entities there are. -/
def countAll (r : Repository α) (db : Option η) : Action (β × ε) Int := do
  let h ← requireHandle db "count_all"
  Backend.count h r.source none

/-- The first entity that passes the filter; all that pass it are locked until the transaction
ends. -/
def getForUpdate (r : Repository α) (db : Option η) (f : Filter) :
    Action (β × ε) (Option α) := do
  let h ← requireHandle db "get_for_update"
  if !(← Backend.inTransaction h) then throw (.noTransaction "get_for_update")
  let f ← r.validate? f
  r.loadFirst? (← Backend.fetch h r.source { condition := some f } true)

end Repository

end RecordStore
