import RecordStore.Backend

/-!
# Units of work

A unit of work scopes a handle to one transaction.  `UnitOfWork.start` begins it and
`UnitOfWork.leave` ends it: what was done inside is kept when it has succeeded and undone when it
has failed.
-/

namespace RecordStore

/-- A handle, and the handle that is scoped to the transaction begun last. -/
structure UnitOfWork (η : Type) where
  database : η
  current : Option η := none
  deriving Inhabited

namespace UnitOfWork

variable {β ε η α : Type} [Backend β η]

/-- Is a transaction under way? -/
def isActive (u : UnitOfWork η) : Action (β × ε) Bool :=
  match u.current with
  | some h => Backend.inTransaction h
  | none => pure false

/-- The scoped handle. -/
def handle (u : UnitOfWork η) : Action (β × ε) η := do
  if ← u.isActive then
    if let some h := u.current then return h
  throw (.noTransaction "db")

/-- Begins a transaction. -/
def start (u : UnitOfWork η) : Action (β × ε) (UnitOfWork η) := do
  if ← u.isActive then throw .nestedTransaction
  return { u with current := some (← Backend.openScope u.database) }

/-- Ends the transaction and keeps what it did. -/
def commit (u : UnitOfWork η) : Action (β × ε) Unit := do
  match u.current, ← u.isActive with
  | some h, true => Backend.commit h
  | _, _ => throw (.noTransaction "commit")

/-- Ends the transaction and undoes what it did; does nothing where none is under way. -/
def rollback (u : UnitOfWork η) : Action (β × ε) Unit := do
  match u.current, ← u.isActive with
  | some h, true => Backend.rollback h
  | _, _ => pure ()

/-- Does something while a fault is on its way; an ordinary fault of its own is left away. -/
def quietly (x : Action (β × ε) Unit) : Action (β × ε) Unit :=
  x.andThen fun
    | .ok _ => pure ()
    | .error f => if f.isOrdinary then pure () else throw f

/-- Ends the transaction after what was done inside: it is kept where that has succeeded, and
undone where it has failed or cannot be kept. -/
def leave (u : UnitOfWork η) (r : Outcome α) : Action (β × ε) α :=
  match r with
  | .ok a => u.commit.andThen fun
    | .ok _ => pure a
    | .error f => do
      if f.isOrdinary then quietly u.rollback
      throw f
  | .error f => do
    quietly u.rollback
    throw f

end UnitOfWork

end RecordStore
