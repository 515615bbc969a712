import RecordStore.Query.Basic
import RecordStore.Sql.Statement
import RecordStore.Task.Action

/-!
# Backends

What repositories and units of work ask of a backend.  The handles of a backend share a state with
each other; the actions of a task have a state of their own beside it, which no backend touches.
A handle is either shared by all or scoped to one transaction.
-/

namespace RecordStore

namespace Action

variable {β ε α : Type}

/-- The state that the handles of a backend share. -/
def shared : Action (β × ε) β := look fun s => Action.pure s.1

/-- Changes the shared state. -/
def modifyShared (f : β → β) : Action (β × ε) Unit :=
  look fun s => put (f s.1, s.2) (Action.pure ())

/-- Changes the shared state, with a result or a fault; the change stays even where there is a
fault. -/
def onShared (f : β → β × Outcome α) : Action (β × ε) α :=
  look fun s => put ((f s.1).1, s.2) (done (f s.1).2)

/-- The state beside the shared one. -/
def own : Action (β × ε) ε := look fun s => Action.pure s.2

/-- Changes the state beside the shared one. -/
def modifyOwn (f : ε → ε) : Action (β × ε) Unit :=
  look fun s => put (s.1, f s.2) (Action.pure ())

end Action

/-- A backend with handles of type `η` whose shared state is of type `β`. -/
class Backend (β : outParam Type) (η : Type) where
  /-- Is the handle scoped to a transaction that has not ended? -/
  inTransaction {ε : Type} : η → Action (β × ε) Bool
  /-- The records of a query; they are locked where that is asked for. -/
  fetch {ε : Type} : η → Source → Query → Bool → Action (β × ε) (List Record)
  /-- Does some record pass the filter? -/
  any {ε : Type} : η → Source → Filter → Action (β × ε) Bool
  /-- How many records pass the filter. -/
  count {ε : Type} : η → Source → Option Filter → Action (β × ε) Int
  /-- Adds a record. -/
  insert {ε : Type} : η → Source → Record → Action (β × ε) Unit
  /-- Overwrites every record that passes the filter. -/
  update {ε : Type} : η → Source → Filter → Record → Action (β × ε) Unit
  /-- Removes every record that passes the filter. -/
  delete {ε : Type} : η → Source → Filter → Action (β × ε) Unit
  /-- Makes write statements in order. -/
  execute {ε : Type} : η → List WriteStatement → Action (β × ε) Unit
  /-- Begins a transaction and gives the handle that is scoped to it. -/
  openScope {ε : Type} : η → Action (β × ε) η
  /-- Ends the transaction of a scoped handle and keeps what it did. -/
  commit {ε : Type} : η → Action (β × ε) Unit
  /-- Ends the transaction of a scoped handle and undoes what it did. -/
  rollback {ε : Type} : η → Action (β × ε) Unit
  /-- Does work in a transaction of its own, which is undone if the work fails. -/
  transaction {ε α : Type} : η → (η → Action (β × ε) α) → Action (β × ε) α
  /-- The text of a handle in messages. -/
  describe {ε : Type} : η → Action (β × ε) String

end RecordStore
