import RecordStore.Backend
import RecordStore.Memory.Batch
import RecordStore.Query.Run

/-!
# Handles of the in-memory store

The shared handle takes the lock around each call: reads hold it together, a write holds it alone.
A transaction holds it alone from its beginning to its end, so transactions come one after
another; the handle that is scoped to it works without the lock and can no longer be used once the
transaction has ended.  Undoing a transaction brings back the records that were there when it
began.

* `Memory.accessing` is the rule by which every call reaches the store.
* `Memory.openScope`, `Memory.commit` and `Memory.rollback` begin and end transactions.
-/

namespace RecordStore

/-- A transaction: the records at its beginning, and whether it has not ended. -/
structure Scope where
  checkpoint : Checkpoint
  isActive : Bool := true
  deriving Inhabited

/-- The store, the task that is in a transaction, and all transactions in the order in which they
began. -/
structure Memory where
  store : Store := {}
  owner : Option TaskId := none
  scopes : List Scope := []
  deriving Inhabited

/-- A handle of the in-memory store. -/
inductive MemoryHandle where
  | shared
  /-- Scoped to the transaction of this number. -/
  | inScope (n : Nat)
  deriving DecidableEq, Repr, Inhabited

namespace Memory

/-- Is the handle scoped to a transaction that has not ended? -/
def isActive (m : Memory) : MemoryHandle → Bool
  | .shared => false
  | .inScope n => (m.scopes[n]?.map Scope.isActive).getD false

/-- Can calls still be made on the handle? -/
def isUsable (m : Memory) : MemoryHandle → Bool
  | .shared => true
  | h => m.isActive h

/-- Is the task in a transaction? -/
def ownsLock (m : Memory) (id : TaskId) : Bool := m.owner = some id

/-- The memory with a transaction begun by a task. -/
def opened (m : Memory) (id : TaskId) : Memory :=
  { m with owner := some id, scopes := m.scopes ++ [{ checkpoint := m.store.checkpoint }] }

/-- The memory with a transaction ended. -/
def ended (m : Memory) (n : Nat) : Memory :=
  { m with owner := none, scopes := m.scopes.modify n fun s => { s with isActive := false } }

/-- The memory with the records at the beginning of a transaction. -/
def restored (m : Memory) (n : Nat) : Memory :=
  match m.scopes[n]? with
  | some s => { m with store := m.store.restore s.checkpoint }
  | none => m

/-- The memory after a change of the store. -/
def onStore (f : Store → Store.Effect) (m : Memory) : Memory × Outcome Unit :=
  let (s, r) := f m.store
  ({ m with store := s }, r)

variable {ε α : Type}

/-- Makes a call through a handle.  A scoped handle is in possession of the lock already; a task
that is in a transaction has to use the handle that is scoped to it. -/
def accessing (mode : Mode) (h : MemoryHandle) (x : Action (Memory × ε) α) :
    Action (Memory × ε) α := do
  let m ← Action.shared
  if !m.isUsable h then throw (.usage .endedHandle)
  match h with
  | .inScope _ => x
  | .shared =>
    if m.ownsLock (← Action.whoami) then throw (.usage .sharedHandle)
    Action.holding mode x

/-- Reads the store. -/
def reading (h : MemoryHandle) (f : Store → Outcome α) : Action (Memory × ε) α :=
  accessing .read h (Action.onShared fun m => (m, f m.store))

/-- Writes to the store. -/
def writing (h : MemoryHandle) (f : Store → Store.Effect) : Action (Memory × ε) Unit :=
  accessing .write h (Action.onShared (onStore f))

/-- Is the handle scoped to a transaction that has not ended? -/
def inTransaction (h : MemoryHandle) : Action (Memory × ε) Bool := do
  return (← Action.shared).isActive h

/-- The records of a query; only in a transaction can they be locked. -/
def fetch (h : MemoryHandle) (src : Source) (q : Query) (locked : Bool) :
    Action (Memory × ε) (List Record) := do
  if locked && !(← inTransaction h) then throw (.noTransaction "get_for_update")
  reading h fun s => do q.run? (← s.sourceRecords? src)

/-- Does some record pass the filter?  Those after the first that does are not looked at. -/
def anyMatch? (f : Filter) : List Record → Outcome Bool
  | [] => pure false
  | r :: rs => do if ← f.matches? r then pure true else anyMatch? f rs

/-- Does some record pass the filter? -/
def any (h : MemoryHandle) (src : Source) (f : Filter) : Action (Memory × ε) Bool :=
  reading h fun s => do anyMatch? f (← s.sourceRecords? src)

/-- How many records pass the filter. -/
def count (h : MemoryHandle) (src : Source) (f : Option Filter) : Action (Memory × ε) Int :=
  reading h fun s => do return (← Filter.select? f (← s.sourceRecords? src)).length

/-- Adds a record. -/
def insert (h : MemoryHandle) (src : Source) (r : Record) : Action (Memory × ε) Unit :=
  writing h fun s => (s.declare src).insert src.table r

/-- Overwrites every record that passes the filter. -/
def update (h : MemoryHandle) (src : Source) (f : Filter) (r : Record) :
    Action (Memory × ε) Unit :=
  writing h fun s =>
    let s := s.declare src
    s.effect (s.update? src.table f r.values)

/-- Removes every record that passes the filter. -/
def delete (h : MemoryHandle) (src : Source) (f : Filter) : Action (Memory × ε) Unit :=
  writing h fun s =>
    let s := s.declare src
    s.effect (s.delete? src.table f)

/-- Makes write statements in order, all of them or none. -/
def execute (h : MemoryHandle) (ws : List WriteStatement) : Action (Memory × ε) Unit :=
  if ws.isEmpty then pure ()
  else do
    Store.refuseRaw? ws
    writing h fun s => s.batch ws

/-- Takes the lock alone and gives the handle of a new transaction. -/
def openScope (h : MemoryHandle) : Action (Memory × ε) MemoryHandle := do
  let m ← Action.shared
  if !m.isUsable h then throw (.usage .endedHandle)
  let id ← Action.whoami
  if h != .shared || m.ownsLock id then throw .nestedTransaction
  Action.request (.enter .write)
  let n := (← Action.shared).scopes.length
  Action.modifyShared (·.opened id)
  return .inScope n

/-- Ends a transaction and lets the lock go. -/
def close (n : Nat) : Action (Memory × ε) Unit := do
  Action.modifyShared (·.ended n)
  Action.request (.leave .write)

/-- Ends the transaction and keeps what it did. -/
def commit (h : MemoryHandle) : Action (Memory × ε) Unit := do
  if !(← inTransaction h) then throw (.noTransaction "commit")
  match h with
  | .shared => pure ()
  | .inScope n => close n

/-- Ends the transaction and brings back the records; does nothing once it has ended. -/
def rollback (h : MemoryHandle) : Action (Memory × ε) Unit := do
  if ← inTransaction h then
    match h with
    | .shared => pure ()
    | .inScope n => do
      Action.modifyShared (·.restored n)
      close n

/-- Does work in a transaction of its own. -/
def transaction (h : MemoryHandle) (work : MemoryHandle → Action (Memory × ε) α) :
    Action (Memory × ε) α := do
  let scope ← openScope h
  (work scope).andThen fun
    | .ok a => do
      commit scope
      return a
    | .error f => do
      rollback scope
      throw f

/-- The text of a handle in messages. -/
def describe (h : MemoryHandle) : Action (Memory × ε) String := do
  let kind := if h = .shared then "shared" else "transaction"
  return "MemoryDatabase(" ++ kind ++ ", " ++ (← Action.shared).store.shown ++ ")"

instance : Backend Memory MemoryHandle where
  inTransaction := inTransaction
  fetch := fetch
  any := any
  count := count
  insert := insert
  update := update
  delete := delete
  execute := execute
  openScope := openScope
  commit := commit
  rollback := rollback
  transaction := transaction
  describe := describe

end Memory

end RecordStore
