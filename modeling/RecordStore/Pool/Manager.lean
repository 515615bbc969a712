import RecordStore.Pool.Database

/-!
# Managers of connections

A manager owns one pool: `Manager.connect` opens it and asks whether the database answers,
`Manager.disconnect` closes it for good.  One manager may be shared by all; `Manager.create` makes
it when it is needed.
-/

namespace RecordStore

/-- The number of a manager. -/
structure ManagerRef where
  number : Nat
  deriving DecidableEq, Repr, Inhabited

namespace ManagerRef

variable {ε : Type}

/-- The state of a manager. -/
def state (m : ManagerRef) : Action (Driver × ε) Manager := do
  return (← Action.shared).managerState m.number

/-- Changes the state of a manager. -/
def modify (m : ManagerRef) (f : Manager → Manager) : Action (Driver × ε) Unit :=
  Action.modifyShared fun d => { d with managers := d.managers.modify m.number f }

/-- A new manager. -/
def make (config : DatabaseConfig) : Action (Driver × ε) ManagerRef := do
  let n := (← Action.shared).managers.length
  Action.modifyShared fun d => { d with managers := d.managers ++ [{ config }] }
  return ⟨n⟩

/-- The pool of a manager, while it is open. -/
def openPool? (m : ManagerRef) : Action (Driver × ε) (Option Nat) := do
  let d ← Action.shared
  return (d.managerState m.number).pool.filter fun n => !(d.poolState n).isClosed

/-- Is there an open pool? -/
def isConnected (m : ManagerRef) : Action (Driver × ε) Bool := do
  return (← m.openPool?).isSome

/-- The open pool. -/
def pool (m : ManagerRef) : Action (Driver × ε) Nat := do
  match ← m.openPool? with
  | some n => return n
  | none => throw (.connectivity "Database connection pool is not open" none)

/-- Closes the pool if it is open, and forgets it. -/
def cleanUp (m : ManagerRef) : Action (Driver × ε) Unit := do
  if let some n := ← m.openPool? then
    UnitOfWork.quietly (Driver.closePool n)
  m.modify fun s => { s with pool := none }

/-- Makes a pool, opens it, and asks whether the database answers. -/
def openAndProbe (m : ManagerRef) : Action (Driver × ε) Unit := do
  let c := (← m.state).config
  let dsn ← c.dsn.text?
  let n := (← Action.shared).pools.length
  Action.modifyShared fun d =>
    { d.logged (.newPool dsn c.minPoolSize c.maxPoolSize c.poolTimeout) with
      pools := d.pools ++ [{ minSize := c.minPoolSize, maxSize := c.maxPoolSize }] }
  m.modify fun s => { s with pool := some n }
  Driver.tell .openPool (.openPool c.poolTimeout)
  Driver.borrowing do
    let _ ← Driver.execute "SELECT 1" none
    let _ ← Driver.fetchOne

/-- Does the fault tell that the database cannot be reached? -/
def isFailureToConnect : Fault → Bool
  | .external (.os _) _ _ => true
  | f => f.isFromDriver

/-- Opens the pool, unless it is open; if the database cannot be reached, it is closed again. -/
def connect (m : ManagerRef) : Action (Driver × ε) Unit := do
  if (← m.state).isClosed then throw (.connectivity "Connection manager has been closed" none)
  if !(← m.isConnected) then
    m.openAndProbe.handle fun f => do
      if !isFailureToConnect f then throw f
      m.cleanUp
      throw (.connectivity ("Failed to connect to database: " ++ f.message) (some f))

/-- Closes the pool for good. -/
def disconnect (m : ManagerRef) : Action (Driver × ε) Unit := do
  if !(← m.state).isClosed then
    m.cleanUp
    m.modify fun s => { s with isClosed := true }

/-- The text of a manager in messages. -/
def describe (m : ManagerRef) : Action (Driver × ε) String := do
  let c := (← m.state).config
  let status := if ← m.isConnected then "connected" else "disconnected"
  return "DatabaseConnection(" ++ c.host.plain ++ ":" ++ c.port.plain ++ ", " ++ status ++ ")"

/-- The manager that is shared by all, unless it was closed for good. -/
def shared? : Action (Driver × ε) (Option ManagerRef) := do
  match (← Action.shared).current with
  | none => return none
  | some n => return if (← state ⟨n⟩).isClosed then none else some ⟨n⟩

/-- Sets the manager that is shared by all. -/
def setShared (m : Option ManagerRef) : Action (Driver × ε) Unit :=
  Action.modifyShared fun d => { d with current := m.map ManagerRef.number }

/-- Is the fault about the connection? -/
def isConnectivity : Fault → Bool
  | .connectivity _ _ => true
  | _ => false

/-- A new manager that is connected and shared by all; the one before it is closed. -/
def renew (config : Option DatabaseConfig) : Action (Driver × ε) ManagerRef := do
  if let some m := ← shared? then m.disconnect
  let c ← match config with
    | some c => pure c
    | none => DatabaseConfig.ofEnvironment? [] DatabaseConfig.variablesStart
  let m ← make c
  m.connect.handle fun f => do
    if isConnectivity f then setShared none
    throw f
  setShared (some m)
  return m

/-- The manager that is shared by all, made if there is none or a new one is wanted. -/
def create (config : Option DatabaseConfig) (forceNew : Bool) :
    Action (Driver × ε) ManagerRef := do
  match ← shared? with
  | some m => if forceNew then renew config else return m
  | none => renew config

/-- The manager that is shared by all, which must be there. -/
def get : Action (Driver × ε) ManagerRef := do
  match ← shared? with
  | some m => return m
  | none => throw (.connectivity "No active database connection" none)

/-- A handle on the pool of the manager that is shared by all. -/
def database (config : Option DatabaseConfig) (forceNew : Bool) :
    Action (Driver × ε) AdapterRef := do
  let m ← create config forceNew
  AdapterRef.make (← m.pool)

/-- Closes the manager that is shared by all. -/
def closeShared : Action (Driver × ε) Unit := do
  if let some m := ← shared? then
    m.disconnect
    setShared none

end ManagerRef

end RecordStore
