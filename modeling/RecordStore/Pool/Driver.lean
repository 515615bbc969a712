import RecordStore.Backend
import RecordStore.Config.Basic
import RecordStore.Fault.Driver

/-!
# The database driver

The calls that are made on the driver of a relational database, in order, and what the driver
answers to them.  A `Driver` is a script: for every point at which it is called, the replies that
it gives one after another; once they are used up, every call succeeds.
-/

namespace RecordStore

/-- Where the driver is called. -/
inductive Point where
  | acquire | release | begin | commit | rollback | execute | fetchOne | fetchAll | openPool
  | closePool
  deriving DecidableEq, Repr, Inhabited

/-- What the driver replies. -/
inductive Reply where
  | success
  | fail (f : Fault)
  /-- How many rows a statement has touched. -/
  | count (n : Int)
  | row (r : Option Row)
  | rows (rs : List Row)
  deriving Inhabited

/-- A call of the driver. -/
inductive Call where
  /-- Borrows a connection. -/
  | acquire (n : Nat)
  /-- Gives a connection back, with the fault that leaves its use. -/
  | release (n : Nat) (leaving : Option Fault)
  | begin | commit | rollback
  | execute (sql : String) (parameters : Option (List Datum))
  | newPool (dsn : String) (minSize maxSize timeout : Datum)
  | openPool (timeout : Datum)
  | closePool
  deriving Inhabited

/-- A pool of connections. -/
structure PoolState where
  minSize : Datum := .integer 1
  maxSize : Datum := .integer 10
  isClosed : Bool := false
  deriving Inhabited

/-- An adapter: its pool, the connection that is pinned for a transaction, the connection that is
to be given back, and whether a transaction is under way. -/
structure Adapter where
  pool : Nat
  pinned : Option Nat := none
  owed : Option Nat := none
  isActive : Bool := false
  deriving Inhabited

/-- The manager of one pool: its settings, the pool while there is one, and whether it was closed
for good. -/
structure Manager where
  config : DatabaseConfig
  pool : Option Nat := none
  isClosed : Bool := false
  deriving Inhabited

/-- The replies that are still to come, the calls made so far, and everything that works on the
driver. -/
structure Driver where
  script : Point → List Reply := fun _ => []
  calls : List Call := []
  acquired : Nat := 0
  pools : List PoolState := []
  adapters : List Adapter := []
  managers : List Manager := []
  /-- The manager that is shared by all. -/
  current : Option Nat := none

namespace Driver

/-- The next reply at a point, and the driver without it. -/
def take (d : Driver) (p : Point) : Driver × Reply :=
  match d.script p with
  | [] => (d, .success)
  | r :: rest => ({ d with script := fun q => if q = p then rest else d.script q }, r)

/-- The driver with a call made. -/
def logged (d : Driver) (c : Call) : Driver := { d with calls := d.calls ++ [c] }

/-- A reply that is not a fault. -/
def checked (r : Reply) : Outcome Reply :=
  match r with
  | .fail f => throw f
  | r => pure r

variable {ε α : Type}

/-- Calls the driver without leaving a trace. -/
def ask (p : Point) : Action (Driver × ε) Reply :=
  Action.onShared fun d => ((d.take p).1, checked (d.take p).2)

/-- Calls the driver. -/
def call (p : Point) (c : Call) : Action (Driver × ε) Reply := do
  Action.modifyShared (·.logged c)
  ask p

/-- Calls the driver where the reply does not matter. -/
def tell (p : Point) (c : Call) : Action (Driver × ε) Unit := do
  let _ ← call p c

/-- Borrows a connection. -/
def acquire : Action (Driver × ε) Nat := do
  Action.modifyShared fun d => { d with acquired := d.acquired + 1 }
  let n := (← Action.shared).acquired
  tell .acquire (.acquire n)
  return n

/-- Gives a connection back after its use. -/
def release (n : Nat) (r : Outcome α) : Action (Driver × ε) Unit :=
  tell .release (.release n (match r with
    | .ok _ => none
    | .error f => some f))

/-- Does something with a borrowed connection. -/
def borrowing (x : Action (Driver × ε) α) : Action (Driver × ε) α := do
  let n ← acquire
  x.andThen fun r => do
    release n r
    r

/-- Runs a statement; tells how many rows it has touched. -/
def execute (sql : String) (parameters : Option (List Datum)) : Action (Driver × ε) Int := do
  match ← call .execute (.execute sql parameters) with
  | .count n => return n
  | _ => return 1

/-- The first row of a result. -/
def fetchOne : Action (Driver × ε) (Option Row) := do
  match ← ask .fetchOne with
  | .row r => return r
  | _ => return none

/-- All rows of a result. -/
def fetchAll : Action (Driver × ε) (List Row) := do
  match ← ask .fetchAll with
  | .rows rs => return rs
  | _ => return []

/-- Closes a pool. -/
def closePool (n : Nat) : Action (Driver × ε) Unit := do
  tell .closePool .closePool
  Action.modifyShared fun d =>
    { d with pools := d.pools.modify n fun p => { p with isClosed := true } }

/-- The pool of a number. -/
def poolState (d : Driver) (n : Nat) : PoolState := d.pools[n]?.getD default

/-- The adapter of a number. -/
def adapterState (d : Driver) (n : Nat) : Adapter := d.adapters[n]?.getD default

/-- The manager of a number. -/
def managerState (d : Driver) (n : Nat) : Manager := d.managers[n]?.getD default

end Driver

end RecordStore
