import RecordStore.Pool.Driver

/-!
# Adapters

An adapter runs statements.  Each call borrows a connection from the pool and gives it back; while
a transaction is under way, all calls run on the one connection that is pinned for it, which goes
back to the pool when the transaction ends.  Faults of the driver are put in the library's own
terms here and nowhere else, and nothing is tried twice.
-/

namespace RecordStore

/-- The number of an adapter. -/
structure AdapterRef where
  number : Nat
  deriving DecidableEq, Repr, Inhabited

namespace AdapterRef

variable {ε α : Type}

/-- The state of an adapter. -/
def state (a : AdapterRef) : Action (Driver × ε) Adapter := do
  return (← Action.shared).adapterState a.number

/-- Changes the state of an adapter. -/
def modify (a : AdapterRef) (f : Adapter → Adapter) : Action (Driver × ε) Unit :=
  Action.modifyShared fun d => { d with adapters := d.adapters.modify a.number f }

/-- A new adapter on a pool. -/
def make (pool : Nat) : Action (Driver × ε) AdapterRef := do
  let n := (← Action.shared).adapters.length
  Action.modifyShared fun d => { d with adapters := d.adapters ++ [{ pool }] }
  return ⟨n⟩

/-- Does something on the pinned connection, or on one that is borrowed for it. -/
def connected (a : AdapterRef) (x : Action (Driver × ε) α) : Action (Driver × ε) α := do
  if (← a.state).pinned.isSome then x else Driver.borrowing x

/-- Puts faults of the driver in the library's own terms. -/
def inOwnTerms (operation : String) (x : Action (Driver × ε) α) : Action (Driver × ε) α :=
  x.handle fun f => Action.fail (f.ofDriver operation)

/-- Runs a statement; tells how many rows it has touched. -/
def executeQuery (a : AdapterRef) (q : BoundSql) : Action (Driver × ε) Int :=
  inOwnTerms "execute_query" (a.connected (Driver.execute q.text (some q.parameters)))

/-- The first row that a statement gives. -/
def fetchOne (a : AdapterRef) (q : BoundSql) : Action (Driver × ε) (Option Row) :=
  inOwnTerms "fetch_one" (a.connected do
    let _ ← Driver.execute q.text (some q.parameters)
    Driver.fetchOne)

/-- All rows that a statement gives. -/
def fetchAll (a : AdapterRef) (q : BoundSql) : Action (Driver × ε) (List Row) :=
  inOwnTerms "fetch_all" (a.connected do
    let _ ← Driver.execute q.text (some q.parameters)
    Driver.fetchAll)

/-- The parameters of a statement: nothing for none at all, or what has elements. -/
def parameters? : Datum → Outcome (Option (List Datum))
  | .null => pure none
  | d => match d.elements? with
    | some ds => pure (some ds)
    | none => throw .wrongType

/-- Runs statements with their parameters in order. -/
def runAll : List (String × Datum) → Action (Driver × ε) Unit
  | [] => pure ()
  | (sql, ps) :: rest => do
    let _ ← Driver.execute sql (← parameters? ps)
    runAll rest

/-- Runs statements in order on one connection. -/
def runMany (a : AdapterRef) (qs : List (String × Datum)) : Action (Driver × ε) Unit :=
  inOwnTerms "execute_many" (a.connected (runAll qs))

/-- Runs statements with parameters in order on one connection. -/
def executeMany (a : AdapterRef) (qs : List BoundSql) : Action (Driver × ε) Unit :=
  a.runMany (qs.map fun q => (q.text, .list q.parameters))

/-- Gives the pinned connection back and forgets the transaction.  An ordinary fault in giving it
back is left away; any other one leaves the connection pinned, though it is no longer owed. -/
def cleanUp (a : AdapterRef) : Action (Driver × ε) Unit := do
  if let some n := (← a.state).owed then
    a.modify fun s => { s with owed := none }
    (Driver.release n (.ok ())).handle fun f => if f.isOrdinary then pure () else Action.fail f
  a.modify fun s => { s with pinned := none, isActive := false }

/-- Borrows a connection and begins a transaction on it. -/
def pin (a : AdapterRef) : Action (Driver × ε) Unit := do
  let n ← Driver.acquire
  a.modify fun s => { s with pinned := some n, owed := some n, isActive := true }
  Driver.tell .begin .begin

/-- Begins a transaction. -/
def begin (a : AdapterRef) : Action (Driver × ε) Unit := do
  if (← a.state).isActive then throw .nestedTransaction
  a.pin.handle fun f => do
    a.cleanUp
    throw (f.ofDriver "begin_transaction")

/-- Ends a transaction by a call of the driver, and whatever its reply is, gives the connection
back. -/
def finish (a : AdapterRef) (operation : String) (p : Point) (c : Call) :
    Action (Driver × ε) Unit :=
  (inOwnTerms operation (Driver.tell p c)).ensuring a.cleanUp

/-- Ends the transaction and keeps what it did. -/
def commit (a : AdapterRef) : Action (Driver × ε) Unit := do
  if !(← a.state).isActive then throw (.noTransaction "commit")
  a.finish "commit_transaction" .commit .commit

/-- Ends the transaction and undoes what it did; does nothing where none is under way. -/
def rollback (a : AdapterRef) : Action (Driver × ε) Unit := do
  if (← a.state).isActive then a.finish "rollback_transaction" .rollback .rollback

/-- Does the database answer? -/
def healthCheck (a : AdapterRef) : Action (Driver × ε) Bool :=
  (a.connected do
    let _ ← Driver.execute "SELECT 1" none
    let _ ← Driver.fetchOne
    return true).handle fun f => if f.isOrdinary then pure false else Action.fail f

/-- The pool of an adapter. -/
def pool (a : AdapterRef) : Action (Driver × ε) PoolState := do
  return (← Action.shared).poolState (← a.state).pool

/-- What there is to tell about the pool. -/
def poolInfo (a : AdapterRef) : Action (Driver × ε) Row := do
  let p ← a.pool
  return [("max_size", p.maxSize), ("min_size", p.minSize),
    ("pool_status", .text (if p.isClosed then "closed" else "active"))]

/-- The text of an adapter in messages. -/
def describe (a : AdapterRef) : Action (Driver × ε) String := do
  let p ← a.pool
  let transaction := if (← a.state).isActive then "with active transaction" else "no transaction"
  return "PostgreSQLAdapter(Pool(max_size=" ++ p.maxSize.plain ++ "), " ++ transaction ++ ")"

end AdapterRef

end RecordStore
