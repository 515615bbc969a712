import RecordStore.Datum.Conversion
import RecordStore.Memory.Store
import RecordStore.Pool.Adapter
import RecordStore.Sql.Statement
import RecordStore.UnitOfWork

/-!
# The relational database

The handles of a relational database are adapters.  Filters become conditions in SQL, rows become
records of the declared shape.  A transaction runs on an adapter of its own, so that transactions
that run at the same time share no connection.
-/

namespace RecordStore.Database

variable {ε α : Type}

/-- The record of a row that the database gives. -/
def decode? (src : Source) (row : Row) : Outcome Record :=
  (Record.ofRow? row src.fields).mapError (Store.mismatch src.table .rowMismatch)

/-- The records of rows. -/
def decodeAll? (src : Source) (rows : List Row) : Outcome (List Record) := rows.mapM (decode? src)

/-- The records of a query. -/
def fetch (a : AdapterRef) (src : Source) (q : Query) (locked : Bool) :
    Action (Driver × ε) (List Record) := do
  let rows ← a.fetchAll (← Sql.select? src q locked)
  decodeAll? src rows

/-- A column of a row that must be there. -/
def column? (row : Row) (name : String) : Outcome Datum :=
  match row.lookup name with
  | some d => pure d
  | none => throw (.missingKey name)

/-- Does some record pass the filter? -/
def any (a : AdapterRef) (src : Source) (f : Option Filter) : Action (Driver × ε) Bool := do
  match ← a.fetchOne (← Sql.exists? src f) with
  | none => return false
  | some [] => return false
  | some row => return (← column? row "exists").isTruthy

/-- How many records pass the filter. -/
def count (a : AdapterRef) (src : Source) (f : Option Filter) : Action (Driver × ε) Int := do
  match ← a.fetchOne (← Sql.count? src f) with
  | none => return 0
  | some [] => return 0
  | some row => (← column? row "count").toInteger?

/-- Runs a statement for what it does. -/
def run (a : AdapterRef) (q : Outcome BoundSql) : Action (Driver × ε) Unit := do
  let _ ← a.executeQuery (← q)

/-- Adds a record. -/
def insert (a : AdapterRef) (src : Source) (r : Record) : Action (Driver × ε) Unit :=
  run a (Sql.insert? src.table r.parameters)

/-- Overwrites every record that passes the filter. -/
def update (a : AdapterRef) (src : Source) (f : Option Filter) (r : Record) :
    Action (Driver × ε) Unit :=
  run a (Sql.update? src.table f r.parameters)

/-- Removes every record that passes the filter. -/
def delete (a : AdapterRef) (src : Source) (f : Option Filter) : Action (Driver × ε) Unit :=
  run a (Sql.delete? src.table f)

/-- The SQL of write statements. -/
def buildAll? (ws : List WriteStatement) : Outcome (List BoundSql) := ws.mapM Sql.write?

/-- Makes write statements in order on one connection; nothing is run unless all can be built. -/
def execute (a : AdapterRef) (ws : List WriteStatement) : Action (Driver × ε) Unit :=
  if ws.isEmpty then pure ()
  else do a.executeMany (← buildAll? ws)

/-- Is the adapter in a transaction? -/
def inTransaction (a : AdapterRef) : Action (Driver × ε) Bool := do
  return (← a.state).isActive

/-- Begins a transaction on an adapter of its own. -/
def openScope (a : AdapterRef) : Action (Driver × ε) AdapterRef := do
  if ← inTransaction a then throw .nestedTransaction
  let inner ← AdapterRef.make (← a.state).pool
  inner.begin
  return inner

/-- Does work in a transaction of its own. -/
def transaction (a : AdapterRef) (work : AdapterRef → Action (Driver × ε) α) :
    Action (Driver × ε) α := do
  let inner ← openScope a
  (work inner).andThen fun
    | .ok r => do
      inner.commit
      return r
    | .error f => do
      UnitOfWork.quietly inner.rollback
      throw f

/-- The text of a handle in messages. -/
def describe (a : AdapterRef) : Action (Driver × ε) String := do
  return "PostgreSQLDatabase(" ++ (← a.describe) ++ ")"

instance : Backend Driver AdapterRef where
  inTransaction := inTransaction
  fetch := fetch
  any a src f := any a src f.given?
  count := count
  insert := insert
  update a src f r := update a src f.given? r
  delete a src f := delete a src f.given?
  execute := execute
  openScope := openScope
  commit := AdapterRef.commit
  rollback := AdapterRef.rollback
  transaction := transaction
  describe := describe

end RecordStore.Database
