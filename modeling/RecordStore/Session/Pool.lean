import RecordStore.Pool.Manager
import RecordStore.Session.Run

/-!
# Sessions on a relational database

The commands that only the relational database understands: calls on adapters and on managers of
connections.  What is seen of the database after a command are the calls of the driver that were
made since the last look.
-/

namespace RecordStore

/-- A call on an adapter. -/
inductive AdapterCommand where
  | begin
  | executeQuery (sql : String) (arguments : Datum)
  | fetchOne (sql : String) (arguments : Datum)
  | fetchAll (sql : String) (arguments : Datum)
  | executeMany (statements : List (String × Datum))
  | healthCheck
  | poolInfo
  | describe
  | isActive
  | closePool
  deriving Inhabited

/-- A call on a manager of connections. -/
inductive ManagerCommand where
  | connect
  | disconnect
  | pool
  | status
  | closePool
  deriving Inhabited

/-- A command that only the relational database understands. -/
inductive PoolCommand where
  | adapter (handle : String) (c : AdapterCommand)
  | makeManager (name : String) (config : DatabaseConfig)
  | manager (name : String) (c : ManagerCommand)
  | createShared (config : Option DatabaseConfig) (forceNew : Bool) (name : Option String)
  | getShared (name : Option String)
  | database (config : Option DatabaseConfig) (forceNew : Bool) (name : String)
  | closeShared
  | resetShared
  | isSingle
  deriving Inhabited

namespace PoolCommand

variable {ν : Type}

/-- An action of a session on a relational database. -/
abbrev PoolAction (ν α : Type) := Command.SessionAction Driver AdapterRef (Assoc ManagerRef) ν α

/-- A row as a value. -/
def rowValue (row : Row) : Datum := .mapping (row.map fun p => (.text p.1, p.2))

/-- A statement with the elements of a value as its parameters. -/
def statement? (sql : String) (arguments : Datum) : Outcome BoundSql := do
  return ⟨sql, ← Sql.Builder.sequence? arguments⟩

/-- Makes a call on an adapter. -/
def onAdapter (a : AdapterRef) : AdapterCommand → PoolAction ν Answer
  | .begin => Command.nothing a.begin
  | .executeQuery sql ds => Command.number do a.executeQuery (← statement? sql ds)
  | .fetchOne sql ds => do
    match ← a.fetchOne (← statement? sql ds) with
    | some row => return .plain (rowValue row)
    | none => return .plain .null
  | .fetchAll sql ds => do
    return .plain (.list ((← a.fetchAll (← statement? sql ds)).map rowValue))
  | .executeMany qs => Command.nothing (a.runMany qs)
  | .healthCheck => Command.truth a.healthCheck
  | .poolInfo => do return .plain (rowValue (← a.poolInfo))
  | .describe => Command.text a.describe
  | .isActive => Command.truth (Database.inTransaction a)
  | .closePool => Command.nothing do Driver.closePool (← a.state).pool

/-- Makes a call on a manager of connections. -/
def onManager (m : ManagerRef) : ManagerCommand → PoolAction ν Answer
  | .connect => do
    m.connect
    return .plain (.boolean true)
  | .disconnect => Command.nothing m.disconnect
  | .pool => do
    let _ ← m.pool
    return .plain (.boolean true)
  | .status => do
    return .plain (.list [.boolean (← m.isConnected), .boolean (← m.state).isClosed,
      .text (← m.describe)])
  | .closePool => Command.nothing do Driver.closePool (← m.pool)

/-- Gives a manager a name. -/
def nameManager (name : String) (m : ManagerRef) : PoolAction ν Unit :=
  Action.modifyOwn fun n => { n with kept := n.kept.insert name m }

/-- Tells of a manager and the names that it has already, and gives it another one if that is
wanted. -/
def telling (m : ManagerRef) (name : Option String) : PoolAction ν Answer := do
  let names := Assoc.keys ((← Action.own).kept.filter fun p => p.2 = m)
  if let some name := name then nameManager name m
  return .plain (.list [.text (← m.describe), .list (names.map Datum.text)])

/-- Does a command. -/
def perform : PoolCommand → PoolAction ν Answer
  | adapter h c => do onAdapter (← Command.handleOf h) c
  | makeManager name config => Command.text do
    let m ← ManagerRef.make config
    nameManager name m
    m.describe
  | manager name c => do onManager (← Command.named (← Action.own).kept name) c
  | createShared config forceNew name => do telling (← ManagerRef.create config forceNew) name
  | getShared name => do telling (← ManagerRef.get) name
  | database config forceNew name => Command.text do
    let a ← ManagerRef.database config forceNew
    Command.nameIt name a
    Database.describe a
  | closeShared => Command.nothing ManagerRef.closeShared
  | resetShared => Command.nothing (ManagerRef.setShared none)
  | isSingle => return .plain (.boolean true)

end PoolCommand

/-- Sessions on a relational database. -/
def Database.dialect : Dialect Driver AdapterRef PoolCommand (Assoc ManagerRef) (List Call) where
  observe d := ({ d with calls := [] }, d.calls)
  unitName := "PostgreSQLUnitOfWork"
  perform := PoolCommand.perform

/-- Runs a session on a database whose driver gives the replies of a script, with a pool of one to
ten connections. -/
def Database.session? (script : Point → List Reply) (forms : Assoc RepositoryForm)
    (commands : List (Command PoolCommand)) : Outcome (SessionResult (List Call)) :=
  let driver : Driver :=
    { script, pools := [{}], adapters := [{ pool := 0 }] }
  Session.run? dialect driver ⟨0⟩ [] forms commands

end RecordStore
