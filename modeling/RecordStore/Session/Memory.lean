import RecordStore.Memory.Handle
import RecordStore.Session.Run

/-!
# Sessions on the in-memory store

The commands that only the in-memory store understands: beginning a transaction without a scope,
and calls on the store itself, which the lock does not guard.  What is seen of the store after a
command are its records and its last row number.
-/

namespace RecordStore

/-- A command that only the in-memory store understands. -/
inductive MemoryCommand where
  | begin (name handle : String)
  | rows (table : String) (fields : Shape)
  | snapshot
  | declareKey (table : String) (key : List String)
  | declareFields (table : String) (fields : Shape)
  | shapeOf (table : String)
  | insert (table : String) (row : Row)
  | update (table : String) (f : FilterForm) (values : Row)
  | delete (table : String) (f : FilterForm)
  | checkpoint (name : String)
  | restore (name : String)
  /-- The texts of the store and of its lock. -/
  | describeStore
  deriving Inhabited

namespace MemoryCommand

variable {ν : Type}

/-- An action of a session on the in-memory store. -/
abbrev MemoryAction (ν α : Type) := Command.SessionAction Memory MemoryHandle (Assoc Checkpoint) ν α

/-- The store. -/
def store : MemoryAction ν Store := do return (← Action.shared).store

/-- Changes the store. -/
def modifyStore (f : Store → Store) : MemoryAction ν Unit :=
  Action.modifyShared fun m => { m with store := f m.store }

/-- Makes a call that changes all or nothing and tells how many records there are. -/
def changing (f : Store → Outcome (Store × Nat)) : MemoryAction ν Answer := do
  let (s, n) ← f (← store)
  modifyStore fun _ => s
  return .plain (.integer n)

/-- Does a command. -/
def perform : MemoryCommand → MemoryAction ν Answer
  | begin name h => Command.nothing do
    let scope ← Memory.openScope (← Command.handleOf h)
    Command.nameIt name scope
  | rows table fields => do return .records (← (← store).records? table fields)
  | snapshot => do return .snapshot (← (← store).snapshot?)
  | declareKey table key => Command.nothing (modifyStore (·.declareKey table key))
  | declareFields table fields => Command.nothing (modifyStore (·.declareShape table fields))
  | shapeOf table => do
    match (← store).shape? table with
    | some fields => return .shape fields
    | none => return .plain .null
  | insert table row => Command.nothing do
    let r ← Record.ofRow? row []
    Action.onShared (Memory.onStore fun s => s.insert table r)
  | update table f values => do
    let f ← Command.filterOf f
    let vs ← Record.valuesOf? values
    changing (·.update? table f vs)
  | delete table f => do
    let f ← Command.filterOf f
    changing (·.delete? table f)
  | checkpoint name => Command.nothing do
    let c := (← store).checkpoint
    Action.modifyOwn fun n => { n with kept := n.kept.insert name c }
  | restore name => Command.nothing do
    let c ← Command.named (← Action.own).kept name
    modifyStore (·.restore c)
  | describeStore => do
    let s ← store
    return .plain (.list [.text s.shown, .text (← Action.lockState).shown])

end MemoryCommand

/-- Sessions on the in-memory store. -/
def Memory.dialect : Dialect Memory MemoryHandle MemoryCommand (Assoc Checkpoint) Checkpoint where
  observe m := (m, m.store.checkpoint)
  unitName := "MemoryUnitOfWork"
  perform := MemoryCommand.perform

/-- Runs a session on an empty store. -/
def Memory.session? (forms : Assoc RepositoryForm) (commands : List (Command MemoryCommand)) :
    Outcome (SessionResult Checkpoint) :=
  Session.run? dialect {} .shared [] forms commands

end RecordStore
