import RecordStore.Hook
import RecordStore.UnitOfWork

/-!
# Sessions

A session is a list of commands on a backend: verbs of repositories, calls on handles,
transactions with commands inside, and the starting of tasks that run beside each other.  Handles
and all else that a command makes are given names, under which later commands find them.

* `Command` is what can be commanded; `γ` is what only one backend understands.
* `Place` tells which faults of a command end the list of commands that it stands in.
* `Entry` tells what has come of a command, and `Notes` keeps the entries and the names.
-/

namespace RecordStore

/-- A command.  `handle` is the name of a handle, `repository` that of a repository. -/
inductive Command (γ : Type) where
  | add (repository handle : String) (entity : Row)
  | get (repository handle : String) (f : FilterForm)
  | getForUpdate (repository handle : String) (f : FilterForm)
  | getMany (repository handle : String) (q : List QueryStep)
  | update (repository handle : String) (f : FilterForm) (entity : Row)
  | delete (repository handle : String) (f : FilterForm)
  | any (repository handle : String) (f : FilterForm)
  | count (repository handle : String) (f : FilterForm)
  | countAll (repository handle : String)
  /-- Adds to a field of the first entity that passes the filter. -/
  | bump (repository handle : String) (f : FilterForm) (field : String) (amount : Datum)
  /-- Makes a repository. -/
  | define (name : String) (form : RepositoryForm)
  | fetchFrom (handle : String) (src : Source) (q : List QueryStep) (locked : Bool)
  | anyIn (handle : String) (src : Source) (f : FilterForm)
  | countIn (handle : String) (src : Source) (f : FilterForm)
  | insertInto (handle : String) (src : Source) (values : Row)
  | updateIn (handle : String) (src : Source) (f : FilterForm) (values : Row)
  | deleteFrom (handle : String) (src : Source) (f : FilterForm)
  | execute (handle : String) (ws : List WriteForm)
  | inTransaction (handle : String)
  | describe (handle : String)
  | commit (handle : String)
  | rollback (handle : String)
  | fail (f : Fault)
  /-- Does commands in a transaction whose handle gets a name. -/
  | transaction (name handle : String) (commands : List (Command γ)) (result : Datum)
  /-- Makes a unit of work for a handle. -/
  | makeUnit (name handle : String)
  /-- Asks for a unit of work for what is no handle. -/
  | unitOf (d : Datum)
  | beginUnit (unit : String)
  | commitUnit (unit : String)
  | rollbackUnit (unit : String)
  | unitIsActive (unit : String)
  /-- Gives a name to the scoped handle of a unit of work. -/
  | nameHandle (unit name : String)
  /-- Does commands inside a unit of work, an existing one or a new one for a handle. -/
  | within (name handle : String) (unit : Option String) (commands : List (Command γ))
      (result : Datum)
  /-- Waits until a gate is open. -/
  | gate (name : String)
  /-- Starts tasks with names and lets everything run. -/
  | spawn (tasks : List (String × List (Command γ)))
  /-- Opens gates and lets everything run. -/
  | openGates (names : List String)
  /-- Cancels a task and lets everything run. -/
  | cancel (task : String)
  /-- A command whose faults do not end what it stands in. -/
  | catching (c : Command γ)
  | special (c : γ)

/-- Where a list of commands stands: in the session itself, inside a command, or in a task. -/
inductive Place where
  | session | inside | task
  deriving DecidableEq, Repr, Inhabited

/-- Is the command one whose faults do not end what it stands in? -/
def Command.isCatching {γ : Type} : Command γ → Bool
  | .catching _ => true
  | _ => false

/-- Do the commands of a list go on after a fault of one of them?  In a session always; in a task
unless the fault is cancellation or the like. -/
def Place.survives {γ : Type} (c : Command γ) (f : Fault) : Place → Bool
  | .session => true
  | .inside => c.isCatching
  | .task => f.isOrdinary

/-- How far a task has come: its end if it has ended, and the number of its entries. -/
structure TaskReport where
  name : String
  ended : Option (Outcome Unit)
  entries : Nat

/-- What a command answers. -/
inductive Answer where
  | plain (d : Datum)
  | entity (row : Row)
  | entities (rows : List Row)
  | records (rs : List Record)
  | snapshot (s : Snapshot)
  | shape (fields : Shape)
  | tasks (reports : List TaskReport) (lock : Lock)
  deriving Inhabited

/-- What has come of a command, with what was seen of the backend after it; for commands that
have others inside also what was seen before these began, and their entries. -/
structure Entry (ν : Type) where
  result : Outcome Answer
  seen : ν
  inner : Option (ν × List (Entry ν)) := none

/-- A task of a session: its number and its journal. -/
structure SessionTask where
  id : TaskId
  journal : Nat
  deriving Inhabited

/-- What a session keeps beside the state of the backend.  `κ` is what only one backend needs. -/
structure Notes (η κ ν : Type) where
  repositories : Assoc (Repository Row) := []
  handles : Assoc (Option η) := []
  /-- The numbers of named units of work. -/
  units : Assoc Nat := []
  unitStates : List (UnitOfWork η) := []
  kept : κ
  tasks : Assoc SessionTask := []
  /-- How often a command that lets everything run gives way to the tasks. -/
  patience : Nat := 0
  /-- The entries of what has begun, and nothing for what has not. -/
  journals : List (Option (ν × List (Entry ν))) := []

namespace Notes

variable {η κ ν : Type}

/-- The entries of a journal. -/
def entriesOf (n : Notes η κ ν) (journal : Nat) : List (Entry ν) :=
  match n.journals[journal]? with
  | some (some (_, es)) => es
  | _ => []

/-- How far a task has come, among the ends of all. -/
def report (n : Notes η κ ν) (ends : List (Option (Outcome Unit))) (name : String)
    (t : SessionTask) : TaskReport where
  name := name
  ended := ends[t.id]?.join
  entries := (n.entriesOf t.journal).length

/-- How far all tasks have come. -/
def reports (n : Notes η κ ν) (ends : List (Option (Outcome Unit))) : List TaskReport :=
  n.tasks.map fun p => n.report ends p.1 p.2

/-- Begins a journal. -/
def beginJournal (n : Notes η κ ν) (journal : Nat) (seen : ν) : Notes η κ ν :=
  { n with journals := n.journals.set journal (some (seen, [])) }

/-- Adds an entry to a journal that has begun. -/
def addEntry (n : Notes η κ ν) (journal : Nat) (e : Entry ν) : Notes η κ ν :=
  { n with journals := n.journals.modify journal (·.map fun p => (p.1, p.2 ++ [e])) }

end Notes

/-- What a session needs to know of a backend: what is seen of its state after a command, which
class of units of work it has, and how the commands are done that only it understands. -/
structure Dialect (β η γ κ ν : Type) where
  observe : β → β × ν
  unitName : String
  perform : γ → Action (β × Notes η κ ν) Answer

end RecordStore
