import RecordStore.Session.Interpreter
import RecordStore.Task.World

/-!
# Running sessions

A session runs in a world of tasks: its own commands one after another in a task of their own,
and beside it the tasks that they start.  `Session.run?` gives the entries of everything that was
done and what is seen of the backend at the end, which is when the session's own commands are done.
-/

namespace RecordStore

/-- What has come of a session. -/
structure SessionResult (ν : Type) where
  entries : List (Entry ν)
  tasks : Assoc (List (Entry ν))
  final : ν

mutual

/-- A command and all that are inside it, counted together. -/
def Command.weight {γ : Type} : Command γ → Nat
  | .transaction _ _ cs _ => Command.weights cs + 1
  | .within _ _ _ cs _ => Command.weights cs + 1
  | .spawn tasks => Command.taskWeights tasks + 1
  | .catching c => c.weight
  | _ => 1

/-- Commands and all that are inside them, counted together. -/
def Command.weights {γ : Type} : List (Command γ) → Nat
  | [] => 0
  | c :: cs => c.weight + Command.weights cs

/-- Tasks and their commands, counted together. -/
def Command.taskWeights {γ : Type} : List (String × List (Command γ)) → Nat
  | [] => 0
  | (_, cs) :: rest => Command.weights cs + 1 + Command.taskWeights rest

end

namespace Session

variable {β η γ κ ν : Type}

/-- What has come of a session. -/
def result (d : Dialect β η γ κ ν) (s : β × Notes η κ ν) : SessionResult ν where
  entries := s.2.entriesOf 0
  tasks := s.2.tasks.mapValues fun t => s.2.entriesOf t.journal
  final := (d.observe s.1).2

variable [Backend β η]

/-- The session itself. -/
def action (d : Dialect β η γ κ ν) (commands : List (Command γ)) :
    Command.SessionAction β η κ ν Unit := do
  let journal ← Command.newJournal
  Command.beginJournal d journal
  Command.actAll d journal .session commands

/-- Runs a session on a backend with a shared handle, which is called `db`; `none` is a name for
no handle. -/
def run? (d : Dialect β η γ κ ν) (b : β) (shared : η) (kept : κ) (forms : Assoc RepositoryForm)
    (commands : List (Command γ)) : Outcome (SessionResult ν) := do
  let repositories ← forms.mapM fun p => do return (p.1, ← p.2.make?)
  let handles := [("db", some shared), ("none", none)]
  let bound := 10 * (Command.weights commands + 10)
  let notes : Notes η κ ν := { repositories, handles, kept, patience := bound }
  let w := (World.ofState (b, notes)).runTask (bound * bound * bound) 0 (action d commands)
  return result d w.state

end Session

end RecordStore
