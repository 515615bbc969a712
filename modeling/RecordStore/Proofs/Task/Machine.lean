import Mathlib.Data.Multiset.Filter
import Mathlib.Logic.Relation
import RecordStore.Task.World

/-!
# Tasks step by step

A `Machine` is a world with the task whose turn it is and what this task does next.  It makes one
step at a time, in any order that tasks allow: where no task has its turn, any ready job may be
taken up, and any task may be cancelled or started.  The scheduler, which takes up jobs in the order
in which they became ready, is one way to run a machine.

* `Machine.Step` is one step, with the change that it makes in who holds the lock.
* `Machine.leads_perform` and `Machine.leads_settle` lead from the scheduler to the machine.
-/

namespace RecordStore

variable {σ : Type}

/-- A change in who holds the lock. -/
inductive Grip where
  | taken (id : TaskId) (m : Mode)
  | left (id : TaskId) (m : Mode)

/-- Those who hold the lock after a change, each as often as it has taken it. -/
def Grip.after (holders : Multiset (TaskId × Mode)) : Option Grip → Multiset (TaskId × Mode)
  | none => holders
  | some (taken id m) => (id, m) ::ₘ holders
  | some (left id m) => holders.erase (id, m)

namespace World

/-- What a job does before a task goes on, and the task that goes on with what it is told. -/
def deliver (w : World σ) : Job → World σ × Option (TaskId × Outcome Unit)
  | .resume id r => (w, some (id, r))
  | .recheck id m =>
    if w.lock.admits m then ({ w with lock := (w.lock.desist m).enter m }, some (id, .ok ()))
    else ({ w with queue := w.queue ++ [(id, m)] }, none)
  | .abort id m =>
    let w := { w with lock := w.lock.desist m }
    (if m = .write then w.wake else w, some (id, .error .cancelled))
  | .release id m ticket => (w.perform (.release id m ticket), none)
  | .relay id ticket r => (w.perform (.relay id ticket r), none)

/-- What a task does that was paused and is told something. -/
def resumed? (w : World σ) (p : TaskId × Outcome Unit) : Option (TaskId × Action σ Unit) :=
  match w.tasks[p.1]? with
  | some (.paused _ next) => some (p.1, next p.2)
  | _ => none

/-- The change that a job makes in who holds the lock. -/
def gripOfJob (w : World σ) : Job → Option Grip
  | .recheck id m => if w.lock.admits m then some (.taken id m) else none
  | .release id m _ => (w.letGo? m).toOption.map fun _ => .left id m
  | _ => none

/-- The change that a task makes in who holds the lock. -/
def gripOfAction (w : World σ) (id : TaskId) : Action σ Unit → Option Grip
  | .ask (.enter m) _ => if w.lock.admits m then some (.taken id m) else none
  | .ask (.letGo m) _ => (w.letGo? m).toOption.map fun _ => .left id m
  | _ => none

end World

/-- A world, and the task whose turn it is with what it does. -/
structure Machine (σ : Type) where
  world : World σ
  turn : Option (TaskId × Action σ Unit) := none

namespace Machine

/-- The machine once a job is taken up. -/
def take (w : World σ) (j : Job) : Machine σ :=
  ⟨(w.deliver j).1, (w.deliver j).2.bind (w.deliver j).1.resumed?⟩

/-- The machine once the task whose turn it is has done one thing. -/
def go (w : World σ) (id : TaskId) : Action σ Unit → Machine σ
  | .done r => ⟨w.mark id (.finished r), none⟩
  | .exit r => ⟨w.mark id (.finished r), none⟩
  | .look next => ⟨w, some (id, next w.state)⟩
  | .put s next => ⟨{ w with state := s }, some (id, next)⟩
  | .self next => ⟨w, some (id, next id)⟩
  | .lock next => ⟨w, some (id, next w.lock)⟩
  | .ends next => ⟨w, some (id, next (w.tasks.map Progress.ending))⟩
  | .fork next => ⟨w.spawn fun r => next (.child r), some (id, next (.own w.tasks.length))⟩
  | .ask q next => match w.serve id q with
    | .inl (w', r) => ⟨w', some (id, next r)⟩
    | .inr (w', ticket) => ⟨w'.mark id (.paused ticket next), none⟩

/-- One step.  `P` tells what may be given to a task to do. -/
inductive Step (P : Action σ Unit → Prop) : Machine σ → Option Grip → Machine σ → Prop
  /-- Takes up any job that is ready. -/
  | take {w : World σ} {before after : List Job} {j : Job} (h : w.ready = before ++ j :: after) :
    Step P ⟨w, none⟩ ({ w with ready := before ++ after }.gripOfJob j)
      (take { w with ready := before ++ after } j)
  | go {w : World σ} {id : TaskId} {a : Action σ Unit} :
    Step P ⟨w, some (id, a)⟩ (w.gripOfAction id a) (go w id a)
  | cancel {w : World σ} (id : TaskId) : Step P ⟨w, none⟩ none ⟨w.cancel id, none⟩
  | spawn {w : World σ} {next : Outcome Unit → Action σ Unit} (h : ∀ r, P (next r)) :
    Step P ⟨w, none⟩ none ⟨w.spawn next, none⟩
  /-- Gives a task that has ended something new to do. -/
  | assign {w : World σ} {id : TaskId} {r : Outcome Unit} {a : Action σ Unit}
    (h : w.tasks[id]? = some (.finished r)) (ha : P a) : Step P ⟨w, none⟩ none ⟨w, some (id, a)⟩

/-- The machines that can be reached from a world with a state in which no task does anything, each
with those who hold the lock there. -/
inductive Reached (P : Action σ Unit → Prop) : Machine σ → Multiset (TaskId × Mode) → Prop
  | start (s : σ) : Reached P ⟨.ofState s, none⟩ 0
  | step {M M' : Machine σ} {grip : Option Grip} {holders : Multiset (TaskId × Mode)}
    (h : Reached P M holders) (hstep : Step P M grip M') : Reached P M' (Grip.after holders grip)

/-! ## The scheduler -/

/-- Some steps lead from one machine to the other. -/
def Leads (P : Action σ Unit → Prop) (M M' : Machine σ) : Prop :=
  Relation.ReflTransGen (fun M M' ↦ ∃ grip, Step P M grip M') M M'

variable {P : Action σ Unit → Prop} {M M' : Machine σ} {w : World σ}

theorem Step.leads {grip : Option Grip} (h : Step P M grip M') : Leads P M M' :=
  .single ⟨grip, h⟩

/-- A task goes on step by step until it ends or has to wait. -/
theorem leads_advance (w : World σ) (id : TaskId) (a : Action σ Unit) :
    Leads P ⟨w, some (id, a)⟩ ⟨w.advance id a, none⟩ := by
  have hgo {w : World σ} {a : Action σ Unit} :
      Leads P ⟨w, some (id, a)⟩ (go w id a) := Step.go.leads
  induction a generalizing w with
  | done r => exact hgo
  | exit r => exact hgo
  | look next ih => exact hgo.trans (ih _ w)
  | put s next ih => exact hgo.trans (ih _)
  | self next ih => exact hgo.trans (ih _ w)
  | lock next ih => exact hgo.trans (ih _ w)
  | ends next ih => exact hgo.trans (ih _ w)
  | fork next ih => exact hgo.trans (ih _ _)
  | ask q next ih =>
    have hfirst : Leads P ⟨w, some (id, .ask q next)⟩ (go w id (.ask q next)) := hgo
    rw [go] at hfirst
    rw [World.advance]
    cases hserve : w.serve id q with
    | inl p =>
      rw [hserve] at hfirst
      exact hfirst.trans (ih _ p.1)
    | inr p =>
      rw [hserve] at hfirst
      exact hfirst

theorem leads_continueWith (w : World σ) (p : TaskId × Outcome Unit) :
    Leads P ⟨w, w.resumed? p⟩ ⟨w.continueWith p.1 p.2, none⟩ := by
  rw [World.resumed?, World.continueWith]
  cases w.tasks[p.1]? with
  | none => exact .refl
  | some progress =>
    cases progress with
    | paused ticket next => exact leads_advance w p.1 (next p.2)
    | finished r => exact .refl

end Machine

/-- A job does what it does before a task goes on, and then this task goes on. -/
theorem World.perform_eq (w : World σ) (j : Job) :
    w.perform j = match w.deliver j with
      | (w', some (id, r)) => w'.continueWith id r
      | (w', none) => w' := by
  cases j with
  | recheck id m =>
    rw [perform, deliver]
    split <;> rfl
  | _ => rfl

namespace Machine

variable {P : Action σ Unit → Prop} {w w' : World σ}

/-- Doing a job takes it up and lets its task go on. -/
theorem leads_perform {before after : List Job} {j : Job} (h : w.ready = before ++ j :: after) :
    Leads P ⟨w, none⟩ ⟨{ w with ready := before ++ after }.perform j, none⟩ := by
  have hfirst : Leads P ⟨w, none⟩ (take { w with ready := before ++ after } j) :=
    (Step.take h).leads
  refine hfirst.trans ?_
  rw [World.perform_eq, take]
  cases hdeliver : World.deliver { w with ready := before ++ after } j with
  | mk w' p =>
    cases p with
    | none => exact .refl
    | some p => exact leads_continueWith w' p

/-- What the scheduler does in one step a machine does in some. -/
theorem leads_step (h : w.step = some w') : Leads P ⟨w, none⟩ ⟨w', none⟩ := by
  unfold World.step at h
  split at h
  · cases h
  · rename_i j rest hready
    cases h
    have hfront : w.ready = [] ++ j :: rest := hready
    exact leads_perform hfront

theorem leads_settle (fuel : Nat) (w : World σ) : Leads P ⟨w, none⟩ ⟨w.settle fuel, none⟩ := by
  induction fuel generalizing w with
  | zero => exact .refl
  | succ n ih =>
    rw [World.settle]
    cases hstep : w.step with
    | none => exact .refl
    | some w' => exact (leads_step hstep).trans (ih w')

end Machine

end RecordStore
