import RecordStore.Task.World

/-!
# Actions that are done at once

An action that asks nothing of the scheduler is done in the turn of its task, and no other task
comes in between.

* `Action.outcome?` is the state that such an action leaves, and what it comes to.
* `World.advance_of_outcome?` shows that a task goes on from there.
-/

namespace RecordStore

variable {σ α β : Type}

namespace Action

/-- The state that an action leaves and what it comes to, unless it looks at other tasks or at the
lock, or asks the scheduler for something. -/
def outcome? : Action σ α → σ → Option (σ × Outcome α)
  | done r, s => some (s, r)
  | look next, s => (next s).outcome? s
  | put s next, _ => next.outcome? s
  | _, _ => none

variable {s s' : σ} {x : Action σ α}

theorem outcome?_andThen (x : Action σ α) (k : Outcome α → Action σ β) (s : σ) :
    (x.andThen k).outcome? s = (x.outcome? s).bind fun p ↦ (k p.2).outcome? p.1 := by
  induction x generalizing s with
  | done r => rfl
  | look next ih => exact ih s s
  | put s' next ih => exact ih s'
  | _ => rfl

theorem outcome?_andThen_of {r : Outcome α} (h : x.outcome? s = some (s', r))
    (k : Outcome α → Action σ β) : (x.andThen k).outcome? s = (k r).outcome? s' := by
  rw [outcome?_andThen, h]
  rfl

theorem outcome?_bind_of_ok {a : α} (h : x.outcome? s = some (s', .ok a))
    (f : α → Action σ β) : (x >>= f).outcome? s = (f a).outcome? s' :=
  outcome?_andThen_of h _

theorem outcome?_bind_of_error {f : Fault} (h : x.outcome? s = some (s', .error f))
    (g : α → Action σ β) : (x >>= g).outcome? s = some (s', .error f) :=
  outcome?_andThen_of h _

/-- What follows may follow anything that comes to the same. -/
theorem outcome?_andThen_congr {y : Action σ α} (h : x.outcome? s = y.outcome? s)
    (k : Outcome α → Action σ β) : (x.andThen k).outcome? s = (y.andThen k).outcome? s := by
  rw [outcome?_andThen, outcome?_andThen, h]

theorem outcome?_bind_congr {y : Action σ α} (h : x.outcome? s = y.outcome? s)
    (f : α → Action σ β) : (x >>= f).outcome? s = (y >>= f).outcome? s :=
  outcome?_andThen_congr h _

end Action

/-- A task goes on with what the action comes to, in the state that it leaves. -/
theorem World.advance_of_outcome? {w : World σ} {s : σ} {r : Outcome α} {x : Action σ α}
    (h : x.outcome? w.state = some (s, r)) (id : TaskId) (k : Outcome α → Action σ Unit) :
    w.advance id (x.andThen k) = ({ w with state := s } : World σ).advance id (k r) := by
  induction x generalizing w with
  | done r' =>
    cases h
    rfl
  | look next ih => exact ih w.state h
  | put s' next ih =>
    have hput : next.outcome? ({ w with state := s' } : World σ).state = some (s, r) := h
    exact ih hput
  | _ => cases h

end RecordStore
