import RecordStore.Proofs.Memory.Serial
import RecordStore.UnitOfWork

/-!
# Two ways into a transaction

Work is given a transaction of its own by the handle, or by a unit of work that is entered and left
around it.  Both take the lock for it, and both end alike: what was done is kept if the work has
succeeded and undone if it has failed.

* `Scoping.run` is work in a transaction of its own.
* `World.exists_advance_run` is its beginning, and `World.advance_conclude_scoping` is its end.
-/

namespace RecordStore

variable {ε α : Type}

/-- Does work inside a unit of work, with the scoped handle. -/
def UnitOfWork.within {β η : Type} [Backend β η] (u : UnitOfWork η)
    (work : η → Action (β × ε) α) : Action (β × ε) α := do
  let u ← u.start
  (do work (← u.handle)).andThen u.leave

/-- How work is given a transaction of its own. -/
inductive Scoping where
  | transaction
  | unitOfWork (u : UnitOfWork MemoryHandle)

namespace Scoping

/-- Does work in a transaction of its own. -/
def run (work : MemoryHandle → Action (Memory × ε) α) : Scoping → Action (Memory × ε) α
  | transaction => Memory.transaction .shared work
  | unitOfWork u => u.within work

/-- A unit of work has to be one for the shared handle that is not in a transaction. -/
def Ready (m : Memory) : Scoping → Prop
  | transaction => True
  | unitOfWork u => u.database = .shared ∧ ∀ h ∈ u.current, m.isActive h = false

/-- The end of a transaction after its work. -/
def conclude (n : Nat) (r : Outcome α) : Scoping → Action (Memory × ε) α
  | transaction => Memory.conclude (.inScope n) r
  | unitOfWork u => ({ u with current := some (.inScope n) } : UnitOfWork MemoryHandle).leave r

end Scoping

/-- What follows a bind, as a single continuation. -/
theorem Action.bind_andThen {σ β γ : Type} (x : Action σ α) (f : α → Action σ β)
    (k : Outcome β → Action σ γ) : (x >>= f).andThen k = x.andThen fun
      | .ok a => (f a).andThen k
      | .error e => k (.error e) := by
  refine (Action.andThen_assoc _ _ _).trans ?_
  congr 1
  funext r
  cases r <;> rfl

namespace World

variable {w : World (Memory × ε)} {id : TaskId} {n : Nat} {database : MemoryHandle}

/-- The world after a turn in which a task has ended its transaction, and has kept or undone what
it did; it goes on with `next` once the lock is left. -/
def closed (w : World (Memory × ε)) (id : TaskId) (n : Nat) (kept : Bool)
    (next : Outcome Unit → Action (Memory × ε) Unit) : World (Memory × ε) :=
  let m := if kept then w.memory else w.memory.restored n
  ((w.withMemory (m.ended n)).leaving id .write).mark id (.paused (some w.tickets) next)

/-! ## Units of work -/

/-- Who asks whether a transaction has not ended is told how things stand. -/
theorem advance_inTransaction (h : MemoryHandle) (f : Bool → Action (Memory × ε) α)
    (k : Outcome α → Action (Memory × ε) Unit) :
    w.advance id ((Memory.inTransaction h >>= f).andThen k) =
      w.advance id ((f (w.memory.isActive h)).andThen k) := rfl

/-- A unit of work that is in no transaction begins one. -/
theorem advance_start {u : UnitOfWork MemoryHandle}
    (hcurrent : ∀ h ∈ u.current, w.memory.isActive h = false)
    (k : Outcome (UnitOfWork MemoryHandle) → Action (Memory × ε) Unit) :
    w.advance id (u.start.andThen k) = w.advance id ((Memory.openScope u.database).andThen fun r ↦
      k (r.map fun h ↦ { u with current := some h })) := by
  have hopened : (Memory.openScope u.database >>= fun h ↦ pure { u with current := some h }).andThen
      k = (Memory.openScope u.database).andThen fun r ↦
        k (r.map fun h ↦ { u with current := some h }) := by
    refine (Action.andThen_assoc _ _ _).trans ?_
    congr 1
    funext r
    cases r <;> rfl
  rw [← hopened]
  obtain ⟨database, current⟩ := u
  cases current with
  | none => rfl
  | some h =>
    refine (advance_inTransaction h _ k).trans ?_
    rw [hcurrent h rfl]
    rfl

section InScope

variable (hn : w.memory.isActive (.inScope n) = true)
include hn

theorem advance_handle (k : Outcome MemoryHandle → Action (Memory × ε) Unit) :
    w.advance id ((UnitOfWork.handle ⟨database, some (.inScope n)⟩).andThen k) =
      w.advance id (k (.ok (.inScope n))) := by
  refine (advance_inTransaction (.inScope n) _ k).trans ?_
  rw [hn]
  rfl

theorem advance_commit_unit (k : Outcome Unit → Action (Memory × ε) Unit) :
    w.advance id ((UnitOfWork.commit ⟨database, some (.inScope n)⟩).andThen k) =
      w.closed id n true k := by
  refine (advance_inTransaction (.inScope n) _ k).trans ?_
  rw [hn]
  refine (advance_commit_inScope k).trans ?_
  rw [hn, if_pos rfl, advance_close]
  rfl

theorem advance_rollback_unit (k : Outcome Unit → Action (Memory × ε) Unit) :
    w.advance id ((UnitOfWork.rollback ⟨database, some (.inScope n)⟩).andThen k) =
      w.closed id n false k := by
  refine (advance_inTransaction (.inScope n) _ k).trans ?_
  rw [hn]
  refine (advance_rollback_inScope k).trans ?_
  rw [hn, if_pos rfl, advance_close]
  rfl

end InScope

/-! ## The beginning and the end -/

/-- A task that is in no transaction asks for the lock to begin one. -/
theorem advance_openScope (howner : w.memory.ownsLock id = false)
    (k : Outcome MemoryHandle → Action (Memory × ε) Unit) :
    w.advance id ((Memory.openScope .shared).andThen k) =
      w.advance id (.ask (.enter .write) fun told ↦ (Memory.begun id told).andThen k) := by
  rw [Memory.openScope_shared]
  change w.advance id (Action.andThen (if w.memory.ownsLock id then _ else _) k) = _
  rw [howner, if_neg Bool.false_ne_true]
  rfl

theorem advance_begun_andThen (k : Outcome MemoryHandle → Action (Memory × ε) Unit) :
    w.advance id ((Memory.begun id (.ok ())).andThen k) =
      (w.withMemory (w.memory.opened id)).advance id (k (.ok (.inScope w.memory.scopes.length))) :=
  rfl

/-- A task that is in no transaction asks for the lock, and does the work in a new transaction once
it has it. -/
theorem exists_advance_run {form : Scoping} (howner : w.memory.ownsLock id = false)
    (hready : form.Ready w.memory) (work : MemoryHandle → Action (Memory × ε) α)
    (k : Outcome α → Action (Memory × ε) Unit) :
    ∃ next, w.advance id ((form.run work).andThen k) =
        w.advance id (.ask (.enter .write) next) ∧
      ∀ w' : World (Memory × ε), w'.advance id (next (.ok ())) =
        (w'.withMemory (w'.memory.opened id)).advance id
          ((work (.inScope w'.memory.scopes.length)).andThen fun r ↦
            (form.conclude w'.memory.scopes.length r).andThen k) := by
  cases form with
  | transaction =>
    rw [Scoping.run, Memory.transaction_eq, Action.bind_andThen]
    refine ⟨_, advance_openScope howner _, fun w' ↦ (advance_begun_andThen _).trans ?_⟩
    exact congrArg _ (Action.andThen_assoc _ _ _)
  | unitOfWork u =>
    obtain ⟨hshared, hcurrent⟩ := hready
    rw [Scoping.run, UnitOfWork.within, Action.bind_andThen, advance_start hcurrent, hshared]
    refine ⟨_, advance_openScope howner _, fun w' ↦ (advance_begun_andThen _).trans ?_⟩
    have hactive : (w'.memory.opened id).isActive (.inScope w'.memory.scopes.length) = true :=
      Memory.isActive_opened.mpr (.inl rfl)
    refine (congrArg _ (Action.andThen_assoc _ _ _)).trans ?_
    refine (congrArg _ (Action.bind_andThen _ _ _)).trans ?_
    exact advance_handle (w := w'.withMemory (w'.memory.opened id)) hactive _

/-- The end of a transaction after its work. -/
theorem advance_conclude_scoping (id : TaskId) (form : Scoping)
    (hn : w.memory.isActive (.inScope n) = true)
    (r : Outcome α) (k : Outcome α → Action (Memory × ε) Unit) :
    ∃ next, next (.ok ()) = k r ∧
      w.advance id ((form.conclude n r).andThen k) = w.closed id n r.isOk next := by
  cases form with
  | transaction =>
    refine ⟨fun told ↦ k (told.bind fun _ ↦ r), rfl, ?_⟩
    rw [Scoping.conclude, advance_conclude, hn]
    cases r <;> rfl
  | unitOfWork u =>
    cases r with
    | ok a =>
      exact ⟨_, by rfl, (congrArg _ (Action.andThen_assoc _ _ _)).trans (advance_commit_unit hn _)⟩
    | error f =>
      exact ⟨_, by rfl, (congrArg _ (Action.bind_andThen _ _ _)).trans
        ((congrArg _ (Action.andThen_assoc _ _ _)).trans (advance_rollback_unit hn _))⟩

end World

end RecordStore
