import RecordStore.Proofs.Memory.Exclusivity
import RecordStore.Proofs.Memory.Likeness

/-!
# How the memory changes

Whatever tasks do with any handles and with the store, the memory changes in five ways only: by a
call through a handle, by a call on the store, and by the beginning, the end and the undoing of a
transaction.  What each of these keeps is kept by everything that can happen.

* `Alteration` is one change, `Memory.altered` is what becomes of a memory after some of them.
* `Action.Upholds` says that an action keeps a property of the memory; `Caller.upholds_task` shows
  that every caller does so if every alteration does.
* `World.exists_altered` finds the alterations behind anything that has happened.
-/

namespace RecordStore

variable {ε α : Type}

/-- One change of the memory. -/
inductive Alteration where
  /-- A call through a handle, a batch of write statements among them. -/
  | verb (v : Verb)
  /-- A call on the store itself. -/
  | call (c : StoreCall)
  | begin (id : TaskId)
  | finish (n : Nat)
  /-- Brings back the records at the beginning of a transaction, which then is ended. -/
  | undo (n : Nat)

/-- The memory afterwards. -/
def Alteration.run (m : Memory) : Alteration → Memory
  | verb v => { m with store := (v.run m.store).1 }
  | call c => { m with store := (c.run m.store).1 }
  | begin id => m.opened id
  | finish n => m.ended n
  | undo n => m.restored n

/-- The memory after some changes. -/
def Memory.altered (m : Memory) (as : List Alteration) : Memory := as.foldl Alteration.run m

/-! ## Properties that actions keep -/

/-- Wherever the action finds the property of the memory, it leaves it. -/
def Action.Upholds (I : Memory → Prop) (a : Action (Memory × ε) α) : Prop :=
  a.Alike (fun p p' ↦ p' = p ∧ I p.1) a

variable {I : Memory → Prop}

section Kept

variable (hI : ∀ a m, I m → I (Alteration.run m a))
include hI

/-- A memory is like itself as long as it has the property. -/
theorem Memory.likeness_kept : Likeness fun p p' : Memory × ε ↦ p' = p ∧ I p.1 where
  isActive hp _ := by rw [hp.1]
  owner hp := by rw [hp.1]
  length hp := by rw [hp.1]
  beside hp := by rw [hp.1]
  opened hp id := ⟨by rw [hp.1], hI (.begin id) _ hp.2⟩
  ended hp n := ⟨by rw [hp.1], hI (.finish n) _ hp.2⟩
  restored hp n := ⟨by rw [hp.1], hI (.undo n) _ hp.2⟩
  set hp _ := ⟨by rw [hp.1], hp.2⟩

theorem HandleCall.respects_kept (c : HandleCall) :
    c.Respects fun p p' : Memory × ε ↦ p' = p ∧ I p.1 := by
  cases c with
  | verb v =>
    rintro _ p ⟨rfl, hp⟩
    exact ⟨rfl, rfl, hI (.verb v) p.1 hp⟩
  | _ => trivial

namespace Caller

variable {ρ : Type}

theorem respects_kept (c : Caller ε ρ) : c.Respects fun p p' ↦ p' = p ∧ I p.1 := by
  induction c with
  | done r => trivial
  | see next ih => exact ih
  | set e next ih => exact ih
  | self next ih => exact ih
  | ends next ih => exact ih
  | ask q free next ih => exact ih
  | start work next ihwork ih => exact ⟨ihwork, ih⟩
  | store c next ih =>
    refine ⟨?_, ih⟩
    rintro _ p ⟨rfl, hp⟩
    exact ⟨rfl, rfl, hI (.call c) p.1 hp⟩
  | call h c next ih => exact ⟨c.respects_kept hI, ih⟩
  | transaction h work next ihwork ih => exact ⟨ihwork, ih⟩

/-- Whatever handles a task uses, and however often, it keeps what every alteration keeps. -/
theorem upholds_task (c : Caller ε ρ) : c.task.Upholds I :=
  alike_task (Memory.likeness_kept hI) (c.respects_kept hI)

end Caller

end Kept

/-! ## Whatever happens -/

namespace World

theorem InStep.state {σ : Type} {R : σ → σ → Prop} {w w' : World σ} (h : w.InStep R w') :
    R w.state w'.state := by
  cases h with
  | intro hstate _ => exact hstate

/-- What every alteration keeps holds at all times if it holds at the beginning, whatever handles
tasks use, whenever they are started and cancelled, and in whatever order they go on. -/
theorem holds_after (hI : ∀ a m, I m → I (Alteration.run m a)) {m : Memory} (hm : I m) (e : ε)
    {xs : List (Happening (Memory × ε))} (hxs : ∀ x ∈ xs, x.Gives Machine.IsCaller) :
    I (xs.foldl after (.ofState (m, e))).memory := by
  -- the world runs beside itself, and what ties the two runs together is the property
  have hstart : (ofState (m, e)).InStep (fun p p' ↦ p' = p ∧ I p.1) (ofState (m, e)) :=
    .ofState ⟨rfl, hm⟩
  have hupholds (a : Action (Memory × ε) Unit) (ha : Machine.IsCaller a) : a.Upholds I := by
    obtain ⟨ρ, c, rfl⟩ := ha
    exact c.upholds_task hI
  exact (hstart.foldl_after fun x hx ↦ (hxs x hx).mono hupholds).state.2

/-- Whatever tasks do, some alterations lead to the memory that they leave. -/
theorem exists_altered (m : Memory) (e : ε) {xs : List (Happening (Memory × ε))}
    (hxs : ∀ x ∈ xs, x.Gives Machine.IsCaller) :
    ∃ as, (xs.foldl after (.ofState (m, e))).memory = m.altered as := by
  refine holds_after (I := fun m' ↦ ∃ as, m' = m.altered as) ?_ ⟨[], rfl⟩ e hxs
  rintro a _ ⟨as, rfl⟩
  exact ⟨as ++ [a], by rw [Memory.altered, Memory.altered, List.foldl_concat]⟩

end World

end RecordStore
