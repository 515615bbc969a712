import Mathlib.Data.List.Forall2
import RecordStore.Fault.Basic

/-!
# Outcomes, step by step

A computation that may fail gives a result if and only if every step of it does.

* `Outcome.Settles` says that a computation has a result, which another one has too unless it fails.
* `Outcome.Agree` says that two computations have results that are related, or the same fault.
* `Outcome.Avoids` says that a computation reports no fault of some sort.
-/

namespace RecordStore.Outcome

variable {α β : Type}

@[simp] theorem pure_eq (a : α) : (pure a : Outcome α) = .ok a := rfl

@[simp] theorem throw_eq (f : Fault) : (throw f : Outcome α) = .error f := rfl

@[simp] theorem ok_bind (a : α) (k : α → Outcome β) : (Except.ok a : Outcome α) >>= k = k a := rfl

@[simp] theorem error_bind (f : Fault) (k : α → Outcome β) :
    (Except.error f : Outcome α) >>= k = .error f := rfl

/-- A step after another gives a result if both do. -/
theorem bind_eq_ok {x : Outcome α} {k : α → Outcome β} {b : β} :
    x >>= k = .ok b ↔ ∃ a, x = .ok a ∧ k a = .ok b := by
  cases x with
  | error f => simp
  | ok a => simp

/-- A step after another fails if one of them does. -/
theorem bind_eq_error {x : Outcome α} {k : α → Outcome β} {f : Fault} :
    x >>= k = .error f ↔ x = .error f ∨ ∃ a, x = .ok a ∧ k a = .error f := by
  cases x with
  | error g => simp
  | ok a => simp

/-- Steps along a list give results if every one of them does. -/
theorem mapM_eq_ok {f : α → Outcome β} {xs : List α} {ys : List β} :
    xs.mapM f = .ok ys ↔ List.Forall₂ (fun x y ↦ f x = .ok y) xs ys := by
  induction xs generalizing ys with
  | nil => simp [eq_comm]
  | cons x xs ih =>
    rw [List.mapM_cons, List.forall₂_cons_left_iff, bind_eq_ok]
    constructor
    · rintro ⟨y, hy, h⟩
      obtain ⟨zs, hzs, h⟩ := bind_eq_ok.mp h
      cases h
      exact ⟨y, zs, hy, ih.mp hzs, rfl⟩
    · rintro ⟨y, zs, hy, hzs, rfl⟩
      exact ⟨y, hy, bind_eq_ok.mpr ⟨zs, ih.mpr hzs, rfl⟩⟩

/-- Steps along a list give results if every one of them does, whatever the results are. -/
theorem exists_mapM_eq_ok {f : α → Outcome β} {xs : List α} :
    (∃ ys, xs.mapM f = .ok ys) ↔ ∀ x ∈ xs, ∃ y, f x = .ok y := by
  simp only [mapM_eq_ok]
  induction xs with
  | nil => simp
  | cons x xs ih =>
    rw [List.forall_mem_cons, ← ih]
    constructor
    · rintro ⟨ys, h⟩
      cases h with
      | cons hx hxs => exact ⟨⟨_, hx⟩, _, hxs⟩
    · rintro ⟨⟨y, hy⟩, ys, hys⟩
      exact ⟨y :: ys, .cons hy hys⟩

theorem mapM_congr {f g : α → Outcome β} {xs : List α} (h : ∀ x ∈ xs, f x = g x) :
    xs.mapM f = xs.mapM g := by
  induction xs with
  | nil => rfl
  | cons x xs ih =>
    rw [List.mapM_cons, List.mapM_cons, h x (by simp), ih fun y hy ↦ h y (by simp [hy])]

/-- What is related along two lists has something for every member of the second one. -/
theorem exists_of_mem_forall₂ {R : α → β → Prop} {xs : List α} {ys : List β}
    (h : List.Forall₂ R xs ys) {y : β} (hy : y ∈ ys) : ∃ x ∈ xs, R x y := by
  induction h with
  | nil => cases hy
  | @cons x y' xs ys hxy _ ih =>
    rcases List.mem_cons.mp hy with rfl | hy
    · exact ⟨x, by simp, hxy⟩
    · obtain ⟨x', hx', h⟩ := ih hy
      exact ⟨x', by simp [hx'], h⟩

/-- What comes out along a list comes from a member of it. -/
theorem exists_of_mem_mapM {f : α → Outcome β} {xs : List α} {ys : List β}
    (h : xs.mapM f = .ok ys) {y : β} (hy : y ∈ ys) : ∃ x ∈ xs, f x = .ok y :=
  exists_of_mem_forall₂ (mapM_eq_ok.mp h) hy

/-- The second outcome is a result, and the first is no other one. -/
def Settles (x y : Outcome α) : Prop := ∃ a, y = .ok a ∧ ∀ b, x = .ok b → b = a

theorem settles_ok (a : α) : Settles (.ok a) (.ok a) := ⟨a, rfl, fun _ h ↦ (Except.ok.inj h).symm⟩

theorem settles_error (f : Fault) (a : α) : Settles (.error f) (.ok a) := ⟨a, rfl, nofun⟩

/-- What is settled step by step is settled. -/
theorem Settles.bind {x y : Outcome α} {k l : α → Outcome β} (h : Settles x y)
    (hk : ∀ a, Settles (k a) (l a)) : Settles (x >>= k) (y >>= l) := by
  obtain ⟨a, rfl, ha⟩ := h
  obtain ⟨b, hb, hkb⟩ := hk a
  refine ⟨b, hb, fun c hc ↦ ?_⟩
  obtain ⟨a', hx, hc⟩ := bind_eq_ok.mp hc
  obtain rfl := ha a' hx
  exact hkb c hc

/-- Both outcomes are results, and these are related, or both are the same fault. -/
inductive Agree (R : α → β → Prop) : Outcome α → Outcome β → Prop
  | ok {a : α} {b : β} (h : R a b) : Agree R (.ok a) (.ok b)
  | error (f : Fault) : Agree R (.error f) (.error f)

/-- What agrees step by step agrees. -/
theorem Agree.bind {γ δ : Type} {R : α → β → Prop} {S : γ → δ → Prop} {x : Outcome α}
    {y : Outcome β} {k : α → Outcome γ} {l : β → Outcome δ} (h : Agree R x y)
    (hk : ∀ a b, R a b → Agree S (k a) (l b)) : Agree S (x >>= k) (y >>= l) := by
  cases h with
  | ok h => exact hk _ _ h
  | error f => exact .error f

/-- What agrees after one and the same step agrees. -/
theorem Agree.after {γ δ : Type} {S : γ → δ → Prop} {k : α → Outcome γ} {l : α → Outcome δ}
    (x : Outcome α) (h : ∀ a, Agree S (k a) (l a)) : Agree S (x >>= k) (x >>= l) := by
  cases x with
  | ok a => exact h a
  | error f => exact .error f

theorem agree_eq_iff {x y : Outcome α} : Agree Eq x y ↔ x = y := by
  constructor
  · rintro (rfl | f) <;> rfl
  · rintro rfl
    cases x with
    | ok a => exact .ok rfl
    | error f => exact .error f

/-- The computation reports no such fault. -/
def Avoids (bad : Fault → Bool) (x : Outcome α) : Prop := ∀ f, x = .error f → bad f = false

variable {bad : Fault → Bool}

theorem avoids_ok (a : α) : Avoids bad (.ok a : Outcome α) := nofun

theorem avoids_error {f : Fault} (h : bad f = false) : Avoids bad (.error f : Outcome α) := by
  intro g hg
  cases hg
  exact h

/-- What every step avoids is avoided. -/
theorem Avoids.bind {x : Outcome α} {k : α → Outcome β} (hx : Avoids bad x)
    (hk : ∀ a, x = .ok a → Avoids bad (k a)) : Avoids bad (x >>= k) := by
  cases x with
  | error f => exact avoids_error (hx f rfl)
  | ok a => exact hk a rfl

theorem Avoids.mapM {f : α → Outcome β} {xs : List α} (h : ∀ x ∈ xs, Avoids bad (f x)) :
    Avoids bad (xs.mapM f) := by
  induction xs with
  | nil => exact avoids_ok []
  | cons x xs ih =>
    rw [List.mapM_cons]
    refine (h x (by simp)).bind fun y _ ↦ ?_
    exact (ih fun z hz ↦ h z (by simp [hz])).bind fun ys _ ↦ avoids_ok _

end RecordStore.Outcome
