import RecordStore.Proofs.Value.Scalar
import RecordStore.Proofs.Value.Sorting
import RecordStore.Query.Run

/-!
# The order of a query

Going through the keys from the last to the first with a stable sort puts records into the
lexicographic order of the keys, the first key counting most.

* `Query.compareBy` is the lexicographic order.
* `Query.sort?_eq_ok` is the theorem above.
-/

namespace RecordStore

namespace Query

variable {keys : List OrderKey} {rs : List Record}

/-- Two records by the first of the keys in which they differ. -/
noncomputable def compareBy : List OrderKey → Record → Record → Ordering
  | [], _, _ => .eq
  | key :: keys, a, b =>
    (key.direction.direction.compare (a.stored key.field).rank (b.stored key.field).rank).then
      (compareBy keys a b)

/-- Records that tie on every key have the same ranks in all of their fields. -/
theorem compareBy_eq_eq {a b : Record} :
    compareBy keys a b = .eq ↔
      ∀ key ∈ keys, (a.stored key.field).rank = (b.stored key.field).rank := by
  induction keys with
  | nil => simp [compareBy]
  | cons key keys ih => simp [compareBy, Direction.compare_eq_eq, ih]

/-- Records that may stand in either order tie. -/
theorem compareBy_antisymm {a b : Record} (hab : (compareBy keys a b).isLE = true)
    (hba : (compareBy keys b a).isLE = true) : compareBy keys a b = .eq := by
  induction keys with
  | nil => rfl
  | cons key keys ih =>
    rw [compareBy, Ordering.isLE_then_iff_and] at hab hba
    have heq := Direction.eq_of_isLE hab.1 hba.1
    have hfirst : key.direction.direction.compare (a.stored key.field).rank
        (b.stored key.field).rank = .eq := Direction.compare_eq_eq.mpr heq
    have hsecond : key.direction.direction.compare (b.stored key.field).rank
        (a.stored key.field).rank = .eq := Direction.compare_eq_eq.mpr heq.symm
    rw [hfirst] at hab
    rw [hsecond] at hba
    rw [compareBy, hfirst]
    exact ih (hab.2.resolve_left (by decide)) (hba.2.resolve_left (by decide))

/-- Every key is a field in which the values can be compared. -/
def Sortable (keys : List OrderKey) (rs : List Record) : Prop :=
  ∀ key ∈ keys, key.field.isHashable = true ∧
    ∀ a ∈ rs, ∀ b ∈ rs, (a.stored key.field).IsProper ∧
      (a.stored key.field).Comparable (b.stored key.field)

theorem Sortable.ranked {key : OrderKey} (h : Sortable keys rs) (hkey : key ∈ keys) :
    Sorting.Ranked (before? key.field) (fun r ↦ (r.stored key.field).rank) rs := by
  intro a ha b hb
  have hab := (h key hkey).2 a ha b hb
  exact Value.before?_eq hab.1 ((h key hkey).2 b hb a ha).1 hab.2

/-- Where a list is in the order of some keys and a stable sort puts it into the order of another
one, it is in the order of all of them. -/
theorem pairwise_of_stable {key : OrderKey} {xs ys : List Record}
    (hsorted : ys.Pairwise fun a b ↦ (key.direction.direction.compare
      (a.stored key.field).rank (b.stored key.field).rank).isLE = true)
    (hstable : Sorting.Stable (fun r ↦ (r.stored key.field).rank) xs ys)
    (hxs : xs.Pairwise fun a b ↦ (compareBy keys a b).isLE = true) :
    ys.Pairwise fun a b ↦ (compareBy (key :: keys) a b).isLE = true := by
  refine (hsorted.and (hstable.pairwise hxs)).imp fun {a b} h ↦ ?_
  obtain ⟨hle, htie⟩ := h
  rw [compareBy, Ordering.isLE_then_iff_and]
  refine ⟨hle, ?_⟩
  rcases Ordering.isLE_iff_eq_lt_or_eq_eq.mp hle with hlt | heq
  · exact .inl hlt
  · exact .inr (htie (Direction.compare_eq_eq.mp heq))

/-- Sorting by one key is stable, where values can be stored under the key if there are any. -/
theorem sortBy?_eq_ok {β : Type} [LinearOrder β] {rank : Record → β} {key : OrderKey}
    (hkey : ∀ r ∈ rs, key.field.isHashable = true)
    (h : Sorting.RankedApart (before? key.field) rank rs) :
    ∃ ys, sortBy? key rs = .ok ys ∧
      ys.Pairwise (fun a b ↦ (key.direction.direction.compare (rank a) (rank b)).isLE = true) ∧
      Sorting.Stable rank rs ys := by
  obtain ⟨ys, hys, hsorted, hstable⟩ := Sorting.sort_eq_ok h key.direction.direction
  refine ⟨ys, ?_, hsorted, hstable⟩
  have hpasses : (key.field.isHashable || rs.isEmpty) = true := by
    cases rs with
    | nil => exact Bool.or_true _
    | cons r rs => rw [hkey r List.mem_cons_self, Bool.true_or]
  rw [sortBy?, if_pos hpasses]
  exact hys

/-- Sorting by several keys is one stable pass for each of them, from the last to the first: what
every pass keeps is true of the list in the end. -/
theorem sort?_passes {β : Type} [LinearOrder β] {rank : OrderKey → Record → β}
    {P : List OrderKey → List Record → Prop}
    (hkeys : ∀ key ∈ keys, ∀ r ∈ rs, key.field.isHashable = true)
    (hranked : ∀ key ∈ keys, Sorting.RankedApart (before? key.field) (rank key) rs)
    (hnone : P [] rs)
    (hpass : ∀ key ∈ keys, ∀ rest xs ys, P rest xs → xs.Perm rs →
      ys.Pairwise (fun a b ↦
        (key.direction.direction.compare (rank key a) (rank key b)).isLE = true) →
      Sorting.Stable (rank key) xs ys → P (key :: rest) ys) :
    ∃ ys, sort? keys rs = .ok ys ∧ ys.Perm rs ∧ P keys ys := by
  induction keys with
  | nil => exact ⟨rs, rfl, .refl _, hnone⟩
  | cons key keys ih =>
    obtain ⟨xs, hxs, hperm, hP⟩ := ih (fun k hk ↦ hkeys k (.tail _ hk))
      (fun k hk ↦ hranked k (.tail _ hk)) fun k hk ↦ hpass k (.tail _ hk)
    obtain ⟨ys, hys, hsorted, hstable⟩ := sortBy?_eq_ok
      (fun r hr ↦ hkeys key List.mem_cons_self r (hperm.subset hr))
      ((hranked key List.mem_cons_self).of_perm hperm)
    refine ⟨ys, ?_, hstable.perm.trans hperm, ?_⟩
    · rw [sort?, hxs, Outcome.ok_bind, hys]
    · exact hpass key List.mem_cons_self keys xs ys hP hperm hsorted hstable

/-- Sorting by several keys gives all the records in the order of the keys. -/
theorem sort?_eq_ok (h : Sortable keys rs) :
    ∃ ys, sort? keys rs = .ok ys ∧ ys.Perm rs ∧
      ys.Pairwise fun a b ↦ (compareBy keys a b).isLE = true := by
  let Ordered (keys : List OrderKey) (ys : List Record) : Prop :=
    ys.Pairwise fun a b ↦ (compareBy keys a b).isLE = true
  have hnone : Ordered [] rs := List.pairwise_of_forall fun _ _ ↦ rfl
  refine sort?_passes (P := Ordered) (fun key hkey _ _ ↦ (h key hkey).1)
    (fun key hkey ↦ (h.ranked hkey).apart) hnone ?_
  intro key _ rest xs ys hxs _ hsorted hstable
  exact pairwise_of_stable hsorted hstable hxs

end Query

end RecordStore
