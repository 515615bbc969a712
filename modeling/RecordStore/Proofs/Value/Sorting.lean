import Mathlib.Data.List.Sort
import Mathlib.Order.Defs.LinearOrder
import RecordStore.Proofs.Outcome
import RecordStore.Value.Sort

/-!
# Sorting is stable

Where comparing never fails and is the order of some ranks, sorting gives the elements back in the
order of their ranks, and those of one rank in the order in which they were.

* `Sorting.RankedApart` is the assumption, `Sorting.Stable` says of two lists that they agree on the
  elements of every rank.
* `Sorting.sort_eq_ok` is the theorem above, for both directions.
-/

namespace RecordStore

/-- The order of two ranks in a direction. -/
noncomputable def Direction.compare {β : Type} [LinearOrder β] (dir : Direction) (b c : β) :
    Ordering :=
  match dir with
  | .ascending => Ord.compare b c
  | .descending => Ord.compare c b

theorem isLE_compare {β : Type} [LinearOrder β] {b c : β} :
    (Ord.compare b c).isLE = true ↔ b ≤ c := by
  rw [← Ordering.ne_gt_iff_isLE]
  exact compare_le_iff_le

theorem Direction.compare_eq_eq {β : Type} [LinearOrder β] {dir : Direction} {b c : β} :
    dir.compare b c = .eq ↔ b = c := by
  cases dir
  · exact compare_eq_iff_eq
  · exact compare_eq_iff_eq.trans eq_comm

theorem Direction.eq_of_isLE {β : Type} [LinearOrder β] {dir : Direction} {b c : β}
    (h : (dir.compare b c).isLE = true) (h' : (dir.compare c b).isLE = true) : b = c := by
  cases dir
  · exact le_antisymm (isLE_compare.mp h) (isLE_compare.mp h')
  · exact le_antisymm (isLE_compare.mp h') (isLE_compare.mp h)

namespace Sorting

variable {α β : Type} [LinearOrder β] {before? : α → α → Outcome Bool} {rank : α → β}
  {xs ys zs : List α} {x : α}

/-- Comparing two of the elements never fails, and it compares their ranks. -/
def Ranked (before? : α → α → Outcome Bool) (rank : α → β) (xs : List α) : Prop :=
  ∀ a ∈ xs, ∀ b ∈ xs, before? a b = .ok (decide (rank a < rank b))

/-- Comparing elements in different places never fails, and it compares their ranks.  No element is
ever compared with itself. -/
def RankedApart (before? : α → α → Outcome Bool) (rank : α → β) (xs : List α) : Prop :=
  xs.Pairwise fun a b ↦ before? a b = .ok (decide (rank a < rank b)) ∧
    before? b a = .ok (decide (rank b < rank a))

/-- The elements of every rank are the same, in the same order. -/
def Stable (rank : α → β) (xs ys : List α) : Prop :=
  ∀ c, ys.filter (rank · = c) = xs.filter (rank · = c)

theorem Stable.refl (xs : List α) : Stable rank xs xs := fun _ ↦ rfl

theorem Stable.trans (h : Stable rank xs ys) (h' : Stable rank ys zs) : Stable rank xs zs :=
  fun c ↦ (h' c).trans (h c)

theorem Stable.perm (h : Stable rank xs ys) : ys.Perm xs := by
  classical
  rw [List.perm_iff_count]
  intro a
  have hcount (l : List α) : l.count a = (l.filter (rank · = rank a)).count a :=
    (List.count_filter (by simp)).symm
  rw [hcount ys, hcount xs, h]

theorem Stable.reverse (h : Stable rank xs ys) : Stable rank xs.reverse ys.reverse := by
  intro c
  rw [List.filter_reverse, List.filter_reverse, h]

theorem Stable.append_right (h : Stable rank xs ys) (zs : List α) :
    Stable rank (xs ++ zs) (ys ++ zs) := by
  intro c
  rw [List.filter_append, List.filter_append, h]

/-- What is true of elements that stand one behind the other stays true of those of one rank. -/
theorem Stable.pairwise {R : α → α → Prop} (h : Stable rank xs ys) (hxs : xs.Pairwise R) :
    ys.Pairwise fun a b ↦ rank a = rank b → R a b := by
  rw [List.pairwise_iff_forall_sublist]
  intro a b hab heq
  -- both have the rank of the first, and the elements of this rank kept their order
  have hclass := hab.filter fun x ↦ decide (rank x = rank a)
  rw [h] at hclass
  have hpair : [a, b].Sublist xs := by
    have hboth := hclass.trans List.filter_sublist
    simpa [heq] using hboth
  exact hxs.forall_sublist hpair

/-- What only elements of one rank have, they have in the same order. -/
theorem Stable.filter_eq (h : Stable rank xs ys) {p : α → Bool} {c : β}
    (hp : ∀ a ∈ xs, p a = true → rank a = c) : ys.filter p = xs.filter p := by
  have hclass {zs : List α} (hzs : ∀ a ∈ zs, p a = true → rank a = c) :
      zs.filter p = (zs.filter (rank · = c)).filter p := by
    rw [List.filter_filter]
    refine List.filter_congr fun a ha ↦ ?_
    cases hpa : p a with
    | false => rfl
    | true => simp [hzs a ha hpa]
  rw [hclass hp, hclass fun a ha ↦ hp a (h.perm.subset ha), h]

theorem Ranked.apart (h : Ranked before? rank xs) : RankedApart before? rank xs := by
  refine List.Pairwise.imp_of_mem (R := fun _ _ ↦ True) ?_
    (List.pairwise_of_forall fun _ _ ↦ trivial)
  intro a b ha hb _
  exact ⟨h a ha b hb, h b hb a ha⟩

theorem RankedApart.of_perm (h : RankedApart before? rank xs) (hp : ys.Perm xs) :
    RankedApart before? rank ys :=
  hp.symm.pairwise h And.symm

/-- An element is put behind those that do not come after it. -/
theorem insert_eq_ok (h : ∀ y ∈ ys, before? x y = .ok (decide (rank x < rank y)))
    (hs : ys.Pairwise (rank · ≤ rank ·)) :
    ∃ u v, ys = u ++ v ∧ insert before? x ys = .ok (u ++ x :: v) ∧ (∀ y ∈ u, rank y ≤ rank x) ∧
      ∀ y ∈ v, rank x < rank y := by
  induction hn : ys.length using Nat.strongRecOn generalizing ys with
  | _ n ih =>
  rw [insert]
  split
  · rename_i hlt
    -- the list around its middle
    have hsplit : ys = ys.take (ys.length / 2) ++ ys[ys.length / 2] ::
        ys.drop (ys.length / 2 + 1) := by
      rw [← List.drop_eq_getElem_cons hlt, List.take_append_drop]
    have hfront : (ys.take (ys.length / 2)).length < n := by
      rw [List.length_take]
      omega
    have hback : (ys.drop (ys.length / 2 + 1)).length < n := by
      rw [List.length_drop]
      omega
    generalize ys.take (ys.length / 2) = front at hsplit hfront ⊢
    generalize ys.drop (ys.length / 2 + 1) = back at hsplit hback ⊢
    generalize ys[ys.length / 2] = middle at hsplit ⊢
    clear hlt hn
    subst hsplit
    rw [List.pairwise_append, List.pairwise_cons] at hs
    obtain ⟨hsfront, ⟨hmiddle, hsback⟩, hcross⟩ := hs
    simp only [h middle (by simp), Outcome.ok_bind, decide_eq_true_eq]
    by_cases hx : rank x < rank middle
    · obtain ⟨u, v, rfl, hins, hu, hv⟩ :=
        ih _ hfront (fun y hy ↦ h y (by simp [hy])) hsfront rfl
      refine ⟨u, v ++ middle :: back, by simp, by simp [hx, hins], hu, ?_⟩
      intro y hy
      simp only [List.mem_append, List.mem_cons] at hy
      rcases hy with hy | rfl | hy
      · exact hv y hy
      · exact hx
      · exact hx.trans_le (hmiddle y hy)
    · obtain ⟨u, v, rfl, hins, hu, hv⟩ :=
        ih _ hback (fun y hy ↦ h y (by simp [hy])) hsback rfl
      refine ⟨front ++ middle :: u, v, by simp, by simp [hx, hins], ?_, hv⟩
      intro y hy
      simp only [List.mem_append, List.mem_cons] at hy
      rcases hy with hy | rfl | hy
      · exact (hcross y hy middle (by simp)).trans (not_lt.mp hx)
      · exact not_lt.mp hx
      · exact hu y hy
  · rename_i hge
    have hnil : ys = [] := by
      cases ys with
      | nil => rfl
      | cons y ys =>
        exact absurd (Nat.div_lt_self (by simp) (by decide)) hge
    subst hnil
    exact ⟨[], [], rfl, rfl, by simp, by simp⟩

/-- Putting one element into its place keeps the list in order, and is like adding it at the
end. -/
theorem insert_sorted (h : ∀ y ∈ ys, before? x y = .ok (decide (rank x < rank y)))
    (hs : ys.Pairwise (rank · ≤ rank ·)) :
    ∃ zs, insert before? x ys = .ok zs ∧ zs.Pairwise (rank · ≤ rank ·) ∧
      Stable rank (ys ++ [x]) zs := by
  obtain ⟨u, v, rfl, hins, hu, hv⟩ := insert_eq_ok h hs
  refine ⟨_, hins, ?_, ?_⟩
  · rw [List.pairwise_append] at hs ⊢
    refine ⟨hs.1, List.pairwise_cons.mpr ⟨fun y hy ↦ (hv y hy).le, hs.2.1⟩, ?_⟩
    intro a ha b hb
    rcases List.mem_cons.mp hb with rfl | hb
    · exact hu a ha
    · exact hs.2.2 a ha b hb
  · intro c
    have hnone : rank x = c → v.filter (rank · = c) = [] := by
      rintro rfl
      rw [List.filter_eq_nil_iff]
      intro y hy
      simpa using (hv y hy).ne'
    by_cases hc : rank x = c
    · simp [List.filter_append, hc, hnone hc]
    · simp [List.filter_append, hc]

/-- Putting in the elements one after another. -/
theorem foldlM_insert (hr : RankedApart before? rank (ys ++ xs))
    (hs : ys.Pairwise (rank · ≤ rank ·)) :
    ∃ zs, xs.foldlM (fun sorted x ↦ insert before? x sorted) ys = .ok zs ∧
      zs.Pairwise (rank · ≤ rank ·) ∧ Stable rank (ys ++ xs) zs := by
  induction xs generalizing ys with
  | nil => exact ⟨ys, rfl, hs, by simpa using Stable.refl ys⟩
  | cons x xs ih =>
    have hfirst : ∀ y ∈ ys, before? x y = .ok (decide (rank x < rank y)) :=
      fun y hy ↦ ((List.pairwise_append.mp hr).2.2 y hy x List.mem_cons_self).2
    obtain ⟨zs, hins, hzs, hstable⟩ := insert_sorted hfirst hs
    have happend : Stable rank (ys ++ x :: xs) (zs ++ xs) := by
      simpa using hstable.append_right xs
    obtain ⟨ws, hfold, hws, hstable'⟩ := ih (hr.of_perm happend.perm) hzs
    exact ⟨ws, by rw [List.foldlM_cons, hins]; exact hfold, hws, happend.trans hstable'⟩

/-- The run at the front is what it is made of, and each element of it stands in the order of the
run to the one before. -/
theorem splitRun_eq_ok (descending : Bool) {last : α} (h : RankedApart before? rank (last :: xs)) :
    ∃ run rest, splitRun before? descending last xs = .ok (run, rest) ∧ xs = run ++ rest ∧
      List.IsChain (fun a b ↦ decide (rank b < rank a) = descending) (last :: run) := by
  induction xs generalizing last with
  | nil => exact ⟨[], [], rfl, rfl, .singleton last⟩
  | cons x xs ih =>
    obtain ⟨hfirst, htail⟩ := List.pairwise_cons.mp h
    rw [splitRun, (hfirst x List.mem_cons_self).2]
    by_cases hx : decide (rank x < rank last) = descending
    · obtain ⟨run, rest, hrun, rfl, hchain⟩ := ih htail
      exact ⟨x :: run, rest, by simp [hx, hrun], rfl, .cons_cons hx hchain⟩
    · exact ⟨[], x :: xs, by simp [hx], rfl, .singleton last⟩

/-- Turning a list around that falls at every step changes nothing within a rank. -/
theorem stable_reverse (h : xs.Pairwise fun a b ↦ rank b < rank a) :
    Stable rank xs xs.reverse := by
  intro c
  rw [List.filter_reverse]
  have hfilter := h.filter (rank · = c)
  have hrank : ∀ a ∈ xs.filter (rank · = c), rank a = c := by simp
  match xs.filter (rank · = c), hfilter, hrank with
  | [], _, _ => rfl
  | [a], _, _ => rfl
  | a :: b :: rest, hfilter, hrank =>
    have hlt : rank b < rank a := (List.pairwise_cons.mp hfilter).1 b (by simp)
    rw [hrank a (by simp), hrank b (by simp)] at hlt
    exact absurd hlt (lt_irrefl c)

/-- The run at the front comes out in order, whichever direction it had. -/
theorem takeRun_eq_ok (h : RankedApart before? rank xs) :
    ∃ run rest, takeRun before? xs = .ok (run, rest) ∧ run.Pairwise (rank · ≤ rank ·) ∧
      Stable rank xs (run ++ rest) := by
  match xs, h with
  | [], _ => exact ⟨[], [], rfl, .nil, .refl _⟩
  | [x], _ => exact ⟨[x], [], rfl, by simp, .refl _⟩
  | x :: y :: xs, h =>
    obtain ⟨hfirst, htail⟩ := List.pairwise_cons.mp h
    obtain ⟨run, rest, hrun, rfl, hchain⟩ := splitRun_eq_ok (rank y < rank x) htail
    rw [takeRun, (hfirst y List.mem_cons_self).2]
    simp only [Outcome.ok_bind, hrun]
    by_cases hyx : rank y < rank x
    · let fall (a b : α) : Prop := rank b < rank a
      have : Trans fall fall fall := ⟨fun h h' ↦ h'.trans h⟩
      have hrun : List.IsChain fall (y :: run) := hchain.imp fun a b h ↦ by simpa [hyx] using h
      have hwhole : List.IsChain fall (x :: y :: run) := .cons_cons hyx hrun
      have hfall : (x :: y :: run).Pairwise fall := hwhole.pairwise
      refine ⟨(x :: y :: run).reverse, rest, by simp [hyx], ?_, ?_⟩
      · exact List.pairwise_reverse.mpr (hfall.imp le_of_lt)
      · exact (stable_reverse hfall).append_right rest
    · let rise (a b : α) : Prop := rank a ≤ rank b
      have : Trans rise rise rise := ⟨le_trans⟩
      have hrun : List.IsChain rise (y :: run) := hchain.imp fun a b h ↦ by simpa [hyx] using h
      have hwhole : List.IsChain rise (x :: y :: run) := .cons_cons (not_lt.mp hyx) hrun
      exact ⟨x :: y :: run, rest, by simp [hyx], hwhole.pairwise, .refl _⟩

/-- Sorting into ascending order. -/
theorem ascending_eq_ok (h : RankedApart before? rank xs) :
    ∃ ys, ascending before? xs = .ok ys ∧ ys.Pairwise (rank · ≤ rank ·) ∧ Stable rank xs ys := by
  obtain ⟨run, rest, hrun, hsorted, hstable⟩ := takeRun_eq_ok h
  obtain ⟨ys, hys, hpairwise, hstable'⟩ := foldlM_insert (h.of_perm hstable.perm) hsorted
  exact ⟨ys, by rw [ascending, hrun]; exact hys, hpairwise, hstable.trans hstable'⟩

/-- Sorting in either direction puts the elements in order, and those of one rank stay in theirs. -/
theorem sort_eq_ok (h : RankedApart before? rank xs) (dir : Direction) :
    ∃ ys, sort before? dir xs = .ok ys ∧
      ys.Pairwise (fun a b ↦ (dir.compare (rank a) (rank b)).isLE) ∧ Stable rank xs ys := by
  cases dir with
  | ascending =>
    obtain ⟨ys, hys, hsorted, hstable⟩ := ascending_eq_ok h
    exact ⟨ys, hys, hsorted.imp isLE_compare.mpr, hstable⟩
  | descending =>
    obtain ⟨ys, hys, hsorted, hstable⟩ := ascending_eq_ok (h.of_perm xs.reverse_perm)
    refine ⟨ys.reverse, by rw [sort, hys]; rfl, ?_, ?_⟩
    · exact List.pairwise_reverse.mpr (hsorted.imp isLE_compare.mpr)
    · have hreverse := hstable.reverse
      rwa [List.reverse_reverse] at hreverse

end Sorting

end RecordStore
