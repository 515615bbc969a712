import RecordStore.Datum.Decimal
import RecordStore.Proofs.Outcome
import RecordStore.Proofs.Value.Scalar

/-!
# Values that take on a kind

A value that takes on a kind stays as it is, or is a whole number that becomes a decimal.  Two
values that take on one kind can be compared, and they compare as they did before if they could be
compared then.

* `Value.coerce?_cases` tells what becomes of a value.
* `Value.settles_same?` and `Value.settles_before?` are the theorem above.
-/

namespace RecordStore.Value

open Outcome

variable {a a' v v' : Value} {k : Kind}

/-- A value stays as it is where it has the kind; otherwise a whole number becomes a decimal. -/
theorem coerce?_cases (hv : v.IsProper) (h : v.coerce? k = .ok v') :
    (v' = v ∧ (v.isNull = true ∨ v.kind = k)) ∨
      ∃ n, k = .decimal ∧ v = ⟨.integer, .integer n⟩ ∧ v' = ⟨.decimal, .decimal (.ofInt n)⟩ := by
  unfold coerce? at h
  split at h
  · rename_i hk
    cases h
    exact .inl ⟨rfl, hk.symm⟩
  · split at h
    · rename_i hk
      obtain ⟨kind, d⟩ := v
      obtain ⟨hinteger, rfl⟩ := hk
      cases hinteger
      cases d <;> try cases hv
      cases h
      exact .inr ⟨_, rfl, rfl, rfl⟩
    · cases h

/-- A value takes on a kind that it has, null takes on every kind, and a whole number becomes a
decimal. -/
theorem IsProper.exists_coerce?_iff (hv : v.IsProper) : (∃ v', v.coerce? k = .ok v') ↔
    v.isNull = true ∨ v.kind = k ∨ (v.kind = .integer ∧ k = .decimal) := by
  constructor
  · rintro ⟨v', h⟩
    rcases coerce?_cases hv h with ⟨-, hnull | hk⟩ | ⟨n, hk, rfl, -⟩
    · exact .inl hnull
    · exact .inr (.inl hk)
    · exact .inr (.inr ⟨rfl, hk⟩)
  · rintro (hnull | hk | ⟨hinteger, rfl⟩)
    · exact ⟨v, if_pos (.inr hnull)⟩
    · exact ⟨v, if_pos (.inl hk)⟩
    · obtain ⟨kind, d⟩ := v
      cases hinteger
      cases d <;> try cases hv
      exact ⟨_, rfl⟩

/-- The plain value of a value is a value of its kind again. -/
theorem IsProper.of?_data (hv : v.IsProper) : of? v.data = .ok v := by
  obtain ⟨kind, d⟩ := v
  cases kind <;> cases d <;> first | rfl | cases hv

/-- Null is what is null before. -/
theorem isNull_coerce? (h : v.coerce? k = .ok v') : v'.isNull = v.isNull := by
  unfold coerce? at h
  split at h
  · cases h
    rfl
  · split at h
    · rename_i hk
      obtain ⟨d, -, h⟩ := bind_eq_ok.mp h
      cases h
      simp [isNull, hk.1]
    · cases h

theorem IsProper.coerce? (hv : v.IsProper) (h : v.coerce? k = .ok v') : v'.Fits k := by
  rcases coerce?_cases hv h with ⟨rfl, hk⟩ | ⟨n, rfl, rfl, rfl⟩
  · exact ⟨hv, hk⟩
  · exact ⟨rfl, .inr rfl⟩

/-- No timestamp comes out that did not go in. -/
theorem AgreesInOffset.coerce? (h : a.AgreesInOffset v) (ha : a.IsProper) (hv : v.IsProper)
    (haa' : a.coerce? k = .ok a') (hvv' : v.coerce? k = .ok v') : a'.AgreesInOffset v' := by
  rcases coerce?_cases ha haa' with ⟨rfl, -⟩ | ⟨n, -, rfl, rfl⟩
  · rcases coerce?_cases hv hvv' with ⟨rfl, -⟩ | ⟨n, -, rfl, rfl⟩
    · exact h
    · exact fun t u _ hu ↦ by cases hu
  · exact fun t u ht ↦ by cases ht

/-- Values that have taken on one kind can be compared. -/
theorem comparable_coerce? (ha : a.IsProper) (hv : v.IsProper) (ho : a.AgreesInOffset v)
    (haa' : a.coerce? k = .ok a') (hvv' : v.coerce? k = .ok v') : a'.Comparable v' := by
  obtain ⟨ha', hka⟩ := ha.coerce? haa'
  obtain ⟨hv', hkv⟩ := hv.coerce? hvv'
  refine comparable_of_kind ha' hv' ?_ (ho.coerce? ha hv haa' hvv')
  rcases hka with hna | hka
  · exact .inl hna
  · rcases hkv with hnv | hkv
    · exact .inr (.inl hnv)
    · exact .inr (.inr (hka.trans hkv.symm))

/-- A whole number and another one are equal, or ordered, as the decimals are that they become. -/
theorem rank_ofInt (m n : Int) :
    let d (n : Int) : Value := ⟨.decimal, .decimal (.ofInt n)⟩
    let i (n : Int) : Value := ⟨.integer, .integer n⟩
    ((d m).rank = (d n).rank ↔ (i m).rank = (i n).rank) ∧
      ((d m).rank < (d n).rank ↔ (i m).rank < (i n).rank) := by
  have hd (n : Int) : (⟨.decimal, .decimal (.ofInt n)⟩ : Value).rank =
      (Scalar.number (((n : ℚ) : WithTop ℚ) : Extended) : WithBot Scalar) :=
    congrArg some (congrArg Scalar.number (Decimal.measure_ofInt n))
  have hi (n : Int) : (⟨.integer, .integer n⟩ : Value).rank =
      (Scalar.integer n : WithBot Scalar) := rfl
  simp only [hd, hi, WithBot.coe_lt_coe, WithBot.coe_inj, Scalar.number_lt, Scalar.integer_lt,
    Scalar.number.injEq, Scalar.integer.injEq, WithTop.coe_lt_coe, WithTop.coe_inj, Int.cast_lt,
    Int.cast_inj, and_self]

/-- Null comes before a whole number and before the decimal that it becomes. -/
theorem rank_ofInt_null (n : Int) :
    let d : Value := ⟨.decimal, .decimal (.ofInt n)⟩
    let i : Value := ⟨.integer, .integer n⟩
    null.rank < i.rank ∧ null.rank < d.rank := by
  have hd : (⟨.decimal, .decimal (.ofInt n)⟩ : Value).rank =
      (Scalar.number (Decimal.ofInt n).measure : WithBot Scalar) := rfl
  exact ⟨WithBot.bot_lt_coe _, hd ▸ WithBot.bot_lt_coe _⟩

/-- Two values that could be compared are ordered as before once they have taken on one kind. -/
theorem rank_coerce? (ha : a.IsProper) (hv : v.IsProper)
    (hk : a.isNull = true ∨ v.isNull = true ∨ a.kind = v.kind)
    (haa' : a.coerce? k = .ok a') (hvv' : v.coerce? k = .ok v') :
    (a'.rank = v'.rank ↔ a.rank = v.rank) ∧ (a'.rank < v'.rank ↔ a.rank < v.rank) := by
  rcases coerce?_cases ha haa' with ⟨rfl, hka⟩ | ⟨m, rfl, rfl, rfl⟩ <;>
    rcases coerce?_cases hv hvv' with ⟨rfl, hkv⟩ | ⟨n, hkn, rfl, rfl⟩
  · exact ⟨.rfl, .rfl⟩
  · -- what is not widened beside a whole number, but can be compared with it, is null
    have hnull : a'.isNull = true := by
      subst hkn
      rcases hk with hn | hn | hk
      · exact hn
      · cases hn
      · exact hka.resolve_right (by rw [hk]; exact nofun)
    rw [ha.eq_null hnull]
    obtain ⟨hi, hd⟩ := rank_ofInt_null n
    exact ⟨iff_of_false hd.ne hi.ne, iff_of_true hd hi⟩
  · have hnull : v'.isNull = true := by
      rcases hk with hn | hn | hk
      · cases hn
      · exact hn
      · exact hkv.resolve_right (by rw [← hk]; exact nofun)
    rw [hv.eq_null hnull]
    obtain ⟨hi, hd⟩ := rank_ofInt_null m
    exact ⟨iff_of_false hd.ne' hi.ne', iff_of_false hd.not_gt hi.not_gt⟩
  · exact rank_ofInt m n

/-- Values that cannot be compared are neither equal nor ordered. -/
theorem incomparable (hk : ¬(a.isNull = true ∨ v.isNull = true ∨ a.kind = v.kind)) :
    ∃ f, a.same? v = .error f ∧ a.before? v = .error f := by
  simp only [not_or, Bool.not_eq_true] at hk
  obtain ⟨hna, hnv, hkinds⟩ := hk
  have hcomparable : a.comparable? v = .error (.filterType (.cannotCompare a.kind v.kind)) :=
    if_neg hkinds
  exact ⟨_, by rw [same?, hna, hnv, hcomparable]; rfl,
    by rw [before?, hna, hnv, hcomparable]; rfl⟩

theorem settles_same? (ha : a.IsProper) (hv : v.IsProper) (ho : a.AgreesInOffset v)
    (haa' : a.coerce? k = .ok a') (hvv' : v.coerce? k = .ok v') :
    Settles (a.same? v) (a'.same? v') := by
  rw [same?_eq (ha.coerce? haa').1 (hv.coerce? hvv').1 (comparable_coerce? ha hv ho haa' hvv')]
  by_cases hk : a.isNull = true ∨ v.isNull = true ∨ a.kind = v.kind
  · rw [same?_eq ha hv (comparable_of_kind ha hv hk ho)]
    have hrank := (rank_coerce? ha hv hk haa' hvv').1
    simp only [hrank]
    exact settles_ok _
  · obtain ⟨f, hsame, -⟩ := incomparable hk
    rw [hsame]
    exact settles_error f _

theorem settles_before? (ha : a.IsProper) (hv : v.IsProper) (ho : a.AgreesInOffset v)
    (haa' : a.coerce? k = .ok a') (hvv' : v.coerce? k = .ok v') :
    Settles (a.before? v) (a'.before? v') := by
  rw [before?_eq (ha.coerce? haa').1 (hv.coerce? hvv').1 (comparable_coerce? ha hv ho haa' hvv')]
  by_cases hk : a.isNull = true ∨ v.isNull = true ∨ a.kind = v.kind
  · rw [before?_eq ha hv (comparable_of_kind ha hv hk ho)]
    have hrank := (rank_coerce? ha hv hk haa' hvv').2
    simp only [hrank]
    exact settles_ok _
  · obtain ⟨f, -, hbefore⟩ := incomparable hk
    rw [hbefore]
    exact settles_error f _

end RecordStore.Value
