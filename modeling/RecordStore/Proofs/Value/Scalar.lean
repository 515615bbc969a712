import Mathlib.Data.List.Lex
import Mathlib.Data.Prod.Lex
import Mathlib.Data.String.Basic
import RecordStore.Proofs.Number.Measure
import RecordStore.Value.Basic

/-!
# What values stand for

A `Scalar` is what a plain value stands for, whatever its written form: decimals by their number,
texts by their code points, timestamps by their instant.  Scalars of one type are linearly ordered,
and so are the values of one kind, null coming first.

* `Datum.scalar?` is the scalar of a plain value, `Value.rank` that of a tagged one.
* `Value.Fits` says that a value is null or of a kind, with data of that kind.
* `Value.same?_eq` and `Value.before?_eq` read equality and order off the ranks, on values that are
  `Value.Comparable`.
-/

namespace RecordStore

/-- What a plain value stands for. -/
inductive Scalar where
  | boolean (b : Bool)
  | integer (n : Int)
  | number (m : Extended)
  | text (codes : List ℕ)
  /-- A time by a clock of no known place. -/
  | clock (micros : Int)
  /-- A point in time. -/
  | instant (micros : Int)
  | identifier (n : Nat)

namespace Scalar

/-- The type of a scalar; only scalars of one type are compared. -/
def sort : Scalar → ℕ
  | boolean _ => 0
  | integer _ => 1
  | number _ => 2
  | text _ => 3
  | clock _ => 4
  | instant _ => 5
  | identifier _ => 6

/-- The number by which scalars of a type are ordered, texts apart. -/
def measure : Scalar → Extended
  | boolean b => (((b.toNat : ℚ) : WithTop ℚ) : Extended)
  | integer n => (((n : ℚ) : WithTop ℚ) : Extended)
  | number m => m
  | text _ => ((0 : WithTop ℚ) : Extended)
  | clock t => (((t : ℚ) : WithTop ℚ) : Extended)
  | instant t => (((t : ℚ) : WithTop ℚ) : Extended)
  | identifier n => (((n : ℚ) : WithTop ℚ) : Extended)

/-- The code points of a text. -/
def codes : Scalar → List ℕ
  | text cs => cs
  | _ => []

/-- The kind of the values that stand for a scalar. -/
def kind : Scalar → Kind
  | boolean _ => .boolean
  | integer _ => .integer
  | number _ => .decimal
  | text _ => .text
  | clock _ => .timestamp
  | instant _ => .timestamp
  | identifier _ => .identifier

theorem kind_eq_of_sort_eq {s t : Scalar} (h : s.sort = t.sort) : s.kind = t.kind := by
  cases s <;> cases t <;> first | rfl | cases h

/-- One kind is one type, except that there are two types of timestamps. -/
theorem sort_eq_of_kind_eq {s t : Scalar} (h : s.kind = t.kind) (hk : s.kind ≠ .timestamp) :
    s.sort = t.sort := by
  cases s <;> cases t <;> simp_all [kind, sort]

/-- Type, number and code points, in this order. -/
def key (s : Scalar) : ℕ ×ₗ Extended ×ₗ List ℕ := toLex (s.sort, toLex (s.measure, s.codes))

theorem key_injective : Function.Injective key := by
  intro s t h
  have h₁ : s.sort = t.sort := congrArg (fun k ↦ (ofLex k).1) h
  have h₂ : s.measure = t.measure := congrArg (fun k ↦ (ofLex (ofLex k).2).1) h
  have h₃ : s.codes = t.codes := congrArg (fun k ↦ (ofLex (ofLex k).2).2) h
  cases s <;> cases t <;> simp_all [sort, measure, codes]
  · rename_i a b
    cases a <;> cases b <;> simp_all

noncomputable instance : LinearOrder Scalar := LinearOrder.lift' key key_injective

theorem lt_iff_key {s t : Scalar} : s < t ↔ s.key < t.key := Iff.rfl

theorem lt_iff_measure (s t : Scalar) (h : s.sort = t.sort) (hs : s.codes = t.codes) :
    s < t ↔ s.measure < t.measure := by
  simp [lt_iff_key, key, Prod.Lex.toLex_lt_toLex, h, hs]

@[simp] theorem boolean_lt {a b : Bool} : boolean a < boolean b ↔ a < b :=
  (lt_iff_measure (boolean a) (boolean b) rfl rfl).trans <| by
    simp only [measure, WithBot.coe_lt_coe, WithTop.coe_lt_coe, Nat.cast_lt]
    cases a <;> cases b <;> decide

@[simp] theorem integer_lt {a b : Int} : integer a < integer b ↔ a < b :=
  (lt_iff_measure (integer a) (integer b) rfl rfl).trans (by simp [measure])

@[simp] theorem number_lt {a b : Extended} : number a < number b ↔ a < b :=
  lt_iff_measure (number a) (number b) rfl rfl

@[simp] theorem text_lt {a b : List ℕ} : text a < text b ↔ a < b := by
  simp [lt_iff_key, key, Prod.Lex.toLex_lt_toLex, sort, measure, codes]

@[simp] theorem clock_lt {a b : Int} : clock a < clock b ↔ a < b :=
  (lt_iff_measure (clock a) (clock b) rfl rfl).trans (by simp [measure])

@[simp] theorem instant_lt {a b : Int} : instant a < instant b ↔ a < b :=
  (lt_iff_measure (instant a) (instant b) rfl rfl).trans (by simp [measure])

@[simp] theorem identifier_lt {a b : Nat} : identifier a < identifier b ↔ a < b :=
  (lt_iff_measure (identifier a) (identifier b) rfl rfl).trans (by simp [measure])

end Scalar

/-- The code points of a text. -/
def codePoints (s : String) : List ℕ := s.toList.map Char.toNat

theorem codePoints_injective : Function.Injective codePoints := by
  intro s t h
  refine String.toList_inj.mp (List.map_injective_iff.mpr ?_ h)
  intro a b hab
  exact Char.toNat_inj.mp hab

/-- Texts are ordered by code point. -/
theorem codePoints_lt_iff {s t : String} : codePoints s < codePoints t ↔ s < t := by
  have map_lt (xs ys : List Char) : xs.map Char.toNat < ys.map Char.toNat ↔ xs < ys := by
    induction xs generalizing ys with
    | nil => cases ys <;> simp
    | cons x xs ih => cases ys with
      | nil => simp
      | cons y ys =>
        have hlt : x.toNat < y.toNat ↔ x < y := Iff.rfl
        simp [List.cons_lt_cons_iff, ih, hlt, Char.toNat_inj]
  rw [String.lt_iff_toList_lt]
  exact map_lt s.toList t.toList

namespace Datum

/-- The scalar that a plain value stands for; null, collections and what is no number stand for
none. -/
def scalar? : Datum → Option Scalar
  | boolean b => some (.boolean b)
  | integer n => some (.integer n)
  | decimal d => if d.isNan then none else some (.number d.measure)
  | text s => some (.text (codePoints s))
  | timestamp t => some (match t.offset with
    | none => .clock t.localMicros
    | some o => .instant (t.localMicros - o))
  | identifier u => some (.identifier u.value)
  | _ => none

end Datum

/-- Is the plain value one of the kind?  What is no number is no decimal here. -/
def Kind.holds : Kind → Datum → Bool
  | text, .text _ => true
  | integer, .integer _ => true
  | decimal, .decimal d => !d.isNan
  | boolean, .boolean _ => true
  | timestamp, .timestamp _ => true
  | identifier, .identifier _ => true
  | null, .null => true
  | _, _ => false

theorem Kind.holds_timestamp {d : Datum} (h : timestamp.holds d = true) :
    ∃ t, d = .timestamp t := by
  cases d <;> simp_all [holds]

namespace Value

/-- The data of the value are of its kind. -/
def IsProper (v : Value) : Prop := v.kind.holds v.data = true

/-- The value is null or of the kind, with data to match. -/
def Fits (v : Value) (k : Kind) : Prop := v.IsProper ∧ (v.isNull = true ∨ v.kind = k)

instance (v : Value) (k : Kind) : Decidable (v.Fits k) :=
  inferInstanceAs (Decidable (_ = _ ∧ (_ = _ ∨ _ = _)))

/-- The place of a value in the order, null coming first. -/
def rank (v : Value) : WithBot Scalar := v.data.scalar?

/-- Values are compared only where one of them is null or both stand for scalars of one type. -/
def Comparable (a b : Value) : Prop :=
  ∀ s t : Scalar, a.data.scalar? = some s → b.data.scalar? = some t → s.sort = t.sort

/-- If both values are timestamps, both have an offset or none has. -/
def AgreesInOffset (a b : Value) : Prop :=
  ∀ t u : Timestamp, a.data = .timestamp t → b.data = .timestamp u →
    t.offset.isSome = u.offset.isSome

@[simp] theorem isProper_null : null.IsProper := rfl

@[simp] theorem rank_null : null.rank = ⊥ := rfl

@[simp] theorem fits_null (k : Kind) : null.Fits k := ⟨rfl, .inl rfl⟩

/-- A null value is the value `null`. -/
theorem IsProper.eq_null {v : Value} (h : v.IsProper) (hn : v.isNull = true) : v = null := by
  obtain ⟨k, d⟩ := v
  have hk : k = .null := by simpa [isNull] using hn
  subst hk
  cases d <;> simp_all [IsProper, Kind.holds, null]

/-- A value that is not null stands for a scalar. -/
theorem IsProper.exists_scalar {v : Value} (h : v.IsProper) (hn : v.isNull = false) :
    ∃ s, v.data.scalar? = some s := by
  obtain ⟨k, d⟩ := v
  cases k <;> cases d <;> simp_all [IsProper, Kind.holds, Datum.scalar?, isNull]

theorem IsProper.rank_eq_bot_iff {v : Value} (h : v.IsProper) : v.rank = ⊥ ↔ v.isNull = true := by
  constructor
  · intro hr
    by_contra hn
    obtain ⟨s, hs⟩ := h.exists_scalar (by simpa using hn)
    rw [rank, hs] at hr
    exact WithBot.coe_ne_bot hr
  · intro hn
    rw [h.eq_null hn, rank_null]

/-- The kind of a proper value is that of its scalar. -/
theorem IsProper.kind_eq {v : Value} (h : v.IsProper) {s : Scalar}
    (hs : v.data.scalar? = some s) : v.kind = s.kind := by
  obtain ⟨k, d⟩ := v
  cases d <;> simp only [Datum.scalar?, Option.some.injEq, reduceCtorEq] at hs
  case decimal d =>
    cases k <;> simp_all [IsProper, Kind.holds]
    rw [← hs.2]
    rfl
  case timestamp t =>
    subst hs
    cases k <;> simp_all [IsProper, Kind.holds]
    cases t.offset <;> rfl
  all_goals
    subst hs
    cases k <;> first | rfl | cases h

/-- Values of one kind are comparable, timestamps apart. -/
theorem comparable_of_kind {a b : Value} (ha : a.IsProper) (hb : b.IsProper)
    (hk : a.isNull = true ∨ b.isNull = true ∨ a.kind = b.kind) (ho : a.AgreesInOffset b) :
    a.Comparable b := by
  intro s t hs ht
  rcases hk with hn | hn | hk
  · rw [ha.eq_null hn] at hs
    cases hs
  · rw [hb.eq_null hn] at ht
    cases ht
  · have hst : s.kind = t.kind := by rw [← ha.kind_eq hs, ← hb.kind_eq ht, hk]
    by_cases hts : s.kind = .timestamp
    · obtain ⟨_, d⟩ := a
      obtain ⟨_, e⟩ := b
      have hd := ha.kind_eq hs
      have he := hb.kind_eq ht
      simp only [hts, ← hst] at hd he
      subst hd he
      obtain ⟨x, rfl⟩ := Kind.holds_timestamp ha
      obtain ⟨y, rfl⟩ := Kind.holds_timestamp hb
      have hxy : x.offset.isSome = y.offset.isSome := ho x y rfl rfl
      simp only [Datum.scalar?, Option.some.injEq] at hs ht
      subst hs ht
      cases hx : x.offset <;> cases hy : y.offset <;> simp_all [Scalar.sort]
    · exact Scalar.sort_eq_of_kind_eq hst hts

/-! ## Equality and order -/

theorem compare_beq_eq {α : Type} [LinearOrder α] (x y : α) :
    (compare x y == .eq) = decide (x = y) := by
  rw [Bool.eq_iff_iff, beq_iff_eq, compare_eq_iff_eq, decide_eq_true_iff]

theorem compare_beq_lt {α : Type} [LinearOrder α] (x y : α) :
    (compare x y == .lt) = decide (x < y) := by
  rw [Bool.eq_iff_iff, beq_iff_eq, compare_lt_iff_lt, decide_eq_true_iff]

variable {k : Kind} {d e : Datum} {s t : Scalar}

theorem data_same?_eq (hd : k.holds d = true) (he : k.holds e = true) (hs : d.scalar? = some s)
    (ht : e.scalar? = some t) (hst : s.sort = t.sort) : d.same? e = .ok (decide (s = t)) := by
  cases k <;> cases d <;> simp only [Kind.holds, Bool.false_eq_true] at hd <;>
    cases e <;> simp only [Kind.holds, Bool.false_eq_true] at he <;>
    simp only [Datum.scalar?, Option.some.injEq, reduceCtorEq] at hs ht
  case text.text.text a b =>
    subst hs ht
    simp [Datum.same?, Datum.sameScalar?, pure, Except.pure, codePoints_injective.eq_iff,
      beq_eq_decide]
  case integer.integer.integer a b =>
    subst hs ht
    simp [Datum.same?, Datum.sameScalar?, pure, Except.pure, beq_eq_decide]
  case decimal.decimal.decimal a b =>
    simp only [Bool.not_eq_eq_eq_not, Bool.not_true] at hd he
    simp only [hd, he, Bool.false_eq_true, if_false, Option.some.injEq] at hs ht
    subst hs ht
    have quiet {x : Decimal} (hx : x.isNan = false) : x.isSignaling = false := by
      cases x <;> simp_all [Decimal.isNan, Decimal.isSignaling]
    simp only [Datum.same?, Datum.sameScalar?, Datum.number?, Datum.sameNumber?, quiet hd, quiet he,
      Bool.or_self, Bool.false_eq_true, if_false, Decimal.compare?_eq hd he]
    simp [pure, Except.pure, compare_beq_eq]
  case boolean.boolean.boolean a b =>
    subst hs ht
    simp only [Datum.same?, Datum.sameScalar?, Datum.number?, Datum.sameNumber?,
      Decimal.isSignaling_ofInt, Bool.or_self, Bool.false_eq_true, if_false,
      Decimal.compare?_eq (Decimal.isNan_ofInt _) (Decimal.isNan_ofInt _), Decimal.measure_ofInt]
    cases a <;> cases b <;> simp [pure, Except.pure, compare_beq_eq]
  case timestamp.timestamp.timestamp a b =>
    have hc : Datum.same? (.timestamp a) (.timestamp b) = .ok (a.compare? b == some .eq) := rfl
    rw [hc]
    refine congrArg Except.ok ?_
    subst hs ht
    rw [Bool.eq_iff_iff, beq_iff_eq, decide_eq_true_iff, Timestamp.compare?]
    cases ha : a.offset <;> cases hb : b.offset <;> simp only [ha, hb, Scalar.sort] at hst ⊢
    · simp
    · omega
    · omega
    · simp
  case identifier.identifier.identifier a b =>
    subst hs ht
    cases a
    cases b
    simp [Datum.same?, Datum.sameScalar?, pure, Except.pure, beq_eq_decide]

theorem data_before?_eq (hd : k.holds d = true) (he : k.holds e = true) (hs : d.scalar? = some s)
    (ht : e.scalar? = some t) (hst : s.sort = t.sort) :
    d.before? e = .ok (some (decide (s < t))) := by
  cases k <;> cases d <;> simp only [Kind.holds, Bool.false_eq_true] at hd <;>
    cases e <;> simp only [Kind.holds, Bool.false_eq_true] at he <;>
    simp only [Datum.scalar?, Option.some.injEq, reduceCtorEq] at hs ht
  case text.text.text a b =>
    subst hs ht
    simp [Datum.before?, Datum.scalarBefore?, pure, Except.pure, codePoints_lt_iff]
  case integer.integer.integer a b =>
    subst hs ht
    simp [Datum.before?, Datum.scalarBefore?, pure, Except.pure]
  case decimal.decimal.decimal a b =>
    simp only [Bool.not_eq_eq_eq_not, Bool.not_true] at hd he
    simp only [hd, he, Bool.false_eq_true, if_false, Option.some.injEq] at hs ht
    subst hs ht
    simp only [Datum.before?, Datum.scalarBefore?, Datum.number?, Datum.numberBefore?,
      Decimal.compare?_eq hd he]
    simp [pure, Except.pure, compare_beq_lt]
  case boolean.boolean.boolean a b =>
    subst hs ht
    simp only [Datum.before?, Datum.scalarBefore?, Datum.number?, Datum.numberBefore?,
      Decimal.compare?_eq (Decimal.isNan_ofInt _) (Decimal.isNan_ofInt _), Decimal.measure_ofInt]
    simp [pure, Except.pure, compare_beq_lt]
    cases a <;> cases b <;> simp
  case timestamp.timestamp.timestamp a b =>
    subst hs ht
    cases ha : a.offset <;> cases hb : b.offset <;> simp [ha, hb, Scalar.sort] at hst <;>
      simp [Datum.before?, Datum.scalarBefore?, Timestamp.compare?, ha, hb, pure, Except.pure,
        compare_beq_lt]
  case identifier.identifier.identifier a b =>
    subst hs ht
    simp [Datum.before?, Datum.scalarBefore?, pure, Except.pure]

variable {a b : Value}

/-- A proper value is null or stands for a scalar. -/
theorem IsProper.null_or_scalar (h : a.IsProper) :
    a = null ∨ ∃ s : Scalar, a.isNull = false ∧ a.data.scalar? = some s ∧ a.rank = s := by
  cases hn : a.isNull with
  | true => exact .inl (h.eq_null hn)
  | false =>
    obtain ⟨s, hs⟩ := h.exists_scalar hn
    exact .inr ⟨s, rfl, hs, hs⟩

/-- Equality of comparable values is equality of their ranks. -/
theorem same?_eq (ha : a.IsProper) (hb : b.IsProper) (h : a.Comparable b) :
    a.same? b = .ok (decide (a.rank = b.rank)) := by
  rcases ha.null_or_scalar with rfl | ⟨s, hna, hs, hrs⟩ <;>
    rcases hb.null_or_scalar with rfl | ⟨t, hnb, ht, hrt⟩
  · simp [same?, pure, Except.pure]
  · simp [same?, pure, Except.pure, hnb, hrt]
  · simp [same?, pure, Except.pure, hna, hrs]
  · have hk : a.kind = b.kind := by
      rw [ha.kind_eq hs, hb.kind_eq ht, Scalar.kind_eq_of_sort_eq (h s t hs ht)]
    have hd := data_same?_eq ha (hk ▸ hb) hs ht (h s t hs ht)
    simp [same?, comparable?, hna, hnb, hk, hd, hrs, hrt, bind, Except.bind, pure, Except.pure]

/-- The order of comparable values is the order of their ranks. -/
theorem before?_eq (ha : a.IsProper) (hb : b.IsProper) (h : a.Comparable b) :
    a.before? b = .ok (decide (a.rank < b.rank)) := by
  rcases ha.null_or_scalar with rfl | ⟨s, hna, hs, hrs⟩ <;>
    rcases hb.null_or_scalar with rfl | ⟨t, hnb, ht, hrt⟩
  · simp [before?, pure, Except.pure]
  · simp [before?, pure, Except.pure, hnb, hrt]
  · simp [before?, pure, Except.pure, hna, hrs]
  · have hk : a.kind = b.kind := by
      rw [ha.kind_eq hs, hb.kind_eq ht, Scalar.kind_eq_of_sort_eq (h s t hs ht)]
    have hd := data_before?_eq ha (hk ▸ hb) hs ht (h s t hs ht)
    simp [before?, comparable?, hna, hnb, hk, hd, hrs, hrt, bind, Except.bind, pure, Except.pure]

theorem differs?_eq (ha : a.IsProper) (hb : b.IsProper) (h : a.Comparable b) :
    a.differs? b = .ok (decide (a.rank ≠ b.rank)) := by
  simp [differs?, same?_eq ha hb h, bind, Except.bind, pure, Except.pure]

theorem atLeast?_eq (ha : a.IsProper) (hb : b.IsProper) (h : a.Comparable b) :
    a.atLeast? b = .ok (decide (b.rank ≤ a.rank)) := by
  simp [atLeast?, before?_eq ha hb h, bind, Except.bind, pure, Except.pure, ← not_lt]

theorem atMost?_eq (ha : a.IsProper) (hb : b.IsProper) (h : a.Comparable b) :
    a.atMost? b = .ok (decide (a.rank ≤ b.rank)) := by
  simp only [atMost?, before?_eq ha hb h, same?_eq ha hb h, bind, Except.bind, pure, Except.pure]
  rcases lt_trichotomy a.rank b.rank with hlt | heq | hgt
  · simp [hlt, hlt.le]
  · simp [heq]
  · simp [hgt.not_gt, hgt.ne', hgt.not_ge]

theorem after?_eq (ha : a.IsProper) (hb : b.IsProper) (h : a.Comparable b) :
    a.after? b = .ok (decide (b.rank < a.rank)) := by
  simp only [after?, before?_eq ha hb h, differs?_eq ha hb h, bind, Except.bind, pure, Except.pure]
  rcases lt_trichotomy a.rank b.rank with hlt | heq | hgt
  · simp [hlt, hlt.not_gt]
  · simp [heq]
  · simp [hgt, hgt.not_gt, hgt.ne']

end Value

end RecordStore
