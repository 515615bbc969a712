import Mathlib.Algebra.Order.Field.Rat
import Mathlib.Algebra.Order.Field.Power
import Mathlib.Order.WithBot
import Mathlib.Tactic.Linarith
import Mathlib.Tactic.NormNum
import Mathlib.Tactic.Positivity
import Mathlib.Tactic.Ring
import RecordStore.Number.Decimal

/-!
# The number behind a decimal

A decimal that is a number stands for a rational or for one of the two infinities.  The order of
decimals, which is decided on the leading places first and on scaled coefficients only where those
agree, is the order of what they stand for.

* `Decimal.measure` is the number that a decimal stands for.
* `Decimal.compare?_eq` is the theorem above.
-/

namespace RecordStore

/-- The rationals with the two infinities. -/
abbrev Extended := WithBot (WithTop ℚ)

namespace Decimal

/-- The rational `± c · 10 ^ e`. -/
def rational (n : Bool) (c : Nat) (e : Int) : ℚ := signed n c * (10 : ℚ) ^ e

/-- The number that a decimal stands for; a value that is no number counts as zero. -/
def measure : Decimal → Extended
  | finite n c e => ((rational n c e : WithTop ℚ) : Extended)
  | infinite n => if n then ⊥ else ((⊤ : WithTop ℚ) : Extended)
  | nan .. => ((0 : WithTop ℚ) : Extended)

/-! ## Leading places -/

theorem digits_length_pos (c : Nat) : 0 < (digits c).length := Nat.length_toDigits_pos

/-- A coefficient lies below the power of ten that its digits leave free. -/
theorem lt_pow_digits_length (c : Nat) : c < 10 ^ (digits c).length :=
  (Nat.length_toDigits_le_iff (by norm_num) (digits_length_pos c)).mp (le_refl _)

/-- A coefficient other than zero reaches the power of ten of its leading digit. -/
theorem pow_digits_length_le {c : Nat} (h : 0 < c) : 10 ^ ((digits c).length - 1) ≤ c := by
  by_contra hlt
  rw [not_le] at hlt
  rcases Nat.eq_zero_or_pos ((digits c).length - 1) with h0 | h0
  · rw [h0] at hlt
    omega
  · have := (Nat.length_toDigits_le_iff (b := 10) (by norm_num) h0).mpr hlt
    have := digits_length_pos c
    simp only [digits] at *
    omega

/-- The magnitude lies below the power of ten after its leading place. -/
theorem magnitude_lt (c : Nat) (e : Int) : (c : ℚ) * 10 ^ e < 10 ^ (adjusted c e + 1) := by
  have h : (c : ℚ) < 10 ^ ((digits c).length : Int) := by
    rw [zpow_natCast]
    exact_mod_cast lt_pow_digits_length c
  have he : adjusted c e + 1 = (digits c).length + e := by
    simp only [adjusted]
    ring
  rw [he, zpow_add₀ (by norm_num)]
  exact mul_lt_mul_of_pos_right h (by positivity)

/-- The magnitude reaches the power of ten of its leading place. -/
theorem le_magnitude {c : Nat} (hc : 0 < c) (e : Int) :
    (10 : ℚ) ^ adjusted c e ≤ (c : ℚ) * 10 ^ e := by
  have h : (10 : ℚ) ^ (((digits c).length - 1 : Nat) : Int) ≤ c := by
    rw [zpow_natCast]
    exact_mod_cast pow_digits_length_le hc
  have he : adjusted c e = ((digits c).length - 1 : Nat) + e := by
    have := digits_length_pos c
    simp only [adjusted]
    omega
  rw [he, zpow_add₀ (by norm_num)]
  exact mul_le_mul_of_nonneg_right h (by positivity)

theorem magnitude_lt_of_adjusted_lt {c₁ c₂ : Nat} {e₁ e₂ : Int} (h₂ : 0 < c₂)
    (h : adjusted c₁ e₁ < adjusted c₂ e₂) : (c₁ : ℚ) * 10 ^ e₁ < (c₂ : ℚ) * 10 ^ e₂ :=
  calc (c₁ : ℚ) * 10 ^ e₁ < 10 ^ (adjusted c₁ e₁ + 1) := magnitude_lt c₁ e₁
    _ ≤ 10 ^ adjusted c₂ e₂ := zpow_le_zpow_right₀ (by norm_num) (by omega)
    _ ≤ (c₂ : ℚ) * 10 ^ e₂ := le_magnitude h₂ e₂

/-! ## Order -/

/-- A magnitude as a scaled coefficient over a smaller exponent. -/
theorem magnitude_scaled (c : Nat) {e m : Int} (h : m ≤ e) :
    (c : ℚ) * 10 ^ e = ((c * Nat.pow 10 (e - m).toNat : Nat) : ℚ) * 10 ^ m := by
  have he : e = ((e - m).toNat : Int) + m := by omega
  conv_lhs => rw [he, zpow_add₀ (by norm_num : (10 : ℚ) ≠ 0), zpow_natCast]
  have hp : Nat.pow 10 (e - m).toNat = 10 ^ (e - m).toNat := rfl
  rw [hp]
  push_cast
  ring

theorem compareMagnitude_eq {c₁ c₂ : Nat} (h₁ : 0 < c₁) (h₂ : 0 < c₂) (e₁ e₂ : Int) :
    compareMagnitude c₁ e₁ c₂ e₂ = compare ((c₁ : ℚ) * 10 ^ e₁) ((c₂ : ℚ) * 10 ^ e₂) := by
  unfold compareMagnitude
  rcases lt_trichotomy (adjusted c₁ e₁) (adjusted c₂ e₂) with h | h | h
  · rw [compare_lt_iff_lt.mpr h, compare_lt_iff_lt.mpr (magnitude_lt_of_adjusted_lt h₂ h)]
  · rw [compare_eq_iff_eq.mpr h]
    have hm₁ := magnitude_scaled c₁ (min_le_left e₁ e₂)
    have hm₂ := magnitude_scaled c₂ (min_le_right e₁ e₂)
    have hpos : (0 : ℚ) < 10 ^ min e₁ e₂ := by positivity
    rw [hm₁, hm₂, ← cmp_eq_compare, ← cmp_eq_compare]
    rw [(strictMono_mul_right_of_pos hpos).cmp_map_eq, (Nat.strictMono_cast (α := ℚ)).cmp_map_eq]
  · rw [compare_gt_iff_gt.mpr h, compare_gt_iff_gt.mpr (magnitude_lt_of_adjusted_lt h₁ h)]

/-- A signed coefficient is negative, zero or positive, and its parts tell which. -/
theorem signed_cases (n : Bool) (c : Nat) :
    (n = true ∧ 0 < c) ∨ c = 0 ∨ (n = false ∧ 0 < c) := by
  cases n <;> simp <;> omega

@[simp] theorem rational_zero (n : Bool) (e : Int) : rational n 0 e = 0 := by
  cases n <;> simp [rational, signed]

@[simp] theorem rational_true (c : Nat) (e : Int) : rational true c e = -((c : ℚ) * 10 ^ e) := by
  simp [rational, signed]

@[simp] theorem rational_false (c : Nat) (e : Int) : rational false c e = (c : ℚ) * 10 ^ e := by
  simp [rational, signed]

theorem magnitude_pos {c : Nat} (h : 0 < c) (e : Int) : (0 : ℚ) < (c : ℚ) * 10 ^ e := by
  have : (0 : ℚ) < c := by exact_mod_cast h
  positivity

/-- The order of finite decimals is that of the rationals they stand for. -/
theorem compareFinite_eq (n₁ : Bool) (c₁ : Nat) (e₁ : Int) (n₂ : Bool) (c₂ : Nat) (e₂ : Int) :
    compareFinite n₁ c₁ e₁ n₂ c₂ e₂ = compare (rational n₁ c₁ e₁) (rational n₂ c₂ e₂) := by
  have sign_neg {c : Nat} (h : 0 < c) : (signed true c).sign = -1 :=
    Int.sign_eq_neg_one_of_neg (by simp [signed]; omega)
  have sign_pos {c : Nat} (h : 0 < c) : (signed false c).sign = 1 :=
    Int.sign_eq_one_of_pos (by simp [signed]; omega)
  have sign_zero (n : Bool) : (signed n 0).sign = 0 := by cases n <;> simp [signed]
  unfold compareFinite
  rcases signed_cases n₁ c₁ with ⟨rfl, h₁⟩ | rfl | ⟨rfl, h₁⟩ <;>
    rcases signed_cases n₂ c₂ with ⟨rfl, h₂⟩ | rfl | ⟨rfl, h₂⟩
  · rw [sign_neg h₁, sign_neg h₂, compare_eq_iff_eq.mpr rfl]
    simp only [Nat.ne_of_gt h₁, if_false, if_true, rational_true]
    have anti : StrictAnti fun q : ℚ ↦ -q := fun a b h ↦ neg_lt_neg h
    rw [compareMagnitude_eq h₂ h₁, ← cmp_eq_compare, ← cmp_eq_compare]
    exact (anti.cmp_map_eq _ _).symm
  · rw [sign_neg h₁, sign_zero]
    have := magnitude_pos h₁ e₁
    exact (compare_lt_iff_lt.mpr (by simpa using this)).symm
  · rw [sign_neg h₁, sign_pos h₂]
    have := magnitude_pos h₁ e₁
    have := magnitude_pos h₂ e₂
    exact (compare_lt_iff_lt.mpr (by simp only [rational_true, rational_false]; linarith)).symm
  · rw [sign_zero, sign_neg h₂]
    have := magnitude_pos h₂ e₂
    exact (compare_gt_iff_gt.mpr (by simpa using this)).symm
  · rw [sign_zero, sign_zero, rational_zero, rational_zero, compare_eq_iff_eq.mpr rfl]
    exact (compare_eq_iff_eq.mpr rfl).symm
  · rw [sign_zero, sign_pos h₂]
    have := magnitude_pos h₂ e₂
    exact (compare_lt_iff_lt.mpr (by simpa using this)).symm
  · rw [sign_pos h₁, sign_neg h₂]
    have := magnitude_pos h₁ e₁
    have := magnitude_pos h₂ e₂
    exact (compare_gt_iff_gt.mpr (by simp only [rational_true, rational_false]; linarith)).symm
  · rw [sign_pos h₁, sign_zero]
    have := magnitude_pos h₁ e₁
    exact (compare_gt_iff_gt.mpr (by simpa using this)).symm
  · rw [sign_pos h₁, sign_pos h₂, compare_eq_iff_eq.mpr rfl]
    simp only [Nat.ne_of_gt h₁, if_false, Bool.false_eq_true, rational_false]
    exact compareMagnitude_eq h₁ h₂ e₁ e₂

/-- The order of decimals that are numbers is the order of what they stand for. -/
theorem compare?_eq {a b : Decimal} (ha : a.isNan = false) (hb : b.isNan = false) :
    a.compare? b = some (compare a.measure b.measure) := by
  have embeds (x y : ℚ) : compare ((x : WithTop ℚ) : Extended) ((y : WithTop ℚ) : Extended) =
      compare x y := by
    rw [← cmp_eq_compare, ← cmp_eq_compare]
    exact (WithBot.coe_strictMono.comp WithTop.coe_strictMono).cmp_map_eq x y
  cases a with
  | nan => cases ha
  | infinite n₁ => cases b with
    | nan => cases hb
    | infinite n₂ =>
      cases n₁ <;> cases n₂ <;> simp only [compare?, measure, if_true, Bool.false_eq_true, if_false,
        Option.some.injEq, Bool.not_true, Bool.not_false]
      · exact (compare_eq_iff_eq.mpr rfl).symm
      · exact (compare_gt_iff_gt.mpr (WithBot.bot_lt_coe _)).symm
      · exact (compare_lt_iff_lt.mpr (WithBot.bot_lt_coe _)).symm
      · exact (compare_eq_iff_eq.mpr rfl).symm
    | finite =>
      cases n₁ <;> simp only [compare?, measure, if_true, Bool.false_eq_true, if_false,
        Option.some.injEq]
      · exact (compare_gt_iff_gt.mpr (WithBot.coe_lt_coe.mpr (WithTop.coe_lt_top _))).symm
      · exact (compare_lt_iff_lt.mpr (WithBot.bot_lt_coe _)).symm
  | finite => cases b with
    | nan => cases hb
    | infinite n₂ =>
      cases n₂ <;> simp only [compare?, measure, if_true, Bool.false_eq_true, if_false,
        Option.some.injEq]
      · exact (compare_lt_iff_lt.mpr (WithBot.coe_lt_coe.mpr (WithTop.coe_lt_top _))).symm
      · exact (compare_gt_iff_gt.mpr (WithBot.bot_lt_coe _)).symm
    | finite =>
      simp only [compare?, measure, Option.some.injEq]
      rw [embeds, compareFinite_eq]

/-- A whole number stands for itself. -/
theorem measure_ofInt (n : Int) : (ofInt n).measure = (((n : ℚ) : WithTop ℚ) : Extended) := by
  have h : signed (n < 0) n.natAbs = n := by
    by_cases hn : n < 0
    · rw [signed, if_pos (decide_eq_true hn)]
      omega
    · rw [signed, if_neg (by simpa using hn)]
      omega
  simp [ofInt, measure, rational, h]

@[simp] theorem isNan_ofInt (n : Int) : (ofInt n).isNan = false := rfl

@[simp] theorem isSignaling_ofInt (n : Int) : (ofInt n).isSignaling = false := rfl

end Decimal

end RecordStore
