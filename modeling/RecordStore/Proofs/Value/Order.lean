import RecordStore.Proofs.Value.Conversion
import RecordStore.Time.Zoned

/-!
# The order of the values of one kind

Null and the values of one kind are totally ordered, null coming first, and the six comparisons all
tell of this one order.  Timestamps are of two sorts here, those with an offset and those without.
The offset is a number: times by the clock of a zone are not ordered where that clock is set.

* `Value.Among` says that a value is one of those that are ordered together.
* `Value.Comparison.ofOrdering` is the six answers at one of the three places that a value can have
  beside another one; `Value.compareAll_eq` says that comparing always gives them.
* `Value.TotallyOrdered` collects the laws of a total order, and `Value.ordered_and_widens` is that
  they hold, and that whole numbers keep their order when they become decimals.
* `ZonedTime.compareAll` are the six answers for times by the clocks of zones.  If these clocks are
  never set, they are those for timestamps; `ZonedTime.unordered_newYork` is what else can happen.
-/

namespace RecordStore.Value

/-- The value is null or of the kind, with data to match.  If it is a timestamp, it has an offset
exactly if `aware`. -/
structure Among (k : Kind) (aware : Bool) (v : Value) : Prop where
  fits : v.Fits k
  offset : ∀ t, v.data = .timestamp t → t.offset.isSome = aware

/-- The six answers where the first value comes before the second, equals it or comes after it. -/
def Comparison.ofOrdering (o : Ordering) : Comparison where
  same := .ok (o == .eq)
  differs := .ok (o != .eq)
  before := .ok (o == .lt)
  atMost := .ok (o != .gt)
  after := .ok (o == .gt)
  atLeast := .ok (o != .lt)

/-- What comparing tells of three values, as the laws of a total order with null at its bottom. -/
structure TotallyOrdered (a b c : Value) : Prop where
  /-- Exactly one of three holds: the first value comes before the second, equals it or comes after
  it.  All six comparisons answer accordingly, and so they do with the values exchanged. -/
  trichotomy : ∃! o, a.compareAll b = .ofOrdering o ∧ b.compareAll a = .ofOrdering o.swap
  before_trans : a.before? b = .ok true → b.before? c = .ok true → a.before? c = .ok true
  same_refl : a.same? a = .ok true
  same_symm : a.same? b = .ok true → b.same? a = .ok true
  same_trans : a.same? b = .ok true → b.same? c = .ok true → a.same? c = .ok true
  /-- Equal values have the same place beside a third one. -/
  same_congr : a.same? b = .ok true →
    a.compareAll c = b.compareAll c ∧ c.compareAll a = c.compareAll b
  /-- Null comes before every other value and equals itself only. -/
  null_first : null.compareAll a = .ofOrdering (if a.isNull then .eq else .lt)

variable {a a' b b' c : Value} {k : Kind} {aware : Bool}

/-! ## Which values are ordered together -/

theorem among_null : null.Among k aware := ⟨fits_null k, fun _ ht ↦ by cases ht⟩

theorem Among.kind_eq (ha : a.Among k aware) (hb : b.Among k aware) :
    a.isNull = true ∨ b.isNull = true ∨ a.kind = b.kind := by
  rcases ha.fits.2 with hna | hka
  · exact .inl hna
  · exact .inr (hb.fits.2.imp_right fun hkb ↦ hka.trans hkb.symm)

theorem Among.comparable (ha : a.Among k aware) (hb : b.Among k aware) : a.Comparable b :=
  comparable_of_kind ha.fits.1 hb.fits.1 (ha.kind_eq hb)
    fun t u ht hu ↦ (ha.offset t ht).trans (hb.offset u hu).symm

/-- A whole number takes on the kind of decimals, and so does null. -/
theorem Among.exists_coerce? (ha : a.Among .integer aware) :
    ∃ a', a.coerce? .decimal = .ok a' ∧ a'.Among .decimal aware := by
  have hcoerced : ∃ a', a.coerce? .decimal = .ok a' :=
    ha.fits.1.exists_coerce?_iff.mpr (ha.fits.2.imp_right fun hk ↦ .inr ⟨hk, rfl⟩)
  obtain ⟨a', haa'⟩ := hcoerced
  refine ⟨a', haa', ha.fits.1.coerce? haa', fun t ht ↦ ?_⟩
  rcases coerce?_cases ha.fits.1 haa' with ⟨rfl, -⟩ | ⟨n, -, -, rfl⟩
  · exact ha.offset t ht
  · cases ht

/-! ## One order for all comparisons -/

theorem Comparison.ofOrdering_injective : Function.Injective Comparison.ofOrdering := by
  intro o p h
  cases o <;> cases p <;> simp [ofOrdering] at h ⊢

/-- The six comparisons read off the order of the ranks. -/
theorem compareAll_eq (ha : a.Among k aware) (hb : b.Among k aware) :
    a.compareAll b = .ofOrdering (compare a.rank b.rank) := by
  have hc := ha.comparable hb
  rw [compareAll, same?_eq ha.fits.1 hb.fits.1 hc, differs?_eq ha.fits.1 hb.fits.1 hc,
    before?_eq ha.fits.1 hb.fits.1 hc, atMost?_eq ha.fits.1 hb.fits.1 hc,
    after?_eq ha.fits.1 hb.fits.1 hc, atLeast?_eq ha.fits.1 hb.fits.1 hc]
  rcases lt_trichotomy a.rank b.rank with hlt | heq | hgt
  · rw [compare_lt_iff_lt.mpr hlt]
    simp [Comparison.ofOrdering, hlt, hlt.ne, hlt.le, hlt.not_gt, hlt.not_ge]
  · rw [compare_eq_iff_eq.mpr heq]
    simp [Comparison.ofOrdering, heq]
  · rw [compare_gt_iff_gt.mpr hgt]
    simp [Comparison.ofOrdering, hgt, hgt.ne', hgt.le, hgt.not_gt, hgt.not_ge]

theorem same?_eq_true_iff (ha : a.Among k aware) (hb : b.Among k aware) :
    a.same? b = .ok true ↔ a.rank = b.rank := by
  rw [same?_eq ha.fits.1 hb.fits.1 (ha.comparable hb), Except.ok.injEq, decide_eq_true_iff]

theorem before?_eq_true_iff (ha : a.Among k aware) (hb : b.Among k aware) :
    a.before? b = .ok true ↔ a.rank < b.rank := by
  rw [before?_eq ha.fits.1 hb.fits.1 (ha.comparable hb), Except.ok.injEq, decide_eq_true_iff]

theorem compareAll_null (ha : a.Among k aware) :
    null.compareAll a = .ofOrdering (if a.isNull then .eq else .lt) := by
  rw [compareAll_eq among_null ha, rank_null]
  split
  · rename_i hn
    rw [ha.fits.1.rank_eq_bot_iff.mpr hn, compare_eq_iff_eq.mpr rfl]
  · rename_i hn
    rw [compare_lt_iff_lt.mpr (bot_lt_iff_ne_bot.mpr (hn ∘ ha.fits.1.rank_eq_bot_iff.mp))]

theorem Among.totallyOrdered (ha : a.Among k aware) (hb : b.Among k aware) (hc : c.Among k aware) :
    a.TotallyOrdered b c where
  trichotomy := by
    refine ⟨compare a.rank b.rank, ⟨compareAll_eq ha hb, ?_⟩, fun o ho ↦ ?_⟩
    · rw [compareAll_eq hb ha, ← Std.OrientedOrd.eq_swap]
    · exact Comparison.ofOrdering_injective (ho.1.symm.trans (compareAll_eq ha hb))
  before_trans hab hbc := by
    rw [before?_eq_true_iff ha hb] at hab
    rw [before?_eq_true_iff hb hc] at hbc
    exact (before?_eq_true_iff ha hc).mpr (hab.trans hbc)
  same_refl := (same?_eq_true_iff ha ha).mpr rfl
  same_symm hab := (same?_eq_true_iff hb ha).mpr ((same?_eq_true_iff ha hb).mp hab).symm
  same_trans hab hbc := by
    rw [same?_eq_true_iff ha hb] at hab
    rw [same?_eq_true_iff hb hc] at hbc
    exact (same?_eq_true_iff ha hc).mpr (hab.trans hbc)
  same_congr hab := by
    rw [same?_eq_true_iff ha hb] at hab
    rw [compareAll_eq ha hc, compareAll_eq hb hc, compareAll_eq hc ha, compareAll_eq hc hb, hab]
    exact ⟨rfl, rfl⟩
  null_first := compareAll_null ha

/-! ## Whole numbers as decimals -/

/-- Whole numbers compare as the decimals do that they become. -/
theorem compareAll_coerce? (ha : a.Among .integer aware) (hb : b.Among .integer aware)
    (ha' : a'.Among .decimal aware) (hb' : b'.Among .decimal aware)
    (haa' : a.coerce? .decimal = .ok a') (hbb' : b.coerce? .decimal = .ok b') :
    a'.compareAll b' = a.compareAll b := by
  obtain ⟨hsame, hbefore⟩ := rank_coerce? ha.fits.1 hb.fits.1 (ha.kind_eq hb) haa' hbb'
  obtain ⟨-, hafter⟩ := rank_coerce? hb.fits.1 ha.fits.1 (hb.kind_eq ha) hbb' haa'
  rw [compareAll_eq ha' hb', compareAll_eq ha hb]
  congr 1
  rcases lt_trichotomy a.rank b.rank with hlt | heq | hgt
  · rw [compare_lt_iff_lt.mpr hlt, compare_lt_iff_lt.mpr (hbefore.mpr hlt)]
  · rw [compare_eq_iff_eq.mpr heq, compare_eq_iff_eq.mpr (hsame.mpr heq)]
  · rw [compare_gt_iff_gt.mpr hgt, compare_gt_iff_gt.mpr (hafter.mpr hgt)]

/-- Null and the values of one kind are totally ordered, null coming first, with no comparison that
fails.  Whole numbers become decimals without fail, and these compare as the whole numbers did. -/
theorem ordered_and_widens (ha : a.Among k aware) (hb : b.Among k aware) (hc : c.Among k aware) :
    a.TotallyOrdered b c ∧ (k = .integer → ∃ a' b', a.coerce? .decimal = .ok a' ∧
      b.coerce? .decimal = .ok b' ∧ a'.Among .decimal aware ∧ b'.Among .decimal aware ∧
      a'.compareAll b' = a.compareAll b) := by
  refine ⟨ha.totallyOrdered hb hc, ?_⟩
  rintro rfl
  obtain ⟨a', haa', ha'⟩ := ha.exists_coerce?
  obtain ⟨b', hbb', hb'⟩ := hb.exists_coerce?
  exact ⟨a', b', haa', hbb', ha', hb', compareAll_coerce? ha hb ha' hb' haa' hbb'⟩

/-- Noon two hours east of Greenwich is ten o'clock there.  Minus three and seven are ordered as
whole numbers and as decimals, null coming first. -/
theorem ordered_and_widens_noon :
    let noon : Value := ⟨.timestamp, .timestamp ⟨⟨2024, 3, 1⟩, 12, 0, 0, 0, some 7200000000⟩⟩
    let ten : Value := ⟨.timestamp, .timestamp ⟨⟨2024, 3, 1⟩, 10, 0, 0, 0, some 0⟩⟩
    let low : Value := ⟨.integer, .integer (-3)⟩
    let high : Value := ⟨.integer, .integer 7⟩
    (noon.Among .timestamp true ∧ ten.Among .timestamp true ∧ noon.TotallyOrdered ten null) ∧
      (low.Among .integer false ∧ high.Among .integer false ∧ low.TotallyOrdered high null ∧
        ∃ d e, low.coerce? .decimal = .ok d ∧ high.coerce? .decimal = .ok e ∧
          d.Among .decimal false ∧ e.Among .decimal false ∧
          d.compareAll e = low.compareAll high) := by
  intro noon ten low high
  have hnoon : noon.Among .timestamp true := ⟨by decide, by rintro t ⟨⟩; rfl⟩
  have hten : ten.Among .timestamp true := ⟨by decide, by rintro t ⟨⟩; rfl⟩
  have hlow : low.Among .integer false := ⟨by decide, by rintro t ⟨⟩⟩
  have hhigh : high.Among .integer false := ⟨by decide, by rintro t ⟨⟩⟩
  obtain ⟨hordered, hwidens⟩ := ordered_and_widens hlow hhigh among_null
  exact ⟨⟨hnoon, hten, (ordered_and_widens hnoon hten among_null).1⟩,
    hlow, hhigh, hordered, hwidens rfl⟩

/-! ## Times by the clock of a zone -/

/-- The six comparisons, as they follow from equality and strict order. -/
def Comparison.derived (same before : Outcome Bool) : Comparison where
  same := same
  differs := return !(← same)
  before := before
  atMost := do if ← before then pure true else same
  after := do if ← before then pure false else return !(← same)
  atLeast := return !(← before)

theorem compareAll_eq_derived (a b : Value) :
    a.compareAll b = .derived (a.same? b) (a.before? b) := rfl

end RecordStore.Value

namespace RecordStore.ZonedTime

variable {a b : ZonedTime}

/-- The timestamp as a value, the zone being left away. -/
def value (a : ZonedTime) : Value := ⟨.timestamp, .timestamp a.time⟩

/-- What comparing tells of two values of the kind of timestamps whose data are these times: neither
is null and the kinds agree, so that equality and order are those of the data. -/
def compareAll (a b : ZonedTime) : Value.Comparison := .derived (.ok (a.same b)) (.ok (a.before b))

@[simp] theorem same_compareAll (a b : ZonedTime) : (a.compareAll b).same = .ok (a.same b) := rfl

@[simp] theorem before_compareAll (a b : ZonedTime) :
    (a.compareAll b).before = .ok (a.before b) := rfl

/-- At one distance from universal time the order is that of the readings. -/
theorem compare?_eq (h : a.time.offset = b.time.offset) :
    a.time.compare? b.time = some (compare a.time.localMicros b.time.localMicros) := by
  rw [b.offset_eq] at h
  rw [Timestamp.compare?, h, b.offset_eq]
  refine congrArg some ?_
  rw [sub_eq_add_neg, sub_eq_add_neg, ← cmp_eq_compare, ← cmp_eq_compare, cmp_add_right]

theorem same_eq (ha : a.isTwofold = false) (hb : b.isTwofold = false)
    (hzone : a.zone = b.zone → a.time.offset = b.time.offset) :
    a.same b = (a.time.compare? b.time == some .eq) := by
  by_cases h : a.zone = b.zone
  · rw [same, if_pos h, compare?_eq (hzone h), Option.some_beq_some, Value.compare_beq_eq,
      beq_eq_decide]
  · rw [same, if_neg h, ha, hb, Bool.not_false, Bool.true_and, Bool.true_and]

theorem before_eq (hzone : a.zone = b.zone → a.time.offset = b.time.offset) :
    a.before b = (a.time.compare? b.time == some .lt) := by
  by_cases h : a.zone = b.zone
  · rw [before, if_pos h, compare?_eq (hzone h), Option.some_beq_some, Value.compare_beq_lt]
  · rw [before, if_neg h]

theorem before?_value (a b : ZonedTime) :
    a.value.before? b.value = .ok (a.time.compare? b.time == some .lt) := by
  have hboth : ∃ o, a.time.compare? b.time = some o := by
    rw [Timestamp.compare?, a.offset_eq, b.offset_eq]
    exact ⟨_, rfl⟩
  obtain ⟨o, ho⟩ := hboth
  have hdata : Datum.before? (.timestamp a.time) (.timestamp b.time) =
      .ok ((a.time.compare? b.time).map (· == .lt)) := rfl
  simp only [Value.before?, value, Value.isNull, Value.comparable?, hdata, ho]
  rfl

/-- Times whose readings are shown just once compare like their timestamps, unless both are told by
one clock that was set between them. -/
theorem compareAll_eq (ha : a.isTwofold = false) (hb : b.isTwofold = false)
    (hzone : a.zone = b.zone → a.time.offset = b.time.offset) :
    a.compareAll b = a.value.compareAll b.value := by
  have hsame : a.value.same? b.value = .ok (a.time.compare? b.time == some .eq) := rfl
  rw [compareAll, Value.compareAll_eq_derived, hsame, before?_value, same_eq ha hb hzone,
    before_eq hzone]

theorem offset_of_fixed (h : a.zone.changes = []) (reading : Int) (later : Bool) :
    a.zone.offset reading later = a.zone.initial := by
  rw [Zone.offset, h, Zone.offsetAfter]

/-- Every timestamp with an offset is a time by a clock that is never set. -/
theorem exists_fixed {t : Timestamp} (h : t.offset.isSome = true) :
    ∃ a : ZonedTime, a.zone.changes = [] ∧ a.time = t := by
  obtain ⟨o, ho⟩ := Option.isSome_iff_exists.mp h
  exact ⟨⟨⟨"", o, []⟩, t, false, ho⟩, rfl, rfl⟩

/-- Times by clocks that are never set compare like their timestamps. -/
theorem compareAll_eq_of_fixed (ha : a.zone.changes = []) (hb : b.zone.changes = []) :
    a.compareAll b = a.value.compareAll b.value := by
  refine compareAll_eq ?_ ?_ fun hzone ↦ ?_
  · rw [isTwofold, offset_of_fixed ha, offset_of_fixed ha, bne_self_eq_false]
  · rw [isTwofold, offset_of_fixed hb, offset_of_fixed hb, bne_self_eq_false]
  · rw [a.offset_eq, b.offset_eq, offset_of_fixed ha, offset_of_fixed hb, hzone]

/-- New York in the autumn of 2024: on the 3rd of November, at six o'clock universal time, its clock
is set from four hours behind that to five. -/
def newYork : Zone where
  name := "America/New_York"
  initial := -14400000000
  changes := [⟨Timestamp.localMicros ⟨⟨2024, 11, 3⟩, 6, 0, 0, 0, none⟩, -18000000000⟩]

/-- Half past one is shown twice that day.  The first time it is half past five universal time, but
neither of these comes before the other, and they are not equal.  A quarter to two, shown the first
time, comes before six o'clock universal time and this before the second half past one, but a
quarter to two does not.  Both times of half past one are equal, but only one of them comes before
six o'clock.  And a date has no order with a timestamp, also where it is tagged as one. -/
theorem unordered_newYork :
    let clock (hour minute : Nat) : Timestamp := ⟨⟨2024, 11, 3⟩, hour, minute, 0, 0, none⟩
    let first := ofReading newYork (clock 1 30) false
    let second := ofReading newYork (clock 1 30) true
    let quarterTo := ofReading newYork (clock 1 45) false
    let utc (hour minute : Nat) := ofReading ⟨"UTC", 0, []⟩ (clock hour minute) false
    let day : Value := ⟨.timestamp, .date ⟨2024, 11, 3⟩⟩
    let next : Value := ⟨.timestamp, .timestamp ⟨⟨2024, 11, 4⟩, 12, 0, 0, 0, none⟩⟩
    ((first.compareAll (utc 5 30)).before = .ok false ∧
        (first.compareAll (utc 5 30)).same = .ok false ∧
        ((utc 5 30).compareAll first).before = .ok false) ∧
      ((quarterTo.compareAll (utc 6 0)).before = .ok true ∧
        ((utc 6 0).compareAll second).before = .ok true ∧
        (quarterTo.compareAll second).before = .ok false) ∧
      ((first.compareAll second).same = .ok true ∧
        (first.compareAll (utc 6 0)).before = .ok true ∧
        (second.compareAll (utc 6 0)).before = .ok false) ∧
      ((day.compareAll next).before = .error (.filterType (.cannotOrder day.data next.data)) ∧
        (day.compareAll next).same = .ok false ∧
        (next.compareAll day).before = .error (.filterType (.cannotOrder next.data day.data))) := by
  intro clock first second quarterTo utc day next
  refine ⟨?_, ?_, ?_, rfl, rfl, rfl⟩
  all_goals
    simp only [same_compareAll, before_compareAll, Except.ok.injEq]
    decide

end RecordStore.ZonedTime
