import RecordStore.Proofs.Filter.Typing
import RecordStore.Proofs.Sql.Pattern
import RecordStore.Proofs.Sql.Predicate

/-!
# Filters and their SQL

A filter that is well-typed for a shape means the same in both readings: its predicate is true for
a row exactly if the record of that row passes the filter, and false otherwise, never unknown.

* `Filter.comparisons` are the values that a filter compares with its fields.
* `Record.Conforms` says that a record has a value of the declared kind, or none, in every field.
* `Filter.read?_ofFilter?` is the theorem above, from the text of the predicate on.
-/

namespace RecordStore

/-- The values of an operand. -/
def Operand.values : Operand → List Value
  | none => []
  | one v => [v]
  | many vs => vs

namespace Filter

mutual

/-- The fields of a filter with the values they are compared with. -/
def comparisons : Filter → List (FieldRef × Value)
  | compare f _ o => o.values.map (f, ·)
  | all fs => comparisonsOfAll fs
  | any fs => comparisonsOfAll fs
  | negation f => comparisons f
  | junk _ => []

/-- The fields of several filters with the values they are compared with. -/
def comparisonsOfAll : List Filter → List (FieldRef × Value)
  | [] => []
  | f :: fs => comparisons f ++ comparisonsOfAll fs

end

theorem mem_comparisonsOfAll {fs : List Filter} {f : Filter} (hf : f ∈ fs)
    {p : FieldRef × Value} (hp : p ∈ f.comparisons) : p ∈ comparisonsOfAll fs := by
  induction fs with
  | nil => cases hf
  | cons g fs ih =>
    rw [comparisonsOfAll, List.mem_append]
    rcases List.mem_cons.mp hf with rfl | hf
    · exact .inl hp
    · exact .inr (ih hf)

end Filter

/-- Every declared field has a value of its kind, or none. -/
def Record.Conforms (r : Record) (fields : Shape) : Prop :=
  ∀ n k, fields.lookup n = some k → (r.valueOrNull n).Fits k

theorem Record.conforms_of_forall {r : Record} {fields : Shape}
    (h : ∀ p ∈ fields, (r.valueOrNull p.1).Fits p.2) : r.Conforms fields := by
  intro n k hk
  obtain ⟨l₁, l₂, rfl, -⟩ := List.lookup_eq_some_iff.mp hk
  exact h (n, k) (by simp)

/-- The row of a record. -/
def Record.tableRow (r : Record) : Sql.TableRow := fun n ↦ (r.valueOrNull n).data

namespace Sql

/-! ## Comparisons of values -/

variable {locale : TextOrder} {d e : Datum} {s t : Scalar}

theorem cell?_of_scalar (h : d.scalar? = some s) : cell? d = some (some s) := by
  have hcell : cell? d = d.scalar?.map some := by
    cases d <;> first | rfl | cases h
  rw [hcell, h]
  rfl

theorem Comparison.holds_compare {α : Type} [LinearOrder α] (c : Comparison) (x y : α) :
    c.holds (Ord.compare x y) = match c with
      | .eq => decide (x = y)
      | .ne => decide (x ≠ y)
      | .gt => decide (y < x)
      | .ge => decide (y ≤ x)
      | .lt => decide (x < y)
      | .le => decide (x ≤ y) := by
  rcases lt_trichotomy x y with h | h | h
  · rw [compare_lt_iff_lt.mpr h]
    cases c <;> simp [holds, h, h.ne, h.le, h.not_gt, h.not_ge]
  · rw [compare_eq_iff_eq.mpr h]
    cases c <;> simp [holds, h]
  · rw [compare_gt_iff_gt.mpr h]
    cases c <;> simp [holds, h, h.ne', h.le, h.not_gt, h.not_ge]

/-- Scalars of one type are ordered by the order of scalars; texts need the collation for it. -/
theorem order?_eq (h : s.sort = t.sort) {collated : Bool}
    (hc : s.kind = .text → collated = true) :
    order? locale collated s t = some (Ord.compare s t) := by
  unfold order?
  split
  · rw [if_pos (.inl (hc rfl))]
  · rw [if_pos h]

/-- Scalars of one type are equal in whatever order of texts. -/
theorem order?_eq_eq (h : s.sort = t.sort) :
    ∃ o, order? locale false s t = some o ∧ Comparison.eq.holds o = decide (s = t) := by
  unfold order?
  split
  · rename_i a b
    refine ⟨_, rfl, ?_⟩
    by_cases hab : a = b
    · rw [if_pos (.inr hab), Comparison.holds_compare]
    · rw [if_neg (by simp [hab])]
      cases locale a b <;> simp [hab, Comparison.holds]
  · refine ⟨_, if_pos h, ?_⟩
    rw [Comparison.holds_compare]

theorem compare?_eq {collated : Bool} (c : Comparison) (hd : d.scalar? = some s)
    (he : e.scalar? = some t) (h : s.sort = t.sort) (hc : s.kind = .text → collated = true) :
    compare? locale collated c d e = some (.ofBool (c.holds (Ord.compare s t))) := by
  simp [compare?, cell?_of_scalar hd, cell?_of_scalar he, order?_eq h hc]

theorem compare?_null_left {collated : Bool} (c : Comparison) (he : e.scalar? = some t) :
    compare? locale collated c .null e = some .unknown := by
  have hnull : cell? .null = some none := rfl
  simp [compare?, cell?_of_scalar he, hnull]

/-- Null equals some element of no array, or one cannot tell. -/
theorem equalsAny?_null {ds : List Datum} (h : ∀ e ∈ ds, ∃ t, e.scalar? = some t) :
    ∃ u, equalsAny? locale .null ds = some u := by
  induction ds with
  | nil => exact ⟨_, rfl⟩
  | cons e ds ih =>
    obtain ⟨t, ht⟩ := h e (by simp)
    obtain ⟨u, hu⟩ := ih fun e he ↦ h e (by simp [he])
    exact ⟨_, by simp [equalsAny?, compare?_null_left _ ht, hu]; rfl⟩

/-- Any other value equals some element if one of them stands for the same. -/
theorem equalsAny?_eq {ds : List Datum} (hd : d.scalar? = some s)
    (h : ∀ e ∈ ds, ∃ t, e.scalar? = some t ∧ s.sort = t.sort) :
    equalsAny? locale d ds = some (.ofBool (ds.any fun e ↦ decide (some s = e.scalar?))) := by
  induction ds with
  | nil => rfl
  | cons e ds ih =>
    obtain ⟨t, ht, hst⟩ := h e (by simp)
    obtain ⟨o, ho, heq⟩ : ∃ o, order? locale false s t = some o ∧ _ := order?_eq_eq hst
    have hfirst : compare? locale false .eq d e = some (.ofBool (decide (s = t))) := by
      simp [compare?, cell?_of_scalar hd, cell?_of_scalar ht, ho, heq]
    simp [equalsAny?, hfirst, ih fun e he ↦ h e (by simp [he]), ht]

end Sql

namespace Filter

open Sql

variable {fields : Shape} {r : Record} {f : Filter} {p : Predicate} {a v : Value}
  {s t : Scalar}

/-! ## One comparison in both readings -/

/-- An operator with an operand other than null compares what the values stand for. -/
theorem matchOne?_eq {field : FieldRef} {op : Operator} {c : Comparison}
    (hop : Comparison.ofOperator? op = some c) (ha : a.IsProper) (hv : v.IsProper)
    (h : a.Comparable v) (hs : a.data.scalar? = some s) (ht : v.data.scalar? = some t) :
    matchOne? field op a v = .ok (c.holds (Ord.compare s t)) := by
  have hranks : a.rank = s ∧ v.rank = t := ⟨hs, ht⟩
  have hna : a.isNull = false := by
    rw [← Bool.not_eq_true, ← ha.rank_eq_bot_iff, hranks.1]
    exact WithBot.coe_ne_bot
  have hnv : v.isNull = false := by
    rw [← Bool.not_eq_true, ← hv.rank_eq_bot_iff, hranks.2]
    exact WithBot.coe_ne_bot
  rw [Comparison.holds_compare]
  cases op <;> cases hop
  case eq =>
    simp [matchOne?, hna, hnv, Value.same?_eq ha hv h, hranks]
  case notEq =>
    simp [matchOne?, hna, hnv, Value.differs?_eq ha hv h, hranks]
  case gt =>
    simp [matchOne?, hna, Value.after?_eq ha hv h, hranks]
  case gte =>
    simp [matchOne?, hna, Value.atLeast?_eq ha hv h, hranks]
  case lt =>
    simp [matchOne?, hna, Value.before?_eq ha hv h, hranks]
  case lte =>
    simp [matchOne?, hna, Value.atMost?_eq ha hv h, hranks]

/-- Null passes no comparison with another value. -/
theorem matchOne?_null {field : FieldRef} {op : Operator} (hv : v.isNull = false) :
    matchOne? field op .null v = .ok false := by
  cases op <;> simp [matchOne?, hv]

/-- A value is in a set if a member stands for the same. -/
theorem matchSet?_eq {vs : List Value} (ha : a.IsProper) (hvs : ∀ v ∈ vs, v.IsProper)
    (h : ∀ v ∈ vs, a.Comparable v) :
    matchSet? a vs = .ok (vs.any fun v ↦ decide (a.rank = v.rank)) := by
  induction vs with
  | nil => rfl
  | cons v vs ih =>
    have hfirst := Value.same?_eq ha (hvs v (by simp)) (h v (by simp))
    rw [matchSet?, hfirst, ih (fun w hw ↦ hvs w (by simp [hw])) fun w hw ↦ h w (by simp [hw])]
    by_cases hr : a.rank = v.rank
    · simp [hr]
    · simp [hr]

/-- The predicate, which has the proper form, is definite for the row of the record, and it says
there what the filter says of the record. -/
structure Agrees (r : Record) (f : Filter) (p : Predicate) (b : Bool) : Prop where
  ofFilter? : Predicate.ofFilter? f = .ok p
  regular : p.Regular
  matches? : f.matches? r = .ok b
  eval? : ∀ locale, p.condition.eval? locale r.tableRow = some (.ofBool b)

variable {n : String}

/-- The test of null, and its opposite. -/
theorem eval?_isNull (ha : (r.valueOrNull n).IsProper) (locale : TextOrder) :
    (Predicate.isNull (quotedName n)).condition.eval? locale r.tableRow =
        some (.ofBool (r.valueOrNull n).isNull) ∧
      (Predicate.isNotNull (quotedName n)).condition.eval? locale r.tableRow =
        some (.ofBool !(r.valueOrNull n).isNull) := by
  rw [Predicate.condition, Predicate.condition, unquoted_quotedName, Condition.eval?,
    Condition.eval?, Record.tableRow]
  rcases ha.null_or_scalar with h | ⟨s, hn, hs, -⟩
  · rw [h]
    exact ⟨rfl, rfl⟩
  · rw [cell?_of_scalar hs, hn]
    exact ⟨rfl, rfl⟩

/-- A guarded test is false on null, whatever it would be without the guard. -/
theorem eval?_guarded {locale : TextOrder} {b : Bool} (ha : (r.valueOrNull n).IsProper)
    (hnull : (r.valueOrNull n).isNull = true →
      b = false ∧ ∃ u, p.condition.eval? locale r.tableRow = some u)
    (hother : (r.valueOrNull n).isNull = false →
      p.condition.eval? locale r.tableRow = some (.ofBool b)) :
    (Predicate.conj [.isNotNull (quotedName n), p]).condition.eval? locale r.tableRow =
      some (.ofBool b) := by
  have hconj : (Predicate.conj [.isNotNull (quotedName n), p]).condition =
      .and (Predicate.isNotNull (quotedName n)).condition p.condition := rfl
  rw [hconj, Condition.eval?, (eval?_isNull ha locale).2]
  cases hn : (r.valueOrNull n).isNull with
  | true =>
    obtain ⟨rfl, u, hu⟩ := hnull hn
    simp [hu]
  | false => simp [hother hn]

/-! ## Every test -/

variable {k : Kind} {op : Operator}

theorem ofFilter?_one (hn : isPlain n.toList = true) (hnull : op ≠ .isNull)
    (hset : op ≠ .inSet) (v : Value) :
    Predicate.ofFilter? (compare (.name n) op (.one v)) =
      Predicate.ofOne? (quotedName n) op v := by
  rw [Predicate.ofFilter?, Predicate.ofCompare?, FieldRef.datum, quote_plain _ hn]
  cases op <;> first | rfl | contradiction

theorem matches?_one (hnull : op ≠ .isNull) (hset : op ≠ .inSet) (v : Value) :
    (compare (.name n) op (.one v)).matches? r =
      matchOne? (.name n) op (r.valueOrNull n) v := by
  rw [matches?, FieldRef.isHashable_name, Record.stored_name, if_pos rfl]
  cases op <;> first | rfl | contradiction

/-- Equality and order with a value other than null. -/
theorem agrees_comparison {c : Comparison} (hn : isPlain n.toList = true)
    (hc : Comparison.ofOperator? op = some c) (ha : (r.valueOrNull n).IsProper)
    (hv : v.IsProper) (hnv : v.isNull = false) (h : (r.valueOrNull n).Comparable v) :
    ∃ p b, Agrees r (compare (.name n) op (.one v)) p b := by
  have hnull : op ≠ .isNull := by
    rintro rfl
    cases hc
  have hset : op ≠ .inSet := by
    rintro rfl
    cases hc
  obtain ⟨t, ht⟩ := hv.exists_scalar hnv
  have hpredicate : Predicate.ofOne? (quotedName n) op v =
      .ok (.conj [.isNotNull (quotedName n),
        .compare (quotedName n) (v.kind == .text) c v.data]) := by
    simp [Predicate.ofOne?, hnv, hc]
  have hregular : Predicate.Regular (.conj [.isNotNull (quotedName n),
      .compare (quotedName n) (v.kind == .text) c v.data]) := by
    refine .conj (by simp) ?_
    intro q hq
    simp only [List.mem_cons, List.not_mem_nil, or_false] at hq
    rcases hq with rfl | rfl
    · exact .isNotNull hn
    · exact .compare hn _ _ _
  have heval (locale : TextOrder) : (Predicate.compare (quotedName n) (v.kind == .text) c
      v.data).condition.eval? locale r.tableRow =
        compare? locale (v.kind == .text) c (r.valueOrNull n).data v.data := by
    rw [Predicate.condition, unquoted_quotedName, Condition.eval?, Record.tableRow]
  rcases ha.null_or_scalar with hnone | ⟨s, hna, hs, -⟩
  · refine ⟨_, false, by rw [ofFilter?_one hn hnull hset, hpredicate], hregular, ?_, ?_⟩
    · rw [matches?_one hnull hset, hnone, matchOne?_null hnv]
    · intro locale
      refine eval?_guarded ha (fun _ ↦ ⟨rfl, .unknown, ?_⟩) (fun hna ↦ ?_)
      · rw [heval, hnone]
        exact compare?_null_left c ht
      · rw [hnone] at hna
        cases hna
  · refine ⟨_, c.holds (Ord.compare s t), by rw [ofFilter?_one hn hnull hset, hpredicate],
      hregular, ?_, ?_⟩
    · rw [matches?_one hnull hset, matchOne?_eq hc ha hv h hs ht]
    · intro locale
      refine eval?_guarded ha (fun hna' ↦ ?_) (fun _ ↦ ?_)
      · rw [hna] at hna'
        cases hna'
      · have hst := h s t hs ht
        have htext : s.kind = .text → (v.kind == .text) = true := by
          intro hk
          rw [hv.kind_eq ht, ← Scalar.kind_eq_of_sort_eq hst, hk]
          rfl
        rw [heval, compare?_eq c hs ht hst htext]

/-- Equality with null, and its opposite. -/
theorem agrees_null (hn : isPlain n.toList = true) (hop : op = .eq ∨ op = .notEq)
    (ha : (r.valueOrNull n).IsProper) (hnv : v.isNull = true) :
    ∃ p b, Agrees r (compare (.name n) op (.one v)) p b := by
  rcases hop with rfl | rfl
  · refine ⟨.isNull (quotedName n), (r.valueOrNull n).isNull, ?_, .isNull hn, ?_,
      fun locale ↦ (eval?_isNull ha locale).1⟩
    · rw [ofFilter?_one hn (by decide) (by decide)]
      simp [Predicate.ofOne?, hnv]
    · rw [matches?_one (by decide) (by decide)]
      simp [matchOne?, hnv]
  · refine ⟨.isNotNull (quotedName n), !(r.valueOrNull n).isNull, ?_, .isNotNull hn, ?_,
      fun locale ↦ (eval?_isNull ha locale).2⟩
    · rw [ofFilter?_one hn (by decide) (by decide)]
      simp [Predicate.ofOne?, hnv]
    · rw [matches?_one (by decide) (by decide)]
      simp [matchOne?, hnv]

/-- A search for a text. -/
theorem agrees_search {needle : String} (hn : isPlain n.toList = true)
    (hop : op.isText = true) (ha : (r.valueOrNull n).Fits .text) :
    ∃ p b, Agrees r (compare (.name n) op (.one ⟨.text, .text needle⟩)) p b := by
  have hnull : op ≠ .isNull := by
    rintro rfl
    cases hop
  have hset : op ≠ .inSet := by
    rintro rfl
    cases hop
  have hpredicate : Predicate.ofOne? (quotedName n) op ⟨.text, .text needle⟩ =
      .ok (.conj [.isNotNull (quotedName n), .like (quotedName n) (likePattern op needle)]) := by
    cases op <;> first | rfl | cases hop
  have hregular : Predicate.Regular (.conj [.isNotNull (quotedName n),
      .like (quotedName n) (likePattern op needle)]) := by
    refine .conj (by simp) ?_
    intro q hq
    simp only [List.mem_cons, List.not_mem_nil, or_false] at hq
    rcases hq with rfl | rfl
    · exact .isNotNull hn
    · exact .like hn _
  have heval (locale : TextOrder) : (Predicate.like (quotedName n)
      (likePattern op needle)).condition.eval? locale r.tableRow =
        like? (r.valueOrNull n).data (.text (likePattern op needle)) := by
    rw [Predicate.condition, unquoted_quotedName, Condition.eval?, Record.tableRow]
  have hmatch : (compare (.name n) op (.one ⟨.text, .text needle⟩)).matches? r =
      if (r.valueOrNull n).isNull then .ok false
      else matchText? (.name n) op (r.valueOrNull n) ⟨.text, .text needle⟩ := by
    rw [matches?_one hnull hset]
    cases op <;> first | rfl | cases hop
  cases hna : (r.valueOrNull n).isNull with
  | true =>
    have hnone := ha.1.eq_null hna
    refine ⟨_, false, by rw [ofFilter?_one hn hnull hset, hpredicate], hregular, ?_, ?_⟩
    · rw [hmatch, if_pos hna]
    · intro locale
      refine eval?_guarded ha.1 (fun _ ↦ ⟨rfl, .unknown, ?_⟩) (fun hna' ↦ ?_)
      · rw [heval, hnone]
        rfl
      · rw [hna] at hna'
        cases hna'
  | false =>
    obtain ⟨x, hx⟩ : ∃ x, r.valueOrNull n = ⟨.text, .text x⟩ := by
      obtain ⟨hproper, hkind⟩ := ha
      rw [hna] at hkind
      generalize r.valueOrNull n = a at *
      obtain ⟨k, d⟩ := a
      cases hkind.resolve_left (by simp)
      cases d <;> first | exact ⟨_, rfl⟩ | cases hproper
    refine ⟨_, finds op x.toList needle.toList, by rw [ofFilter?_one hn hnull hset, hpredicate],
      hregular, ?_, ?_⟩
    · rw [hmatch, hna, hx]
      exact search?_text op x needle
    · intro locale
      refine eval?_guarded ha.1 (fun hna' ↦ ?_) (fun _ ↦ ?_)
      · rw [hna] at hna'
        cases hna'
      · rw [heval, hx]
        exact like?_likePattern hop x needle

/-- The test of null. -/
theorem agrees_isNull (hn : isPlain n.toList = true) (ha : (r.valueOrNull n).IsProper) :
    ∃ p b, Agrees r (compare (.name n) .isNull .none) p b := by
  refine ⟨.isNull (quotedName n), (r.valueOrNull n).isNull, ?_, .isNull hn, rfl,
    fun locale ↦ (eval?_isNull ha locale).1⟩
  rw [Predicate.ofFilter?, Predicate.ofCompare?, FieldRef.datum, quote_plain _ hn]
  rfl

/-- The data of the members other than null. -/
def setData (vs : List Value) : List Datum := (vs.filter (!·.isNull)).map Value.data

/-- A set with null asks for null or for one of the others, any other set for one of its members. -/
theorem ofSet_eq (column : String) (vs : List Value) :
    Predicate.ofSet column vs =
      if setData vs = [] then if vs.any Value.isNull then .isNull column else .never
      else if vs.any Value.isNull then .disj [.isNull column, .equalsAny column (setData vs)]
      else .conj [.isNotNull column, .equalsAny column (setData vs)] := by
  unfold Predicate.ofSet
  rw [← setData]
  cases setData vs with
  | nil => cases vs.any Value.isNull <;> rfl
  | cons d ds => cases vs.any Value.isNull <;> rfl

/-- A value is in a set if it is null and so is a member, or it is not and one of the others stands
for the same. -/
theorem any_rank_eq {vs : List Value} (ha : a.IsProper) (hvs : ∀ v ∈ vs, v.IsProper) :
    (vs.any fun v ↦ decide (a.rank = v.rank)) =
      if a.isNull then vs.any Value.isNull
      else (setData vs).any fun e ↦ decide (a.data.scalar? = e.scalar?) := by
  induction vs with
  | nil => cases a.isNull <;> rfl
  | cons v vs ih =>
    rw [List.any_cons, ih fun w hw ↦ hvs w (by simp [hw])]
    rcases ha.null_or_scalar with rfl | ⟨s, hna, hs, hrs⟩ <;>
      rcases (hvs v (by simp)).null_or_scalar with rfl | ⟨t, hnv, ht, hrt⟩
    · rfl
    · simp [hnv, hrt]
    · simp [hna, hrs, setData]
    · simp [hna, hnv, hrs, hrt, hs, ht, setData]

theorem exists_of_mem_setData {vs : List Value} {e : Datum} (he : e ∈ setData vs) :
    ∃ v ∈ vs, v.isNull = false ∧ v.data = e := by
  obtain ⟨v, hv, rfl⟩ := List.mem_map.mp he
  obtain ⟨hv, hnull⟩ := List.mem_filter.mp hv
  exact ⟨v, hv, by simpa using hnull, rfl⟩

theorem regular_ofSet (hn : isPlain n.toList = true) (vs : List Value) :
    (Predicate.ofSet (quotedName n) vs).Regular := by
  have htwo {q : Predicate} (hq : q.Regular) :
      ∀ q' ∈ [q, .equalsAny (quotedName n) (setData vs)], q'.Regular := by
    intro q' hq'
    simp only [List.mem_cons, List.not_mem_nil, or_false] at hq'
    rcases hq' with rfl | rfl
    · exact hq
    · exact .equalsAny hn _
  rw [ofSet_eq]
  split <;> split
  · exact .isNull hn
  · exact .never
  · exact .disj (by simp) (htwo (.isNull hn))
  · exact .conj (by simp) (htwo (.isNotNull hn))

/-- The predicate of a set, on null and on other values. -/
theorem eval?_ofSet {vs : List Value} (ha : (r.valueOrNull n).IsProper)
    (hvs : ∀ v ∈ vs, v.IsProper) (h : ∀ v ∈ vs, (r.valueOrNull n).Comparable v)
    (locale : TextOrder) :
    (Predicate.ofSet (quotedName n) vs).condition.eval? locale r.tableRow =
      some (.ofBool (vs.any fun v ↦ decide ((r.valueOrNull n).rank = v.rank))) := by
  have hscalars : ∀ e ∈ setData vs, ∃ t, e.scalar? = some t := by
    intro e he
    obtain ⟨v, hv, hnv, rfl⟩ := exists_of_mem_setData he
    exact (hvs v hv).exists_scalar hnv
  have heval : (Predicate.equalsAny (quotedName n) (setData vs)).condition.eval? locale
      r.tableRow = equalsAny? locale (r.valueOrNull n).data (setData vs) := by
    rw [Predicate.condition, unquoted_quotedName, Condition.eval?, Record.tableRow]
  have hnone (hna : (r.valueOrNull n).isNull = true) : ∃ u,
      (Predicate.equalsAny (quotedName n) (setData vs)).condition.eval? locale r.tableRow =
        some u := by
    rw [heval, ha.eq_null hna]
    exact equalsAny?_null hscalars
  have hsome (hna : (r.valueOrNull n).isNull = false) :
      (Predicate.equalsAny (quotedName n) (setData vs)).condition.eval? locale r.tableRow =
        some (.ofBool ((setData vs).any fun e ↦
          decide ((r.valueOrNull n).data.scalar? = e.scalar?))) := by
    obtain ⟨s, hs⟩ := ha.exists_scalar hna
    rw [heval, hs]
    refine equalsAny?_eq hs ?_
    intro e he
    obtain ⟨v, hv, hnv, rfl⟩ := exists_of_mem_setData he
    obtain ⟨t, ht⟩ := (hvs v hv).exists_scalar hnv
    exact ⟨t, ht, h v hv s t hs ht⟩
  rw [any_rank_eq ha hvs, ofSet_eq]
  split <;> split
  · rename_i hempty hnulls
    rw [(eval?_isNull ha locale).1, hempty, hnulls]
    cases (r.valueOrNull n).isNull <;> rfl
  · rename_i hempty hnulls
    have hnulls : vs.any Value.isNull = false := by simpa using hnulls
    rw [hempty, hnulls]
    cases (r.valueOrNull n).isNull <;> rfl
  · rename_i hnulls
    have hdisj : (Predicate.disj [.isNull (quotedName n),
        .equalsAny (quotedName n) (setData vs)]).condition =
        .or (Predicate.isNull (quotedName n)).condition
          (Predicate.equalsAny (quotedName n) (setData vs)).condition := rfl
    rw [hdisj, Condition.eval?, (eval?_isNull ha locale).1, hnulls]
    cases hna : (r.valueOrNull n).isNull with
    | true =>
      obtain ⟨u, hu⟩ := hnone hna
      simp [hu]
    | false => simp [hsome hna]
  · rename_i hnulls
    have hnulls : vs.any Value.isNull = false := by simpa using hnulls
    rw [hnulls]
    refine eval?_guarded ha (fun hna ↦ ?_) (fun hna ↦ ?_)
    · rw [hna]
      exact ⟨rfl, hnone hna⟩
    · rw [hna]
      exact hsome hna

/-- The test for a member of a set. -/
theorem agrees_inSet {vs : List Value} (hn : isPlain n.toList = true)
    (ha : (r.valueOrNull n).IsProper) (hvs : ∀ v ∈ vs, v.IsProper)
    (h : ∀ v ∈ vs, (r.valueOrNull n).Comparable v) :
    ∃ p b, Agrees r (compare (.name n) .inSet (.many vs)) p b := by
  refine ⟨.ofSet (quotedName n) vs, _, ?_, regular_ofSet hn vs, matchSet?_eq ha hvs h,
    eval?_ofSet ha hvs h⟩
  rw [Predicate.ofFilter?, Predicate.ofCompare?, FieldRef.datum, quote_plain _ hn]
  rfl

/-! ## Whole filters -/

/-- The predicates of several filters, with what each says. -/
theorem agrees_list {fs : List Filter} (h : ∀ f ∈ fs, ∃ p b, Agrees r f p b) :
    ∃ (ps : List Predicate) (bs : List Bool),
      Predicate.ofFilters? fs = .ok ps ∧ (∀ p ∈ ps, p.Regular) ∧
      matchesAll? r fs = .ok (bs.all id) ∧ matchesAny? r fs = .ok (bs.any id) ∧
      ∀ locale, List.Forall₂
        (fun c b ↦ Condition.eval? locale r.tableRow c = some (.ofBool b))
        (ps.map Predicate.condition) bs := by
  induction fs with
  | nil => exact ⟨[], [], rfl, by simp, rfl, rfl, fun _ ↦ .nil⟩
  | cons f fs ih =>
    obtain ⟨p, b, hp, hregular, hb, heval⟩ := h f (by simp)
    obtain ⟨ps, bs, hps, hregulars, hall, hany, hevals⟩ := ih fun g hg ↦ h g (by simp [hg])
    refine ⟨p :: ps, b :: bs, ?_, ?_, ?_, ?_, fun locale ↦ .cons (heval locale) (hevals locale)⟩
    · rw [Predicate.ofFilters?, hp, hps]
      rfl
    · intro q hq
      rcases List.mem_cons.mp hq with rfl | hq
      · exact hregular
      · exact hregulars q hq
    · rw [matchesAll?, hb, hall]
      cases b <;> rfl
    · rw [matchesAny?, hb, hany]
      cases b <;> rfl

theorem condition_joined_conj (ps : List Predicate) :
    (Predicate.joined .always .conj ps).condition =
      .joined (.constant true) .and (ps.map Predicate.condition) := by
  match ps with
  | [] => rfl
  | [p] => rfl
  | p :: q :: ps => exact congrArg _ (Predicate.conditions_eq_map _)

theorem condition_joined_disj (ps : List Predicate) :
    (Predicate.joined .never .disj ps).condition =
      .joined (.constant false) .or (ps.map Predicate.condition) := by
  match ps with
  | [] => rfl
  | [p] => rfl
  | p :: q :: ps => exact congrArg _ (Predicate.conditions_eq_map _)

theorem regular_joined {empty : Predicate} {join : List Predicate → Predicate}
    {ps : List Predicate} (hempty : empty.Regular)
    (hjoin : ps ≠ [] → (join ps).Regular) (h : ∀ p ∈ ps, p.Regular) :
    (Predicate.joined empty join ps).Regular := by
  match ps with
  | [] => exact hempty
  | [p] => exact h p (by simp)
  | p :: q :: ps => exact hjoin (by simp)

section

variable {locale : TextOrder} {row : TableRow}

theorem eval?_and {c d : Condition} {a b : Bool} (hc : c.eval? locale row = some (.ofBool a))
    (hd : d.eval? locale row = some (.ofBool b)) :
    (Condition.and c d).eval? locale row = some (.ofBool (a && b)) := by
  rw [Condition.eval?, hc, hd]
  exact congrArg some (Truth.and_ofBool a b)

theorem eval?_or {c d : Condition} {a b : Bool} (hc : c.eval? locale row = some (.ofBool a))
    (hd : d.eval? locale row = some (.ofBool b)) :
    (Condition.or c d).eval? locale row = some (.ofBool (a || b)) := by
  rw [Condition.eval?, hc, hd]
  exact congrArg some (Truth.or_ofBool a b)

variable {join : Condition → Condition → Condition}
  {both : Bool → Bool → Bool}

/-- Definite conditions, joined, are definite. -/
theorem eval?_joined {unit : Bool} (hunit : ∀ b, both unit b = b)
    (hjoin : ∀ {c d : Condition} {a b : Bool}, c.eval? locale row = some (.ofBool a) →
      d.eval? locale row = some (.ofBool b) →
        (join c d).eval? locale row = some (.ofBool (both a b)))
    {cs : List Condition} {bs : List Bool}
    (h : List.Forall₂ (fun c b ↦ Condition.eval? locale row c = some (.ofBool b)) cs bs) :
    (Condition.joined (.constant unit) join cs).eval? locale row =
      some (.ofBool (bs.foldl both unit)) := by
  have hfold {c : Condition} {a : Bool} (hc : c.eval? locale row = some (.ofBool a))
      {cs : List Condition} {bs : List Bool}
      (h : List.Forall₂ (fun c b ↦ Condition.eval? locale row c = some (.ofBool b)) cs bs) :
      (cs.foldl join c).eval? locale row = some (.ofBool (bs.foldl both a)) := by
    induction h generalizing c a with
    | nil => exact hc
    | cons hd _ ih => exact ih (hjoin hc hd)
  cases h with
  | nil => rfl
  | cons hc h =>
    rw [List.foldl_cons, hunit]
    exact hfold hc h

end

theorem foldl_and (bs : List Bool) (b : Bool) : bs.foldl and b = (b && bs.all id) := by
  induction bs generalizing b with
  | nil => simp
  | cons c bs ih => simp [ih, Bool.and_assoc]

theorem foldl_or (bs : List Bool) (b : Bool) : bs.foldl or b = (b || bs.any id) := by
  induction bs generalizing b with
  | nil => simp
  | cons c bs ih => simp [ih, Bool.or_assoc]

/-- A conjunction means in SQL what it means for a record. -/
theorem agrees_all {fs : List Filter} (h : ∀ f ∈ fs, ∃ p b, Agrees r f p b) :
    ∃ p b, Agrees r (all fs) p b := by
  obtain ⟨ps, bs, hps, hregular, hall, -, heval⟩ := agrees_list h
  refine ⟨_, bs.all id, by rw [Predicate.ofFilter?, hps]; rfl,
    regular_joined .always (fun hne ↦ .conj hne hregular) hregular,
    by rw [matches?, hall], fun locale ↦ ?_⟩
  have hjoined := eval?_joined Bool.true_and eval?_and (heval locale)
  rw [condition_joined_conj, hjoined, foldl_and, Bool.true_and]

/-- A disjunction means in SQL what it means for a record. -/
theorem agrees_any {fs : List Filter} (h : ∀ f ∈ fs, ∃ p b, Agrees r f p b) :
    ∃ p b, Agrees r (any fs) p b := by
  obtain ⟨ps, bs, hps, hregular, -, hany, heval⟩ := agrees_list h
  refine ⟨_, bs.any id, by rw [Predicate.ofFilter?, hps]; rfl,
    regular_joined .never (fun hne ↦ .disj hne hregular) hregular,
    by rw [matches?, hany], fun locale ↦ ?_⟩
  have hjoined := eval?_joined Bool.false_or eval?_or (heval locale)
  rw [condition_joined_disj, hjoined, foldl_or, Bool.false_or]

theorem Agrees.negation {b : Bool} (h : Agrees r f p b) :
    Agrees r (.negation f) (.negation p) (!b) where
  ofFilter? := by
    rw [Predicate.ofFilter?, h.ofFilter?]
    rfl
  regular := .negation h.regular
  matches? := by
    rw [Filter.matches?, h.matches?]
    rfl
  eval? locale := by
    rw [Predicate.condition, Condition.eval?, h.eval?]
    cases b <;> rfl

/-- Every operand has proper data, and timestamps are compared only with timestamps that have an
offset as well, or none as well. -/
def OperandsSuit (f : Filter) (r : Record) : Prop :=
  ∀ p ∈ f.comparisons, p.2.IsProper ∧ (r.stored p.1).AgreesInOffset p.2

theorem OperandsSuit.of_mem_all {fs : List Filter} (h : OperandsSuit (.all fs) r) (hf : f ∈ fs) :
    OperandsSuit f r := by
  intro p hp
  refine h p ?_
  rw [comparisons]
  exact mem_comparisonsOfAll hf hp

theorem OperandsSuit.of_mem_any {fs : List Filter} (h : OperandsSuit (.any fs) r) (hf : f ∈ fs) :
    OperandsSuit f r := by
  intro p hp
  refine h p ?_
  rw [comparisons]
  exact mem_comparisonsOfAll hf hp

/-- A value of a field is comparable with an operand of the same kind. -/
theorem comparable_of_suits (ha : a.Fits k) (hk : v.HasKind k) (hv : v.IsProper)
    (ho : a.AgreesInOffset v) : a.Comparable v := by
  refine Value.comparable_of_kind ha.1 hv ?_ ho
  rcases ha.2 with hna | hka
  · exact .inl hna
  · rcases hk with hnv | hkv
    · exact .inr (.inl hnv)
    · exact .inr (.inr (hka.trans hkv.symm))

theorem mem_keys_of_lookup {m : Shape} (h : m.lookup n = some k) : n ∈ m.keys := by
  rw [List.lookup_eq_some_iff] at h
  obtain ⟨l₁, l₂, rfl, -⟩ := h
  simp [Assoc.keys]

/-- A well-typed filter means in SQL what it means for a record. -/
theorem WellTyped.agrees (hf : f.WellTyped fields)
    (hnames : ∀ n ∈ fields.keys, isPlain n.toList = true) (hr : r.Conforms fields)
    (h : f.OperandsSuit r) : ∃ p b, Agrees r f p b := by
  induction hf with
  | @compare n k op v hk hnull hset htext hv horder =>
    have hn := hnames n (mem_keys_of_lookup hk)
    obtain ⟨hproper, hoffset⟩ := h (.name n, v) (by simp [comparisons, Operand.values])
    cases hnv : v.isNull with
    | true =>
      have hop : op = .eq ∨ op = .notEq := by
        cases op <;> simp_all [Operator.isOrdering, Operator.isText]
      exact agrees_null hn hop (hr n k hk).1 hnv
    | false =>
      obtain ⟨c, hc⟩ : ∃ c, Comparison.ofOperator? op = some c := by
        cases op <;> first | exact ⟨_, rfl⟩ | contradiction
      exact agrees_comparison hn hc (hr n k hk).1 hproper hnv
        (comparable_of_suits (hr n k hk) hv hproper hoffset)
  | @search n op s hk htext =>
    exact agrees_search (hnames n (mem_keys_of_lookup hk)) htext (hr n _ hk)
  | @isNull n k hk =>
    exact agrees_isNull (hnames n (mem_keys_of_lookup hk)) (hr n k hk).1
  | @inSet n k vs hk hvs =>
    have hmember (v : Value) (hv : v ∈ vs) :
        v.IsProper ∧ (r.valueOrNull n).AgreesInOffset v :=
      h (.name n, v) (by simpa [comparisons, Operand.values] using hv)
    exact agrees_inSet (hnames n (mem_keys_of_lookup hk)) (hr n k hk).1
      (fun v hv ↦ (hmember v hv).1)
      fun v hv ↦ comparable_of_suits (hr n k hk) (hvs v hv) (hmember v hv).1 (hmember v hv).2
  | all _ ih => exact agrees_all fun f hf ↦ ih f hf (h.of_mem_all hf)
  | any _ ih => exact agrees_any fun f hf ↦ ih f hf (h.of_mem_any hf)
  | negation _ ih =>
    obtain ⟨p, b, hp⟩ := ih h
    exact ⟨_, _, hp.negation⟩

/-- A filter that is built by the constructors and accepted for a shape becomes SQL text which, with
its parameters, is true for a row exactly if the record of the row passes the filter, and false
otherwise. -/
theorem read?_ofFilter? {f₀ : Filter} (hnames : ∀ n ∈ fields.keys, isPlain n.toList = true)
    (hbuilt : f₀.Built) (hvalid : f₀.validate? fields = .ok f) (hr : r.Conforms fields)
    (h : f.OperandsSuit r) :
    ∃ p c b, Predicate.ofFilter? f = .ok p ∧ Condition.read? p.text p.parameters = some c ∧
      f.matches? r = .ok b ∧ ∀ locale, c.eval? locale r.tableRow = some (.ofBool b) := by
  obtain ⟨p, b, hp⟩ := (hbuilt.wellTyped hvalid).agrees hnames hr h
  exact ⟨p, p.condition, b, hp.ofFilter?, hp.regular.read?_text, hp.matches?, hp.eval?⟩

/-- Neither a special character in the operand nor a field that the record lacks makes a
difference. -/
theorem read?_ofFilter?_absent :
    let f := negation (any [compare (.name "name") .startsWith (.one ⟨.text, .text "a_"⟩),
      compare (.name "age") .inSet (.many [.null, ⟨.integer, .integer 3⟩])])
    let r : Record := ⟨[("name", ⟨.text, .text "abc"⟩)], []⟩
    ∃ p c b, Predicate.ofFilter? f = .ok p ∧ Condition.read? p.text p.parameters = some c ∧
      f.matches? r = .ok b ∧ ∀ locale, c.eval? locale r.tableRow = some (.ofBool b) := by
  intro f r
  have hsearch : Built (compare (.name "name") .startsWith (.one ⟨.text, .text "a_"⟩)) :=
    .comparing (by decide) (by decide)
      (show comparing? .startsWith (.text "name") (.text "a_") = .ok _ from rfl)
  have hset : Built (compare (.name "age") .inSet (.many [.null, ⟨.integer, .integer 3⟩])) :=
    .inSet (show inSet? (.text "age") (.list [.null, .integer 3]) = .ok _ from rfl)
  have hbuilt : f.Built := by
    refine .negation (.any ?_)
    intro g hg
    simp only [List.mem_cons, List.not_mem_nil, or_false] at hg
    rcases hg with rfl | rfl
    · exact hsearch
    · exact hset
  have hnames : ∀ n ∈ Assoc.keys [("name", Kind.text), ("age", .integer)],
      isPlain n.toList = true := by decide
  have hr : r.Conforms [("name", .text), ("age", .integer)] :=
    Record.conforms_of_forall (by decide)
  have hsuit : f.OperandsSuit r := by
    intro p hp
    have hp : p = (.name "name", ⟨.text, .text "a_"⟩) ∨ p = (.name "age", .null) ∨
        p = (.name "age", ⟨.integer, .integer 3⟩) := by
      simpa [f, comparisons, comparisonsOfAll, Operand.values] using hp
    rcases hp with rfl | rfl | rfl <;>
      exact ⟨rfl, fun t u _ hu ↦ by cases hu⟩
  exact read?_ofFilter? hnames hbuilt rfl hr hsuit

end Filter

end RecordStore
