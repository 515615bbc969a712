import RecordStore.Proofs.Filter.Agreement
import RecordStore.Proofs.Value.Conversion

/-!
# Checked filters on converted records

A filter that was accepted for a shape never fails on a record that was converted to the shape.
What it decides there is what it decided before either was converted, if it did not fail then.

* `Record.coerce?_valueOrNull` tells what conversion does to the value of a field.
* `Filter.ValuesSuit` is what is asked of the values that are compared.
* `Filter.Built.exists_matches?` is the theorem above.
-/

namespace RecordStore

open Outcome

variable {fields : Shape} {r r' : Record} {n : String} {k : Kind}

/-- Conversion gives the value of a declared field the kind of the field. -/
theorem Record.coerce?_valueOrNull (h : r.conform? fields = .ok r')
    (hk : fields.lookup n = some k) : (r.valueOrNull n).coerce? k = .ok (r'.valueOrNull n) := by
  obtain ⟨values, hvalues, h⟩ := bind_eq_ok.mp h
  cases h
  have hall := mapM_eq_ok.mp hvalues
  clear hvalues h
  obtain ⟨vs, extras⟩ := r
  change ((vs.lookup n).getD .null).coerce? k = .ok ((values.lookup n).getD .null)
  change List.Forall₂ _ vs values at hall
  induction hall with
  | nil => exact if_pos (.inr rfl)
  | @cons p q vs ws hpq _ ih =>
    obtain ⟨m, v⟩ := p
    rw [conformValue?] at hpq
    have hname : q.1 = m := by
      split at hpq
      · obtain ⟨v', -, hq⟩ := bind_eq_ok.mp hpq
        cases hq
        rfl
      · cases hpq
        rfl
    obtain ⟨m', v'⟩ := q
    obtain rfl : m' = m := hname
    rw [List.lookup_cons, List.lookup_cons]
    split
    · rename_i hmn
      obtain rfl : n = m' := by simpa using hmn
      simp only [hk] at hpq
      obtain ⟨w, hw, hq⟩ := bind_eq_ok.mp hpq
      cases hq
      exact hw
    · exact ih

namespace Filter

/-- The values that the filter compares have data of their kind, and timestamps are compared only
with timestamps that have an offset as well, or none as well. -/
def ValuesSuit (f : Filter) (r : Record) : Prop :=
  ∀ p ∈ f.comparisons, p.2.IsProper ∧ (r.stored p.1).IsProper ∧ (r.stored p.1).AgreesInOffset p.2

theorem ValuesSuit.of_mem_all {f : Filter} {fs : List Filter} (h : ValuesSuit (.all fs) r)
    (hf : f ∈ fs) : f.ValuesSuit r := by
  intro p hp
  refine h p ?_
  rw [comparisons]
  exact mem_comparisonsOfAll hf hp

theorem ValuesSuit.of_mem_any {f : Filter} {fs : List Filter} (h : ValuesSuit (.any fs) r)
    (hf : f ∈ fs) : f.ValuesSuit r := by
  intro p hp
  refine h p ?_
  rw [comparisons]
  exact mem_comparisonsOfAll hf hp

variable {a a' v v' : Value} {op : Operator} {field : FieldRef}

/-! ## Single tests -/

/-- Equality and order of two values that have taken on one kind. -/
theorem settles_matchOne? (hnull : op ≠ .isNull) (hset : op ≠ .inSet) (htext : op.isText = false)
    (ha : a.IsProper) (hv : v.IsProper) (ho : a.AgreesInOffset v) (haa' : a.coerce? k = .ok a')
    (hvv' : v.coerce? k = .ok v') :
    Settles (matchOne? field op a v) (matchOne? field op a' v') := by
  have hsame := Value.settles_same? ha hv ho haa' hvv'
  have hbefore := Value.settles_before? ha hv ho haa' hvv'
  have hdiffers : Settles (a.differs? v) (a'.differs? v') := hsame.bind fun b ↦ settles_ok _
  have hna := Value.isNull_coerce? haa'
  have hnv := Value.isNull_coerce? hvv'
  cases op with
  | eq =>
    rw [matchOne?, matchOne?, hna, hnv]
    split
    · exact settles_ok _
    · split
      · exact settles_ok _
      · exact hsame
  | notEq =>
    rw [matchOne?, matchOne?, hna, hnv]
    split
    · exact settles_ok _
    · split
      · exact settles_ok _
      · exact hdiffers
  | gt =>
    rw [matchOne?, matchOne?, hna]
    split
    · exact settles_ok _
    · refine hbefore.bind fun b ↦ ?_
      split
      · exact settles_ok _
      · exact hdiffers
  | gte =>
    rw [matchOne?, matchOne?, hna]
    split
    · exact settles_ok _
    · exact hbefore.bind fun b ↦ settles_ok _
  | lt =>
    rw [matchOne?, matchOne?, hna]
    split
    · exact settles_ok _
    · exact hbefore
  | lte =>
    rw [matchOne?, matchOne?, hna]
    split
    · exact settles_ok _
    · refine hbefore.bind fun b ↦ ?_
      split
      · exact settles_ok _
      · exact hsame
  | contains => cases htext
  | startsWith => cases htext
  | endsWith => cases htext
  | isNull => exact absurd rfl hnull
  | inSet => exact absurd rfl hset

/-- Membership in a set whose members have taken on the kind of the value. -/
theorem settles_matchSet? {vs vs' : List Value} (ha : a.IsProper) (haa' : a.coerce? k = .ok a')
    (hvs : List.Forall₂ (fun v v' ↦ v.coerce? k = .ok v') vs vs')
    (h : ∀ v ∈ vs, v.IsProper ∧ a.AgreesInOffset v) :
    Settles (matchSet? a vs) (matchSet? a' vs') := by
  induction hvs with
  | nil => exact settles_ok _
  | @cons v v' vs vs' hvv' _ ih =>
    obtain ⟨hv, ho⟩ := h v (by simp)
    rw [matchSet?, matchSet?]
    refine (Value.settles_same? ha hv ho haa' hvv').bind fun b ↦ ?_
    split
    · exact settles_ok _
    · exact ih fun w hw ↦ h w (by simp [hw])

/-- A search in a text, or in null, has a result. -/
theorem exists_matchOne?_search {needle : String} (htext : op.isText = true) (ha : a.Fits .text) :
    ∃ b, matchOne? field op a ⟨.text, .text needle⟩ = .ok b := by
  have hmatch : matchOne? field op a ⟨.text, .text needle⟩ =
      if a.isNull then .ok false else matchText? field op a ⟨.text, .text needle⟩ := by
    cases op <;> first | rfl | cases htext
  rw [hmatch]
  split
  · exact ⟨_, rfl⟩
  · rename_i hna
    obtain ⟨hproper, hkind⟩ := ha
    obtain ⟨kind, d⟩ := a
    cases hkind.resolve_left hna
    cases d <;> try cases hproper
    exact ⟨_, Sql.search?_text op _ needle⟩

/-! ## Whole filters -/

variable {f₀ f : Filter}

/-- A comparison that was accepted. -/
theorem settles_compare (hr : r.conform? fields = .ok r') (hnull : op ≠ .isNull)
    (hset : op ≠ .inSet) (htext : op.isText = false)
    (hv : (compare (.name n) op (.one v)).validate? fields = .ok f)
    (h : (compare (.name n) op (.one v)).ValuesSuit r) :
    Settles ((compare (.name n) op (.one v)).matches? r) (f.matches? r') := by
  obtain ⟨k, o, hk, -, ho, rfl⟩ := validate?_compare hv
  have hone : coerceOperand? op (.one v) k = (do return .one (← v.coerce? k)) := by
    cases op <;> first | rfl | contradiction
  rw [hone] at ho
  obtain ⟨v', hvv', ho⟩ := bind_eq_ok.mp ho
  cases ho
  obtain ⟨hproper, hstored, hoffset⟩ := h (.name n, v) (by simp [comparisons, Operand.values])
  rw [matches?_one hnull hset, matches?_one hnull hset]
  exact settles_matchOne? hnull hset htext hstored hproper hoffset
    (Record.coerce?_valueOrNull hr hk) hvv'

/-- A search that was accepted. -/
theorem settles_search {needle : String} (hr : r.conform? fields = .ok r')
    (htext : op.isText = true)
    (hv : (compare (.name n) op (.one ⟨.text, .text needle⟩)).validate? fields = .ok f)
    (h : (compare (.name n) op (.one ⟨.text, .text needle⟩)).ValuesSuit r) :
    Settles ((compare (.name n) op (.one ⟨.text, .text needle⟩)).matches? r) (f.matches? r') := by
  obtain ⟨k, o, hk, hkind, ho, rfl⟩ := validate?_compare hv
  cases hkind htext
  have hone : coerceOperand? op (.one ⟨.text, .text needle⟩) .text =
      .ok (.one ⟨.text, .text needle⟩) := by
    cases op <;> first | rfl | cases htext
  rw [hone] at ho
  cases ho
  obtain ⟨-, hstored, -⟩ := h (.name n, ⟨.text, .text needle⟩)
    (by simp [comparisons, Operand.values])
  have hcoerced := Record.coerce?_valueOrNull hr hk
  have hsame : r'.valueOrNull n = r.valueOrNull n := by
    obtain ⟨hsame, -⟩ | ⟨m, hdecimal, -⟩ := Value.coerce?_cases hstored hcoerced
    · exact hsame
    · cases hdecimal
  have hfits := hstored.coerce? hcoerced
  rw [hsame] at hfits
  obtain ⟨b, hb⟩ : ∃ b, matchOne? (.name n) op (r.valueOrNull n) ⟨.text, .text needle⟩ = .ok b :=
    exists_matchOne?_search htext hfits
  have hnull : op ≠ .isNull := by
    rintro rfl
    cases htext
  have hset : op ≠ .inSet := by
    rintro rfl
    cases htext
  rw [matches?_one hnull hset, matches?_one hnull hset, hsame, hb]
  exact settles_ok b

theorem settles_comparing? {field value : Datum} (hr : r.conform? fields = .ok r')
    (hnull : op ≠ .isNull) (hset : op ≠ .inSet) (h₀ : comparing? op field value = .ok f₀)
    (hv : f₀.validate? fields = .ok f) (h : f₀.ValuesSuit r) :
    Settles (f₀.matches? r) (f.matches? r') := by
  unfold comparing? at h₀
  split at h₀
  · rename_i horder
    obtain ⟨n, v, rfl, -⟩ := ordered?_eq_ok h₀
    exact settles_compare hr hnull hset (by cases op <;> first | rfl | cases horder) hv h
  · split at h₀
    · rename_i htext
      obtain ⟨n, s, rfl⟩ := textual?_eq_ok h₀
      exact settles_search hr htext hv h
    · rename_i htext
      obtain ⟨n, v, rfl⟩ := scalar?_eq_ok h₀
      exact settles_compare hr hnull hset (by simpa using htext) hv h

/-- A test of null that was accepted. -/
theorem settles_isNull (hr : r.conform? fields = .ok r')
    (hv : (compare (.name n) .isNull .none).validate? fields = .ok f) :
    Settles ((compare (.name n) .isNull .none).matches? r) (f.matches? r') := by
  obtain ⟨k, o, hk, -, ho, rfl⟩ := validate?_compare hv
  cases ho
  have hnull := Value.isNull_coerce? (Record.coerce?_valueOrNull hr hk)
  have hmatch (r : Record) : (compare (.name n) .isNull .none).matches? r =
      .ok (r.valueOrNull n).isNull := rfl
  rw [hmatch, hmatch, hnull]
  exact settles_ok _

/-- A test for a member of a set that was accepted. -/
theorem settles_inSet {vs : List Value} (hr : r.conform? fields = .ok r')
    (hv : (compare (.name n) .inSet (.many vs)).validate? fields = .ok f)
    (h : (compare (.name n) .inSet (.many vs)).ValuesSuit r) :
    Settles ((compare (.name n) .inSet (.many vs)).matches? r) (f.matches? r') := by
  obtain ⟨k, o, hk, -, ho, rfl⟩ := validate?_compare hv
  obtain ⟨vs', hvs, ho⟩ := bind_eq_ok.mp ho
  cases ho
  have hmember (v : Value) (hv : v ∈ vs) : v.IsProper ∧ (r.valueOrNull n).IsProper ∧
      (r.valueOrNull n).AgreesInOffset v :=
    h (.name n, v) (by simpa [comparisons, Operand.values] using hv)
  have hmatch (r : Record) (vs : List Value) :
      (compare (.name n) .inSet (.many vs)).matches? r = matchSet? (r.valueOrNull n) vs := rfl
  rw [hmatch, hmatch]
  have hall := mapM_eq_ok.mp hvs
  cases vs with
  | nil =>
    cases hall
    exact settles_ok _
  | cons v vs =>
    exact settles_matchSet? (hmember v List.mem_cons_self).2.1 (Record.coerce?_valueOrNull hr hk)
      hall fun w hw ↦ ⟨(hmember w hw).1, (hmember w hw).2.2⟩

/-- Several filters, each of which was accepted. -/
theorem settles_list {fs gs : List Filter} (hv : validateAll? fields fs = .ok gs)
    (h : ∀ f₀ ∈ fs, ∀ f, f₀.validate? fields = .ok f →
      Settles (f₀.matches? r) (f.matches? r')) :
    Settles (matchesAll? r fs) (matchesAll? r' gs) ∧
      Settles (matchesAny? r fs) (matchesAny? r' gs) := by
  rw [validateAll?_eq_mapM] at hv
  have hall := mapM_eq_ok.mp hv
  clear hv
  induction hall with
  | nil => exact ⟨settles_ok _, settles_ok _⟩
  | @cons f₀ f fs gs hf _ ih =>
    have hfirst := h f₀ (by simp) f hf
    obtain ⟨hall, hany⟩ := ih fun g hg ↦ h g (by simp [hg])
    refine ⟨hfirst.bind fun b ↦ ?_, hfirst.bind fun b ↦ ?_⟩
    · cases b
      · exact settles_ok _
      · exact hall
    · cases b
      · exact hany
      · exact settles_ok _

/-- A filter that was built by the constructors and accepted for a shape never fails on a record
that was converted to it, and passes it exactly if the filter as it was built passes the record as
it was before, unless that fails. -/
theorem Built.exists_matches? (hbuilt : f₀.Built) (hv : f₀.validate? fields = .ok f)
    (hr : r.conform? fields = .ok r') (h : f₀.ValuesSuit r) :
    ∃ b, f.matches? r' = .ok b ∧ ∀ b₀, f₀.matches? r = .ok b₀ → b₀ = b := by
  change Settles (f₀.matches? r) (f.matches? r')
  induction hbuilt generalizing f with
  | comparing hnull hset h₀ => exact settles_comparing? hr hnull hset h₀ hv h
  | isNull h₀ =>
    obtain ⟨field, hfield, h₀⟩ := bind_eq_ok.mp h₀
    obtain ⟨n, rfl⟩ := fieldName?_eq_ok hfield
    cases h₀
    exact settles_isNull hr hv
  | isNotNull h₀ =>
    obtain ⟨n, v, rfl⟩ := scalar?_eq_ok h₀
    exact settles_compare hr (by decide) (by decide) rfl hv h
  | inSet h₀ =>
    obtain ⟨ds, _, h₀⟩ := bind_eq_ok.mp h₀
    obtain ⟨vs, _, h₀⟩ := bind_eq_ok.mp h₀
    split at h₀
    · cases h₀
    · obtain ⟨field, hfield, h₀⟩ := bind_eq_ok.mp h₀
      obtain ⟨n, rfl⟩ := fieldName?_eq_ok hfield
      cases h₀
      exact settles_inSet hr hv h
  | between h₀ =>
    obtain ⟨low, hlow, h₀⟩ := bind_eq_ok.mp h₀
    obtain ⟨high, hhigh, h₀⟩ := bind_eq_ok.mp h₀
    cases h₀
    obtain ⟨n, v, rfl, -⟩ := ordered?_eq_ok hlow
    obtain ⟨m, w, rfl, -⟩ := ordered?_eq_ok hhigh
    rw [validate?] at hv
    obtain ⟨gs, hgs, hv⟩ := bind_eq_ok.mp hv
    cases hv
    refine (settles_list hgs fun g hg f hf ↦ ?_).1
    have hsuit := h.of_mem_all hg
    simp only [List.mem_cons, List.not_mem_nil, or_false] at hg
    rcases hg with rfl | rfl
    · exact settles_compare hr (by decide) (by decide) rfl hf hsuit
    · exact settles_compare hr (by decide) (by decide) rfl hf hsuit
  | all _ ih =>
    rw [validate?] at hv
    obtain ⟨gs, hgs, hv⟩ := bind_eq_ok.mp hv
    cases hv
    exact (settles_list hgs fun g hg f hf ↦ ih g hg hf (h.of_mem_all hg)).1
  | any _ ih =>
    rw [validate?] at hv
    obtain ⟨gs, hgs, hv⟩ := bind_eq_ok.mp hv
    cases hv
    exact (settles_list hgs fun g hg f hf ↦ ih g hg hf (h.of_mem_any hg)).2
  | negation _ ih =>
    rw [validate?] at hv
    obtain ⟨g, hg, hv⟩ := bind_eq_ok.mp hv
    cases hv
    exact (ih hg h).bind fun b ↦ settles_ok _

/-- A whole number in a column of decimals. -/
theorem exists_matches?_widened :
    let f := all [compare (.name "age") .gt (.one ⟨.integer, .integer 2⟩),
      compare (.name "age") .inSet (.many [.null, ⟨.integer, .integer 3⟩])]
    let r : Record := ⟨[("age", ⟨.integer, .integer 3⟩)], []⟩
    ∃ f' r' b, f.validate? [("age", .decimal)] = .ok f' ∧
      r.conform? [("age", .decimal)] = .ok r' ∧ f'.matches? r' = .ok b ∧
      ∀ b₀, f.matches? r = .ok b₀ → b₀ = b := by
  intro f r
  have hlater : Built (compare (.name "age") .gt (.one ⟨.integer, .integer 2⟩)) :=
    .comparing (by decide) (by decide)
      (show comparing? .gt (.text "age") (.integer 2) = .ok _ from rfl)
  have hset : Built (compare (.name "age") .inSet (.many [.null, ⟨.integer, .integer 3⟩])) :=
    .inSet (show inSet? (.text "age") (.list [.null, .integer 3]) = .ok _ from rfl)
  have hbuilt : f.Built := by
    refine .all ?_
    intro g hg
    simp only [List.mem_cons, List.not_mem_nil, or_false] at hg
    rcases hg with rfl | rfl
    · exact hlater
    · exact hset
  have hsuit : f.ValuesSuit r := by
    intro p hp
    have hp : p = (.name "age", ⟨.integer, .integer 2⟩) ∨ p = (.name "age", .null) ∨
        p = (.name "age", ⟨.integer, .integer 3⟩) := by
      simpa [f, comparisons, comparisonsOfAll, Operand.values] using hp
    rcases hp with rfl | rfl | rfl <;>
      exact ⟨rfl, rfl, fun t u _ hu ↦ by cases hu⟩
  have hvalid : ∃ f', f.validate? [("age", .decimal)] = .ok f' := ⟨_, rfl⟩
  have hconforms : ∃ r', r.conform? [("age", .decimal)] = .ok r' := ⟨_, rfl⟩
  obtain ⟨f', hf'⟩ := hvalid
  obtain ⟨r', hr'⟩ := hconforms
  obtain ⟨b, hb⟩ := hbuilt.exists_matches? hf' hr' hsuit
  exact ⟨f', r', b, hf', hr', hb⟩

end Filter

end RecordStore
