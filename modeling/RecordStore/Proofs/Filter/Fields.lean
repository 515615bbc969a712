import RecordStore.Proofs.Filter.Leaves
import RecordStore.Proofs.Memory.Keys

/-!
# The fields that a filter names

What a filter says of a record depends on the fields that the filter names, and on no other.  The
check against a shape changes operands only, so it leaves these fields as they are, and checking a
second time changes nothing.

* `Filter.outline` is a filter without its operands, `Record.AgreesOn` says that two records hold
  the same under some fields.
* `Filter.fields?_eq_ok` finds the named fields at the comparisons of the filter.
* `Filter.matches?_congr` is the dependence on fields, `Filter.validate?_keeps` is what the check
  leaves as it is.
-/

namespace RecordStore

open Outcome

/-- Each of the fields that is a name has the same value in both records, or is missing in both. -/
def Record.AgreesOn (ns : List FieldRef) (r s : Record) : Prop :=
  ∀ n, .name n ∈ ns → r.values.lookup n = s.values.lookup n

/-- What stands for a field is no name, and reads as null, or is a name on which the records
agree. -/
theorem Record.AgreesOn.stored_eq {ns : List FieldRef} {r s : Record} (h : r.AgreesOn ns s)
    {field : FieldRef} (hfield : field ∈ ns) : r.stored field = s.stored field := by
  cases field with
  | stray d => rfl
  | name n => rw [Record.stored_name, Record.stored_name, valueOrNull, valueOrNull, h n hfield]

namespace Filter

mutual

/-- The filter with nothing in the place of its operands. -/
def outline : Filter → Filter
  | compare f op _ => compare f op .none
  | all fs => all (outlines fs)
  | any fs => any (outlines fs)
  | negation f => negation (outline f)
  | junk d => junk d

/-- Several filters with nothing in the place of their operands. -/
def outlines : List Filter → List Filter
  | [] => []
  | f :: fs => outline f :: outlines fs

end

variable {f f' : Filter} {fs gs : List Filter} {ns : List FieldRef} {fields : Shape}
  {r s : Record}

/-! ## Where fields are named -/

mutual

/-- The named fields are those of the comparisons, and nothing else stands in the place of a
filter. -/
theorem fields?_eq_ok : (f : Filter) → (ns : List FieldRef) → f.fields? = .ok ns →
    f.IsExpression ∧ f.leaves.map Leaf.field = ns
  | compare field op o, ns, h => by
    rw [fields?] at h
    split at h
    · cases h
      exact ⟨.compare _ _ _, rfl⟩
    · cases h
  | all fs, ns, h => by
    obtain ⟨hall, hleaves⟩ := fieldsOfAll?_eq_ok fs ns h
    exact ⟨.all hall, hleaves⟩
  | any fs, ns, h => by
    obtain ⟨hall, hleaves⟩ := fieldsOfAll?_eq_ok fs ns h
    exact ⟨.any hall, hleaves⟩
  | negation f, ns, h => by
    obtain ⟨hf, hleaves⟩ := fields?_eq_ok f ns h
    exact ⟨.negation hf, hleaves⟩
  | junk d, ns, h => by cases h

theorem fieldsOfAll?_eq_ok : (fs : List Filter) → (ns : List FieldRef) → fieldsOfAll? fs = .ok ns →
    (∀ f ∈ fs, f.IsExpression) ∧ (leavesOfAll fs).map Leaf.field = ns
  | [], ns, h => by
    cases h
    exact ⟨nofun, rfl⟩
  | f :: fs, ns, h => by
    rw [fieldsOfAll?] at h
    obtain ⟨xs, hxs, h⟩ := bind_eq_ok.mp h
    obtain ⟨ys, hys, h⟩ := bind_eq_ok.mp h
    cases h
    obtain ⟨hf, hleaves⟩ := fields?_eq_ok f xs hxs
    obtain ⟨hfs, hleaves'⟩ := fieldsOfAll?_eq_ok fs ys hys
    refine ⟨List.forall_mem_cons.mpr ⟨hf, hfs⟩, ?_⟩
    rw [leavesOfAll, List.map_append, hleaves, hleaves']

end

mutual

/-- Operands name no fields. -/
theorem fields?_outline : (f : Filter) → f.outline.fields? = f.fields?
  | compare _ _ _ => rfl
  | all fs => fieldsOfAll?_outlines fs
  | any fs => fieldsOfAll?_outlines fs
  | negation f => fields?_outline f
  | junk _ => rfl

theorem fieldsOfAll?_outlines : (fs : List Filter) →
    fieldsOfAll? (outlines fs) = fieldsOfAll? fs
  | [] => rfl
  | f :: fs => by
    rw [outlines, fieldsOfAll?, fieldsOfAll?, fields?_outline f, fieldsOfAll?_outlines fs]

end

/-! ## What a filter depends on -/

theorem matchesAll?_congr (h : ∀ f ∈ fs, f.matches? r = f.matches? s) :
    matchesAll? r fs = matchesAll? s fs := by
  induction fs with
  | nil => rfl
  | cons f fs ih =>
    obtain ⟨hf, hfs⟩ := List.forall_mem_cons.mp h
    rw [matchesAll?, matchesAll?, hf, ih hfs]

theorem matchesAny?_congr (h : ∀ f ∈ fs, f.matches? r = f.matches? s) :
    matchesAny? r fs = matchesAny? s fs := by
  induction fs with
  | nil => rfl
  | cons f fs ih =>
    obtain ⟨hf, hfs⟩ := List.forall_mem_cons.mp h
    rw [matchesAny?, matchesAny?, hf, ih hfs]

/-- Records with the same under the fields of all comparisons pass the same filters, and evaluation
fails on both with one fault. -/
theorem matches?_congr (hf : f.IsExpression)
    (h : ∀ l ∈ f.leaves, r.stored l.field = s.stored l.field) : f.matches? r = f.matches? s := by
  induction hf with
  | compare field op o =>
    have hfield : r.stored field = s.stored field := h ⟨field, op, o⟩ List.mem_cons_self
    rw [matches?, matches?, hfield]
  | @all fs _ ih =>
    exact matchesAll?_congr fun f hf ↦ ih f hf fun l hl ↦ h l (mem_leavesOfAll hf hl)
  | @any fs _ ih =>
    exact matchesAny?_congr fun f hf ↦ ih f hf fun l hl ↦ h l (mem_leavesOfAll hf hl)
  | negation _ ih => rw [matches?, matches?, ih h]

/-! ## What the check leaves alone -/

theorem coerceOperand?_one {op : Operator} (hnull : op ≠ .isNull) (hset : op ≠ .inSet) (v : Value)
    (k : Kind) : coerceOperand? op (.one v) k = (do return .one (← v.coerce? k)) := by
  cases op <;> first | rfl | contradiction

/-- An operand that has taken on a kind takes it on again as it is. -/
theorem coerceOperand?_coerceOperand? {op : Operator} {o o' : Operand} {k : Kind}
    (h : coerceOperand? op o k = .ok o') : coerceOperand? op o' k = .ok o' := by
  rcases Operand.coerceOperand?_cases h with
    ⟨rfl, rfl⟩ | ⟨rfl, vs, vs', -, rfl, hvs⟩ | ⟨hnull, hset, v, v', -, rfl, hv⟩
  · exact h
  · have hagain : vs'.mapM (·.coerce? k) = .ok vs' := by
      refine mapM_eq_ok.mpr (List.forall₂_same.mpr fun v' hv' ↦ ?_)
      obtain ⟨v, -, hv⟩ := exists_of_mem_mapM hvs hv'
      exact Value.coerce?_coerce? hv
    rw [coerceOperand?, hagain, ok_bind, pure_eq]
  · rw [coerceOperand?_one hnull hset, Value.coerce?_coerce? hv, ok_bind, pure_eq]

/-- A comparison passes the check if its field is declared and its operand takes on the kind. -/
theorem validate?_compare_eq_ok {n : String} {k : Kind} {op : Operator} {o o' : Operand}
    (hk : fields.lookup n = some k) (htext : op.isText = true → k = .text)
    (ho : coerceOperand? op o k = .ok o') :
    (compare (.name n) op o).validate? fields = .ok (compare (.name n) op o') := by
  have hdeclared : declared? fields (.name n) = .ok k := by
    simp [declared?, FieldRef.name?, hk]
  rw [validate?, hdeclared, ok_bind, validateCompare?,
    if_neg fun hwrong ↦ hwrong.2 (htext hwrong.1), ho]
  rfl

/-- What is kept of every filter in a list is kept of the list. -/
theorem validateAll?_keeps
    (hkeeps : ∀ f ∈ fs, ∀ f', f.validate? fields = .ok f' →
      f'.outline = f.outline ∧ f'.validate? fields = .ok f')
    (h : validateAll? fields fs = .ok gs) :
    outlines gs = outlines fs ∧ validateAll? fields gs = .ok gs := by
  induction fs generalizing gs with
  | nil =>
    cases h
    exact ⟨rfl, rfl⟩
  | cons f fs ih =>
    rw [validateAll?] at h
    obtain ⟨g, hg, h⟩ := bind_eq_ok.mp h
    obtain ⟨gs, hgs, h⟩ := bind_eq_ok.mp h
    cases h
    obtain ⟨hf, hfs⟩ := List.forall_mem_cons.mp hkeeps
    obtain ⟨houtline, hagain⟩ := hf g hg
    obtain ⟨houtlines, hagains⟩ := ih hfs hgs
    constructor
    · rw [outlines, outlines, houtline, houtlines]
    · rw [validateAll?, hagain, ok_bind, hagains, ok_bind, pure_eq]

/-- The check gives back the same comparisons in the same places, and a second check gives back the
same filter. -/
theorem validate?_keeps (hf : f.IsExpression) (h : f.validate? fields = .ok f') :
    f'.outline = f.outline ∧ f'.validate? fields = .ok f' := by
  induction hf generalizing f' with
  | compare field op o =>
    obtain ⟨n, k, o', rfl, hk, htext, ho, rfl⟩ := validate?_leaf h
    exact ⟨rfl, validate?_compare_eq_ok hk htext (coerceOperand?_coerceOperand? ho)⟩
  | all _ ih =>
    rw [validate?] at h
    obtain ⟨gs, hgs, h⟩ := bind_eq_ok.mp h
    cases h
    obtain ⟨houtlines, hagain⟩ := validateAll?_keeps (fun f hf f' ↦ ih f hf) hgs
    constructor
    · rw [outline, outline, houtlines]
    · rw [validate?, hagain, ok_bind, pure_eq]
  | any _ ih =>
    rw [validate?] at h
    obtain ⟨gs, hgs, h⟩ := bind_eq_ok.mp h
    cases h
    obtain ⟨houtlines, hagain⟩ := validateAll?_keeps (fun f hf f' ↦ ih f hf) hgs
    constructor
    · rw [outline, outline, houtlines]
    · rw [validate?, hagain, ok_bind, pure_eq]
  | negation _ ih =>
    rw [validate?] at h
    obtain ⟨g, hg, h⟩ := bind_eq_ok.mp h
    cases h
    obtain ⟨houtline, hagain⟩ := ih hg
    constructor
    · rw [outline, outline, houtline]
    · rw [validate?, hagain, ok_bind, pure_eq]

/-- Every comparison of an accepted filter is about a declared field. -/
theorem declared_of_validate? (h : f.validate? fields = .ok f') {l : Leaf} (hl : l ∈ f.leaves) :
    ∃ n k, l.field = .name n ∧ fields.lookup n = some k := by
  obtain ⟨l', -, hchecked⟩ := exists_of_mem_forall₂ (forall₂_leaves f f' h).2.flip hl
  obtain ⟨-, -, n, k, hn, hk, -, -⟩ := Leaf.Checked.operand hchecked
  exact ⟨n, k, hn, hk⟩

/-- A filter gives two records the same answer, or fails on both with the same fault, if they agree
on the fields that it names.  A filter that is accepted for a shape names declared fields only.
What is given back has the same combinators, fields and operators in the same places, so it names
the same fields, and it is accepted as it is. -/
theorem sees_named_fields (h : f.fields? = .ok ns) :
    (∀ r s : Record, r.AgreesOn ns s → f.matches? r = f.matches? s) ∧
      ∀ (fields : Shape) (f' : Filter), f.validate? fields = .ok f' →
        (∀ field ∈ ns, ∃ n k, field = .name n ∧ fields.lookup n = some k) ∧
        f'.outline = f.outline ∧ f'.fields? = .ok ns ∧ f'.validate? fields = .ok f' := by
  obtain ⟨hexpression, rfl⟩ := fields?_eq_ok f ns h
  constructor
  · intro r s hagrees
    exact matches?_congr hexpression fun l hl ↦ hagrees.stored_eq (List.mem_map_of_mem hl)
  · intro fields f' hvalid
    obtain ⟨houtline, hagain⟩ := validate?_keeps hexpression hvalid
    refine ⟨fun field hfield ↦ ?_, houtline, ?_, hagain⟩
    · obtain ⟨l, hl, rfl⟩ := List.mem_map.mp hfield
      exact declared_of_validate? hvalid hl
    · rw [← fields?_outline f', houtline, fields?_outline f, h]

/-- A whole number below which prices should be becomes a decimal in the check.  Two records with
one name and one price, neither of which has a note, pass the filter alike, however old they
are. -/
theorem sees_named_fields_prices :
    let fields : Shape := [("name", .text), ("price", .decimal), ("note", .text), ("age", .integer)]
    let tree (limit : Value) : Filter := all [compare (.name "price") .lt (.one limit),
      any [compare (.name "name") .startsWith (.one ⟨.text, .text "B"⟩),
        negation (compare (.name "note") .isNull .none)]]
    let three : Value := ⟨.integer, .integer 3⟩
    let wide : Value := ⟨.decimal, .decimal (.ofInt 3)⟩
    let ns : List FieldRef := [.name "price", .name "name", .name "note"]
    let price : String × Value := ("price", ⟨.decimal, .decimal (.finite false 25 (-1))⟩)
    let name : String × Value := ("name", ⟨.text, .text "Bob"⟩)
    let r : Record := ⟨[name, price, ("age", ⟨.integer, .integer 30⟩)], []⟩
    let s : Record := ⟨[price, name], [("age", .list [])]⟩
    (tree three).fields? = .ok ns ∧ r.AgreesOn ns s ∧
      (tree three).matches? r = (tree three).matches? s ∧
      (tree three).validate? fields = .ok (tree wide) ∧
      (∀ field ∈ ns, ∃ n k, field = .name n ∧ fields.lookup n = some k) ∧
      (tree wide).outline = (tree three).outline ∧ (tree wide).fields? = .ok ns ∧
      (tree wide).validate? fields = .ok (tree wide) := by
  intro fields tree three wide ns price name r s
  have hfields : (tree three).fields? = .ok ns := rfl
  have hvalid : (tree three).validate? fields = .ok (tree wide) := rfl
  have hagrees : r.AgreesOn ns s := by
    intro n hn
    have hn : n = "price" ∨ n = "name" ∨ n = "note" := by simpa [ns] using hn
    rcases hn with rfl | rfl | rfl <;> rfl
  obtain ⟨hframe, hchecked⟩ := sees_named_fields hfields
  exact ⟨hfields, hagrees, hframe r s hagrees, hvalid, hchecked fields _ hvalid⟩

end Filter

end RecordStore
