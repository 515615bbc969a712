import RecordStore.Filter.Make
import RecordStore.Filter.Validation
import RecordStore.Proofs.Outcome
import RecordStore.Proofs.Value.Scalar

/-!
# Well-typed filters

A filter is well-typed for a shape if every test in it is one that its field allows: the fields are
declared, operands are null or of the kind of their field, and only texts are searched.  Whatever
the constructors build and the check against the shape accepts comes out well-typed.

* `Filter.Built` are the filters that the constructors build, `Filter.WellTyped` the well-typed
  ones.
* `Filter.Built.wellTyped` is the theorem above.
* `Filter.comparisons` are the pairs of a field and a value that a filter compares.
-/

namespace RecordStore

/-- The value is null or of the kind. -/
def Value.HasKind (v : Value) (k : Kind) : Prop := v.isNull = true ∨ v.kind = k

/-- A value that takes on a kind has it. -/
theorem Value.hasKind_of_coerce? {v w : Value} {k : Kind} (h : v.coerce? k = .ok w) :
    w.HasKind k := by
  unfold coerce? at h
  split at h
  · rename_i hk
    cases h
    exact hk.symm
  · split at h
    · rename_i hk
      obtain ⟨d, _, hd⟩ := Outcome.bind_eq_ok.mp h
      cases hd
      exact .inr hk.2.symm
    · cases h

namespace Filter

/-- The filters that the constructors build. -/
inductive Built : Filter → Prop
  | comparing {op : Operator} {field value : Datum} {f : Filter} (hnull : op ≠ .isNull)
    (hset : op ≠ .inSet) (h : comparing? op field value = .ok f) : Built f
  | isNull {field : Datum} {f : Filter} (h : isNull? field = .ok f) : Built f
  | isNotNull {field : Datum} {f : Filter} (h : isNotNull? field = .ok f) : Built f
  | inSet {field values : Datum} {f : Filter} (h : inSet? field values = .ok f) : Built f
  | between {field low high : Datum} {f : Filter} (h : between? field low high = .ok f) : Built f
  | all {fs : List Filter} (h : ∀ f ∈ fs, Built f) : Built (all fs)
  | any {fs : List Filter} (h : ∀ f ∈ fs, Built f) : Built (any fs)
  | negation {f : Filter} (h : Built f) : Built (negation f)

/-- The filters whose every test suits the kind of its field. -/
inductive WellTyped (fields : Shape) : Filter → Prop
  /-- Equality and order; nothing is before or after null. -/
  | compare {n : String} {k : Kind} {op : Operator} {v : Value} (hk : fields.lookup n = some k)
    (hnull : op ≠ .isNull) (hset : op ≠ .inSet) (htext : op.isText = false) (hv : v.HasKind k)
    (horder : op.isOrdering = true → v.isNull = false) :
    WellTyped fields (compare (.name n) op (.one v))
  | search {n : String} {op : Operator} {s : String} (hk : fields.lookup n = some .text)
    (htext : op.isText = true) : WellTyped fields (compare (.name n) op (.one ⟨.text, .text s⟩))
  | isNull {n : String} {k : Kind} (hk : fields.lookup n = some k) :
    WellTyped fields (compare (.name n) .isNull .none)
  | inSet {n : String} {k : Kind} {vs : List Value} (hk : fields.lookup n = some k)
    (hvs : ∀ v ∈ vs, v.HasKind k) : WellTyped fields (compare (.name n) .inSet (.many vs))
  | all {fs : List Filter} (h : ∀ f ∈ fs, WellTyped fields f) : WellTyped fields (all fs)
  | any {fs : List Filter} (h : ∀ f ∈ fs, WellTyped fields f) : WellTyped fields (any fs)
  | negation {f : Filter} (h : WellTyped fields f) : WellTyped fields (negation f)

/-! ## What the constructors build -/

theorem fieldName?_eq_ok {d : Datum} {r : FieldRef} (h : fieldName? d = .ok r) :
    ∃ n, r = .name n := by
  unfold fieldName? at h
  split at h
  · split at h
    · cases h
    · cases h
      exact ⟨_, rfl⟩
  · cases h

theorem scalar?_eq_ok {op : Operator} {field value : Datum} {f : Filter}
    (h : scalar? op field value = .ok f) : ∃ n v, f = compare (.name n) op (.one v) := by
  obtain ⟨r, hr, h⟩ := Outcome.bind_eq_ok.mp h
  obtain ⟨v, _, h⟩ := Outcome.bind_eq_ok.mp h
  obtain ⟨n, rfl⟩ := fieldName?_eq_ok hr
  cases h
  exact ⟨n, v, rfl⟩

/-- An ordering has an operand other than null. -/
theorem ordered?_eq_ok {op : Operator} {field value : Datum} {f : Filter}
    (h : ordered? op field value = .ok f) :
    ∃ n v, f = compare (.name n) op (.one v) ∧ v.isNull = false := by
  obtain ⟨v, _, h⟩ := Outcome.bind_eq_ok.mp h
  split at h
  · cases h
  · rename_i hnull
    obtain ⟨r, hr, h⟩ := Outcome.bind_eq_ok.mp h
    obtain ⟨n, rfl⟩ := fieldName?_eq_ok hr
    cases h
    exact ⟨n, v, rfl, by simpa using hnull⟩

/-- A search has a text for its operand. -/
theorem textual?_eq_ok {op : Operator} {field value : Datum} {f : Filter}
    (h : textual? op field value = .ok f) :
    ∃ n s, f = compare (.name n) op (.one ⟨.text, .text s⟩) := by
  unfold textual? at h
  split at h
  · obtain ⟨r, hr, h⟩ := Outcome.bind_eq_ok.mp h
    obtain ⟨n, rfl⟩ := fieldName?_eq_ok hr
    cases h
    exact ⟨n, _, rfl⟩
  · cases h

/-! ## What the check accepts -/

variable {fields : Shape}

theorem declared?_name {n : String} {k : Kind} (h : declared? fields (.name n) = .ok k) :
    fields.lookup n = some k := by
  unfold declared? at h
  split at h
  · rename_i hk
    cases h
    exact hk
  · cases h

theorem validate?_compare {n : String} {op : Operator} {o : Operand} {f : Filter}
    (h : (compare (.name n) op o).validate? fields = .ok f) :
    ∃ k o', fields.lookup n = some k ∧ (op.isText = true → k = .text) ∧
      coerceOperand? op o k = .ok o' ∧ f = compare (.name n) op o' := by
  rw [validate?] at h
  obtain ⟨k, hk, h⟩ := Outcome.bind_eq_ok.mp h
  unfold validateCompare? at h
  split at h
  · cases h
  · rename_i htext
    split at h
    · rename_i o' ho
      cases h
      refine ⟨k, o', declared?_name hk, ?_, ho, rfl⟩
      intro hop
      by_contra hne
      exact htext ⟨hop, hne⟩
    · cases h

theorem validateAll?_eq_mapM (fs : List Filter) :
    validateAll? fields fs = fs.mapM (validate? fields) := by
  induction fs with
  | nil => rfl
  | cons f fs ih =>
    rw [validateAll?, ih, List.mapM_cons]

/-- Each filter that comes out of the check comes from one of those that went in. -/
theorem exists_of_mem_validateAll? {fs gs : List Filter} (h : validateAll? fields fs = .ok gs)
    {g : Filter} (hg : g ∈ gs) : ∃ f ∈ fs, validate? fields f = .ok g := by
  rw [validateAll?_eq_mapM] at h
  exact Outcome.exists_of_mem_mapM h hg

/-- A value that is not null takes on no null. -/
theorem isNull_of_coerce? {v w : Value} {k : Kind} (h : v.coerce? k = .ok w)
    (hv : v.isNull = false) : w.isNull = false := by
  unfold Value.coerce? at h
  split at h
  · cases h
    exact hv
  · split at h
    · obtain ⟨d, _, hd⟩ := Outcome.bind_eq_ok.mp h
      cases hd
      rfl
    · cases h

/-- The operand of a comparison takes on the kind of the field. -/
theorem wellTyped_of_compare {n : String} {op : Operator} {v : Value} {f : Filter}
    (hnull : op ≠ .isNull) (hset : op ≠ .inSet) (htext : op.isText = false)
    (horder : op.isOrdering = true → v.isNull = false)
    (h : (compare (.name n) op (.one v)).validate? fields = .ok f) : f.WellTyped fields := by
  obtain ⟨k, o, hk, -, ho, rfl⟩ := validate?_compare h
  have hone : coerceOperand? op (.one v) k = (do return .one (← v.coerce? k)) := by
    cases op <;> first | rfl | contradiction
  rw [hone] at ho
  obtain ⟨w, hw, ho⟩ := Outcome.bind_eq_ok.mp ho
  cases ho
  exact .compare hk hnull hset htext (Value.hasKind_of_coerce? hw)
    fun hop ↦ isNull_of_coerce? hw (horder hop)

theorem wellTyped_of_search {n : String} {op : Operator} {s : String} {f : Filter}
    (htext : op.isText = true)
    (h : (compare (.name n) op (.one ⟨.text, .text s⟩)).validate? fields = .ok f) :
    f.WellTyped fields := by
  obtain ⟨k, o, hk, hkind, ho, rfl⟩ := validate?_compare h
  cases hkind htext
  have hone : coerceOperand? op (.one ⟨.text, .text s⟩) .text = .ok (.one ⟨.text, .text s⟩) := by
    cases op <;> first | rfl | cases htext
  rw [hone] at ho
  cases ho
  exact .search hk htext

theorem wellTyped_of_comparing? {op : Operator} {field value : Datum} {f₀ f : Filter}
    (hnull : op ≠ .isNull) (hset : op ≠ .inSet) (h : comparing? op field value = .ok f₀)
    (hv : f₀.validate? fields = .ok f) : f.WellTyped fields := by
  unfold comparing? at h
  split at h
  · rename_i horder
    obtain ⟨n, v, rfl, hne⟩ := ordered?_eq_ok h
    exact wellTyped_of_compare hnull hset (by cases op <;> first | rfl | cases horder)
      (fun _ ↦ hne) hv
  · rename_i horder
    split at h
    · rename_i htext
      obtain ⟨n, s, rfl⟩ := textual?_eq_ok h
      exact wellTyped_of_search htext hv
    · rename_i htext
      obtain ⟨n, v, rfl⟩ := scalar?_eq_ok h
      exact wellTyped_of_compare hnull hset (by simpa using htext)
        (fun hop ↦ absurd hop horder) hv

theorem wellTyped_of_inSet {n : String} {vs : List Value} {f : Filter}
    (h : (compare (.name n) .inSet (.many vs)).validate? fields = .ok f) :
    f.WellTyped fields := by
  obtain ⟨k, o, hk, -, ho, rfl⟩ := validate?_compare h
  obtain ⟨ws, hws, ho⟩ := Outcome.bind_eq_ok.mp ho
  cases ho
  refine .inSet hk ?_
  intro w hw
  obtain ⟨v, -, hvw⟩ := Outcome.exists_of_mem_mapM hws hw
  exact Value.hasKind_of_coerce? hvw

/-- What is built and accepted is well-typed. -/
theorem Built.wellTyped {f₀ f : Filter} (h : f₀.Built) (hv : f₀.validate? fields = .ok f) :
    f.WellTyped fields := by
  induction h generalizing f with
  | comparing hnull hset h => exact wellTyped_of_comparing? hnull hset h hv
  | isNull h =>
    obtain ⟨r, hr, h⟩ := Outcome.bind_eq_ok.mp h
    obtain ⟨n, rfl⟩ := fieldName?_eq_ok hr
    cases h
    obtain ⟨k, o, hk, -, ho, rfl⟩ := validate?_compare hv
    cases ho
    exact .isNull hk
  | isNotNull h =>
    obtain ⟨n, v, rfl⟩ := scalar?_eq_ok h
    exact wellTyped_of_compare (by decide) (by decide) rfl (fun hop ↦ by cases hop) hv
  | inSet h =>
    obtain ⟨ds, _, h⟩ := Outcome.bind_eq_ok.mp h
    obtain ⟨vs, _, h⟩ := Outcome.bind_eq_ok.mp h
    split at h
    · cases h
    · obtain ⟨r, hr, h⟩ := Outcome.bind_eq_ok.mp h
      obtain ⟨n, rfl⟩ := fieldName?_eq_ok hr
      cases h
      exact wellTyped_of_inSet hv
  | between h =>
    obtain ⟨a, ha, h⟩ := Outcome.bind_eq_ok.mp h
    obtain ⟨b, hb, h⟩ := Outcome.bind_eq_ok.mp h
    cases h
    obtain ⟨n, v, rfl, hnv⟩ := ordered?_eq_ok ha
    obtain ⟨m, w, rfl, hmw⟩ := ordered?_eq_ok hb
    rw [validate?] at hv
    obtain ⟨gs, hgs, hv⟩ := Outcome.bind_eq_ok.mp hv
    cases hv
    refine .all ?_
    intro g hg
    obtain ⟨e, he, hge⟩ := exists_of_mem_validateAll? hgs hg
    simp only [List.mem_cons, List.not_mem_nil, or_false] at he
    rcases he with rfl | rfl
    · exact wellTyped_of_compare (by decide) (by decide) rfl (fun _ ↦ hnv) hge
    · exact wellTyped_of_compare (by decide) (by decide) rfl (fun _ ↦ hmw) hge
  | all _ ih =>
    rw [validate?] at hv
    obtain ⟨gs, hgs, hv⟩ := Outcome.bind_eq_ok.mp hv
    cases hv
    refine .all ?_
    intro g hg
    obtain ⟨e, he, hge⟩ := exists_of_mem_validateAll? hgs hg
    exact ih e he hge
  | any _ ih =>
    rw [validate?] at hv
    obtain ⟨gs, hgs, hv⟩ := Outcome.bind_eq_ok.mp hv
    cases hv
    refine .any ?_
    intro g hg
    obtain ⟨e, he, hge⟩ := exists_of_mem_validateAll? hgs hg
    exact ih e he hge
  | negation _ ih =>
    rw [validate?] at hv
    obtain ⟨g, hg, hv⟩ := Outcome.bind_eq_ok.mp hv
    cases hv
    exact .negation (ih hg)

end Filter

end RecordStore
