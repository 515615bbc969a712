import RecordStore.Filter.Evaluation
import RecordStore.Proofs.Filter.Typing

/-!
# Rewriting filters

Some operators stand for others, and filters may be rewritten by the laws of plain logic.  A filter
and what it is rewritten to give every record the same answer, or the same fault: comparisons that
fail do so on both sides, and conjunction and disjunction stop on both sides at the same place.

* `Filter.Equivalent` says that no record tells two filters apart.
* `Filter.Flattens` says that a list of filters comes of another one by giving the parts of filters
  that are nested in it in their place.
* `Filter.rewritings` are the laws.
-/

namespace RecordStore

open Outcome

/-! ## Comparisons that are negations of each other -/

namespace Value

variable (a b : Value)

/-- A value is before another one unless it is after it or equals it. -/
theorem map_not_atLeast? : (a.atLeast? b).map not = a.before? b := by
  unfold atLeast?
  cases a.before? b with
  | error f => rfl
  | ok before => cases before <;> rfl

/-- A value is after another one unless it is before it or equals it, and the two are compared in
the same way. -/
theorem map_not_atMost? : (a.atMost? b).map not = a.after? b := by
  unfold atMost? after?
  cases a.before? b with
  | error f => rfl
  | ok before =>
    cases before with
    | true => rfl
    | false => cases hsame : a.same? b <;> simp [hsame, differs?, Except.map]

end Value

namespace Filter

variable {n : String} {op : Operator} {o : Operand} {v : Value} {r : Record}
  {f : Filter} {fs gs : List Filter}

/-- No record tells the filters apart: they decide alike, or fail with the same fault. -/
def Equivalent (f g : Filter) : Prop := ∀ r : Record, f.matches? r = g.matches? r

/-! ## One node of a filter -/

theorem matches?_name : (compare (.name n) op o).matches? r =
    matchStored? (.name n) op o (r.valueOrNull n) := by
  rw [matches?, FieldRef.isHashable_name, Record.stored_name, if_pos rfl]

theorem matches?_negation : (negation f).matches? r = (f.matches? r).map not := by
  rw [matches?]
  cases f.matches? r <;> rfl

/-- Null equals null alone, so equality is equality of values. -/
theorem matchOne?_eq_same? (field : FieldRef) (a v : Value) :
    matchOne? field .eq a v = a.same? v := by
  unfold matchOne?
  cases hv : v.isNull with
  | true => simp [Value.same?, hv]
  | false =>
    cases ha : a.isNull with
    | true => simp [Value.same?, hv, ha]
    | false => rfl

/-- What is different from a value other than null is no null and does not equal it. -/
theorem matchOne?_notEq (field : FieldRef) (a : Value) (hv : v.isNull = false) :
    matchOne? field .notEq a v = if a.isNull then .ok false else (a.same? v).map not := by
  simp only [matchOne?, hv, Bool.false_eq_true, if_false]
  split
  · rfl
  · unfold Value.differs?
    cases a.same? v <;> rfl

/-! ## Conjunctions and disjunctions -/

/-- A conjunction goes on with its second part where the first one passes. -/
theorem matchesAll?_append : matchesAll? r (fs ++ gs) =
    matchesAll? r fs >>= fun passes ↦ if passes then matchesAll? r gs else .ok false := by
  induction fs with
  | nil => rfl
  | cons f fs ih =>
    rw [List.cons_append, matchesAll?, matchesAll?, ih]
    cases f.matches? r with
    | error g => rfl
    | ok passes => cases passes <;> rfl

/-- A disjunction goes on with its second part where the first one does not pass. -/
theorem matchesAny?_append : matchesAny? r (fs ++ gs) =
    matchesAny? r fs >>= fun passes ↦ if passes then .ok true else matchesAny? r gs := by
  induction fs with
  | nil => rfl
  | cons f fs ih =>
    rw [List.cons_append, matchesAny?, matchesAny?, ih]
    cases f.matches? r with
    | error g => rfl
    | ok passes => cases passes <;> rfl

/-- A disjunction of negations stops at the first filter that does not pass, as the conjunction of
the filters does. -/
theorem matchesAny?_negations : matchesAny? r (fs.map negation) = (matchesAll? r fs).map not := by
  induction fs with
  | nil => rfl
  | cons f fs ih =>
    rw [List.map_cons, matchesAny?, matches?_negation, ih, matchesAll?]
    cases f.matches? r with
    | error g => rfl
    | ok passes => cases passes <;> rfl

theorem matchesAll?_negations : matchesAll? r (fs.map negation) = (matchesAny? r fs).map not := by
  induction fs with
  | nil => rfl
  | cons f fs ih =>
    rw [List.map_cons, matchesAll?, matches?_negation, ih, matchesAny?]
    cases f.matches? r with
    | error g => rfl
    | ok passes => cases passes <;> rfl

/-- The second list is the first one in which some of the filters that are nested by `join`, at any
depth, have given way to their parts. -/
inductive Flattens (join : List Filter → Filter) : List Filter → List Filter → Prop
  | nil : Flattens join [] []
  | keep (f : Filter) {fs gs : List Filter} (h : Flattens join fs gs) :
    Flattens join (f :: fs) (f :: gs)
  | splice {ds es fs gs : List Filter} (hinner : Flattens join ds es) (h : Flattens join fs gs) :
    Flattens join (join ds :: fs) (es ++ gs)

namespace Flattens

variable {join : List Filter → Filter}

theorem refl (fs : List Filter) : Flattens join fs fs := by
  induction fs with
  | nil => exact .nil
  | cons f fs ih => exact .keep f ih

/-- Lists of filters, each of them nested, may be joined to one list. -/
theorem flatten (fss : List (List Filter)) : Flattens join (fss.map join) fss.flatten := by
  induction fss with
  | nil => exact .nil
  | cons fs fss ih => exact .splice (.refl fs) ih

theorem equivalent_all (h : Flattens all fs gs) : Equivalent (all fs) (all gs) := by
  intro r
  rw [matches?, matches?]
  induction h with
  | nil => rfl
  | keep f _ ih => rw [matchesAll?, matchesAll?, ih]
  | splice _ _ ihinner ih =>
    rw [matchesAll?_append, matchesAll?, matches?, ihinner, ih]
    rfl

theorem equivalent_any (h : Flattens any fs gs) : Equivalent (any fs) (any gs) := by
  intro r
  rw [matches?, matches?]
  induction h with
  | nil => rfl
  | keep f _ ih => rw [matchesAny?, matchesAny?, ih]
  | splice _ _ ihinner ih =>
    rw [matchesAny?_append, matchesAny?, matches?, ihinner, ih]
    rfl

end Flattens

/-! ## What the constructors build -/

theorem isNull?_eq_ok {field : Datum} (h : isNull? field = .ok f) :
    ∃ n, fieldName? field = .ok (.name n) ∧ f = compare (.name n) .isNull .none := by
  obtain ⟨name, hname, h⟩ := bind_eq_ok.mp h
  obtain ⟨n, rfl⟩ := fieldName?_eq_ok hname
  cases h
  exact ⟨n, hname, rfl⟩

theorem isNull?_of_name {field : Datum} (hname : fieldName? field = .ok (.name n)) :
    isNull? field = .ok (compare (.name n) .isNull .none) := by
  rw [isNull?, hname]
  rfl

theorem scalar?_of_name {field value : Datum} (hname : fieldName? field = .ok (.name n))
    (hv : Value.of? value = .ok v) :
    scalar? op field value = .ok (compare (.name n) op (.one v)) := by
  rw [scalar?, hname, ok_bind, hv]
  rfl

theorem exists_name_of_scalar? {field value : Datum} (h : scalar? op field value = .ok f)
    (hv : Value.of? value = .ok v) :
    ∃ n, fieldName? field = .ok (.name n) ∧ f = compare (.name n) op (.one v) := by
  obtain ⟨name, hname, h⟩ := bind_eq_ok.mp h
  obtain ⟨n, rfl⟩ := fieldName?_eq_ok hname
  rw [hv] at h
  cases h
  exact ⟨n, hname, rfl⟩

/-- What one ordering is accepted with is accepted with every other one. -/
theorem exists_name_of_ordered? {field value : Datum} (h : ordered? op field value = .ok f) :
    ∃ n v, fieldName? field = .ok (.name n) ∧ f = compare (.name n) op (.one v) ∧
      ∀ op', ordered? op' field value = .ok (compare (.name n) op' (.one v)) := by
  obtain ⟨v, hv, h⟩ := bind_eq_ok.mp h
  split at h
  · cases h
  · rename_i hnull
    obtain ⟨name, hname, h⟩ := bind_eq_ok.mp h
    obtain ⟨n, rfl⟩ := fieldName?_eq_ok hname
    cases h
    refine ⟨n, v, hname, rfl, ?_⟩
    intro op'
    rw [ordered?, hv, ok_bind, if_neg hnull, hname]
    rfl

/-- A set of values is accepted only if equality with each of them is. -/
theorem inSet?_eq_ok {field values : Datum} (h : inSet? field values = .ok f) :
    ∃ ds vs n, setElements? field values = .ok ds ∧ f = compare (.name n) .inSet (.many vs) ∧
      ds.mapM (comparing? .eq field) =
        .ok (vs.map fun v ↦ compare (.name n) .eq (.one v)) := by
  obtain ⟨ds, hds, h⟩ := bind_eq_ok.mp h
  obtain ⟨vs, hvs, h⟩ := bind_eq_ok.mp h
  split at h
  · cases h
  · obtain ⟨name, hname, h⟩ := bind_eq_ok.mp h
    obtain ⟨n, rfl⟩ := fieldName?_eq_ok hname
    cases h
    refine ⟨ds, vs, n, hds, rfl, mapM_eq_ok.mpr ?_⟩
    rw [List.forall₂_map_right_iff]
    exact (mapM_eq_ok.mp hvs).imp fun d v hv ↦ scalar?_of_name hname hv

/-! ## The laws -/

/-- Both filters have to pass, and the second one is asked only where the first one does. -/
theorem matches?_pair (f g : Filter) : (all [f, g]).matches? r =
    f.matches? r >>= fun passes ↦ if passes then g.matches? r else .ok false := by
  have hlast : matchesAll? r [g] = g.matches? r := by
    rw [matchesAll?, matchesAll?]
    cases g.matches? r with
    | error e => rfl
    | ok passes => cases passes <;> rfl
  rw [matches?, matchesAll?, hlast]
  rfl

theorem matches?_eq (v : Value) :
    (compare (.name n) .eq (.one v)).matches? r = (r.valueOrNull n).same? v :=
  matches?_name.trans (matchOne?_eq_same? (.name n) _ v)

theorem matches?_isNull :
    (compare (.name n) .isNull .none).matches? r = .ok (r.valueOrNull n).isNull :=
  matches?_name

/-- Membership in a set asks for equality with one member after another. -/
theorem equivalent_inSet (n : String) (vs : List Value) :
    Equivalent (compare (.name n) .inSet (.many vs))
      (any (vs.map fun v ↦ compare (.name n) .eq (.one v))) := by
  intro r
  rw [matches?_name, matches?]
  change matchSet? (r.valueOrNull n) vs = _
  induction vs with
  | nil => rfl
  | cons v vs ih =>
    rw [List.map_cons, matchesAny?, ← ih, matches?_eq]
    rfl

theorem equivalent_notEq (n : String) (hv : v.isNull = false) :
    Equivalent (compare (.name n) .notEq (.one v))
      (all [negation (compare (.name n) .eq (.one v)),
        negation (compare (.name n) .isNull .none)]) := by
  intro r
  rw [matches?_pair, matches?_negation, matches?_negation, matches?_eq, matches?_isNull,
    matches?_name]
  refine (matchOne?_notEq (.name n) _ hv).trans ?_
  cases ha : (r.valueOrNull n).isNull with
  | true => simp [Value.same?, ha, hv, Except.map]
  | false =>
    cases (r.valueOrNull n).same? v with
    | error g => rfl
    | ok same => cases same <;> rfl

/-- The negation of an ordering is the opposite ordering, except on null. -/
theorem equivalent_ordering {op op' : Operator}
    (hop : (op = .lt ∧ op' = .gte) ∨ (op = .gt ∧ op' = .lte)) (n : String) (v : Value) :
    Equivalent (compare (.name n) op (.one v))
      (all [negation (compare (.name n) .isNull .none),
        negation (compare (.name n) op' (.one v))]) := by
  intro r
  rw [matches?_pair, matches?_negation, matches?_negation, matches?_isNull, matches?_name,
    matches?_name]
  change _ = if !(r.valueOrNull n).isNull then _ else _
  rcases hop with ⟨rfl, rfl⟩ | ⟨rfl, rfl⟩
  · change (if (r.valueOrNull n).isNull then _ else (r.valueOrNull n).before? v) = if _ then
      (if (r.valueOrNull n).isNull then _ else (r.valueOrNull n).atLeast? v).map not else _
    rw [← Value.map_not_atLeast?]
    cases (r.valueOrNull n).isNull <;> rfl
  · change (if (r.valueOrNull n).isNull then _ else (r.valueOrNull n).after? v) = if _ then
      (if (r.valueOrNull n).isNull then _ else (r.valueOrNull n).atMost? v).map not else _
    rw [← Value.map_not_atMost?]
    cases (r.valueOrNull n).isNull <;> rfl

theorem equivalent_isNull (n : String) :
    Equivalent (compare (.name n) .isNull .none) (compare (.name n) .eq (.one .null)) := by
  intro r
  rw [matches?_isNull, matches?_eq]
  simp [Value.same?]

theorem equivalent_negation_all (fs : List Filter) :
    Equivalent (negation (all fs)) (any (fs.map negation)) := by
  intro r
  rw [matches?_negation, matches?, matches?, matchesAny?_negations]

theorem equivalent_negation_any (fs : List Filter) :
    Equivalent (negation (any fs)) (all (fs.map negation)) := by
  intro r
  rw [matches?_negation, matches?, matches?, matchesAll?_negations]

/-- The laws by which filters are rewritten.  Wherever a filter on the left can be built, the one on
the right can be built too, and no record tells them apart. -/
theorem rewritings :
    (∀ field values f, inSet? field values = .ok f →
      ∃ ds gs, setElements? field values = .ok ds ∧ ds.mapM (comparing? .eq field) = .ok gs ∧
        Equivalent f (any gs)) ∧
    (∀ field value v f, Value.of? value = .ok v → v.isNull = false →
      comparing? .notEq field value = .ok f →
      ∃ g h, comparing? .eq field value = .ok g ∧ isNull? field = .ok h ∧
        Equivalent f (all [negation g, negation h])) ∧
    (∀ op op', (op = .lt ∧ op' = .gte) ∨ (op = .gt ∧ op' = .lte) →
      ∀ field value f, comparing? op field value = .ok f →
      ∃ g h, comparing? op' field value = .ok g ∧ isNull? field = .ok h ∧
        Equivalent f (all [negation h, negation g])) ∧
    (∀ field f, isNull? field = .ok f →
      ∃ g, comparing? .eq field .null = .ok g ∧ Equivalent f g) ∧
    (∀ fs, Equivalent (negation (all fs)) (any (fs.map negation)) ∧
      Equivalent (negation (any fs)) (all (fs.map negation))) ∧
    (∀ fss : List (List Filter), Equivalent (all (fss.map all)) (all fss.flatten) ∧
      Equivalent (any (fss.map any)) (any fss.flatten)) ∧
    ∀ fs gs, (Flattens all fs gs → Equivalent (all fs) (all gs)) ∧
      (Flattens any fs gs → Equivalent (any fs) (any gs)) := by
  refine ⟨?_, ?_, ?_, ?_, ?_, ?_, ?_⟩
  · intro field values f hf
    obtain ⟨ds, vs, n, hds, rfl, hgs⟩ := inSet?_eq_ok hf
    exact ⟨ds, _, hds, hgs, equivalent_inSet n vs⟩
  · intro field value v f hv hnull hf
    obtain ⟨n, hname, rfl⟩ := exists_name_of_scalar? hf hv
    exact ⟨_, _, scalar?_of_name hname hv, isNull?_of_name hname, equivalent_notEq n hnull⟩
  · intro op op' hop field value f hf
    have hordering : comparing? op = ordered? op ∧ comparing? op' = ordered? op' := by
      rcases hop with ⟨rfl, rfl⟩ | ⟨rfl, rfl⟩ <;> exact ⟨rfl, rfl⟩
    rw [hordering.1] at hf
    rw [hordering.2]
    obtain ⟨n, v, hname, rfl, hordered⟩ := exists_name_of_ordered? hf
    exact ⟨_, _, hordered op', isNull?_of_name hname, equivalent_ordering hop n v⟩
  · intro field f hf
    obtain ⟨n, hname, rfl⟩ := isNull?_eq_ok hf
    exact ⟨_, scalar?_of_name hname rfl, equivalent_isNull n⟩
  · exact fun fs ↦ ⟨equivalent_negation_all fs, equivalent_negation_any fs⟩
  · intro fss
    exact ⟨(Flattens.flatten fss).equivalent_all, (Flattens.flatten fss).equivalent_any⟩
  · intro fs gs
    exact ⟨Flattens.equivalent_all, Flattens.equivalent_any⟩

/-- Tests of an age, and a conjunction that has another one inside. -/
theorem rewritings_ages :
    (∃ ds gs, setElements? "age" (.list [.null, .integer 3]) = .ok ds ∧
      ds.mapM (comparing? .eq "age") = .ok gs ∧
      Equivalent (compare (.name "age") .inSet (.many [.null, ⟨.integer, .integer 3⟩]))
        (any gs)) ∧
    (∃ g h, comparing? .eq "age" (.integer 3) = .ok g ∧ isNull? "age" = .ok h ∧
      Equivalent (compare (.name "age") .notEq (.one ⟨.integer, .integer 3⟩))
        (all [negation g, negation h])) ∧
    (∃ g h, comparing? .gte "age" (.integer 3) = .ok g ∧ isNull? "age" = .ok h ∧
      Equivalent (compare (.name "age") .lt (.one ⟨.integer, .integer 3⟩))
        (all [negation h, negation g])) ∧
    (∃ g, comparing? .eq "age" .null = .ok g ∧
      Equivalent (compare (.name "age") .isNull .none) g) ∧
    ∀ f g h : Filter, Equivalent (all [f, all [g], h]) (all [f, g, h]) := by
  obtain ⟨hset, hdifferent, hordering, hnull, -, -, hflat⟩ := rewritings
  refine ⟨?_, ?_, ?_, ?_, ?_⟩
  · exact hset "age" (.list [.null, .integer 3]) _ rfl
  · exact hdifferent "age" (.integer 3) ⟨.integer, .integer 3⟩ _ rfl rfl rfl
  · exact hordering .lt .gte (.inl ⟨rfl, rfl⟩) "age" (.integer 3) _ rfl
  · exact hnull "age" _ rfl
  · intro f g h
    exact (hflat _ _).1 (.keep f (.splice (.refl [g]) (.refl [h])))

end Filter

end RecordStore
