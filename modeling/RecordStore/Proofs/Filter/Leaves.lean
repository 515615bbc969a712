import RecordStore.Proofs.Filter.Preservation
import RecordStore.Proofs.Query.Slicing

/-!
# What the check of a filter accepts

Filters may be put together without the constructors.  What the check against a shape then accepts
has declared fields and operands of their kinds in all its comparisons, as the constructors and the
check would give them together, with one exception: null is of every kind, so it is accepted where
values are ordered and where texts are searched.  Apart from a search for null, evaluating an
accepted filter and writing it in SQL fail on values that cannot be compared and on names that are
no identifiers, and on nothing else.

* `Filter.leaves` are the comparisons of a filter, `Leaf.Sound` is what they should be and
  `Leaf.StrayNull` the exception.
* `Operand.Accepted` are the operands that come out of the check.
* `Filter.forall₂_leaves` shows that the check goes through the comparisons one by one.
* `Filter.Descends` are the failures that come from a comparison.
* `Filter.sound_iff_of_validate?` is the statement above.
-/

namespace RecordStore

open Outcome

/-- A comparison in a filter. -/
structure Leaf where
  field : FieldRef
  operator : Operator
  operand : Operand

/-- The comparison as a filter. -/
def Leaf.filter (l : Leaf) : Filter := .compare l.field l.operator l.operand

namespace Filter

mutual

/-- The comparisons of a filter, from left to right. -/
def leaves : Filter → List Leaf
  | compare f op o => [⟨f, op, o⟩]
  | all fs => leavesOfAll fs
  | any fs => leavesOfAll fs
  | negation f => leaves f
  | junk _ => []

/-- The comparisons of several filters. -/
def leavesOfAll : List Filter → List Leaf
  | [] => []
  | f :: fs => leaves f ++ leavesOfAll fs

end

theorem mem_leavesOfAll {fs : List Filter} {f : Filter} (hf : f ∈ fs) {l : Leaf}
    (hl : l ∈ f.leaves) : l ∈ leavesOfAll fs := by
  induction fs with
  | nil => cases hf
  | cons g fs ih =>
    rw [leavesOfAll, List.mem_append]
    rcases List.mem_cons.mp hf with rfl | hf
    · exact .inl hl
    · exact .inr (ih hf)

/-- The filters in which nothing else stands in the place of a filter. -/
inductive IsExpression : Filter → Prop
  | compare (field : FieldRef) (op : Operator) (o : Operand) : IsExpression (compare field op o)
  | all {fs : List Filter} (h : ∀ f ∈ fs, IsExpression f) : IsExpression (all fs)
  | any {fs : List Filter} (h : ∀ f ∈ fs, IsExpression f) : IsExpression (any fs)
  | negation {f : Filter} (h : IsExpression f) : IsExpression (negation f)

end Filter

/-! ## What comparisons should be -/

/-- The operand is one that the constructor of the operator makes and a field of the kind takes:
null or a value of the kind for equality and in sets, a value of the kind for order, a text for a
search in a text. -/
inductive Operand.Suits (k : Kind) : Operator → Operand → Prop
  | equality {op : Operator} {v : Value} (hop : op = .eq ∨ op = .notEq) (hv : v.HasKind k) :
    Suits k op (.one v)
  | ordering {op : Operator} {v : Value} (hop : op.isOrdering = true) (hnull : v.isNull = false)
    (hv : v.kind = k) : Suits k op (.one v)
  | search {op : Operator} {v : Value} (hop : op.isText = true) (hk : k = .text)
    (hv : v.kind = .text) : Suits k op (.one v)
  | inSet {vs : List Value} (hvs : ∀ v ∈ vs, v.HasKind k) : Suits k .inSet (.many vs)
  | isNull (o : Operand) : Suits k .isNull o

/-- The operand is one that the check gives back for a field of the kind: null suits every
operator. -/
inductive Operand.Accepted (k : Kind) : Operator → Operand → Prop
  | one {op : Operator} {v : Value} (hnull : op ≠ .isNull) (hset : op ≠ .inSet)
    (htext : op.isText = true → k = .text) (hv : v.HasKind k) : Accepted k op (.one v)
  | inSet {vs : List Value} (hvs : ∀ v ∈ vs, v.HasKind k) : Accepted k .inSet (.many vs)
  | isNull (o : Operand) : Accepted k .isNull o

namespace Leaf

/-- The field is declared, and the operand suits the operator and the kind of the field. -/
def Sound (fields : Shape) (l : Leaf) : Prop :=
  ∃ n k, l.field = .name n ∧ fields.lookup n = some k ∧ l.operand.Suits k l.operator

/-- Something is ordered by null or searched for null. -/
def StrayNull (l : Leaf) : Prop :=
  (l.operator.isOrdering = true ∨ l.operator.isText = true) ∧
    ∃ v ∈ l.operand.values, v.isNull = true

/-- A text is searched for null. -/
def SearchesNull (l : Leaf) : Prop :=
  l.operator.isText = true ∧ ∃ v ∈ l.operand.values, v.isNull = true

end Leaf

namespace Operand

variable {k : Kind} {op : Operator} {o o' : Operand} {v : Value}

/-- An operand takes on a kind as a whole, member by member, or not at all. -/
theorem coerceOperand?_cases (h : Filter.coerceOperand? op o k = .ok o') :
    (op = .isNull ∧ o' = o) ∨
      (op = .inSet ∧ ∃ vs vs', o = .many vs ∧ o' = .many vs' ∧ vs.mapM (·.coerce? k) = .ok vs') ∨
      (op ≠ .isNull ∧ op ≠ .inSet ∧ ∃ v v', o = .one v ∧ o' = .one v' ∧ v.coerce? k = .ok v') := by
  unfold Filter.coerceOperand? at h
  split at h
  · cases h
    exact .inl ⟨rfl, rfl⟩
  · split at h
    · obtain ⟨vs', hvs', h⟩ := bind_eq_ok.mp h
      cases h
      exact .inr (.inl ⟨rfl, _, _, rfl, rfl, hvs'⟩)
    · cases h
  · rename_i hnull hset
    split at h
    · obtain ⟨v', hv', h⟩ := bind_eq_ok.mp h
      cases h
      exact .inr (.inr ⟨hnull, hset, _, _, rfl, rfl, hv'⟩)
    · cases h

/-- What the check gives back suits its operator, unless something is ordered by null or searched
for it. -/
theorem Accepted.suits (h : Accepted k op o)
    (hnull : op.isOrdering = true ∨ op.isText = true → ∀ v ∈ o.values, v.isNull = false) :
    Suits k op o := by
  cases h with
  | isNull o => exact .isNull o
  | inSet hvs => exact .inSet hvs
  | @one op v hne hset htext hv =>
    have hnv (hop : op.isOrdering = true ∨ op.isText = true) : v.isNull = false :=
      hnull hop v List.mem_cons_self
    have hkind (hop : op.isOrdering = true ∨ op.isText = true) : v.kind = k :=
      hv.resolve_left (by simp [hnv hop])
    cases horder : op.isOrdering with
    | true => exact .ordering horder (hnv (.inl horder)) (hkind (.inl horder))
    | false =>
      cases hsearch : op.isText with
      | true =>
        cases htext hsearch
        exact .search hsearch rfl (hkind (.inr hsearch))
      | false =>
        refine .equality ?_ hv
        cases op <;> simp_all [Operator.isOrdering, Operator.isText]

end Operand

namespace Leaf

variable {fields : Shape} {l l' : Leaf}

/-- What is accepted of a comparison. -/
def Checked (fields : Shape) (l l' : Leaf) : Prop := l.filter.validate? fields = .ok l'.filter

theorem Sound.not_strayNull (h : l.Sound fields) : ¬ l.StrayNull := by
  obtain ⟨field, op, o⟩ := l
  obtain ⟨n, k, -, -, h⟩ := h
  rintro ⟨hop, v, hv, hnull⟩
  change op.isOrdering = true ∨ op.isText = true at hop
  change v ∈ o.values at hv
  cases h with
  | equality heq => rcases heq with rfl | rfl <;> simp [Operator.isOrdering, Operator.isText] at hop
  | ordering _ hne =>
    obtain rfl := List.mem_singleton.mp hv
    simp [hne] at hnull
  | search _ _ hkind =>
    obtain rfl := List.mem_singleton.mp hv
    simp [Value.isNull, hkind] at hnull
  | inSet => simp [Operator.isOrdering, Operator.isText] at hop
  | isNull => simp [Operator.isOrdering, Operator.isText] at hop

end Leaf

namespace Filter

variable {fields : Shape} {field : FieldRef} {op : Operator} {o : Operand} {f f' : Filter}

theorem exists_name_of_declared? {k : Kind} (h : declared? fields field = .ok k) :
    ∃ n, field = .name n := by
  cases field with
  | name n => exact ⟨n, rfl⟩
  | stray d => cases h

/-- The check of a comparison changes its operand at most. -/
theorem validate?_leaf (h : (compare field op o).validate? fields = .ok f') :
    ∃ n k o', field = .name n ∧ fields.lookup n = some k ∧ (op.isText = true → k = .text) ∧
      coerceOperand? op o k = .ok o' ∧ f' = compare field op o' := by
  have hdeclared := h
  rw [validate?] at hdeclared
  obtain ⟨_, hk, -⟩ := bind_eq_ok.mp hdeclared
  obtain ⟨n, rfl⟩ := exists_name_of_declared? hk
  obtain ⟨k, o', hk, htext, ho', rfl⟩ := validate?_compare h
  exact ⟨n, k, o', rfl, hk, htext, ho', rfl⟩

end Filter

namespace Leaf

variable {fields : Shape} {l l' : Leaf}

/-- The check compares the operand with the kind of the field, and it changes nothing else. -/
theorem Checked.operand (h : Checked fields l l') :
    l'.field = l.field ∧ l'.operator = l.operator ∧
      ∃ n k, l.field = .name n ∧ fields.lookup n = some k ∧
        (l.operator.isText = true → k = .text) ∧
        Filter.coerceOperand? l.operator l.operand k = .ok l'.operand := by
  obtain ⟨field, op, o⟩ := l
  obtain ⟨field', op', o'⟩ := l'
  obtain ⟨n, k, o'', hn, hk, htext, ho', heq⟩ := Filter.validate?_leaf h
  injection heq with hfield hop ho
  subst hfield hop ho
  exact ⟨rfl, rfl, n, k, hn, hk, htext, ho'⟩

/-- A comparison is accepted with null where it should not have it exactly if it was made so. -/
theorem Checked.strayNull_iff (h : Checked fields l l') : l'.StrayNull ↔ l.StrayNull := by
  obtain ⟨-, hop, n, k, -, -, -, ho⟩ := h.operand
  unfold StrayNull
  rw [hop]
  rcases Operand.coerceOperand?_cases ho with ⟨-, heq⟩ | ⟨hset, -⟩ | ⟨-, -, v, v', hv, hv', hcoerce⟩
  · rw [heq]
  · simp [hset, Operator.isOrdering, Operator.isText]
  · simp [hv, hv', Operand.values, Value.isNull_coerce? hcoerce]

/-- The field of an accepted comparison is declared, and its operand has taken on the kind. -/
theorem Checked.accepted (h : Checked fields l l') :
    ∃ n k, l'.field = .name n ∧ fields.lookup n = some k ∧ l'.operand.Accepted k l'.operator := by
  obtain ⟨hfield, hop, n, k, hn, hk, htext, ho⟩ := h.operand
  refine ⟨n, k, hfield.trans hn, hk, ?_⟩
  rw [hop]
  rcases Operand.coerceOperand?_cases ho with
    ⟨hnull, -⟩ | ⟨hset, vs, vs', -, hvs', hvs⟩ | ⟨hnull, hset, v, v', -, hv', hv⟩
  · rw [hnull]
    exact .isNull _
  · rw [hset, hvs']
    refine .inSet fun v' hv' ↦ ?_
    obtain ⟨v, -, hv⟩ := exists_of_mem_mapM hvs hv'
    exact Value.hasKind_of_coerce? hv
  · rw [hv']
    exact .one hnull hset htext (Value.hasKind_of_coerce? hv)

/-- An accepted comparison is as it should be, unless null stands where it should not. -/
theorem Checked.sound_or (h : Checked fields l l') : l'.Sound fields ∨ l'.StrayNull := by
  obtain ⟨n, k, hn, hk, ho⟩ := h.accepted
  by_cases hstray : l'.StrayNull
  · exact .inr hstray
  · refine .inl ⟨n, k, hn, hk, ho.suits fun hop v hv ↦ ?_⟩
    rw [← Bool.not_eq_true]
    intro hnull
    exact hstray ⟨hop, v, hv, hnull⟩

end Leaf

namespace Filter

variable {fields : Shape} {f f' : Filter}

mutual

/-- The check goes through the comparisons one by one, and it accepts nothing else in the place of a
filter. -/
theorem forall₂_leaves : (f f' : Filter) → f.validate? fields = .ok f' →
    f'.IsExpression ∧ List.Forall₂ (Leaf.Checked fields) f.leaves f'.leaves
  | compare field op o, f', h => by
    obtain ⟨-, -, o', -, -, -, -, rfl⟩ := validate?_leaf h
    exact ⟨.compare _ _ _, .cons h .nil⟩
  | all fs, f', h => by
    rw [validate?] at h
    obtain ⟨gs, hgs, h⟩ := bind_eq_ok.mp h
    cases h
    obtain ⟨hall, hleaves⟩ := forall₂_leavesOfAll fs gs hgs
    exact ⟨.all hall, hleaves⟩
  | any fs, f', h => by
    rw [validate?] at h
    obtain ⟨gs, hgs, h⟩ := bind_eq_ok.mp h
    cases h
    obtain ⟨hall, hleaves⟩ := forall₂_leavesOfAll fs gs hgs
    exact ⟨.any hall, hleaves⟩
  | negation f, f', h => by
    rw [validate?] at h
    obtain ⟨g, hg, h⟩ := bind_eq_ok.mp h
    cases h
    obtain ⟨hexpression, hleaves⟩ := forall₂_leaves f g hg
    exact ⟨.negation hexpression, hleaves⟩
  | junk d, f', h => by cases h

theorem forall₂_leavesOfAll : (fs gs : List Filter) → validateAll? fields fs = .ok gs →
    (∀ g ∈ gs, g.IsExpression) ∧
      List.Forall₂ (Leaf.Checked fields) (leavesOfAll fs) (leavesOfAll gs)
  | [], gs, h => by
    cases h
    exact ⟨nofun, .nil⟩
  | f :: fs, gs, h => by
    rw [validateAll?] at h
    obtain ⟨g, hg, h⟩ := bind_eq_ok.mp h
    obtain ⟨gs, hgs, h⟩ := bind_eq_ok.mp h
    cases h
    obtain ⟨hfirst, hleaves⟩ := forall₂_leaves f g hg
    obtain ⟨hrest, hleaves'⟩ := forall₂_leavesOfAll fs gs hgs
    refine ⟨?_, List.rel_append hleaves hleaves'⟩
    intro g' hg'
    rcases List.mem_cons.mp hg' with rfl | hg'
    · exact hfirst
    · exact hrest g' hg'

end

/-! ## Where failures come from -/

/-- A failure of a filter comes from a part of it. -/
structure Descends (Fails : Filter → Fault → Prop) : Prop where
  all : ∀ fs g, Fails (all fs) g → ∃ f ∈ fs, Fails f g
  any : ∀ fs g, Fails (any fs) g → ∃ f ∈ fs, Fails f g
  negation : ∀ f g, Fails (negation f) g → Fails f g

/-- Such a failure comes from a comparison. -/
theorem Descends.exists_leaf {Fails : Filter → Fault → Prop} (h : Descends Fails) {g : Fault}
    (hf : f.IsExpression) (hfails : Fails f g) : ∃ l ∈ f.leaves, Fails l.filter g := by
  induction hf with
  | compare field op o => exact ⟨_, List.mem_singleton_self _, hfails⟩
  | all _ ih =>
    obtain ⟨f, hf, hfails⟩ := h.all _ _ hfails
    obtain ⟨l, hl, hfails⟩ := ih f hf hfails
    exact ⟨l, mem_leavesOfAll hf hl, hfails⟩
  | any _ ih =>
    obtain ⟨f, hf, hfails⟩ := h.any _ _ hfails
    obtain ⟨l, hl, hfails⟩ := ih f hf hfails
    exact ⟨l, mem_leavesOfAll hf hl, hfails⟩
  | negation _ ih => exact ih (h.negation _ _ hfails)

/-- Evaluation fails where a part of the filter fails. -/
theorem descends_matches? (r : Record) : Descends fun f g ↦ f.matches? r = .error g where
  all fs g h := by
    change matchesAll? r fs = .error g at h
    induction fs with
    | nil => cases h
    | cons f fs ih =>
      rw [matchesAll?] at h
      rcases bind_eq_error.mp h with hf | ⟨b, -, h⟩
      · exact ⟨f, List.mem_cons_self, hf⟩
      · cases b with
        | false => cases h
        | true =>
          obtain ⟨f', hf', hfails⟩ := ih h
          exact ⟨f', List.mem_cons_of_mem _ hf', hfails⟩
  any fs g h := by
    change matchesAny? r fs = .error g at h
    induction fs with
    | nil => cases h
    | cons f fs ih =>
      rw [matchesAny?] at h
      rcases bind_eq_error.mp h with hf | ⟨b, -, h⟩
      · exact ⟨f, List.mem_cons_self, hf⟩
      · cases b with
        | true => cases h
        | false =>
          obtain ⟨f', hf', hfails⟩ := ih h
          exact ⟨f', List.mem_cons_of_mem _ hf', hfails⟩
  negation f g h := by
    change (do return !(← f.matches? r)) = .error g at h
    rcases bind_eq_error.mp h with hf | ⟨b, -, h⟩
    · exact hf
    · cases h

theorem exists_mem_of_ofFilters? {fs : List Filter} {g : Fault}
    (h : Sql.Predicate.ofFilters? fs = .error g) :
    ∃ f ∈ fs, Sql.Predicate.ofFilter? f = .error g := by
  induction fs with
  | nil => cases h
  | cons f fs ih =>
    rw [Sql.Predicate.ofFilters?] at h
    rcases bind_eq_error.mp h with hf | ⟨p, -, h⟩
    · exact ⟨f, List.mem_cons_self, hf⟩
    · rcases bind_eq_error.mp h with hfs | ⟨ps, -, h⟩
      · obtain ⟨f', hf', hfails⟩ := ih hfs
        exact ⟨f', List.mem_cons_of_mem _ hf', hfails⟩
      · cases h

/-- Writing a filter in SQL fails where writing a part of it does. -/
theorem descends_ofFilter? : Descends fun f g ↦ Sql.Predicate.ofFilter? f = .error g where
  all fs g h := by
    rw [Sql.Predicate.ofFilter?] at h
    rcases bind_eq_error.mp h with hfs | ⟨ps, -, h⟩
    · exact exists_mem_of_ofFilters? hfs
    · cases h
  any fs g h := by
    rw [Sql.Predicate.ofFilter?] at h
    rcases bind_eq_error.mp h with hfs | ⟨ps, -, h⟩
    · exact exists_mem_of_ofFilters? hfs
    · cases h
  negation f g h := by
    rw [Sql.Predicate.ofFilter?] at h
    rcases bind_eq_error.mp h with hf | ⟨p, -, h⟩
    · exact hf
    · cases h

end Filter

/-! ## Single comparisons -/

namespace Value

/-- The value is what is no number. -/
def IsNan (v : Value) : Prop := v.kind = .decimal ∧ ∃ d, v.data = .decimal d ∧ d.isNan = true

/-- The values cannot be compared: one is no number, one is wrongly tagged, or only one of two
timestamps has an offset. -/
def Clashes (a v : Value) : Prop :=
  a.IsNan ∨ v.IsNan ∨ ¬ a.IsTagged ∨ ¬ v.IsTagged ∨ ¬ a.AgreesInOffset v

variable {a v : Value}

theorem IsTagged.isProper (h : v.IsTagged) (hv : ¬ v.IsNan) : v.IsProper := by
  rcases h with h | ⟨hk, d, hd⟩
  · exact h
  · have hnan : d.isNan = false := by
      rw [← Bool.not_eq_true]
      intro hnan
      exact hv ⟨hk, d, hd, hnan⟩
    rw [IsProper, hk, hd, Kind.holds, hnan]
    rfl

theorem isProper_of_not_clashes (h : ¬ a.Clashes v) :
    a.IsProper ∧ v.IsProper ∧ a.AgreesInOffset v := by
  simp only [Clashes, not_or, not_not] at h
  obtain ⟨ha, hv, hta, htv, ho⟩ := h
  exact ⟨hta.isProper ha, htv.isProper hv, ho⟩

/-- Two values of one kind are comparable unless they clash. -/
theorem comparable_of_not_clashes {k : Kind} (ha : a.HasKind k) (hv : v.HasKind k)
    (h : ¬ a.Clashes v) : a.Comparable v := by
  obtain ⟨hpa, hpv, ho⟩ := isProper_of_not_clashes h
  refine comparable_of_kind hpa hpv ?_ ho
  rcases ha with hna | hka
  · exact .inl hna
  · rcases hv with hnv | hkv
    · exact .inr (.inl hnv)
    · exact .inr (.inr (hka.trans hkv.symm))

/-- A text that is tagged as one has characters. -/
theorem IsTagged.exists_text (h : v.IsTagged) (hk : v.kind = .text) :
    ∃ s, v = ⟨.text, .text s⟩ := by
  obtain ⟨kind, d⟩ := v
  cases hk
  rcases h with h | ⟨hdecimal, -⟩
  · cases d <;> first | exact ⟨_, rfl⟩ | cases h
  · cases hdecimal

end Value

/-- Every declared field has a value of its kind, or null. -/
def Record.HasKinds (fields : Shape) (r : Record) : Prop :=
  ∀ n k, fields.lookup n = some k → (r.valueOrNull n).HasKind k

theorem Record.hasKinds_of_conform? {fields : Shape} {r r' : Record}
    (h : r.conform? fields = .ok r') : r'.HasKinds fields := by
  intro n k hk
  exact Value.hasKind_of_coerce? (coerce?_valueOrNull h hk)

theorem Operator.isText_or_ofOperator? {op : Operator} (hnull : op ≠ .isNull)
    (hset : op ≠ .inSet) :
    op.isText = true ∨ ∃ c, Sql.Comparison.ofOperator? op = some c := by
  cases op <;> first | exact .inl rfl | exact .inr ⟨_, rfl⟩ | contradiction

/-- Equality and order of comparable values have an answer. -/
theorem Filter.exists_matchOne? {field : FieldRef} {op : Operator} {c : Sql.Comparison}
    {a v : Value} (hop : Sql.Comparison.ofOperator? op = some c) (ha : a.IsProper)
    (hv : v.IsProper) (h : a.Comparable v) : ∃ b, matchOne? field op a v = .ok b := by
  have hsame := Value.same?_eq ha hv h
  have hdiffers := Value.differs?_eq ha hv h
  unfold matchOne?
  split
  · split_ifs <;> first | exact ⟨_, rfl⟩ | exact ⟨_, hsame⟩
  · split_ifs <;> first | exact ⟨_, rfl⟩ | exact ⟨_, hdiffers⟩
  · split
    · exact ⟨_, rfl⟩
    · split
      · exact ⟨_, Value.after?_eq ha hv h⟩
      · exact ⟨_, Value.atLeast?_eq ha hv h⟩
      · exact ⟨_, Value.before?_eq ha hv h⟩
      · exact ⟨_, Value.atMost?_eq ha hv h⟩
      · cases op <;> contradiction

namespace Operand.Accepted

open RecordStore.Filter

variable {k : Kind} {op : Operator} {o : Operand} {field : FieldRef} {a : Value}

/-- An accepted comparison has an answer for every stored value of the kind that does not clash with
the operand, unless a text is searched for null. -/
theorem exists_matchStored? (h : o.Accepted k op) (ha : a.HasKind k)
    (hclash : ∀ v ∈ o.values, ¬ a.Clashes v)
    (hsearch : op.isText = true → ∀ v ∈ o.values, v.isNull = false) :
    ∃ b, matchStored? field op o a = .ok b := by
  cases h with
  | isNull o => exact ⟨_, rfl⟩
  | @inSet vs hvs =>
    change ∃ b, matchSet? a vs = .ok b
    cases vs with
    | nil => exact ⟨_, rfl⟩
    | cons v vs =>
      have hproper (w : Value) (hw : w ∈ v :: vs) := Value.isProper_of_not_clashes (hclash w hw)
      refine ⟨_, matchSet?_eq (hproper v List.mem_cons_self).1 (fun w hw ↦ (hproper w hw).2.1) ?_⟩
      intro w hw
      exact Value.comparable_of_not_clashes ha (hvs w hw) (hclash w hw)
  | @one _ v hnull hset htext hv =>
    have hone : matchStored? field op (.one v) a = matchOne? field op a v := by
      cases op <;> first | rfl | contradiction
    rw [hone]
    have hv' := hclash v List.mem_cons_self
    obtain ⟨hpa, hpv, -⟩ := Value.isProper_of_not_clashes hv'
    rcases Operator.isText_or_ofOperator? hnull hset with hop | ⟨c, hop⟩
    · cases htext hop
      have hkind : v.kind = .text := hv.resolve_left (by simp [hsearch hop v List.mem_cons_self])
      obtain ⟨s, rfl⟩ := Value.IsTagged.exists_text (.inl hpv) hkind
      exact exists_matchOne?_search hop ⟨hpa, ha⟩
    · exact exists_matchOne? hop hpa hpv (Value.comparable_of_not_clashes ha hv hv')

/-- An accepted comparison can be written in SQL if its field can be, unless a text is searched for
null or for a value that is wrongly tagged. -/
theorem exists_ofCompare? {column : String} (h : o.Accepted k op)
    (hcolumn : Sql.quote "filter field" field.datum = .ok column)
    (hsearch : op.isText = true → ∀ v ∈ o.values, v.isNull = false ∧ v.IsTagged) :
    ∃ p, Sql.Predicate.ofCompare? field op o = .ok p := by
  unfold Sql.Predicate.ofCompare?
  rw [hcolumn, ok_bind]
  cases h with
  | isNull o => exact ⟨_, rfl⟩
  | inSet hvs => exact ⟨_, rfl⟩
  | @one _ v hnull hset htext hv =>
    suffices hone : ∃ p, Sql.Predicate.ofOne? column op v = .ok p by
      cases op <;> first | exact hone | contradiction
    unfold Sql.Predicate.ofOne?
    split_ifs
    · exact ⟨_, rfl⟩
    · exact ⟨_, rfl⟩
    · rcases Operator.isText_or_ofOperator? hnull hset with hop | ⟨c, hop⟩
      · cases htext hop
        obtain ⟨hnv, htagged⟩ := hsearch hop v List.mem_cons_self
        obtain ⟨s, rfl⟩ := htagged.exists_text (hv.resolve_left (by simp [hnv]))
        have hnone : Sql.Comparison.ofOperator? op = Option.none := by
          cases op <;> first | rfl | cases hop
        rw [hnone]
        exact ⟨_, rfl⟩
      · rw [hop]
        exact ⟨_, rfl⟩

end Operand.Accepted

namespace Leaf

variable {fields : Shape} {l l' : Leaf} {r : Record} {g : Fault}

/-- An accepted comparison fails on a record only if a text is searched for null or the values
clash. -/
theorem Checked.cause_matches? (h : Checked fields l l') (hr : r.HasKinds fields)
    (hfails : l'.filter.matches? r = .error g) :
    l'.SearchesNull ∨ ∃ v ∈ l'.operand.values, (r.stored l'.field).Clashes v := by
  obtain ⟨n, k, hn, hk, ho⟩ := h.accepted
  by_contra hnone
  simp only [SearchesNull, not_or, not_and, not_exists, Bool.not_eq_true] at hnone
  obtain ⟨hsearch, hclash⟩ := hnone
  obtain ⟨field, op, o⟩ := l'
  obtain rfl : field = .name n := hn
  obtain ⟨b, hb⟩ : ∃ b, Filter.matchStored? (.name n) op o (r.valueOrNull n) = .ok b :=
    ho.exists_matchStored? (hr n k hk) hclash hsearch
  have hmatches : (filter ⟨.name n, op, o⟩).matches? r = .ok b := hb
  rw [hmatches] at hfails
  cases hfails

/-- An accepted comparison cannot be written in SQL only if its field cannot be, or a text is
searched for null or for a value that is wrongly tagged. -/
theorem Checked.cause_ofFilter? (h : Checked fields l l')
    (hfails : Sql.Predicate.ofFilter? l'.filter = .error g) :
    Sql.quote "filter field" l'.field.datum = .error g ∨ l'.SearchesNull ∨
      l'.operator.isText = true ∧ ∃ v ∈ l'.operand.values, ¬ v.IsTagged := by
  obtain ⟨n, k, -, -, ho⟩ := h.accepted
  obtain ⟨field, op, o⟩ := l'
  change Sql.Predicate.ofCompare? field op o = .error g at hfails
  cases hcolumn : Sql.quote "filter field" field.datum with
  | error g' =>
    rw [Sql.Predicate.ofCompare?, hcolumn, error_bind] at hfails
    cases hfails
    exact .inl rfl
  | ok column =>
    refine .inr ?_
    by_contra hnone
    simp only [SearchesNull, not_or, not_and, not_exists, Bool.not_eq_true, not_not] at hnone
    obtain ⟨hsearch, htagged⟩ := hnone
    obtain ⟨p, hp⟩ := ho.exists_ofCompare? hcolumn fun hop v hv ↦
      ⟨hsearch hop v hv, htagged hop v hv⟩
    rw [hp] at hfails
    cases hfails

end Leaf

namespace Filter

variable {fields : Shape} {f f' : Filter}

/-- All comparisons of an accepted filter are as they should be exactly if nothing was ordered by
null or searched for it.  Whatever goes wrong with an accepted filter then comes from a comparison:
on a record with values of the declared kinds, a text is searched for null or the values clash, and
in SQL, a field is no identifier or a text is searched for null or for a value that is wrongly
tagged. -/
theorem sound_iff_of_validate? (h : f.validate? fields = .ok f') :
    f'.IsExpression ∧
      ((∀ l ∈ f'.leaves, l.Sound fields) ↔ ∀ l ∈ f.leaves, ¬ l.StrayNull) ∧
      (∀ l ∈ f'.leaves, l.Sound fields ∨ l.StrayNull) ∧
      (∀ r g, r.HasKinds fields → f'.matches? r = .error g → ∃ l ∈ f'.leaves,
        l.SearchesNull ∨ ∃ v ∈ l.operand.values, (r.stored l.field).Clashes v) ∧
      ∀ g, Sql.Predicate.ofFilter? f' = .error g → ∃ l ∈ f'.leaves,
        Sql.quote "filter field" l.field.datum = .error g ∨ l.SearchesNull ∨
          l.operator.isText = true ∧ ∃ v ∈ l.operand.values, ¬ v.IsTagged := by
  obtain ⟨hexpression, hleaves⟩ := forall₂_leaves f f' h
  have hchecked (l' : Leaf) (hl' : l' ∈ f'.leaves) : ∃ l ∈ f.leaves, l.Checked fields l' :=
    exists_of_mem_forall₂ hleaves hl'
  have hchecked' (l : Leaf) (hl : l ∈ f.leaves) : ∃ l' ∈ f'.leaves, l.Checked fields l' :=
    exists_of_mem_forall₂ hleaves.flip hl
  refine ⟨hexpression, ⟨fun hsound l hl hstray ↦ ?_, fun hnone l' hl' ↦ ?_⟩, ?_, ?_, ?_⟩
  · obtain ⟨l', hl', hc⟩ := hchecked' l hl
    exact (hsound l' hl').not_strayNull (hc.strayNull_iff.mpr hstray)
  · obtain ⟨l, hl, hc⟩ := hchecked l' hl'
    exact hc.sound_or.resolve_right fun hstray ↦ hnone l hl (hc.strayNull_iff.mp hstray)
  · intro l' hl'
    obtain ⟨l, -, hc⟩ := hchecked l' hl'
    exact hc.sound_or
  · intro r g hr hfails
    obtain ⟨l', hl', hfails⟩ := (descends_matches? r).exists_leaf hexpression hfails
    obtain ⟨l, -, hc⟩ := hchecked l' hl'
    exact ⟨l', hl', hc.cause_matches? hr hfails⟩
  · intro g hfails
    obtain ⟨l', hl', hfails⟩ := descends_ofFilter?.exists_leaf hexpression hfails
    obtain ⟨l, -, hc⟩ := hchecked l' hl'
    exact ⟨l', hl', hc.cause_ofFilter? hfails⟩

/-- A tree put together by hand, in which a whole number is compared with decimals. -/
theorem sound_iff_of_validate?_raw :
    let fields : Shape := [("name", .text), ("price", .decimal)]
    let f := negation (any [compare (.name "name") .endsWith (.one ⟨.text, .text "b"⟩),
      compare (.name "price") .lt (.one ⟨.integer, .integer 3⟩)])
    let r : Record := ⟨[("name", ⟨.text, .text "Bob"⟩), ("price", ⟨.integer, .integer 2⟩)], []⟩
    ∃ f' r', f.validate? fields = .ok f' ∧ r.conform? fields = .ok r' ∧ r'.HasKinds fields ∧
      (∀ l ∈ f'.leaves, l.Sound fields) ∧
      ∀ g, f'.matches? r' = .error g → ∃ l ∈ f'.leaves,
        l.SearchesNull ∨ ∃ v ∈ l.operand.values, (r'.stored l.field).Clashes v := by
  intro fields f r
  have hvalid : ∃ f', f.validate? fields = .ok f' := ⟨_, rfl⟩
  have hconforms : ∃ r', r.conform? fields = .ok r' := ⟨_, rfl⟩
  obtain ⟨f', hf'⟩ := hvalid
  obtain ⟨r', hr'⟩ := hconforms
  have hkinds := Record.hasKinds_of_conform? hr'
  obtain ⟨-, hsound, -, hmatches, -⟩ := sound_iff_of_validate? hf'
  refine ⟨f', r', hf', hr', hkinds, hsound.mpr ?_, fun g ↦ hmatches r' g hkinds⟩
  intro l hl
  have hl : l = ⟨.name "name", .endsWith, .one ⟨.text, .text "b"⟩⟩ ∨
      l = ⟨.name "price", .lt, .one ⟨.integer, .integer 3⟩⟩ := by
    simpa [f, leaves, leavesOfAll] using hl
  rcases hl with rfl | rfl
  · rintro ⟨-, v, hv, hnull⟩
    obtain rfl := List.mem_singleton.mp hv
    cases hnull
  · rintro ⟨-, v, hv, hnull⟩
    obtain rfl := List.mem_singleton.mp hv
    cases hnull

/-- A search for null is accepted as it is, although no constructor makes one; it then fails on
every record with a text, and in SQL. -/
theorem validate?_searchesNull :
    let l : Leaf := ⟨.name "name", .contains, .one .null⟩
    let r : Record := ⟨[("name", ⟨.text, .text "Bob"⟩)], []⟩
    l.filter.validate? [("name", .text)] = .ok l.filter ∧ ¬ l.Sound [("name", .text)] ∧
      r.conform? [("name", .text)] = .ok r ∧ l.filter.matches? r = .error .wrongType ∧
      Sql.Predicate.ofFilter? l.filter = .error .missingOperation := by
  intro l r
  refine ⟨rfl, fun hsound ↦ ?_, rfl, rfl, ?_⟩
  · exact hsound.not_strayNull ⟨.inr rfl, .null, List.mem_singleton_self _, rfl⟩
  · change Sql.Predicate.ofCompare? (.name "name") .contains (.one .null) = _
    rw [Sql.Predicate.ofCompare?, FieldRef.datum, Sql.quote_plain _ (by decide)]
    rfl

end Filter

end RecordStore
