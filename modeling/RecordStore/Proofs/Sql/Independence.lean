import RecordStore.Proofs.Filter.Agreement
import RecordStore.Proofs.Sql.Calls
import RecordStore.Proofs.Sql.Statement

/-!
# Text without data

Data reach a statement through its parameters only.  Two filters with one skeleton have predicates
with one text, and two statements that are asked for alike have one text, whatever data they are
about.

* `Filter.skeleton` is what is left of a filter without its data.
* `Builder.blank` is what is left of a builder, and `Builder.blank_perform?` says that two calls
  which differ in data alone leave one and the same.
* `Request.Alike` tells when two statements are asked for alike, and `text_eq_of_alike` is the
  theorem above.
-/

namespace RecordStore

/-! ## Skeletons -/

/-- What is left of an operand without its data: the kind of a single value, and of a set whether it
has null and whether it has anything else. -/
inductive Operand.Skeleton where
  | none
  | one (kind : Kind)
  | many (withNull withOther : Bool)
  deriving DecidableEq

/-- The skeleton of an operand. -/
def Operand.skeleton : Operand → Operand.Skeleton
  | none => .none
  | one v => .one v.kind
  | many vs => .many (vs.any Value.isNull) (vs.any (!·.isNull))

namespace Operand

variable {o o' : Operand}

/-- A value has the skeleton of values of its kind only. -/
theorem eq_one_of_skeleton {v : Value} (h : (one v).skeleton = o'.skeleton) :
    ∃ w, o' = one w ∧ v.kind = w.kind := by
  cases o' with
  | none => cases h
  | one w => exact ⟨w, rfl, Skeleton.one.inj h⟩
  | many ws => cases h

theorem any_members_of_skeleton (h : o.skeleton = o'.skeleton) :
    o.members.any Value.isNull = o'.members.any Value.isNull ∧
      o.members.any (!·.isNull) = o'.members.any (!·.isNull) := by
  cases o <;> cases o' <;> first | exact ⟨rfl, rfl⟩ | exact Skeleton.many.inj h | cases h

end Operand

namespace Filter

/-- What is left of a filter without its data. -/
inductive Skeleton where
  | compare (field : FieldRef) (operator : Operator) (operand : Operand.Skeleton)
  | all (filters : List Skeleton)
  | any (filters : List Skeleton)
  | negation (filter : Skeleton)
  | junk (d : Datum)

mutual

/-- The skeleton of a filter. -/
def skeleton : Filter → Skeleton
  | compare f op o => .compare f op o.skeleton
  | all fs => .all (skeletons fs)
  | any fs => .any (skeletons fs)
  | negation f => .negation (skeleton f)
  | junk d => .junk d

/-- The skeletons of several filters. -/
def skeletons : List Filter → List Skeleton
  | [] => []
  | f :: fs => skeleton f :: skeletons fs

end

end Filter

/-- The sources are alike in what a statement says of them: the table, the SQL of the read
statement, the fields and the key. -/
structure Source.Alike (s t : Source) : Prop where
  table : s.table = t.table
  sql : s.sql? = t.sql?
  fields : s.fields = t.fields
  key : s.key = t.key

/-- The queries differ in the data of the filter and in the numbers of the limit and of the offset,
and both have an offset other than zero or neither has. -/
structure Query.Alike (q r : Query) : Prop where
  condition : q.condition.map Filter.skeleton = r.condition.map Filter.skeleton
  ordering : q.ordering = r.ordering
  limit : q.limit.isSome = r.limit.isSome
  offset : q.offset.any (· ≠ 0) = r.offset.any (· ≠ 0)

/-- The writes differ in data alone, and neither is SQL of its own. -/
inductive WriteStatement.Alike : WriteStatement → WriteStatement → Prop
  | insert (table : String) {values values' : Row} (h : values.keys = values'.keys) :
    Alike (.insert table values) (.insert table values')
  | update (table : String) {f g : Filter} {values values' : Row} (hf : f.skeleton = g.skeleton)
    (h : values.keys = values'.keys) : Alike (.update table f values) (.update table g values')
  | delete (table : String) {f g : Filter} (hf : f.skeleton = g.skeleton) :
    Alike (.delete table f) (.delete table g)

namespace Sql

/-! ## Predicates -/

namespace Predicate

variable {c : String} {v w : Value} {vs ws : List Value} {p q : Predicate}

/-- A set shows whether it has null and whether it has anything else. -/
theorem text_ofSet (hnull : vs.any Value.isNull = ws.any Value.isNull)
    (hother : vs.any (!·.isNull) = ws.any (!·.isNull)) :
    (ofSet c vs).text = (ofSet c ws).text := by
  have hempty (us : List Value) : Filter.setData us = [] ↔ us.any (!·.isNull) = false := by
    simp [Filter.setData]
  rw [Filter.ofSet_eq, Filter.ofSet_eq]
  simp only [hempty, hnull, hother]
  split
  · rfl
  · split <;> rfl

/-- A single operand shows its kind. -/
theorem text_ofOne? {op : Operator} (hkind : v.kind = w.kind) (hp : ofOne? c op v = .ok p)
    (hq : ofOne? c op w = .ok q) : p.text = q.text := by
  have hnull : v.isNull = w.isNull := by rw [Value.isNull, Value.isNull, hkind]
  unfold ofOne? at hp hq
  rw [hnull, hkind] at hp
  split at hp
  · rename_i hnone
    rw [if_pos hnone] at hq
    cases hp
    cases hq
    rfl
  · rename_i hnone
    rw [if_neg hnone] at hq
    split at hp
    · rename_i hsome
      rw [if_pos hsome] at hq
      cases hp
      cases hq
      rfl
    · rename_i hsome
      rw [if_neg hsome] at hq
      cases hop : Comparison.ofOperator? op with
      | some sign =>
        simp only [hop] at hp hq
        cases hp
        cases hq
        rfl
      | none =>
        simp only [hop] at hp hq
        split at hp <;> try cases hp
        split at hq <;> cases hq
        simp only [text, texts]

theorem text_ofCompare? {field : FieldRef} {op : Operator} {o o' : Operand}
    (h : o.skeleton = o'.skeleton) (hp : ofCompare? field op o = .ok p)
    (hq : ofCompare? field op o' = .ok q) : p.text = q.text := by
  obtain ⟨c, hc, hp⟩ := Outcome.bind_eq_ok.mp hp
  obtain ⟨c', hc', hq⟩ := Outcome.bind_eq_ok.mp hq
  obtain rfl : c = c' := Except.ok.inj (hc.symm.trans hc')
  clear hc hc'
  split at hp
  · cases hp
    cases hq
    rfl
  · cases hp
    cases hq
    obtain ⟨hnull, hother⟩ := Operand.any_members_of_skeleton h
    exact text_ofSet hnull hother
  · split at hp
    · obtain ⟨w, rfl, hkind⟩ := Operand.eq_one_of_skeleton h
      split at hq
      · contradiction
      · contradiction
      · exact text_ofOne? hkind hp hq
    · cases hp

/-- A filter in the place of several stands for itself. -/
theorem text_joined {empty : Predicate} {join : List Predicate → Predicate} {ps qs : List Predicate}
    (hjoin : ∀ ps qs, texts ps = texts qs → (join ps).text = (join qs).text)
    (h : texts ps = texts qs) : (joined empty join ps).text = (joined empty join qs).text := by
  have hlength : ps.length = qs.length := by
    simpa [texts_eq_map] using congrArg List.length h
  match ps, qs, hlength with
  | [], [], _ => rfl
  | [p], [q], _ => simpa [texts, joined] using h
  | _ :: _ :: _, _ :: _ :: _, _ => exact hjoin _ _ h

mutual

/-- The text of the predicate of a filter shows the skeleton only. -/
theorem text_ofFilter? {f g : Filter} {p q : Predicate} (h : f.skeleton = g.skeleton)
    (hp : ofFilter? f = .ok p) (hq : ofFilter? g = .ok q) : p.text = q.text := by
  match f, g with
  | .compare n op o, .compare m op' o' =>
    obtain ⟨rfl, rfl, ho⟩ := Filter.Skeleton.compare.inj h
    exact text_ofCompare? ho hp hq
  | .all fs, .all gs =>
    obtain ⟨ps, hps, hp⟩ := Outcome.bind_eq_ok.mp hp
    obtain ⟨qs, hqs, hq⟩ := Outcome.bind_eq_ok.mp hq
    cases hp
    cases hq
    refine text_joined (fun ps qs h ↦ ?_) (texts_ofFilters? (Filter.Skeleton.all.inj h) hps hqs)
    rw [text, text, h]
  | .any fs, .any gs =>
    obtain ⟨ps, hps, hp⟩ := Outcome.bind_eq_ok.mp hp
    obtain ⟨qs, hqs, hq⟩ := Outcome.bind_eq_ok.mp hq
    cases hp
    cases hq
    refine text_joined (fun ps qs h ↦ ?_) (texts_ofFilters? (Filter.Skeleton.any.inj h) hps hqs)
    rw [text, text, h]
  | .negation f, .negation g =>
    obtain ⟨p, hfp, hp⟩ := Outcome.bind_eq_ok.mp hp
    obtain ⟨q, hgq, hq⟩ := Outcome.bind_eq_ok.mp hq
    cases hp
    cases hq
    rw [text, text, text_ofFilter? (Filter.Skeleton.negation.inj h) hfp hgq]

/-- The texts of the predicates of several filters show their skeletons only. -/
theorem texts_ofFilters? {fs gs : List Filter} {ps qs : List Predicate}
    (h : Filter.skeletons fs = Filter.skeletons gs) (hps : ofFilters? fs = .ok ps)
    (hqs : ofFilters? gs = .ok qs) : texts ps = texts qs := by
  match fs, gs with
  | [], [] =>
    cases hps
    cases hqs
    rfl
  | f :: fs, g :: gs =>
    obtain ⟨hfg, hrest⟩ := List.cons.inj h
    obtain ⟨p, hp, hps⟩ := Outcome.bind_eq_ok.mp hps
    obtain ⟨ps, hfs, hps⟩ := Outcome.bind_eq_ok.mp hps
    obtain ⟨q, hq, hqs⟩ := Outcome.bind_eq_ok.mp hqs
    obtain ⟨qs, hgs, hqs⟩ := Outcome.bind_eq_ok.mp hqs
    cases hps
    cases hqs
    rw [texts, texts, text_ofFilter? hfg hp hq, texts_ofFilters? hrest hfs hgs]

end

end Predicate

/-! ## Builders -/

namespace Builder

/-- The builder without its data: there is a limit or none, and an offset or none. -/
def blank (b : Builder) : Builder :=
  { b with
    conditionParameters := []
    limit := b.limit.map fun _ ↦ 0
    offset := b.offset.map fun _ ↦ 0
    insertParameters := b.insertColumns.map fun _ ↦ .null
    assignmentParameters := [] }

/-- The two calls differ in their data alone. -/
inductive Call.Alike : Call → Call → Prop
  | select (columns : Datum) : Alike (.select columns) (.select columns)
  | selectCount : Alike .selectCount .selectCount
  | fromTable (table : Datum) : Alike (.fromTable table) (.fromTable table)
  | fromSubquery (sql label : Datum) : Alike (.fromSubquery sql label) (.fromSubquery sql label)
  | condition (text ps qs : Datum) : Alike (.condition text ps) (.condition text qs)
  | orderBy (column direction collate : Datum) :
    Alike (.orderBy column direction collate) (.orderBy column direction collate)
  | limit (d e : Datum) : Alike (.limit d) (.limit e)
  | offset (d e : Datum) : Alike (.offset d) (.offset e)
  | forUpdate : Alike .forUpdate .forUpdate
  | insertInto (table columns : Datum) :
    Alike (.insertInto table columns) (.insertInto table columns)
  | values (ps qs : Datum) : Alike (.values ps) (.values qs)
  | update (table : Datum) : Alike (.update table) (.update table)
  | set {as bs : Assoc Datum} (h : as.keys = bs.keys) : Alike (.set as) (.set bs)
  | deleteFrom (table : Datum) : Alike (.deleteFrom table) (.deleteFrom table)

@[refl] theorem Call.Alike.refl (x : Call) : x.Alike x := by
  cases x with
  | set as => exact .set rfl
  | _ => constructor

variable {b c b' c' : Builder} {x y : Call} {q r : BoundSql}

/-- Two calls that differ in data alone leave builders behind that differ in data alone. -/
theorem blank_perform? (h : b.blank = c.blank) (hxy : x.Alike y) (hb : b.perform? x = .ok b')
    (hc : c.perform? y = .ok c') : b'.blank = c'.blank := by
  have hb := takes_of_perform? hb
  have hc := takes_of_perform? hc
  -- The texts that the two calls store are those of one argument.
  have heq {α : Type} {o : Outcome α} {s s' : α} (hs : o = .ok s) (hs' : o = .ok s') : s = s' :=
    Except.ok.inj (hs.symm.trans hs')
  cases hxy with
  | select columns =>
    cases hb with | @select _ qs _ hqs
    cases hc with | select _ hqs'
    obtain rfl := heq hqs hqs'
    exact congrArg (fun d : Builder ↦
      { d with kind := some .select, columns := d.columns ++ qs }) h
  | selectCount =>
    cases hb
    cases hc
    exact congrArg (fun d : Builder ↦
      { d with kind := some .select, columns := d.columns ++ ["COUNT(*) AS \"count\""] }) h
  | fromTable table =>
    cases hb with | @fromTable _ s hs
    cases hc with | fromTable hs'
    obtain rfl := heq hs hs'
    exact congrArg (fun d : Builder ↦ { d with source := some s }) h
  | fromSubquery sql label =>
    cases hb with | @fromSubquery _ _ s hs
    cases hc with | fromSubquery hs'
    obtain rfl := heq hs hs'
    exact congrArg (fun d : Builder ↦ { d with source := some s }) h
  | condition text ps qs =>
    cases hb with | @condition s
    cases hc
    exact congrArg (fun d : Builder ↦ { d with conditions := d.conditions ++ [s] }) h
  | orderBy column direction collate =>
    cases hb with | @orderBy _ _ _ s hs
    cases hc with | orderBy hs'
    obtain rfl := heq hs hs'
    exact congrArg (fun d : Builder ↦ { d with orderings := d.orderings ++ [s] }) h
  | limit d e =>
    cases hb
    cases hc
    exact congrArg (fun d : Builder ↦ { d with limit := some 0 }) h
  | offset d e =>
    cases hb
    cases hc
    exact congrArg (fun d : Builder ↦ { d with offset := some 0 }) h
  | forUpdate =>
    cases hb
    cases hc
    exact congrArg (fun d : Builder ↦ { d with locking := true }) h
  | insertInto table columns =>
    cases hb with | @insertInto _ _ s ds qs _ hs hds hqs
    cases hc with | insertInto _ hs' hds' hqs'
    obtain rfl := heq hs hs'
    obtain rfl := Option.some.inj (hds.symm.trans hds')
    obtain rfl := heq hqs hqs'
    exact congrArg (fun d : Builder ↦ { d with
      kind := some .insert
      table := s
      insertColumns := qs
      insertParameters := qs.map fun _ ↦ .null }) h
  | values ps qs =>
    cases hb
    cases hc
    exact h
  | update table =>
    cases hb with | @update _ s _ hs
    cases hc with | update _ hs'
    obtain rfl := heq hs hs'
    exact congrArg (fun d : Builder ↦ { d with kind := some .update, table := s }) h
  | set has =>
    cases hb with | @set _ qs _ hqs
    cases hc with | set _ hqs'
    rw [has] at hqs
    obtain rfl := heq hqs hqs'
    exact congrArg (fun d : Builder ↦
      { d with assignments := d.assignments ++ qs.map (· ++ " = %s") }) h
  | deleteFrom table =>
    cases hb with | @deleteFrom _ s _ hs
    cases hc with | deleteFrom _ hs'
    obtain rfl := heq hs hs'
    exact congrArg (fun d : Builder ↦ { d with kind := some .delete, table := s }) h

/-- So do any number of calls. -/
theorem blank_performAll? {xs ys : List Call} (h : b.blank = c.blank)
    (hxy : List.Forall₂ Call.Alike xs ys) (hb : b.performAll? xs = .ok b')
    (hc : c.performAll? ys = .ok c') : b'.blank = c'.blank := by
  induction hxy generalizing b c with
  | nil =>
    cases hb
    cases hc
    exact h
  | cons hxy _ ih =>
    obtain ⟨b₁, hb₁, hb⟩ := Outcome.bind_eq_ok.mp hb
    obtain ⟨c₁, hc₁, hc⟩ := Outcome.bind_eq_ok.mp hc
    exact ih (blank_perform? h hxy hb₁ hc₁) hb hc

theorem exists_buildSelect?_blank (hb : b.buildSelect? = .ok q) :
    ∃ ds, b.blank.buildSelect? = .ok ⟨q.text, ds⟩ := by
  unfold buildSelect? at hb ⊢
  split at hb
  · cases hb
  · rename_i hcolumns
    split at hb
    · cases hb
    · rename_i source hsource
      cases hb
      simp [blank, hcolumns, hsource, conditionPart]

theorem exists_buildInsert?_blank (hb : b.buildInsert? = .ok q) :
    ∃ ds, b.blank.buildInsert? = .ok ⟨q.text, ds⟩ := by
  unfold buildInsert? at hb ⊢
  split at hb
  · cases hb
  · rename_i hcolumns
    split at hb
    · cases hb
    · cases hb
      simp [blank, hcolumns]

theorem exists_buildUpdate?_blank (hb : b.buildUpdate? = .ok q) :
    ∃ ds, b.blank.buildUpdate? = .ok ⟨q.text, ds⟩ := by
  unfold buildUpdate? at hb ⊢
  split at hb
  · cases hb
  · rename_i hassignments
    cases hb
    simp [blank, hassignments, conditionPart]

/-- The text of a statement is put together without the data. -/
theorem exists_build?_blank (hb : b.build? = .ok q) :
    ∃ ds, b.blank.build? = .ok ⟨q.text, ds⟩ := by
  have hkind : b.blank.kind = b.kind := rfl
  unfold build? at hb ⊢
  rw [hkind]
  split at hb
  · cases hb
  · exact exists_buildSelect?_blank hb
  · exact exists_buildInsert?_blank hb
  · exact exists_buildUpdate?_blank hb
  · cases hb
    exact ⟨_, rfl⟩

/-- Builders that differ in data alone give one text. -/
theorem text_build? (h : b.blank = c.blank) (hb : b.build? = .ok q) (hc : c.build? = .ok r) :
    q.text = r.text := by
  obtain ⟨ds, hb⟩ := exists_build?_blank hb
  obtain ⟨es, hc⟩ := exists_build?_blank hc
  rw [h] at hb
  exact (BoundSql.mk.inj (Except.ok.inj (hb.symm.trans hc))).1

end Builder

/-! ## Statements -/

variable {s t : Source} {q r : Query} {f g : Option Filter} {table : String} {vs ws : Row}
  {a b : BoundSql} {d d' e e' : Builder}

/-- A condition shows the skeleton of its filter. -/
theorem blank_restricted? (h : d.blank = e.blank)
    (hfg : f.map Filter.skeleton = g.map Filter.skeleton) (hd : restricted? d f = .ok d')
    (he : restricted? e g = .ok e') : d'.blank = e'.blank := by
  cases f with
  | none =>
    cases g with
    | none =>
      cases hd
      cases he
      exact h
    | some g => cases hfg
  | some f =>
    cases g with
    | none => cases hfg
    | some g =>
      obtain ⟨p, hp, hd⟩ := Outcome.bind_eq_ok.mp hd
      obtain ⟨p', hp', he⟩ := Outcome.bind_eq_ok.mp he
      rw [Predicate.text_ofFilter? (Option.some.inj hfg) hp hp'] at hd
      exact Builder.blank_perform? h (.condition _ _ _) hd he

/-- The keys of a query are added to builders that differ in data alone. -/
theorem blank_orderedBy? {keys : List OrderKey} (hst : s.Alike t) (h : d.blank = e.blank)
    (hd : orderedBy? s d keys = .ok d') (he : orderedBy? t e keys = .ok e') :
    d'.blank = e'.blank := by
  induction keys generalizing d e with
  | nil =>
    cases hd
    cases he
    exact h
  | cons key keys ih =>
    have hcall : orderCall s key.field key.direction.direction =
        orderCall t key.field key.direction.direction := by
      rw [orderCall, orderCall, hst.fields]
    rw [orderedBy?] at hd he
    split at hd
    · cases hd
    · rename_i hfield
      rw [if_neg hfield] at he
      obtain ⟨d₁, hd₁, hd⟩ := Outcome.bind_eq_ok.mp hd
      obtain ⟨e₁, he₁, he⟩ := Outcome.bind_eq_ok.mp he
      rw [hcall] at hd₁
      exact ih (Builder.blank_perform? h (.refl _) hd₁ he₁) hd he

/-- A number that may be given makes a call or none. -/
theorem forall₂_toList {call : Datum → Builder.Call} (hcall : ∀ d e, (call d).Alike (call e))
    {m n : Option Nat} (h : m.isSome = n.isSome) : List.Forall₂ Builder.Call.Alike
      (m.map fun k ↦ call (.integer k)).toList (n.map fun k ↦ call (.integer k)).toList := by
  cases m <;> cases n
  · exact .nil
  · cases h
  · cases h
  · exact .cons (hcall _ _) .nil

/-- The page shows whether there is a limit and whether rows are passed over. -/
theorem alike_pageCalls (h : q.Alike r) (lock : Bool) :
    List.Forall₂ Builder.Call.Alike (pageCalls q lock) (pageCalls r lock) := by
  have hlimit := h.limit
  have hoffset : (q.offset.filter (· ≠ 0)).isSome = (r.offset.filter (· ≠ 0)).isSome := by
    simpa using h.offset
  rw [pageCalls, pageCalls]
  have hlimits := forall₂_toList Builder.Call.Alike.limit hlimit
  have hoffsets := forall₂_toList Builder.Call.Alike.offset hoffset
  have hlocks : List.Forall₂ Builder.Call.Alike (if lock then [.forUpdate] else [])
      (if lock then [.forUpdate] else []) := List.forall₂_same.mpr fun x _ ↦ .refl x
  exact List.rel_append (List.rel_append hlimits hoffsets) hlocks

theorem fromSource_eq (h : s.Alike t) : fromSource s = fromSource t := by
  rw [fromSource, fromSource, h.sql, h.table]

/-- Statements that read the rows of queries which differ in data alone have one text. -/
theorem text_select? (hst : s.Alike t) (hqr : q.Alike r) {lock : Bool}
    (ha : select? s q lock = .ok a) (hb : select? t r lock = .ok b) : a.text = b.text := by
  obtain ⟨d₁, hd₁, ha⟩ := Outcome.bind_eq_ok.mp ha
  obtain ⟨d₂, hd₂, ha⟩ := Outcome.bind_eq_ok.mp ha
  obtain ⟨d₃, hd₃, ha⟩ := Outcome.bind_eq_ok.mp ha
  obtain ⟨d₄, hd₄, ha⟩ := Outcome.bind_eq_ok.mp ha
  obtain ⟨e₁, he₁, hb⟩ := Outcome.bind_eq_ok.mp hb
  obtain ⟨e₂, he₂, hb⟩ := Outcome.bind_eq_ok.mp hb
  obtain ⟨e₃, he₃, hb⟩ := Outcome.bind_eq_ok.mp hb
  obtain ⟨e₄, he₄, hb⟩ := Outcome.bind_eq_ok.mp hb
  have hkeys : keyCalls s q = keyCalls t r := by
    simp only [keyCalls, orderCall, hst.key, hst.fields, hqr.ordering]
  rw [hst.sql, hst.fields, fromSource_eq hst] at hd₁
  rw [hkeys] at hd₄
  rw [hqr.ordering] at hd₃
  have h₁ : d₁.blank = e₁.blank := congrArg Builder.blank (Except.ok.inj (hd₁.symm.trans he₁))
  have h₂ := blank_restricted? h₁ hqr.condition hd₂ he₂
  have h₃ := blank_orderedBy? hst h₂ hd₃ he₃
  have hcalls : List.Forall₂ Builder.Call.Alike (keyCalls t r ++ pageCalls q lock)
      (keyCalls t r ++ pageCalls r lock) :=
    List.rel_append (List.forall₂_same.mpr fun x _ ↦ .refl x) (alike_pageCalls hqr lock)
  exact Builder.text_build? (Builder.blank_performAll? h₃ hcalls hd₄ he₄) ha hb

/-- Statements of calls that differ in data alone, with filters that do, have one text. -/
theorem text_restricted? {xs ys : List Builder.Call} (hxy : List.Forall₂ Builder.Call.Alike xs ys)
    (hfg : f.map Filter.skeleton = g.map Filter.skeleton)
    (ha : (do (← restricted? (← Builder.performAll? {} xs) f).build?) = .ok a)
    (hb : (do (← restricted? (← Builder.performAll? {} ys) g).build?) = .ok b) :
    a.text = b.text := by
  obtain ⟨d, hd, ha⟩ := Outcome.bind_eq_ok.mp ha
  obtain ⟨d', hd', ha⟩ := Outcome.bind_eq_ok.mp ha
  obtain ⟨e, he, hb⟩ := Outcome.bind_eq_ok.mp hb
  obtain ⟨e', he', hb⟩ := Outcome.bind_eq_ok.mp hb
  have h := Builder.blank_performAll? rfl hxy hd he
  exact Builder.text_build? (blank_restricted? h hfg hd' he') ha hb

theorem text_count? (hst : s.Alike t) (hfg : f.map Filter.skeleton = g.map Filter.skeleton)
    (ha : count? s f = .ok a) (hb : count? t g = .ok b) : a.text = b.text := by
  rw [count?, fromSource_eq hst] at ha
  exact text_restricted? (.cons .selectCount (.cons (.refl _) .nil)) hfg ha hb

theorem text_exists? (hst : s.Alike t) (hfg : f.map Filter.skeleton = g.map Filter.skeleton)
    (ha : exists? s f = .ok a) (hb : exists? t g = .ok b) : a.text = b.text := by
  rw [exists?, fromSource_eq hst] at ha
  obtain ⟨d, hd, ha⟩ := Outcome.bind_eq_ok.mp ha
  obtain ⟨d', hd', ha⟩ := Outcome.bind_eq_ok.mp ha
  obtain ⟨inner, ha', ha⟩ := Outcome.bind_eq_ok.mp ha
  obtain ⟨e, he, hb⟩ := Outcome.bind_eq_ok.mp hb
  obtain ⟨e', he', hb⟩ := Outcome.bind_eq_ok.mp hb
  obtain ⟨inner', hb', hb⟩ := Outcome.bind_eq_ok.mp hb
  cases ha
  cases hb
  obtain rfl := Except.ok.inj (hd.symm.trans he)
  have htext := Builder.text_build? (blank_restricted? rfl hfg hd' he') ha' hb'
  simp only [htext]

theorem text_insert? (h : vs.keys = ws.keys) (ha : insert? table vs = .ok a)
    (hb : insert? table ws = .ok b) : a.text = b.text := by
  obtain ⟨d, hd, ha⟩ := Outcome.bind_eq_ok.mp ha
  obtain ⟨e, he, hb⟩ := Outcome.bind_eq_ok.mp hb
  rw [h] at hd
  have hde := Builder.blank_performAll? rfl
    (.cons (.refl _) (.cons (.values _ _) .nil)) hd he
  exact Builder.text_build? hde ha hb

theorem text_update? (hfg : f.map Filter.skeleton = g.map Filter.skeleton) (h : vs.keys = ws.keys)
    (ha : update? table f vs = .ok a) (hb : update? table g ws = .ok b) : a.text = b.text :=
  text_restricted? (.cons (.refl _) (.cons (.set h) .nil)) hfg ha hb

theorem text_delete? (hfg : f.map Filter.skeleton = g.map Filter.skeleton)
    (ha : delete? table f = .ok a) (hb : delete? table g = .ok b) : a.text = b.text :=
  text_restricted? (.cons (.refl _) .nil) hfg ha hb

/-- The plain data stand under the names of the values. -/
theorem keys_plain? {vs' : Row} (h : plain? vs = .ok vs') : vs'.keys = vs.keys := by
  obtain ⟨xs, hxs, hdata⟩ := Outcome.bind_eq_ok.mp h
  cases hdata
  rw [Assoc.keys_mapValues]
  have hall := Outcome.mapM_eq_ok.mp hxs
  clear h hxs
  induction hall with
  | nil => rfl
  | @cons p x vs xs hpx _ ih =>
    obtain ⟨v, -, hx⟩ := Outcome.bind_eq_ok.mp hpx
    cases hx
    exact congrArg (p.1 :: ·) ih

/-- The filter that is given shows the skeleton of what is given. -/
theorem skeleton_given? {f g : Filter} (h : f.skeleton = g.skeleton) :
    f.given?.map Filter.skeleton = g.given?.map Filter.skeleton := by
  cases f <;> cases g <;> first
    | exact congrArg some h
    | cases h
      rfl
    | cases h

theorem text_write? {v w : WriteStatement} (h : v.Alike w) (ha : write? v = .ok a)
    (hb : write? w = .ok b) : a.text = b.text := by
  cases h with
  | insert table h =>
    obtain ⟨vs, hvs, ha⟩ := Outcome.bind_eq_ok.mp ha
    obtain ⟨ws, hws, hb⟩ := Outcome.bind_eq_ok.mp hb
    exact text_insert? ((keys_plain? hvs).trans (h.trans (keys_plain? hws).symm)) ha hb
  | update table hf h =>
    obtain ⟨vs, hvs, ha⟩ := Outcome.bind_eq_ok.mp ha
    obtain ⟨ws, hws, hb⟩ := Outcome.bind_eq_ok.mp hb
    exact text_update? (skeleton_given? hf)
      ((keys_plain? hvs).trans (h.trans (keys_plain? hws).symm)) ha hb
  | delete table hf => exact text_delete? (skeleton_given? hf) ha hb

/-- A statement that is asked for. -/
inductive Request where
  | select (s : Source) (q : Query) (lock : Bool)
  | test (s : Source) (condition : Option Filter)
  | count (s : Source) (condition : Option Filter)
  | insert (table : String) (values : Row)
  | update (table : String) (condition : Option Filter) (values : Row)
  | delete (table : String) (condition : Option Filter)
  | write (w : WriteStatement)

/-- The statement that is built. -/
def Request.statement? : Request → Outcome BoundSql
  | select s q lock => select? s q lock
  | test s f => exists? s f
  | count s f => count? s f
  | insert table values => insert? table values
  | update table f values => update? table f values
  | delete table f => delete? table f
  | write w => write? w

/-- The two statements are asked for alike, except for the data that they are about. -/
inductive Request.Alike : Request → Request → Prop
  | select {s t : Source} {q r : Query} (hst : s.Alike t) (hqr : q.Alike r) (lock : Bool) :
    Alike (.select s q lock) (.select t r lock)
  | test {s t : Source} {f g : Option Filter} (hst : s.Alike t)
    (hfg : f.map Filter.skeleton = g.map Filter.skeleton) : Alike (.test s f) (.test t g)
  | count {s t : Source} {f g : Option Filter} (hst : s.Alike t)
    (hfg : f.map Filter.skeleton = g.map Filter.skeleton) : Alike (.count s f) (.count t g)
  | insert (table : String) {vs ws : Row} (h : vs.keys = ws.keys) :
    Alike (.insert table vs) (.insert table ws)
  | update (table : String) {f g : Option Filter} {vs ws : Row}
    (hfg : f.map Filter.skeleton = g.map Filter.skeleton) (h : vs.keys = ws.keys) :
    Alike (.update table f vs) (.update table g ws)
  | delete (table : String) {f g : Option Filter}
    (hfg : f.map Filter.skeleton = g.map Filter.skeleton) :
    Alike (.delete table f) (.delete table g)
  | write {v w : WriteStatement} (h : v.Alike w) : Alike (.write v) (.write w)

/-- Filters with one skeleton are written with one text, and so are statements that are asked for
alike: all data go to the parameters. -/
theorem text_eq_of_alike :
    (∀ (f g : Filter) (p p' : Predicate), f.skeleton = g.skeleton →
      Predicate.ofFilter? f = .ok p → Predicate.ofFilter? g = .ok p' → p.text = p'.text) ∧
    ∀ (x y : Request) (a b : BoundSql), x.Alike y →
      x.statement? = .ok a → y.statement? = .ok b → a.text = b.text := by
  refine ⟨fun f g p p' h hp hp' ↦ Predicate.text_ofFilter? h hp hp', fun x y a b h ha hb ↦ ?_⟩
  cases h with
  | select hst hqr lock => exact text_select? hst hqr ha hb
  | test hst hfg => exact text_exists? hst hfg ha hb
  | count hst hfg => exact text_count? hst hfg ha hb
  | insert table h => exact text_insert? h ha hb
  | update table hfg h => exact text_update? hfg h ha hb
  | delete table hfg => exact text_delete? hfg ha hb
  | write h => exact text_write? h ha hb

/-- The users, who have names. -/
def users : Source := ⟨"users", [("name", .text)], [], none⟩

/-- The rows whose name has the text in it. -/
def named (s : String) : Filter := .compare (.name "name") .contains (.one ⟨.text, .text s⟩)

/-- A page of the users whose name has the text in it. -/
def namedPage (s : String) (limit offset : Nat) : Query :=
  ⟨some (named s), [], some limit, some offset⟩

/-- Two pages of different sizes, of users with different names. -/
theorem text_eq_namedPage :
    (∃ p p', (named "a%").skeleton = (named "").skeleton ∧
      Predicate.ofFilter? (named "a%") = .ok p ∧ Predicate.ofFilter? (named "") = .ok p' ∧
      p.text = p'.text) ∧
    ∃ a b, (namedPage "a%" 1 2).Alike (namedPage "" 30 4) ∧
      select? users (namedPage "a%" 1 2) true = .ok a ∧
      select? users (namedPage "" 30 4) true = .ok b ∧ a.text = b.text := by
  have hskeleton : (named "a%").skeleton = (named "").skeleton := rfl
  have hpage : (namedPage "a%" 1 2).Alike (namedPage "" 30 4) := ⟨rfl, rfl, rfl, rfl⟩
  have halike := Request.Alike.select (s := users) ⟨rfl, rfl, rfl, rfl⟩ hpage true
  let text := "SELECT \"name\" FROM \"users\" WHERE ((\"name\" IS NOT NULL AND " ++
    "\"name\" LIKE %s)) LIMIT %s OFFSET %s FOR UPDATE"
  have ha : select? users (namedPage "a%" 1 2) true =
      .ok ⟨text, [.text "%a\\%%", .integer 1, .integer 2]⟩ := by rfl
  have hb : select? users (namedPage "" 30 4) true =
      .ok ⟨text, [.text "%%", .integer 30, .integer 4]⟩ := by rfl
  obtain ⟨hfilters, hrequests⟩ := text_eq_of_alike
  exact ⟨⟨_, _, hskeleton, rfl, rfl, hfilters _ _ _ _ hskeleton rfl rfl⟩,
    ⟨_, _, hpage, ha, hb, hrequests _ _ _ _ halike ha hb⟩⟩

/-- The lock is no data, and it is written into the text. -/
theorem text_select?_locking : ¬∀ (s t : Source) (q r : Query) (lock lock' : Bool) (a b : BoundSql),
    s.Alike t → q.Alike r → select? s q lock = .ok a → select? t r lock' = .ok b →
      a.text = b.text := by
  intro h
  have hfree : select? users {} false = .ok ⟨"SELECT \"name\" FROM \"users\"", []⟩ := by rfl
  have hlocked : select? users {} true =
      .ok ⟨"SELECT \"name\" FROM \"users\" FOR UPDATE", []⟩ := by rfl
  have htext := h users users {} {} false true _ _ ⟨rfl, rfl, rfl, rfl⟩ ⟨rfl, rfl, rfl, rfl⟩
    hfree hlocked
  exact absurd htext (by decide)

end Sql

end RecordStore
