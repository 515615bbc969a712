import RecordStore.Proofs.Sql.Independence

/-!
# What is supplied for a statement

A builder collects the data that its calls supply, and builds a statement that has a place for each
of them: those of the assignments in the order of the calls, then those of the conditions, then the
limit, then the offset; for an INSERT one for each column.  The predicate of a filter has the data
of its comparisons, from left to right.

* `Builder.Supplies` is what a history of calls has supplied, `Builder.Supplies.statement` the
  statement with it in its places.
* `Builder.Collects.step` and `Builder.Collects.run` say that a builder collects it, call by call,
  and `Builder.Collects.build?` what is built from it.
* `Predicate.supplied_ofFilter?` is the statement on filters.
-/

namespace RecordStore

namespace Sql

open Builder (placeholders)

namespace Builder

/-- The data that calls have supplied, with the conditions that they are for. -/
structure Supplies where
  assignments : Assoc Datum := []
  conditions : List BoundSql := []
  limit : Option Datum := none
  offset : Option Datum := none
  values : List Datum := []

namespace Supplies

/-- What is supplied after one more call.  Assignments and conditions add up; a limit, an offset and
values stand in for those of an earlier call. -/
def after (u : Supplies) : Call → Supplies
  | .condition (.text s) ds => { u with conditions := u.conditions ++ [⟨s, ds.elements?.getD []⟩] }
  | .limit d => { u with limit := some d }
  | .offset d => { u with offset := some d }
  | .values ds => { u with values := ds.elements?.getD [] }
  | .set as => { u with assignments := u.assignments ++ as }
  | _ => u

/-- The data for a statement, in order. -/
def parameters (u : Supplies) : StatementKind → List Datum
  | .select => u.conditions.flatMap BoundSql.parameters ++ u.limit.toList ++ u.offset.toList
  | .insert => u.values
  | .update => u.assignments.map Prod.snd ++ u.conditions.flatMap BoundSql.parameters
  | .delete => u.conditions.flatMap BoundSql.parameters

/-- An assignment, with its datum. -/
def assignment (p : String × Datum) : List Piece :=
  written ((quote? p.1).getD "" ++ " = ") ++ [.datum p.2]

/-- A condition in parentheses, with its data. -/
def condition (q : BoundSql) : List Piece :=
  written "(" ++ filled q.text.toList q.parameters ++ written ")"

/-- The conditions, joined; nothing where there are none. -/
def restriction (u : Supplies) : List (List Piece) :=
  if u.conditions.isEmpty then []
  else [written "WHERE " ++ separatedBy " AND " (u.conditions.map condition)]

/-- A word and a datum, where there is one. -/
def clause (word : String) (d : Option Datum) : List (List Piece) :=
  d.toList.map fun d ↦ written word ++ [.datum d]

/-- The statement of a builder, with what is supplied in its places. -/
def statement (u : Supplies) (b : Builder) : StatementKind → List Piece
  | .select => separatedBy " " ([written ("SELECT " ++ commaSeparated b.columns),
      written ("FROM " ++ b.source.getD "")] ++ u.restriction ++
      (if b.orderings.isEmpty then [] else [written ("ORDER BY " ++ commaSeparated b.orderings)]) ++
      clause "LIMIT " u.limit ++ clause "OFFSET " u.offset ++
      if b.locking then [written "FOR UPDATE"] else [])
  | .insert => written ("INSERT INTO " ++ b.table ++ " (" ++ commaSeparated b.insertColumns ++
      ") VALUES (") ++ separatedBy ", " (u.values.map fun d ↦ [.datum d]) ++ written ")"
  | .update => separatedBy " " ([written ("UPDATE " ++ b.table),
      written "SET " ++ separatedBy ", " (u.assignments.map assignment)] ++ u.restriction)
  | .delete => separatedBy " " (written ("DELETE FROM " ++ b.table) :: u.restriction)

end Supplies

/-- What calls supply from the first to the last. -/
def supplied (calls : List Call) : Supplies := calls.foldl Supplies.after {}

/-- The builder has collected what was supplied, and its other texts have no places. -/
structure Collects (b : Builder) (u : Supplies) : Prop where
  columns : ∀ c ∈ b.columns, Bare c
  source : ∀ s ∈ b.source, Bare s
  orderings : ∀ o ∈ b.orderings, Bare o
  table : Bare b.table
  insertColumns : ∀ c ∈ b.insertColumns, Bare c
  conditions : b.conditions = u.conditions.map BoundSql.text
  conditionParameters : b.conditionParameters = u.conditions.flatMap BoundSql.parameters
  counts : ∀ q ∈ u.conditions, placeholders q.text.toList = q.parameters.length
  assignments : b.assignments = u.assignments.map fun p ↦ (quote? p.1).getD "" ++ " = %s"
  assignmentParameters : b.assignmentParameters = u.assignments.map Prod.snd
  names : ∀ p ∈ u.assignments, Bare ((quote? p.1).getD "")
  limit : b.limit.map (fun n : Nat ↦ Datum.integer n) = u.limit
  offset : b.offset.map (fun n : Nat ↦ Datum.integer n) = u.offset
  values : b.insertParameters = u.values

variable {b b' : Builder} {u : Supplies} {c : Call} {calls : List Call} {q : BoundSql}

/-! ## What one call collects -/

theorem forall_mem_concat {α : Type} {p : α → Prop} {xs : List α} {x : α} (h : ∀ y ∈ xs, p y)
    (hx : p x) : ∀ y ∈ xs ++ [x], p y :=
  List.forall_mem_append.mpr ⟨h, List.forall_mem_singleton.mpr hx⟩

theorem isPrefix_dropSemicolons (cs : List Char) : dropSemicolons cs <+: cs := by
  rw [dropSemicolons, ← List.reverse_suffix, List.reverse_reverse]
  exact List.dropWhile_suffix _

theorem isInfix_strip (cs : List Char) : Text.strip cs <:+: cs := by
  have hend : Text.strip cs <+: cs.dropWhile Text.isBlank := by
    rw [Text.strip, ← List.reverse_suffix, List.reverse_reverse]
    exact List.dropWhile_suffix _
  exact hend.isInfix.trans (List.dropWhile_suffix _).isInfix

/-- A subquery without places has none in its parentheses. -/
theorem bare_subquery? {sql label : Datum} {s : String} (h : subquery? sql label = .ok s)
    (hsql : ∀ t, sql = .text t → placeholders t.toList = 0) : Bare s := by
  unfold subquery? at h
  split at h
  · cases h
  · split at h
    · rename_i t _
      dsimp only at h
      split at h
      · cases h
      · obtain ⟨a, ha, h⟩ := Outcome.bind_eq_ok.mp h
        cases h
        have hnone : placeholders (dropSemicolons (Text.strip t.toList)) =
            ([] : List Datum).length := by
          refine Nat.le_zero.mp ((placeholders_mono ?_).trans (hsql t rfl).le)
          exact (isPrefix_dropSemicolons _).isInfix.trans (isInfix_strip _)
        have hinner := fills_enclosed hnone
        have halias : Bare " AS " := bare_of_notMem (by decide)
        have hall := (hinner.append halias).append (bare_quote ha)
        simpa [Bare, written, filled_nil] using hall
    · cases h
    · cases h

theorem bare_ordering? {column direction collate : Datum} {s : String}
    (h : ordering? column direction collate = .ok s) : Bare s := by
  obtain ⟨n, hn, h⟩ := Outcome.bind_eq_ok.mp h
  have hname := bare_quote hn
  have hcollation : Bare (if collate.isTruthy then " COLLATE \"C\"" else "") := by
    split <;> exact bare_of_notMem (by decide)
  split at h
  · dsimp only at h
    split at h
    · cases h
      exact (hname.append hcollation).append (bare_of_notMem (by decide))
    · split at h
      · cases h
        exact (hname.append hcollation).append (bare_of_notMem (by decide))
      · cases h
  · cases h
  · cases h

/-- Names that are put into quotes one by one have no places. -/
theorem bare_of_mapM {context : String} {ds : List Datum} {qs : List String}
    (h : ds.mapM (quote context) = .ok qs) : ∀ s ∈ qs, Bare s := by
  intro s hs
  obtain ⟨d, -, hd⟩ := Outcome.exists_of_mem_mapM h hs
  exact bare_quote hd

/-- Names of assignments have their quoted forms. -/
theorem quoted_names {as : Assoc Datum} {qs : List String}
    (h : (as.keys.map .text).mapM (quote "set column") = .ok qs) :
    qs = as.map fun p ↦ (quote? p.1).getD "" := by
  have hall := Outcome.mapM_eq_ok.mp h
  rw [Assoc.keys, List.forall₂_map_left_iff, List.forall₂_map_left_iff] at hall
  clear h
  induction hall with
  | nil => rfl
  | cons hp _ ih => rw [List.map_cons, quote_eq_ok.mp hp, ih, Option.getD_some]

/-- The columns of a SELECT are a star or quoted names. -/
theorem bare_selected? {columns : Datum} {qs : List String} (h : selected? columns = .ok qs) :
    ∀ s ∈ qs, Bare s := by
  unfold selected? at h
  split at h
  · split at h
    · cases h
      exact List.forall_mem_singleton.mpr (bare_of_notMem (by decide))
    · exact bare_of_mapM h
  · split at h
    · exact bare_of_mapM h
    · cases h

/-- Assignments add up: their names have no places, and their values go to the parameters. -/
theorem Collects.set {as : Assoc Datum} {qs : List String} (h : b.Collects u)
    (hqs : (as.keys.map .text).mapM (quote "set column") = .ok qs) :
    ({ b with
        assignments := b.assignments ++ qs.map (· ++ " = %s")
        assignmentParameters := b.assignmentParameters ++ as.map Prod.snd } : Builder).Collects
      (u.after (.set as)) := by
  have hnames := quoted_names hqs
  exact { h with
    assignments := by
      rw [Supplies.after, List.map_append, h.assignments, hnames, List.map_map]
      rfl
    assignmentParameters := by rw [Supplies.after, List.map_append, h.assignmentParameters]
    names := by
      refine List.forall_mem_append.mpr ⟨h.names, fun p hp ↦ ?_⟩
      obtain ⟨n, -, hn⟩ := Outcome.exists_of_mem_mapM hqs (hnames ▸ List.mem_map_of_mem hp)
      exact bare_quote hn }

/-- One call that goes well supplies its data to the builder. -/
theorem Collects.step (h : b.Collects u)
    (hc : ∀ s label, c = .fromSubquery (.text s) label → placeholders s.toList = 0)
    (hb : b.perform? c = .ok b') : b'.Collects (u.after c) := by
  cases takes_of_perform? hb with
  | select _ hqs =>
    exact { h with columns := List.forall_mem_append.mpr ⟨h.columns, bare_selected? hqs⟩ }
  | selectCount =>
    have hcount : Bare "COUNT(*) AS \"count\"" := bare_of_notMem (by decide)
    exact { h with columns := forall_mem_concat h.columns hcount }
  | fromTable hs => exact { h with source := by simpa using bare_quote hs }
  | @fromSubquery _ label _ hs =>
    have hbare := bare_subquery? hs fun t ht ↦ hc t label (by rw [ht])
    exact { h with source := by simpa using hbare }
  | @condition s ps ds _ hds hcount =>
    have hafter : u.after (.condition (.text s) ps) =
        { u with conditions := u.conditions ++ [⟨s, ds⟩] } := by
      rw [Supplies.after, hds, Option.getD_some]
    rw [hafter]
    exact { h with
      conditions := by simp [h.conditions]
      conditionParameters := by simp [h.conditionParameters]
      counts := forall_mem_concat h.counts hcount }
  | orderBy hs => exact { h with orderings := forall_mem_concat h.orderings (bare_ordering? hs) }
  | limit => exact { h with limit := rfl }
  | offset => exact { h with offset := rfl }
  | forUpdate => exact { h with }
  | insertInto _ hs _ hqs =>
    exact { h with table := bare_quote hs, insertColumns := bare_of_mapM hqs }
  | values _ hds => exact { h with values := by rw [Supplies.after, hds]; rfl }
  | update _ hs => exact { h with table := bare_quote hs }
  | set _ hqs => exact h.set hqs
  | deleteFrom _ hs => exact { h with table := bare_quote hs }

theorem collects_nothing : Collects {} {} where
  columns := nofun
  source := nofun
  orderings := nofun
  table := bare_of_notMem (by decide)
  insertColumns := nofun
  conditions := rfl
  conditionParameters := rfl
  counts := nofun
  assignments := rfl
  assignmentParameters := rfl
  names := nofun
  limit := rfl
  offset := rfl
  values := rfl

/-- Calls that all go well supply their data one after another. -/
theorem Collects.run (h : b.Collects u)
    (hcalls : ∀ s label, .fromSubquery (.text s) label ∈ calls → placeholders s.toList = 0)
    (hb : b.performAll? calls = .ok b') : b'.Collects (calls.foldl Supplies.after u) := by
  induction calls generalizing b u with
  | nil =>
    cases hb
    exact h
  | cons c calls ih =>
    obtain ⟨b₁, hb₁, hb⟩ := Outcome.bind_eq_ok.mp hb
    have hfirst := h.step (fun s label hc ↦ hcalls s label (hc ▸ List.mem_cons_self)) hb₁
    exact ih hfirst (fun s label hs ↦ hcalls s label (.tail _ hs)) hb

/-! ## The statement that is built -/

/-- The conditions have the data that were supplied for them. -/
theorem Collects.restriction (h : b.Collects u) :
    FillsAll b.conditionPart b.conditionParameters u.restriction := by
  have hconditions : FillsAll (b.conditions.map fun c ↦ "(" ++ c ++ ")") b.conditionParameters
      (u.conditions.map Supplies.condition) := by
    rw [h.conditions, h.conditionParameters, List.map_map]
    refine fillsAll_map fun q hq ↦ ?_
    simpa [Supplies.condition, written] using fills_enclosed (h.counts q hq)
  have hword : Bare "WHERE " := bare_of_notMem (by decide)
  have hnone : b.conditions.isEmpty = u.conditions.isEmpty := by
    rw [h.conditions, List.isEmpty_map]
  rw [conditionPart, Supplies.restriction, hnone]
  cases hempty : u.conditions.isEmpty with
  | true =>
    rw [h.conditionParameters, List.isEmpty_iff.mp hempty]
    exact .nil
  | false =>
    have hwhole := Fills.append hword (hconditions.intercalate (by decide : '%' ∉ " AND ".toList))
    exact fillsAll_one (by simpa using hwhole)

/-- A number that is given has the place behind its word. -/
theorem fillsAll_clause (word : String) (hword : Bare word) {n : Option Nat} {d : Option Datum}
    (h : n.map (fun n : Nat ↦ Datum.integer n) = d) :
    FillsAll (if n.isSome then [word ++ "%s"] else []) (n.map fun n : Nat ↦ Datum.integer n).toList
      (Supplies.clause word d) := by
  subst h
  cases n with
  | none => exact .nil
  | some n => exact fillsAll_one (hword.slot _)

/-- A part without data may be left out. -/
theorem fillsAll_optional (p : Prop) [Decidable p] {s : String} (h : Bare s) :
    FillsAll (if p then [] else [s]) [] (if p then [] else [written s]) := by
  split
  · exact .nil
  · exact fillsAll_one h

theorem Collects.buildSelect? (h : b.Collects u) (hb : b.buildSelect? = .ok q) :
    Fills q.text.toList q.parameters (u.statement b .select) ∧
      q.parameters = u.parameters .select := by
  unfold Builder.buildSelect? at hb
  split at hb
  · cases hb
  · split at hb
    · cases hb
    · rename_i source hsource
      cases hb
      have hcolumns : Bare ("SELECT " ++ commaSeparated b.columns) :=
        (bare_of_notMem (by decide)).append (bare_intercalate (by decide) h.columns)
      have hfrom : Bare ("FROM " ++ source) :=
        (bare_of_notMem (by decide)).append (h.source source hsource)
      have horder : Bare ("ORDER BY " ++ commaSeparated b.orderings) :=
        (bare_of_notMem (by decide)).append (bare_intercalate (by decide) h.orderings)
      have hbegin := FillsAll.cons hcolumns (fillsAll_one hfrom)
      have hlimit := fillsAll_clause "LIMIT " (bare_of_notMem (by decide)) h.limit
      have hoffset := fillsAll_clause "OFFSET " (bare_of_notMem (by decide)) h.offset
      have hlock := fillsAll_optional (¬b.locking) (s := "FOR UPDATE") (bare_of_notMem (by decide))
      have hkeys := fillsAll_optional (b.orderings.isEmpty = true) horder
      have hpage := (hlimit.append hoffset).append hlock
      have hall := ((hbegin.append h.restriction).append hkeys).append hpage
      rw [ite_not, ite_not] at hall
      constructor
      · simpa [Supplies.statement, hsource, spaced] using
          hall.intercalate (by decide : '%' ∉ " ".toList)
      · rw [Supplies.parameters, h.conditionParameters, h.limit, h.offset]

theorem Collects.buildInsert? (h : b.Collects u) (hb : b.buildInsert? = .ok q) :
    Fills q.text.toList q.parameters (u.statement b .insert) ∧
      q.parameters = u.parameters .insert ∧ u.values.length = b.insertColumns.length := by
  unfold Builder.buildInsert? at hb
  split at hb
  · cases hb
  · split at hb
    · cases hb
    · rename_i hlength
      cases hb
      rw [h.values] at hlength ⊢
      refine ⟨?_, rfl, not_not.mp hlength⟩
      have hslots : b.insertColumns.map (fun _ ↦ "%s") = u.values.map fun _ ↦ "%s" := by
        rw [List.map_const', List.map_const', not_not.mp hlength]
      have hvalues : FillsAll (u.values.map fun _ ↦ "%s") (u.values.flatMap fun d ↦ [d])
          (u.values.map fun d ↦ [.datum d]) := fillsAll_map fun d _ ↦ fills_slot d
      have hcolumns : Bare (commaSeparated b.insertColumns) :=
        bare_intercalate (by decide) h.insertColumns
      have hopening : Bare ("INSERT INTO " ++ b.table ++ " (" ++ commaSeparated b.insertColumns ++
          ") VALUES (") :=
        ((((bare_of_notMem (by decide)).append h.table).append (bare_of_notMem (by decide))).append
          hcolumns).append (bare_of_notMem (by decide))
      have hclosing : Bare ")" := bare_of_notMem (by decide)
      have hlist := hvalues.intercalate (by decide : '%' ∉ ", ".toList)
      have hall := (Fills.append hopening hlist).append hclosing
      rw [hslots]
      simpa [Supplies.statement, commaSeparated] using hall

/-- The assignments have the data that were supplied for them. -/
theorem Collects.setClause (h : b.Collects u) :
    Fills ("SET " ++ commaSeparated b.assignments).toList b.assignmentParameters
      (written "SET " ++ separatedBy ", " (u.assignments.map Supplies.assignment)) := by
  have hassignments : FillsAll (u.assignments.map fun p ↦ (quote? p.1).getD "" ++ " = %s")
      (u.assignments.flatMap fun p ↦ [p.2]) (u.assignments.map Supplies.assignment) := by
    refine fillsAll_map fun p hp ↦ ?_
    have hsign : Bare " = " := bare_of_notMem (by decide)
    simpa [Supplies.assignment] using ((h.names p hp).append hsign).slot p.2
  have hword : Bare "SET " := bare_of_notMem (by decide)
  have hall := Fills.append hword (hassignments.intercalate (by decide : '%' ∉ ", ".toList))
  rw [h.assignments, h.assignmentParameters]
  simpa [commaSeparated, List.map_eq_flatMap] using hall

theorem Collects.buildUpdate? (h : b.Collects u) (hb : b.buildUpdate? = .ok q) :
    Fills q.text.toList q.parameters (u.statement b .update) ∧
      q.parameters = u.parameters .update := by
  unfold Builder.buildUpdate? at hb
  split at hb
  · cases hb
  · cases hb
    have hbegin : Bare ("UPDATE " ++ b.table) := (bare_of_notMem (by decide)).append h.table
    have hall := FillsAll.cons hbegin (.cons h.setClause h.restriction)
    constructor
    · exact hall.intercalate (by decide : '%' ∉ " ".toList)
    · rw [Supplies.parameters, h.assignmentParameters, h.conditionParameters]

theorem Collects.buildDelete (h : b.Collects u) :
    Fills b.buildDelete.text.toList b.buildDelete.parameters (u.statement b .delete) ∧
      b.buildDelete.parameters = u.parameters .delete := by
  have hbegin : Bare ("DELETE FROM " ++ b.table) := (bare_of_notMem (by decide)).append h.table
  have hall := FillsAll.cons hbegin h.restriction
  constructor
  · exact hall.intercalate (by decide : '%' ∉ " ".toList)
  · exact h.conditionParameters

/-- The statement that is built has a place for each of its data; the values of an INSERT are as
many as the columns that were named last. -/
theorem Collects.build? (h : b.Collects u) (hb : b.build? = .ok q) :
    ∃ k, b.kind = some k ∧ Fills q.text.toList q.parameters (u.statement b k) ∧
      q.parameters = u.parameters k ∧
      (k = .insert → u.values.length = b.insertColumns.length) := by
  unfold Builder.build? at hb
  split at hb
  · cases hb
  · rename_i hkind
    obtain ⟨hfills, hparameters⟩ := h.buildSelect? hb
    exact ⟨.select, hkind, hfills, hparameters, nofun⟩
  · rename_i hkind
    obtain ⟨hfills, hparameters, hlength⟩ := h.buildInsert? hb
    exact ⟨.insert, hkind, hfills, hparameters, fun _ ↦ hlength⟩
  · rename_i hkind
    obtain ⟨hfills, hparameters⟩ := h.buildUpdate? hb
    exact ⟨.update, hkind, hfills, hparameters, nofun⟩
  · rename_i hkind
    cases hb
    obtain ⟨hfills, hparameters⟩ := h.buildDelete
    exact ⟨.delete, hkind, hfills, hparameters, nofun⟩

end Builder

/-! ## Filters -/

/-- What an operator supplies with a single operand: nothing where it asks for null, the operand of
a text operator as a pattern. -/
def suppliedByOne (op : Operator) (v : Value) : List Datum :=
  if (op = .eq ∨ op = .notEq) ∧ v.isNull then []
  else match v.data with
    | .text s => [.text (if op.isText then likePattern op s else s)]
    | d => [d]

/-- What a comparison supplies; a set comes all at once. -/
def suppliedBy (op : Operator) (o : Operand) : List Datum :=
  match op with
  | .isNull => []
  | .inSet => if (Filter.setData o.members).isEmpty then [] else [.list (Filter.setData o.members)]
  | op => match o with
    | .one v => suppliedByOne op v
    | _ => []

mutual

/-- What the comparisons of a filter supply, from left to right. -/
def suppliedByFilter : Filter → List Datum
  | .compare _ op o => suppliedBy op o
  | .all fs => suppliedByFilters fs
  | .any fs => suppliedByFilters fs
  | .negation f => suppliedByFilter f
  | .junk _ => []

/-- What the comparisons of several filters supply. -/
def suppliedByFilters : List Filter → List Datum
  | [] => []
  | f :: fs => suppliedByFilter f ++ suppliedByFilters fs

end

namespace Predicate

variable {p : Predicate} {ps : List Predicate} {column : String}

/-- Names in quotes, and the data of some comparisons. -/
structure Supplied (p : Predicate) (ds : List Datum) : Prop where
  columns : ∀ c ∈ p.columns, Bare c
  parameters : p.parameters = ds

/-- A set supplies its members other than null, all at once. -/
theorem supplied_ofSet (hcolumn : Bare column) (o : Operand) :
    (ofSet column o.members).Supplied (suppliedBy .inSet o) := by
  have hone : ∀ c ∈ [column], Bare c := List.forall_mem_singleton.mpr hcolumn
  have htwo : ∀ c ∈ [column, column], Bare c := List.forall_mem_cons.mpr ⟨hcolumn, hone⟩
  rw [Filter.ofSet_eq, suppliedBy]
  by_cases hempty : Filter.setData o.members = []
  · rw [if_pos hempty, if_pos (List.isEmpty_iff.mpr hempty)]
    split
    · exact ⟨hone, rfl⟩
    · exact ⟨nofun, rfl⟩
  · rw [if_neg hempty, if_neg (mt List.isEmpty_iff.mp hempty)]
    split
    · exact ⟨htwo, rfl⟩
    · exact ⟨htwo, rfl⟩

/-- A single operand is supplied as it is, or as a pattern. -/
theorem supplied_ofOne? {op : Operator} {v : Value} (hcolumn : Bare column)
    (hop : op ≠ .isNull ∧ op ≠ .inSet) (h : ofOne? column op v = .ok p) :
    p.Supplied (suppliedByOne op v) := by
  have hone : ∀ c ∈ [column], Bare c := List.forall_mem_singleton.mpr hcolumn
  have htwo : ∀ c ∈ [column, column], Bare c := List.forall_mem_cons.mpr ⟨hcolumn, hone⟩
  have htext : op.isText = (Comparison.ofOperator? op).isNone := by
    cases op <;> first | rfl | exact absurd rfl hop.1 | exact absurd rfl hop.2
  unfold ofOne? at h
  rw [suppliedByOne]
  split at h
  · rename_i heq
    cases h
    rw [if_pos ⟨.inl heq.1, heq.2⟩]
    exact ⟨hone, rfl⟩
  · rename_i hne
    split at h
    · rename_i heq
      cases h
      rw [if_pos ⟨.inr heq.1, heq.2⟩]
      exact ⟨hone, rfl⟩
    · rename_i hne'
      rw [if_neg (by tauto)]
      split at h
      · rename_i sign hsign
        cases h
        refine ⟨htwo, ?_⟩
        rw [htext, hsign]
        cases v.data <;> rfl
      · rename_i hnone
        split at h
        · rename_i s hs
          cases h
          refine ⟨htwo, ?_⟩
          simp [htext, hnone, hs, parameters, parametersOfAll]
        all_goals cases h

theorem supplied_ofCompare? {field : FieldRef} {op : Operator} {o : Operand}
    (h : ofCompare? field op o = .ok p) : p.Supplied (suppliedBy op o) := by
  obtain ⟨c, hc, h⟩ := Outcome.bind_eq_ok.mp h
  have hcolumn := bare_quote hc
  split at h
  · cases h
    exact ⟨List.forall_mem_singleton.mpr hcolumn, rfl⟩
  · cases h
    exact supplied_ofSet hcolumn o
  · split at h
    · rename_i hnull hset _ v _
      have hone : suppliedBy op (.one v) = suppliedByOne op v := by
        cases op <;> first | rfl | exact absurd rfl hnull | exact absurd rfl hset
      rw [hone]
      exact supplied_ofOne? hcolumn ⟨hnull, hset⟩ h
    · cases h

/-- Several predicates as one have the data of all of them. -/
theorem supplied_joined {empty : Predicate} {join : List Predicate → Predicate} {ds : List Datum}
    (hempty : empty.Supplied [])
    (hjoin : ∀ ps, (join ps).columns = columnsOfAll ps ∧ (join ps).parameters = parametersOfAll ps)
    (h : (conj ps).Supplied ds) : (joined empty join ps).Supplied ds := by
  match ps with
  | [] =>
    obtain ⟨-, rfl⟩ := h
    exact hempty
  | [p] =>
    obtain ⟨hcolumns, rfl⟩ := h
    constructor
    · simpa [joined, columns, columnsOfAll] using hcolumns
    · simp [joined, parameters, parametersOfAll]
  | p :: q :: ps =>
    obtain ⟨hcolumns, hparameters⟩ := h
    obtain ⟨hc, hp⟩ := hjoin (p :: q :: ps)
    constructor
    · show ∀ c ∈ (join (p :: q :: ps)).columns, Bare c
      rw [hc]
      exact hcolumns
    · exact hp.trans hparameters

mutual

/-- The predicate of a filter has the data of its comparisons, from left to right. -/
theorem supplied_ofFilter? {f : Filter} {p : Predicate} (h : ofFilter? f = .ok p) :
    p.Supplied (suppliedByFilter f) := by
  match f with
  | .compare n op o => exact supplied_ofCompare? h
  | .all fs =>
    obtain ⟨ps, hps, h⟩ := Outcome.bind_eq_ok.mp h
    cases h
    exact supplied_joined ⟨nofun, rfl⟩ (fun _ ↦ ⟨rfl, rfl⟩) (supplied_ofFilters? hps)
  | .any fs =>
    obtain ⟨ps, hps, h⟩ := Outcome.bind_eq_ok.mp h
    cases h
    exact supplied_joined ⟨nofun, rfl⟩ (fun _ ↦ ⟨rfl, rfl⟩) (supplied_ofFilters? hps)
  | .negation f =>
    obtain ⟨p, hp, h⟩ := Outcome.bind_eq_ok.mp h
    cases h
    exact ⟨(supplied_ofFilter? hp).columns, (supplied_ofFilter? hp).parameters⟩
  | .junk d => cases h

/-- So have the predicates of several filters. -/
theorem supplied_ofFilters? {fs : List Filter} {ps : List Predicate} (h : ofFilters? fs = .ok ps) :
    (conj ps).Supplied (suppliedByFilters fs) := by
  match fs with
  | [] =>
    cases h
    exact ⟨nofun, rfl⟩
  | f :: fs =>
    obtain ⟨p, hp, h⟩ := Outcome.bind_eq_ok.mp h
    obtain ⟨ps, hps, h⟩ := Outcome.bind_eq_ok.mp h
    cases h
    have hfirst := supplied_ofFilter? hp
    have hrest := supplied_ofFilters? hps
    refine ⟨List.forall_mem_append.mpr ⟨hfirst.columns, hrest.columns⟩, ?_⟩
    rw [suppliedByFilters, ← hfirst.parameters, ← hrest.parameters]
    rfl

end

end Predicate

end Sql

end RecordStore
