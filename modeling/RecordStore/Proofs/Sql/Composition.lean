import RecordStore.Proofs.Sql.Quoting
import RecordStore.Proofs.Sql.Supplies

/-!
# What statements are put together from

Every statement is put together from fixed texts, the quoted forms of the names that were handed
over, and the SQL that was handed over as such: the conditions and subqueries of a builder, the read
statement of a source, the text of a raw write.  Nothing else reaches the text, whether the calls
before it went well or failed.

* `Composed` says of a text that it is put together so, and `Composed.isDotted` which names are in
  it where no line break was handed over with them.
* `Builder.Composes` says it of all parts of a builder; every call keeps it (`Composes.call`), and
  the statement that is built has it (`Composes.build?`).
* `Predicate.composed_ofFilter?` and `Request.composed_statement?` are about filters and about the
  statements that are asked for.
* `quoting_exact` has this together with the exact description of the names that are quoted.
-/

namespace RecordStore.Sql

open Builder (dropSemicolons)

/-- The fixed texts of statements. -/
def fixedTexts : List String :=
  ["", " ", ", ", "(", ")", "*", "%s", " %s", " = %s", " (", ") AS ", ") VALUES (",
    "COUNT(*) AS \"count\"", "SELECT EXISTS(", ") AS \"exists\"", "None",
    "SELECT ", "FROM ", "WHERE ", "ORDER BY ", "LIMIT %s", "OFFSET %s", "FOR UPDATE",
    "INSERT INTO ", "UPDATE ", "SET ", "DELETE FROM ",
    " COLLATE \"C\"", " ASC NULLS FIRST", " DESC NULLS LAST",
    "TRUE", "FALSE", " IS NULL", " IS NOT NULL", " COLLATE \"C\" ", " LIKE %s", " = ANY(%s)",
    "=", "<>", ">", ">=", "<", "<=", " AND ", " OR ", "(NOT "]

/-- A text that is put together from fixed texts, the quoted forms of names and given texts. -/
inductive Composed (named given : String → Prop) : String → Prop
  | fixed {s : String} (h : s ∈ fixedTexts) : Composed named given s
  | name {s q : String} (hs : named s) (h : Quotes s q) : Composed named given q
  | given {s : String} (h : given s) : Composed named given s
  | append {s t : String} (hs : Composed named given s) (ht : Composed named given t) :
    Composed named given (s ++ t)

/-- The texts among the values that stand where names are expected are all named. -/
def AllNamed (named : String → Prop) (ds : List Datum) : Prop := ∀ n, .text n ∈ ds → named n

variable {named given : String → Prop} {xs : List String} {sep s q context : String} {d : Datum}
  {ds es : List Datum}

theorem allNamed_nil : AllNamed named [] := by simp [AllNamed]

theorem allNamed_append : AllNamed named (ds ++ es) ↔ AllNamed named ds ∧ AllNamed named es := by
  simp only [AllNamed, List.mem_append]
  exact ⟨fun h ↦ ⟨fun n hn ↦ h n (.inl hn), fun n hn ↦ h n (.inr hn)⟩,
    fun h n hn ↦ hn.elim (h.1 n) (h.2 n)⟩

theorem allNamed_cons : AllNamed named (d :: ds) ↔ AllNamed named [d] ∧ AllNamed named ds := by
  rw [← allNamed_append, List.singleton_append]

@[simp] theorem allNamed_map : AllNamed named (xs.map .text) ↔ ∀ n ∈ xs, named n := by
  simp [AllNamed]

@[simp] theorem allNamed_text {n : String} : AllNamed named [.text n] ↔ named n := by
  simp [AllNamed]

namespace Composed

theorem quote (h : Sql.quote context d = .ok q) (hd : AllNamed named [d]) :
    Composed named given q := by
  obtain ⟨s, rfl, hq⟩ := quote_eq_ok_iff.mp h
  exact .name (allNamed_text.mp hd) hq

theorem mapM_quote (h : ds.mapM (Sql.quote context) = .ok xs) (hds : AllNamed named ds) :
    ∀ x ∈ xs, Composed named given x := by
  intro x hx
  obtain ⟨d, hd, hq⟩ := Outcome.exists_of_mem_mapM h hx
  refine .quote hq fun n hn ↦ hds n ?_
  rwa [List.mem_singleton.mp hn]

/-- Names without a line break are dotted plain names. -/
theorem isDotted (h : Composed named given s) (hn : ∀ n, named n → '\n' ∉ n.toList) :
    Composed IsDotted given s := by
  induction h with
  | fixed h => exact .fixed h
  | name hs h => exact .name (isDotted_iff.mpr ⟨⟨_, h⟩, hn _ hs⟩) h
  | given h => exact .given h
  | append _ _ ihs iht => exact ihs.append iht

theorem intercalate (hsep : sep ∈ fixedTexts) (h : ∀ x ∈ xs, Composed named given x) :
    Composed named given (String.intercalate sep xs) := by
  induction xs with
  | nil => exact .fixed (show "" ∈ fixedTexts by decide)
  | cons x xs ih =>
    have hx := h x List.mem_cons_self
    cases xs with
    | nil => exact hx
    | cons y ys =>
      rw [String.intercalate_cons_cons]
      exact (hx.append (.fixed hsep)).append (ih fun z hz ↦ h z (List.mem_cons_of_mem _ hz))

theorem commaSeparated (h : ∀ x ∈ xs, Composed named given x) :
    Composed named given (commaSeparated xs) := .intercalate (by decide) h

theorem spaced (h : ∀ x ∈ xs, Composed named given x) : Composed named given (Builder.spaced xs) :=
  .intercalate (by decide) h

/-- Behind a fixed text. -/
theorem after (hq : Composed named given q) (hs : s ∈ fixedTexts) : Composed named given (s ++ q) :=
  (Composed.fixed hs).append hq

/-- Before a fixed text. -/
theorem before (hq : Composed named given q) (hs : s ∈ fixedTexts) :
    Composed named given (q ++ s) :=
  hq.append (.fixed hs)

end Composed

/-! ## Predicates -/

mutual

/-- What stands where a filter expects the name of a field, from left to right. -/
def filterNames : Filter → List Datum
  | .compare field _ _ => [field.datum]
  | .all fs => filterNamesOfAll fs
  | .any fs => filterNamesOfAll fs
  | .negation f => filterNames f
  | .junk _ => []

/-- So for several filters. -/
def filterNamesOfAll : List Filter → List Datum
  | [] => []
  | f :: fs => filterNames f ++ filterNamesOfAll fs

end

namespace Predicate

variable {p : Predicate} {ps : List Predicate} {column : String}

mutual

/-- The text of a predicate has fixed texts around its columns. -/
theorem composed_text (p : Predicate) (h : ∀ c ∈ p.columns, Composed named given c) :
    Composed named given p.text := by
  match p with
  | .always => exact .fixed (by decide)
  | .never => exact .fixed (by decide)
  | .isNull c => exact (h c List.mem_cons_self).before (by decide)
  | .isNotNull c => exact (h c List.mem_cons_self).before (by decide)
  | .compare c collated op _ =>
    have hcolumn := h c List.mem_cons_self
    have hcollated : (if collated then " COLLATE \"C\" " else " ") ∈ fixedTexts := by
      split <;> decide
    have hsign : op.sign ∈ fixedTexts := by cases op <;> decide
    exact ((hcolumn.before hcollated).before hsign).before (by decide)
  | .like c _ => exact (h c List.mem_cons_self).before (by decide)
  | .equalsAny c _ => exact (h c List.mem_cons_self).before (by decide)
  | .conj ps =>
    have hparts := Composed.intercalate (by decide : " AND " ∈ fixedTexts) (composed_texts ps h)
    exact (hparts.after (by decide)).before (by decide)
  | .disj ps =>
    have hparts := Composed.intercalate (by decide : " OR " ∈ fixedTexts) (composed_texts ps h)
    exact (hparts.after (by decide)).before (by decide)
  | .negation p => exact ((composed_text p h).after (by decide)).before (by decide)

/-- So have those of several predicates. -/
theorem composed_texts (ps : List Predicate) (h : ∀ c ∈ columnsOfAll ps, Composed named given c) :
    ∀ t ∈ texts ps, Composed named given t := by
  match ps with
  | [] => exact nofun
  | p :: ps =>
    rw [columnsOfAll, List.forall_mem_append] at h
    exact List.forall_mem_cons.mpr ⟨composed_text p h.1, composed_texts ps h.2⟩

end

theorem columns_ofSet (vs : List Value) : ∀ c ∈ (ofSet column vs).columns, c = column := by
  unfold ofSet
  dsimp only
  split <;> simp [columns, columnsOfAll]

theorem columns_ofOne? {op : Operator} {v : Value} (h : ofOne? column op v = .ok p) :
    ∀ c ∈ p.columns, c = column := by
  unfold ofOne? at h
  split at h
  · cases h
    simp [columns]
  · split at h
    · cases h
      simp [columns]
    · split at h
      · cases h
        simp [columns, columnsOfAll]
      · split at h <;> cases h
        simp [columns, columnsOfAll]

/-- A comparison is about one column. -/
theorem columns_ofCompare? {field : FieldRef} {op : Operator} {o : Operand}
    (h : ofCompare? field op o = .ok p) :
    ∃ column, quote "filter field" field.datum = .ok column ∧ ∀ c ∈ p.columns, c = column := by
  obtain ⟨column, hc, h⟩ := Outcome.bind_eq_ok.mp h
  refine ⟨column, hc, ?_⟩
  split at h
  · cases h
    simp [columns]
  · cases h
    exact columns_ofSet _
  · split at h
    · exact columns_ofOne? h
    · cases h

/-- Several predicates as one have the columns of all of them. -/
theorem columns_joined {empty : Predicate} {join : List Predicate → Predicate}
    (hempty : empty.columns = []) (hjoin : ∀ ps, (join ps).columns = columnsOfAll ps)
    (ps : List Predicate) : (joined empty join ps).columns = columnsOfAll ps := by
  match ps with
  | [] => exact hempty
  | [p] => simp [joined, columnsOfAll]
  | p :: q :: ps => exact hjoin _

mutual

/-- The columns of a filter's predicate are the quoted names of its fields. -/
theorem composed_columns {f : Filter} {p : Predicate} (h : ofFilter? f = .ok p)
    (hn : AllNamed named (filterNames f)) : ∀ c ∈ p.columns, Composed named given c := by
  match f with
  | .compare field op o =>
    obtain ⟨column, hcolumn, hc⟩ := columns_ofCompare? h
    intro c hmem
    rw [hc c hmem]
    exact .quote hcolumn hn
  | .all fs =>
    obtain ⟨ps, hps, h⟩ := Outcome.bind_eq_ok.mp h
    cases h
    rw [columns_joined rfl (fun _ ↦ rfl)]
    exact composed_columnsOfAll hps hn
  | .any fs =>
    obtain ⟨ps, hps, h⟩ := Outcome.bind_eq_ok.mp h
    cases h
    rw [columns_joined rfl (fun _ ↦ rfl)]
    exact composed_columnsOfAll hps hn
  | .negation f =>
    obtain ⟨p', hp, h⟩ := Outcome.bind_eq_ok.mp h
    cases h
    show ∀ c ∈ p'.columns, Composed named given c
    exact composed_columns hp hn
  | .junk d => cases h

/-- So are those of the predicates of several filters. -/
theorem composed_columnsOfAll {fs : List Filter} {ps : List Predicate}
    (h : ofFilters? fs = .ok ps) (hn : AllNamed named (filterNamesOfAll fs)) :
    ∀ c ∈ columnsOfAll ps, Composed named given c := by
  match fs with
  | [] =>
    cases h
    exact nofun
  | f :: fs =>
    obtain ⟨p, hp, h⟩ := Outcome.bind_eq_ok.mp h
    obtain ⟨ps, hps, h⟩ := Outcome.bind_eq_ok.mp h
    cases h
    rw [filterNamesOfAll, allNamed_append] at hn
    exact List.forall_mem_append.mpr
      ⟨composed_columns hp hn.1, composed_columnsOfAll hps hn.2⟩

end

/-- The condition of a filter has no text but fixed ones and the quoted names of its fields. -/
theorem composed_ofFilter? {f : Filter} (h : ofFilter? f = .ok p)
    (hn : AllNamed named (filterNames f)) : Composed named given p.text :=
  composed_text p (composed_columns h hn)

end Predicate

/-! ## Builders -/

namespace Builder

/-- A subquery as it is written: without the blanks around it and the semicolons at its end. -/
def trimmed (sql : String) : String := String.ofList (dropSemicolons (Text.strip sql.toList))

/-- The SQL that a call hands over. -/
def Call.given? : Call → Option String
  | .condition (.text s) _ => some s
  | .fromSubquery (.text s) _ => some (trimmed s)
  | _ => none

/-- What stands where a call expects names. -/
def Call.names : Call → List Datum
  | .select (.text s) => if Text.strip s.toList = ['*'] then [] else [.text s]
  | .select columns => columns.elements?.getD []
  | .fromTable table => [table]
  | .fromSubquery _ label => [label]
  | .orderBy column _ _ => [column]
  | .insertInto table columns => table :: columns.elements?.getD []
  | .update table => [table]
  | .set assignments => assignments.keys.map .text
  | .deleteFrom table => [table]
  | _ => []

/-- What the call hands over is named and given. -/
structure Call.Within (named given : String → Prop) (c : Call) : Prop where
  names : AllNamed named c.names
  given : ∀ s ∈ c.given?, Composed named given s

/-- The name stands where one of the calls expects a name. -/
def Named (calls : List Call) (n : String) : Prop := ∃ c ∈ calls, .text n ∈ c.names

/-- The text is the SQL that one of the calls hands over. -/
def Given (calls : List Call) (s : String) : Prop := ∃ c ∈ calls, c.given? = some s

/-- Makes calls one after another, whether they go well or fail. -/
def callAll (b : Builder) (calls : List Call) : Builder := calls.foldl (fun b c ↦ (b.call c).1) b

/-- All parts of the builder are put together from fixed texts, quoted names and given texts. -/
structure Composes (named given : String → Prop) (b : Builder) : Prop where
  columns : ∀ c ∈ b.columns, Composed named given c
  source : ∀ s ∈ b.source, Composed named given s
  conditions : ∀ c ∈ b.conditions, Composed named given c
  orderings : ∀ o ∈ b.orderings, Composed named given o
  table : Composed named given b.table
  insertColumns : ∀ c ∈ b.insertColumns, Composed named given c
  assignments : ∀ a ∈ b.assignments, Composed named given a

variable {b b' : Builder} {c : Call} {calls : List Call} {r : BoundSql}

theorem composes_empty : Composes named given {} where
  columns := nofun
  source := nofun
  conditions := nofun
  orderings := nofun
  table := .fixed (by decide)
  insertColumns := nofun
  assignments := nofun

/-- A call that changes all or nothing. -/
theorem Composes.effect {o : Outcome Builder} (h : b.Composes named given)
    (ho : ∀ b', o = .ok b' → b'.Composes named given) : (b.effect o).1.Composes named given := by
  cases o with
  | ok b' => exact ho b' rfl
  | error f => exact h

/-- A call that begins a statement or goes on with it. -/
theorem Composes.starting {k : StatementKind} {rest : Builder → Effect} (h : b.Composes named given)
    (hrest : ∀ b' : Builder, b'.Composes named given → (rest b').1.Composes named given) :
    (b.starting k rest).1.Composes named given := by
  unfold Builder.starting start?
  split
  · rename_i b' hb'
    refine hrest b' ?_
    split at hb'
    · split at hb'
      · cases hb'
        exact h
      · cases hb'
    · cases hb'
      exact { h with }
  · exact h

theorem Composes.addColumns (h : b.Composes named given) (hn : AllNamed named ds) :
    (b.addColumns ds).1.Composes named given := by
  induction ds generalizing b with
  | nil => exact h
  | cons d ds ih =>
    rw [allNamed_cons] at hn
    rw [Builder.addColumns]
    split
    · rename_i q hq
      have hcolumns := forall_mem_concat h.columns (.quote hq hn.1)
      exact ih { h with columns := hcolumns } hn.2
    · exact h

theorem Composes.addAssignments {as : Assoc Datum} (h : b.Composes named given)
    (hn : AllNamed named (as.keys.map .text)) : (b.addAssignments as).1.Composes named given := by
  induction as generalizing b with
  | nil => exact h
  | cons p as ih =>
    obtain ⟨n, d⟩ := p
    obtain ⟨hfirst, hrest⟩ := allNamed_cons.mp hn
    rw [Builder.addAssignments]
    split
    · rename_i q hq
      have ha : Composed named given (q ++ " = %s") :=
        (Composed.quote hq hfirst).before (by decide)
      exact ih { h with assignments := forall_mem_concat h.assignments ha } hrest
    · exact h

theorem composed_subquery? {sql label : Datum} (h : subquery? sql label = .ok s)
    (hn : AllNamed named [label])
    (hg : ∀ t, sql = .text t → Composed named given (trimmed t)) : Composed named given s := by
  unfold subquery? at h
  split at h
  · cases h
  · split at h
    · rename_i t _
      dsimp only at h
      split at h
      · cases h
      · obtain ⟨a, ha, h⟩ := Outcome.bind_eq_ok.mp h
        cases h
        exact (((hg t rfl).after (by decide)).before (by decide)).append (.quote ha hn)
    · cases h
    · cases h

theorem composed_ordering? {column direction collate : Datum}
    (h : ordering? column direction collate = .ok s) (hn : AllNamed named [column]) :
    Composed named given s := by
  obtain ⟨q, hq, h⟩ := Outcome.bind_eq_ok.mp h
  have hcollation : (if collate.isTruthy then " COLLATE \"C\"" else "") ∈ fixedTexts := by
    split <;> decide
  have hname : Composed named given q := .quote hq hn
  split at h
  · dsimp only at h
    split at h
    · cases h
      exact (hname.before hcollation).before (by decide)
    · split at h
      · cases h
        exact (hname.before hcollation).before (by decide)
      · cases h
  · cases h
  · cases h

/-- A SELECT has the columns that were added before the first that is no name. -/
theorem Composes.select {columns : Datum} (h : b.Composes named given)
    (hn : AllNamed named (Call.select columns).names) :
    (b.call (.select columns)).1.Composes named given := by
  refine h.starting fun b h ↦ ?_
  split
  · split
    · exact { h with columns := forall_mem_concat h.columns (.fixed (by decide)) }
    · rename_i hall
      rw [Call.names, if_neg hall] at hn
      exact h.addColumns hn
  · rename_i hcolumns
    split
    · rename_i ds hds
      rw [Call.names, hds] at hn
      · exact h.addColumns hn
      · exact hcolumns
    · exact h

/-- An INSERT has its table, also where its columns are refused. -/
theorem Composes.insertInto {table columns : Datum} (h : b.Composes named given)
    (hn : AllNamed named (Call.insertInto table columns).names) :
    (b.call (.insertInto table columns)).1.Composes named given := by
  obtain ⟨htable, hcolumns⟩ := allNamed_cons.mp hn
  refine h.starting fun b h ↦ ?_
  dsimp only
  split
  · exact h
  · rename_i q hq
    have hbegun : ({ b with table := q } : Builder).Composes named given :=
      { h with table := .quote hq htable }
    refine hbegun.effect fun b' hb' ↦ ?_
    obtain ⟨ds, hds, hb'⟩ := Outcome.bind_eq_ok.mp hb'
    obtain ⟨qs, hqs, hb'⟩ := Outcome.bind_eq_ok.mp hb'
    cases hb'
    rw [sequence?_eq_ok.mp hds] at hcolumns
    exact { hbegun with insertColumns := Composed.mapM_quote hqs hcolumns }

/-- Every call leaves a builder behind that is put together so, also where it fails half-way. -/
theorem Composes.call (h : b.Composes named given) (hc : c.Within named given) :
    (b.call c).1.Composes named given := by
  obtain ⟨hn, hg⟩ := hc
  cases c with
  | select columns => exact h.select hn
  | selectCount =>
    refine h.starting fun b h ↦ ?_
    exact { h with columns := forall_mem_concat h.columns (.fixed (by decide)) }
  | fromTable t =>
    refine h.effect fun b' hb' ↦ ?_
    obtain ⟨q, hq, hb'⟩ := Outcome.bind_eq_ok.mp hb'
    cases hb'
    have hsource : Composed named given q := .quote hq hn
    exact { h with source := by simpa using hsource }
  | fromSubquery sql label =>
    refine h.effect fun b' hb' ↦ ?_
    obtain ⟨q, hq, hb'⟩ := Outcome.bind_eq_ok.mp hb'
    cases hb'
    have hsource : Composed named given q :=
      composed_subquery? hq hn fun t ht ↦ hg _ (by rw [ht]; rfl)
    exact { h with source := by simpa using hsource }
  | condition text ps =>
    refine h.effect fun b' hb' ↦ ?_
    cases takes_addCondition? hb' with | @condition s
    exact { h with conditions := forall_mem_concat h.conditions (hg s rfl) }
  | orderBy column direction collate =>
    refine h.effect fun b' hb' ↦ ?_
    obtain ⟨o, ho, hb'⟩ := Outcome.bind_eq_ok.mp hb'
    cases hb'
    exact { h with orderings := forall_mem_concat h.orderings (composed_ordering? ho hn) }
  | limit d =>
    refine h.effect fun b' hb' ↦ ?_
    obtain ⟨n, -, hb'⟩ := Outcome.bind_eq_ok.mp hb'
    cases hb'
    exact { h with }
  | offset d =>
    refine h.effect fun b' hb' ↦ ?_
    obtain ⟨n, -, hb'⟩ := Outcome.bind_eq_ok.mp hb'
    cases hb'
    exact { h with }
  | forUpdate =>
    rw [Builder.call]
    split
    · exact { h with }
    · exact h
  | insertInto t columns => exact h.insertInto hn
  | values ps =>
    refine h.effect fun b' hb' ↦ ?_
    cases takes_values (effect_eq.mpr hb')
    exact { h with }
  | update t =>
    refine h.starting fun b h ↦ h.effect fun b' hb' ↦ ?_
    obtain ⟨q, hq, hb'⟩ := Outcome.bind_eq_ok.mp hb'
    cases hb'
    exact { h with table := .quote hq hn }
  | set as =>
    rw [Builder.call]
    split
    · exact h.addAssignments hn
    · exact h
  | deleteFrom t =>
    refine h.starting fun b h ↦ h.effect fun b' hb' ↦ ?_
    obtain ⟨q, hq, hb'⟩ := Outcome.bind_eq_ok.mp hb'
    cases hb'
    exact { h with table := .quote hq hn }

theorem Composes.callAll (h : b.Composes named given)
    (hc : ∀ c ∈ calls, c.Within named given) : (b.callAll calls).Composes named given := by
  induction calls generalizing b with
  | nil => exact h
  | cons c calls ih =>
    have hfirst := h.call (hc c List.mem_cons_self)
    exact ih hfirst fun c' hc' ↦ hc c' (List.mem_cons_of_mem _ hc')

theorem Composes.perform? (h : b.Composes named given) (hc : c.Within named given)
    (hb : b.perform? c = .ok b') : b'.Composes named given := by
  have hcall := h.call hc
  rw [perform?_eq_ok.mp hb] at hcall
  exact hcall

theorem Composes.performAll? (h : b.Composes named given)
    (hc : ∀ c ∈ calls, c.Within named given) (hb : b.performAll? calls = .ok b') :
    b'.Composes named given := by
  induction calls generalizing b with
  | nil =>
    cases hb
    exact h
  | cons c calls ih =>
    obtain ⟨b₁, hb₁, hb⟩ := Outcome.bind_eq_ok.mp hb
    have hfirst := h.perform? (hc c List.mem_cons_self) hb₁
    exact ih hfirst (fun c' hc' ↦ hc c' (List.mem_cons_of_mem _ hc')) hb

theorem Composes.conditionPart (h : b.Composes named given) :
    ∀ t ∈ b.conditionPart, Composed named given t := by
  unfold Builder.conditionPart
  split
  · exact nofun
  · refine List.forall_mem_singleton.mpr (Composed.after (.intercalate (by decide) ?_) (by decide))
    intro t ht
    obtain ⟨c, hc, rfl⟩ := List.mem_map.mp ht
    exact ((h.conditions c hc).after (by decide)).before (by decide)

theorem Composes.buildSelect? (h : b.Composes named given) (hr : b.buildSelect? = .ok r) :
    Composed named given r.text := by
  unfold Builder.buildSelect? at hr
  split at hr
  · cases hr
  · split at hr
    · cases hr
    · rename_i source hsource
      cases hr
      have optional {p : Bool} {t : String} (ht : Composed named given t) :
          ∀ x ∈ (if p then [t] else []), Composed named given x := by
        split
        · exact List.forall_mem_singleton.mpr ht
        · exact nofun
      have horder : ∀ x ∈ (if b.orderings.isEmpty then []
          else ["ORDER BY " ++ RecordStore.commaSeparated b.orderings]),
          Composed named given x := by
        split
        · exact nofun
        · have hkeys := Composed.commaSeparated h.orderings
          exact List.forall_mem_singleton.mpr (hkeys.after (by decide))
      have hcolumns : Composed named given ("SELECT " ++ RecordStore.commaSeparated b.columns) :=
        (Composed.commaSeparated h.columns).after (by decide)
      have hfrom := (h.source source hsource).after (by decide : "FROM " ∈ fixedTexts)
      dsimp only
      refine Composed.spaced ?_
      simp only [List.forall_mem_append, List.forall_mem_cons]
      exact ⟨⟨⟨⟨⟨⟨hcolumns, hfrom, nofun⟩, h.conditionPart⟩, horder⟩,
        optional (.fixed (by decide))⟩, optional (.fixed (by decide))⟩,
        optional (.fixed (by decide))⟩

theorem Composes.buildInsert? (h : b.Composes named given) (hr : b.buildInsert? = .ok r) :
    Composed named given r.text := by
  unfold Builder.buildInsert? at hr
  split at hr
  · cases hr
  · split at hr
    · cases hr
    · cases hr
      have hslots : ∀ x ∈ b.insertColumns.map fun _ ↦ "%s", Composed named given x := by
        intro x hx
        obtain ⟨_, -, rfl⟩ := List.mem_map.mp hx
        exact .fixed (by decide)
      have hcolumns := Composed.commaSeparated h.insertColumns
      have htable := ((h.table.after (by decide : "INSERT INTO " ∈ fixedTexts)).before
        (by decide : " (" ∈ fixedTexts)).append hcolumns
      exact ((htable.before (by decide)).append (.commaSeparated hslots)).before (by decide)

theorem Composes.buildUpdate? (h : b.Composes named given) (hr : b.buildUpdate? = .ok r) :
    Composed named given r.text := by
  unfold Builder.buildUpdate? at hr
  split at hr
  · cases hr
  · cases hr
    have hassignments := Composed.commaSeparated h.assignments
    dsimp only
    refine Composed.spaced ?_
    simp only [List.forall_mem_append, List.forall_mem_cons]
    exact ⟨⟨h.table.after (by decide), hassignments.after (by decide), nofun⟩, h.conditionPart⟩

theorem Composes.buildDelete (h : b.Composes named given) :
    Composed named given b.buildDelete.text := by
  rw [Builder.buildDelete]
  dsimp only
  refine Composed.spaced ?_
  simp only [List.forall_mem_cons]
  exact ⟨h.table.after (by decide), h.conditionPart⟩

/-- The statement that is built is put together so. -/
theorem Composes.build? (h : b.Composes named given) (hr : b.build? = .ok r) :
    Composed named given r.text := by
  unfold Builder.build? at hr
  split at hr
  · cases hr
  · exact h.buildSelect? hr
  · exact h.buildInsert? hr
  · exact h.buildUpdate? hr
  · cases hr
    exact h.buildDelete

end Builder

/-! ## Statements that are asked for -/

open Builder (trimmed)

variable {b b' : Builder} {f : Option Filter} {src : Source} {r : BoundSql} {table : String}
  {values : Row}

/-- What stands where the condition of a statement expects names. -/
def conditionNames (f : Option Filter) : List Datum := f.elim [] filterNames

/-- What stands where the reading of a source expects names: the table and its columns, or the
alias of the source's own SQL. -/
def sourceNames (s : Source) : List Datum :=
  (if s.sql?.isSome then ["q"] else s.table :: s.fields.keys).map .text

/-- What stands where a statement that is asked for expects names. -/
def Request.names : Request → List Datum
  | select s q _ => sourceNames s ++ conditionNames q.condition ++
      q.ordering.map (·.field.datum) ++ s.key.map .text
  | test s f => sourceNames s ++ conditionNames f
  | count s f => sourceNames s ++ conditionNames f
  | insert table values => (table :: values.keys).map .text
  | update table f values => (table :: values.keys).map .text ++ conditionNames f
  | delete table f => .text table :: conditionNames f
  | write (.insert table values) => (table :: values.keys).map .text
  | write (.update table f values) => (table :: values.keys).map .text ++ filterNames f
  | write (.delete table f) => .text table :: filterNames f
  | write _ => []

/-- The SQL that is handed over with what is asked for: that of the source, or that of a raw
write. -/
def Request.given? : Request → Option String
  | select s _ _ => s.sql?.map trimmed
  | test s _ => s.sql?.map trimmed
  | count s _ => s.sql?.map trimmed
  | write (.sql text _) => some text
  | _ => none

/-- A call that hands over no SQL. -/
theorem within_of_none {c : Builder.Call} (hc : c.given? = none) (hn : AllNamed named c.names) :
    c.Within named given where
  names := hn
  given := by simp [hc]

theorem composes_restricted? (h : b.Composes named given) (hb : restricted? b f = .ok b')
    (hn : AllNamed named (conditionNames f)) : b'.Composes named given := by
  cases f with
  | none =>
    cases hb
    exact h
  | some f =>
    obtain ⟨p, hp, hb⟩ := Outcome.bind_eq_ok.mp hb
    refine h.perform? ⟨allNamed_nil, fun s hs ↦ ?_⟩ hb
    obtain rfl := Option.some.inj hs
    exact Predicate.composed_ofFilter? hp hn

theorem composes_orderedBy? {keys : List OrderKey} (h : b.Composes named given)
    (hb : orderedBy? src b keys = .ok b')
    (hn : AllNamed named (keys.map (·.field.datum))) : b'.Composes named given := by
  induction keys generalizing b with
  | nil =>
    cases hb
    exact h
  | cons key keys ih =>
    obtain ⟨hfirst, hrest⟩ := allNamed_cons.mp hn
    rw [orderedBy?] at hb
    split at hb
    · cases hb
    · obtain ⟨b₁, hb₁, hb⟩ := Outcome.bind_eq_ok.mp hb
      have hcall : (orderCall src key.field key.direction.direction).Within named given :=
        within_of_none rfl hfirst
      exact ih (h.perform? hcall hb₁) hb hrest

theorem within_fromSource (hn : AllNamed named (sourceNames src)) :
    (fromSource src).Within named (· ∈ src.sql?.map trimmed) := by
  unfold fromSource
  rw [sourceNames] at hn
  split
  · rename_i sql hsql
    rw [hsql] at hn
    constructor
    · exact hn
    · intro s hs
      obtain rfl := Option.some.inj hs
      exact .given (by simp [hsql])
  · rename_i hsql
    rw [hsql] at hn
    exact within_of_none rfl (allNamed_cons.mp hn).1

/-- The columns of a source are those of its table, or all that its own SQL gives. -/
theorem within_columns (hn : AllNamed named (sourceNames src)) : (Builder.Call.select
    (if src.sql?.isSome then .text "*" else nameList src.fields.keys)).Within named given := by
  refine within_of_none rfl ?_
  rw [sourceNames] at hn
  split
  · simp [AllNamed, Builder.Call.names, show Text.strip ['*'] = ['*'] by decide]
  · rename_i hsql
    rw [if_neg hsql] at hn
    exact (allNamed_cons.mp hn).2

/-- A statement that reads a source has begun. -/
theorem composes_begun {c : Builder.Call}
    (hc : c.Within named (· ∈ src.sql?.map trimmed)) (hn : AllNamed named (sourceNames src))
    (hb : Builder.performAll? {} [c, fromSource src] = .ok b) :
    b.Composes named (· ∈ src.sql?.map trimmed) := by
  refine Builder.composes_empty.performAll? ?_ hb
  simp only [List.forall_mem_cons]
  exact ⟨hc, within_fromSource hn, nofun⟩

theorem within_pageCalls {q : Query} {lock : Bool} {c : Builder.Call}
    (hc : c ∈ pageCalls q lock) : c.Within named given := by
  rw [pageCalls, List.mem_append, List.mem_append] at hc
  rcases hc with (hc | hc) | hc
  · obtain ⟨n, -, rfl⟩ := Option.map_eq_some_iff.mp (Option.mem_toList.mp hc)
    exact within_of_none rfl allNamed_nil
  · obtain ⟨n, -, rfl⟩ := Option.map_eq_some_iff.mp (Option.mem_toList.mp hc)
    exact within_of_none rfl allNamed_nil
  · split at hc
    · rw [List.mem_singleton.mp hc]
      exact within_of_none rfl allNamed_nil
    · cases hc

theorem within_keyCalls {q : Query} {c : Builder.Call} (hc : c ∈ keyCalls src q)
    (hn : ∀ n ∈ src.key, named n) : c.Within named given := by
  obtain ⟨n, hm, rfl⟩ := List.mem_map.mp hc
  exact within_of_none rfl (allNamed_text.mpr (hn n (List.mem_filter.mp hm).1))

theorem composed_select? {q : Query} {lock : Bool} (h : select? src q lock = .ok r)
    (hn : AllNamed named (Request.select src q lock).names) :
    Composed named (· ∈ src.sql?.map trimmed) r.text := by
  simp only [Request.names, allNamed_append, allNamed_map] at hn
  obtain ⟨⟨⟨hsource, hcondition⟩, hordering⟩, hkey⟩ := hn
  obtain ⟨b₁, hb₁, h⟩ := Outcome.bind_eq_ok.mp h
  obtain ⟨b₂, hb₂, h⟩ := Outcome.bind_eq_ok.mp h
  obtain ⟨b₃, hb₃, h⟩ := Outcome.bind_eq_ok.mp h
  obtain ⟨b₄, hb₄, h⟩ := Outcome.bind_eq_ok.mp h
  have hbegun := composes_begun (within_columns hsource) hsource hb₁
  have hrestricted := composes_restricted? hbegun hb₂ hcondition
  have hordered := composes_orderedBy? hrestricted hb₃ hordering
  refine (hordered.performAll? ?_ hb₄).build? h
  intro c hc
  rcases List.mem_append.mp hc with hc | hc
  · exact within_keyCalls hc hkey
  · exact within_pageCalls hc

theorem composed_insert? (h : insert? table values = .ok r)
    (hn : AllNamed named ((table :: values.keys).map .text)) : Composed named given r.text := by
  obtain ⟨b, hb, h⟩ := Outcome.bind_eq_ok.mp h
  refine (Builder.composes_empty.performAll? ?_ hb).build? h
  simp only [List.forall_mem_cons]
  exact ⟨within_of_none rfl hn, within_of_none rfl allNamed_nil, nofun⟩

theorem composed_update? (h : update? table f values = .ok r)
    (hn : AllNamed named ((table :: values.keys).map .text))
    (hf : AllNamed named (conditionNames f)) : Composed named given r.text := by
  obtain ⟨htable, hcolumns⟩ := allNamed_cons.mp hn
  obtain ⟨b, hb, h⟩ := Outcome.bind_eq_ok.mp h
  obtain ⟨b', hb', h⟩ := Outcome.bind_eq_ok.mp h
  refine (composes_restricted? (Builder.composes_empty.performAll? ?_ hb) hb' hf).build? h
  simp only [List.forall_mem_cons]
  exact ⟨within_of_none rfl htable, within_of_none rfl hcolumns, nofun⟩

theorem composed_delete? (h : delete? table f = .ok r)
    (hn : AllNamed named (.text table :: conditionNames f)) : Composed named given r.text := by
  obtain ⟨htable, hf⟩ := allNamed_cons.mp hn
  obtain ⟨b, hb, h⟩ := Outcome.bind_eq_ok.mp h
  obtain ⟨b', hb', h⟩ := Outcome.bind_eq_ok.mp h
  refine (composes_restricted? (Builder.composes_empty.performAll? ?_ hb) hb' hf).build? h
  simp only [List.forall_mem_cons]
  exact ⟨within_of_none rfl htable, nofun⟩

/-- A write that a hook asks for. -/
theorem composed_write? {w : WriteStatement} (h : write? w = .ok r)
    (hn : AllNamed named (Request.write w).names) :
    Composed named (· ∈ (Request.write w).given?) r.text := by
  have given?_names (f : Filter) (hf : AllNamed named (filterNames f)) :
      AllNamed named (conditionNames f.given?) := by
    unfold Filter.given?
    split
    · exact allNamed_nil
    · exact hf
  cases w with
  | insert table values =>
    obtain ⟨vs, hvs, h⟩ := Outcome.bind_eq_ok.mp h
    refine composed_insert? h ?_
    rw [keys_plain? hvs]
    exact hn
  | update table f values =>
    obtain ⟨hn, hf⟩ := allNamed_append.mp hn
    obtain ⟨vs, hvs, h⟩ := Outcome.bind_eq_ok.mp h
    refine composed_update? h ?_ (given?_names f hf)
    rw [keys_plain? hvs]
    exact hn
  | delete table f =>
    obtain ⟨hn, hf⟩ := allNamed_cons.mp hn
    exact composed_delete? h (allNamed_cons.mpr ⟨hn, given?_names f hf⟩)
  | sql text ps =>
    obtain ⟨ds, -, h⟩ := Outcome.bind_eq_ok.mp h
    cases h
    exact .given rfl
  | junk d => cases h

/-- No text reaches a statement but fixed texts, the quoted names and the SQL that is handed over
with what is asked for. -/
theorem Request.composed_statement? {x : Request} (h : x.statement? = .ok r)
    (hn : AllNamed named x.names) : Composed named (· ∈ x.given?) r.text := by
  have hall : (Builder.Call.select (.text "*")).names = [] := by decide
  cases x with
  | select s q lock => exact composed_select? h hn
  | test s f =>
    obtain ⟨hsource, hf⟩ := allNamed_append.mp hn
    obtain ⟨b, hb, h⟩ := Outcome.bind_eq_ok.mp h
    obtain ⟨b', hb', h⟩ := Outcome.bind_eq_ok.mp h
    obtain ⟨inner, hinner, h⟩ := Outcome.bind_eq_ok.mp h
    cases h
    have hc : (Builder.Call.select (.text "*")).Within named (· ∈ s.sql?.map trimmed) :=
      within_of_none rfl (hall ▸ allNamed_nil)
    have hread := (composes_restricted? (composes_begun hc hsource hb) hb' hf).build? hinner
    exact (hread.after (by decide)).before (by decide)
  | count s f =>
    obtain ⟨hsource, hf⟩ := allNamed_append.mp hn
    obtain ⟨b, hb, h⟩ := Outcome.bind_eq_ok.mp h
    obtain ⟨b', hb', h⟩ := Outcome.bind_eq_ok.mp h
    have hc : Builder.Call.selectCount.Within named (· ∈ s.sql?.map trimmed) :=
      within_of_none rfl allNamed_nil
    exact (composes_restricted? (composes_begun hc hsource hb) hb' hf).build? h
  | insert table values => exact composed_insert? h hn
  | update table f values =>
    obtain ⟨hn, hf⟩ := allNamed_append.mp hn
    exact composed_update? h hn hf
  | delete table f => exact composed_delete? h hn
  | write w => exact composed_write? h hn

/-- Quoting is exact at every value but the texts that end a part with a line break.  It adds the
quotes around the parts of a name and nothing else.  In the text of a statement, whatever calls a
builder has taken and whatever is asked for, there are fixed texts, the SQL that was handed over
and the quoted forms of the names that were; where none of these holds a line break, they are dotted
plain names. -/
theorem quoting_exact (context : String) (d : Datum) (calls : List Builder.Call) (x : Request) :
    (QuotedExactly context d ↔ ∀ s q, d = .text s → Quotes s q → '\n' ∉ s.toList) ∧
    (∀ q, quote context d = .ok q ↔ ∃ s, d = .text s ∧ Quotes s q ∧ withoutQuotes q = s) ∧
    (∀ r, (Builder.callAll {} calls).build? = .ok r →
      Composed (Builder.Named calls) (Builder.Given calls) r.text ∧
        ((∀ n, Builder.Named calls n → '\n' ∉ n.toList) →
          Composed IsDotted (Builder.Given calls) r.text)) ∧
    ∀ r, x.statement? = .ok r →
      Composed (.text · ∈ x.names) (· ∈ x.given?) r.text ∧
        ((∀ n, .text n ∈ x.names → '\n' ∉ n.toList) →
          Composed IsDotted (· ∈ x.given?) r.text) := by
  refine ⟨quotedExactly_iff, fun q ↦ ?_, fun r hr ↦ ?_, fun r hr ↦ ?_⟩
  · rw [quote_eq_ok_iff]
    constructor
    · rintro ⟨s, hs, hq⟩
      exact ⟨s, hs, hq, hq.withoutQuotes_eq⟩
    · rintro ⟨s, hs, hq, -⟩
      exact ⟨s, hs, hq⟩
  · have hcalls : ∀ c ∈ calls, c.Within (Builder.Named calls) (Builder.Given calls) :=
      fun c hc ↦ ⟨fun n hn ↦ ⟨c, hc, hn⟩, fun s hs ↦ .given ⟨c, hc, hs⟩⟩
    have htext := (Builder.composes_empty.callAll hcalls).build? hr
    exact ⟨htext, htext.isDotted⟩
  · have htext := Request.composed_statement? hr fun n hn ↦ hn
    exact ⟨htext, htext.isDotted⟩

/-- A table in a schema, and a statement that is built after a call that failed half-way. -/
theorem quoting_exact_users :
    let calls : List Builder.Call :=
      [.select (nameList ["id", "na me"]), .fromTable "public.users"]
    let r : BoundSql := ⟨"SELECT \"id\" FROM \"public\".\"users\"", []⟩
    QuotedExactly "table" "public.users" ∧ (Builder.callAll {} calls).build? = .ok r ∧
      Composed IsDotted (Builder.Given calls) r.text := by
  intro calls r
  obtain ⟨hexact, -, hbuilds, -⟩ :=
    quoting_exact "table" "public.users" calls (.delete "users" none)
  have hr : (Builder.callAll {} calls).build? = .ok r := rfl
  refine ⟨hexact.mpr ?_, hr, (hbuilds r hr).2 ?_⟩
  · rintro s q hs -
    obtain rfl := Datum.text.inj hs
    decide
  · rintro n ⟨c, hc, hn⟩
    simp only [calls, List.mem_cons, List.not_mem_nil, or_false] at hc
    rcases hc with rfl | rfl
    · obtain ⟨m, hm, hn⟩ := List.mem_map.mp (show .text n ∈ ["id", "na me"].map Datum.text from hn)
      obtain rfl := Datum.text.inj hn
      simp only [List.mem_cons, List.not_mem_nil, or_false] at hm
      rcases hm with rfl | rfl <;> decide
    · obtain rfl := Datum.text.inj (List.mem_singleton.mp hn)
      decide

/-- A name with a line break at its end is quoted, although it is no dotted plain name. -/
theorem quote_lineBreak :
    quote "identifier" "users\n" = .ok "\"users\n\"" ∧ ¬IsDotted "users\n" ∧
      ¬QuotedExactly "identifier" "users\n" := by
  have hq : quote "identifier" "users\n" = .ok "\"users\n\"" := rfl
  have hbreak : '\n' ∈ "users\n".toList := by decide
  refine ⟨hq, fun h ↦ (isDotted_iff.mp h).2 hbreak, fun h ↦ ?_⟩
  obtain ⟨s, hs, hquotes⟩ := quote_eq_ok_iff.mp hq
  obtain rfl := Datum.text.inj hs
  exact quotedExactly_iff.mp h _ _ rfl hquotes hbreak

end RecordStore.Sql
