import RecordStore.Proofs.Sql.Supplies

/-!
# Every datum in its place

The k-th datum of a statement is the one that was supplied for its k-th place, whatever calls a
builder has taken, and so is that of the predicate of any filter.  Therefore no statement that the
library puts together fails for a wrong number of parameters.

* `Fault.isMiscount` tells such a fault, `Builder.avoids_perform?` which calls can report one.
* `Request.avoids_statement?` is the last statement above, `aligned` has all of them.
-/

namespace RecordStore

/-- Is the fault a wrong number of parameters? -/
def Fault.isMiscount : Fault → Bool
  | builder (.parameterCount ..) => true
  | builder (.valuesCount ..) => true
  | _ => false

namespace Sql

open Builder (placeholders)
open Outcome

theorem avoids_quote (context : String) (d : Datum) :
    Avoids Fault.isMiscount (quote context d) := by
  unfold quote
  split
  · split
    · exact avoids_ok _
    · exact avoids_error rfl
  · exact avoids_error rfl

/-! ## Calls -/

namespace Builder

variable {b b' : Builder} {c : Call} {calls : List Call}

theorem avoids_sequence? (d : Datum) : Avoids Fault.isMiscount (sequence? d) := by
  unfold sequence?
  split
  · exact avoids_ok _
  · exact avoids_error rfl

theorem avoids_subquery? (sql label : Datum) : Avoids Fault.isMiscount (subquery? sql label) := by
  unfold subquery?
  split
  · exact avoids_error rfl
  · split
    · dsimp only
      split
      · exact avoids_error rfl
      · exact (avoids_quote _ _).bind fun _ _ ↦ avoids_ok _
    · refine avoids_error ?_
      split <;> rfl
    · exact avoids_error rfl

theorem avoids_ordering? (column direction collate : Datum) :
    Avoids Fault.isMiscount (ordering? column direction collate) := by
  refine (avoids_quote _ _).bind fun q _ ↦ ?_
  split
  · dsimp only
    split
    · exact avoids_ok _
    · split
      · exact avoids_ok _
      · exact avoids_error rfl
  · exact avoids_error rfl
  · exact avoids_error rfl

theorem avoids_count? {fault : BuilderFault} (h : (Fault.builder fault).isMiscount = false)
    (d : Datum) : Avoids Fault.isMiscount (count? fault d) := by
  unfold count?
  split
  · split
    · exact avoids_error h
    · exact avoids_ok _
  · exact avoids_error h

/-- Is there a parameter for each place of the condition, and a value for each column? -/
def Call.Fits (b : Builder) : Call → Prop
  | .condition (.text s) ds => ∀ es, ds.elements? = some es → placeholders s.toList = es.length
  | .values ds => ∀ es, ds.elements? = some es → es.length = b.insertColumns.length
  | _ => True

theorem avoids_addCondition? {text ds : Datum} (h : (Call.condition text ds).Fits b) :
    Avoids Fault.isMiscount (b.addCondition? text ds) := by
  unfold addCondition?
  split
  · rename_i s
    dsimp only
    split
    · exact avoids_error rfl
    · refine (avoids_sequence? ds).bind fun es hes ↦ ?_
      rw [if_neg (not_not.mpr (h es (sequence?_eq_ok.mp hes)))]
      exact avoids_ok _
  · refine avoids_error ?_
    split <;> rfl
  · exact avoids_error rfl

/-- The call reports no wrong number of parameters. -/
def Effect.Quiet (e : Effect) : Prop := ∀ f, e.2 = some f → f.isMiscount = false

theorem quiet_done (b : Builder) : Effect.Quiet (b, none) := nofun

theorem quiet_fault {f : Fault} (h : f.isMiscount = false) : Effect.Quiet (b, some f) := by
  intro g hg
  cases hg
  exact h

theorem quiet_effect {o : Outcome Builder} (h : Avoids Fault.isMiscount o) :
    Effect.Quiet (b.effect o) := by
  cases o with
  | ok b' => exact quiet_done b'
  | error f => exact quiet_fault (h f rfl)

theorem quiet_starting {k : StatementKind} {rest : Builder → Effect}
    (h : Effect.Quiet (rest { b with kind := some k })) : Effect.Quiet (b.starting k rest) := by
  unfold starting start?
  obtain ⟨kind⟩ := b
  cases kind with
  | none => exact h
  | some k' =>
    dsimp only
    by_cases hk : k' = k
    · rw [if_pos hk]
      rw [← hk] at h
      exact h
    · rw [if_neg hk]
      exact quiet_fault rfl

theorem quiet_addColumns (ds : List Datum) : Effect.Quiet (b.addColumns ds) := by
  induction ds generalizing b with
  | nil => exact quiet_done b
  | cons d ds ih =>
    rw [addColumns]
    split
    · exact ih
    · rename_i hd
      exact quiet_fault (avoids_quote _ _ _ hd)

theorem quiet_addAssignments (as : Assoc Datum) : Effect.Quiet (b.addAssignments as) := by
  induction as generalizing b with
  | nil => exact quiet_done b
  | cons p as ih =>
    rw [addAssignments]
    split
    · exact ih
    · rename_i hd
      exact quiet_fault (avoids_quote _ _ _ hd)

/-- Only a call with a wrong number of parameters reports one. -/
theorem quiet_call (h : c.Fits b) : Effect.Quiet (b.call c) := by
  cases c with
  | select columns =>
    refine quiet_starting ?_
    dsimp only
    split
    · split
      · exact quiet_done _
      · exact quiet_addColumns _
    · split
      · exact quiet_addColumns _
      · exact quiet_fault rfl
  | selectCount => exact quiet_starting (quiet_done _)
  | fromTable t => exact quiet_effect ((avoids_quote _ _).bind fun _ _ ↦ avoids_ok _)
  | fromSubquery sql label => exact quiet_effect ((avoids_subquery? _ _).bind fun _ _ ↦ avoids_ok _)
  | condition text ps => exact quiet_effect (avoids_addCondition? h)
  | orderBy column direction collate =>
    exact quiet_effect ((avoids_ordering? _ _ _).bind fun _ _ ↦ avoids_ok _)
  | limit d => exact quiet_effect ((avoids_count? rfl d).bind fun _ _ ↦ avoids_ok _)
  | offset d => exact quiet_effect ((avoids_count? rfl d).bind fun _ _ ↦ avoids_ok _)
  | forUpdate =>
    rw [call]
    split
    · exact quiet_done _
    · exact quiet_fault rfl
  | insertInto table columns =>
    refine quiet_starting ?_
    dsimp only
    split
    · rename_i hd
      exact quiet_fault (avoids_quote _ _ _ hd)
    · refine quiet_effect ((avoids_sequence? _).bind fun ds _ ↦ ?_)
      exact (Avoids.mapM fun d _ ↦ avoids_quote _ d).bind fun _ _ ↦ avoids_ok _
  | values ps =>
    refine quiet_effect ?_
    dsimp only
    split
    · exact avoids_error rfl
    · refine (avoids_sequence? _).bind fun es hes ↦ ?_
      rw [if_neg (not_not.mpr (h es (sequence?_eq_ok.mp hes)))]
      exact avoids_ok _
  | update table =>
    exact quiet_starting (quiet_effect ((avoids_quote _ _).bind fun _ _ ↦ avoids_ok _))
  | set as =>
    rw [call]
    split
    · exact quiet_addAssignments as
    · exact quiet_fault rfl
  | deleteFrom table =>
    exact quiet_starting (quiet_effect ((avoids_quote _ _).bind fun _ _ ↦ avoids_ok _))

theorem avoids_perform? (h : c.Fits b) : Avoids Fault.isMiscount (b.perform? c) := by
  have hcall := quiet_call h
  rw [perform?]
  split
  · exact avoids_ok _
  · rename_i heq
    exact avoids_error (hcall _ (by rw [heq]))

/-- Calls that fit whatever came before. -/
theorem avoids_performAll? (h : ∀ c ∈ calls, ∀ b, c.Fits b) :
    Avoids Fault.isMiscount (b.performAll? calls) := by
  induction calls generalizing b with
  | nil => exact avoids_ok b
  | cons c calls ih =>
    refine (avoids_perform? (h c List.mem_cons_self b)).bind fun b' _ ↦ ?_
    exact ih fun c' hc' ↦ h c' (.tail _ hc')

theorem avoids_build? : Avoids Fault.isMiscount b.build? := by
  unfold build?
  split
  · exact avoids_error rfl
  · unfold buildSelect?
    split
    · exact avoids_error rfl
    · split
      · exact avoids_error rfl
      · exact avoids_ok _
  · unfold buildInsert?
    split
    · exact avoids_error rfl
    · split
      · exact avoids_error rfl
      · exact avoids_ok _
  · unfold buildUpdate?
    split
    · exact avoids_error rfl
    · exact avoids_ok _
  · exact avoids_ok _

end Builder

/-! ## Filters -/

namespace Predicate

theorem avoids_ofOne? (column : String) (op : Operator) (v : Value) :
    Avoids Fault.isMiscount (ofOne? column op v) := by
  unfold ofOne?
  split
  · exact avoids_ok _
  · split
    · exact avoids_ok _
    · split
      · exact avoids_ok _
      · split <;> first | exact avoids_ok _ | exact avoids_error rfl

mutual

theorem avoids_ofFilter? (f : Filter) : Avoids Fault.isMiscount (ofFilter? f) := by
  match f with
  | .compare n op o =>
    refine (avoids_quote _ _).bind fun c _ ↦ ?_
    split
    · exact avoids_ok _
    · exact avoids_ok _
    · split
      · exact avoids_ofOne? _ _ _
      · exact avoids_error rfl
  | .all fs => exact (avoids_ofFilters? fs).bind fun _ _ ↦ avoids_ok _
  | .any fs => exact (avoids_ofFilters? fs).bind fun _ _ ↦ avoids_ok _
  | .negation f => exact (avoids_ofFilter? f).bind fun _ _ ↦ avoids_ok _
  | .junk d => exact avoids_error rfl

theorem avoids_ofFilters? (fs : List Filter) : Avoids Fault.isMiscount (ofFilters? fs) := by
  match fs with
  | [] => exact avoids_ok _
  | f :: fs =>
    refine (avoids_ofFilter? f).bind fun p _ ↦ ?_
    exact (avoids_ofFilters? fs).bind fun _ _ ↦ avoids_ok _

end

/-- The predicate of a filter has a place for each of its data. -/
theorem fills_ofFilter? {f : Filter} {p : Predicate} (h : ofFilter? f = .ok p) :
    Fills p.text.toList p.parameters p.pieces :=
  p.fills (supplied_ofFilter? h).columns

end Predicate

/-! ## Statements -/

variable {s : Source} {q : Query} {f : Option Filter} {table : String} {values : Row} {b : Builder}

/-- The condition of a filter always has as many parameters as places. -/
theorem avoids_restricted? : Avoids Fault.isMiscount (restricted? b f) := by
  cases f with
  | none => exact avoids_ok b
  | some f =>
    refine (Predicate.avoids_ofFilter? f).bind fun p hp ↦ Builder.avoids_perform? ?_
    intro es hes
    cases hes
    exact (Predicate.fills_ofFilter? hp).whole.1

theorem avoids_orderedBy? {keys : List OrderKey} :
    Avoids Fault.isMiscount (orderedBy? s b keys) := by
  induction keys generalizing b with
  | nil => exact avoids_ok b
  | cons key keys ih =>
    rw [orderedBy?]
    split
    · exact avoids_error rfl
    · have hcall : (orderCall s key.field key.direction.direction).Fits b := trivial
      exact (Builder.avoids_perform? hcall).bind fun b' _ ↦ ih

theorem fits_fromSource (b : Builder) : (fromSource s).Fits b := by
  unfold fromSource
  split <;> trivial

/-- Calls that begin a statement, and the condition of a filter. -/
theorem avoids_conditional {calls : List Builder.Call} (h : ∀ c ∈ calls, ∀ b, c.Fits b) :
    Avoids Fault.isMiscount (do (← restricted? (← Builder.performAll? {} calls) f).build?) :=
  (Builder.avoids_performAll? h).bind fun _ _ ↦
    avoids_restricted?.bind fun _ _ ↦ Builder.avoids_build?

/-- The names and the values of a row are as many. -/
theorem avoids_insert? : Avoids Fault.isMiscount (insert? table values) := by
  refine Avoids.bind ?_ fun b _ ↦ Builder.avoids_build?
  have hcolumns : (Builder.Call.insertInto (.text table) (nameList values.keys)).Fits {} := trivial
  refine (Builder.avoids_perform? hcolumns).bind fun b hb ↦ ?_
  have hvalues : (Builder.Call.values (.list (values.map Prod.snd))).Fits b := by
    intro ds hds
    cases hds
    cases Builder.takes_of_perform? hb with | insertInto _ _ hcolumns hqs
    cases hcolumns
    have hnames := (Outcome.mapM_eq_ok.mp hqs).length_eq
    simpa [Assoc.keys] using hnames
  exact (Builder.avoids_perform? hvalues).bind fun b' _ ↦ avoids_ok b'

theorem avoids_plain? : Avoids Fault.isMiscount (plain? values) := by
  refine Avoids.bind (Avoids.mapM fun p _ ↦ ?_) fun _ _ ↦ avoids_ok _
  refine Avoids.bind ?_ fun _ _ ↦ avoids_ok _
  unfold Value.of?
  split <;> first | exact avoids_ok _ | exact avoids_error rfl

theorem avoids_update? : Avoids Fault.isMiscount (update? table f values) := by
  refine avoids_conditional ?_
  simp only [List.forall_mem_cons]
  exact ⟨fun _ ↦ trivial, fun _ ↦ trivial, nofun⟩

theorem avoids_delete? : Avoids Fault.isMiscount (delete? table f) := by
  refine avoids_conditional ?_
  simp only [List.forall_mem_cons]
  exact ⟨fun _ ↦ trivial, nofun⟩

theorem avoids_select? (lock : Bool) : Avoids Fault.isMiscount (select? s q lock) := by
  have hbegin (columns : Datum) :
      ∀ c ∈ [Builder.Call.select columns, fromSource s], ∀ b, c.Fits b := by
    simp only [List.forall_mem_cons]
    exact ⟨fun _ ↦ trivial, fits_fromSource, nofun⟩
  have hend : ∀ c ∈ keyCalls s q ++ pageCalls q lock, ∀ b, c.Fits b := by
    intro c hc b
    rw [pageCalls, List.mem_append, List.mem_append, List.mem_append] at hc
    rcases hc with hc | (hc | hc) | hc
    · obtain ⟨n, -, rfl⟩ := List.mem_map.mp hc
      trivial
    · obtain ⟨n, -, rfl⟩ := Option.map_eq_some_iff.mp (Option.mem_toList.mp hc)
      trivial
    · obtain ⟨n, -, rfl⟩ := Option.map_eq_some_iff.mp (Option.mem_toList.mp hc)
      trivial
    · split at hc
      · rw [List.mem_singleton.mp hc]
        trivial
      · cases hc
  refine (Builder.avoids_performAll? (hbegin _)).bind fun b _ ↦ ?_
  refine avoids_restricted?.bind fun b _ ↦ avoids_orderedBy?.bind fun b _ ↦ ?_
  exact (Builder.avoids_performAll? hend).bind fun b _ ↦ Builder.avoids_build?

/-- No statement that is asked for has a wrong number of parameters. -/
theorem Request.avoids_statement? (x : Request) : Avoids Fault.isMiscount x.statement? := by
  cases x with
  | select s q lock => exact avoids_select? lock
  | test s f =>
    refine (Builder.avoids_performAll? ?_).bind fun b _ ↦ avoids_restricted?.bind fun b _ ↦
      Builder.avoids_build?.bind fun _ _ ↦ avoids_ok _
    simp only [List.forall_mem_cons]
    exact ⟨fun _ ↦ trivial, fits_fromSource, nofun⟩
  | count s f =>
    refine avoids_conditional ?_
    simp only [List.forall_mem_cons]
    exact ⟨fun _ ↦ trivial, fits_fromSource, nofun⟩
  | insert table values => exact avoids_insert?
  | update table f values => exact avoids_update?
  | delete table f => exact avoids_delete?
  | write w =>
    cases w with
    | insert table values => exact avoids_plain?.bind fun _ _ ↦ avoids_insert?
    | update table f values => exact avoids_plain?.bind fun _ _ ↦ avoids_update?
    | delete table f => exact avoids_delete?
    | sql text ps => exact (Builder.avoids_sequence? ps).bind fun _ _ ↦ avoids_ok _
    | junk d => exact avoids_error rfl

/-- Data and places line up.  A statement that is built from calls has the data that they supplied,
in the order of the places for them, as long as no subquery has places of its own; the predicate of
a filter has those of its comparisons; and no statement that is asked for fails for their number. -/
theorem aligned :
    (∀ (calls : List Builder.Call) (b : Builder) (q : BoundSql),
      Builder.performAll? {} calls = .ok b → b.build? = .ok q →
      (∀ s label, .fromSubquery (.text s) label ∈ calls → ¬['%', 's'] <:+: s.toList) →
      placeholders q.text.toList = q.parameters.length ∧
      ∃ k, b.kind = some k ∧ q.parameters = (Builder.supplied calls).parameters k ∧
        filled q.text.toList q.parameters = (Builder.supplied calls).statement b k ∧
        (k = .insert → (Builder.supplied calls).values.length = b.insertColumns.length)) ∧
    (∀ (f : Filter) (p : Predicate), Predicate.ofFilter? f = .ok p →
      placeholders p.text.toList = p.parameters.length ∧ p.parameters = suppliedByFilter f ∧
        filled p.text.toList p.parameters = p.pieces) ∧
    ∀ (x : Request) (fault : Fault), x.statement? = .error fault → fault.isMiscount = false := by
  refine ⟨fun calls b q hcalls hbuild hsubqueries ↦ ?_, fun f p h ↦ ?_, Request.avoids_statement?⟩
  · have hnone : ∀ s label, .fromSubquery (.text s) label ∈ calls → placeholders s.toList = 0 :=
      fun s label hc ↦ placeholders_eq_zero_iff.mpr (hsubqueries s label hc)
    have hcollects := Builder.collects_nothing.run hnone hcalls
    obtain ⟨k, hkind, hfills, hparameters, hvalues⟩ := hcollects.build? hbuild
    exact ⟨hfills.whole.1, k, hkind, hparameters, hfills.whole.2, hvalues⟩
  · have hfills := Predicate.fills_ofFilter? h
    exact ⟨hfills.whole.1, (Predicate.supplied_ofFilter? h).parameters, hfills.whole.2⟩

/-- An UPDATE whose condition was given before its assignments, a filter with two comparisons, and
an INSERT of nothing. -/
theorem aligned_users :
    let calls : List Builder.Call :=
      [.update "users", .condition "\"id\" = %s" (.list [.integer 7]),
        .set [("name", .text "Jane"), ("age", .integer 30)]]
    let q : BoundSql := ⟨"UPDATE \"users\" SET \"name\" = %s, \"age\" = %s WHERE (\"id\" = %s)",
      [.text "Jane", .integer 30, .integer 7]⟩
    let f : Filter := .any [named "a", .compare (.name "age") .lt (.one ⟨.integer, .integer 9⟩)]
    (∃ b, Builder.performAll? {} calls = .ok b ∧ b.build? = .ok q ∧
      placeholders q.text.toList = 3 ∧
      q.parameters = (Builder.supplied calls).parameters .update) ∧
    (∃ p, Predicate.ofFilter? f = .ok p ∧ placeholders p.text.toList = p.parameters.length ∧
      p.parameters = [.text "%a%", .integer 9]) ∧
    ∃ fault, (Request.insert "users" []).statement? = .error fault ∧ fault.isMiscount = false := by
  intro calls q f
  obtain ⟨hbuilds, hfilters, hrequests⟩ := aligned
  refine ⟨?_, ?_, ⟨_, rfl, hrequests (.insert "users" []) _ rfl⟩⟩
  · have hcalls : ∃ b, Builder.performAll? {} calls = .ok b ∧ b.kind = some .update ∧
        b.build? = .ok q := ⟨_, rfl, rfl, rfl⟩
    obtain ⟨b, hb, hkind, hq⟩ := hcalls
    obtain ⟨hcount, k, hk, hparameters, -⟩ := hbuilds calls b q hb hq (by simp [calls])
    obtain rfl := Option.some.inj (hkind.symm.trans hk)
    exact ⟨b, hb, hq, hcount, hparameters⟩
  · have hf : ∃ p, Predicate.ofFilter? f = .ok p := ⟨_, rfl⟩
    obtain ⟨p, hp⟩ := hf
    obtain ⟨hcount, hparameters, -⟩ := hfilters f p hp
    exact ⟨p, hp, hcount, hparameters⟩

end Sql

end RecordStore
