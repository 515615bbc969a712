import RecordStore.Proofs.Memory.Client
import RecordStore.Proofs.Memory.Keyed

/-!
# Uniqueness of keys

Once a key and a shape are declared of a table, before it has any row, no two of its rows ever have
equal keys and no key is null, whatever calls, statements and transactions follow.  Hence an insert
is refused for its key exactly if the key is null in part or stored already, and an update exactly
if it would leave such keys.

* `Deed` is one thing that happens to the memory, and `Memory.Reached` is a run of them.
* `Memory.Reached.keyed` is what every state of a run keeps, the records to which a transaction may
  return included.
* `Memory.Reached.keys_unique` is the statement above.
-/

namespace RecordStore

open Outcome

/-! ## Refusals -/

namespace Outcome

variable {α : Type} {x : Outcome α}

/-- The outcome is a broken constraint. -/
def Violates (x : Outcome α) : Prop := ∃ f, x = .error f ∧ f.isConstraint = true

/-- The outcome is a result or a broken constraint. -/
def Decided (x : Outcome α) : Prop := (∃ a, x = .ok a) ∨ x.Violates

instance (x : Outcome α) : Decidable x.Violates :=
  match x with
  | .ok _ => isFalse fun h ↦ by obtain ⟨f, hf, -⟩ := h; cases hf
  | .error f => decidable_of_iff (f.isConstraint = true)
      ⟨fun h ↦ ⟨f, rfl, h⟩, fun ⟨_, hg, h⟩ ↦ by cases hg; exact h⟩

instance (x : Outcome α) : Decidable x.Decided :=
  match x with
  | .ok a => isTrue (.inl ⟨a, rfl⟩)
  | .error f => decidable_of_iff (Violates (.error f : Outcome α))
      ⟨.inr, fun h ↦ h.resolve_left fun ⟨_, ha⟩ ↦ by cases ha⟩

theorem not_decided_of_error {f : Fault} (h : f.isConstraint = false) :
    ¬ Decided (.error f : Outcome α) := by
  rintro (⟨a, ha⟩ | ⟨g, hg, hconstraint⟩)
  · cases ha
  · cases hg
    rw [h] at hconstraint
    cases hconstraint

theorem not_violates_ok (a : α) : ¬ Violates (.ok a : Outcome α) := by
  rintro ⟨f, hf, -⟩
  cases hf

theorem violates_bind_ok {β : Type} {g : α → β} :
    (x >>= fun a ↦ .ok (g a)).Violates ↔ x.Violates := by
  cases x with
  | ok a => exact iff_of_false (not_violates_ok _) (not_violates_ok _)
  | error f => exact exists_congr fun _ ↦ and_congr_left' (by simp [error_bind])

theorem decided_bind_ok {β : Type} {g : α → β} :
    (x >>= fun a ↦ .ok (g a)).Decided ↔ x.Decided := by
  cases x with
  | ok a => exact iff_of_true (.inl ⟨_, rfl⟩) (.inl ⟨_, rfl⟩)
  | error f =>
    refine or_congr (iff_of_false ?_ ?_) violates_bind_ok
    · rintro ⟨b, hb⟩
      cases hb
    · rintro ⟨a, ha⟩
      cases ha

theorem violates_keyFault (table detail : String) :
    Violates (.error (Store.keyFault table detail) : Outcome α) := ⟨_, rfl, rfl⟩

end Outcome

namespace Store

variable {s : Store} {table : String} {key : List String} {fields : Shape} {r r' : Record}
  {f : Filter} {values : Assoc Value} {rows : Rows}

theorem spares_overwrite? (u : Nat) : Spares (s.overwrite? table f u values rows) := by
  induction rows with
  | nil => exact spares_ok _
  | cons row rows ih =>
    have hrow : Spares (s.conformRow? table row) :=
      (s.spares_conform? table _).bind fun _ _ ↦ spares_ok _
    refine hrow.bind fun current _ ↦ (Filter.spares_matches? _ f).bind fun b _ ↦ ?_
    refine ih.bind fun p _ ↦ ?_
    dsimp only
    split
    · exact spares_ok _
    · exact spares_ok _

/-- A check of rows that fails for no other reason is refused exactly if a key is null in part or
two keys are not apart. -/
theorem violates_checkUnique?_iff (hd : s.IsDeclared table key fields)
    (hrows : ∀ row ∈ rows, Record.Shaped fields row.record.values)
    (hdecided : (s.checkUnique? table rows).Decided) :
    (s.checkUnique? table rows).Violates ↔ (∃ row ∈ rows, ¬ row.record.HasKey key) ∨
      ¬ Apart (rows.map (·.keyValues key)) := by
  rcases hd.checkUnique?_cases hrows with
    ⟨hcheck, hkeys, hapart⟩ | hcheck | ⟨detail, hcheck, hwhy⟩ <;> rw [hcheck] at hdecided ⊢
  · refine iff_of_false (not_violates_ok _) ?_
    rintro (⟨row, hrow, hnull⟩ | hequal)
    · exact hnull (hkeys row hrow)
    · exact hequal hapart
  · exact absurd hdecided (not_decided_of_error rfl)
  · refine iff_of_true (violates_keyFault _ _) ?_
    by_cases hall : ∀ row ∈ rows, row.record.HasKey key
    · exact .inr (hwhy hall)
    · simp only [not_forall] at hall
      obtain ⟨row, hrow, hnull⟩ := hall
      exact .inl ⟨row, hrow, hnull⟩

/-- A new row is apart from the stored ones if none of them has its key. -/
theorem apart_inserted_iff (h : Apart ((s.rowsOf table).map (·.keyValues key))) :
    Apart ((s.inserted table r).map (·.keyValues key)) ↔
      ¬ ∃ row ∈ s.rowsOf table, row.record.SameKey key r := by
  let new : StoredRow := ⟨s.lastRow + 1, r, []⟩
  -- the new row shares no value with another one
  have hsame (row : StoredRow) :
      sameKey (new.keyValues key) (row.keyValues key) = true ↔ row.record.SameKey key r := by
    refine StoredRow.sameKey_iff.trans (forall₂_congr fun n _ ↦ or_iff_right ?_)
    rintro ⟨u, hu, -⟩
    cases hu
  rw [inserted, List.map_append, List.map_singleton, Apart, List.pairwise_append]
  simp only [List.pairwise_singleton, List.mem_singleton, forall_eq, true_and]
  refine (and_iff_right h).trans ?_
  rw [List.forall_mem_map, not_exists]
  refine forall_congr' fun row ↦ ?_
  rw [not_and, ← hsame row, Bool.not_eq_true]

/-- An insert that fails for no other reason is refused exactly if the key of the new record is null
in part or stored already. -/
theorem violates_insert_iff (hd : s.IsDeclared table key fields)
    (h : (s.rowsOf table).Keyed key fields) (hdecided : (s.insert table r).2.Decided) :
    (s.insert table r).2.Violates ↔ ∃ r', r.conform? fields = .ok r' ∧
      (¬ r'.HasKey key ∨ ∃ row ∈ s.rowsOf table, row.record.SameKey key r') := by
  have hd' : (s.skipped (s.lastRow + 1)).IsDeclared table key fields := ⟨hd.key, hd.shape⟩
  cases hconform : s.conform? table r with
  | error g =>
    rw [insert_eq_error hconform] at hdecided
    exact absurd hdecided (not_decided_of_error (s.spares_conform? table r g hconform))
  | ok r' =>
    have hr := hd.conform?_eq_ok.mp hconform
    have hshaped := shaped_inserted h.shaped (Record.shaped_of_conform? hr)
    have hinsert : (s.insert table r).2 =
        (s.skipped (s.lastRow + 1)).checkUnique? table (s.inserted table r') := by
      rw [insert_eq hconform]
      split <;> simp_all
    have hkeys : (∃ row ∈ s.inserted table r', ¬ row.record.HasKey key) ↔ ¬ r'.HasKey key := by
      rw [inserted]
      refine ⟨?_, fun hnull ↦ ⟨_, List.mem_concat_self, hnull⟩⟩
      rintro ⟨row, hrow, hnull⟩
      rcases List.mem_append.mp hrow with hrow | hrow
      · exact absurd (h.hasKey row hrow) hnull
      · rwa [List.mem_singleton.mp hrow] at hnull
    rw [hinsert] at hdecided ⊢
    rw [violates_checkUnique?_iff hd' hshaped hdecided, hkeys, apart_inserted_iff h.apart, not_not]
    refine ⟨fun hbad ↦ ⟨r', hr, hbad⟩, ?_⟩
    rintro ⟨r'', hr'', hbad⟩
    obtain rfl : r' = r'' := Except.ok.inj (hr.symm.trans hr'')
    exact hbad

/-- The values that an update gives to the key equal themselves. -/
def Plain (key : List String) (values : Assoc Value) : Prop :=
  ∀ p ∈ values, p.1 ∈ key → p.2.same? p.2 = .ok true

theorem reflexive_updated (hself : rows.Reflexive key) (hvalues : Plain key values) (f : Filter) :
    (rows.updated f values).Reflexive key := by
  intro row' hrow' n hn
  obtain ⟨row, hrow, rfl⟩ := List.mem_map.mp hrow'
  split
  · rw [StoredRow.valueOrNull_overwritten]
    cases hvalue : (Assoc.ofPairs values).lookup n with
    | none => exact hself row hrow n hn
    | some v =>
      rcases Assoc.mem_of_mem_merge (mem_of_lookup hvalue) with hp | hp
      · cases hp
      · exact hvalues _ hp hn
  · exact hself row hrow n hn

theorem exists_matches?_iff (hf : ∀ row ∈ rows, ∃ b, f.matches? row.record = .ok b) :
    (∃ row ∈ rows, f.matches? row.record = .ok true) ↔
      ¬ ∀ row ∈ rows, f.passes row.record = false := by
  simp only [not_forall, Bool.not_eq_false]
  refine exists_congr fun row ↦ ?_
  rw [exists_prop]
  refine and_congr_right fun hrow ↦ ?_
  obtain ⟨b, hb⟩ := hf row hrow
  rw [Filter.passes_eq hb, hb, Except.ok.injEq]

/-- An update that fails for no other reason is refused exactly if it changes some row and leaves a
key that is null in part or two that are equal. -/
theorem violates_update?_iff (hd : s.IsDeclared table key fields)
    (h : (s.rowsOf table).Keyed key fields) (hself : (s.rowsOf table).Reflexive key)
    (hplain : ∀ r', Record.conform? { values } fields = .ok r' → Plain key r'.values)
    (hdecided : (s.update? table f values).Decided) :
    (s.update? table f values).Violates ↔ ∃ r', Record.conform? { values } fields = .ok r' ∧
      (∃ row ∈ s.rowsOf table, f.matches? row.record = .ok true) ∧
      ((∃ row ∈ (s.rowsOf table).updated f r'.values, ¬ row.record.HasKey key) ∨
        ¬ ((s.rowsOf table).updated f r'.values).Distinct key) := by
  cases hconform : s.conform? table { values } with
  | error g =>
    rw [update?, hconform] at hdecided
    exact absurd hdecided (not_decided_of_error (s.spares_conform? table _ g hconform))
  | ok r' =>
    have hr := hd.conform?_eq_ok.mp hconform
    cases hover : s.overwrite? table f (s.rowsOf table).nextUpdate r'.values (s.rowsOf table) with
    | error g =>
      rw [update?, hconform, ok_bind] at hdecided
      dsimp only at hdecided
      rw [hover] at hdecided
      exact absurd hdecided (not_decided_of_error (spares_overwrite? _ g hover))
    | ok p =>
      have hf := exists_matches?_of_overwrite? hd h.shaped hover
      have hshaped := Rows.shaped_updated h.shaped (Record.shaped_of_conform? hr) f
      rw [update?_eq hd h.shaped hr hf] at hdecided ⊢
      by_cases hnone : ∀ row ∈ s.rowsOf table, f.passes row.record = false
      · rw [if_pos hnone]
        refine iff_of_false (not_violates_ok _) ?_
        rintro ⟨_, -, hsome, -⟩
        exact (exists_matches?_iff hf).mp hsome hnone
      · rw [if_neg hnone] at hdecided ⊢
        rw [violates_bind_ok, violates_checkUnique?_iff hd hshaped (decided_bind_ok.mp hdecided)]
        have hapart : Apart (((s.rowsOf table).updated f r'.values).map (·.keyValues key)) ↔
            ((s.rowsOf table).updated f r'.values).Distinct key :=
          ⟨Rows.distinct_of_apart, Rows.apart_of_distinct (h.coherent.updated f _)
            (reflexive_updated hself (hplain r' hr) f)⟩
        rw [hapart]
        refine ⟨fun hbad ↦ ⟨r', hr, (exists_matches?_iff hf).mpr hnone, hbad⟩, ?_⟩
        rintro ⟨r'', hr'', -, hbad⟩
        obtain rfl : r' = r'' := Except.ok.inj (hr.symm.trans hr'')
        exact hbad

end Store

/-! ## Runs -/

/-- One thing that happens to the memory: a call, one statement of a hook, a declaration, or the
beginning or end of a transaction. -/
inductive Deed where
  | call (v : Verb)
  | statement (w : WriteStatement)
  | declareKey (table : String) (key : List String)
  | declareShape (table : String) (fields : Shape)
  | begin (id : TaskId)
  | commit (n : Nat)
  | rollback (n : Nat)

/-- The memory afterwards. -/
def Deed.run : Deed → Memory → Memory
  | call v, m => { m with store := (v.run m.store).1 }
  | statement w, m => { m with store := (m.store.write w).1 }
  | declareKey table key, m => { m with store := m.store.declareKey table key }
  | declareShape table fields, m => { m with store := m.store.declareShape table fields }
  | begin id, m => m.opened id
  | commit n, m => m.ended n
  | rollback n, m => (m.restored n).ended n

/-- The table has no other key and shape than these, which are declared where it has a row, and the
values of its key equal themselves. -/
structure Store.Orderly (table : String) (key : List String) (fields : Shape) (s : Store) :
    Prop where
  onlyKey : ∀ k, s.keys.lookup table = some k → k = key
  onlyShape : ∀ shape, s.shapes.lookup table = some shape → ∀ n, shape.lookup n = fields.lookup n
  declared : s.rowsOf table ≠ [] →
    (s.keys.lookup table).isSome = true ∧ (s.shapes.lookup table).isSome = true
  reflexive : (s.rowsOf table).Reflexive key

/-- The states of the runs from an empty memory in which the table is always in order. -/
inductive Memory.Reached (table : String) (key : List String) (fields : Shape) : Memory → Prop
  | start : Reached table key fields {}
  | step {m : Memory} (h : Reached table key fields m) (d : Deed)
    (horderly : (d.run m).store.Orderly table key fields) : Reached table key fields (d.run m)

variable {s : Store} {table : String} {key : List String} {fields : Shape} {m : Memory}

theorem Store.Orderly.isDeclared (h : s.Orderly table key fields) (hrows : s.rowsOf table ≠ []) :
    s.IsDeclared table key fields := by
  obtain ⟨hkey, hshape⟩ := h.declared hrows
  obtain ⟨k, hk⟩ := Option.isSome_iff_exists.mp hkey
  obtain ⟨shape, hs⟩ := Option.isSome_iff_exists.mp hshape
  obtain rfl := h.onlyKey k hk
  exact ⟨hk, shape, hs, h.onlyShape shape hs⟩

theorem Store.rowsOf_declare (s : Store) (src : Source) (table : String) :
    (s.declare src).rowsOf table = s.rowsOf table := by
  rw [rowsOf, tables_declare, rowsOf]

/-- A call leaves rows with different keys in a table, where it leaves the key and the shape
declared. -/
theorem Verb.keyed_run (v : Verb) (h : (s.rowsOf table).Keyed key fields)
    (hd : (v.run s).1.IsDeclared table key fields) :
    ((v.run s).1.rowsOf table).Keyed key fields := by
  cases v with
  | fetch src q locked => exact h
  | any src f => exact h
  | count src f => exact h
  | insert src r =>
    rw [← s.rowsOf_declare src table] at h
    exact h.insert (hd.agrees (Store.harmless_insert _ _ r).agrees.symm) src.table r
  | update src f r =>
    rw [← s.rowsOf_declare src table] at h
    have hagrees : Store.Agrees (s.declare src) ((update src f r).run s).1 :=
      (Store.harmless_effect fun _ hp ↦ Store.agrees_update hp).agrees
    exact h.effect fun p hp ↦ h.update (hd.agrees hagrees.symm) hp
  | delete src f =>
    rw [← s.rowsOf_declare src table] at h
    have hagrees : Store.Agrees (s.declare src) ((delete src f).run s).1 :=
      (Store.harmless_effect fun _ hp ↦ Store.agrees_delete hp).agrees
    exact h.effect fun p hp ↦ h.delete (hd.agrees hagrees.symm) hp
  | execute ws => exact h.batch (hd.agrees (Store.harmless_batch s ws).agrees.symm) ws

/-- The rows of a table that a transaction may return to. -/
def Checkpoint.rowsOf (c : Checkpoint) (table : String) : Rows := (c.tables.lookup table).getD []

/-- The rows of the table have different keys, now and wherever a transaction may return to. -/
structure Memory.Keyed (table : String) (key : List String) (fields : Shape) (m : Memory) :
    Prop where
  rows : (m.store.rowsOf table).Keyed key fields
  scopes : ∀ scope ∈ m.scopes, (scope.checkpoint.rowsOf table).Keyed key fields

namespace Memory

/-- The end of a transaction leaves what was kept for a return to its beginning. -/
theorem exists_scope_of_ended {n : Nat} {scope : Scope} (h : scope ∈ (m.ended n).scopes) :
    ∃ old ∈ m.scopes, scope.checkpoint = old.checkpoint := by
  obtain ⟨i, hi⟩ := List.getElem?_of_mem h
  rw [Memory.ended, List.getElem?_modify] at hi
  obtain ⟨old, hold, rfl⟩ := Option.map_eq_some_iff.mp hi
  refine ⟨old, List.mem_of_getElem? hold, ?_⟩
  split <;> rfl

theorem Keyed.ended (h : m.Keyed table key fields) (n : Nat) :
    (m.ended n).Keyed table key fields := by
  refine ⟨h.rows, fun scope hscope ↦ ?_⟩
  obtain ⟨old, hold, heq⟩ := exists_scope_of_ended hscope
  rw [heq]
  exact h.scopes old hold

theorem Keyed.restored (h : m.Keyed table key fields) (n : Nat) :
    (m.restored n).Keyed table key fields := by
  unfold Memory.restored
  split
  · rename_i scope hscope
    exact ⟨h.scopes scope (List.mem_of_getElem? hscope), h.scopes⟩
  · exact h

/-- Whatever happens leaves different keys, if it leaves the table in order. -/
theorem Keyed.run (h : m.Keyed table key fields) (d : Deed)
    (horderly : (d.run m).store.Orderly table key fields) : (d.run m).Keyed table key fields := by
  -- without a declaration there are no rows
  have hwrite (hkeyed : (d.run m).store.IsDeclared table key fields →
      ((d.run m).store.rowsOf table).Keyed key fields) :
      ((d.run m).store.rowsOf table).Keyed key fields := by
    by_cases hrows : (d.run m).store.rowsOf table = []
    · rw [hrows]
      exact .nil key fields
    · exact hkeyed (horderly.isDeclared hrows)
  cases d with
  | call v => exact ⟨hwrite fun hd ↦ v.keyed_run h.rows hd, h.scopes⟩
  | statement w =>
    have hagrees := (Store.harmless_write m.store w).agrees
    exact ⟨hwrite fun hd ↦ h.rows.write (hd.agrees hagrees.symm) w, h.scopes⟩
  | declareKey table' key' =>
    refine ⟨?_, h.scopes⟩
    have hrows : (m.store.declareKey table' key').rowsOf table = m.store.rowsOf table := by
      unfold Store.declareKey
      split <;> rfl
    exact hrows ▸ h.rows
  | declareShape table' fields' =>
    refine ⟨?_, h.scopes⟩
    have hrows : (m.store.declareShape table' fields').rowsOf table = m.store.rowsOf table := by
      unfold Store.declareShape
      split <;> rfl
    exact hrows ▸ h.rows
  | begin id =>
    refine ⟨h.rows, fun scope hscope ↦ ?_⟩
    rcases List.mem_append.mp hscope with hscope | hscope
    · exact h.scopes scope hscope
    · rw [List.mem_singleton.mp hscope]
      exact h.rows
  | commit n => exact h.ended n
  | rollback n => exact (h.restored n).ended n

/-- What every state of a run keeps. -/
theorem Reached.keyed (h : m.Reached table key fields) : m.Keyed table key fields := by
  induction h with
  | start => exact ⟨.nil key fields, nofun⟩
  | step h d horderly ih => exact ih.run d horderly

theorem Reached.orderly (h : m.Reached table key fields) : m.store.Orderly table key fields := by
  cases h with
  | start => exact ⟨nofun, nofun, fun h ↦ absurd rfl h, nofun⟩
  | step h d horderly => exact horderly

/-- In every state of a run no key is null in part and no two rows have equal keys.  An insert that
does not fail for another reason is refused exactly if the key of the record in the shape of the
table is null in part or stored already, and such an update exactly if it changes some row and would
leave a key that is null in part or two that are equal. -/
theorem Reached.keys_unique (h : m.Reached table key fields) :
    (∀ row ∈ m.store.rowsOf table, row.record.HasKey key) ∧
    (m.store.rowsOf table).Distinct key ∧
    (m.store.IsDeclared table key fields →
      (∀ r, (m.store.insert table r).2.Decided →
        ((m.store.insert table r).2.Violates ↔ ∃ r', r.conform? fields = .ok r' ∧
          (¬ r'.HasKey key ∨ ∃ row ∈ m.store.rowsOf table, row.record.SameKey key r'))) ∧
      ∀ f values,
        (∀ r', Record.conform? { values } fields = .ok r' → Store.Plain key r'.values) →
        (m.store.update? table f values).Decided →
        ((m.store.update? table f values).Violates ↔
          ∃ r', Record.conform? { values } fields = .ok r' ∧
            (∃ row ∈ m.store.rowsOf table, f.matches? row.record = .ok true) ∧
            ((∃ row ∈ (m.store.rowsOf table).updated f r'.values, ¬ row.record.HasKey key) ∨
              ¬ ((m.store.rowsOf table).updated f r'.values).Distinct key))) := by
  have hkeyed := h.keyed.rows
  refine ⟨hkeyed.hasKey, Rows.distinct_of_apart hkeyed.apart, fun hd ↦ ⟨?_, ?_⟩⟩
  · exact fun r hdecided ↦ Store.violates_insert_iff hd hkeyed hdecided
  · exact fun f values hplain hdecided ↦
      Store.violates_update?_iff hd hkeyed h.orderly.reflexive hplain hdecided

/-- Two users, the second of whom was added in a transaction: neither can be added again, nor can
both get one number. -/
theorem keys_unique_users :
    let users : Source := ⟨"users", [("id", .integer)], ["id"], none⟩
    let user (n : Int) : Record := ⟨[("id", ⟨.integer, .integer n⟩)], []⟩
    let one := (Deed.call (.insert users (user 1))).run {}
    let two := (Deed.call (.insert users (user 2))).run ((Deed.begin 0).run one)
    let m := (Deed.commit 0).run two
    let all : Filter := .compare (.name "id") .gte (.one ⟨.integer, .integer 1⟩)
    (∀ row ∈ m.store.rowsOf "users", row.record.HasKey ["id"]) ∧
      (m.store.rowsOf "users").Distinct ["id"] ∧
      (m.store.insert "users" (user 2)).2.Violates ∧
      (m.store.update? "users" all (user 3).values).Violates := by
  intro users user one two m all
  let table (rows : Rows) (lastRow : Nat) : Store :=
    ⟨[("users", rows)], [("users", ["id"])], [("users", users.fields)], lastRow⟩
  have hself (i : Int) : (user i).SameKey ["id"] (user i) := by
    intro n hn
    obtain rfl := List.mem_singleton.mp hn
    exact congrArg Except.ok (beq_self_eq_true i)
  have horderly (rows : Rows) (lastRow : Nat) (h : ∀ row ∈ rows, ∃ n, row.record = user n) :
      (table rows lastRow).Orderly "users" ["id"] users.fields := by
    refine ⟨fun k hk ↦ (Option.some.inj hk).symm, fun shape hs ↦ ?_, fun _ ↦ ⟨rfl, rfl⟩,
      fun row hrow ↦ ?_⟩
    · cases hs
      exact fun _ ↦ rfl
    · obtain ⟨i, hi⟩ := h row hrow
      rw [hi]
      exact hself i
  have hone : one.store = table [⟨1, user 1, []⟩] 1 := rfl
  have htwo : two.store = table [⟨1, user 1, []⟩, ⟨2, user 2, []⟩] 2 := rfl
  have hfirst : one.store.Orderly "users" ["id"] users.fields := by
    rw [hone]
    exact horderly _ _ fun row h ↦ ⟨1, by rw [List.mem_singleton.mp h]⟩
  have hboth : two.store.Orderly "users" ["id"] users.fields := by
    rw [htwo]
    refine horderly _ _ fun row h ↦ ?_
    rcases List.mem_cons.mp h with rfl | h
    · exact ⟨1, rfl⟩
    · exact ⟨2, by rw [List.mem_singleton.mp h]⟩
  have hrun : m.Reached "users" ["id"] users.fields :=
    .step (.step (.step (.step .start _ hfirst) _ hfirst) _ hboth) _ hboth
  have hm : m.store = table [⟨1, user 1, []⟩, ⟨2, user 2, []⟩] 2 := htwo
  have hrows : (table [⟨1, user 1, []⟩, ⟨2, user 2, []⟩] 2).rowsOf "users" =
      [⟨1, user 1, []⟩, ⟨2, user 2, []⟩] := rfl
  obtain ⟨hkeys, hdistinct, hrefused⟩ := hrun.keys_unique
  rw [hm] at hrefused hkeys hdistinct ⊢
  rw [hrows] at hrefused
  obtain ⟨hinsert, hupdate⟩ := hrefused ⟨rfl, users.fields, rfl, fun _ ↦ rfl⟩
  refine ⟨hkeys, hdistinct, ?_, ?_⟩
  · have hdecided : ((table [⟨1, user 1, []⟩, ⟨2, user 2, []⟩] 2).insert "users"
        (user 2)).2.Decided := by
      dsimp only [table, users, user]
      decide +kernel
    refine (hinsert (user 2) hdecided).mpr ⟨user 2, rfl, .inr ⟨⟨2, user 2, []⟩, ?_, hself 2⟩⟩
    exact List.mem_cons_of_mem _ (List.mem_singleton_self _)
  · have hplain (r' : Record) (h : Record.conform? ⟨(user 3).values, []⟩ users.fields = .ok r') :
        Store.Plain ["id"] r'.values := by
      cases h
      intro p hp _
      rw [List.mem_singleton.mp hp]
      rfl
    have hdecided : ((table [⟨1, user 1, []⟩, ⟨2, user 2, []⟩] 2).update? "users" all
        (user 3).values).Decided := by
      dsimp only [table, users, user, all]
      decide +kernel
    refine (hupdate all (user 3).values hplain hdecided).mpr ?_
    refine ⟨user 3, rfl, ⟨⟨1, user 1, []⟩, List.mem_cons_self, rfl⟩, .inr fun h ↦ ?_⟩
    rw [Rows.updated, List.map_cons, List.map_cons, List.map_nil,
      Filter.passes_eq (show all.matches? (user 1) = .ok true from rfl),
      Filter.passes_eq (show all.matches? (user 2) = .ok true from rfl)] at h
    exact (List.pairwise_cons.mp h).1 _ (List.mem_singleton_self _) (hself 3)

end Memory

end RecordStore
