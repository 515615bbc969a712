import RecordStore.Proofs.Memory.Alteration
import RecordStore.Proofs.Memory.Idempotence
import RecordStore.Proofs.Memory.Uniqueness

/-!
# Row numbers

Every row has a number of its own.  The numbers of a table increase in the order of its rows, which
is the order of insertion, no number is used in two tables, and the last row number that was given
is the greatest of all.  Inserts that fail use up numbers, and a batch or a transaction that is
undone gives numbers back together with the rows that had them.

* `Checkpoint.Numbered` is what the tables and the last row number keep.
* `Store.insert_cases` is what an insert does; `Checkpoint.Prunes` is what all other writes do.
* `Memory.Numbered.altered` shows that whatever happens keeps the numbering, in the store and
  wherever a transaction may return to.
-/

namespace RecordStore

open Outcome

namespace Checkpoint

variable {c c' : Checkpoint} {table : String} {n : Nat}

/-- The numbers of the rows of a table, in their order. -/
def numbers (c : Checkpoint) (table : String) : List Nat := (c.rowsOf table).map StoredRow.number

/-- Every row has a number of its own, and it is at most the last one. -/
structure Numbered (c : Checkpoint) : Prop where
  /-- In every table the numbers are strictly increasing in the order of the rows. -/
  increasing : ∀ table, (c.numbers table).Pairwise (· < ·)
  /-- No number is used in two tables. -/
  apart : ∀ table table', table ≠ table' → (c.numbers table).Disjoint (c.numbers table')
  bounded : ∀ table, ∀ n ∈ c.numbers table, n ≤ c.lastRow

/-- Rows may have gone, but none has come, none has changed its place, and no number was used up. -/
structure Prunes (c c' : Checkpoint) : Prop where
  numbers : ∀ table, (c'.numbers table).Sublist (c.numbers table)
  lastRow : c'.lastRow = c.lastRow

theorem Prunes.refl (c : Checkpoint) : c.Prunes c := ⟨fun _ ↦ .refl _, rfl⟩

theorem numbered_empty : (⟨[], n⟩ : Checkpoint).Numbered where
  increasing _ := .nil
  apart _ _ _ := List.disjoint_nil_left _
  bounded _ _ hn := by cases hn

theorem Numbered.prunes (h : c.Numbered) (hprunes : c.Prunes c') : c'.Numbered where
  increasing table := (h.increasing table).sublist (hprunes.numbers table)
  apart table table' hne _ hn hn' :=
    h.apart table table' hne ((hprunes.numbers table).subset hn)
      ((hprunes.numbers table').subset hn')
  bounded table n hn := hprunes.lastRow ▸ h.bounded table n ((hprunes.numbers table).subset hn)

/-- Numbers may be used up for nothing. -/
theorem Numbered.skipped (h : c.Numbered) (hn : c.lastRow ≤ n) :
    (⟨c.tables, n⟩ : Checkpoint).Numbered :=
  ⟨h.increasing, h.apart, fun table k hk ↦ (h.bounded table k hk).trans hn⟩

/-- A row under the next number comes after all others. -/
theorem Numbered.appended (h : c.Numbered) (hlast : c'.lastRow = c.lastRow + 1)
    (hnew : c'.numbers table = c.numbers table ++ [c.lastRow + 1])
    (hothers : ∀ other ≠ table, c'.numbers other = c.numbers other) : c'.Numbered := by
  have hfresh (other : String) (n : Nat) (hn : n ∈ c.numbers other) : n < c.lastRow + 1 :=
    Nat.lt_succ_of_le (h.bounded other n hn)
  -- a number is an old one, or it is the new one and stands in the table that it was given in
  have hmem (other : String) (n : Nat) (hn : n ∈ c'.numbers other) :
      n ∈ c.numbers other ∨ n = c.lastRow + 1 ∧ other = table := by
    by_cases heq : other = table
    · subst heq
      rw [hnew, List.mem_append, List.mem_singleton] at hn
      exact hn.imp_right fun hn ↦ ⟨hn, rfl⟩
    · exact .inl (hothers other heq ▸ hn)
  refine ⟨fun other ↦ ?_, fun first second hne n hn hn' ↦ ?_, fun other n hn ↦ ?_⟩
  · by_cases heq : other = table
    · rw [heq, hnew, List.pairwise_append]
      refine ⟨h.increasing table, List.pairwise_singleton _ _, fun n hn k hk ↦ ?_⟩
      rw [List.mem_singleton.mp hk]
      exact hfresh table n hn
    · rw [hothers other heq]
      exact h.increasing other
  · rcases hmem first n hn with hn | ⟨rfl, rfl⟩ <;>
      rcases hmem second _ hn' with hn' | ⟨heq, hsecond⟩
    · exact h.apart first second hne hn hn'
    · exact (hfresh first n hn).ne heq
    · exact (hfresh second _ hn').ne rfl
    · exact hne hsecond.symm
  · rw [hlast]
    rcases hmem other n hn with hn | ⟨rfl, -⟩
    · exact (hfresh other n hn).le
    · exact le_rfl

end Checkpoint

namespace Store

variable {s s' : Store} {table : String} {f : Filter} {values : Assoc Value} {r : Record}

/-! ## What writes do to rows -/

/-- An insert uses up the next row number.  It fails and leaves all rows as they are, or it succeeds
and puts the record, in the shape of the table, behind the rows of the table. -/
theorem insert_cases (s : Store) (table : String) (r : Record) :
    (∃ f, s.insert table r = (s.skipped (s.lastRow + 1), .error f)) ∨
      ∃ r', s.conform? table r = .ok r' ∧
        s.insert table r =
          ((s.skipped (s.lastRow + 1)).setRows table (s.inserted table r'), .ok ()) := by
  cases hconform : s.conform? table r with
  | error f => exact .inl ⟨f, insert_eq_error hconform⟩
  | ok r' =>
    rw [insert_eq hconform]
    split
    · exact .inr ⟨r', rfl, rfl⟩
    · exact .inl ⟨_, rfl⟩

/-- To set the rows of a table to some whose numbers were there before. -/
theorem prunes_setRows {rows : Rows}
    (h : (rows.map StoredRow.number).Sublist ((s.rowsOf table).map StoredRow.number)) :
    s.checkpoint.Prunes (s.setRows table rows).checkpoint := by
  refine ⟨fun other ↦ ?_, rfl⟩
  change (((s.setRows table rows).rowsOf other).map _).Sublist ((s.rowsOf other).map _)
  rw [rowsOf_setRows]
  split
  · rename_i heq
    rwa [heq]
  · exact .refl _

/-- An update leaves every row its number. -/
theorem prunes_update? {p : Store × Nat} (h : s.update? table f values = .ok p) :
    s.checkpoint.Prunes p.1.checkpoint := by
  obtain ⟨new, rows, n, -, hrows, ⟨-, rfl⟩ | ⟨-, -, rfl⟩⟩ := update?_eq_ok h
  · exact .refl _
  · have hnumbers : rows.map StoredRow.number = (s.rowsOf table).map StoredRow.number := by
      refine List.forall₂_eq_eq_eq ▸ List.forall₂_map_left_iff.mpr ?_
      refine List.forall₂_map_right_iff.mpr ?_
      refine (overwrite?_rewrites hrows).flip.imp fun row' row hrow ↦ ?_
      cases hrow with
      | kept _ => rfl
      | changed _ _ => rfl
    exact prunes_setRows (hnumbers ▸ .refl _)

theorem prunes_delete? {p : Store × Nat} (h : s.delete? table f = .ok p) :
    s.checkpoint.Prunes p.1.checkpoint := by
  obtain ⟨kept, hkept, h⟩ := bind_eq_ok.mp h
  cases h
  dsimp only
  split
  · exact .refl _
  · exact prunes_setRows ((keep?_eq_ok hkept).1.map _)

theorem prunes_effect {next : Outcome (Store × Nat)}
    (h : ∀ p, next = .ok p → s.checkpoint.Prunes p.1.checkpoint) :
    s.checkpoint.Prunes (s.effect next).1.checkpoint := by
  unfold effect
  split
  · exact h _ rfl
  · exact .refl _

/-- Declarations leave rows and numbers alone. -/
theorem checkpoint_declare (s : Store) (src : Source) :
    (s.declare src).checkpoint = s.checkpoint := by
  unfold declare declareKey declareShape
  split <;> split <;> rfl

/-- A write statement that is no insert. -/
theorem prunes_write {w : WriteStatement} (hw : ∀ table values, w ≠ .insert table values) :
    s.checkpoint.Prunes (s.write w).1.checkpoint := by
  cases w with
  | insert table values => exact absurd rfl (hw table values)
  | update table f values =>
    refine prunes_effect fun p hp ↦ ?_
    obtain ⟨vs, -, hp⟩ := bind_eq_ok.mp hp
    obtain ⟨g, -, hp⟩ := bind_eq_ok.mp hp
    exact prunes_update? hp
  | delete table f =>
    refine prunes_effect fun p hp ↦ ?_
    obtain ⟨g, -, hp⟩ := bind_eq_ok.mp hp
    exact prunes_delete? hp
  | sql text values => exact .refl _
  | junk d => exact .refl _

/-! ## Every write keeps the numbering -/

theorem numbered_insert (h : s.checkpoint.Numbered) (table : String) (r : Record) :
    (s.insert table r).1.checkpoint.Numbered := by
  rcases insert_cases s table r with ⟨f, hinsert⟩ | ⟨r', -, hinsert⟩ <;> rw [hinsert]
  · exact h.skipped (Nat.le_succ _)
  · have hnew : ((s.skipped (s.lastRow + 1)).setRows table (s.inserted table r')).checkpoint.numbers
        table = s.checkpoint.numbers table ++ [s.lastRow + 1] := by
      change (rowsOf _ table).map _ = (s.rowsOf table).map _ ++ _
      rw [rowsOf_setRows, if_pos rfl, inserted, List.map_append]
      rfl
    refine h.appended rfl hnew fun other hne ↦ ?_
    change (rowsOf _ other).map _ = (s.rowsOf other).map _
    rw [rowsOf_setRows, if_neg hne]
    rfl

theorem numbered_write (h : s.checkpoint.Numbered) (w : WriteStatement) :
    (s.write w).1.checkpoint.Numbered := by
  cases w with
  | insert table values =>
    rw [write]
    split
    · exact numbered_insert h table _
    · exact h
  | _ => exact h.prunes (prunes_write (by simp))

theorem numbered_writeAll (h : s.checkpoint.Numbered) (ws : List WriteStatement) :
    (s.writeAll ws).1.checkpoint.Numbered := by
  induction ws generalizing s with
  | nil => exact h
  | cons w ws ih =>
    have hfirst := numbered_write h w
    rw [writeAll]
    split
    · rename_i hw
      rw [hw] at hfirst
      exact ih hfirst
    · rename_i hw
      rw [hw] at hfirst
      exact hfirst

/-- A batch that fails gives back the numbers that it has used up. -/
theorem numbered_batch (h : s.checkpoint.Numbered) (ws : List WriteStatement) :
    (s.batch ws).1.checkpoint.Numbered := by
  have hall := numbered_writeAll h ws
  rw [batch]
  split
  · rename_i hw
    rw [hw] at hall
    exact hall
  · exact h

end Store

variable {s : Store} {m : Memory}

/-- A call that makes no inserts. -/
theorem Verb.prunes_run {v : Verb} (hinsert : ∀ src r, v ≠ .insert src r)
    (hexecute : ∀ ws, v ≠ .execute ws) : s.checkpoint.Prunes (v.run s).1.checkpoint := by
  cases v with
  | fetch src q locked => exact .refl _
  | any src f => exact .refl _
  | count src f => exact .refl _
  | insert src r => exact absurd rfl (hinsert src r)
  | update src f r =>
    rw [← s.checkpoint_declare src]
    exact Store.prunes_effect fun p hp ↦ Store.prunes_update? hp
  | delete src f =>
    rw [← s.checkpoint_declare src]
    exact Store.prunes_effect fun p hp ↦ Store.prunes_delete? hp
  | execute ws => exact absurd rfl (hexecute ws)

theorem Verb.numbered_run (h : s.checkpoint.Numbered) (v : Verb) :
    (v.run s).1.checkpoint.Numbered := by
  cases v with
  | insert src r =>
    rw [← s.checkpoint_declare src] at h
    exact Store.numbered_insert h src.table r
  | execute ws => exact Store.numbered_batch h ws
  | _ => exact h.prunes (Verb.prunes_run (by simp) (by simp))

/-- A call on the store that is no insert. -/
theorem StoreCall.prunes_run {c : StoreCall} (hc : ∀ table r, c ≠ .write (.insert table r)) :
    s.checkpoint.Prunes (c.run s).1.checkpoint := by
  cases c with
  | rows table fields => exact .refl _
  | snapshot => exact .refl _
  | shape table => exact .refl _
  | declareKey table key =>
    have hsame : (s.declareKey table key).checkpoint = s.checkpoint := by
      unfold Store.declareKey
      split <;> rfl
    exact hsame ▸ .refl _
  | declareShape table fields =>
    have hsame : (s.declareShape table fields).checkpoint = s.checkpoint := by
      unfold Store.declareShape
      split <;> rfl
    exact hsame ▸ .refl _
  | write c =>
    cases c with
    | insert table r => exact absurd rfl (hc table r)
    | update table f values =>
      rw [run, TableCall.make]
      split
      · rename_i hupdate
        exact Store.prunes_update? hupdate
      · exact .refl _
    | delete table f =>
      rw [run, TableCall.make]
      split
      · rename_i hdelete
        exact Store.prunes_delete? hdelete
      · exact .refl _

theorem StoreCall.numbered_run (h : s.checkpoint.Numbered) (c : StoreCall) :
    (c.run s).1.checkpoint.Numbered := by
  by_cases hc : ∃ table r, c = .write (.insert table r)
  · obtain ⟨table, r, rfl⟩ := hc
    exact Store.numbered_insert h table r
  · exact h.prunes (StoreCall.prunes_run fun table r heq ↦ hc ⟨table, r, heq⟩)

/-! ## Every memory is numbered -/

/-- The rows are numbered in the store, and wherever a transaction may return to. -/
structure Memory.Numbered (m : Memory) : Prop where
  store : m.store.checkpoint.Numbered
  scopes : ∀ scope ∈ m.scopes, scope.checkpoint.Numbered

theorem Memory.Numbered.ended (h : m.Numbered) (n : Nat) : (m.ended n).Numbered := by
  refine ⟨h.store, fun scope hscope ↦ ?_⟩
  obtain ⟨old, hold, heq⟩ := Memory.exists_scope_of_ended hscope
  rw [heq]
  exact h.scopes old hold

theorem Memory.Numbered.run (h : m.Numbered) (a : Alteration) : (a.run m).Numbered := by
  cases a with
  | verb v => exact ⟨v.numbered_run h.store, h.scopes⟩
  | call c => exact ⟨c.numbered_run h.store, h.scopes⟩
  | begin id =>
    refine ⟨h.store, fun scope hscope ↦ ?_⟩
    rcases List.mem_append.mp hscope with hscope | hscope
    · exact h.scopes scope hscope
    · rw [List.mem_singleton.mp hscope]
      exact h.store
  | finish n => exact h.ended n
  | undo n =>
    rw [Alteration.run, Memory.restored]
    split
    · rename_i scope hscope
      exact ⟨h.scopes scope (List.mem_of_getElem? hscope), h.scopes⟩
    · exact h

/-- Whatever happens keeps the numbering. -/
theorem Memory.Numbered.altered (h : m.Numbered) (as : List Alteration) :
    (m.altered as).Numbered := by
  induction as generalizing m with
  | nil => exact h
  | cons a as ih => exact ih (h.run a)

end RecordStore
