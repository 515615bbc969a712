import RecordStore.Proofs.Memory.Keys
import RecordStore.Proofs.Memory.Serial

/-!
# Tables with a key

Where a key and a shape are declared of a table, every write leaves rows that have the shape and
different keys, if it found such rows.

* `Store.IsDeclared` says what is declared of a table, and `Rows.Keyed` what follows for its rows.
* `Store.overwrite?_eq` and `Store.keep?_eq` are what an update and a delete do to such rows.
* `Rows.Keyed.insert`, `.update`, `.delete` and `.batch` are the statement above.
-/

namespace RecordStore

open Outcome

/-- Does the record pass the filter?  Where the filter fails it does not. -/
def Filter.passes (f : Filter) (r : Record) : Bool := Datum.holds (f.matches? r)

theorem Filter.passes_eq {f : Filter} {r : Record} {b : Bool} (h : f.matches? r = .ok b) :
    f.passes r = b := by
  rw [passes, h]
  rfl

/-! ## Numbers of updates -/

theorem le_foldl_max {α : Type} (f : α → Nat) (xs : List α) (b : Nat) :
    b ≤ xs.foldl (fun n x ↦ max n (f x)) b ∧
      ∀ x ∈ xs, f x ≤ xs.foldl (fun n x ↦ max n (f x)) b := by
  induction xs generalizing b with
  | nil => exact ⟨le_refl b, nofun⟩
  | cons y ys ih =>
    obtain ⟨hb, hys⟩ := ih (max b (f y))
    refine ⟨(le_max_left _ _).trans hb, fun x hx ↦ ?_⟩
    rcases List.mem_cons.mp hx with rfl | hx
    · exact (le_max_right _ _).trans hb
    · exact hys x hx

theorem mem_of_lookup {β : Type} {m : Assoc β} {n : String} {b : β} (h : m.lookup n = some b) :
    (n, b) ∈ m := by
  induction m with
  | nil => cases h
  | cons p rest ih =>
    rw [List.lookup_cons] at h
    split at h
    · rename_i hn
      cases h
      rw [beq_iff_eq.mp hn]
      exact List.mem_cons_self
    · exact List.mem_cons_of_mem _ (ih h)

namespace StoredRow

variable {row : StoredRow} {n : String} {u : Nat} {values : Assoc Value}

theorem le_lastUpdate (h : (n, u) ∈ row.writers) : u ≤ row.lastUpdate :=
  (le_foldl_max Prod.snd row.writers 0).2 (n, u) h

theorem lookup_writers_overwritten : (row.overwritten u values).writers.lookup n =
    (((Assoc.ofPairs values).lookup n).map fun _ ↦ u).or (row.writers.lookup n) := by
  have hpairs : Assoc.ofPairs (values.mapValues fun _ ↦ u) =
      (Assoc.ofPairs values).mapValues fun _ ↦ u := (Assoc.mapValues_merge _ [] values).symm
  rw [overwritten, Assoc.lookup_merge, hpairs, Assoc.lookup_mapValues]

theorem valueOrNull_overwritten : (row.overwritten u values).record.valueOrNull n =
    ((Assoc.ofPairs values).lookup n).getD (row.record.valueOrNull n) :=
  row.record.valueOrNull_replace values n

end StoredRow

namespace Rows

variable {rows rows' : Rows} {key : List String} {fields : Shape} {row : StoredRow}
  {values : Assoc Value}

/-- No value was written yet by the next update. -/
theorem lt_nextUpdate (hrow : row ∈ rows) {n : String} {u : Nat} (h : (n, u) ∈ row.writers) :
    u < rows.nextUpdate :=
  Nat.lt_succ_of_le <| (StoredRow.le_lastUpdate h).trans
    ((le_foldl_max StoredRow.lastUpdate rows 0).2 row hrow)

/-- The rows once an update has overwritten values in those that pass a filter. -/
def updated (f : Filter) (values : Assoc Value) (rows : Rows) : Rows :=
  rows.map fun row ↦
    if f.passes row.record then row.overwritten rows.nextUpdate values else row

/-- The rows that do not pass a filter. -/
def without (f : Filter) (rows : Rows) : Rows := rows.filter fun row ↦ !f.passes row.record

theorem Coherent.of_subset (h : rows.Coherent) (hsub : rows' ⊆ rows) : rows'.Coherent :=
  fun a ha b hb ↦ h a (hsub ha) b (hsub hb)

theorem Coherent.append (h : rows.Coherent) (hnew : row.writers = []) :
    Coherent (rows ++ [row]) := by
  intro a ha b hb n u hau hbu
  rcases List.mem_append.mp ha with ha | ha
  · rcases List.mem_append.mp hb with hb | hb
    · exact h a ha b hb n u hau hbu
    · rw [List.mem_singleton.mp hb, hnew] at hbu
      cases hbu
  · rw [List.mem_singleton.mp ha, hnew] at hau
    cases hau

/-- One update gives one value to all the rows that it changes, under a number of its own. -/
theorem Coherent.updated (h : rows.Coherent) (f : Filter) (values : Assoc Value) :
    (rows.updated f values).Coherent := by
  have hcases {row' : StoredRow} (h' : row' ∈ rows.updated f values) : ∃ row ∈ rows,
      row' = row ∨ row' = row.overwritten rows.nextUpdate values := by
    obtain ⟨row, hrow, rfl⟩ := List.mem_map.mp h'
    refine ⟨row, hrow, ?_⟩
    split
    · exact .inr rfl
    · exact .inl rfl
  -- where the update gives a value, the rows that it left have an earlier number
  have hkept {a b : StoredRow} (ha : a ∈ rows) (hb : b ∈ rows) {n : String} {u : Nat}
      (hau : a.writers.lookup n = some u)
      (hbu : (b.overwritten rows.nextUpdate values).writers.lookup n = some u) :
      a.record.valueOrNull n = (b.overwritten rows.nextUpdate values).record.valueOrNull n := by
    rw [StoredRow.lookup_writers_overwritten] at hbu
    rw [StoredRow.valueOrNull_overwritten]
    cases hvalue : (Assoc.ofPairs values).lookup n with
    | none =>
      rw [hvalue] at hbu
      exact h a ha b hb n u hau hbu
    | some v =>
      rw [hvalue] at hbu
      cases hbu
      exact absurd (lt_nextUpdate ha (mem_of_lookup hau)) (lt_irrefl _)
  intro x hx y hy n u hxu hyu
  obtain ⟨a, ha, rfl | rfl⟩ := hcases hx <;> obtain ⟨b, hb, rfl | rfl⟩ := hcases hy
  · exact h x ha y hb n u hxu hyu
  · exact hkept ha hb hxu hyu
  · exact (hkept hb ha hyu hxu).symm
  · rw [StoredRow.lookup_writers_overwritten] at hxu hyu
    rw [StoredRow.valueOrNull_overwritten, StoredRow.valueOrNull_overwritten]
    cases hvalue : (Assoc.ofPairs values).lookup n with
    | none =>
      rw [hvalue] at hxu hyu
      exact h a ha b hb n u hxu hyu
    | some v => rfl

/-- The rows have the shape and different keys. -/
structure Keyed (key : List String) (fields : Shape) (rows : Rows) : Prop where
  shaped : ∀ row ∈ rows, Record.Shaped fields row.record.values
  hasKey : ∀ row ∈ rows, row.record.HasKey key
  apart : Store.Apart (rows.map (·.keyValues key))
  coherent : rows.Coherent

theorem Keyed.nil (key : List String) (fields : Shape) : Keyed key fields [] :=
  ⟨nofun, nofun, .nil, nofun⟩

theorem Keyed.sublist (h : rows.Keyed key fields) (hsub : rows'.Sublist rows) :
    rows'.Keyed key fields where
  shaped row hrow := h.shaped row (hsub.subset hrow)
  hasKey row hrow := h.hasKey row (hsub.subset hrow)
  apart := h.apart.sublist (hsub.map _)
  coherent := h.coherent.of_subset hsub.subset

theorem shaped_updated (h : ∀ row ∈ rows, Record.Shaped fields row.record.values)
    (hvalues : Record.Shaped fields values) (f : Filter) :
    ∀ row ∈ rows.updated f values, Record.Shaped fields row.record.values := by
  intro row' hrow'
  obtain ⟨row, hrow, rfl⟩ := List.mem_map.mp hrow'
  split
  · exact (h row hrow).merge hvalues
  · exact h row hrow

end Rows

namespace Store

variable {s s' : Store} {table : String} {key : List String} {fields : Shape} {rows : Rows}
  {r r' : Record} {f : Filter} {values : Assoc Value}

/-- The key and the shape of the table are declared. -/
structure IsDeclared (s : Store) (table : String) (key : List String) (fields : Shape) : Prop where
  key : s.keys.lookup table = some key
  shape : ∃ shape, s.shapes.lookup table = some shape ∧ ∀ n, shape.lookup n = fields.lookup n

theorem IsDeclared.agrees (h : s.IsDeclared table key fields) (ha : Agrees s s') :
    s'.IsDeclared table key fields where
  key := by
    rw [ha.keys]
    exact h.key
  shape := by
    rw [ha.shapes]
    exact h.shape

theorem Agrees.symm (h : Agrees s s') : Agrees s' s := ⟨h.keys.symm, h.shapes.symm⟩

/-- A record takes on a shape, whatever table asks for it. -/
theorem conformTo?_eq_ok : conformTo? table fields r = .ok r' ↔ r.conform? fields = .ok r' := by
  unfold conformTo?
  split
  · rename_i hempty
    rw [List.isEmpty_iff.mp hempty, Record.conform?_nil, pure_eq]
  · cases r.conform? fields with
    | ok _ => rfl
    | error _ => exact iff_of_false nofun nofun

/-- A record that has taken on a shape has it. -/
theorem conformTo?_conformTo? (h : conformTo? table fields r = .ok r') :
    conformTo? table fields r' = .ok r' :=
  conformTo?_eq_ok.mpr (Record.conform?_eq_self (Record.shaped_of_conform? (conformTo?_eq_ok.mp h)))

/-- A record of the shape keeps it where values are overwritten that have it. -/
theorem conformTo?_replace {new : Record} (h : conformTo? table fields r = .ok r')
    (hnew : conformTo? table fields { values } = .ok new) :
    conformTo? table fields (r'.replace new.values) = .ok (r'.replace new.values) := by
  apply conformTo?_eq_ok.mpr
  apply Record.conform?_eq_self
  have hr := Record.shaped_of_conform? (conformTo?_eq_ok.mp h)
  exact hr.merge (Record.shaped_of_conform? (conformTo?_eq_ok.mp hnew))

/-- A record takes on the shape of a table, where it has one. -/
theorem conform?_eq_ok : s.conform? table r = .ok r' ↔
    r.conform? ((s.shape? table).getD []) = .ok r' :=
  conformTo?_eq_ok

/-- A record takes on the declared shape. -/
theorem IsDeclared.conform?_eq_ok (hd : s.IsDeclared table key fields) :
    s.conform? table r = .ok r' ↔ r.conform? fields = .ok r' := by
  obtain ⟨shape, hshape, hlookup⟩ := hd.shape
  rw [Store.conform?_eq_ok, shape?, hshape, ← Record.conform?_congr hlookup]
  rfl

theorem IsDeclared.conformRow? (hd : s.IsDeclared table key fields) {row : StoredRow}
    (h : Record.Shaped fields row.record.values) : s.conformRow? table row = .ok row := by
  rw [Store.conformRow?, hd.conform?_eq_ok.mpr (Record.conform?_eq_self h), ok_bind,
    StoredRow.reshaped_self]
  rfl

/-- What the check of the rows of a declared table comes to. -/
theorem IsDeclared.checkUnique?_cases (hd : s.IsDeclared table key fields)
    (hrows : ∀ row ∈ rows, Record.Shaped fields row.record.values) :
    (s.checkUnique? table rows = .ok () ∧ (∀ row ∈ rows, row.record.HasKey key) ∧
      Apart (rows.map (·.keyValues key))) ∨
    s.checkUnique? table rows = .error .wrongType ∨
    ∃ detail, s.checkUnique? table rows = .error (keyFault table detail) ∧
      ((∀ row ∈ rows, row.record.HasKey key) → ¬ Apart (rows.map (·.keyValues key))) := by
  rw [checkUnique?, hd.key]
  rcases checkKeys?_cases (fun row h ↦ hd.conformRow? (hrows row h)) .nil with h | h | h
  · exact .inl ⟨h.1, fun row hrow ↦ (h.2.1 row hrow).1, h.2.2⟩
  · exact .inr (.inl h)
  · exact .inr (.inr h)

theorem keyed_of_checkUnique? (hd : s.IsDeclared table key fields)
    (hrows : ∀ row ∈ rows, Record.Shaped fields row.record.values) (hcoherent : rows.Coherent)
    (h : s.checkUnique? table rows = .ok ()) : rows.Keyed key fields := by
  rcases hd.checkUnique?_cases hrows with ⟨-, hkey, hapart⟩ | hother | ⟨detail, hother, -⟩
  · exact ⟨hrows, hkey, hapart, hcoherent⟩
  · rw [hother] at h
    cases h
  · rw [hother] at h
    cases h

theorem rowsOf_setRows (s : Store) (table table' : String) (rows : Rows) :
    (s.setRows table' rows).rowsOf table = if table = table' then rows else s.rowsOf table := by
  rw [rowsOf, setRows, Assoc.lookup_insert]
  split <;> rfl

/-! ## Other tables -/

section Other

variable {table' : String} (htable : table ≠ table')
include htable

theorem rowsOf_insert_of_ne : (s.insert table' r).1.rowsOf table = s.rowsOf table := by
  unfold Store.insert
  dsimp only
  split
  · rw [rowsOf_setRows, if_neg htable]
    rfl
  · rfl

theorem rowsOf_update_of_ne {p : Store × Nat} (hp : s.update? table' f values = .ok p) :
    p.1.rowsOf table = s.rowsOf table := by
  obtain ⟨replacement, -, hp⟩ := bind_eq_ok.mp hp
  obtain ⟨⟨rows, changed⟩, -, hp⟩ := bind_eq_ok.mp hp
  dsimp only at hp
  split at hp
  · cases hp
    rfl
  · obtain ⟨_, -, hp⟩ := bind_eq_ok.mp hp
    cases hp
    rw [rowsOf_setRows, if_neg htable]

theorem rowsOf_delete_of_ne {p : Store × Nat} (hp : s.delete? table' f = .ok p) :
    p.1.rowsOf table = s.rowsOf table := by
  obtain ⟨kept, -, hp⟩ := bind_eq_ok.mp hp
  cases hp
  dsimp only
  split
  · rfl
  · rw [rowsOf_setRows, if_neg htable]

end Other

/-! ## What an update and a delete do -/

section Rows

variable (hd : s.IsDeclared table key fields)
  (hrows : ∀ row ∈ rows, Record.Shaped fields row.record.values)
include hd hrows

theorem overwrite?_eq (u : Nat) (hf : ∀ row ∈ rows, ∃ b, f.matches? row.record = .ok b) :
    s.overwrite? table f u values rows = .ok
      (rows.map fun row ↦ if f.passes row.record then row.overwritten u values else row,
        rows.countP fun row ↦ f.passes row.record) := by
  induction rows with
  | nil => rfl
  | cons row rows ih =>
    obtain ⟨b, hb⟩ := hf row (by simp)
    have hrest := ih (fun row' h ↦ hrows row' (by simp [h])) fun row' h ↦ hf row' (by simp [h])
    rw [overwrite?, hd.conformRow? (hrows row (by simp)), ok_bind, hb, ok_bind, hrest, ok_bind,
      List.map_cons, List.countP_cons, Filter.passes_eq hb]
    cases b <;> rfl

theorem exists_matches?_of_overwrite? {u : Nat} {p : Rows × Nat}
    (h : s.overwrite? table f u values rows = .ok p) :
    ∀ row ∈ rows, ∃ b, f.matches? row.record = .ok b := by
  induction rows generalizing p with
  | nil => nofun
  | cons row rows ih =>
    rw [overwrite?, hd.conformRow? (hrows row (by simp)), ok_bind] at h
    obtain ⟨b, hb, h⟩ := bind_eq_ok.mp h
    obtain ⟨q, hq, -⟩ := bind_eq_ok.mp h
    intro row' hrow'
    rcases List.mem_cons.mp hrow' with rfl | hrow'
    · exact ⟨b, hb⟩
    · exact ih (fun row' h ↦ hrows row' (by simp [h])) hq row' hrow'

theorem keep?_eq (hf : ∀ row ∈ rows, ∃ b, f.matches? row.record = .ok b) :
    s.keep? table f rows = .ok (rows.without f) := by
  induction rows with
  | nil => rfl
  | cons row rows ih =>
    obtain ⟨b, hb⟩ := hf row (by simp)
    have hconform := hd.conform?_eq_ok.mpr (Record.conform?_eq_self (hrows row (by simp)))
    have hrest := ih (fun row' h ↦ hrows row' (by simp [h])) fun row' h ↦ hf row' (by simp [h])
    rw [keep?, hconform, ok_bind, hb, ok_bind, hrest, ok_bind, Rows.without, Rows.without,
      List.filter_cons, Filter.passes_eq hb]
    cases b <;> rfl

theorem exists_matches?_of_keep? {kept : Rows} (h : s.keep? table f rows = .ok kept) :
    ∀ row ∈ rows, ∃ b, f.matches? row.record = .ok b := by
  induction rows generalizing kept with
  | nil => nofun
  | cons row rows ih =>
    have hconform := hd.conform?_eq_ok.mpr (Record.conform?_eq_self (hrows row (by simp)))
    rw [keep?, hconform, ok_bind] at h
    obtain ⟨b, hb, h⟩ := bind_eq_ok.mp h
    obtain ⟨rest, hrest, -⟩ := bind_eq_ok.mp h
    intro row' hrow'
    rcases List.mem_cons.mp hrow' with rfl | hrow'
    · exact ⟨b, hb⟩
    · exact ih (fun row' h ↦ hrows row' (by simp [h])) hrest row' hrow'

end Rows

/-- The rows of a table once a record is appended to them. -/
def inserted (s : Store) (table : String) (r : Record) : Rows :=
  s.rowsOf table ++ [⟨s.lastRow + 1, r, []⟩]

theorem shaped_inserted
    (h : ∀ row ∈ s.rowsOf table, Record.Shaped fields row.record.values)
    (hr : Record.Shaped fields r.values) :
    ∀ row ∈ s.inserted table r, Record.Shaped fields row.record.values := by
  intro row hrow
  rcases List.mem_append.mp hrow with hrow | hrow
  · exact h row hrow
  · rw [List.mem_singleton.mp hrow]
    exact hr

/-- A record that does not take on the declared shape is refused. -/
theorem insert_eq_error {g : Fault} (h : s.conform? table r = .error g) :
    s.insert table r = (s.skipped (s.lastRow + 1), .error g) := by
  have happended : (s.skipped (s.lastRow + 1)).appended? table r = .error g := by
    have hconform : (s.skipped (s.lastRow + 1)).conform? table r = .error g := h
    rw [appended?, hconform]
    rfl
  rw [skipped] at happended
  rw [insert, happended]
  rfl

/-- An insert uses up a row number, and leaves what its check has passed. -/
theorem insert_eq (hr : s.conform? table r = .ok r') :
    s.insert table r =
      match (s.skipped (s.lastRow + 1)).checkUnique? table (s.inserted table r') with
      | .ok _ => ((s.skipped (s.lastRow + 1)).setRows table (s.inserted table r'), .ok ())
      | .error f => (s.skipped (s.lastRow + 1), .error f) := by
  have hconform : (s.skipped (s.lastRow + 1)).conform? table r = .ok r' := hr
  have happended : (s.skipped (s.lastRow + 1)).appended? table r =
      (s.skipped (s.lastRow + 1)).checkUnique? table (s.inserted table r') >>= fun _ ↦
        Except.ok (s.inserted table r') := by
    rw [appended?, hconform]
    rfl
  cases hcheck : (s.skipped (s.lastRow + 1)).checkUnique? table (s.inserted table r') with
  | ok _ =>
    rw [hcheck, skipped] at happended
    rw [insert, happended]
    rfl
  | error f =>
    rw [hcheck, skipped] at happended
    rw [insert, happended]
    rfl

/-- An update that has passed its filter changes nothing, or leaves what its check has passed. -/
theorem update?_eq (hd : s.IsDeclared table key fields)
    (hrows : ∀ row ∈ s.rowsOf table, Record.Shaped fields row.record.values)
    (hvalues : Record.conform? { values } fields = .ok r')
    (hf : ∀ row ∈ s.rowsOf table, ∃ b, f.matches? row.record = .ok b) :
    s.update? table f values =
      if ∀ row ∈ s.rowsOf table, f.passes row.record = false then .ok (s, 0)
      else s.checkUnique? table ((s.rowsOf table).updated f r'.values) >>= fun _ ↦
        .ok (s.setRows table ((s.rowsOf table).updated f r'.values),
          (s.rowsOf table).countP fun row ↦ f.passes row.record) := by
  rw [update?, hd.conform?_eq_ok.mpr hvalues, ok_bind]
  dsimp only
  rw [overwrite?_eq hd hrows _ hf, ok_bind]
  have hnone : ((s.rowsOf table).countP fun row ↦ f.passes row.record) = 0 ↔
      ∀ row ∈ s.rowsOf table, f.passes row.record = false := by
    simp [List.countP_eq_zero]
  simp only [hnone]
  rfl

/-- A delete that has passed its filter leaves the rows that do not pass it. -/
theorem delete?_eq (hd : s.IsDeclared table key fields)
    (hrows : ∀ row ∈ s.rowsOf table, Record.Shaped fields row.record.values)
    (hf : ∀ row ∈ s.rowsOf table, ∃ b, f.matches? row.record = .ok b) :
    ∃ s' n, s.delete? table f = .ok (s', n) ∧ Agrees s s' ∧
      s'.rowsOf table = (s.rowsOf table).without f := by
  rw [delete?, keep?_eq hd hrows hf, ok_bind]
  refine ⟨_, _, rfl, ?_, ?_⟩
  · split
    · exact .refl s
    · exact ⟨rfl, rfl⟩
  · split
    · rename_i hlength
      have hall : (s.rowsOf table).length ≤ ((s.rowsOf table).without f).length := by omega
      exact (List.filter_sublist.eq_of_length_le hall).symm
    · rw [rowsOf_setRows, if_pos rfl]

end Store

/-! ## Writes -/

namespace Rows.Keyed

open Store

variable {s : Store} {table table' : String} {key : List String} {fields : Shape} {r : Record}
  {f : Filter} {values : Assoc Value}

/-- What an insert leaves in a table. -/
theorem insert (hd : s.IsDeclared table key fields) (h : (s.rowsOf table).Keyed key fields)
    (table' : String) (r : Record) : ((s.insert table' r).1.rowsOf table).Keyed key fields := by
  by_cases htable : table = table'
  · subst htable
    cases hr : s.conform? table r with
    | error f =>
      rw [insert_eq_error hr]
      exact h
    | ok r' =>
      have hconform := hd.conform?_eq_ok.mp hr
      have hd' : (s.skipped (s.lastRow + 1)).IsDeclared table key fields := ⟨hd.key, hd.shape⟩
      rw [insert_eq hr]
      split
      · rename_i hcheck
        rw [rowsOf_setRows, if_pos rfl]
        refine keyed_of_checkUnique? hd' (shaped_inserted h.shaped ?_) (h.coherent.append rfl)
          hcheck
        exact Record.shaped_of_conform? hconform
      · exact h
  · rw [rowsOf_insert_of_ne htable]
    exact h

/-- What an update leaves in a table. -/
theorem update (hd : s.IsDeclared table key fields) (h : (s.rowsOf table).Keyed key fields)
    {p : Store × Nat} (hp : s.update? table' f values = .ok p) :
    (p.1.rowsOf table).Keyed key fields := by
  by_cases htable : table = table'
  · subst htable
    obtain ⟨r', hr', hrest⟩ := bind_eq_ok.mp hp
    obtain ⟨q, hq, -⟩ := bind_eq_ok.mp hrest
    have hf := exists_matches?_of_overwrite? hd h.shaped hq
    have hvalues := hd.conform?_eq_ok.mp hr'
    rw [update?_eq hd h.shaped hvalues hf] at hp
    split at hp
    · cases hp
      exact h
    · obtain ⟨_, hcheck, hp⟩ := bind_eq_ok.mp hp
      cases hp
      rw [rowsOf_setRows, if_pos rfl]
      exact keyed_of_checkUnique? hd
        (shaped_updated h.shaped (Record.shaped_of_conform? hvalues) f) (h.coherent.updated f _)
        hcheck
  · rw [rowsOf_update_of_ne htable hp]
    exact h

/-- What a delete leaves in a table. -/
theorem delete (hd : s.IsDeclared table key fields) (h : (s.rowsOf table).Keyed key fields)
    {p : Store × Nat} (hp : s.delete? table' f = .ok p) :
    (p.1.rowsOf table).Keyed key fields := by
  by_cases htable : table = table'
  · subst htable
    obtain ⟨kept, hkept, -⟩ := bind_eq_ok.mp hp
    obtain ⟨s', n, hdelete, -, hrows⟩ :=
      delete?_eq hd h.shaped (exists_matches?_of_keep? hd h.shaped hkept)
    rw [hdelete] at hp
    cases hp
    rw [hrows]
    exact h.sublist List.filter_sublist
  · rw [rowsOf_delete_of_ne htable hp]
    exact h

theorem effect (h : (s.rowsOf table).Keyed key fields) {next : Outcome (Store × Nat)}
    (hnext : ∀ p, next = .ok p → (p.1.rowsOf table).Keyed key fields) :
    ((s.effect next).1.rowsOf table).Keyed key fields := by
  unfold Store.effect
  split
  · exact hnext _ rfl
  · exact h

/-- What a statement leaves in a table. -/
theorem write (hd : s.IsDeclared table key fields) (h : (s.rowsOf table).Keyed key fields)
    (w : WriteStatement) : ((s.write w).1.rowsOf table).Keyed key fields := by
  cases w with
  | insert table' row =>
    rw [Store.write]
    split
    · exact h.insert hd table' _
    · exact h
  | update table' f row =>
    refine h.effect fun p hp ↦ ?_
    obtain ⟨vs, -, hp⟩ := bind_eq_ok.mp hp
    obtain ⟨g, -, hp⟩ := bind_eq_ok.mp hp
    exact h.update hd hp
  | delete table' f =>
    refine h.effect fun p hp ↦ ?_
    obtain ⟨g, -, hp⟩ := bind_eq_ok.mp hp
    exact h.delete hd hp
  | sql text row => exact h
  | junk d => exact h

theorem writeAll (hd : s.IsDeclared table key fields) (h : (s.rowsOf table).Keyed key fields)
    (ws : List WriteStatement) : ((s.writeAll ws).1.rowsOf table).Keyed key fields := by
  induction ws generalizing s with
  | nil => exact h
  | cons w ws ih =>
    have hfirst := h.write hd w
    have hagrees := (harmless_write s w).agrees
    rw [Store.writeAll]
    split
    · rename_i s' _ hw
      rw [hw] at hfirst hagrees
      exact ih (hd.agrees hagrees) hfirst
    · rename_i s' g hw
      rw [hw] at hfirst
      exact hfirst

/-- What a batch of statements leaves in a table. -/
theorem batch (hd : s.IsDeclared table key fields) (h : (s.rowsOf table).Keyed key fields)
    (ws : List WriteStatement) : ((s.batch ws).1.rowsOf table).Keyed key fields := by
  have hall := h.writeAll hd ws
  rw [Store.batch]
  split
  · rename_i s' _ hw
    rw [hw] at hall
    exact hall
  · exact h

end Rows.Keyed

end RecordStore
