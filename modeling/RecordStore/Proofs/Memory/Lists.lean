import RecordStore.Proofs.Memory.Keyed

/-!
# Tables as lists

A table whose rows fit its shape is an ordered list of records under row numbers, and every call
that writes to the store does to it what it would do to such a list: an insert appends the record at
the end, an update overwrites values in the records that pass its filter, where they stand, and a
delete takes the records away that pass its filter.  A call that fails leaves every table as it is,
and so does any call on another table.

* `TableCall` is a call that writes, and `TableCall.evolve?` is what it does to a list.
* `Store.Lists` says which list a table is.
* `TableCall.exists_evolves` is the statement above for one call, `TableCall.exists_run` for calls
  one after another.
-/

namespace RecordStore

open Outcome

/-- Records under their row numbers. -/
abbrev Listing := List (Nat × Record)

/-- A call that writes to one table. -/
inductive TableCall where
  | insert (table : String) (r : Record)
  | update (table : String) (f : Filter) (values : Assoc Value)
  | delete (table : String) (f : Filter)

namespace TableCall

/-- The table that the call is about. -/
def table : TableCall → String
  | insert table _ => table
  | update table _ _ => table
  | delete table _ => table

/-- Makes the call: the store that it leaves, and its answer, which for an update and a delete is
the number of records. -/
def make (s : Store) : TableCall → Store × Outcome (Option Nat)
  | insert table r => ((s.insert table r).1, (s.insert table r).2.map fun _ ↦ none)
  | update table f values => match s.update? table f values with
    | .ok (s', n) => (s', .ok (some n))
    | .error g => (s, .error g)
  | delete table f => match s.delete? table f with
    | .ok (s', n) => (s', .ok (some n))
    | .error g => (s, .error g)

/-- Makes calls one after another, whatever each of them answers. -/
def makeAll (s : Store) (cs : List TableCall) : Store := cs.foldl (fun s c ↦ (c.make s).1) s

/-- What the call does to a list, and its answer.  The shape of the table and the number of the next
row are those of the store. -/
def evolve? (s : Store) (ls : Listing) : TableCall → Outcome (Listing × Option Nat)
  | insert table r => do return (ls ++ [(s.lastRow + 1, ← s.conform? table r)], none)
  | update table f values => do
    let new ← s.conform? table { values }
    let _ ← ls.mapM fun p ↦ f.matches? p.2
    return (ls.map fun p ↦ if f.passes p.2 then (p.1, p.2.replace new.values) else p,
      some (ls.countP fun p ↦ f.passes p.2))
  | delete _ f => do
    let _ ← ls.mapM fun p ↦ f.matches? p.2
    return (ls.filter fun p ↦ !f.passes p.2, some (ls.countP fun p ↦ f.passes p.2))

end TableCall

/-! ## The list of a table -/

/-- The rows, read in the shape of the table, are the list. -/
def Rows.ListsAs (s : Store) (table : String) (rows : Rows) (ls : Listing) : Prop :=
  List.Forall₂ (fun row p ↦ s.conform? table row.record = .ok p.2 ∧ row.number = p.1) rows ls

/-- The table gives the records of the list, and has their row numbers. -/
structure Store.Lists (s : Store) (table : String) (ls : Listing) : Prop where
  records : s.records? table [] = .ok (ls.map Prod.snd)
  numbers : (s.rowsOf table).map StoredRow.number = ls.map Prod.fst

section Lists

variable {s s' : Store} {table : String} {r r' : Record} {rows rows' : Rows} {ls ls' : Listing}
  {f : Filter} {values : Assoc Value}

theorem Rows.listsAs_iff : rows.ListsAs s table ls ↔
    rows.mapM (fun row ↦ s.conform? table row.record) = .ok (ls.map Prod.snd) ∧
      rows.map StoredRow.number = ls.map Prod.fst := by
  rw [mapM_eq_ok, List.forall₂_map_right_iff, ← List.forall₂_eq_eq_eq, List.forall₂_map_left_iff,
    List.forall₂_map_right_iff]
  constructor
  · intro h
    exact ⟨h.imp fun _ _ ↦ And.left, h.imp fun _ _ ↦ And.right⟩
  · rintro ⟨hrecords, hnumbers⟩
    induction hrecords with
    | nil => exact .nil
    | cons hrecord _ ih =>
      cases hnumbers with
      | cons hnumber hnumbers => exact .cons ⟨hrecord, hnumber⟩ (ih hnumbers)

/-- Only the fields are overwritten that are named. -/
theorem Record.valueOrNull_replace_of_notMem {n : String} (h : n ∉ values.keys) :
    (r.replace values).valueOrNull n = r.valueOrNull n := by
  have hnone : (Assoc.ofPairs values).lookup n = none := by
    rw [List.lookup_eq_none_iff]
    intro p hp
    rw [bne_iff_ne]
    rintro rfl
    rcases Assoc.mem_of_mem_merge hp with hp | hp
    · cases hp
    · exact h (List.mem_map_of_mem hp)
  rw [Record.valueOrNull_replace, hnone]
  rfl

namespace Store

theorem lists_iff : s.Lists table ls ↔ (s.rowsOf table).ListsAs s table ls := by
  rw [Rows.listsAs_iff]
  constructor
  · rintro ⟨hrecords, hnumbers⟩
    exact ⟨hrecords, hnumbers⟩
  · rintro ⟨hrecords, hnumbers⟩
    exact ⟨hrecords, hnumbers⟩

/-- A table is one list only. -/
theorem Lists.unique (h : s.Lists table ls) (h' : s.Lists table ls') : ls = ls' := by
  have hrecords : ls.map Prod.snd = ls'.map Prod.snd :=
    Except.ok.inj (h.records.symm.trans h'.records)
  have hnumbers : ls.map Prod.fst = ls'.map Prod.fst := h.numbers.symm.trans h'.numbers
  rw [← List.zip_unzip ls, ← List.zip_unzip ls', List.unzip_eq_map, List.unzip_eq_map, hrecords,
    hnumbers]

/-- Values keep their names in taking on the shape. -/
theorem keys_conform? (h : s.conform? table r = .ok r') : r'.values.keys = r.values.keys := by
  obtain ⟨vs, hvs, hr'⟩ := bind_eq_ok.mp (conform?_eq_ok.mp h)
  cases hr'
  have hall := mapM_eq_ok.mp hvs
  clear h hvs
  generalize r.values = values at hall
  induction hall with
  | nil => rfl
  | @cons p q _ _ hpq _ ih =>
    have hname : q.1 = p.1 := by
      unfold Record.conformValue? at hpq
      split at hpq
      · obtain ⟨v, -, hpq⟩ := bind_eq_ok.mp hpq
        cases hpq
        rfl
      · cases hpq
        rfl
    exact congrArg₂ List.cons hname ih

theorem conformRow?_eq (h : s.conform? table r = .ok r') {row : StoredRow} (hrow : row.record = r) :
    s.conformRow? table row = .ok (row.reshaped r') := by
  rw [conformRow?, hrow, h]
  rfl

end Store

theorem Rows.ListsAs.agrees (h : rows.ListsAs s table ls) (ha : s.Agrees s') :
    rows.ListsAs s' table ls := by
  apply h.imp
  rintro row p ⟨hrecord, hnumber⟩
  refine ⟨?_, hnumber⟩
  rw [← hrecord, Store.conform?, Store.shape?, ha.shapes]
  rfl

namespace Rows.ListsAs

/-- An update overwrites values in the list, or fails where its filter fails. -/
theorem overwrite? (h : rows.ListsAs s table ls) {new : Record}
    (hnew : s.conform? table { values } = .ok new) (u : Nat) :
    (∃ bs rows', (ls.mapM fun p ↦ f.matches? p.2) = .ok bs ∧
      s.overwrite? table f u new.values rows = .ok (rows', ls.countP fun p ↦ f.passes p.2) ∧
      rows'.ListsAs s table
        (ls.map fun p ↦ if f.passes p.2 then (p.1, p.2.replace new.values) else p)) ∨
    ∃ g, (ls.mapM fun p ↦ f.matches? p.2) = .error g ∧
      s.overwrite? table f u new.values rows = .error g := by
  induction h with
  | nil => exact .inl ⟨[], [], rfl, rfl, .nil⟩
  | @cons row p rows ls hrow hrows ih =>
    obtain ⟨hrecord, hnumber⟩ := hrow
    rw [List.mapM_cons, Store.overwrite?, Store.conformRow?_eq hrecord rfl, ok_bind]
    cases hb : f.matches? p.2 with
    | error g =>
      have hfails : f.matches? (row.reshaped p.2).record = .error g := hb
      rw [hfails]
      exact .inr ⟨g, rfl, rfl⟩
    | ok b =>
      have hpasses : f.matches? (row.reshaped p.2).record = .ok b := hb
      rw [hpasses, ok_bind, ok_bind]
      rcases ih with ⟨bs, rows', hbs, hrest, hlists⟩ | ⟨g, hbs, hrest⟩
      · left
        rw [hbs, hrest]
        refine ⟨b :: bs,
          if b then (row.reshaped p.2).overwritten u new.values :: rows' else row :: rows',
          rfl, ?_, ?_⟩
        · rw [List.countP_cons, Filter.passes_eq hb]
          cases b <;> rfl
        · rw [List.map_cons, Filter.passes_eq hb]
          cases b with
          | true => exact .cons ⟨Store.conformTo?_replace hrecord hnew, hnumber⟩ hlists
          | false => exact .cons ⟨hrecord, hnumber⟩ hlists
      · right
        rw [hbs, hrest]
        exact ⟨g, rfl, rfl⟩

/-- A delete keeps of the list what does not pass its filter, or fails where the filter fails. -/
theorem keep? (h : rows.ListsAs s table ls) :
    (∃ bs rows', (ls.mapM fun p ↦ f.matches? p.2) = .ok bs ∧ s.keep? table f rows = .ok rows' ∧
      rows'.ListsAs s table (ls.filter fun p ↦ !f.passes p.2)) ∨
    ∃ g, (ls.mapM fun p ↦ f.matches? p.2) = .error g ∧ s.keep? table f rows = .error g := by
  induction h with
  | nil => exact .inl ⟨[], [], rfl, rfl, .nil⟩
  | @cons row p rows ls hrow hrows ih =>
    obtain ⟨hrecord, hnumber⟩ := hrow
    rw [List.mapM_cons, Store.keep?, hrecord, ok_bind]
    cases hb : f.matches? p.2 with
    | error g => exact .inr ⟨g, rfl, rfl⟩
    | ok b =>
      rw [ok_bind, ok_bind]
      rcases ih with ⟨bs, rows', hbs, hrest, hlists⟩ | ⟨g, hbs, hrest⟩
      · left
        rw [hbs, hrest]
        refine ⟨b :: bs, if b then rows' else row :: rows', rfl, rfl, ?_⟩
        rw [List.filter_cons, Filter.passes_eq hb]
        cases b with
        | true => exact hlists
        | false => exact .cons ⟨hrecord, hnumber⟩ hlists
      · right
        rw [hbs, hrest]
        exact ⟨g, rfl, rfl⟩

end Rows.ListsAs

/-! ## One call -/

namespace TableCall

variable {c : TableCall}

theorem agrees_make (s : Store) (c : TableCall) : s.Agrees (c.make s).1 := by
  cases c with
  | insert table r => exact (s.harmless_insert table r).agrees
  | update table f values =>
    rw [make]
    split
    · rename_i h
      exact Store.agrees_update h
    · exact .refl s
  | delete table f =>
    rw [make]
    split
    · rename_i h
      exact Store.agrees_delete h
    · exact .refl s

theorem tables_make_of_error {g : Fault} (h : (c.make s).2 = .error g) :
    (c.make s).1.tables = s.tables := by
  cases c with
  | insert table r =>
    have hfails : (s.insert table r).2 = .error g := by
      rw [make] at h
      cases hr : (s.insert table r).2 with
      | ok _ =>
        rw [hr] at h
        cases h
      | error g' =>
        rw [hr] at h
        cases h
        rfl
    have hskipped := (s.harmless_insert table r).failed g hfails
    rw [make, hskipped]
    rfl
  | update table f values =>
    rw [make] at h ⊢
    split at h
    · cases h
    · rfl
  | delete table f =>
    rw [make] at h ⊢
    split at h
    · cases h
    · rfl

theorem rowsOf_make_of_ne (h : table ≠ c.table) : (c.make s).1.rowsOf table = s.rowsOf table := by
  cases c with
  | insert table' r => exact Store.rowsOf_insert_of_ne h
  | update table' f values =>
    rw [make]
    split
    · rename_i hp
      exact Store.rowsOf_update_of_ne h hp
    · rfl
  | delete table' f =>
    rw [make]
    split
    · rename_i hp
      exact Store.rowsOf_delete_of_ne h hp
    · rfl

/-- What a call makes of the list of its table. -/
inductive Acts (c : TableCall) (s : Store) (ls : Listing) : Listing → Prop
  /-- It fails as it does on the list. -/
  | failed {g : Fault} (h : c.evolve? s ls = .error g) (hmake : (c.make s).2 = .error g) :
    Acts c s ls ls
  /-- The key of the table refuses the rows that the list would have become. -/
  | refused {ls' : Listing} {n : Option Nat} {g : Fault} {rows : Rows}
    (h : c.evolve? s ls = .ok (ls', n)) (hrows : rows.ListsAs s c.table ls')
    (hcheck : (c.make s).1.checkUnique? c.table rows = .error g)
    (hmake : (c.make s).2 = .error g) : Acts c s ls ls
  /-- It does what it does to the list, and gives the same answer. -/
  | done {ls' : Listing} {n : Option Nat} (h : c.evolve? s ls = .ok (ls', n))
    (hmake : (c.make s).2 = .ok n) : Acts c s ls ls'

theorem exists_acts_insert (h : (s.rowsOf table).ListsAs s table ls) (r : Record) :
    ∃ ls', (insert table r).Acts s ls ls' ∧
      ((s.insert table r).1.rowsOf table).ListsAs s table ls' := by
  cases hr : s.conform? table r with
  | error g =>
    have hevolve : (insert table r).evolve? s ls = .error g := by
      rw [evolve?, hr]
      rfl
    have hinsert := Store.insert_eq_error hr
    refine ⟨ls, .failed hevolve ?_, ?_⟩
    · rw [make, hinsert]
      rfl
    · rw [hinsert]
      exact h
  | ok r' =>
    have hevolve : (insert table r).evolve? s ls = .ok (ls ++ [(s.lastRow + 1, r')], none) := by
      rw [evolve?, hr]
      rfl
    have hrows : (s.inserted table r').ListsAs s table (ls ++ [(s.lastRow + 1, r')]) :=
      List.rel_append h (.cons ⟨Store.conformTo?_conformTo? hr, rfl⟩ .nil)
    have hinsert := Store.insert_eq hr
    cases hcheck : (s.skipped (s.lastRow + 1)).checkUnique? table (s.inserted table r') with
    | error g =>
      rw [hcheck] at hinsert
      refine ⟨ls, .refused hevolve hrows (g := g) ?_ ?_, ?_⟩
      · rw [make, hinsert]
        exact hcheck
      · rw [make, hinsert]
        rfl
      · rw [hinsert]
        exact h
    | ok _ =>
      rw [hcheck] at hinsert
      refine ⟨_, .done hevolve ?_, ?_⟩
      · rw [make, hinsert]
        rfl
      · rw [hinsert, Store.rowsOf_setRows, if_pos rfl]
        exact hrows

theorem exists_acts_update (h : (s.rowsOf table).ListsAs s table ls) (f : Filter)
    (values : Assoc Value) :
    ∃ ls', (update table f values).Acts s ls ls' ∧
      (((update table f values).make s).1.rowsOf table).ListsAs s table ls' := by
  have hfails {g : Fault} (hevolve : (update table f values).evolve? s ls = .error g)
      (hupdate : s.update? table f values = .error g) :
      ∃ ls', (update table f values).Acts s ls ls' ∧
        (((update table f values).make s).1.rowsOf table).ListsAs s table ls' := by
    refine ⟨ls, .failed hevolve ?_, ?_⟩
    · rw [make, hupdate]
    · rw [make, hupdate]
      exact h
  cases hnew : s.conform? table { values } with
  | error g =>
    apply hfails (g := g)
    · rw [evolve?, hnew]
      rfl
    · rw [Store.update?, hnew]
      rfl
  | ok new =>
    rcases h.overwrite? (f := f) hnew (s.rowsOf table).nextUpdate with
      ⟨bs, rows, hbs, hoverwrite, hrows⟩ | ⟨g, hbs, hoverwrite⟩
    · have hevolve : (update table f values).evolve? s ls =
          .ok (ls.map fun p ↦ if f.passes p.2 then (p.1, p.2.replace new.values) else p,
            some (ls.countP fun p ↦ f.passes p.2)) := by
        rw [evolve?, hnew, ok_bind, hbs]
        rfl
      have hupdate : s.update? table f values =
          if (ls.countP fun p ↦ f.passes p.2) = 0 then .ok (s, 0)
          else s.checkUnique? table rows >>= fun _ ↦
            .ok (s.setRows table rows, ls.countP fun p ↦ f.passes p.2) := by
        rw [Store.update?, hnew, ok_bind]
        dsimp only
        rw [hoverwrite, ok_bind]
        rfl
      by_cases hnone : (ls.countP fun p ↦ f.passes p.2) = 0
      · rw [if_pos hnone] at hupdate
        have hsame : (ls.map fun p ↦ if f.passes p.2 then (p.1, p.2.replace new.values) else p) =
            ls := by
          rw [List.map_congr_left (g := id), List.map_id]
          intro p hp
          exact if_neg (List.countP_eq_zero.mp hnone p hp)
        refine ⟨_, .done hevolve ?_, ?_⟩
        · rw [make, hupdate, hnone]
        · rw [make, hupdate, hsame]
          exact h
      · rw [if_neg hnone] at hupdate
        cases hcheck : s.checkUnique? table rows with
        | error g =>
          rw [hcheck, error_bind] at hupdate
          refine ⟨ls, .refused hevolve hrows (g := g) ?_ ?_, ?_⟩
          · rw [make, hupdate]
            exact hcheck
          · rw [make, hupdate]
          · rw [make, hupdate]
            exact h
        | ok _ =>
          rw [hcheck, ok_bind] at hupdate
          refine ⟨_, .done hevolve ?_, ?_⟩
          · rw [make, hupdate]
          · rw [make, hupdate, Store.rowsOf_setRows, if_pos rfl]
            exact hrows
    · apply hfails (g := g)
      · rw [evolve?, hnew, ok_bind, hbs]
        rfl
      · rw [Store.update?, hnew, ok_bind]
        dsimp only
        rw [hoverwrite]
        rfl

theorem exists_acts_delete (h : (s.rowsOf table).ListsAs s table ls) (f : Filter) :
    ∃ ls', (delete table f).Acts s ls ls' ∧
      (((delete table f).make s).1.rowsOf table).ListsAs s table ls' := by
  rcases h.keep? (f := f) with ⟨bs, rows, hbs, hkeep, hrows⟩ | ⟨g, hbs, hkeep⟩
  · have hevolve : (delete table f).evolve? s ls =
        .ok (ls.filter fun p ↦ !f.passes p.2, some (ls.countP fun p ↦ f.passes p.2)) := by
      rw [evolve?, hbs]
      rfl
    have hsum := List.length_eq_countP_add_countP (fun p : Nat × Record ↦ f.passes p.2) (l := ls)
    have hkept : (ls.filter fun p ↦ !f.passes p.2).length =
        ls.countP fun p ↦ !f.passes p.2 := List.countP_eq_length_filter.symm
    have hremoved : (s.rowsOf table).length - rows.length = ls.countP fun p ↦ f.passes p.2 := by
      rw [h.length_eq, hrows.length_eq, hkept, hsum]
      simp
    have hdelete : s.delete? table f =
        .ok (if (ls.countP fun p ↦ f.passes p.2) = 0 then s else s.setRows table rows,
          ls.countP fun p ↦ f.passes p.2) := by
      rw [Store.delete?, hkeep, ok_bind, hremoved]
      rfl
    refine ⟨_, .done hevolve ?_, ?_⟩
    · rw [make, hdelete]
    · rw [make, hdelete]
      dsimp only
      split
      · rename_i hnone
        have hsame : (ls.filter fun p ↦ !f.passes p.2) = ls := by
          apply List.filter_eq_self.mpr
          intro p hp
          simpa using List.countP_eq_zero.mp hnone p hp
        rw [hsame]
        exact h
      · rw [Store.rowsOf_setRows, if_pos rfl]
        exact hrows
  · have hevolve : (delete table f).evolve? s ls = .error g := by
      rw [evolve?, hbs]
      rfl
    have hdelete : s.delete? table f = .error g := by
      rw [Store.delete?, hkeep]
      rfl
    refine ⟨ls, .failed hevolve ?_, ?_⟩
    · rw [make, hdelete]
    · rw [make, hdelete]
      exact h

theorem exists_acts (h : (s.rowsOf c.table).ListsAs s c.table ls) :
    ∃ ls', c.Acts s ls ls' ∧ ((c.make s).1.rowsOf c.table).ListsAs s c.table ls' := by
  cases c with
  | insert table r => exact exists_acts_insert h r
  | update table f values => exact exists_acts_update h f values
  | delete table f => exact exists_acts_delete h f

/-- What a call makes of the list of a table, be the table its own or another one. -/
structure Evolves (c : TableCall) (s : Store) (table : String) (ls ls' : Listing) : Prop where
  lists : (c.make s).1.Lists table ls'
  own : c.table = table → c.Acts s ls ls'
  other : c.table ≠ table → ls' = ls
  /-- An update overwrites the named fields only. -/
  named : ∀ f values new, c = .update table f values → s.conform? table { values } = .ok new →
    ∀ (r : Record) (n : String), n ∉ values.keys →
      (r.replace new.values).valueOrNull n = r.valueOrNull n
  /-- No other table changes, and none at all where the call fails. -/
  untouched : ∀ table', table' ≠ c.table ∨ (∃ g, (c.make s).2 = .error g) →
    (c.make s).1.rowsOf table' = s.rowsOf table' ∧
      ∀ fields, (c.make s).1.records? table' fields = s.records? table' fields

theorem exists_evolves (h : s.Lists table ls) (c : TableCall) :
    ∃ ls', c.Evolves s table ls ls' := by
  have hshapes := (agrees_make s c).shapes
  have hnamed (f : Filter) (values : Assoc Value) (new : Record)
      (_ : c = .update table f values) (hnew : s.conform? table { values } = .ok new)
      (r : Record) (n : String) (hn : n ∉ values.keys) :
      (r.replace new.values).valueOrNull n = r.valueOrNull n :=
    Record.valueOrNull_replace_of_notMem (Store.keys_conform? hnew ▸ hn)
  have huntouched (table' : String)
      (h : table' ≠ c.table ∨ ∃ g, (c.make s).2 = .error g) :
      (c.make s).1.rowsOf table' = s.rowsOf table' ∧
        ∀ fields, (c.make s).1.records? table' fields = s.records? table' fields := by
    have hrows : (c.make s).1.rowsOf table' = s.rowsOf table' := by
      rcases h with hother | ⟨g, hg⟩
      · exact rowsOf_make_of_ne hother
      · rw [Store.rowsOf, tables_make_of_error hg]
        rfl
    refine ⟨hrows, fun fields ↦ ?_⟩
    rw [Store.records?, hrows, Store.shape?, hshapes]
    rfl
  have hlists := Store.lists_iff.mp h
  by_cases htable : c.table = table
  · subst htable
    obtain ⟨ls', hacts, hls'⟩ := exists_acts hlists
    refine ⟨ls', ?_, fun _ ↦ hacts, ?_, hnamed, huntouched⟩
    · apply Store.lists_iff.mpr
      exact hls'.agrees (agrees_make s c)
    · intro hne
      exact absurd rfl hne
  · refine ⟨ls, ?_, ?_, fun _ ↦ rfl, hnamed, huntouched⟩
    · apply Store.lists_iff.mpr
      rw [rowsOf_make_of_ne (Ne.symm htable)]
      exact hlists.agrees (agrees_make s c)
    · intro heq
      exact absurd heq htable

/-! ## Calls one after another -/

/-- What calls one after another make of the list of a table. -/
inductive Run (table : String) : Store → Listing → List TableCall → Listing → Prop
  | nil {s : Store} {ls : Listing} : Run table s ls [] ls
  | cons {s : Store} {ls ls' ls'' : Listing} {c : TableCall} {cs : List TableCall}
    (h : c.Evolves s table ls ls') (hrest : Run table (c.make s).1 ls' cs ls'') :
    Run table s ls (c :: cs) ls''

/-- A table evolves as a list. -/
theorem exists_run (h : s.Lists table ls) (cs : List TableCall) :
    ∃ ls', Run table s ls cs ls' ∧ (makeAll s cs).Lists table ls' := by
  induction cs generalizing s ls with
  | nil => exact ⟨ls, .nil, h⟩
  | cons c cs ih =>
    obtain ⟨ls', hc⟩ := exists_evolves h c
    obtain ⟨ls'', hrest, hlists⟩ := ih hc.lists
    exact ⟨ls'', .cons hc hrest, hlists⟩

/-- An update, a delete and an insert in a table of two records, and an insert in another table. -/
theorem exists_run_users :
    let user (n : Int) : Record := ⟨[("id", ⟨.integer, .integer n⟩)], []⟩
    let is (n : Int) : Filter := .compare (.name "id") .eq (.one ⟨.integer, .integer n⟩)
    let s : Store := ⟨[("users", [⟨1, user 1, []⟩, ⟨2, user 2, []⟩])], [("users", ["id"])],
      [("users", [("id", .integer)])], 2⟩
    let cs : List TableCall := [.update "users" (is 2) (user 5).values, .delete "users" (is 1),
      .insert "orders" (user 9), .insert "users" (user 7)]
    s.Lists "users" [(1, user 1), (2, user 2)] ∧
      ∃ ls', Run "users" s [(1, user 1), (2, user 2)] cs ls' ∧
        (makeAll s cs).Lists "users" ls' ∧ ls' = [(2, user 5), (4, user 7)] := by
  intro user is s cs
  have hlists : s.Lists "users" [(1, user 1), (2, user 2)] := ⟨rfl, rfl⟩
  obtain ⟨ls', hrun, hls'⟩ := exists_run hlists cs
  let after (users orders : Rows) (lastRow : Nat) : Store :=
    ⟨("users", users) :: if orders.isEmpty then [] else [("orders", orders)], s.keys, s.shapes,
      lastRow⟩
  have hupdate : ((TableCall.update "users" (is 2) (user 5).values).make s).1 =
      after [⟨1, user 1, []⟩, ⟨2, user 5, [("id", 1)]⟩] [] 2 := rfl
  have hdelete : ((TableCall.delete "users" (is 1)).make
      (after [⟨1, user 1, []⟩, ⟨2, user 5, [("id", 1)]⟩] [] 2)).1 =
        after [⟨2, user 5, [("id", 1)]⟩] [] 2 := rfl
  have hother : ((TableCall.insert "orders" (user 9)).make
      (after [⟨2, user 5, [("id", 1)]⟩] [] 2)).1 =
        after [⟨2, user 5, [("id", 1)]⟩] [⟨3, user 9, []⟩] 3 := rfl
  have hinsert : ((TableCall.insert "users" (user 7)).make
      (after [⟨2, user 5, [("id", 1)]⟩] [⟨3, user 9, []⟩] 3)).1 =
        after [⟨2, user 5, [("id", 1)]⟩, ⟨4, user 7, []⟩] [⟨3, user 9, []⟩] 4 := rfl
  have hafter : (makeAll s cs).Lists "users" [(2, user 5), (4, user 7)] := by
    rw [makeAll, List.foldl_cons, hupdate, List.foldl_cons, hdelete, List.foldl_cons, hother,
      List.foldl_cons, hinsert]
    exact ⟨rfl, rfl⟩
  refine ⟨hlists, ls', hrun, hls', ?_⟩
  exact hls'.unique hafter

end TableCall

end Lists

end RecordStore
