import RecordStore.Proofs.Memory.Numbering

/-!
# Row numbers from a counter

A store may keep the number that it gives next in a counter, beside the last one that it gave, and
its rows under their numbers, so that a row under a number that is in use would replace another row.
Such a store never comes to that: from the empty store on it is in the same state as one that always
gives the number behind the last one and puts the row behind all others.

* `CountedStore` is the store with a counter, and `Rows.put` puts a row under its number.
* `CountedMemory.altered_ofMemory` is the statement above.
* `World.rows_numbered` collects what holds of row numbers whatever tasks do.
-/

namespace RecordStore

open Outcome

/-! ## The store with a counter -/

/-- Puts a row under its number: in the place of the row that has this number, or else at the
end. -/
def Rows.put : Rows → StoredRow → Rows
  | [], row => [row]
  | old :: rest, row => if old.number = row.number then row :: rest else old :: put rest row

/-- A row whose number is in use nowhere replaces nothing. -/
theorem Rows.put_fresh {rows : Rows} {row : StoredRow}
    (h : ∀ old ∈ rows, old.number ≠ row.number) : rows.put row = rows ++ [row] := by
  induction rows with
  | nil => rfl
  | cons old rest ih =>
    obtain ⟨hold, hrest⟩ := List.forall_mem_cons.mp h
    rw [put, if_neg hold, ih hrest, List.cons_append]

/-- A store with the number that it gives next. -/
structure CountedStore extends Store where
  next : Nat := 1

namespace CountedStore

/-- The counter is where it should be: behind the last number. -/
def ofStore (s : Store) : CountedStore := ⟨s, s.lastRow + 1⟩

/-- The store with what a call has made of it that gives no numbers. -/
def withStore (c : CountedStore) (s : Store) : CountedStore := { c with toStore := s }

/-- The rows of a table once a record is put under the last number. -/
def placed? (c : CountedStore) (table : String) (r : Record) : Outcome Rows := do
  let rows := (c.rowsOf table).put ⟨c.lastRow, ← c.conform? table r, []⟩
  c.checkUnique? table rows
  return rows

/-- The store once the counter has given a number. -/
def advanced (c : CountedStore) : CountedStore := { c with lastRow := c.next, next := c.next + 1 }

/-- Puts a record under the next number of the counter, which goes on even if the record is
refused. -/
def insert (c : CountedStore) (table : String) (r : Record) : CountedStore × Outcome Unit :=
  let c := c.advanced
  match c.placed? table r with
  | .ok rows => (c.withStore (c.setRows table rows), .ok ())
  | .error f => (c, .error f)

/-- Returns to what was kept, and winds the counter back. -/
def restore (c : CountedStore) (k : Checkpoint) : CountedStore :=
  ⟨c.toStore.restore k, k.lastRow + 1⟩

/-- Makes one write. -/
def write (c : CountedStore) : WriteStatement → CountedStore × Outcome Unit
  | .insert table values => match Record.ofMapping? values with
    | .ok r => c.insert table r
    | .error f => (c, .error f)
  | w => (c.withStore (c.toStore.write w).1, (c.toStore.write w).2)

/-- Makes writes up to the first that fails. -/
def writeAll (c : CountedStore) : List WriteStatement → CountedStore × Outcome Unit
  | [] => (c, .ok ())
  | w :: ws => match c.write w with
    | (c', .ok _) => writeAll c' ws
    | (c', .error f) => (c', .error f)

/-- Makes all the writes, or none of them. -/
def batch (c : CountedStore) (ws : List WriteStatement) : CountedStore × Outcome Unit :=
  match c.writeAll ws with
  | (c', .ok _) => (c', .ok ())
  | (c', .error f) => (c'.restore c.checkpoint, .error f)

/-- The store after a call through a handle. -/
def afterVerb (c : CountedStore) : Verb → CountedStore
  | .insert src r => ((c.withStore (c.declare src)).insert src.table r).1
  | .execute ws => (c.batch ws).1
  | v => c.withStore (v.run c.toStore).1

/-- The store after a call on it. -/
def afterCall (c : CountedStore) : StoreCall → CountedStore
  | .write (.insert table r) => (c.insert table r).1
  | k => c.withStore (k.run c.toStore).1

end CountedStore

/-- A memory whose store has a counter. -/
structure CountedMemory extends Memory where
  next : Nat := 1

namespace CountedMemory

/-- The store with its counter. -/
def counted (p : CountedMemory) : CountedStore := ⟨p.store, p.next⟩

/-- The memory with another store. -/
def withCounted (p : CountedMemory) (c : CountedStore) : CountedMemory :=
  { p with store := c.toStore, next := c.next }

/-- The memory after a change. -/
def run (p : CountedMemory) : Alteration → CountedMemory
  | .verb v => p.withCounted (p.counted.afterVerb v)
  | .call c => p.withCounted (p.counted.afterCall c)
  | .begin id => { p with toMemory := p.opened id }
  | .finish n => { p with toMemory := p.ended n }
  | .undo n => match p.scopes[n]? with
    | some s => p.withCounted (p.counted.restore s.checkpoint)
    | none => p

/-- The memory after some changes. -/
def altered (p : CountedMemory) (as : List Alteration) : CountedMemory := as.foldl run p

/-- The counter is where it should be. -/
def ofMemory (m : Memory) : CountedMemory := ⟨m, m.store.lastRow + 1⟩

end CountedMemory

/-! ## The counter is behind the last number -/

namespace CountedStore

variable {s s' : Store} {table : String} {r : Record}

theorem withStore_ofStore (h : s.checkpoint.Prunes s'.checkpoint) :
    (ofStore s).withStore s' = ofStore s' := by
  have hlast : s'.lastRow = s.lastRow := h.lastRow
  rw [ofStore, withStore, ofStore, hlast]

/-- A row under a number beyond those of its table is put behind the rows of the table. -/
theorem placed?_ofStore (h : ∀ n ∈ s.checkpoint.numbers table, n < s.lastRow) (r : Record) :
    (ofStore s).placed? table r = s.appended? table r := by
  rw [placed?, Store.appended?]
  cases hconform : s.conform? table r with
  | error f =>
    have hconform' : (ofStore s).conform? table r = .error f := hconform
    rw [hconform', error_bind, error_bind]
  | ok r' =>
    have hconform' : (ofStore s).conform? table r = .ok r' := hconform
    -- all numbers of the table are smaller, so there is no row that this one would replace
    have hput : (s.rowsOf table).put ⟨s.lastRow, r', []⟩ =
        s.rowsOf table ++ [⟨s.lastRow, r', []⟩] :=
      Rows.put_fresh fun old hold ↦ (h old.number (List.mem_map_of_mem hold)).ne
    rw [hconform', ok_bind, ok_bind]
    exact congrArg (fun rows ↦ s.checkUnique? table rows >>= fun _ ↦ pure rows) hput

theorem insert_ofStore (h : s.checkpoint.Numbered) (table : String) (r : Record) :
    (ofStore s).insert table r = (ofStore (s.insert table r).1, (s.insert table r).2) := by
  have hfresh : ∀ n ∈ (s.skipped (s.lastRow + 1)).checkpoint.numbers table,
      n < (s.skipped (s.lastRow + 1)).lastRow :=
    fun n hn ↦ Nat.lt_succ_of_le (h.bounded table n hn)
  have hplaced : (ofStore s).advanced.placed? table r =
      (s.skipped (s.lastRow + 1)).appended? table r := placed?_ofStore hfresh r
  have hinsert : s.insert table r =
      match (s.skipped (s.lastRow + 1)).appended? table r with
      | .ok rows => ((s.skipped (s.lastRow + 1)).setRows table rows, .ok ())
      | .error f => (s.skipped (s.lastRow + 1), .error f) := rfl
  rw [insert, hinsert, hplaced]
  cases (s.skipped (s.lastRow + 1)).appended? table r with
  | ok rows => rfl
  | error f => rfl

theorem write_ofStore (h : s.checkpoint.Numbered) (w : WriteStatement) :
    (ofStore s).write w = (ofStore (s.write w).1, (s.write w).2) := by
  cases w with
  | insert table values =>
    rw [write, Store.write]
    cases Record.ofMapping? values with
    | ok r => exact insert_ofStore h table r
    | error f => rfl
  | _ => exact Prod.ext (withStore_ofStore (Store.prunes_write (by simp))) rfl

theorem writeAll_ofStore (h : s.checkpoint.Numbered) (ws : List WriteStatement) :
    (ofStore s).writeAll ws = (ofStore (s.writeAll ws).1, (s.writeAll ws).2) := by
  induction ws generalizing s with
  | nil => rfl
  | cons w ws ih =>
    have hfirst := Store.numbered_write h w
    rw [writeAll, Store.writeAll, write_ofStore h]
    cases hw : s.write w with
    | mk s' r =>
      rw [hw] at hfirst
      cases r with
      | ok _ => exact ih hfirst
      | error f => rfl

/-- A batch that fails winds the counter back. -/
theorem batch_ofStore (h : s.checkpoint.Numbered) (ws : List WriteStatement) :
    (ofStore s).batch ws = (ofStore (s.batch ws).1, (s.batch ws).2) := by
  rw [batch, Store.batch, writeAll_ofStore h]
  cases s.writeAll ws with
  | mk s' r => cases r <;> rfl

theorem afterVerb_ofStore (h : s.checkpoint.Numbered) (v : Verb) :
    (ofStore s).afterVerb v = ofStore (v.run s).1 := by
  cases v with
  | insert src r =>
    rw [← s.checkpoint_declare src] at h
    have hdeclared : (ofStore s).withStore (s.declare src) = ofStore (s.declare src) :=
      withStore_ofStore (s.checkpoint_declare src ▸ .refl _)
    change (((ofStore s).withStore (s.declare src)).insert src.table r).1 = _
    rw [hdeclared, insert_ofStore h]
    rfl
  | execute ws => exact congrArg Prod.fst (batch_ofStore h ws)
  | _ => exact withStore_ofStore (Verb.prunes_run (by simp) (by simp))

theorem afterCall_ofStore (h : s.checkpoint.Numbered) (k : StoreCall) :
    (ofStore s).afterCall k = ofStore (k.run s).1 := by
  cases k with
  | write call =>
    cases call with
    | insert table r => exact congrArg Prod.fst (insert_ofStore h table r)
    | _ => exact withStore_ofStore (StoreCall.prunes_run (by simp))
  | _ => exact withStore_ofStore (StoreCall.prunes_run (by simp))

end CountedStore

namespace CountedMemory

variable {m : Memory}

theorem run_ofMemory (h : m.Numbered) (a : Alteration) :
    (ofMemory m).run a = ofMemory (a.run m) := by
  cases a with
  | verb v =>
    exact congrArg (ofMemory m).withCounted (CountedStore.afterVerb_ofStore h.store v)
  | call c =>
    exact congrArg (ofMemory m).withCounted (CountedStore.afterCall_ofStore h.store c)
  | begin id => rfl
  | finish n => rfl
  | undo n =>
    have hscopes : (ofMemory m).scopes = m.scopes := rfl
    rw [run, Alteration.run, Memory.restored, hscopes]
    cases m.scopes[n]? with
    | none => rfl
    | some scope => rfl

/-- Whatever happens, a memory whose store has a counter goes through the same states. -/
theorem altered_ofMemory (h : m.Numbered) (as : List Alteration) :
    (ofMemory m).altered as = ofMemory (m.altered as) := by
  -- on the changes; the counter stays right because each of them keeps the numbering
  induction as generalizing m with
  | nil => rfl
  | cons a as ih =>
    have hrun : (ofMemory m).altered (a :: as) = ((ofMemory m).run a).altered as := rfl
    rw [hrun, run_ofMemory h, ih (h.run a)]
    rfl

end CountedMemory

/-! ## Inserts -/

/-- An insert takes up the number behind the last one.  If it fails, every row stays; if it
succeeds, the record comes behind the rows of its table, under that number, and the rows of all
other tables stay. -/
structure Store.Appends (s : Store) (table : String) (r : Record) : Prop where
  lastRow : (s.insert table r).1.lastRow = s.lastRow + 1
  failed : ∀ f, (s.insert table r).2 = .error f →
    ∀ other, (s.insert table r).1.rowsOf other = s.rowsOf other
  succeeded : (s.insert table r).2 = .ok () → ∃ r', s.conform? table r = .ok r' ∧
    ∀ other, (s.insert table r).1.rowsOf other =
      if other = table then s.rowsOf table ++ [⟨s.lastRow + 1, r', []⟩] else s.rowsOf other

theorem Store.appends_insert (s : Store) (table : String) (r : Record) : s.Appends table r := by
  rcases s.insert_cases table r with ⟨f, hinsert⟩ | ⟨r', hconform, hinsert⟩
  · obtain ⟨hstore, hresult⟩ := Prod.ext_iff.mp hinsert
    refine ⟨hstore ▸ rfl, fun _ _ _ ↦ hstore ▸ rfl, fun hok ↦ ?_⟩
    cases hresult.symm.trans hok
  · obtain ⟨hstore, hresult⟩ := Prod.ext_iff.mp hinsert
    refine ⟨hstore ▸ rfl, fun f herror ↦ ?_, fun _ ↦ ⟨r', hconform, fun other ↦ ?_⟩⟩
    · cases hresult.symm.trans herror
    · rw [hstore, rowsOf_setRows]
      rfl

namespace World

variable {ε : Type}

/-- Whatever tasks do to an empty store, through any handles and on the store itself, with calls
and batches that succeed or fail and with transactions that are committed or undone, every row has
a number of its own, which is greater than those of the rows before it, and the last row number is
the greatest.  A store that counts its row numbers has then come to the same, its counter is right
behind the last row number, and the next insert puts its record behind all rows of the table and
replaces none. -/
theorem rows_numbered (e : ε) {xs : List (Happening (Memory × ε))}
    (hxs : ∀ x ∈ xs, x.Gives Machine.IsCaller) :
    let m := (xs.foldl after (.ofState (({} : Memory), e))).memory
    m.store.checkpoint.Numbered ∧
      (∃ as, ({} : Memory).altered as = m ∧ ({} : CountedMemory).altered as = .ofMemory m) ∧
      ∀ table r, m.store.Appends table r ∧ (CountedStore.ofStore m.store).insert table r =
        (.ofStore (m.store.insert table r).1, (m.store.insert table r).2) := by
  intro m
  have hempty : ({} : Memory).Numbered := ⟨Checkpoint.numbered_empty, fun _ h ↦ by cases h⟩
  obtain ⟨as, has⟩ : ∃ as, m = ({} : Memory).altered as := exists_altered {} e hxs
  have hnumbered : m.store.checkpoint.Numbered := has ▸ (hempty.altered as).store
  have hcounted : ({} : CountedMemory).altered as = .ofMemory m :=
    has ▸ CountedMemory.altered_ofMemory hempty as
  exact ⟨hnumbered, ⟨as, has.symm, hcounted⟩, fun table r ↦
    ⟨m.store.appends_insert table r, CountedStore.insert_ofStore hnumbered table r⟩⟩

/-- Puts a record into a table of the store. -/
def noting (table : String) (n : Int) (next : Caller Unit Unit) : Caller Unit Unit :=
  .store (.write (.insert table ⟨[("n", ⟨.integer, .integer n⟩)], []⟩)) fun _ ↦ next

/-- Inserts and gives up a transaction, fails to make a batch, fails to insert what is there, and
inserts into another table. -/
def notes : Caller Unit Unit :=
  .store (.declareKey "notes" ["n"]) fun _ ↦ noting "notes" 5 <|
    .transaction .shared
      (fun scope ↦ .call scope (.verb (.insert ⟨"notes", [], [], none⟩
        ⟨[("n", ⟨.integer, .integer 6⟩)], []⟩)) fun _ ↦ .done (.error .wrongType)) fun _ ↦
    .call .shared (.verb (.execute [.insert "notes" [("n", .integer 7)],
      .insert "notes" [("n", .integer 5)]])) fun _ ↦
    noting "notes" 5 <| noting "drafts" 8 <| noting "notes" 9 <| .done (.ok ())

/-- That task is started, and runs until it ends. -/
def notesDone : List (Happening (Memory × Unit)) :=
  .start (fun _ ↦ notes.task) :: List.replicate 7 (.take 0)

/-- What was undone has given its numbers back, the insert that failed has not. -/
theorem rows_numbered_notes :
    let m := (notesDone.foldl after (.ofState (({} : Memory), ()))).memory
    (∀ x ∈ notesDone, x.Gives Machine.IsCaller) ∧
      m.store.checkpoint.numbers "notes" = [1, 4] ∧ m.store.checkpoint.numbers "drafts" = [3] ∧
      m.store.lastRow = 4 ∧ m.store.checkpoint.Numbered := by
  have hgives : ∀ x ∈ notesDone, x.Gives Machine.IsCaller := by
    intro x hx
    rcases List.mem_cons.mp hx with rfl | hx
    · exact fun _ ↦ ⟨Unit, notes, rfl⟩
    · rw [List.eq_of_mem_replicate hx]
      trivial
  exact ⟨hgives, rfl, rfl, rfl, (rows_numbered () hgives).1⟩

end World

end RecordStore
