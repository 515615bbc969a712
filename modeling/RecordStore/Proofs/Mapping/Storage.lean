import RecordStore.Pool.Database
import RecordStore.Proofs.Mapping.Shape
import RecordStore.Proofs.Memory.Hooks
import RecordStore.Proofs.Memory.Keyed
import RecordStore.Proofs.Sql.Write

/-!
# Entities in storage

The record of an entity survives storage.  In a relational database every column is inserted with
its own parameter, and a row that holds the parameters is read as the record; in memory the record
is the last one of its table.  So the entity is what is loaded from either backend, if it is what is
loaded from its record.

* `EntityMapping.Accepts` tells of which rows a mapping makes a record.
* `EntityMapping.Survives` is what is claimed of a record.
* `EntityMapping.survives` is the statement above.
-/

namespace RecordStore

open Outcome

variable {α : Type}

/-! ## Accepted rows -/

namespace EntityMapping

/-- The row has the declared columns and no other ones, and in each of them null, a value of the
declared kind, or a whole number where decimals are declared. -/
structure Accepts (m : EntityMapping α) (row : Row) : Prop where
  names : ∀ n, n ∈ row.keys ↔ n ∈ m.fields.keys
  values : ∀ n k d, m.fields.lookup n = some k → row.lookup n = some d → ∃ v, Value.of? d = .ok v ∧
    (v.isNull = true ∨ v.kind = k ∨ (v.kind = .integer ∧ k = .decimal))

/-- Dumping gives values of the known kinds, and no decimal that is no number. -/
def DumpsValues (m : EntityMapping α) (x : α) : Prop :=
  ∀ row, m.dump x = .ok row → ∀ p ∈ row, ∃ v, Value.of? p.2 = .ok v ∧ v.IsProper

variable {m : EntityMapping α} {x : α} {r : Record} {row : Row} {n : String} {k : Kind} {v : Value}

theorem dumped?_eq_ok : m.dumped? x = .ok row ↔ m.dump x = .ok row := by
  rw [dumped?]
  cases m.dump x with
  | ok row' => rfl
  | error f => exact iff_of_false nofun nofun

theorem checkShape?_eq_ok : m.checkShape? row = .ok () ↔ ∀ n, n ∈ row.keys ↔ n ∈ m.fields.keys := by
  have hempty : ((m.missing row).isEmpty && (m.extra row).isEmpty) = true ↔
      ∀ n, n ∈ row.keys ↔ n ∈ m.fields.keys := by
    simp only [missing, extra, Bool.and_eq_true, List.isEmpty_iff, List.filter_eq_nil_iff,
      Assoc.has, Bool.not_eq_true', List.contains_eq_mem, decide_eq_false_iff_not, not_not]
    constructor
    · rintro ⟨hmissing, hextra⟩ n
      exact ⟨hextra n, hmissing n⟩
    · intro h
      exact ⟨fun n hn ↦ (h n).mpr hn, fun n hn ↦ (h n).mp hn⟩
  rw [← hempty, checkShape?]
  split
  · rename_i h
    exact iff_of_true rfl h
  · rename_i h
    exact iff_of_false nofun h

theorem field?_eq_ok : m.field? row n k = .ok v ↔
    ∃ w, Value.of? ((row.lookup n).getD .null) = .ok w ∧ w.coerce? k = .ok v := by
  rw [← bind_eq_ok, field?]
  split
  · rename_i h
    rw [h]
    rfl
  · rename_i h
    rw [h]
    exact iff_of_false nofun nofun

theorem toRecord?_eq_ok : m.toRecord? x = .ok r ↔ ∃ row values, m.dump x = .ok row ∧
    (∀ n, n ∈ row.keys ↔ n ∈ m.fields.keys) ∧
    (m.fields.mapM fun p ↦ do return (p.1, ← m.field? row p.1 p.2)) = .ok values ∧
    r = { values } := by
  rw [toRecord?, bind_eq_ok]
  constructor
  · rintro ⟨row, hrow, h⟩
    obtain ⟨⟨⟩, hshape, h⟩ := bind_eq_ok.mp h
    obtain ⟨values, hvalues, h⟩ := bind_eq_ok.mp h
    exact ⟨row, values, dumped?_eq_ok.mp hrow, checkShape?_eq_ok.mp hshape, hvalues,
      (Except.ok.inj h).symm⟩
  · rintro ⟨row, values, hrow, hshape, hvalues, rfl⟩
    refine ⟨row, dumped?_eq_ok.mpr hrow, ?_⟩
    exact bind_eq_ok.mpr ⟨(), checkShape?_eq_ok.mpr hshape, bind_eq_ok.mpr ⟨values, hvalues, rfl⟩⟩

/-- Every field is given a value exactly if the row has what it may have there. -/
theorem exists_values_iff (hnodup : m.fields.keys.Nodup)
    (hvalues : ∀ p ∈ row, ∃ v, Value.of? p.2 = .ok v ∧ v.IsProper)
    (hnames : ∀ n, n ∈ row.keys ↔ n ∈ m.fields.keys) :
    (∃ values, (m.fields.mapM fun p ↦ do return (p.1, ← m.field? row p.1 p.2)) =
      Except.ok values) ↔ m.Accepts row := by
  rw [exists_mapM_eq_ok]
  constructor
  · intro h
    refine ⟨hnames, fun n k d hk hd ↦ ?_⟩
    obtain ⟨q, hq⟩ := h (n, k) (mem_of_lookup hk)
    obtain ⟨v, hv, -⟩ := bind_eq_ok.mp hq
    obtain ⟨w, hw, hwv⟩ := field?_eq_ok.mp hv
    obtain ⟨w', hw', hproper⟩ := hvalues (n, d) (mem_of_lookup hd)
    rw [hd] at hw
    cases hw'.symm.trans hw
    exact ⟨w, hw, hproper.exists_coerce?_iff.mp ⟨v, hwv⟩⟩
  · rintro h ⟨n, k⟩ hp
    obtain ⟨p, hmem, rfl⟩ := List.mem_map.mp ((hnames n).mpr (List.mem_map_of_mem hp))
    obtain ⟨d, hd⟩ := Option.isSome_iff_exists.mp
      (List.lookup_isSome_iff.mpr ⟨p, hmem, beq_self_eq_true p.1⟩)
    obtain ⟨w, hw, hkind⟩ := h.values p.1 k d (Assoc.lookup_of_mem hnodup hp) hd
    obtain ⟨w', hw', hproper⟩ := hvalues (p.1, d) (mem_of_lookup hd)
    cases hw'.symm.trans hw
    obtain ⟨v, hv⟩ := hproper.exists_coerce?_iff.mpr hkind
    have hfield : m.field? row p.1 k = .ok v := field?_eq_ok.mpr ⟨w, by rw [hd]; exact hw, hv⟩
    exact ⟨(p.1, v), bind_eq_ok.mpr ⟨v, hfield, rfl⟩⟩

/-- A record is made of what dumping gives exactly if that is accepted. -/
theorem exists_toRecord?_iff (hnodup : m.fields.keys.Nodup) (hvalues : m.DumpsValues x) :
    (∃ r, m.toRecord? x = .ok r) ↔ ∃ row, m.dump x = .ok row ∧ m.Accepts row := by
  constructor
  · rintro ⟨r, hr⟩
    obtain ⟨row, values, hrow, hnames, hfields, -⟩ := toRecord?_eq_ok.mp hr
    exact ⟨row, hrow, (exists_values_iff hnodup (hvalues row hrow) hnames).mp ⟨values, hfields⟩⟩
  · rintro ⟨row, hrow, h⟩
    obtain ⟨values, hfields⟩ := (exists_values_iff hnodup (hvalues row hrow) h.names).mpr h
    exact ⟨_, toRecord?_eq_ok.mpr ⟨row, values, hrow, h.names, hfields, rfl⟩⟩

/-- The values of a record are those of the declared kinds, and proper ones. -/
theorem fits_toRecord? (hnodup : m.fields.keys.Nodup) (hvalues : m.DumpsValues x)
    (h : m.toRecord? x = .ok r) :
    ∀ p ∈ r.values, ∃ k, m.fields.lookup p.1 = some k ∧ p.2.Fits k := by
  obtain ⟨row, values, hrow, -, hfields, rfl⟩ := toRecord?_eq_ok.mp h
  intro q hq
  obtain ⟨⟨n, k⟩, hp, hpq⟩ := exists_of_mem_mapM hfields hq
  obtain ⟨v, hv, hpq⟩ := bind_eq_ok.mp hpq
  cases hpq
  obtain ⟨w, hw, hwv⟩ := field?_eq_ok.mp hv
  refine ⟨k, Assoc.lookup_of_mem hnodup hp, ?_⟩
  have hproper : w.IsProper := by
    cases hd : row.lookup n with
    | none =>
      rw [hd] at hw
      cases hw
      rfl
    | some d =>
      obtain ⟨w', hw', hproper⟩ := hvalues row hrow (n, d) (mem_of_lookup hd)
      rw [hd] at hw
      cases hw'.symm.trans hw
      exact hproper
  exact hproper.coerce? hwv

end EntityMapping

/-! ## Rows of a database -/

/-- A row of plain values of the declared kinds is read as these values. -/
theorem Record.ofRow?_mapValues {fields : Shape} {values : Assoc Value}
    (h : ∀ p ∈ values, ∃ k, fields.lookup p.1 = some k ∧ p.2.Fits k) :
    ofRow? (values.mapValues Value.data) fields = .ok { values } := by
  have hfrom (done : Assoc Value) :
      (values.mapValues Value.data).foldlM (fun r p ↦ addColumn? fields r p.1 p.2)
        { values := done } = .ok { values := done ++ values } := by
    induction values generalizing done with
    | nil =>
      rw [List.append_nil]
      rfl
    | cons p rest ih =>
      obtain ⟨k, hk, hproper, hkind⟩ := h p List.mem_cons_self
      have hcoerce : p.2.coerce? k = .ok p.2 := if_pos hkind.symm
      have hadd : addColumn? fields { values := done } p.1 p.2.data =
          .ok { values := done ++ [p] } := by
        rw [addColumn?, hk]
        dsimp only
        rw [hproper.of?_data, ok_bind, hcoerce]
        rfl
      have hrest := ih (fun q hq ↦ h q (List.mem_cons_of_mem _ hq)) (done ++ [p])
      rw [List.append_assoc] at hrest
      exact (congrArg (· >>= _) hadd).trans hrest
  exact hfrom []

/-! ## Tables in memory -/

/-- The record was appended to the table of the source, and is read at its end. -/
structure Store.Appended (s s' : Store) (src : Source) (r : Record) : Prop where
  rows : s'.rowsOf src.table = s.rowsOf src.table ++ [⟨s.lastRow + 1, r, []⟩]
  records : ∀ rs, s.records? src.table src.fields = .ok rs →
    s'.records? src.table src.fields = .ok (rs ++ [r]) ∧ s'.records? src.table [] = .ok (rs ++ [r])

namespace Store

variable {s s' : Store} {src : Source} {r : Record}

theorem shape?_declare (h : src.fields ≠ []) :
    (s.declare src).shape? src.table = some src.fields := by
  rw [declare, declareShape, if_neg (by simpa using h), shape?, Assoc.lookup_insert, if_pos rfl]

theorem lastRow_declare (s : Store) (src : Source) : (s.declare src).lastRow = s.lastRow := by
  unfold declare declareKey declareShape
  split <;> split <;> rfl

/-- The records of a table in a given shape are those of its rows. -/
theorem records?_of_ne {table : String} {fields : Shape} (h : fields ≠ []) :
    s.records? table fields =
      (s.rowsOf table).mapM fun row ↦ conformTo? table fields row.record := by
  rw [records?, if_neg (by simpa using h)]

/-- The records of a table in the declared shape are those in that shape. -/
theorem records?_nil {table : String} {fields : Shape} (h : fields ≠ [])
    (hshape : s.shape? table = some fields) : s.records? table [] = s.records? table fields := by
  rw [records?_of_ne h, records?, hshape]
  rfl

/-- A record of the declared shape that is inserted is the last one of its table. -/
theorem appended_insert (hfields : src.fields ≠ []) (hr : Record.Shaped src.fields r.values)
    (h : (s.declare src).insert src.table r = (s', .ok ())) : s.Appended s' src r := by
  have hshape := shape?_declare (s := s) hfields
  have hself : r.conform? src.fields = .ok r := Record.conform?_eq_self hr
  have hconform : (s.declare src).conform? src.table r = .ok r := by
    apply conform?_eq_ok.mpr
    rw [hshape]
    exact hself
  have hdeclared : (s.declare src).rowsOf src.table = s.rowsOf src.table := by
    rw [rowsOf, tables_declare]
    rfl
  have hs' : s' = ((s.declare src).skipped ((s.declare src).lastRow + 1)).setRows src.table
      ((s.declare src).inserted src.table r) := by
    rw [insert_eq hconform] at h
    split at h
    · exact (Prod.mk.inj h).1.symm
    · cases (Prod.mk.inj h).2
  have hrows : s'.rowsOf src.table = s.rowsOf src.table ++ [⟨s.lastRow + 1, r, []⟩] := by
    rw [hs', rowsOf_setRows, if_pos rfl, inserted, hdeclared, lastRow_declare]
  refine ⟨hrows, fun rs hrs ↦ ?_⟩
  have hlast : conformTo? src.table src.fields r = .ok r := by
    rw [conformTo?, if_neg (by simpa using hfields), hself]
    rfl
  have hread : s'.records? src.table src.fields = .ok (rs ++ [r]) := by
    rw [records?_of_ne hfields] at hrs ⊢
    rw [hrows]
    apply mapM_eq_ok.mpr
    exact List.rel_append (mapM_eq_ok.mp hrs) (.cons hlast .nil)
  have hshape' : s'.shape? src.table = some src.fields := by
    rw [hs']
    exact hshape
  exact ⟨hread, (records?_nil hfields hshape').trans hread⟩

end Store

theorem Verb.eq_ok_of_replied {e : Store.Effect} {s' : Store} {reply : Verb.Reply}
    (h : Verb.replied e = (s', .ok reply)) : e = (s', .ok ()) := by
  obtain ⟨s, f | ⟨⟩⟩ := e
  · cases h
  · cases h
    rfl

/-! ## Survival -/

namespace EntityMapping

/-- What becomes of the record of an entity in storage, and of the entity. -/
structure Survives (m : EntityMapping α) (x : α) (r : Record) : Prop where
  /-- The record has the declared fields in the declared order, and nothing else. -/
  names : r.values.keys = m.fields.keys ∧ r.extras = []
  /-- It can be inserted if the table and the fields have names that SQL can have. -/
  exists_insert : ∀ table, (∃ b, Sql.insert? table r.parameters = .ok b) ↔
    ∀ n ∈ table :: m.fields.keys, (Sql.quote? n).isSome = true
  /-- Every column is inserted with the value of its field. -/
  insert : ∀ table b, Sql.insert? table r.parameters = .ok b →
    b.parameters = m.fields.keys.map (fun n ↦ (r.valueOrNull n).data) ∧
    ∃ q qs, Sql.quote? table = some q ∧
      List.Forall₂ (fun n q ↦ Sql.quote? n = some q) m.fields.keys qs ∧
      b.text = "INSERT INTO " ++ q ++ " (" ++ commaSeparated qs ++ ") VALUES (" ++
        commaSeparated (qs.map fun _ ↦ "%s") ++ ")"
  /-- A row that holds the parameters is read as the record. -/
  row : ∀ table b, Sql.insert? table r.parameters = .ok b →
    Record.ofRow? (m.fields.keys.zip b.parameters) m.fields = .ok r
  /-- In memory the record is appended to its table. -/
  memory : ∀ (src : Source) (s s' : Store), src.fields = m.fields →
    (s.declare src).insert src.table r = (s', .ok ()) → s.Appended s' src r
  /-- So it is where the entity is added to a repository; a hook's statements come after that. -/
  add : ∀ (repo : Repository α) (s s' : Store), repo.mapping = m →
    (RepositoryCall.add x).Makes repo s s' → ∃ s₁ ws, s.Appended s₁ repo.source r ∧
      (repo.hooks.afterAdd.map (· x)).getD (.ok []) = .ok ws ∧ s₁.Applies ws s'
  /-- The entity is loaded from the row of the database. -/
  ofDatabase : m.load r = .ok x → ∀ (src : Source) (b : BoundSql), src.fields = m.fields →
    Sql.insert? src.table r.parameters = .ok b →
      (Database.decode? src (m.fields.keys.zip b.parameters) >>= m.fromRecord?) = .ok x
  /-- The entity is loaded from the last record of the table in memory. -/
  ofMemory : m.load r = .ok x → ∀ (src : Source) (s s' : Store) (rs : List Record),
    src.fields = m.fields → (s.declare src).insert src.table r = (s', .ok ()) →
      s.records? src.table src.fields = .ok rs →
        (s'.records? src.table src.fields >>= fun rs ↦ rs.getLast?.mapM m.fromRecord?) =
          .ok (some x)

variable {m : EntityMapping α} {x : α} {r : Record}

theorem fromRecord?_eq_ok (h : m.load r = .ok x) : m.fromRecord? r = .ok x := by
  rw [fromRecord?, h]
  rfl

/-- The parameters of a record are the values of its fields, in order. -/
theorem data_parameters (hnodup : m.fields.keys.Nodup) (hmade : r.MadeOf m.fields) :
    r.parameters.map Prod.snd = m.fields.keys.map fun n ↦ (r.valueOrNull n).data := by
  rw [← hmade.keys, Record.parameters, Assoc.mapValues, Assoc.keys, List.map_map, List.map_map]
  apply List.map_congr_left
  rintro ⟨n, v⟩ hp
  have hv : r.values.lookup n = some v := Assoc.lookup_of_mem (hmade.keys ▸ hnodup) hp
  simp [Record.valueOrNull, hv]

/-- An entity survives storage. -/
theorem survives (hnodup : m.fields.keys.Nodup) (hvalues : m.DumpsValues x) :
    ((∃ r, m.toRecord? x = .ok r) ↔ ∃ row, m.dump x = .ok row ∧ m.Accepts row) ∧
      ∀ r, m.toRecord? x = .ok r → m.Survives x r := by
  refine ⟨exists_toRecord?_iff hnodup hvalues, fun r hr ↦ ?_⟩
  have hmade := madeOf_toRecord? hnodup hr
  have hfits := fits_toRecord? hnodup hvalues hr
  have hkeys : r.parameters.keys = m.fields.keys := by
    rw [Record.parameters, Assoc.keys_mapValues, hmade.keys]
  have hne : r.parameters ≠ [] := by
    intro hnone
    have hfields := hkeys.symm
    rw [hnone] at hfields
    exact m.declares (List.map_eq_nil_iff.mp hfields)
  have hrow (table : String) (b : BoundSql) (hb : Sql.insert? table r.parameters = .ok b) :
      Record.ofRow? (m.fields.keys.zip b.parameters) m.fields = .ok r := by
    obtain ⟨-, q, qs, -, -, rfl⟩ := Sql.insert?_eq_ok.mp hb
    have hzip : m.fields.keys.zip (r.parameters.map Prod.snd) = r.parameters := by
      rw [← hkeys, Assoc.keys, ← List.unzip_fst, ← List.unzip_snd]
      exact List.zip_unzip r.parameters
    rw [hzip, Record.parameters, Record.ofRow?_mapValues hfits, ← hmade.extras]
  have hmemory (src : Source) (s s' : Store) (hsrc : src.fields = m.fields)
      (h : (s.declare src).insert src.table r = (s', .ok ())) : s.Appended s' src r :=
    Store.appended_insert (hsrc ▸ m.declares) (hsrc ▸ hmade.shaped) h
  exact
    { names := ⟨hmade.keys, hmade.extras⟩
      exists_insert := by
        intro table
        rw [Sql.exists_insert?_iff, hkeys, and_iff_right hne]
      insert := by
        intro table b hb
        obtain ⟨-, q, qs, hq, hqs, rfl⟩ := Sql.insert?_eq_ok.mp hb
        exact ⟨data_parameters hnodup hmade, q, qs, hq, hkeys ▸ hqs, rfl⟩
      row := hrow
      memory := hmemory
      add := by
        rintro repo s s' rfl ⟨verb, hook, ws, s₁, reply, hprepared, hhook, hrun, happlies⟩
        rw [RepositoryCall.prepared?, hr] at hprepared
        cases hprepared
        refine ⟨s₁, ws, ?_, hhook, happlies⟩
        apply hmemory repo.source s s₁ rfl
        exact Verb.eq_ok_of_replied hrun
      ofDatabase := by
        intro hload src b hsrc hb
        rw [Database.decode?, hsrc, hrow src.table b hb]
        exact fromRecord?_eq_ok hload
      ofMemory := by
        intro hload src s s' rs hsrc h hrs
        obtain ⟨hread, -⟩ := (hmemory src s s' hsrc h).records rs hrs
        rw [hread, ok_bind, List.getLast?_concat]
        exact congrArg (some <$> ·) (fromRecord?_eq_ok hload) }

/-- Items under their numbers, with a price that is dumped as a whole number and without a note. -/
def priced : EntityMapping Int where
  fields := [("id", .integer), ("price", .decimal), ("note", .text)]
  name := "Item"
  dump i := .ok [("price", .integer 3), ("note", .null), ("id", .integer i)]
  load r := match (r.valueOrNull "id").data with
    | .integer i => .ok i
    | _ => .error .wrongType
  declares := List.cons_ne_nil _ _

/-- An item is inserted with a decimal for its price, and what is stored is the item again. -/
theorem survives_priced :
    priced.fields.keys.Nodup ∧ priced.DumpsValues 7 ∧
      (∃ row, priced.dump 7 = .ok row ∧ priced.Accepts row) ∧
      ∃ r b, priced.toRecord? 7 = .ok r ∧ Sql.insert? "items" r.parameters = .ok b ∧
        b.parameters = [.integer 7, .decimal (.ofInt 3), .null] ∧ priced.load r = .ok 7 ∧
        priced.Survives 7 r := by
  have hnodup : priced.fields.keys.Nodup := by decide
  have hvalues : priced.DumpsValues 7 := by
    intro row hrow p hp
    cases hrow
    simp only [List.mem_cons, List.not_mem_nil, or_false] at hp
    rcases hp with rfl | rfl | rfl <;> exact ⟨_, rfl, rfl⟩
  obtain ⟨haccepts, hsurvives⟩ := survives hnodup hvalues
  have hrecord : priced.toRecord? 7 = .ok _ := rfl
  have h := hsurvives _ hrecord
  obtain ⟨b, hb⟩ := (h.exists_insert "items").mpr (by decide)
  refine ⟨hnodup, hvalues, haccepts.mp ⟨_, hrecord⟩, _, b, hrecord, hb, ?_, rfl, h⟩
  exact (h.insert "items" b hb).1

end EntityMapping

end RecordStore
