import RecordStore.Proofs.Mapping.Shape
import RecordStore.Proofs.Memory.Keyed
import RecordStore.Proofs.Query.Agreement
import RecordStore.Proofs.Sql.Write

/-!
# Writes and their SQL

The statement of a write does to the rows of a table what the write does to the records in the
store, if the table has the key of the source for its primary key: afterwards the rows are the same,
in some order, and the statement is refused exactly where the store reports a broken key.

* `Source.IsHeld` says that a store holds the rows of a source, `Source.Admits` and `Source.Selects`
  that a record and a filter suit them.
* `Source.Mirrors` is agreement of a statement and a write, and `Source.writes_mirrored` is the
  theorem above.
-/

namespace RecordStore

open Outcome Sql

/-- The source has a table with columns of plain and different names, some of which are its key. -/
structure Source.HasColumns (s : Source) : Prop where
  table : isPlain s.table.toList = true
  names : ∀ n ∈ s.fields.keys, isPlain n.toList = true
  nodup : s.fields.keys.Nodup
  declared : ∀ n ∈ s.key, n ∈ s.fields.keys

/-- The records of a table in the store. -/
def Store.recordsOf (m : Store) (table : String) : List Record :=
  (m.rowsOf table).map StoredRow.record

/-- The store, in which the source is declared, holds rows of it with complete and different keys.
Rows that one update wrote hold one value there, as they do in every store that is reached by
writing. -/
structure Source.IsHeld (s : Source) (m : Store) : Prop where
  declared : m.IsDeclared s.table s.key s.fields
  shaped : ∀ row ∈ m.rowsOf s.table, Record.Shaped s.fields row.record.values
  coherent : (m.rowsOf s.table).Coherent
  complete : ∀ r ∈ m.recordsOf s.table, r.HasKey s.key
  suits : s.Suits (m.recordsOf s.table)

/-- The record is made of an entity, and the values of its key have proper data and agree with
those of the records in whether timestamps have an offset. -/
structure Source.Admits (s : Source) (rs : List Record) (r : Record) : Prop where
  made : ∃ (α : Type) (m : EntityMapping α) (x : α), m.fields = s.fields ∧ m.toRecord? x = .ok r
  proper : ∀ n ∈ s.key, (r.valueOrNull n).IsProper
  offsets : ∀ n ∈ s.key, ∀ a ∈ rs, (a.valueOrNull n).AgreesInOffset (r.valueOrNull n)

/-- The filter is a valid one, and its operands have proper data and agree with the records in
whether timestamps have an offset. -/
structure Source.Selects (s : Source) (rs : List Record) (f : Filter) : Prop where
  valid : ∃ f₀ : Filter, f₀.Built ∧ f₀.validate? s.fields = .ok f
  operands : ∀ p ∈ f.comparisons, p.2.IsProper ∧ ∀ r ∈ rs, (r.stored p.1).AgreesInOffset p.2

/-- The statement does to the rows of the table, whatever the order in which they are stored, what
the write has done to the records of the store: both leave the same rows, or both report that the
key would be broken, and then nothing has happened. -/
def Source.Mirrors (s : Source) (m : Store) (statement : Outcome BoundSql) (e : Store.Effect) :
    Prop :=
  ∃ b c, statement = .ok b ∧ Command.read? b.text b.parameters = some c ∧ c.table = s.table ∧
    ∀ locale stored, stored.Perm ((m.recordsOf s.table).map Record.tableRow) →
      (∃ after, c.run? locale s.key stored = some (.done after) ∧ e.2 = .ok () ∧
        after.Perm ((e.1.recordsOf s.table).map Record.tableRow)) ∨
      (c.run? locale s.key stored = some .refused ∧
        (∃ f, e.2 = .error f ∧ f.isConstraint = true) ∧
        e.1.recordsOf s.table = m.recordsOf s.table)

variable {s : Source} {m : Store} {rs rs' : List Record} {a b r : Record} {f : Filter}
  {locale : TextOrder} {n : String}

/-! ## Keys of records -/

/-- The values of the key are of one kind, and agree in whether timestamps have an offset. -/
def Source.KeysSuit (s : Source) (rs : List Record) : Prop :=
  ∀ n ∈ s.key, ∃ k : Kind, ∀ a ∈ rs, (a.valueOrNull n).Fits k ∧
    ∀ b ∈ rs, (a.valueOrNull n).AgreesInOffset (b.valueOrNull n)

/-- The keys of the records are complete and different. -/
def Source.AreKeyed (s : Source) (rs : List Record) : Prop :=
  (∀ r ∈ rs, r.HasKey s.key) ∧ rs.Pairwise s.Distinguishes

namespace Source

theorem KeysSuit.of_values (h : s.KeysSuit rs)
    (hvalues : ∀ a ∈ rs', ∀ n ∈ s.key, ∃ b ∈ rs, a.valueOrNull n = b.valueOrNull n) :
    s.KeysSuit rs' := by
  intro n hn
  obtain ⟨k, hk⟩ := h n hn
  refine ⟨k, fun a ha ↦ ?_⟩
  obtain ⟨a', ha', heq⟩ := hvalues a ha n hn
  refine ⟨heq ▸ (hk a' ha').1, fun b hb ↦ ?_⟩
  obtain ⟨b', hb', heq'⟩ := hvalues b hb n hn
  rw [heq, heq']
  exact (hk a' ha').2 b' hb'

section Keys

variable (h : s.KeysSuit rs) (ha : a ∈ rs) (hb : b ∈ rs)
include h ha

theorem KeysSuit.isProper (hn : n ∈ s.key) : (a.valueOrNull n).IsProper :=
  ((h n hn).choose_spec a ha).1.1

include hb

theorem KeysSuit.comparable (hn : n ∈ s.key) :
    (a.valueOrNull n).Comparable (b.valueOrNull n) := by
  obtain ⟨k, hk⟩ := h n hn
  obtain ⟨⟨hpa, hka⟩, hoffsets⟩ := hk a ha
  obtain ⟨⟨hpb, hkb⟩, -⟩ := hk b hb
  refine Value.comparable_of_kind hpa hpb ?_ (hoffsets b hb)
  rcases hka with hka | hka
  · exact .inl hka
  · exact .inr (hkb.imp_right fun hkb ↦ hka.trans hkb.symm)

/-- Keys are the same if their values stand for the same. -/
theorem KeysSuit.sameKey_iff : Record.SameKey s.key a b ↔ ¬ s.Distinguishes a b := by
  have hrank {n : String} (hn : n ∈ s.key) :=
    Value.same?_eq (h.isProper ha hn) (h.isProper hb hn) (h.comparable ha hb hn)
  unfold Record.SameKey Distinguishes
  push Not
  refine forall₂_congr fun n hn ↦ ?_
  rw [hrank hn]
  simp

/-- So it is with the rows of the table. -/
theorem KeysSuit.tableRow_sameKey_iff (hcomplete : a.HasKey s.key) :
    SameKey locale s.key a.tableRow b.tableRow ↔ ¬ s.Distinguishes a b := by
  unfold SameKey Distinguishes
  push Not
  refine forall₂_congr fun n hn ↦ ?_
  have hcells (r : Record) : r.tableRow n = (r.valueOrNull n).data := rfl
  obtain ⟨x, hx⟩ := (h.isProper ha hn).exists_scalar (hcomplete n hn)
  have hrank : (a.valueOrNull n).rank = x := hx
  rw [hcells, hcells, hrank]
  rcases (h.isProper hb hn).null_or_scalar with hnull | ⟨y, -, hy, hry⟩
  · have hcell : cell? Value.null.data = some none := rfl
    rw [hnull, Value.rank_null]
    simp [compare?, cell?_of_scalar hx, hcell]
  · obtain ⟨o, ho, heq⟩ : ∃ o, order? locale false x y = some o ∧
        Comparison.eq.holds o = decide (x = y) :=
      order?_eq_eq (h.comparable ha hb hn x y hx hy)
    rw [hry]
    simp only [compare?, cell?_of_scalar hx, cell?_of_scalar hy, ho, heq, Option.bind_eq_bind,
      Option.bind_some, Option.pure_def, Option.some.injEq, WithBot.coe_inj]
    by_cases hxy : x = y <;> simp [hxy, Truth.ofBool]

end Keys

/-- Rows have the primary key if the records have different and complete keys. -/
theorem KeysSuit.keyed_iff (h : s.KeysSuit rs) :
    Keyed locale s.key (rs.map Record.tableRow) ↔ s.AreKeyed rs := by
  have hcomplete : (∀ row ∈ rs.map Record.tableRow, ∀ n ∈ s.key, row n ≠ .null) ↔
      ∀ r ∈ rs, r.HasKey s.key := by
    rw [List.forall_mem_map]
    refine forall₂_congr fun r hr ↦ forall₂_congr fun n hn ↦ ?_
    have hcell : r.tableRow n = (r.valueOrNull n).data := rfl
    rw [hcell]
    rcases (h.isProper hr hn).null_or_scalar with hnull | ⟨x, hnull, hx, -⟩
    · rw [hnull]
      exact iff_of_false (fun h ↦ h rfl) Bool.noConfusion
    · refine iff_of_true (fun hdata ↦ ?_) hnull
      rw [hdata] at hx
      cases hx
  rw [Keyed, AreKeyed, hcomplete]
  refine and_congr_right fun hall ↦ ?_
  rw [List.pairwise_map]
  refine List.Pairwise.iff_of_mem fun {a b} ha hb ↦ ?_
  rw [h.tableRow_sameKey_iff ha hb (hall a ha), not_not]

theorem AreKeyed.perm (h : s.AreKeyed rs) (hperm : rs.Perm rs') : s.AreKeyed rs' :=
  ⟨fun r hr ↦ h.1 r (hperm.mem_iff.mpr hr), hperm.pairwise h.2 fun h ↦ Std.Symm.symm _ _ h⟩

/-- Rows that are stored in some order are those of the records in that order. -/
theorem exists_stored {stored : List TableRow} (h : stored.Perm (rs.map Record.tableRow)) :
    ∃ rs' : List Record, stored = rs'.map Record.tableRow ∧ rs'.Perm rs := by
  have hcomp := List.eq_map_comp_perm Record.tableRow
  exact (congrFun (congrFun hcomp stored) rs).mpr h

/-- A statement that leaves the rows of such records, in some order, is refused unless their keys
are different and complete. -/
theorem KeysSuit.run?_eq {c : Command} {stored after : List TableRow} (h : s.KeysSuit rs)
    (hafter : c.after? locale stored = some after) (hperm : after.Perm (rs.map Record.tableRow)) :
    (s.AreKeyed rs → c.run? locale s.key stored = some (.done after)) ∧
      (¬ s.AreKeyed rs → c.run? locale s.key stored = some .refused) := by
  obtain ⟨rs', rfl, hrs'⟩ := exists_stored hperm
  have hsuit : s.KeysSuit rs' := h.of_values fun a ha n _ ↦ ⟨a, hrs'.mem_iff.mp ha, rfl⟩
  have hkeyed : Keyed locale s.key (rs'.map Record.tableRow) ↔ s.AreKeyed rs :=
    hsuit.keyed_iff.trans ⟨fun h ↦ h.perm hrs', fun h ↦ h.perm hrs'.symm⟩
  rw [Command.run?, hafter, Option.map_some]
  exact ⟨fun h ↦ by rw [if_pos (hkeyed.mpr h)], fun h ↦ by rw [if_neg fun hk ↦ h (hkeyed.mp hk)]⟩

end Source

/-! ## The check of the store -/

theorem Value.IsProper.isHashable {v : Value} (h : v.IsProper) : v.isHashable = true := by
  obtain ⟨k, d⟩ := v
  cases k <;> cases d <;>
    simp_all [IsProper, Kind.holds, Value.isHashable, Datum.isHashable]
  rename_i d
  cases d <;> simp_all [Decimal.isNan, Decimal.isSignaling]

namespace Store

variable {table : String} {key : List String} {seen : List (List KeyValue)} {row : StoredRow}
  {rows : Rows}

/-- A row whose values can be kept is refused for its key alone. -/
theorem newKey?_ne_wrongType (h : row.Hashable key) :
    newKey? table key seen row ≠ .error .wrongType := by
  have hall : (row.keyValues key).all (·.value.isHashable) = true :=
    StoredRow.all_isHashable_iff.mpr h
  unfold newKey?
  simp only [hall, Bool.not_true, Bool.false_eq_true, if_false]
  split
  · nofun
  · split <;> nofun

theorem checkKeys?_ne_wrongType (hrows : ∀ row ∈ rows, m.conformRow? table row = .ok row)
    (hhash : ∀ row ∈ rows, row.Hashable key) :
    m.checkKeys? table key seen rows ≠ .error .wrongType := by
  induction rows generalizing seen with
  | nil => nofun
  | cons row rows ih =>
    have hnew : newKey? table key seen row ≠ .error .wrongType :=
      newKey?_ne_wrongType (hhash row (by simp))
    rw [checkKeys?, hrows row (by simp), ok_bind]
    cases hkey : newKey? table key seen row with
    | error f =>
      rintro hf
      cases hf
      exact hnew hkey
    | ok vs => exact ih (fun row h ↦ hrows row (by simp [h])) fun row h ↦ hhash row (by simp [h])

/-- The check of rows whose keys can be compared passes if they are different and complete, and
reports the key otherwise. -/
theorem checkUnique?_of_keysSuit (hd : m.IsDeclared s.table s.key s.fields)
    (hshaped : ∀ row ∈ rows, Record.Shaped s.fields row.record.values)
    (hcoherent : rows.Coherent) (h : s.KeysSuit (rows.map StoredRow.record)) :
    (s.AreKeyed (rows.map StoredRow.record) → m.checkUnique? s.table rows = .ok ()) ∧
      (¬ s.AreKeyed (rows.map StoredRow.record) →
        ∃ detail, m.checkUnique? s.table rows = .error (keyFault s.table detail)) := by
  have hmem {row : StoredRow} (hrow : row ∈ rows) : row.record ∈ rows.map StoredRow.record :=
    List.mem_map_of_mem hrow
  have hhash : ∀ row ∈ rows, row.Hashable s.key := fun row hrow n hn ↦
    (h.isProper (hmem hrow) hn).isHashable
  have hself : rows.Reflexive s.key := by
    intro row hrow n hn
    have hproper := h.isProper (hmem hrow) hn
    rw [Value.same?_eq hproper hproper (h.comparable (hmem hrow) (hmem hrow) hn)]
    simp
  have hdistinct : rows.Distinct s.key ↔
      (rows.map StoredRow.record).Pairwise s.Distinguishes := by
    rw [List.pairwise_map]
    refine List.Pairwise.iff_of_mem fun {a b} ha hb ↦ ?_
    rw [h.sameKey_iff (hmem ha) (hmem hb), not_not]
  have hkeyed : s.AreKeyed (rows.map StoredRow.record) ↔
      (∀ row ∈ rows, row.record.HasKey s.key) ∧ Apart (rows.map (·.keyValues s.key)) := by
    rw [Source.AreKeyed, List.forall_mem_map, ← hdistinct]
    exact and_congr_right fun _ ↦
      ⟨Rows.apart_of_distinct hcoherent hself, Rows.distinct_of_apart⟩
  rw [hkeyed]
  rcases hd.checkUnique?_cases hshaped with ⟨hok, hcomplete, hapart⟩ | hother | ⟨detail, hkey, hwhy⟩
  · exact ⟨fun _ ↦ hok, fun hnot ↦ absurd ⟨hcomplete, hapart⟩ hnot⟩
  · rw [checkUnique?, hd.key] at hother
    exact absurd hother
      (checkKeys?_ne_wrongType (fun row hrow ↦ hd.conformRow? (hshaped row hrow)) hhash)
  · exact ⟨fun hall ↦ absurd hall.2 (hwhy hall.1), fun _ ↦ ⟨detail, hkey⟩⟩

end Store

/-! ## The three writes -/

namespace Record

theorem lookup_parameters (r : Record) (n : String) :
    r.parameters.lookup n = (r.values.lookup n).map Value.data :=
  Assoc.lookup_mapValues _ _ _

/-- The parameters of a record make its row. -/
theorem blank_overwritten (r : Record) : TableRow.blank.overwritten r.parameters = r.tableRow := by
  funext n
  rw [TableRow.overwritten, lookup_parameters, tableRow, valueOrNull]
  cases r.values.lookup n <;> rfl

/-- They overwrite a row as the record overwrites another one. -/
theorem MadeOf.tableRow_replace {fields : Shape} (h : r.MadeOf fields) (hnodup : fields.keys.Nodup)
    (a : Record) : (a.replace r.values).tableRow = a.tableRow.overwritten r.parameters := by
  funext n
  rw [tableRow, valueOrNull_replace, Assoc.lookup_ofPairs (h.keys ▸ hnodup), TableRow.overwritten,
    lookup_parameters]
  cases r.values.lookup n <;> rfl

/-- A value of the record, or else one that was there. -/
theorem MadeOf.valueOrNull_replace_cases {fields : Shape} (h : r.MadeOf fields)
    (hnodup : fields.keys.Nodup) (a : Record) (n : String) :
    (a.replace r.values).valueOrNull n = r.valueOrNull n ∨
      (a.replace r.values).valueOrNull n = a.valueOrNull n := by
  rw [valueOrNull_replace, Assoc.lookup_ofPairs (h.keys ▸ hnodup)]
  cases hn : r.values.lookup n with
  | none => exact .inr rfl
  | some v =>
    have hvalue : r.valueOrNull n = v := by
      rw [valueOrNull, hn]
      rfl
    exact .inl hvalue.symm

end Record

namespace Source

theorem Admits.madeOf (h : s.Admits rs r) (hs : s.HasColumns) :
    r.MadeOf s.fields ∧ r.parameters ≠ [] := by
  obtain ⟨α, mapping, x, hfields, hx⟩ := h.made
  have hmade := EntityMapping.madeOf_toRecord? (hfields ▸ hs.nodup) hx
  refine ⟨hfields ▸ hmade, fun hempty ↦ mapping.declares ?_⟩
  have hkeys : r.parameters.keys = mapping.fields.keys := by
    rw [Record.parameters, Assoc.keys_mapValues, hmade.keys]
  rw [hempty] at hkeys
  exact List.map_eq_nil_iff.mp hkeys.symm

theorem plain_parameters (hs : s.HasColumns) (hmade : r.MadeOf s.fields) :
    ∀ n ∈ r.parameters.keys, isPlain n.toList = true := by
  rw [Record.parameters, Assoc.keys_mapValues, hmade.keys]
  exact hs.names

theorem Suits.keysSuit (hrs : s.Suits rs) (hs : s.HasColumns) : s.KeysSuit rs := by
  intro n hn
  obtain ⟨⟨n', k⟩, hp, rfl⟩ := List.mem_map.mp (hs.declared n hn)
  have hk : s.fields.lookup n' = some k := Assoc.lookup_of_mem hs.nodup hp
  exact ⟨k, fun a ha ↦ ⟨hrs.conforms a ha n' k hk, hrs.offsets n' (hs.declared n' hn) a ha⟩⟩

/-- The keys of the records and of one that they admit can be compared. -/
theorem Admits.keysSuit (h : s.Admits rs r) (hs : s.HasColumns) (hrs : s.Suits rs) :
    s.KeysSuit (r :: rs) := by
  intro n hn
  obtain ⟨⟨n', k'⟩, hp, rfl⟩ := List.mem_map.mp (hs.declared n hn)
  have hk : s.fields.lookup n' = some k' := Assoc.lookup_of_mem hs.nodup hp
  have hr : (r.valueOrNull n').Fits k' := ⟨h.proper n' hn, (h.madeOf hs).1.hasKind n' k' hk⟩
  have hself : (r.valueOrNull n').AgreesInOffset (r.valueOrNull n') := by
    intro t u ht hu
    rw [ht] at hu
    cases hu
    rfl
  refine ⟨k', List.forall_mem_cons.mpr ⟨⟨hr, List.forall_mem_cons.mpr ⟨hself, fun b hb ↦ ?_⟩⟩, ?_⟩⟩
  · exact fun t u ht hu ↦ (h.offsets n' hn b hb u t hu ht).symm
  · refine fun a ha ↦ ⟨hrs.conforms a ha n' k' hk, List.forall_mem_cons.mpr ⟨?_, fun b hb ↦ ?_⟩⟩
    · exact h.offsets n' hn a ha
    · exact hrs.offsets n' (hs.declared n' hn) a ha b hb

/-- Inserting a record. -/
theorem mirrors_insert (hs : s.HasColumns) (hm : s.IsHeld m)
    (hr : s.Admits (m.recordsOf s.table) r) :
    s.Mirrors m (insert? s.table r.parameters) (m.insert s.table r) := by
  obtain ⟨hmade, hne⟩ := hr.madeOf hs
  obtain ⟨b, hb, hread⟩ := Command.read?_insert? hs.table (plain_parameters hs hmade) hne
  refine ⟨b, _, hb, hread, rfl, fun locale stored hstored ↦ ?_⟩
  have hrecords : (m.inserted s.table r).map StoredRow.record = m.recordsOf s.table ++ [r] := by
    simp [Store.inserted, Store.recordsOf]
  have hsuit : s.KeysSuit (m.recordsOf s.table ++ [r]) :=
    (hr.keysSuit hs hm.suits).of_values fun a ha n _ ↦ ⟨a, by simpa [or_comm] using ha, rfl⟩
  have hperm : (stored ++ [TableRow.blank.overwritten r.parameters]).Perm
      ((m.recordsOf s.table ++ [r]).map Record.tableRow) := by
    rw [Record.blank_overwritten, List.map_append]
    exact hstored.append_right _
  have hafter : (Command.insert s.table r.parameters).after? locale stored =
      some (stored ++ [TableRow.blank.overwritten r.parameters]) := rfl
  have hrun := hsuit.run?_eq hafter hperm
  have hd : (m.skipped (m.lastRow + 1)).IsDeclared s.table s.key s.fields :=
    ⟨hm.declared.key, hm.declared.shape⟩
  have hcheck := Store.checkUnique?_of_keysSuit hd (Store.shaped_inserted hm.shaped hmade.shaped)
    (hm.coherent.append rfl) (hrecords ▸ hsuit)
  rw [hrecords] at hcheck
  rw [Store.insert_eq (hm.declared.conform?_eq_ok.mpr (Record.conform?_eq_self hmade.shaped))]
  by_cases hkeyed : s.AreKeyed (m.recordsOf s.table ++ [r])
  · rw [hcheck.1 hkeyed]
    refine .inl ⟨_, hrun.1 hkeyed, rfl, ?_⟩
    simp only [Store.recordsOf, Store.rowsOf_setRows, if_true]
    rw [hrecords]
    exact hperm
  · obtain ⟨detail, hfault⟩ := hcheck.2 hkeyed
    rw [hfault]
    exact .inr ⟨hrun.2 hkeyed, ⟨_, rfl, rfl⟩, rfl⟩

theorem IsHeld.areKeyed (hm : s.IsHeld m) : s.AreKeyed (m.recordsOf s.table) :=
  ⟨hm.complete, hm.suits.keys⟩

/-- A condition that is definite for every row tells which of them are to be changed. -/
theorem marked?_eq {condition : Option Condition} {pass : Record → Bool}
    (h : ∀ r ∈ rs, Command.chooses? locale condition r.tableRow = some (pass r)) :
    Command.marked? locale condition (rs.map Record.tableRow) =
      some (rs.map fun r ↦ (r.tableRow, pass r)) := by
  induction rs with
  | nil => rfl
  | cons r rs ih =>
    have hrest : (rs.map Record.tableRow).mapM _ = _ := ih fun r' hr' ↦ h r' (by simp [hr'])
    rw [Command.marked?, List.map_cons, List.mapM_cons, h r (by simp), hrest]
    rfl

/-- The predicate of a filter chooses the rows of the records that pass the filter. -/
theorem Selects.exists_predicate (hs : s.HasColumns) (hrs : s.Suits rs) (hf : s.Selects rs f) :
    ∃ p, Predicate.ofFilter? f = .ok p ∧ p.Regular ∧
      (∀ r ∈ rs, f.matches? r = .ok (f.passes r)) ∧
      ∀ locale, ∀ r ∈ rs,
        Command.chooses? locale (some p.condition) r.tableRow = some (f.passes r) := by
  obtain ⟨f₀, hbuilt, hvalid⟩ := hf.valid
  obtain ⟨p, pass, hp, hregular, hagrees⟩ :=
    Query.exists_agrees hs.names hbuilt hvalid hrs.conforms hf.operands
  have hpasses : ∀ r ∈ rs, f.passes r = pass r := fun r hr ↦
    Filter.passes_eq (hagrees r hr).matches?
  refine ⟨p, hp, hregular, fun r hr ↦ ?_, fun locale r hr ↦ ?_⟩
  · rw [hpasses r hr]
    exact (hagrees r hr).matches?
  · rw [hpasses r hr, Command.chooses?, (hagrees r hr).eval? locale]
    cases pass r <;> rfl

/-- The records once an update has overwritten values in those that pass a filter. -/
def updated (f : Filter) (r : Record) (rs : List Record) : List Record :=
  rs.map fun a ↦ if f.passes a then a.replace r.values else a

theorem record_updated (f : Filter) (r : Record) (rows : Rows) :
    (rows.updated f r.values).map StoredRow.record = updated f r (rows.map StoredRow.record) := by
  rw [Rows.updated, updated, List.map_map, List.map_map]
  refine List.map_congr_left fun row _ ↦ ?_
  simp only [Function.comp_apply]
  split <;> rfl

theorem updated_eq_self (h : ∀ a ∈ rs, f.passes a = false) : updated f r rs = rs := by
  refine (List.map_congr_left fun a ha ↦ ?_).trans (List.map_id _)
  rw [if_neg (by simp [h a ha])]
  rfl

/-- The statement overwrites the rows of the records that pass. -/
theorem after?_update (hs : s.HasColumns) (hmade : r.MadeOf s.fields) {condition : Option Condition}
    (h : ∀ a ∈ rs, Command.chooses? locale condition a.tableRow = some (f.passes a)) :
    (Command.update s.table r.parameters condition).after? locale (rs.map Record.tableRow) =
      some ((updated f r rs).map Record.tableRow) := by
  rw [Command.after?, marked?_eq h]
  refine congrArg some ?_
  rw [updated, List.map_map, List.map_map]
  refine List.map_congr_left fun a _ ↦ ?_
  simp only [Function.comp_apply]
  split
  · exact (hmade.tableRow_replace hs.nodup a).symm
  · rfl

/-- Every value of a key afterwards is one from before or one of the record. -/
theorem KeysSuit.updated (h : s.KeysSuit (r :: rs)) (hs : s.HasColumns)
    (hmade : r.MadeOf s.fields) (f : Filter) : s.KeysSuit (updated f r rs) := by
  refine h.of_values fun a ha n _ ↦ ?_
  obtain ⟨a', ha', rfl⟩ := List.mem_map.mp ha
  split
  · rcases hmade.valueOrNull_replace_cases hs.nodup a' n with h | h
    · exact ⟨r, List.mem_cons_self, h⟩
    · exact ⟨a', List.mem_cons_of_mem _ ha', h⟩
  · exact ⟨a', List.mem_cons_of_mem _ ha', rfl⟩

/-- Overwriting values. -/
theorem mirrors_update (hs : s.HasColumns) (hm : s.IsHeld m)
    (hf : s.Selects (m.recordsOf s.table) f) (hr : s.Admits (m.recordsOf s.table) r) :
    s.Mirrors m (update? s.table (some f) r.parameters)
      (m.effect (m.update? s.table f r.values)) := by
  obtain ⟨hmade, hne⟩ := hr.madeOf hs
  obtain ⟨p, hp, hregular, hmatches, hchooses⟩ := hf.exists_predicate hs hm.suits
  obtain ⟨b, hb, hread⟩ :=
    Command.read?_update? hs.table (plain_parameters hs hmade) hne hp hregular
  refine ⟨b, _, hb, hread, rfl, fun locale stored hstored ↦ ?_⟩
  obtain ⟨rs, rfl, hrs⟩ := exists_stored hstored
  have hsuit : s.KeysSuit (updated f r (m.recordsOf s.table)) :=
    (hr.keysSuit hs hm.suits).updated hs hmade f
  have hafter := after?_update hs hmade fun a ha ↦ hchooses locale a (hrs.mem_iff.mp ha)
  have hperm : ((updated f r rs).map Record.tableRow).Perm
      ((updated f r (m.recordsOf s.table)).map Record.tableRow) := (hrs.map _).map _
  have hrun := hsuit.run?_eq hafter hperm
  have hcheck := Store.checkUnique?_of_keysSuit hm.declared
    (Rows.shaped_updated hm.shaped hmade.shaped f) (hm.coherent.updated f r.values)
    (record_updated f r _ ▸ hsuit)
  rw [record_updated] at hcheck
  have hrows : ∀ row ∈ m.rowsOf s.table, ∃ b, f.matches? row.record = .ok b := fun row hrow ↦
    ⟨_, hmatches row.record (List.mem_map_of_mem hrow)⟩
  have hvalues : Record.conform? { values := r.values } s.fields = .ok { values := r.values } :=
    Record.conform?_eq_self hmade.shaped
  rw [Store.update?_eq hm.declared hm.shaped hvalues hrows]
  split
  · rename_i hnone
    have hsame : updated f r (m.recordsOf s.table) = m.recordsOf s.table :=
      updated_eq_self (List.forall_mem_map.mpr hnone)
    rw [hsame] at hrun hperm
    exact .inl ⟨_, hrun.1 hm.areKeyed, rfl, hperm⟩
  · by_cases hkeyed : s.AreKeyed (updated f r (m.recordsOf s.table))
    · rw [hcheck.1 hkeyed]
      refine .inl ⟨_, hrun.1 hkeyed, rfl, ?_⟩
      have hrecords :
          (m.setRows s.table ((m.rowsOf s.table).updated f r.values)).recordsOf s.table =
            updated f r (m.recordsOf s.table) := by
        rw [Store.recordsOf, Store.rowsOf_setRows, if_pos rfl, record_updated]
        rfl
      exact hrecords ▸ hperm
    · obtain ⟨detail, hfault⟩ := hcheck.2 hkeyed
      rw [hfault]
      exact .inr ⟨hrun.2 hkeyed, ⟨_, rfl, rfl⟩, rfl⟩

/-- The statement leaves the rows of the records that do not pass. -/
theorem after?_delete (table : String) {condition : Option Condition}
    (h : ∀ a ∈ rs, Command.chooses? locale condition a.tableRow = some (f.passes a)) :
    (Command.delete table condition).after? locale (rs.map Record.tableRow) =
      some ((rs.filter (!f.passes ·)).map Record.tableRow) := by
  rw [Command.after?, marked?_eq h]
  refine congrArg some ?_
  rw [List.filter_map, List.map_map]
  rfl

/-- Removing records. -/
theorem mirrors_delete (hs : s.HasColumns) (hm : s.IsHeld m)
    (hf : s.Selects (m.recordsOf s.table) f) :
    s.Mirrors m (delete? s.table (some f)) (m.effect (m.delete? s.table f)) := by
  obtain ⟨p, hp, hregular, hmatches, hchooses⟩ := hf.exists_predicate hs hm.suits
  obtain ⟨b, hb, hread⟩ := Command.read?_delete? hs.table hp hregular
  refine ⟨b, _, hb, hread, rfl, fun locale stored hstored ↦ ?_⟩
  obtain ⟨rs, rfl, hrs⟩ := exists_stored hstored
  have hsuit : s.KeysSuit ((m.recordsOf s.table).filter (!f.passes ·)) :=
    (hm.suits.keysSuit hs).of_values fun a ha n _ ↦ ⟨a, (List.mem_filter.mp ha).1, rfl⟩
  have hafter := after?_delete s.table fun a ha ↦ hchooses locale a (hrs.mem_iff.mp ha)
  have hperm : ((rs.filter (!f.passes ·)).map Record.tableRow).Perm
      (((m.recordsOf s.table).filter (!f.passes ·)).map Record.tableRow) := (hrs.filter _).map _
  have hrows : ∀ row ∈ m.rowsOf s.table, ∃ b, f.matches? row.record = .ok b := fun row hrow ↦
    ⟨_, hmatches row.record (List.mem_map_of_mem hrow)⟩
  obtain ⟨m', n, hdelete, -, hrest⟩ := Store.delete?_eq hm.declared hm.shaped hrows
  rw [hdelete]
  have hrecords : m'.recordsOf s.table = (m.recordsOf s.table).filter (!f.passes ·) := by
    rw [Store.recordsOf, hrest, Rows.without, Store.recordsOf, List.filter_map]
    rfl
  have hkeyed : s.AreKeyed ((m.recordsOf s.table).filter (!f.passes ·)) :=
    ⟨fun a ha ↦ hm.complete a (List.mem_filter.mp ha).1, hm.suits.keys.filter _⟩
  exact .inl ⟨_, (hsuit.run?_eq hafter hperm).1 hkeyed, rfl, hrecords ▸ hperm⟩

/-- Each of the three writes and its statement do the same: on every content of the table with
complete and different keys, for every record of an entity and every valid filter. -/
theorem writes_mirrored (hs : s.HasColumns) (hm : s.IsHeld m) :
    (∀ r, s.Admits (m.recordsOf s.table) r →
      s.Mirrors m (insert? s.table r.parameters) (m.insert s.table r)) ∧
    (∀ f r, s.Selects (m.recordsOf s.table) f → s.Admits (m.recordsOf s.table) r →
      s.Mirrors m (update? s.table (some f) r.parameters)
        (m.effect (m.update? s.table f r.values))) ∧
    ∀ f, s.Selects (m.recordsOf s.table) f →
      s.Mirrors m (delete? s.table (some f)) (m.effect (m.delete? s.table f)) :=
  ⟨fun _ hr ↦ mirrors_insert hs hm hr, fun _ _ hf hr ↦ mirrors_update hs hm hf hr,
    fun _ hf ↦ mirrors_delete hs hm hf⟩

/-- People under their numbers. -/
def people : Source := ⟨"people", [("id", .integer), ("name", .text)], ["id"], none⟩

def person (id : Int) (name : String) : Record :=
  ⟨[("id", ⟨.integer, .integer id⟩), ("name", ⟨.text, .text name⟩)], []⟩

/-- Two people of one name. -/
def namesakes : Store :=
  (((Store.declare {} people).insert "people" (person 1 "a")).1.insert "people" (person 2 "a")).1

/-- A statement that gives both of them one number is refused. -/
theorem writes_mirrored_namesakes :
    let f : Filter := .compare (.name "name") .eq (.one ⟨.text, .text "a"⟩)
    ∃ b c, update? "people" (some f) (person 3 "b").parameters = .ok b ∧
      Command.read? b.text b.parameters = some c ∧
      ∀ locale, c.run? locale ["id"] [(person 1 "a").tableRow, (person 2 "a").tableRow] =
        some .refused := by
  intro f
  have hs : people.HasColumns := ⟨by decide, by decide, by decide, by decide⟩
  have hmem {row : StoredRow} (hrow : row ∈ namesakes.rowsOf "people") :
      ∃ number id, row = ⟨number, person id "a", []⟩ := by
    have hrow : row ∈ [⟨1, person 1 "a", []⟩, ⟨2, person 2 "a", []⟩] := hrow
    simp only [List.mem_cons, List.not_mem_nil, or_false] at hrow
    rcases hrow with rfl | rfl <;> exact ⟨_, _, rfl⟩
  have hrecord {r : Record} (hr : r ∈ namesakes.recordsOf "people") : ∃ id, r = person id "a" := by
    obtain ⟨row, hrow, rfl⟩ := List.mem_map.mp hr
    obtain ⟨number, id, rfl⟩ := hmem hrow
    exact ⟨id, rfl⟩
  -- no column holds timestamps
  have hoffsets (n : String) (hn : n ∈ people.fields.keys) (id : Int) (name : String) (v : Value) :
      ((person id name).valueOrNull n).AgreesInOffset v := by
    have hn : n ∈ ["id", "name"] := hn
    simp only [List.mem_cons, List.not_mem_nil, or_false] at hn
    rcases hn with rfl | rfl <;> exact fun t u ht _ ↦ by cases ht
  have hm : people.IsHeld namesakes := by
    refine ⟨⟨rfl, _, rfl, fun _ ↦ rfl⟩, fun row hrow ↦ ?_, fun x hx y _ n u hu _ ↦ ?_,
      fun r hr ↦ ?_, fun r hr ↦ ?_, fun n hn x hx y _ ↦ ?_, ?_⟩
    · obtain ⟨number, id, rfl⟩ := hmem hrow
      exact List.forall_mem_cons.mpr ⟨rfl, List.forall_mem_singleton.mpr rfl⟩
    · obtain ⟨number, id, rfl⟩ := hmem hx
      cases hu
    · obtain ⟨id, rfl⟩ := hrecord hr
      simp [Record.HasKey, people, person, Record.valueOrNull, Value.isNull]
    · obtain ⟨id, rfl⟩ := hrecord hr
      refine Record.conforms_of_forall (List.forall_mem_cons.mpr ⟨⟨rfl, .inr rfl⟩, ?_⟩)
      exact List.forall_mem_singleton.mpr ⟨rfl, .inr rfl⟩
    · obtain ⟨id, rfl⟩ := hrecord hx
      exact hoffsets n hn id "a" _
    · refine List.pairwise_pair.mpr ⟨"id", by decide, fun hrank ↦ ?_⟩
      have hnumbers : Scalar.integer 1 = .integer 2 := Option.some.inj hrank
      cases hnumbers
  have hf : people.Selects (namesakes.recordsOf "people") f := by
    refine ⟨⟨f, .comparing (by decide) (by decide)
      (show Filter.comparing? .eq (.text "name") (.text "a") = .ok _ from rfl), rfl⟩, ?_⟩
    intro p hp
    cases List.mem_singleton.mp hp
    refine ⟨rfl, fun r hr ↦ ?_⟩
    obtain ⟨id, rfl⟩ := hrecord hr
    exact hoffsets "name" (by decide) id "a" _
  have hr : people.Admits (namesakes.recordsOf "people") (person 3 "b") := by
    refine ⟨⟨Unit, ⟨people.fields, "Person", fun _ ↦ .ok [("id", .integer 3), ("name", .text "b")],
      fun _ ↦ .ok (), List.cons_ne_nil _ _⟩, (), rfl, rfl⟩, fun n hn ↦ ?_, fun n hn r hr ↦ ?_⟩
    · cases List.mem_singleton.mp hn
      rfl
    · obtain ⟨id, rfl⟩ := hrecord hr
      exact hoffsets n (by revert n; decide) id "a" _
  obtain ⟨b, c, hb, hread, -, hruns⟩ := (writes_mirrored hs hm).2.1 f (person 3 "b") hf hr
  refine ⟨b, c, hb, hread, fun locale ↦ ?_⟩
  obtain ⟨after, -, hok, -⟩ | ⟨hrefused, -⟩ := hruns locale _ (.refl _)
  · cases hok
  · exact hrefused

end Source

end RecordStore
