import RecordStore.Proofs.Memory.Lists

/-!
# Rows that wait for their conversion

A row that was written before the shape of its table was declared keeps its record as it is until an
update overwrites it; whoever looks at it before sees the record in the shape.  Two stores that only
differ in which rows of a table were converted answer every call alike, and stay so.

* `StoredRow.conformed` is a row as it is seen, and `Store.conformed` the store in which a table was
  converted.
* `Rows.Alike` says that two tables cannot be told apart in a shape, and `Store.Alike` says it of
  two stores.
* `Store.Alike.insert`, `.update?_agree`, `.delete?_agree`, `.batch` and `.sourceRecords?_eq` are
  the statement above.
-/

namespace RecordStore

open Outcome

/-! ## Rows -/

namespace StoredRow

variable {table : String} {fields : Shape} {a b a' b' row : StoredRow} {r : Record} {n : String}

/-- The row with its record in the shape; a record that does not take it on stays as it is. -/
def conformed (table : String) (fields : Shape) (row : StoredRow) : StoredRow :=
  match Store.conformTo? table fields row.record with
  | .ok r => row.reshaped r
  | .error _ => row

theorem conformed_of_ok (h : Store.conformTo? table fields row.record = .ok r) :
    row.conformed table fields = row.reshaped r := by
  rw [conformed, h]

theorem conformed_of_error {f : Fault}
    (h : Store.conformTo? table fields row.record = .error f) :
    row.conformed table fields = row := by
  rw [conformed, h]

/-- A row in the shape stays as it is. -/
theorem conformed_eq_self (h : Store.conformTo? table fields row.record = .ok row.record) :
    row.conformed table fields = row := by
  rw [conformed_of_ok h, reshaped_self]

/-- A conversion that comes later comes to the same. -/
theorem conformTo?_conformed (table : String) (fields : Shape) (row : StoredRow) :
    Store.conformTo? table fields (row.conformed table fields).record =
      Store.conformTo? table fields row.record := by
  cases h : Store.conformTo? table fields row.record with
  | ok r =>
    rw [conformed_of_ok h]
    exact Store.conformTo?_conformTo? h
  | error f => rw [conformed_of_error h, h]

theorem conformed_conformed (table : String) (fields : Shape) (row : StoredRow) :
    (row.conformed table fields).conformed table fields = row.conformed table fields := by
  cases h : Store.conformTo? table fields row.record with
  | ok r =>
    rw [conformed_of_ok h]
    exact conformed_eq_self (Store.conformTo?_conformTo? h)
  | error f => rw [conformed_of_error h, conformed_of_error h]

theorem number_conformed (table : String) (fields : Shape) (row : StoredRow) :
    (row.conformed table fields).number = row.number := by
  rw [conformed]
  split <;> rfl

/-- What wrote a value of the row in the shape wrote it before. -/
theorem mem_writers_of_conformed {p : String × Nat} (h : p ∈ (row.conformed table fields).writers) :
    p ∈ row.writers := by
  rw [conformed] at h
  split at h
  · exact List.mem_of_mem_filter h
  · exact h

/-- One update wrote the values of both rows. -/
def Shares (a b : StoredRow) (n : String) : Prop :=
  ∃ u, a.writers.lookup n = some u ∧ b.writers.lookup n = some u

theorem sameKey_congr {key : List String} (ha : a'.record = a.record) (hb : b'.record = b.record)
    (hshares : ∀ n, a'.Shares b' n ↔ a.Shares b n) :
    Store.sameKey (a'.keyValues key) (b'.keyValues key) =
      Store.sameKey (a.keyValues key) (b.keyValues key) := by
  refine Bool.eq_iff_iff.mpr ?_
  rw [sameKey_iff, sameKey_iff, ha, hb]
  exact forall₂_congr fun n _ ↦ or_congr_left (hshares n)

end StoredRow

/-! ## Tables -/

namespace Rows

variable {same : Prop} {table : String} {fields : Shape} {ps qs : List (StoredRow × StoredRow)}
  {p : StoredRow × StoredRow} {xs ys : Rows}

/-- Rows side by side that cannot be told apart in the shape.  They have the same numbers and give
the same records, or fail to for the same reason; one update wrote values of two rows on one side if
it did so on the other side.  Where `same` holds they are the same rows. -/
structure Paired (same : Prop) (table : String) (fields : Shape)
    (ps : List (StoredRow × StoredRow)) : Prop where
  number : ∀ p ∈ ps, p.2.number = p.1.number
  record : ∀ p ∈ ps,
    Store.conformTo? table fields p.2.record = Store.conformTo? table fields p.1.record
  shares : ∀ p ∈ ps, ∀ q ∈ ps, ∀ n,
    (p.2.conformed table fields).Shares (q.2.conformed table fields) n ↔
      (p.1.conformed table fields).Shares (q.1.conformed table fields) n
  eq : same → ∀ p ∈ ps, p.2 = p.1

/-- Two tables that cannot be told apart in the shape. -/
def Alike (same : Prop) (table : String) (fields : Shape) (xs ys : Rows) : Prop :=
  ∃ ps, Paired same table fields ps ∧ ps.map Prod.fst = xs ∧ ps.map Prod.snd = ys

theorem Paired.of_subset (h : Paired same table fields ps) (hsub : qs ⊆ ps) :
    Paired same table fields qs where
  number p hp := h.number p (hsub hp)
  record p hp := h.record p (hsub hp)
  shares p hp q hq := h.shares p (hsub hp) q (hsub hq)
  eq hsame p hp := h.eq hsame p (hsub hp)

/-- Rows that look the same cannot be told apart. -/
theorem Paired.of_conformed (hnumber : ∀ p ∈ ps, p.2.number = p.1.number)
    (h : ∀ p ∈ ps, p.2.conformed table fields = p.1.conformed table fields)
    (heq : same → ∀ p ∈ ps, p.2 = p.1) : Paired same table fields ps where
  number := hnumber
  record p hp := by
    rw [← StoredRow.conformTo?_conformed, h p hp, StoredRow.conformTo?_conformed]
  shares p hp q hq n := by rw [h p hp, h q hq]
  eq := heq

namespace Alike

theorem refl (same : Prop) (table : String) (fields : Shape) (xs : Rows) :
    Alike same table fields xs xs := by
  refine ⟨xs.map fun x ↦ (x, x), .of_conformed ?_ ?_ fun _ ↦ ?_, by simp [Function.comp_def],
    by simp [Function.comp_def]⟩
  all_goals
    intro p hp
    obtain ⟨x, -, rfl⟩ := List.mem_map.mp hp
    rfl

/-- A table that was converted cannot be told apart from what it was. -/
theorem conformed (hsame : ¬ same) (table : String) (fields : Shape) (xs : Rows) :
    Alike same table fields xs (xs.map (·.conformed table fields)) := by
  refine ⟨xs.map fun x ↦ (x, x.conformed table fields), .of_conformed ?_ ?_ (absurd · hsame),
    by simp [Function.comp_def], by simp⟩
  · intro p hp
    obtain ⟨x, -, rfl⟩ := List.mem_map.mp hp
    exact x.number_conformed table fields
  · intro p hp
    obtain ⟨x, -, rfl⟩ := List.mem_map.mp hp
    exact x.conformed_conformed table fields

theorem eq (h : Alike same table fields xs ys) (hsame : same) : ys = xs := by
  obtain ⟨ps, hps, rfl, rfl⟩ := h
  exact List.map_congr_left (hps.eq hsame)

/-- Tables that are the same whenever they are asked about in another shape. -/
theorem change {table' : String} {fields' : Shape} (h : Alike same table fields xs ys)
    (hshape : ¬ same → table' = table ∧ fields' = fields) : Alike same table' fields' xs ys := by
  by_cases hsame : same
  · rw [h.eq hsame]
    exact refl _ _ _ _
  · obtain ⟨rfl, rfl⟩ := hshape hsame
    exact h

theorem length_eq (h : Alike same table fields xs ys) : ys.length = xs.length := by
  obtain ⟨ps, -, rfl, rfl⟩ := h
  rw [List.length_map, List.length_map]

/-- Both tables give the same records in the shape. -/
theorem mapM_conformTo? (h : Alike same table fields xs ys) :
    (ys.mapM fun row ↦ Store.conformTo? table fields row.record) =
      xs.mapM fun row ↦ Store.conformTo? table fields row.record := by
  obtain ⟨ps, hps, rfl, rfl⟩ := h
  rw [List.mapM_map, List.mapM_map]
  exact mapM_congr hps.record

/-- A new row that no update has written is shared with no other one. -/
theorem append (h : Alike same table fields xs ys) {row : StoredRow} (hnew : row.writers = []) :
    Alike same table fields (xs ++ [row]) (ys ++ [row]) := by
  obtain ⟨ps, hps, rfl, rfl⟩ := h
  have hnone (n : String) : (row.conformed table fields).writers.lookup n = none := by
    refine List.lookup_eq_none_iff.mpr fun p hp ↦ ?_
    have hmem := StoredRow.mem_writers_of_conformed hp
    rw [hnew] at hmem
    cases hmem
  refine ⟨ps ++ [(row, row)], ⟨?_, ?_, fun p hp q hq n ↦ ?_, fun hsame ↦ ?_⟩, by simp, by simp⟩
  · exact List.forall_mem_append.mpr ⟨hps.number, List.forall_mem_singleton.mpr rfl⟩
  · exact List.forall_mem_append.mpr ⟨hps.record, List.forall_mem_singleton.mpr rfl⟩
  · rcases List.mem_append.mp hp with hp | hp
    · rcases List.mem_append.mp hq with hq | hq
      · exact hps.shares p hp q hq n
      · rw [List.mem_singleton.mp hq]
        simp [StoredRow.Shares, hnone]
    · rw [List.mem_singleton.mp hp]
      simp [StoredRow.Shares, hnone]
  · exact List.forall_mem_append.mpr ⟨hps.eq hsame, List.forall_mem_singleton.mpr rfl⟩

end Alike

/-! ### Updates -/

/-- What an update makes of two rows, under its number on each side: it leaves both as they are, or
overwrites the same values in both. -/
inductive Overwrites (table : String) (fields : Shape) (values : Assoc Value) (u u' : Nat)
    (p : StoredRow × StoredRow) : StoredRow × StoredRow → Prop
  | kept : Overwrites table fields values u u' p p
  | changed {r : Record} (h : Store.conformTo? table fields p.1.record = .ok r) :
    Overwrites table fields values u u' p
      ((p.1.conformed table fields).overwritten u values,
        (p.2.conformed table fields).overwritten u' values)

section Overwritten

variable {u u' : Nat} {values : Assoc Value} {new : Record} {q : StoredRow × StoredRow}

/-- Two rows in the shape that have the same record in it. -/
theorem Paired.record_conformed (h : Paired same table fields ps) (hp : p ∈ ps) {r : Record}
    (hr : Store.conformTo? table fields p.1.record = .ok r) :
    (p.1.conformed table fields).record = r ∧ (p.2.conformed table fields).record = r := by
  rw [StoredRow.conformed_of_ok hr, StoredRow.conformed_of_ok ((h.record p hp).trans hr)]
  exact ⟨rfl, rfl⟩

variable (h : Paired same table fields ps)
  (hnew : Store.conformTo? table fields { values } = .ok new)
include h hnew

/-- Both rows have what the update wrote, or neither has. -/
theorem Overwrites.lookup_writers (hp : p ∈ ps) (hq : Overwrites table fields new.values u u' p q)
    (n : String) :
    ((q.1.conformed table fields).writers.lookup n = some u ∧
      (q.2.conformed table fields).writers.lookup n = some u') ∨
    ((q.1.conformed table fields).writers.lookup n =
        (p.1.conformed table fields).writers.lookup n ∧
      (q.2.conformed table fields).writers.lookup n =
        (p.2.conformed table fields).writers.lookup n) := by
  cases hq with
  | kept => exact .inr ⟨rfl, rfl⟩
  | @changed r hr =>
    obtain ⟨hleft, hright⟩ := h.record_conformed hp hr
    have hself {row : StoredRow} (hrow : row.record = r) (u : Nat) :
        (row.overwritten u new.values).conformed table fields = row.overwritten u new.values := by
      apply StoredRow.conformed_eq_self
      change Store.conformTo? table fields (row.record.replace new.values) =
        .ok (row.record.replace new.values)
      rw [hrow]
      exact Store.conformTo?_replace hr hnew
    rw [hself hleft, hself hright, StoredRow.lookup_writers_overwritten,
      StoredRow.lookup_writers_overwritten]
    cases (Assoc.ofPairs new.values).lookup n with
    | none => exact .inr ⟨rfl, rfl⟩
    | some v => exact .inl ⟨rfl, rfl⟩

/-- What an update leaves cannot be told apart if its numbers are new on both sides. -/
theorem Paired.overwritten (hfresh : ∀ p ∈ ps, ∀ n, (n, u) ∉ p.1.writers)
    (hfresh' : ∀ p ∈ ps, ∀ n, (n, u') ∉ p.2.writers) (hsame : same → u' = u)
    (hqs : ∀ q ∈ qs, ∃ p ∈ ps, Overwrites table fields new.values u u' p q) :
    Paired same table fields qs := by
  -- what the update wrote it shares with no value that it left
  have hleft {p} (hp : p ∈ ps) {n} :
      (p.1.conformed table fields).writers.lookup n ≠ some u := fun hu ↦
    hfresh p hp n (StoredRow.mem_writers_of_conformed (mem_of_lookup hu))
  have hright {p} (hp : p ∈ ps) {n} :
      (p.2.conformed table fields).writers.lookup n ≠ some u' := fun hu ↦
    hfresh' p hp n (StoredRow.mem_writers_of_conformed (mem_of_lookup hu))
  refine ⟨fun q hq ↦ ?_, fun q hq ↦ ?_, fun q hq q' hq' n ↦ ?_, fun hs q hq ↦ ?_⟩
  · obtain ⟨p, hp, - | hr⟩ := hqs q hq
    · exact h.number q hp
    · change (p.2.conformed table fields).number = (p.1.conformed table fields).number
      rw [StoredRow.number_conformed, StoredRow.number_conformed, h.number p hp]
  · obtain ⟨p, hp, - | hr⟩ := hqs q hq
    · exact h.record q hp
    · obtain ⟨hrecord, hrecord'⟩ := h.record_conformed hp hr
      change Store.conformTo? table fields
          ((p.2.conformed table fields).record.replace new.values) =
        Store.conformTo? table fields ((p.1.conformed table fields).record.replace new.values)
      rw [hrecord, hrecord']
  · obtain ⟨p, hp, hpq⟩ := hqs q hq
    obtain ⟨p', hp', hpq'⟩ := hqs q' hq'
    rcases hpq.lookup_writers h hnew hp n with ⟨hu, hu'⟩ | ⟨hu, hu'⟩ <;>
      rcases hpq'.lookup_writers h hnew hp' n with ⟨hw, hw'⟩ | ⟨hw, hw'⟩ <;>
        simp only [StoredRow.Shares, hu, hu', hw, hw']
    · simp
    · simp [hleft hp', hright hp']
    · simp [hleft hp, hright hp]
    · exact h.shares p hp p' hp' n
  · obtain ⟨p, hp, - | hr⟩ := hqs q hq
    · exact h.eq hs q hp
    · rw [h.eq hs p hp, hsame hs]

end Overwritten

end Rows

/-! ## Calls on a table -/

namespace Store

variable {s s' : Store} {same : Prop} {table : String} {fields : Shape} {key : List String}
  {ps : List (StoredRow × StoredRow)} {p : StoredRow × StoredRow} {xs ys : Rows} {f : Filter}
  {x x' : StoredRow}

/-- The text of a key tells its values only. -/
theorem showKey_congr {vs ws : List KeyValue}
    (h : vs.map KeyValue.value = ws.map KeyValue.value) : showKey key vs = showKey key ws := by
  have hshown (vs : List KeyValue) : showKey key vs =
      braced ((Assoc.ofPairs (key.zip (vs.map KeyValue.value))).map fun p ↦
        Text.quoted p.1 ++ ": " ++ p.2.shown) := by
    have hpairs : Assoc.ofPairs (key.zip (vs.map KeyValue.value)) =
        (Assoc.ofPairs (key.zip vs)).mapValues KeyValue.value := by
      rw [Assoc.ofPairs, Assoc.ofPairs, Assoc.mapValues_merge, List.zip_map_right]
      rfl
    rw [hpairs, Assoc.mapValues, List.map_map]
    rfl
  rw [hshown, hshown, h]

/-- Two rows with the same record have new keys, or have none for the same reason. -/
theorem newKey?_agree {seen seen' : List (List KeyValue)} (hrecord : x'.record = x.record)
    (hseen : seen'.any (sameKey (x'.keyValues key)) = seen.any (sameKey (x.keyValues key))) :
    Agree (fun vs vs' ↦ vs = x.keyValues key ∧ vs' = x'.keyValues key)
      (newKey? table key seen x) (newKey? table key seen' x') := by
  have hvalues : (x'.keyValues key).map KeyValue.value = (x.keyValues key).map KeyValue.value := by
    simp [StoredRow.keyValues, hrecord]
  have hnull : (x'.keyValues key).any (·.value.isNull) =
      (x.keyValues key).any (·.value.isNull) := by
    simp [StoredRow.keyValues, hrecord, Function.comp_def]
  have hhash : (x'.keyValues key).all (·.value.isHashable) =
      (x.keyValues key).all (·.value.isHashable) := by
    simp [StoredRow.keyValues, hrecord, Function.comp_def]
  unfold newKey?
  dsimp only
  rw [hnull, hhash, hseen, showKey_congr hvalues]
  split
  · exact .error _
  split
  · exact .error _
  split
  · exact .error _
  · exact .ok ⟨rfl, rfl⟩

section Shaped

variable (hs : (s.shape? table).getD [] = fields) (hs' : (s'.shape? table).getD [] = fields)
include hs hs'

/-- Rows that cannot be told apart are converted alike. -/
theorem conformRow?_agree (hps : Rows.Paired same table fields ps) (hp : p ∈ ps) :
    Agree (fun x x' ↦ x = p.1.conformed table fields ∧ x' = p.2.conformed table fields ∧
        ∃ r, conformTo? table fields p.1.record = .ok r)
      (s.conformRow? table p.1) (s'.conformRow? table p.2) := by
  have hrecord := hps.record p hp
  rw [conformRow?, conformRow?, conform?, conform?, hs, hs', hrecord]
  cases hr : conformTo? table fields p.1.record with
  | ok r =>
    have hleft := StoredRow.conformed_of_ok hr
    have hright := StoredRow.conformed_of_ok (hrecord.trans hr)
    exact .ok ⟨hleft.symm, hright.symm, r, rfl⟩
  | error f => exact .error f

/-- The keys of rows that cannot be told apart pass the check or fail at the same row. -/
theorem checkKeys?_eq {rest : List (StoredRow × StoredRow)} (done : List (StoredRow × StoredRow))
    (h : Rows.Paired same table fields (done ++ rest))
    (hdone : ∀ p ∈ done,
      (p.2.conformed table fields).record = (p.1.conformed table fields).record) :
    s.checkKeys? table key (done.map fun p ↦ (p.1.conformed table fields).keyValues key)
        (rest.map Prod.fst) =
      s'.checkKeys? table key (done.map fun p ↦ (p.2.conformed table fields).keyValues key)
        (rest.map Prod.snd) := by
  induction rest generalizing done with
  | nil => rfl
  | cons p rest ih =>
    have hp : p ∈ done ++ p :: rest := by simp
    rw [List.map_cons, List.map_cons, checkKeys?, checkKeys?]
    refine agree_eq_iff.mp ((conformRow?_agree hs hs' h hp).bind ?_)
    rintro _ _ ⟨rfl, rfl, r, hr⟩
    obtain ⟨hleft, hright⟩ := h.record_conformed hp hr
    have hrecord := hright.trans hleft.symm
    refine (newKey?_agree hrecord ?_).bind ?_
    · refine Bool.eq_iff_iff.mpr ?_
      simp only [List.any_map, List.any_eq_true, Function.comp_apply]
      refine exists_congr fun q ↦ and_congr_right fun hq ↦ ?_
      rw [StoredRow.sameKey_congr hrecord (hdone q hq) (h.shares p hp q (by simp [hq]))]
    · rintro _ _ ⟨rfl, rfl⟩
      have hrest := ih (done ++ [p]) (by simpa using h) fun q hq ↦ by
        rcases List.mem_append.mp hq with hq | hq
        · exact hdone q hq
        · rw [List.mem_singleton.mp hq, hrecord]
      simpa [agree_eq_iff] using hrest

theorem checkUnique?_eq (hkeys : s'.keys = s.keys) (h : Rows.Alike same table fields xs ys) :
    s.checkUnique? table xs = s'.checkUnique? table ys := by
  obtain ⟨ps, hps, rfl, rfl⟩ := h
  rw [checkUnique?, checkUnique?, hkeys]
  cases s.keys.lookup table with
  | none => rfl
  | some key => exact checkKeys?_eq hs hs' [] hps (List.forall_mem_nil _)

/-- An update goes through rows that cannot be told apart in the same way. -/
theorem overwrite?_agree (hps : Rows.Paired same table fields ps) (f : Filter) (u u' : Nat)
    (values : Assoc Value) :
    Agree (fun a b ↦ b.2 = a.2 ∧ ∃ qs : List (StoredRow × StoredRow),
        qs.map Prod.fst = a.1 ∧ qs.map Prod.snd = b.1 ∧
          ∀ q ∈ qs, ∃ p ∈ ps, Rows.Overwrites table fields values u u' p q)
      (s.overwrite? table f u values (ps.map Prod.fst))
      (s'.overwrite? table f u' values (ps.map Prod.snd)) := by
  induction ps with
  | nil => exact .ok ⟨rfl, [], rfl, rfl, nofun⟩
  | cons p ps ih =>
    have hp : p ∈ p :: ps := List.mem_cons_self
    rw [List.map_cons, List.map_cons, overwrite?, overwrite?]
    refine (conformRow?_agree hs hs' hps hp).bind ?_
    rintro _ _ ⟨rfl, rfl, r, hr⟩
    obtain ⟨hleft, hright⟩ := hps.record_conformed hp hr
    rw [hleft, hright]
    refine .after _ fun passes ↦ ?_
    refine (ih (hps.of_subset (List.subset_cons_self p ps))).bind ?_
    rintro ⟨rows, n⟩ ⟨rows', _⟩ ⟨rfl, qs, rfl, rfl, hqs⟩
    have hrest : ∀ q ∈ qs, ∃ p' ∈ p :: ps, Rows.Overwrites table fields values u u' p' q :=
      fun q hq ↦ (hqs q hq).imp fun _ h ↦ ⟨List.mem_cons_of_mem p h.1, h.2⟩
    cases passes with
    | true =>
      have hall := List.forall_mem_cons.mpr ⟨⟨p, hp, .changed hr⟩, hrest⟩
      exact .ok ⟨rfl, _ :: qs, rfl, rfl, hall⟩
    | false =>
      have hall := List.forall_mem_cons.mpr ⟨⟨p, hp, .kept⟩, hrest⟩
      exact .ok ⟨rfl, p :: qs, rfl, rfl, hall⟩

/-- The same rows are kept of rows that cannot be told apart. -/
theorem keep?_agree (hps : Rows.Paired same table fields ps) (f : Filter) :
    Agree (fun a b ↦ ∃ qs : List (StoredRow × StoredRow),
        qs.map Prod.fst = a ∧ qs.map Prod.snd = b ∧ qs ⊆ ps)
      (s.keep? table f (ps.map Prod.fst)) (s'.keep? table f (ps.map Prod.snd)) := by
  induction ps with
  | nil => exact .ok ⟨[], rfl, rfl, List.Subset.refl []⟩
  | cons p ps ih =>
    have hrecord : s'.conform? table p.2.record = s.conform? table p.1.record := by
      rw [conform?, conform?, hs, hs', hps.record p List.mem_cons_self]
    rw [List.map_cons, List.map_cons, keep?, keep?, hrecord]
    refine .after _ fun r ↦ ?_
    refine .after _ fun passes ↦ ?_
    refine (ih (hps.of_subset (List.subset_cons_self p ps))).bind ?_
    rintro _ _ ⟨qs, rfl, rfl, hqs⟩
    cases passes with
    | true => exact .ok ⟨qs, rfl, rfl, List.subset_cons_of_subset p hqs⟩
    | false => exact .ok ⟨p :: qs, rfl, rfl, List.cons_subset_cons p hqs⟩

end Shaped

end Store

/-! ## Stores -/

/-- Tables that cannot be told apart where this one has the shape; all others are the same. -/
def TablesAlike (table : String) (fields : Shape) (ts ts' : Assoc Rows) : Prop :=
  List.Forall₂ (fun p p' ↦ p'.1 = p.1 ∧ Rows.Alike (p.1 ≠ table) table fields p.2 p'.2) ts ts'

namespace TablesAlike

variable {table : String} {fields : Shape} {ts ts' : Assoc Rows} {xs ys : Rows}

theorem refl (table : String) (fields : Shape) (ts : Assoc Rows) : TablesAlike table fields ts ts :=
  List.forall₂_same.mpr fun p _ ↦ ⟨rfl, .refl _ _ _ p.2⟩

theorem names (h : TablesAlike table fields ts ts') : ts'.map Prod.fst = ts.map Prod.fst := by
  induction h with
  | nil => rfl
  | cons hp _ ih => rw [List.map_cons, List.map_cons, hp.1, ih]

theorem rows (h : TablesAlike table fields ts ts') (name : String) :
    Rows.Alike (name ≠ table) table fields ((ts.lookup name).getD [])
      ((ts'.lookup name).getD []) := by
  induction h with
  | nil => exact .refl _ _ _ []
  | @cons p p' _ _ hp _ ih =>
    rw [List.lookup_cons, List.lookup_cons, hp.1]
    split
    · rename_i hname
      rw [beq_iff_eq.mp hname]
      exact hp.2
    · exact ih

theorem insert (h : TablesAlike table fields ts ts') {name : String}
    (hrows : Rows.Alike (name ≠ table) table fields xs ys) :
    TablesAlike table fields (Assoc.insert ts name xs) (Assoc.insert ts' name ys) := by
  induction h with
  | nil => exact .cons ⟨rfl, hrows⟩ .nil
  | @cons p p' _ _ hp hps ih =>
    rw [Assoc.insert, Assoc.insert, hp.1]
    split
    · exact .cons ⟨rfl, hrows⟩ hps
    · exact .cons ⟨rfl, hp.2⟩ ih

end TablesAlike

/-- What was kept of two stores cannot be told apart. -/
structure Checkpoint.Alike (table : String) (fields : Shape) (c c' : Checkpoint) : Prop where
  tables : TablesAlike table fields c.tables c'.tables
  lastRow : c'.lastRow = c.lastRow

/-- The shape is no other one where the source is about the table. -/
def Source.Keeps (table : String) (fields : Shape) (src : Source) : Prop :=
  src.table = table → src.fields = [] ∨ src.fields = fields

namespace Store

/-- The store with every row of a table in the shape that is declared of it. -/
def conformed (s : Store) (table : String) : Store :=
  let view := fun (row : StoredRow) ↦ row.conformed table ((s.shape? table).getD [])
  { s with tables := s.tables.map fun p ↦ (p.1, if p.1 = table then p.2.map view else p.2) }

/-- Two stores that cannot be told apart where the table has the shape. -/
structure Alike (table : String) (fields : Shape) (s s' : Store) : Prop where
  shape : s.shape? table = some fields
  tables : TablesAlike table fields s.tables s'.tables
  keys : s'.keys = s.keys
  shapes : s'.shapes = s.shapes
  lastRow : s'.lastRow = s.lastRow

/-- Two calls leave stores that cannot be told apart, and come to the same. -/
def AnswerAlike {α : Type} (table : String) (fields : Shape) (e e' : Store × Outcome α) : Prop :=
  e.1.Alike table fields e'.1 ∧ e'.2 = e.2

variable {table name : String} {fields : Shape} {s s' : Store} {c c' : Checkpoint} {xs ys : Rows}

theorem AnswerAlike.map {α β : Type} {e e' : Store × Outcome α}
    (h : AnswerAlike table fields e e') (f : α → β) :
    AnswerAlike table fields (e.1, e.2.map f) (e'.1, e'.2.map f) :=
  ⟨h.1, congrArg (Except.map f) h.2⟩

theorem rowsOf_conformed (s : Store) (table name : String) : (s.conformed table).rowsOf name =
    if name = table then
      (s.rowsOf name).map (·.conformed table ((s.shape? table).getD []))
    else s.rowsOf name := by
  rw [rowsOf, rowsOf, conformed]
  induction s.tables with
  | nil => simp
  | cons p ps ih =>
    rw [List.map_cons, List.lookup_cons, List.lookup_cons]
    split
    · rename_i hname
      rw [beq_iff_eq.mp hname]
      split <;> rfl
    · exact ih

/-- Where all rows fit, conversion puts each of them in the shape. -/
theorem rowsOf_conformed_of_ok (h : (s.rowsOf table).mapM (s.conformRow? table) = .ok xs) :
    (s.conformed table).rowsOf table = xs := by
  rw [rowsOf_conformed, if_pos rfl]
  have hall := mapM_eq_ok.mp h
  clear h
  generalize s.rowsOf table = rows at hall ⊢
  induction hall with
  | nil => rfl
  | @cons row row' _ _ hrow _ ih =>
    obtain ⟨r, hr, hrow⟩ := bind_eq_ok.mp hrow
    cases hrow
    rw [List.map_cons, ih, StoredRow.conformed_of_ok hr]

/-- A store in which a table was converted cannot be told apart from what it was. -/
theorem alike_conformed (h : s.shape? table = some fields) :
    s.Alike table fields (s.conformed table) where
  shape := h
  tables := by
    rw [TablesAlike, conformed, List.forall₂_map_right_iff, h]
    refine List.forall₂_same.mpr fun p _ ↦ ⟨rfl, ?_⟩
    dsimp only
    split
    · rename_i hp
      exact .conformed (not_not_intro hp) table fields p.2
    · exact .refl _ _ _ p.2
  keys := rfl
  shapes := rfl
  lastRow := rfl

namespace Alike

variable (h : s.Alike table fields s')
include h

theorem shape?_eq (name : String) : s'.shape? name = s.shape? name := by
  rw [shape?, shape?, h.shapes]

theorem conform?_eq (name : String) (r : Record) : s'.conform? name r = s.conform? name r := by
  rw [conform?, conform?, h.shape?_eq]

theorem getD_shape? (hname : name = table) : (s.shape? name).getD [] = fields := by
  rw [hname, h.shape]
  rfl

/-- Every table is one that cannot be told apart in a shape that agrees with the declared one. -/
theorem rows (name : String) {asked : Shape} (hasked : name = table → asked = fields) :
    Rows.Alike (name ≠ table) name asked (s.rowsOf name) (s'.rowsOf name) :=
  (h.tables.rows name).change fun hname ↦ ⟨not_not.mp hname, hasked (not_not.mp hname)⟩

theorem rowsOf_eq (hname : name ≠ table) : s'.rowsOf name = s.rowsOf name :=
  (h.tables.rows name).eq hname

theorem setRows (hrows : Rows.Alike (name ≠ table) name ((s.shape? name).getD []) xs ys) :
    (s.setRows name xs).Alike table fields (s'.setRows name ys) where
  shape := h.shape
  tables := h.tables.insert <| hrows.change fun hname ↦
    ⟨(not_not.mp hname).symm, (h.getD_shape? (not_not.mp hname)).symm⟩
  keys := h.keys
  shapes := h.shapes
  lastRow := h.lastRow

theorem checkUnique?_eq (hrows : Rows.Alike (name ≠ table) name ((s.shape? name).getD []) xs ys) :
    s.checkUnique? name xs = s'.checkUnique? name ys :=
  Store.checkUnique?_eq rfl (by rw [h.shape?_eq]) h.keys hrows

/-! ### Writes -/

theorem appended?_agree (name : String) (r : Record) :
    Agree (Rows.Alike (name ≠ table) name ((s.shape? name).getD []))
      (s.appended? name r) (s'.appended? name r) := by
  rw [appended?, appended?, h.conform?_eq, h.lastRow]
  refine .after _ fun r' ↦ ?_
  have hrows : Rows.Alike (name ≠ table) name ((s.shape? name).getD [])
      (s.rowsOf name ++ [⟨s.lastRow, r', []⟩]) (s'.rowsOf name ++ [⟨s.lastRow, r', []⟩]) :=
    (h.rows name h.getD_shape?).append rfl
  dsimp only
  rw [h.checkUnique?_eq hrows]
  exact .after _ fun _ ↦ .ok hrows

theorem insert (name : String) (r : Record) :
    AnswerAlike table fields (s.insert name r) (s'.insert name r) := by
  have hskipped : Store.Alike table fields { s with lastRow := s.lastRow + 1 }
      { s' with lastRow := s'.lastRow + 1 } :=
    { h with lastRow := congrArg (· + 1) h.lastRow }
  have hagree := hskipped.appended?_agree name r
  rw [Store.insert, Store.insert]
  revert hagree
  generalize appended? { s with lastRow := s.lastRow + 1 } name r = x
  generalize appended? { s' with lastRow := s'.lastRow + 1 } name r = y
  rintro (hrows | g)
  · exact ⟨hskipped.setRows hrows, rfl⟩
  · exact ⟨hskipped, rfl⟩

theorem update?_agree (name : String) (f : Filter) (values : Assoc Value) :
    Agree (fun a b ↦ a.1.Alike table fields b.1 ∧ b.2 = a.2)
      (s.update? name f values) (s'.update? name f values) := by
  obtain ⟨ps, hps, hxs, hys⟩ := h.rows name h.getD_shape?
  rw [update?, update?, h.conform?_eq]
  cases hnew : s.conform? name { values } with
  | error g => exact .error g
  | ok new =>
    have hfresh : ∀ p ∈ ps, ∀ n, (n, (s.rowsOf name).nextUpdate) ∉ p.1.writers := fun p hp n hu ↦
      absurd (Rows.lt_nextUpdate (hxs ▸ List.mem_map_of_mem hp) hu) (lt_irrefl _)
    have hfresh' : ∀ p ∈ ps, ∀ n, (n, (s'.rowsOf name).nextUpdate) ∉ p.2.writers := fun p hp n hu ↦
      absurd (Rows.lt_nextUpdate (hys ▸ List.mem_map_of_mem hp) hu) (lt_irrefl _)
    have hsame : name ≠ table → (s'.rowsOf name).nextUpdate = (s.rowsOf name).nextUpdate :=
      fun hname ↦ congrArg _ (h.rowsOf_eq hname)
    have hgone := overwrite?_agree rfl (by rw [h.shape?_eq]) hps f (s.rowsOf name).nextUpdate
      (s'.rowsOf name).nextUpdate new.values
    rw [hxs, hys] at hgone
    refine hgone.bind ?_
    rintro ⟨rows, n⟩ ⟨rows', _⟩ ⟨rfl, qs, rfl, rfl, hqs⟩
    have hrows : Rows.Alike (name ≠ table) name ((s.shape? name).getD [])
        (qs.map Prod.fst) (qs.map Prod.snd) :=
      ⟨qs, hps.overwritten hnew hfresh hfresh' hsame hqs, rfl, rfl⟩
    dsimp only
    split
    · exact .ok ⟨h, rfl⟩
    · rw [h.checkUnique?_eq hrows]
      exact .after _ fun _ ↦ .ok ⟨h.setRows hrows, rfl⟩

theorem delete?_agree (name : String) (f : Filter) :
    Agree (fun a b ↦ a.1.Alike table fields b.1 ∧ b.2 = a.2)
      (s.delete? name f) (s'.delete? name f) := by
  have hrowsOf := h.rows name h.getD_shape?
  have hlength := hrowsOf.length_eq
  obtain ⟨ps, hps, hxs, hys⟩ := hrowsOf
  rw [delete?, delete?]
  dsimp only
  rw [hlength, ← hxs, ← hys]
  refine (keep?_agree rfl (by rw [h.shape?_eq]) hps f).bind ?_
  rintro _ _ ⟨qs, rfl, rfl, hqs⟩
  have hrows : Rows.Alike (name ≠ table) name ((s.shape? name).getD [])
      (qs.map Prod.fst) (qs.map Prod.snd) := ⟨qs, hps.of_subset hqs, rfl, rfl⟩
  simp only [List.length_map]
  refine .ok ⟨?_, rfl⟩
  dsimp only
  split
  · exact h
  · exact h.setRows hrows

theorem effect {next next' : Outcome (Store × Nat)}
    (hnext : Agree (fun a b ↦ a.1.Alike table fields b.1 ∧ b.2 = a.2) next next') :
    AnswerAlike table fields (s.effect next) (s'.effect next') := by
  rcases hnext with hstores | g
  · exact ⟨hstores.1, rfl⟩
  · exact ⟨h, rfl⟩

theorem widened?_eq (name : String) (f : Filter) : s'.widened? name f = s.widened? name f := by
  rw [widened?, widened?, h.shape?_eq]

theorem write (w : WriteStatement) : AnswerAlike table fields (s.write w) (s'.write w) := by
  cases w with
  | insert name row =>
    rw [Store.write, Store.write]
    cases Record.ofMapping? row with
    | ok r => exact h.insert name r
    | error f => exact ⟨h, rfl⟩
  | update name f row =>
    refine h.effect (.after _ fun values ↦ ?_)
    rw [h.widened?_eq]
    refine .after _ fun f' ↦ ?_
    exact h.update?_agree name f' values
  | delete name f =>
    refine h.effect ?_
    rw [h.widened?_eq]
    refine .after _ fun f' ↦ ?_
    exact h.delete?_agree name f'
  | sql text ps => exact ⟨h, rfl⟩
  | junk d => exact ⟨h, rfl⟩

omit h in
theorem writeAll (ws : List WriteStatement) (h : s.Alike table fields s') :
    AnswerAlike table fields (s.writeAll ws) (s'.writeAll ws) := by
  induction ws generalizing s s' with
  | nil => exact ⟨h, rfl⟩
  | cons w ws ih =>
    obtain ⟨hstores, hanswers⟩ := h.write w
    rw [Store.writeAll, Store.writeAll]
    revert hstores hanswers
    generalize s.write w = e
    generalize s'.write w = e'
    obtain ⟨t, _⟩ := e
    obtain ⟨t', r⟩ := e'
    rintro hstores rfl
    cases r with
    | ok _ => exact ih hstores
    | error f => exact ⟨hstores, rfl⟩

theorem checkpoint : s.checkpoint.Alike table fields s'.checkpoint := ⟨h.tables, h.lastRow⟩

theorem restore (hc : c.Alike table fields c') :
    (s.restore c).Alike table fields (s'.restore c') :=
  ⟨h.shape, hc.tables, h.keys, h.shapes, hc.lastRow⟩

/-- All writes leave stores that cannot be told apart, or none does. -/
theorem batch (ws : List WriteStatement) :
    AnswerAlike table fields (s.batch ws) (s'.batch ws) := by
  obtain ⟨hstores, hanswers⟩ := h.writeAll ws
  rw [Store.batch, Store.batch]
  revert hstores hanswers
  generalize s.writeAll ws = e
  generalize s'.writeAll ws = e'
  obtain ⟨t, _⟩ := e
  obtain ⟨t', r⟩ := e'
  rintro hstores rfl
  cases r with
  | ok _ => exact ⟨hstores, rfl⟩
  | error f => exact ⟨hstores.restore h.checkpoint, rfl⟩

theorem declareKey (name : String) (key : List String) :
    (s.declareKey name key).Alike table fields (s'.declareKey name key) := by
  rw [Store.declareKey, Store.declareKey]
  split
  · exact h
  · exact { h with keys := congrArg (·.insert name key) h.keys }

/-- A shape that is no other one of the table may be declared. -/
theorem declareShape {asked : Shape} (hasked : name = table → asked = [] ∨ asked = fields) :
    (s.declareShape name asked).Alike table fields (s'.declareShape name asked) := by
  rw [Store.declareShape, Store.declareShape]
  split
  · exact h
  · rename_i hempty
    refine { h with shape := ?_, shapes := congrArg (·.insert name asked) h.shapes }
    rw [shape?, Assoc.lookup_insert]
    split
    · rename_i hname
      rcases hasked hname.symm with rfl | rfl
      · exact absurd rfl hempty
      · rfl
    · exact h.shape

theorem declare {src : Source} (hsrc : src.Keeps table fields) :
    (s.declare src).Alike table fields (s'.declare src) :=
  (h.declareKey src.table src.key).declareShape hsrc

/-! ### Reads -/

theorem records?_eq {asked : Shape} (hasked : name = table → asked = [] ∨ asked = fields) :
    s'.records? name asked = s.records? name asked := by
  rw [records?, records?, h.shape?_eq]
  refine (h.rows name fun hname ↦ ?_).mapM_conformTo?
  rcases hasked hname with rfl | rfl
  · exact h.getD_shape? hname
  · split
    · exact h.getD_shape? hname
    · rfl

theorem snapshot?_eq : s'.snapshot? = s.snapshot? := by
  have hnames (s : Store) : s.snapshot? = (s.tables.map Prod.fst).mapM fun name ↦ do
      return (name, ← s.records? name []) := by
    rw [List.mapM_map]
    rfl
  rw [hnames, hnames, h.tables.names]
  exact mapM_congr fun name _ ↦ by rw [h.records?_eq fun _ ↦ .inl rfl]

theorem sourceRecords?_eq {src : Source} (hsrc : src.Keeps table fields) :
    s'.sourceRecords? src = s.sourceRecords? src := by
  rw [sourceRecords?, sourceRecords?, h.records?_eq hsrc, h.snapshot?_eq]

end Alike

end Store

end RecordStore
