import RecordStore.Proofs.Memory.Lists

/-!
# Writing the same once more

An update that has succeeded may be made once more without harm: whichever of its rows still pass
the filter, they hold the values already, and their keys were checked.  What a delete has left
passes its filter nowhere, and a write whose filter passes nowhere changes nothing.

* `Store.documents` are the documents of a store, row number and record, without the note of which
  update wrote a value.
* `Store.Rewrites` tells what an update makes of one row, `StoredRow.Holds` what it leaves there.
* `Store.checkKeys?_eq_ok` says when the keys of rows pass, and `Rows.Repeats` why they pass again.
* `Store.idempotent` is the statement above.
-/

namespace RecordStore

open Outcome

/-! ## Maps that are merged once more -/

namespace Assoc

variable {β : Type} {m other : Assoc β} {k k' : String} {a b : β}

theorem insert_insert : (m.insert k a).insert k b = m.insert k b := by
  induction m with
  | nil => simp [insert]
  | cons p rest ih =>
    by_cases hp : p.1 = k
    · simp [insert, hp]
    · simp [insert, hp, ih]

/-- A name that is there keeps its place, whatever else is set. -/
theorem insert_comm (hk : k ∈ m.keys) (hne : k ≠ k') :
    (m.insert k a).insert k' b = (m.insert k' b).insert k a := by
  induction m with
  | nil => cases hk
  | cons p rest ih =>
    by_cases hp : p.1 = k
    · subst hp
      simp [insert, hne]
    · have hrest : k ∈ keys rest := (List.mem_cons.mp hk).resolve_left (Ne.symm hp)
      by_cases hp' : p.1 = k'
      · subst hp'
        simp [insert, hp]
      · simp [insert, hp, hp', ih hrest]

/-- What is set before does not matter where the name is set again. -/
theorem merge_insert (hk : k ∈ m.keys) (h : k ∈ other.keys) :
    (m.insert k a).merge other = m.merge other := by
  induction other generalizing m with
  | nil => cases h
  | cons p rest ih =>
    change ((m.insert k a).insert p.1 p.2).merge rest = (m.insert p.1 p.2).merge rest
    by_cases hp : k = p.1
    · rw [hp, insert_insert]
    · rw [insert_comm hk hp]
      exact ih ((mem_keys_insert m p.1 k p.2).mpr (.inr hk)) ((List.mem_cons.mp h).resolve_left hp)

theorem mem_keys_of_lookup (h : m.lookup k = some a) : k ∈ m.keys :=
  List.mem_map_of_mem (mem_of_lookup h)

/-- A map that has the other's values already stays as it is. -/
theorem merge_eq_self (h : ∀ k a, (ofPairs other).lookup k = some a → m.lookup k = some a) :
    m.merge other = m := by
  induction other with
  | nil => rfl
  | cons p rest ih =>
    have hlookup (k : String) : (ofPairs (p :: rest)).lookup k =
        ((ofPairs rest).lookup k).or (if k = p.1 then some p.2 else none) := by
      refine (lookup_merge _ rest k).trans (congrArg _ ?_)
      exact (lookup_insert [] p.1 k p.2).trans (by rw [List.lookup_nil])
    have hrest : m.merge rest = m := by
      apply ih
      intro k a hk
      exact h k a (by rw [hlookup, hk, Option.some_or])
    change (m.insert p.1 p.2).merge rest = m
    cases hp : (ofPairs rest).lookup p.1 with
    | none =>
      have hfirst : m.lookup p.1 = some p.2 := h _ _ (by rw [hlookup, hp, if_pos rfl]; rfl)
      rw [Store.insert_eq_self hfirst, hrest]
    | some a =>
      have hmem : p.1 ∈ keys rest := by
        obtain ⟨q, hq, hname⟩ := List.mem_map.mp (mem_keys_of_lookup hp)
        exact hname ▸ List.mem_map_of_mem ((mem_of_mem_merge hq).resolve_left (List.not_mem_nil))
      rw [merge_insert (mem_keys_of_lookup (h p.1 a (by rw [hlookup, hp, Option.some_or]))) hmem,
        hrest]

theorem merge_merge_self (m other : Assoc β) : (m.merge other).merge other = m.merge other := by
  apply merge_eq_self
  intro k a hk
  rw [lookup_merge, hk, Option.some_or]

end Assoc

/-- What is stored under a row number, without the note of which update wrote a value. -/
def StoredRow.document (row : StoredRow) : Nat × Record := (row.number, row.record)

/-- The documents of every table. -/
def Store.documents (s : Store) : Assoc Listing := s.tables.mapValues (·.map StoredRow.document)

section Writes

variable {s s' : Store} {table : String} {key : List String} {seen : List (List KeyValue)}
  {row row' : StoredRow} {rows rows' : Rows} {r new : Record} {f : Filter} {values : Assoc Value}
  {u u' n : Nat}

/-! ## What an update makes of a row -/

namespace Store

theorem Agrees.conform?_eq (h : s.Agrees s') (table : String) (r : Record) :
    s'.conform? table r = s.conform? table r := by
  rw [conform?, conform?, shape?, shape?, h.shapes]

/-- Declarations are all that the check of keys looks at. -/
theorem Agrees.checkUnique?_eq (h : s.Agrees s') (table : String) (rows : Rows) :
    s'.checkUnique? table rows = s.checkUnique? table rows := by
  rw [checkUnique?, checkUnique?, h.keys]
  cases s.keys.lookup table with
  | none => rfl
  | some key =>
    change s'.checkKeys? table key [] rows = s.checkKeys? table key [] rows
    generalize ([] : List (List KeyValue)) = seen
    induction rows generalizing seen with
    | nil => rfl
    | cons row rows ih =>
      rw [checkKeys?, checkKeys?, conformRow?, conformRow?, h.conform?_eq]
      simp only [ih]

/-- The row does not pass the filter. -/
def Misses (s : Store) (table : String) (f : Filter) (row : StoredRow) : Prop :=
  ∃ r, s.conform? table row.record = .ok r ∧ f.matches? r = .ok false

/-- An update leaves a row as it is that does not pass its filter, and overwrites the others in the
shape of the table. -/
inductive Rewrites (s : Store) (table : String) (f : Filter) (u : Nat) (values : Assoc Value)
    (row : StoredRow) : StoredRow → Prop
  | kept (h : s.Misses table f row) : Rewrites s table f u values row row
  | changed {r : Record} (hr : s.conform? table row.record = .ok r)
    (h : f.matches? r = .ok true) :
    Rewrites s table f u values row ((row.reshaped r).overwritten u values)

/-- An update goes through the rows one by one. -/
theorem overwrite?_rewrites (h : s.overwrite? table f u values rows = .ok (rows', n)) :
    List.Forall₂ (s.Rewrites table f u values) rows rows' := by
  induction rows generalizing rows' n with
  | nil =>
    cases h
    exact .nil
  | cons row rows ih =>
    obtain ⟨current, hcurrent, h⟩ := bind_eq_ok.mp h
    obtain ⟨r, hr, hcurrent⟩ := bind_eq_ok.mp hcurrent
    cases hcurrent
    obtain ⟨passes, hpasses, h⟩ := bind_eq_ok.mp h
    obtain ⟨⟨rest, m⟩, hrest, h⟩ := bind_eq_ok.mp h
    cases passes with
    | true =>
      cases h
      exact .cons (.changed hr hpasses) (ih hrest)
    | false =>
      cases h
      exact .cons (.kept ⟨r, hr, hpasses⟩) (ih hrest)

/-- What is made of every row is made of all of them. -/
theorem exists_overwrite? (h : List.Forall₂ (s.Rewrites table f u values) rows rows') :
    ∃ n, s.overwrite? table f u values rows = .ok (rows', n) := by
  induction h with
  | nil => exact ⟨0, rfl⟩
  | @cons row row' rows rows' hrow _ ih =>
    obtain ⟨n, hn⟩ := ih
    cases hrow with
    | kept h =>
      obtain ⟨r, hr, hf⟩ := h
      have hfilter : f.matches? (row.reshaped r).record = .ok false := hf
      refine ⟨n, ?_⟩
      rw [overwrite?, conformRow?_eq hr rfl, ok_bind, hfilter, ok_bind, hn]
      rfl
    | @changed r hr hf =>
      have hfilter : f.matches? (row.reshaped r).record = .ok true := hf
      refine ⟨n + 1, ?_⟩
      rw [overwrite?, conformRow?_eq hr rfl, ok_bind, hfilter, ok_bind, hn]
      rfl

/-- Where no row passes the filter, no row is changed. -/
theorem overwrite?_of_misses (h : ∀ row ∈ rows, s.Misses table f row) :
    s.overwrite? table f u values rows = .ok (rows, 0) := by
  induction rows with
  | nil => rfl
  | cons row rows ih =>
    obtain ⟨⟨r, hr, hf⟩, hrest⟩ := List.forall_mem_cons.mp h
    have hfilter : f.matches? (row.reshaped r).record = .ok false := hf
    rw [overwrite?, conformRow?_eq hr rfl, ok_bind, hfilter, ok_bind, ih hrest]
    rfl

/-- An update that succeeds has changed no row, or its rows have passed the check. -/
theorem update?_eq_ok {p : Store × Nat} (h : s.update? table f values = .ok p) :
    ∃ new rows n, s.conform? table { values } = .ok new ∧
      s.overwrite? table f (s.rowsOf table).nextUpdate new.values (s.rowsOf table) =
        .ok (rows, n) ∧
      (n = 0 ∧ p = (s, 0) ∨
        n ≠ 0 ∧ s.checkUnique? table rows = .ok () ∧ p = (s.setRows table rows, n)) := by
  obtain ⟨new, hnew, h⟩ := bind_eq_ok.mp h
  obtain ⟨⟨rows, n⟩, hrows, h⟩ := bind_eq_ok.mp h
  refine ⟨new, rows, n, hnew, hrows, ?_⟩
  dsimp only at h
  split at h
  · rename_i hn
    cases h
    exact .inl ⟨hn, rfl⟩
  · rename_i hn
    obtain ⟨_, hcheck, h⟩ := bind_eq_ok.mp h
    cases h
    exact .inr ⟨hn, hcheck, rfl⟩

/-- An update succeeds if its rows pass the check. -/
theorem update?_of_overwrite? (hnew : s.conform? table { values } = .ok new)
    (hrows : s.overwrite? table f (s.rowsOf table).nextUpdate new.values (s.rowsOf table) =
      .ok (rows, n)) (hcheck : s.checkUnique? table rows = .ok ()) :
    s.update? table f values = .ok (if n = 0 then (s, 0) else (s.setRows table rows, n)) := by
  rw [update?, hnew, ok_bind]
  dsimp only
  rw [hrows, ok_bind]
  dsimp only
  split
  · rfl
  · rw [hcheck]
    rfl

end Store

/-! ## Rows that hold the values already -/

namespace StoredRow

/-- The row has the shape of the table and holds the values, which one update has written. -/
structure Holds (s : Store) (table : String) (u : Nat) (values : Assoc Value) (row : StoredRow) :
    Prop where
  conform : s.conform? table row.record = .ok row.record
  record : row.record.replace values = row.record
  writer : ∀ n v, (Assoc.ofPairs values).lookup n = some v → row.writers.lookup n = some u

theorem Holds.conformRow? (h : row.Holds s table u values) :
    s.conformRow? table row = .ok row := by
  rw [Store.conformRow?_eq h.conform rfl, reshaped_self]

/-- Once more is as good as once. -/
theorem holds_overwritten (hr : s.conform? table row.record = .ok r)
    (hnew : s.conform? table { values } = .ok new) (u : Nat) :
    ((row.reshaped r).overwritten u new.values).Holds s table u new.values where
  conform := Store.conformTo?_replace hr hnew
  record := congrArg (fun vs ↦ ({ r with values := vs } : Record))
    (Assoc.merge_merge_self r.values new.values)
  writer n v hv := by
    rw [lookup_writers_overwritten, hv]
    rfl

end StoredRow

/-! ## Keys that pass the check once more -/

namespace Store

/-- A row is accepted if its key is complete, can be kept and was not seen before. -/
theorem newKey?_eq_ok {vs : List KeyValue} : newKey? table key seen row = .ok vs ↔
    vs = row.keyValues key ∧ row.record.HasKey key ∧ row.Hashable key ∧
      ∀ ws ∈ seen, sameKey (row.keyValues key) ws = false := by
  unfold newKey?
  dsimp only
  rw [← StoredRow.all_isHashable_iff]
  by_cases hnull : (row.keyValues key).any (·.value.isNull) = true
  · rw [if_pos hnull]
    exact iff_of_false nofun fun h ↦ StoredRow.any_isNull_iff.mp hnull h.2.1
  have hkey : row.record.HasKey key := not_not.mp fun h ↦ hnull (StoredRow.any_isNull_iff.mpr h)
  rw [if_neg hnull]
  cases (row.keyValues key).all (·.value.isHashable) with
  | false => exact iff_of_false nofun fun h ↦ Bool.false_ne_true h.2.2.1
  | true =>
    rw [Bool.not_true, if_neg Bool.false_ne_true]
    by_cases hseen : seen.any (sameKey (row.keyValues key)) = true
    · rw [if_pos hseen]
      refine iff_of_false nofun fun h ↦ ?_
      obtain ⟨ws, hws, hsame⟩ := List.any_eq_true.mp hseen
      exact Bool.false_ne_true ((h.2.2.2 ws hws).symm.trans hsame)
    · rw [if_neg hseen]
      have hfresh : ∀ ws ∈ seen, sameKey (row.keyValues key) ws = false := by
        simpa using hseen
      constructor
      · intro h
        cases h
        exact ⟨rfl, hkey, rfl, hfresh⟩
      · rintro ⟨rfl, -⟩
        rfl

/-- The keys of rows pass the check if the rows take on the shape, and then have keys that are
complete, can be kept and are apart. -/
theorem checkKeys?_eq_ok (hseen : Apart seen) : s.checkKeys? table key seen rows = .ok () ↔
    ∃ cs, rows.mapM (s.conformRow? table) = .ok cs ∧
      (∀ c ∈ cs, c.record.HasKey key ∧ c.Hashable key) ∧
      Apart (seen ++ cs.map (·.keyValues key)) := by
  induction rows generalizing seen with
  | nil =>
    refine iff_of_true rfl ⟨[], rfl, nofun, ?_⟩
    simpa using hseen
  | cons row rows ih =>
    have happend (c : StoredRow) (cs : Rows) : seen ++ (c :: cs).map (·.keyValues key) =
        (seen ++ [c.keyValues key]) ++ cs.map (·.keyValues key) := by simp
    rw [checkKeys?]
    constructor
    · intro h
      obtain ⟨c, hc, h⟩ := bind_eq_ok.mp h
      obtain ⟨vs, hvs, h⟩ := bind_eq_ok.mp h
      obtain ⟨rfl, hkey, hhash, hfresh⟩ := newKey?_eq_ok.mp hvs
      have hapart : Apart (seen ++ [c.keyValues key]) := by
        refine List.pairwise_append.mpr ⟨hseen, List.pairwise_singleton _ _, ?_⟩
        intro ws hws vs hvs
        rw [List.mem_singleton.mp hvs]
        exact hfresh ws hws
      obtain ⟨cs, hcs, hall, hrest⟩ := (ih hapart).mp h
      refine ⟨c :: cs, ?_, List.forall_mem_cons.mpr ⟨⟨hkey, hhash⟩, hall⟩, ?_⟩
      · rw [List.mapM_cons, hc, ok_bind, hcs]
        rfl
      · rw [happend]
        exact hrest
    · rintro ⟨cs', hcs', hall, hapart⟩
      rw [List.mapM_cons] at hcs'
      obtain ⟨c, hc, hcs'⟩ := bind_eq_ok.mp hcs'
      obtain ⟨cs, hcs, hcs'⟩ := bind_eq_ok.mp hcs'
      cases hcs'
      obtain ⟨⟨hkey, hhash⟩, hall⟩ := List.forall_mem_cons.mp hall
      rw [happend] at hapart
      have hfirst := (List.pairwise_append.mp hapart).1
      have hfresh : ∀ ws ∈ seen, sameKey (c.keyValues key) ws = false := fun ws hws ↦
        (List.pairwise_append.mp hfirst).2.2 ws hws _ (List.mem_singleton_self _)
      rw [hc, ok_bind, newKey?_eq_ok.mpr ⟨rfl, hkey, hhash, hfresh⟩, ok_bind]
      exact (ih hfirst).mpr ⟨cs, hcs, hall, hapart⟩

end Store

namespace Rows

/-- What one more update makes of a row: nothing, or it writes the values that the row holds. -/
inductive Repeats (s : Store) (table : String) (u u' : Nat) (values : Assoc Value)
    (row : StoredRow) : StoredRow → Prop
  | kept : Repeats s table u u' values row row
  | changed (h : row.Holds s table u values) :
    Repeats s table u u' values row (row.overwritten u' values)

namespace Repeats

variable {c c' d d' : StoredRow}

theorem document (h : Repeats s table u u' values row row') : row'.document = row.document := by
  cases h with
  | kept => rfl
  | changed h => exact congrArg (row.number, ·) h.record

theorem record (h : Repeats s table u u' values row row') : row'.record = row.record := by
  cases h with
  | kept => rfl
  | changed h => exact h.record

/-- A row takes on the shape after one more update as it does before. -/
theorem conformRow? (h : Repeats s table u u' values row row')
    (hc : s.conformRow? table row = .ok c) :
    ∃ c', s.conformRow? table row' = .ok c' ∧ Repeats s table u u' values c c' := by
  cases h with
  | kept => exact ⟨c, hc, .kept⟩
  | changed h =>
    rw [h.conformRow?] at hc
    cases hc
    refine ⟨_, ?_, .changed h⟩
    have hrecord : (row.overwritten u' values).record = row.record := h.record
    rw [Store.conformRow?_eq h.conform hrecord, ← hrecord, StoredRow.reshaped_self]

/-- The number of one more update is shared only by rows that have shared a number before. -/
theorem exists_shared {m : String} {w : Nat} (hc : Repeats s table u u' values c c')
    (hd : Repeats s table u u' values d d') (hfreshc : ∀ n, (n, u') ∉ c.writers)
    (hfreshd : ∀ n, (n, u') ∉ d.writers) (hcw : c'.writers.lookup m = some w)
    (hdw : d'.writers.lookup m = some w) :
    ∃ w', c.writers.lookup m = some w' ∧ d.writers.lookup m = some w' := by
  cases hvalue : (Assoc.ofPairs values).lookup m with
  | none =>
    -- the update does not write this name
    have hsame {x x' : StoredRow} (hx : Repeats s table u u' values x x') :
        x'.writers.lookup m = x.writers.lookup m := by
      cases hx with
      | kept => rfl
      | changed h =>
        rw [StoredRow.lookup_writers_overwritten, hvalue]
        rfl
    exact ⟨w, (hsame hc).symm.trans hcw, (hsame hd).symm.trans hdw⟩
  | some v =>
    have hnumber {x : StoredRow} : (x.overwritten u' values).writers.lookup m = some u' := by
      rw [StoredRow.lookup_writers_overwritten, hvalue]
      rfl
    cases hc with
    | kept =>
      cases hd with
      | kept => exact ⟨w, hcw, hdw⟩
      | changed _ =>
        cases hnumber.symm.trans hdw
        exact absurd (mem_of_lookup hcw) (hfreshc m)
    | changed hholds =>
      cases hd with
      | kept =>
        cases hnumber.symm.trans hcw
        exact absurd (mem_of_lookup hdw) (hfreshd m)
      | changed hholds' => exact ⟨u, hholds.writer m v hvalue, hholds'.writer m v hvalue⟩

/-- Keys that are apart stay so. -/
theorem apart {cs cs' : Rows} (h : List.Forall₂ (Repeats s table u u' values) cs cs')
    (hfresh : ∀ c ∈ cs, ∀ n, (n, u') ∉ c.writers)
    (hapart : Store.Apart (cs.map (·.keyValues key))) :
    Store.Apart (cs'.map (·.keyValues key)) := by
  obtain ⟨hlength, hzip⟩ := List.forall₂_iff_zip.mp h
  have hleft : (cs.zip cs').map Prod.fst = cs := List.map_fst_zip hlength.le
  have hright : (cs.zip cs').map Prod.snd = cs' := List.map_snd_zip hlength.ge
  have hmem {p : StoredRow × StoredRow} (hp : p ∈ cs.zip cs') : p.1 ∈ cs :=
    hleft ▸ List.mem_map_of_mem hp
  rw [← hright, List.map_map]
  rw [← hleft, List.map_map] at hapart
  refine List.pairwise_map.mpr ((List.pairwise_map.mp hapart).imp_of_mem fun {p q} hp hq hpq ↦ ?_)
  by_contra hsame
  rw [Bool.not_eq_false] at hsame
  refine Bool.false_ne_true (hpq.symm.trans (StoredRow.sameKey_iff.mpr fun m hm ↦ ?_))
  rcases StoredRow.sameKey_iff.mp hsame m hm with ⟨w, hqw, hpw⟩ | hvalue
  · exact .inl ((hzip hq).exists_shared (hzip hp) (hfresh _ (hmem hq)) (hfresh _ (hmem hp)) hqw hpw)
  · rw [(hzip hq).record, (hzip hp).record] at hvalue
    exact .inr hvalue

end Repeats

end Rows

namespace Store

theorem mem_writers_of_conformRow? {c : StoredRow} {p : String × Nat}
    (hc : s.conformRow? table row = .ok c) (hp : p ∈ c.writers) : p ∈ row.writers := by
  obtain ⟨r, -, hc⟩ := bind_eq_ok.mp hc
  cases hc
  exact List.mem_of_mem_filter hp

theorem mapM_conformRow?_repeats {cs : Rows}
    (h : List.Forall₂ (Rows.Repeats s table u u' values) rows rows')
    (hcs : rows.mapM (s.conformRow? table) = .ok cs) :
    ∃ cs', rows'.mapM (s.conformRow? table) = .ok cs' ∧
      List.Forall₂ (Rows.Repeats s table u u' values) cs cs' := by
  simp only [mapM_eq_ok] at hcs ⊢
  induction h generalizing cs with
  | nil =>
    cases hcs
    exact ⟨[], .nil, .nil⟩
  | cons hrow _ ih =>
    cases hcs with
    | cons hc hcs =>
      obtain ⟨c', hc', hrepeats⟩ := hrow.conformRow? hc
      obtain ⟨cs', hcs', hrest⟩ := ih hcs
      exact ⟨c' :: cs', .cons hc' hcs', .cons hrepeats hrest⟩

/-- Rows that have passed the check of their keys pass it after one more update. -/
theorem checkUnique?_repeats (h : List.Forall₂ (Rows.Repeats s table u u' values) rows rows')
    (hfresh : ∀ row ∈ rows, ∀ n, (n, u') ∉ row.writers)
    (hcheck : s.checkUnique? table rows = .ok ()) : s.checkUnique? table rows' = .ok () := by
  rw [checkUnique?] at hcheck ⊢
  cases hkey : s.keys.lookup table with
  | none => rfl
  | some key =>
    rw [hkey] at hcheck
    obtain ⟨cs, hcs, hall, hapart⟩ := (checkKeys?_eq_ok .nil).mp hcheck
    obtain ⟨cs', hcs', hrepeats⟩ := mapM_conformRow?_repeats h hcs
    refine (checkKeys?_eq_ok .nil).mpr ⟨cs', hcs', fun c' hc' ↦ ?_, ?_⟩
    · obtain ⟨c, hc, hcc'⟩ := exists_of_mem_forall₂ hrepeats hc'
      obtain ⟨hkey, hhash⟩ := hall c hc
      rw [Record.HasKey, StoredRow.Hashable, hcc'.record]
      exact ⟨hkey, hhash⟩
    · refine Rows.Repeats.apart hrepeats (fun c hc n hn ↦ ?_) hapart
      obtain ⟨row, hrow, hconform⟩ := exists_of_mem_mapM hcs hc
      exact hfresh row hrow n (mem_writers_of_conformRow? hconform hn)

/-- After an update, every row misses the filter or holds the values. -/
theorem Rewrites.misses_or_holds (ha : s.Agrees s') (hnew : s'.conform? table { values } = .ok new)
    (h : s.Rewrites table f u new.values row row') :
    s'.Misses table f row' ∨ row'.Holds s' table u new.values := by
  cases h with
  | kept h =>
    obtain ⟨r, hr, hf⟩ := h
    exact .inl ⟨r, (ha.conform?_eq table _).trans hr, hf⟩
  | changed hr _ =>
    exact .inr (StoredRow.holds_overwritten ((ha.conform?_eq table _).trans hr) hnew u)

/-- One more update finds nothing to do in a row that one has gone through. -/
theorem exists_repeats (h : s.Misses table f row ∨ row.Holds s table u values)
    (hf : ∀ r, s.conform? table row.record = .ok r → ∃ b, f.matches? r = .ok b) (u' : Nat) :
    ∃ row', s.Rewrites table f u' values row row' ∧
      Rows.Repeats s table u u' values row row' := by
  rcases h with hmisses | hholds
  · exact ⟨row, .kept hmisses, .kept⟩
  · obtain ⟨b, hb⟩ := hf row.record hholds.conform
    cases b with
    | false => exact ⟨row, .kept ⟨row.record, hholds.conform, hb⟩, .kept⟩
    | true =>
      have hchanged : s.Rewrites table f u' values row _ := .changed hholds.conform hb
      rw [StoredRow.reshaped_self] at hchanged
      exact ⟨_, hchanged, .changed hholds⟩

/-- Other rows with the same documents in a table that is there. -/
theorem documents_setRows (hrows : s.tables.lookup table = some rows)
    (h : rows'.map StoredRow.document = rows.map StoredRow.document) :
    (s.setRows table rows').documents = s.documents := by
  rw [documents, setRows, Assoc.mapValues_insert, h]
  apply insert_eq_self
  rw [Assoc.lookup_mapValues, hrows]
  rfl

/-- An update that has succeeded may be made once more, unless its filter fails. -/
theorem exists_update?_again (h : s.update? table f values = .ok (s', n))
    (hf : ∀ row ∈ s'.rowsOf table, ∀ r, s'.conform? table row.record = .ok r →
      ∃ b, f.matches? r = .ok b) :
    ∃ s'' m, s'.update? table f values = .ok (s'', m) ∧ s''.documents = s'.documents ∧
      s'.Agrees s'' ∧ s''.lastRow = s'.lastRow := by
  obtain ⟨new, rows, n, hnew, hrows, ⟨-, hs'⟩ | ⟨-, hcheck, hs'⟩⟩ := update?_eq_ok h
  · -- the first update has changed nothing, so that the second one is the first
    cases hs'
    exact ⟨s, _, h, rfl, .refl s, rfl⟩
  cases hs'
  let s' := s.setRows table rows
  have ha : s.Agrees s' := ⟨rfl, rfl⟩
  have hself : s'.rowsOf table = rows := by
    rw [rowsOf_setRows, if_pos rfl]
  rw [hself] at hf
  have hnew' : s'.conform? table { values } = .ok new := (ha.conform?_eq table _).trans hnew
  have hsettled : ∀ row ∈ rows, s'.Misses table f row ∨
      row.Holds s' table (s.rowsOf table).nextUpdate new.values := by
    intro row hrow
    obtain ⟨before, -, hbefore⟩ := exists_of_mem_forall₂ (overwrite?_rewrites hrows) hrow
    exact hbefore.misses_or_holds ha hnew'
  choose! again hagain using fun row hrow ↦
    exists_repeats (hsettled row hrow) (hf row hrow) rows.nextUpdate
  have hrewrites : List.Forall₂ (s'.Rewrites table f rows.nextUpdate new.values) rows
      (rows.map again) :=
    List.forall₂_map_right_iff.mpr (List.forall₂_same.mpr fun row hrow ↦ (hagain row hrow).1)
  have hrepeats : List.Forall₂ (Rows.Repeats s' table (s.rowsOf table).nextUpdate rows.nextUpdate
      new.values) rows (rows.map again) :=
    List.forall₂_map_right_iff.mpr (List.forall₂_same.mpr fun row hrow ↦ (hagain row hrow).2)
  have hfresh : ∀ row ∈ rows, ∀ name, (name, rows.nextUpdate) ∉ row.writers := fun row hrow name h ↦
    lt_irrefl _ (Rows.lt_nextUpdate hrow h)
  have hcheck' : s'.checkUnique? table (rows.map again) = .ok () :=
    checkUnique?_repeats hrepeats hfresh ((ha.checkUnique?_eq table rows).trans hcheck)
  obtain ⟨m, hm⟩ := exists_overwrite? hrewrites
  have hupdate : s'.update? table f values =
      .ok (if m = 0 then (s', 0) else (s'.setRows table (rows.map again), m)) := by
    refine update?_of_overwrite? hnew' ?_ hcheck'
    rw [hself]
    exact hm
  split at hupdate
  · exact ⟨_, _, hupdate, rfl, .refl _, rfl⟩
  · refine ⟨_, _, hupdate, ?_, ⟨rfl, rfl⟩, rfl⟩
    have hthere : s'.tables.lookup table = some rows := by
      change (s.tables.insert table rows).lookup table = some rows
      rw [Assoc.lookup_insert, if_pos rfl]
    apply documents_setRows hthere
    rw [List.map_map]
    exact List.map_congr_left fun row hrow ↦ (hagain row hrow).2.document

/-! ## Deletes, and writes that find nothing -/

theorem keep?_of_misses (h : ∀ row ∈ rows, s.Misses table f row) :
    s.keep? table f rows = .ok rows := by
  induction rows with
  | nil => rfl
  | cons row rows ih =>
    obtain ⟨⟨r, hr, hf⟩, hrest⟩ := List.forall_mem_cons.mp h
    rw [keep?, hr, ok_bind, hf, ok_bind, ih hrest]
    rfl

/-- A delete keeps rows that do not pass its filter, and no others. -/
theorem keep?_eq_ok {kept : Rows} (h : s.keep? table f rows = .ok kept) :
    kept.Sublist rows ∧ ∀ row ∈ kept, s.Misses table f row := by
  induction rows generalizing kept with
  | nil =>
    cases h
    exact ⟨.slnil, nofun⟩
  | cons row rows ih =>
    obtain ⟨r, hr, h⟩ := bind_eq_ok.mp h
    obtain ⟨passes, hpasses, h⟩ := bind_eq_ok.mp h
    obtain ⟨rest, hrest, h⟩ := bind_eq_ok.mp h
    obtain ⟨hsub, hall⟩ := ih hrest
    cases passes with
    | true =>
      cases h
      exact ⟨hsub.cons row, hall⟩
    | false =>
      cases h
      exact ⟨hsub.cons_cons row, List.forall_mem_cons.mpr ⟨⟨r, hr, hpasses⟩, hall⟩⟩

theorem delete?_of_misses (h : ∀ row ∈ s.rowsOf table, s.Misses table f row) :
    s.delete? table f = .ok (s, 0) := by
  rw [delete?, keep?_of_misses h, ok_bind]
  simp

/-- No row that a delete has left passes its filter. -/
theorem misses_of_delete? (h : s.delete? table f = .ok (s', n)) :
    ∀ row ∈ s'.rowsOf table, s'.Misses table f row := by
  obtain ⟨kept, hkept, h⟩ := bind_eq_ok.mp h
  obtain ⟨hsub, hall⟩ := keep?_eq_ok hkept
  dsimp only at h
  by_cases hremoved : (s.rowsOf table).length - kept.length = 0
  · rw [if_pos hremoved] at h
    cases h
    rw [hsub.eq_of_length_le (Nat.sub_eq_zero_iff_le.mp hremoved)] at hall
    exact hall
  · rw [if_neg hremoved] at h
    cases h
    rw [rowsOf_setRows, if_pos rfl]
    exact hall

/-- An update may be made once more where its filter does not fail, a delete in any case, and a
write whose filter passes nowhere changes nothing. -/
theorem idempotent (s : Store) (table : String) (f : Filter) (values : Assoc Value) :
    (∀ s' n, s.update? table f values = .ok (s', n) →
      (∀ row ∈ s'.rowsOf table, ∀ r, s'.conform? table row.record = .ok r →
        ∃ b, f.matches? r = .ok b) →
      ∃ s'' m, s'.update? table f values = .ok (s'', m) ∧ s''.documents = s'.documents ∧
        s'.Agrees s'' ∧ s''.lastRow = s'.lastRow) ∧
    (∀ s' n, s.delete? table f = .ok (s', n) →
      (∀ row ∈ s'.rowsOf table, s'.Misses table f row) ∧ s'.delete? table f = .ok (s', 0)) ∧
    ((∀ row ∈ s.rowsOf table, s.Misses table f row) →
      (∀ new, s.conform? table { values } = .ok new → s.update? table f values = .ok (s, 0)) ∧
      s.delete? table f = .ok (s, 0)) := by
  refine ⟨fun s' n h hf ↦ exists_update?_again h hf, fun s' n h ↦ ?_, fun h ↦ ⟨?_, ?_⟩⟩
  · have hmisses := misses_of_delete? h
    exact ⟨hmisses, delete?_of_misses hmisses⟩
  · intro new hnew
    rw [update?, hnew, ok_bind]
    dsimp only
    rw [overwrite?_of_misses h]
    rfl
  · exact delete?_of_misses h

end Store

end Writes

namespace Store

/-- Two users of these ages. -/
def ages (first second : Int) : Store where
  tables := [("users",
    [⟨1, ⟨[("id", ⟨.integer, .integer 1⟩), ("age", ⟨.integer, .integer first⟩)], []⟩, []⟩,
      ⟨2, ⟨[("id", ⟨.integer, .integer 2⟩), ("age", ⟨.integer, .integer second⟩)], []⟩, []⟩])]
  keys := [("users", ["id"])]
  shapes := [("users", [("id", .integer), ("age", .integer)])]
  lastRow := 2

/-- The users who are younger than that. -/
def younger (age : Int) : Filter := .compare (.name "age") .lt (.one ⟨.integer, .integer age⟩)

/-- The one user below ten is made five years old, and still is when that is done once more; after
the two were deleted nobody is below thirty; nobody is below one in the first place. -/
theorem idempotent_ages :
    (∃ s' s'' m, (ages 3 20).update? "users" (younger 10) [("age", ⟨.integer, .integer 5⟩)] =
        .ok (s', 1) ∧
      s'.update? "users" (younger 10) [("age", ⟨.integer, .integer 5⟩)] = .ok (s'', m) ∧
      s'.documents = (ages 5 20).documents ∧ s''.documents = (ages 5 20).documents) ∧
    (∃ s', (ages 3 20).delete? "users" (younger 30) = .ok (s', 2) ∧
      s'.delete? "users" (younger 30) = .ok (s', 0)) ∧
    (ages 3 20).update? "users" (younger 1) [("age", ⟨.integer, .integer 5⟩)] =
      .ok (ages 3 20, 0) ∧
    (ages 3 20).delete? "users" (younger 1) = .ok (ages 3 20, 0) := by
  refine ⟨?_, ?_, ?_⟩
  · obtain ⟨hupdate, -, -⟩ :=
      idempotent (ages 3 20) "users" (younger 10) [("age", ⟨.integer, .integer 5⟩)]
    obtain ⟨s'', m, hs'', hdocuments, -⟩ := hupdate _ 1 rfl fun row hrow r hr ↦ by
      rcases List.mem_cons.mp hrow with rfl | hrow
      · cases hr
        exact ⟨true, rfl⟩
      · cases List.mem_singleton.mp hrow
        cases hr
        exact ⟨false, rfl⟩
    exact ⟨_, s'', m, rfl, hs'', rfl, hdocuments⟩
  · obtain ⟨-, hdelete, -⟩ :=
      idempotent (ages 3 20) "users" (younger 30) [("age", ⟨.integer, .integer 5⟩)]
    exact ⟨_, rfl, (hdelete _ 2 rfl).2⟩
  · obtain ⟨-, -, hmisses⟩ :=
      idempotent (ages 3 20) "users" (younger 1) [("age", ⟨.integer, .integer 5⟩)]
    have hnone : ∀ row ∈ (ages 3 20).rowsOf "users",
        (ages 3 20).Misses "users" (younger 1) row := by
      intro row hrow
      rcases List.mem_cons.mp hrow with rfl | hrow
      · exact ⟨_, rfl, rfl⟩
      · cases List.mem_singleton.mp hrow
        exact ⟨_, rfl, rfl⟩
    obtain ⟨hupdate, hdelete⟩ := hmisses hnone
    exact ⟨hupdate _ rfl, hdelete⟩

end Store

end RecordStore
