import RecordStore.Proofs.Filter.Faults
import RecordStore.Proofs.Value.Conversion

/-!
# Keys of rows

The check of a key goes through the rows in order and keeps the keys that it has seen.  It passes
exactly if every row has a key and no two rows have the same one, unless a value cannot be kept.

* `Record.HasKey` and `Record.SameKey` are completeness and equality of keys as records have them.
* `Store.checkKeys?_cases` tells what the check comes to.
* `Rows.Coherent` says that a value which one update gave to two rows is one value, so that equality
  of keys can be read off the records.
-/

namespace RecordStore

open Outcome

/-! ## Maps that are merged -/

namespace Assoc

variable {β γ : Type}

theorem lookup_mapValues (f : β → γ) (m : Assoc β) (n : String) :
    (m.mapValues f).lookup n = (m.lookup n).map f := by
  induction m with
  | nil => rfl
  | cons p rest ih =>
    change List.lookup n ((p.1, f p.2) :: mapValues f rest) = _
    rw [List.lookup_cons, List.lookup_cons]
    split
    · rfl
    · exact ih

theorem mapValues_insert (f : β → γ) (m : Assoc β) (n : String) (b : β) :
    (m.insert n b).mapValues f = (m.mapValues f).insert n (f b) := by
  induction m with
  | nil => rfl
  | cons p rest ih =>
    change mapValues f (if p.1 = n then _ else _) = if p.1 = n then _ else _
    split
    · rfl
    · exact congrArg _ ih

theorem mapValues_merge (f : β → γ) (m other : Assoc β) :
    (m.merge other).mapValues f = (m.mapValues f).merge (other.mapValues f) := by
  induction other generalizing m with
  | nil => rfl
  | cons p rest ih =>
    refine (ih (m.insert p.1 p.2)).trans ?_
    rw [mapValues_insert]
    rfl

/-- A name has the last value that the other map gives it, or else the value that it had. -/
theorem lookup_merge (m other : Assoc β) (n : String) :
    (m.merge other).lookup n = ((ofPairs other).lookup n).or (m.lookup n) := by
  induction other generalizing m with
  | nil => rfl
  | cons p rest ih =>
    have hfirst : (ofPairs (p :: rest)).lookup n =
        ((ofPairs rest).lookup n).or (insert [] p.1 p.2 |>.lookup n) := ih _
    rw [hfirst, Option.or_assoc]
    refine (ih (m.insert p.1 p.2)).trans (congrArg _ ?_)
    rw [lookup_insert, lookup_insert]
    split <;> rfl

theorem mem_of_mem_insert {m : Assoc β} {n : String} {b : β} {p : String × β}
    (h : p ∈ m.insert n b) : p = (n, b) ∨ p ∈ m := by
  induction m with
  | nil => exact .inl (List.mem_singleton.mp h)
  | cons q rest ih =>
    rw [insert] at h
    split at h
    · rcases List.mem_cons.mp h with rfl | h
      · exact .inl rfl
      · exact .inr (List.mem_cons_of_mem _ h)
    · rcases List.mem_cons.mp h with rfl | h
      · exact .inr List.mem_cons_self
      · exact (ih h).imp_right (List.mem_cons_of_mem _)

theorem mem_of_mem_merge {m other : Assoc β} {p : String × β} (h : p ∈ m.merge other) :
    p ∈ m ∨ p ∈ other := by
  induction other generalizing m with
  | nil => exact .inl h
  | cons q rest ih =>
    rcases ih h with h | h
    · rcases mem_of_mem_insert h with rfl | h
      · exact .inr List.mem_cons_self
      · exact .inl h
    · exact .inr (List.mem_cons_of_mem _ h)

end Assoc

/-! ## Records -/

namespace Value

variable {a b v w : Value} {k : Kind}

/-- Only values of one kind are equal. -/
theorem kind_eq_of_same? (h : a.same? b = .ok true) : a.kind = b.kind := by
  unfold same? at h
  split at h
  · have hnull : (a.isNull && b.isNull) = true := by simpa using h
    simp only [isNull, Bool.and_eq_true, beq_iff_eq] at hnull
    rw [hnull.1, hnull.2]
  · obtain ⟨_, hcomparable, -⟩ := bind_eq_ok.mp h
    unfold comparable? at hcomparable
    split at hcomparable
    · assumption
    · cases hcomparable

/-- A value that has taken on a kind takes it on again as it is. -/
theorem coerce?_coerce? (h : v.coerce? k = .ok w) : w.coerce? k = .ok w := by
  unfold coerce? at h
  split at h
  · rename_i hk
    cases h
    exact if_pos hk
  · split at h
    · rename_i hk
      obtain ⟨d, -, h⟩ := bind_eq_ok.mp h
      cases h
      rw [hk.2]
      exact coerce?_self _
    · cases h

end Value

namespace Record

variable {fields : Shape} {r r' : Record} {key : List String} {n : String}

/-- No value under the names of the key is null. -/
def HasKey (key : List String) (r : Record) : Prop := ∀ n ∈ key, (r.valueOrNull n).isNull = false

/-- The records have equal values under the names of the key. -/
def SameKey (key : List String) (a b : Record) : Prop :=
  ∀ n ∈ key, (a.valueOrNull n).same? (b.valueOrNull n) = .ok true

/-- The values have the kinds of the shape. -/
def Shaped (fields : Shape) (values : Assoc Value) : Prop :=
  ∀ p ∈ values, conformValue? fields p = .ok p

theorem conform?_eq_self (h : Shaped fields r.values) : r.conform? fields = .ok r := by
  have hvalues : r.values.mapM (conformValue? fields) = .ok r.values :=
    mapM_eq_ok.mpr (List.forall₂_same.mpr h)
  rw [conform?, hvalues]
  rfl

/-- What conversion gives has the shape. -/
theorem shaped_of_conform? (h : r.conform? fields = .ok r') : Shaped fields r'.values := by
  obtain ⟨values, hvalues, h⟩ := bind_eq_ok.mp h
  cases h
  intro p hp
  obtain ⟨q, -, hq⟩ := exists_of_mem_mapM hvalues hp
  unfold conformValue? at hq
  split at hq
  · rename_i k hk
    obtain ⟨v, hv, hq⟩ := bind_eq_ok.mp hq
    cases hq
    simp only [conformValue?, hk]
    rw [Value.coerce?_coerce? hv]
    rfl
  · rename_i hk
    cases hq
    simp only [conformValue?, hk, pure_eq]

/-- Conversion depends on the kinds of the names alone. -/
theorem conform?_congr {fields' : Shape} (h : ∀ n, fields'.lookup n = fields.lookup n)
    (r : Record) : r.conform? fields' = r.conform? fields := by
  have hvalue : conformValue? fields' = conformValue? fields := by
    funext p
    rw [conformValue?, conformValue?, h]
  rw [conform?, conform?, hvalue]

theorem conform?_nil (r : Record) : r.conform? [] = .ok r :=
  conform?_eq_self fun _ _ ↦ rfl

theorem Shaped.merge {values update : Assoc Value} (h : Shaped fields values)
    (hupdate : Shaped fields update) : Shaped fields (values.merge update) := by
  intro p hp
  rcases Assoc.mem_of_mem_merge hp with hp | hp
  · exact h p hp
  · exact hupdate p hp

theorem valueOrNull_replace (r : Record) (values : Assoc Value) (n : String) :
    (r.replace values).valueOrNull n =
      ((Assoc.ofPairs values).lookup n).getD (r.valueOrNull n) := by
  rw [valueOrNull, replace, Assoc.lookup_merge]
  cases (Assoc.ofPairs values).lookup n <;> rfl

end Record

/-! ## Keys -/

namespace KeyValue

/-- Values of a key are the same if one update wrote both, or if they are equal. -/
theorem same_iff {a b : KeyValue} : a.same b = true ↔
    (∃ u, a.writer = some u ∧ b.writer = some u) ∨ b.value.same? a.value = .ok true := by
  have hvalue : a.value.isAmong [b.value] = true ↔ b.value.same? a.value = .ok true := by
    simp only [Value.isAmong, List.any_cons, List.any_nil, Bool.or_false, Bool.and_eq_true,
      beq_iff_eq]
    constructor
    · rintro ⟨-, h⟩
      cases hsame : b.value.same? a.value with
      | error f =>
        rw [hsame] at h
        cases h
      | ok answer =>
        rw [hsame] at h
        exact congrArg _ h
    · intro h
      exact ⟨Value.kind_eq_of_same? h, by rw [h]; rfl⟩
  rw [same, Bool.or_eq_true, hvalue]
  refine or_congr_left ?_
  cases a.writer with
  | none => simp
  | some u =>
    rw [Option.isSome_some, Bool.true_and, beq_iff_eq]
    constructor
    · exact fun h ↦ ⟨u, rfl, h.symm⟩
    · rintro ⟨u', hu, h⟩
      rw [hu, h]

end KeyValue

namespace StoredRow

variable {key : List String} {a b row : StoredRow}

/-- The row holds things that can be kept under the names of the key. -/
def Hashable (key : List String) (row : StoredRow) : Prop :=
  ∀ n ∈ key, (row.record.valueOrNull n).isHashable = true

/-- A row whose record has the shape already stays as it is. -/
theorem reshaped_self (row : StoredRow) : row.reshaped row.record = row := by
  simp [reshaped]

theorem sameKey_iff : Store.sameKey (b.keyValues key) (a.keyValues key) = true ↔
    ∀ n ∈ key, (∃ u, b.writers.lookup n = some u ∧ a.writers.lookup n = some u) ∨
      (a.record.valueOrNull n).same? (b.record.valueOrNull n) = .ok true := by
  simp only [Store.sameKey, keyValues, List.length_map, beq_self_eq_true, Bool.true_and,
    List.zip_map', List.all_map, List.all_eq_true, Function.comp_apply, KeyValue.same_iff]

theorem any_isNull_iff :
    (row.keyValues key).any (·.value.isNull) = true ↔ ¬ row.record.HasKey key := by
  simp [keyValues, Record.HasKey, Function.comp_def]

theorem all_isHashable_iff :
    (row.keyValues key).all (·.value.isHashable) = true ↔ row.Hashable key := by
  simp [keyValues, Hashable, Function.comp_def]

end StoredRow

namespace Store

variable {s : Store} {table : String} {key : List String} {seen : List (List KeyValue)}
  {row : StoredRow} {rows : Rows}

/-- No key is the same as an earlier one. -/
def Apart (keys : List (List KeyValue)) : Prop :=
  keys.Pairwise fun vs ws ↦ sameKey ws vs = false

/-- A row is refused for its key alone, or for values that cannot be kept. -/
theorem newKey?_cases (table : String) (key : List String) (seen : List (List KeyValue))
    (row : StoredRow) :
    (newKey? table key seen row = .ok (row.keyValues key) ∧ row.record.HasKey key ∧
      row.Hashable key ∧ ∀ vs ∈ seen, sameKey (row.keyValues key) vs = false) ∨
    newKey? table key seen row = .error .wrongType ∨
    ∃ detail, newKey? table key seen row = .error (keyFault table detail) ∧
      (row.record.HasKey key → ∃ vs ∈ seen, sameKey (row.keyValues key) vs = true) := by
  unfold newKey?
  by_cases hnull : (row.keyValues key).any (·.value.isNull) = true
  · rw [if_pos hnull]
    exact .inr (.inr ⟨_, rfl, fun h ↦ absurd h (StoredRow.any_isNull_iff.mp hnull)⟩)
  rw [if_neg hnull]
  have hkey : row.record.HasKey key := by
    by_contra h
    exact hnull (StoredRow.any_isNull_iff.mpr h)
  by_cases hhash : (row.keyValues key).all (·.value.isHashable) = true
  · rw [hhash, Bool.not_true, if_neg Bool.false_ne_true]
    by_cases hseen : seen.any (sameKey (row.keyValues key)) = true
    · rw [if_pos hseen]
      exact .inr (.inr ⟨_, rfl, fun _ ↦ by simpa using hseen⟩)
    · rw [if_neg hseen]
      refine .inl ⟨rfl, hkey, StoredRow.all_isHashable_iff.mp hhash, fun vs hvs ↦ ?_⟩
      by_contra h
      exact hseen (List.any_eq_true.mpr ⟨vs, hvs, by simpa using h⟩)
  · rw [Bool.not_eq_true] at hhash
    rw [hhash]
    exact .inr (.inl rfl)

/-- The check of a key passes if all rows have keys that are apart, and reports the key only if
they have not. -/
theorem checkKeys?_cases (hrows : ∀ row ∈ rows, s.conformRow? table row = .ok row)
    (hseen : Apart seen) :
    (s.checkKeys? table key seen rows = .ok () ∧
      (∀ row ∈ rows, row.record.HasKey key ∧ row.Hashable key) ∧
      Apart (seen ++ rows.map (·.keyValues key))) ∨
    s.checkKeys? table key seen rows = .error .wrongType ∨
    ∃ detail, s.checkKeys? table key seen rows = .error (keyFault table detail) ∧
      ((∀ row ∈ rows, row.record.HasKey key) →
        ¬ Apart (seen ++ rows.map (·.keyValues key))) := by
  induction rows generalizing seen with
  | nil => exact .inl ⟨rfl, nofun, by simpa using hseen⟩
  | cons row rows ih =>
    have hfirst : s.checkKeys? table key seen (row :: rows) =
        newKey? table key seen row >>= fun vs ↦
          s.checkKeys? table key (seen ++ [vs]) rows := by
      rw [checkKeys?, hrows row (by simp)]
      rfl
    have hkeys : seen ++ (row :: rows).map (·.keyValues key) =
        (seen ++ [row.keyValues key]) ++ rows.map (·.keyValues key) := by simp
    rw [hfirst, hkeys]
    rcases newKey?_cases table key seen row with ⟨hnew, hkey, hhash, hfresh⟩ | hnew | hnew
    · have hapart : Apart (seen ++ [row.keyValues key]) := by
        refine List.pairwise_append.mpr ⟨hseen, List.pairwise_singleton _ _, ?_⟩
        intro vs hvs ws hws
        rw [List.mem_singleton.mp hws]
        exact hfresh vs hvs
      rw [hnew, ok_bind]
      rcases ih (fun row' h ↦ hrows row' (by simp [h])) hapart with ⟨hok, hall, hrest⟩ | h | h
      · refine .inl ⟨hok, fun row' hrow' ↦ ?_, hrest⟩
        rcases List.mem_cons.mp hrow' with rfl | hrow'
        · exact ⟨hkey, hhash⟩
        · exact hall row' hrow'
      · exact .inr (.inl h)
      · obtain ⟨detail, h, hwhy⟩ := h
        exact .inr (.inr ⟨detail, h, fun hall ↦ hwhy fun row' h ↦ hall row' (by simp [h])⟩)
    · rw [hnew]
      exact .inr (.inl rfl)
    · obtain ⟨detail, hnew, hwhy⟩ := hnew
      rw [hnew]
      refine .inr (.inr ⟨detail, rfl, fun hall hapart ↦ ?_⟩)
      obtain ⟨vs, hvs, hsame⟩ := hwhy (hall row (by simp))
      have hpair := (List.pairwise_append.mp (List.pairwise_append.mp hapart).1).2.2
      rw [hpair vs hvs _ (List.mem_singleton_self _)] at hsame
      cases hsame

end Store

namespace Rows

variable {key : List String} {rows rows' : Rows}

/-- A value that one update gave to two rows is one value. -/
def Coherent (rows : Rows) : Prop :=
  ∀ a ∈ rows, ∀ b ∈ rows, ∀ n u, a.writers.lookup n = some u → b.writers.lookup n = some u →
    a.record.valueOrNull n = b.record.valueOrNull n

/-- The values of the key equal themselves. -/
def Reflexive (key : List String) (rows : Rows) : Prop :=
  ∀ row ∈ rows, ∀ n ∈ key, (row.record.valueOrNull n).same? (row.record.valueOrNull n) = .ok true

/-- No two records have the same key. -/
def Distinct (key : List String) (rows : Rows) : Prop :=
  rows.Pairwise fun a b ↦ ¬ a.record.SameKey key b.record

/-- Keys that are apart are different. -/
theorem distinct_of_apart (h : Store.Apart (rows.map (·.keyValues key))) :
    rows.Distinct key := by
  refine (List.pairwise_map.mp h).imp fun {a b} hab hsame ↦ ?_
  rw [StoredRow.sameKey_iff.mpr fun n hn ↦ .inr (hsame n hn)] at hab
  cases hab

/-- Different keys are apart, where values equal themselves. -/
theorem apart_of_distinct (hcoherent : rows.Coherent) (hself : rows.Reflexive key)
    (h : rows.Distinct key) : Store.Apart (rows.map (·.keyValues key)) := by
  refine List.pairwise_map.mpr (h.imp_of_mem fun {a b} ha hb hab ↦ ?_)
  by_contra hsame
  rw [Bool.not_eq_false] at hsame
  refine hab fun n hn ↦ ?_
  rcases StoredRow.sameKey_iff.mp hsame n hn with ⟨u, hbu, hau⟩ | hvalue
  · rw [← hcoherent a ha b hb n u hau hbu]
    exact hself a ha n hn
  · exact hvalue

end Rows

end RecordStore
