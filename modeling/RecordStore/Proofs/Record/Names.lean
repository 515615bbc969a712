import Mathlib.Data.Finset.Card
import RecordStore.Proofs.Mapping.Shape
import RecordStore.Proofs.Memory.Keyed

/-!
# Names of records

A record that was made of a row or of a mapping has every name once, and so it stays when it takes
on a shape.  Overwriting values writes a name among the values without taking it from the extras:
from then on the record has this name twice.  It can still be read by its names, and it still equals
the mappings with the same names and equal data, but it is iterated over twice and counted twice.

* `Record.Change` is one step from a record to another one, `Record.changeAll?` several.
* `Record.Readable` is what holds of every record, `Record.NamesOnce` what is lost with a doubled
  name.
* `Record.Derives` is what changes preserve; `Record.derives_of_change` is its step.
* `Record.names_once_iff` is the statement above.
-/

namespace RecordStore

open Outcome

/-! ## Names of maps -/

namespace Assoc

variable {β : Type} {m other : Assoc β} {n : String} {b : β}

theorem mem_keys_iff : n ∈ m.keys ↔ ∃ b, m.lookup n = some b := by
  constructor
  · intro h
    cases hb : m.lookup n with
    | some b => exact ⟨b, rfl⟩
    | none =>
      obtain ⟨p, hp, rfl⟩ := List.mem_map.mp h
      simpa using List.lookup_eq_none_iff.mp hb p hp
  · rintro ⟨b, hb⟩
    exact List.mem_map_of_mem (mem_of_lookup hb)

theorem mem_keys_merge : n ∈ (m.merge other).keys ↔ n ∈ m.keys ∨ n ∈ other.keys := by
  induction other generalizing m with
  | nil => simp [merge, keys]
  | cons p rest ih =>
    have hmerge : m.merge (p :: rest) = (m.insert p.1 p.2).merge rest := rfl
    have hkeys : n ∈ keys (p :: rest) ↔ n = p.1 ∨ n ∈ keys rest := by simp [keys]
    rw [hmerge, ih, mem_keys_insert, hkeys, or_assoc, or_left_comm]

/-- A list of pairs in which a name always comes with the same value. -/
theorem lookup_ofPairs_eq_some {ps : List (String × β)} {value? : String → Option β}
    (h : ∀ p ∈ ps, value? p.1 = some p.2) :
    (ofPairs ps).lookup n = some b ↔ (n, b) ∈ ps := by
  have hmem {b : β} (hb : (ofPairs ps).lookup n = some b) : (n, b) ∈ ps :=
    (mem_of_mem_merge (mem_of_lookup hb)).resolve_left List.not_mem_nil
  refine ⟨hmem, fun hb ↦ ?_⟩
  have hkeys : n ∈ (ofPairs ps).keys := mem_keys_merge.mpr (.inr (List.mem_map_of_mem hb))
  obtain ⟨b', hb'⟩ := mem_keys_iff.mp hkeys
  have heq : some b' = some b := (h _ (hmem hb')).symm.trans (h _ hb)
  rw [hb', heq]

end Assoc

namespace Record

/-! ## Comparing mappings -/

section Comparing

variable {a b : Row}

/-- Once one column was different, the rest is of no interest. -/
theorem foldlM_false {step : Bool → String × Datum → Outcome Bool}
    (h : ∀ p, step false p = .ok false) (ps : Row) : ps.foldlM step false = .ok false := by
  induction ps with
  | nil => rfl
  | cons p ps ih => rw [List.foldlM_cons, h, ok_bind, ih]

/-- Every column of the one row is in the other one, with equal data. -/
theorem sameRow?_eq_ok_true : sameRow? a b = .ok true ↔ a.length = b.length ∧
    ∀ p ∈ a, ∃ d, b.lookup p.1 = some d ∧ p.2.same? d = .ok true := by
  unfold sameRow?
  by_cases hlength : a.length = b.length
  · rw [if_neg (not_not_intro hlength)]
    simp only [hlength, true_and]
    clear hlength
    induction a with
    | nil => simp
    | cons p a ih =>
      rw [List.foldlM_cons, List.forall_mem_cons, ← ih, bind_eq_ok]
      constructor
      · rintro ⟨same, hsame, hrest⟩
        cases same with
        | false =>
          rw [foldlM_false fun p ↦ rfl] at hrest
          cases hrest
        | true =>
          refine ⟨?_, hrest⟩
          cases hb : b.lookup p.1 with
          | none => simp [hb] at hsame
          | some d => exact ⟨d, rfl, by simpa [hb] using hsame⟩
      · rintro ⟨⟨d, hd, hsame⟩, hrest⟩
        exact ⟨true, by simp [hd, hsame], hrest⟩
  · rw [if_pos hlength]
    simp [hlength]

/-- Two rows without doubled names are equal if they have the same names with equal data. -/
theorem sameRow?_iff (ha : Assoc.keys a |>.Nodup) (hb : Assoc.keys b |>.Nodup) :
    sameRow? a b = .ok true ↔ (∀ n, n ∈ Assoc.keys a ↔ n ∈ Assoc.keys b) ∧
      ∀ n d e, a.lookup n = some d → b.lookup n = some e → d.same? e = .ok true := by
  have hlen (m : Row) : (Assoc.keys m).length = m.length := List.length_map _
  rw [sameRow?_eq_ok_true]
  constructor
  · rintro ⟨hlength, hall⟩
    have hsub : Assoc.keys a ⊆ Assoc.keys b := by
      intro n hn
      obtain ⟨p, hp, rfl⟩ := List.mem_map.mp hn
      obtain ⟨d, hd, -⟩ := hall p hp
      exact Assoc.mem_keys_iff.mpr ⟨d, hd⟩
    have hperm : (Assoc.keys a).Perm (Assoc.keys b) := by
      apply (List.subperm_of_subset ha hsub).perm_of_length_le
      rw [hlen, hlen, hlength]
    refine ⟨fun n ↦ hperm.mem_iff, fun n d e hd he ↦ ?_⟩
    obtain ⟨e', he', hsame⟩ := hall _ (mem_of_lookup hd)
    rw [he] at he'
    cases he'
    exact hsame
  · rintro ⟨hnames, hall⟩
    have hperm : (Assoc.keys a).Perm (Assoc.keys b) := (List.perm_ext_iff_of_nodup ha hb).mpr hnames
    refine ⟨by rw [← hlen, ← hlen, hperm.length_eq], fun p hp ↦ ?_⟩
    obtain ⟨e, he⟩ := Assoc.mem_keys_iff.mp ((hnames p.1).mp (List.mem_map_of_mem hp))
    exact ⟨e, he, hall _ _ _ (Assoc.lookup_of_mem ha hp) he⟩

end Comparing

variable {r r₀ r' : Record} {n : String} {d : Datum}

theorem mem_names_iff : n ∈ r.names ↔ ∃ d, r.column? n = some d := by
  unfold names column?
  rw [List.mem_append]
  cases hv : r.values.lookup n with
  | some v => simp [Assoc.mem_keys_iff, hv]
  | none => simp [Assoc.mem_keys_iff, hv]

theorem get?_eq_ok : r.get? n = .ok d ↔ r.column? n = some d := by
  unfold get?
  cases r.column? n <;> simp

/-- The mapping that a record stands for: under every name what is read there. -/
theorem lookup_items : (Assoc.ofPairs r.items).lookup n = r.column? n := by
  have hitems (p : String × Datum) : p ∈ r.items ↔ r.column? p.1 = some p.2 := by
    obtain ⟨k, e⟩ := p
    unfold items
    rw [List.mem_filterMap]
    constructor
    · rintro ⟨m, -, hm⟩
      obtain ⟨e', he', hm⟩ := Option.map_eq_some_iff.mp hm
      cases hm
      exact he'
    · intro hk
      exact ⟨k, mem_names_iff.mpr ⟨e, hk⟩, by rw [hk]; rfl⟩
  have hlookup (e : Datum) : (Assoc.ofPairs r.items).lookup n = some e ↔ r.column? n = some e :=
    (Assoc.lookup_ofPairs_eq_some fun p hp ↦ (hitems p).mp hp).trans (hitems (n, e))
  exact Option.ext hlookup

/-! ## What holds of records -/

/-- The names among the values and the extras. -/
def doubled (r : Record) : Finset String := r.values.keys.toFinset ∩ r.extras.keys.toFinset

/-- What holds of every record: its names are those it can be read by, it equals the mappings with
the same names and equal data, and it has a name twice if this is among the values and the
extras. -/
structure Readable (r : Record) : Prop where
  indexed : ∀ n, n ∈ r.names ↔ ∃ d, r.get? n = .ok d
  same_iff : ∀ other : Row, (Assoc.keys other).Nodup → (r.sameMapping? other = .ok true ↔
    (∀ n, n ∈ r.names ↔ n ∈ Assoc.keys other) ∧
      ∀ n d e, r.get? n = .ok d → other.lookup n = some e → d.same? e = .ok true)
  count : ∀ n ∈ r.names, r.names.count n = if n ∈ r.doubled then 2 else 1
  size : r.size = r.names.toFinset.card + r.doubled.card

/-- Every name is there once. -/
structure NamesOnce (r : Record) : Prop where
  apart : ∀ n ∈ r.values.keys, n ∉ r.extras.keys
  count : ∀ n ∈ r.names, r.names.count n = 1
  size : r.size = r.names.toFinset.card

/-- A record whose values and extras are maps. -/
theorem readable (hvalues : r.values.keys.Nodup) (hextras : r.extras.keys.Nodup) : r.Readable where
  indexed n := by simp only [get?_eq_ok, mem_names_iff]
  same_iff other hother := by
    have hkeys (n : String) : n ∈ (Assoc.ofPairs r.items).keys ↔ n ∈ r.names := by
      rw [Assoc.mem_keys_iff, mem_names_iff, lookup_items]
    rw [sameMapping?, sameRow?_iff (Assoc.nodup_keys_ofPairs _) hother]
    simp only [hkeys, lookup_items, get?_eq_ok]
  count n hn := by
    unfold names at hn ⊢
    rw [List.count_append, hvalues.count, hextras.count]
    rw [List.mem_append] at hn
    by_cases hv : n ∈ r.values.keys <;> by_cases he : n ∈ r.extras.keys <;>
      simp_all [doubled]
  size := by
    have hlen : r.size = r.values.keys.toFinset.card + r.extras.keys.toFinset.card := by
      rw [List.toFinset_card_of_nodup hvalues, List.toFinset_card_of_nodup hextras]
      simp [size, Assoc.keys]
    rw [hlen, names, List.toFinset_append, doubled, Finset.card_union_add_card_inter]

theorem Readable.namesOnce_iff (h : r.Readable) : r.NamesOnce ↔ r.doubled = ∅ := by
  constructor
  · intro honce
    rw [← Finset.card_eq_zero]
    have := h.size.symm.trans honce.size
    omega
  · intro hempty
    refine ⟨fun n hv he ↦ ?_, fun n hn ↦ ?_, ?_⟩
    · have hmem : n ∈ r.doubled :=
        Finset.mem_inter.mpr ⟨List.mem_toFinset.mpr hv, List.mem_toFinset.mpr he⟩
      rw [hempty] at hmem
      cases hmem
    · rw [h.count n hn, hempty]
      rfl
    · rw [h.size, hempty]
      rfl

/-! ## Making records -/

/-- A column is added under its name. -/
theorem names_addColumn? {fields : Shape} (h : addColumn? fields r n d = .ok r') :
    r'.names.Perm (n :: r.names) := by
  have hvalue (v : Value) :
      ({ r with values := r.values ++ [(n, v)] } : Record).names.Perm (n :: r.names) := by
    simp only [names, Assoc.keys, List.map_append, List.map_cons, List.map_nil,
      List.append_assoc, List.singleton_append]
    exact List.perm_middle
  unfold addColumn? at h
  split at h
  · obtain ⟨w, -, h⟩ := bind_eq_ok.mp h
    obtain ⟨v, -, h⟩ := bind_eq_ok.mp h
    cases h
    exact hvalue v
  · split at h
    · cases h
      exact hvalue _
    · cases h
      simp only [names, Assoc.keys, List.map_append, List.map_cons, List.map_nil,
        ← List.append_assoc]
      exact List.perm_append_singleton _ _

theorem names_ofRow? {row : Row} {fields : Shape} (h : ofRow? row fields = .ok r) :
    r.names.Perm (Assoc.keys row) := by
  have hfold : ∀ (row : Row) (r₀ : Record),
      row.foldlM (fun r p ↦ addColumn? fields r p.1 p.2) r₀ = .ok r →
        r.names.Perm (Assoc.keys row ++ r₀.names) := by
    intro row
    induction row with
    | nil =>
      intro r₀ h
      cases h
      exact .refl _
    | cons p row ih =>
      intro r₀ h
      rw [List.foldlM_cons] at h
      obtain ⟨r₁, hr₁, h⟩ := bind_eq_ok.mp h
      exact (ih r₁ h).trans (((names_addColumn? hr₁).append_left _).trans List.perm_middle)
  simpa [names, Assoc.keys] using hfold row {} h

theorem names_ofMapping? {row : Row} (h : ofMapping? row = .ok r) : r.names = Assoc.keys row := by
  obtain ⟨values, hvalues, h⟩ := bind_eq_ok.mp h
  cases h
  have hkeys : Assoc.keys values = Assoc.keys row := by
    refine Assoc.keys_of_mapM (fun p q hpq ↦ ?_) hvalues
    obtain ⟨v, -, hpq⟩ := bind_eq_ok.mp hpq
    cases hpq
    rfl
  rw [names, hkeys]
  exact List.append_nil _

/-! ## Changing records -/

/-- A step from a record to another one. -/
inductive Change where
  | replace (values : Assoc Value)
  | conform (fields : Shape)

/-- Makes a change. -/
def Change.make (r : Record) : Change → Outcome Record
  | replace values => pure (r.replace values)
  | conform fields => r.conform? fields

/-- The names that a change writes. -/
def Change.written : Change → List String
  | replace values => values.keys
  | conform _ => []

/-- Makes changes one after another. -/
def changeAll? (r : Record) (cs : List Change) : Outcome Record := cs.foldlM Change.make r

/-- A record and what has come of it by changes: the extras are the same, and the names among the
values are those from before and those that were written. -/
structure Derives (r₀ : Record) (cs : List Change) (r : Record) : Prop where
  extras : r.extras = r₀.extras
  nodup : r₀.values.keys.Nodup → r.values.keys.Nodup
  mem_keys : ∀ n, n ∈ r.values.keys ↔ n ∈ r₀.values.keys ∨ ∃ c ∈ cs, n ∈ c.written

theorem keys_of_conform? {fields : Shape} (h : r.conform? fields = .ok r') :
    r'.values.keys = r.values.keys ∧ r'.extras = r.extras := by
  obtain ⟨values, hvalues, h⟩ := bind_eq_ok.mp h
  cases h
  refine ⟨Assoc.keys_of_mapM (fun p q hpq ↦ ?_) hvalues, rfl⟩
  unfold conformValue? at hpq
  split at hpq
  · obtain ⟨v, -, hq⟩ := bind_eq_ok.mp hpq
    cases hq
    rfl
  · cases hpq
    rfl

theorem derives_of_change {c : Change} (h : c.make r = .ok r') : Derives r [c] r' := by
  cases c with
  | replace values =>
    cases h
    refine ⟨rfl, fun hnodup ↦ Assoc.nodup_keys_merge hnodup values, fun n ↦ ?_⟩
    simp only [List.mem_singleton, exists_eq_left]
    exact Assoc.mem_keys_merge
  | conform fields =>
    obtain ⟨hkeys, hextras⟩ := keys_of_conform? h
    refine ⟨hextras, fun hnodup ↦ hkeys ▸ hnodup, fun n ↦ ?_⟩
    simp [Change.written, hkeys]

theorem Derives.trans {cs cs' : List Change} (h : Derives r₀ cs r) (h' : Derives r cs' r') :
    Derives r₀ (cs ++ cs') r' where
  extras := h'.extras.trans h.extras
  nodup hnodup := h'.nodup (h.nodup hnodup)
  mem_keys n := by
    rw [h'.mem_keys, h.mem_keys, or_assoc]
    simp only [List.mem_append, or_and_right, exists_or]

theorem derives_of_changeAll? {cs : List Change} (h : r₀.changeAll? cs = .ok r) :
    Derives r₀ cs r := by
  induction cs generalizing r₀ with
  | nil =>
    cases h
    exact ⟨rfl, id, fun n ↦ by simp⟩
  | cons c cs ih =>
    rw [changeAll?, List.foldlM_cons] at h
    obtain ⟨r₁, hr₁, h⟩ := bind_eq_ok.mp h
    exact (derives_of_change hr₁).trans (ih h)

/-- A record that was made of a row or a mapping and changed since can be read by its names and
equals the mappings with the same names and equal data.  It has every name once exactly if no
change has written a name that is among the extras. -/
theorem names_once_iff {row : Row} {fields : Shape} {cs : List Change}
    (hrow : (Assoc.keys row).Nodup)
    (hmade : ofRow? row fields = .ok r₀ ∨ ofMapping? row = .ok r₀)
    (hchanged : r₀.changeAll? cs = .ok r) :
    r.Readable ∧ (r.NamesOnce ↔ ∀ c ∈ cs, ∀ n ∈ c.written, n ∉ r₀.extras.keys) := by
  have hnames : r₀.names.Nodup := by
    rcases hmade with hmade | hmade
    · exact (names_ofRow? hmade).nodup_iff.mpr hrow
    · rw [names_ofMapping? hmade]
      exact hrow
  obtain ⟨hvalues, hextras, hapart⟩ := List.nodup_append.mp hnames
  have hderives := derives_of_changeAll? hchanged
  have hreadable : r.Readable :=
    readable (hderives.nodup hvalues) (hderives.extras ▸ hextras)
  refine ⟨hreadable, ?_⟩
  rw [hreadable.namesOnce_iff, Finset.eq_empty_iff_forall_notMem]
  simp only [doubled, Finset.mem_inter, List.mem_toFinset, hderives.extras, hderives.mem_keys]
  constructor
  · intro hnone c hc n hn he
    exact hnone n ⟨.inr ⟨c, hc, hn⟩, he⟩
  · rintro hwritten n ⟨hn | ⟨c, hc, hn⟩, he⟩
    · exact hapart n hn n he rfl
    · exact hwritten c hc n hn he

/-- A row with a list that takes on a shape and gets another name. -/
theorem names_once_iff_tags :
    let row : Row := [("id", .integer 1), ("tags", .list [.text "a"])]
    let cs : List Change := [.conform [("id", .decimal)], .replace [("name", ⟨.text, .text "Bob"⟩)]]
    ∃ r₀ r, (Assoc.keys row).Nodup ∧ ofRow? row [] = .ok r₀ ∧ r₀.changeAll? cs = .ok r ∧
      r.Readable ∧ (r.NamesOnce ↔ ∀ c ∈ cs, ∀ n ∈ c.written, n ∉ r₀.extras.keys) := by
  intro row cs
  have hrow : (Assoc.keys row).Nodup := by decide
  obtain ⟨r₀, hmade⟩ : ∃ r₀, ofRow? row [] = .ok r₀ := ⟨_, rfl⟩
  obtain ⟨r, hchanged⟩ : ∃ r, r₀.changeAll? cs = .ok r := by
    cases hmade
    exact ⟨_, rfl⟩
  exact ⟨r₀, r, hrow, hmade, hchanged, names_once_iff hrow (.inl hmade) hchanged⟩

/-- A text is written where a list was: the name is there twice, so that three columns are counted
in a record that equals a mapping with two. -/
theorem replace_doubles :
    let row : Row := [("id", .integer 1), ("tags", .list [.text "a", .text "b"])]
    ∃ r₀ r, ofRow? row [("id", .integer)] = .ok r₀ ∧
      r₀.changeAll? [.replace [("tags", ⟨.text, .text "none"⟩)]] = .ok r ∧
      r.names = ["id", "tags", "tags"] ∧ r.size = 3 ∧
      r.sameMapping? [("id", .integer 1), ("tags", .text "none")] = .ok true ∧ ¬ r.NamesOnce := by
  intro row
  refine ⟨_, _, rfl, rfl, rfl, rfl, rfl, ?_⟩
  intro h
  exact h.apart "tags" (by decide) (by decide)

end Record

end RecordStore
