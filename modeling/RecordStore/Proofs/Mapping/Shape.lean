import RecordStore.Mapping.Basic
import RecordStore.Proofs.Filter.Agreement
import RecordStore.Proofs.Memory.Keys

/-!
# Records of entities

The record that a mapping makes of an entity has the declared fields, in the order of declaration,
and in every field a value of the declared kind.

* `Assoc.lookup_ofPairs` shows that a list of pairs with different names is the map of itself.
* `EntityMapping.MadeOf` is the statement above, and `EntityMapping.madeOf_toRecord?` its proof.
-/

namespace RecordStore

open Outcome

namespace Assoc

variable {β γ : Type} {m : Assoc β} {n : String} {b : β}

theorem lookup_of_mem (h : m.keys.Nodup) (hp : (n, b) ∈ m) : m.lookup n = some b := by
  induction m with
  | nil => cases hp
  | cons p rest ih =>
    obtain ⟨hp', hrest⟩ := List.nodup_cons.mp h
    rw [List.lookup_cons]
    rcases List.mem_cons.mp hp with rfl | hp
    · simp
    · have hne : (n == p.1) = false := by
        rw [beq_eq_false_iff_ne]
        intro hn
        exact hp' (List.mem_map.mpr ⟨_, hp, hn⟩)
      rw [hne]
      exact ih hrest hp

theorem lookup_eq_none (h : n ∉ m.keys) : m.lookup n = none := by
  rw [List.lookup_eq_none_iff]
  intro p hp
  rw [bne_iff_ne]
  rintro rfl
  exact h (List.mem_map_of_mem hp)

/-- Where no name comes twice, there is nothing to replace. -/
theorem lookup_ofPairs (h : m.keys.Nodup) (n : String) : (ofPairs m).lookup n = m.lookup n := by
  induction m with
  | nil => rfl
  | cons p rest ih =>
    obtain ⟨hp, hrest⟩ := List.nodup_cons.mp h
    have hsplit : (ofPairs (p :: rest)).lookup n =
        ((ofPairs rest).lookup n).or ((insert [] p.1 p.2).lookup n) := lookup_merge _ rest n
    rw [hsplit, ih hrest, lookup_insert, List.lookup_cons]
    by_cases hn : n = p.1
    · rw [hn, lookup_eq_none hp]
      simp
    · simp [hn, beq_eq_false_iff_ne.mpr hn]

/-- What is done to every value leaves the names as they are. -/
theorem keys_of_mapM {change? : String × β → Outcome (String × γ)} {m' : Assoc γ}
    (hchange : ∀ p q, change? p = .ok q → q.1 = p.1) (h : m.mapM change? = .ok m') :
    m'.keys = m.keys := by
  have hall := mapM_eq_ok.mp h
  clear h
  induction hall with
  | nil => rfl
  | @cons p q _ _ hpq _ ih => exact congrArg₂ List.cons (hchange p q hpq) ih

end Assoc

/-- The record has the fields of the shape, in order and nothing else, with values of their
kinds. -/
structure Record.MadeOf (fields : Shape) (r : Record) : Prop where
  keys : r.values.keys = fields.keys
  shaped : Record.Shaped fields r.values
  hasKind (n : String) (k : Kind) : fields.lookup n = some k → (r.valueOrNull n).HasKind k
  extras : r.extras = []

namespace EntityMapping

variable {α : Type} {m : EntityMapping α} {x : α} {r : Record} {row : Row} {n : String} {k : Kind}
  {v : Value}

/-- The value of a field has taken on the declared kind. -/
theorem exists_of_field? (h : m.field? row n k = .ok v) : ∃ w : Value, w.coerce? k = .ok v := by
  unfold field? at h
  split at h
  · rename_i v' hv
    cases h
    obtain ⟨w, -, hw⟩ := bind_eq_ok.mp hv
    exact ⟨w, hw⟩
  · cases h

/-- The record of an entity has the declared shape. -/
theorem madeOf_toRecord? (hnodup : m.fields.keys.Nodup) (h : m.toRecord? x = .ok r) :
    r.MadeOf m.fields := by
  obtain ⟨row, -, h⟩ := bind_eq_ok.mp h
  obtain ⟨_, -, h⟩ := bind_eq_ok.mp h
  obtain ⟨values, hvalues, h⟩ := bind_eq_ok.mp h
  cases h
  have hfield {q : String × Value} (hq : q ∈ values) :
      ∃ k, m.fields.lookup q.1 = some k ∧ ∃ w : Value, w.coerce? k = .ok q.2 := by
    obtain ⟨⟨n, k⟩, hp, hpq⟩ := exists_of_mem_mapM hvalues hq
    obtain ⟨v, hv, hpq⟩ := bind_eq_ok.mp hpq
    cases hpq
    exact ⟨k, Assoc.lookup_of_mem hnodup hp, exists_of_field? hv⟩
  have hkeys : Assoc.keys values = m.fields.keys := by
    refine Assoc.keys_of_mapM (fun p q hpq ↦ ?_) hvalues
    obtain ⟨v, -, hpq⟩ := bind_eq_ok.mp hpq
    cases hpq
    rfl
  refine ⟨hkeys, fun q hq ↦ ?_, fun n k hk ↦ ?_, rfl⟩
  · obtain ⟨k, hk, w, hw⟩ := hfield hq
    rw [Record.conformValue?, hk]
    simp only [Value.coerce?_coerce? hw, ok_bind, pure_eq]
  · have hn : n ∈ Assoc.keys values := by
      rw [hkeys]
      exact Filter.mem_keys_of_lookup hk
    obtain ⟨q, hq, rfl⟩ := List.mem_map.mp hn
    obtain ⟨k', hk', w, hw⟩ := hfield hq
    rw [hk] at hk'
    cases hk'
    have hvalue : values.lookup q.1 = some q.2 := Assoc.lookup_of_mem (hkeys ▸ hnodup) hq
    rw [Record.valueOrNull, hvalue]
    exact Value.hasKind_of_coerce? hw

end EntityMapping

end RecordStore
