/-!
# Ordered maps

Maps from names to values that remember the order in which the names were first given, as lists
of pairs.  A later value for a name replaces the earlier one at the earlier one's place.

* `Assoc.insert` sets one name, `Assoc.ofPairs` a whole list of them, `Assoc.merge` those of
  another map.
* Looking up is `List.lookup`.
-/

namespace RecordStore

/-- A map from names to values in order of first mention. -/
abbrev Assoc (β : Type) := List (String × β)

namespace Assoc

variable {β γ : Type}

/-- The names, in order. -/
def keys (m : Assoc β) : List String := m.map Prod.fst

/-- Is the name there? -/
def has (m : Assoc β) (k : String) : Bool := m.keys.contains k

/-- Sets a name. -/
def insert (m : Assoc β) (k : String) (v : β) : Assoc β :=
  match m with
  | [] => [(k, v)]
  | (k', v') :: rest => if k' = k then (k, v) :: rest else (k', v') :: insert rest k v

/-- The map with the names of another set too. -/
def merge (m other : Assoc β) : Assoc β := other.foldl (fun acc p => acc.insert p.1 p.2) m

/-- The map of a list of pairs that may name a name again. -/
def ofPairs (ps : List (String × β)) : Assoc β := merge [] ps

/-- The map with every value changed. -/
def mapValues (f : β → γ) (m : Assoc β) : Assoc γ := m.map fun p => (p.1, f p.2)

@[simp] theorem keys_mapValues (f : β → γ) (m : Assoc β) : (m.mapValues f).keys = m.keys := by
  simp [keys, mapValues, Function.comp_def]

theorem lookup_insert (m : Assoc β) (k k' : String) (v : β) :
    (m.insert k v).lookup k' = if k' = k then some v else m.lookup k' := by
  induction m with
  | nil => simp only [insert, List.lookup_cons, List.lookup_nil]; grind
  | cons p rest ih =>
    obtain ⟨a, b⟩ := p
    simp only [insert]
    by_cases ha : a = k <;> simp only [ha, if_true, if_false, List.lookup_cons, ih] <;> grind

theorem mem_keys_insert (m : Assoc β) (k x : String) (v : β) :
    x ∈ (m.insert k v).keys ↔ x = k ∨ x ∈ m.keys := by
  induction m with
  | nil => simp [insert, keys]
  | cons p rest ih =>
    obtain ⟨a, b⟩ := p
    simp only [keys] at ih
    by_cases ha : a = k
    · subst ha; simp [insert, keys]
    · simp [insert, ha, keys, ih]; grind

/-- Setting a name keeps the names apart. -/
theorem nodup_keys_insert {m : Assoc β} (h : m.keys.Nodup) (k : String) (v : β) :
    (m.insert k v).keys.Nodup := by
  induction m with
  | nil => simp [insert, keys]
  | cons p rest ih =>
    obtain ⟨a, b⟩ := p
    simp only [keys, List.map_cons, List.nodup_cons] at h
    by_cases ha : a = k
    · subst ha; simpa [insert, keys] using h
    · have := mem_keys_insert rest k a v
      simp only [keys] at this ih
      simp [insert, ha, keys, this, h.1, ih h.2]

theorem nodup_keys_merge {m : Assoc β} (h : m.keys.Nodup) (other : Assoc β) :
    (m.merge other).keys.Nodup := by
  induction other generalizing m with
  | nil => exact h
  | cons p rest ih => exact ih (nodup_keys_insert h p.1 p.2)

theorem nodup_keys_ofPairs (ps : List (String × β)) : (ofPairs ps).keys.Nodup :=
  nodup_keys_merge (by simp [keys]) ps

end Assoc

end RecordStore
