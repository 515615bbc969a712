import RecordStore.Filter.Evaluation
import RecordStore.Proofs.Sql.Condition

/-!
# Searching with patterns

The pattern of a text operator matches exactly the texts that the operator finds, whatever special
characters the operand holds.

* `like?_likePattern` is the theorem above.
-/

namespace RecordStore

/-- Occurring in a list is being a piece of it. -/
theorem Filter.occursIn_iff {α : Type} [BEq α] [LawfulBEq α] {needle xs : List α} :
    occursIn needle xs = true ↔ needle <:+: xs := by
  induction xs with
  | nil => simp [occursIn]
  | cons x xs ih =>
    rw [occursIn, Bool.or_eq_true, ih, List.isPrefixOf_iff_prefix, List.infix_cons_iff]

namespace Sql

namespace Pattern

/-- A pattern that stands for a text. -/
def literals (cs : List Char) : List PatternPart := cs.map .literal

/-- An escaped text is read as the text. -/
theorem ofChars?_escaped (cs rest : List Char) :
    ofChars? (cs.flatMap escapeChar ++ rest) = (ofChars? rest).map (literals cs ++ ·) := by
  induction cs with
  | nil => exact Option.map_id'.symm
  | cons c cs ih =>
    have hc : ofChars? (escapeChar c ++ (cs.flatMap escapeChar ++ rest)) =
        (ofChars? (cs.flatMap escapeChar ++ rest)).map (.literal c :: ·) := by
      unfold escapeChar
      split
      · rfl
      · rename_i hplain
        simp only [not_or] at hplain
        rw [List.singleton_append, ofChars?.eq_def]
        split <;> simp_all
    rw [List.flatMap_cons, List.append_assoc, hc, ih, Option.map_map]
    rfl

variable {ps : List PatternPart} {cs s : List Char}

theorem covers_anyMany_iff {codes : List ℕ} :
    covers (.anyMany :: ps) codes = true ↔ ∃ t, t <:+ codes ∧ covers ps t = true := by
  simp [covers, List.mem_tails]

/-- A text followed by a pattern matches what begins with the text. -/
theorem covers_literals_iff {codes : List ℕ} :
    covers (literals cs ++ ps) codes = true ↔
      ∃ t, codes = cs.map Char.toNat ++ t ∧ covers ps t = true := by
  induction cs generalizing codes with
  | nil => simp [literals]
  | cons c cs ih =>
    have htail : covers (literals (c :: cs) ++ ps) codes = true ↔
        ∃ t, codes = c.toNat :: t ∧ covers (literals cs ++ ps) t = true := by
      cases codes with
      | nil => simp [literals, covers]
      | cons x t =>
        simp only [literals, List.map_cons, List.cons_append, covers, Bool.and_eq_true, beq_iff_eq]
        constructor
        · rintro ⟨rfl, h⟩
          exact ⟨t, rfl, h⟩
        · rintro ⟨t', h, ht⟩
          cases h
          exact ⟨rfl, ht⟩
    rw [htail]
    constructor
    · rintro ⟨t, rfl, h⟩
      obtain ⟨u, rfl, hu⟩ := ih.mp h
      exact ⟨u, rfl, hu⟩
    · rintro ⟨u, rfl, hu⟩
      exact ⟨_, rfl, ih.mpr ⟨u, rfl, hu⟩⟩

theorem covers_anyMany (codes : List ℕ) : covers [.anyMany] codes = true :=
  covers_anyMany_iff.mpr ⟨[], List.nil_suffix, rfl⟩

theorem map_toNat_injective : Function.Injective (List.map Char.toNat) :=
  List.map_injective_iff.mpr fun _ _ h ↦ Char.toNat_inj.mp h

theorem map_toNat_prefix_iff : cs.map Char.toNat <+: s.map Char.toNat ↔ cs <+: s := by
  rw [List.prefix_map_iff]
  constructor
  · rintro ⟨t, ht, h⟩
    rwa [map_toNat_injective h]
  · intro h
    exact ⟨cs, h, rfl⟩

theorem map_toNat_suffix_iff : cs.map Char.toNat <:+ s.map Char.toNat ↔ cs <:+ s := by
  rw [List.suffix_map_iff]
  constructor
  · rintro ⟨t, ht, h⟩
    rwa [map_toNat_injective h]
  · intro h
    exact ⟨cs, h, rfl⟩

theorem map_toNat_infix_iff : cs.map Char.toNat <:+: s.map Char.toNat ↔ cs <:+: s := by
  rw [List.infix_map_iff]
  constructor
  · rintro ⟨t, ht, h⟩
    rwa [map_toNat_injective h]
  · intro h
    exact ⟨cs, h, rfl⟩

/-- A text with anything after it. -/
theorem covers_beginning :
    covers (literals cs ++ [.anyMany]) (s.map Char.toNat) = cs.isPrefixOf s := by
  rw [Bool.eq_iff_iff, covers_literals_iff, List.isPrefixOf_iff_prefix, ← map_toNat_prefix_iff]
  constructor
  · rintro ⟨t, h, -⟩
    exact ⟨t, h.symm⟩
  · rintro ⟨t, h⟩
    exact ⟨t, h.symm, covers_anyMany t⟩

/-- A text with anything in front of it. -/
theorem covers_end :
    covers (.anyMany :: literals cs) (s.map Char.toNat) = cs.isSuffixOf s := by
  have hnil (t : List ℕ) : covers (literals cs) t = true ↔ t = cs.map Char.toNat := by
    have h : covers (literals cs ++ []) t = true ↔
        ∃ u, t = cs.map Char.toNat ++ u ∧ covers [] u = true := covers_literals_iff
    simpa [covers] using h
  rw [Bool.eq_iff_iff, covers_anyMany_iff, List.isSuffixOf_iff_suffix, ← map_toNat_suffix_iff]
  constructor
  · rintro ⟨t, ht, h⟩
    rwa [← (hnil t).mp h]
  · intro h
    exact ⟨_, h, (hnil _).mpr rfl⟩

/-- A text with anything on both sides of it. -/
theorem covers_inside :
    covers (.anyMany :: (literals cs ++ [.anyMany])) (s.map Char.toNat) =
      Filter.occursIn cs s := by
  rw [Bool.eq_iff_iff, covers_anyMany_iff, Filter.occursIn_iff, ← map_toNat_infix_iff,
    List.infix_iff_prefix_suffix]
  constructor
  · rintro ⟨t, ht, h⟩
    obtain ⟨u, rfl, -⟩ := covers_literals_iff.mp h
    exact ⟨_, ⟨u, rfl⟩, ht⟩
  · rintro ⟨_, ⟨u, rfl⟩, ht⟩
    exact ⟨_, ht, covers_literals_iff.mpr ⟨u, rfl, covers_anyMany u⟩⟩

end Pattern

/-- Does the operator find the text? -/
def finds (op : Operator) (stored needle : List Char) : Bool :=
  if op = .contains then Filter.occursIn needle stored else Filter.hasEnd op stored needle

theorem search?_text (op : Operator) (s p : String) :
    Filter.search? op (.text s) (.text p) = .ok (finds op s.toList p.toList) := by
  unfold Filter.search? finds
  split
  · rfl
  · exact Filter.alternatives?_text _ _

open Pattern in
/-- The pattern of a text operator matches what the operator finds. -/
theorem like?_likePattern {op : Operator} (hop : op.isText = true) (s p : String) :
    like? (.text s) (.text (likePattern op p)) = some (.ofBool (finds op s.toList p.toList)) := by
  have hescaped : ofChars? (p.toList.flatMap escapeChar) = some (literals p.toList) := by
    simpa [ofChars?] using ofChars?_escaped p.toList []
  have hmany : ofChars? (p.toList.flatMap escapeChar ++ ['%']) =
      some (literals p.toList ++ [.anyMany]) := by
    simpa [ofChars?] using ofChars?_escaped p.toList ['%']
  have hlike (ps : List PatternPart) (h : ofChars? (likePattern op p).toList = some ps) :
      like? (.text s) (.text (likePattern op p)) =
        some (.ofBool (covers ps (s.toList.map Char.toNat))) := by
    simp [like?, cell?, Datum.scalar?, codePoints, h]
  cases op <;> try cases hop
  case contains =>
    rw [hlike (.anyMany :: (literals p.toList ++ [.anyMany]))
      (by simp [likePattern, escapeLike, ofChars?, hmany]), covers_inside]
    rfl
  case startsWith =>
    rw [hlike (literals p.toList ++ [.anyMany])
      (by simp [likePattern, escapeLike, hmany]), covers_beginning]
    rfl
  case endsWith =>
    rw [hlike (.anyMany :: literals p.toList)
      (by simp [likePattern, escapeLike, ofChars?, hescaped]), covers_end]
    rfl

end Sql

end RecordStore
