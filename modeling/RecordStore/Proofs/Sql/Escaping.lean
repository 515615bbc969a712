import RecordStore.Proofs.Sql.Pattern

/-!
# Escaping is exact

A text operator searches a database by a pattern in which its operand is escaped.  The pattern
matches exactly the texts that contain the operand, begin with it or end with it, whatever
backslashes, percent signs and underscores it holds.

* `Likes` is `LIKE` over whole texts, read off the pattern from left to right.
* `escapeLike_exact` is the statement above, with what makes escaping safe: no two texts are escaped
  alike, and no pattern ends inside an escape.
-/

namespace RecordStore.Sql

/-- The whole text matches the pattern: a percent sign stands for any text, an underscore for any
one character, a character behind a backslash and every other one for itself. -/
def Likes : List Char → List Char → Prop
  | [], s => s = []
  | '%' :: p, s => ∃ u t, s = u ++ t ∧ Likes p t
  | '_' :: p, s => ∃ x t, s = x :: t ∧ Likes p t
  | '\\' :: c :: p, s => ∃ t, s = c :: t ∧ Likes p t
  | ['\\'], _ => False
  | c :: p, s => ∃ t, s = c :: t ∧ Likes p t

/-- Does the pattern end in a backslash that has nothing to escape? -/
def dangles : List Char → Bool
  | [] => false
  | '\\' :: _ :: p => dangles p
  | ['\\'] => true
  | _ :: p => dangles p

/-- A text with another one in the place of every occurrence of a character. -/
def replaced (c : Char) (by_ : List Char) (s : List Char) : List Char :=
  s.flatMap fun x ↦ if x = c then by_ else [x]

namespace Pattern

variable {p s : List Char} {ps : List PatternPart}

/-- A pattern can be read unless it ends inside an escape. -/
theorem isNone_ofChars? (p : List Char) : (ofChars? p).isNone = dangles p := by
  fun_induction ofChars? p <;> simp_all [dangles]

/-- A part that stands for one character takes it from the front of the text. -/
theorem covers_literal_iff {c : Char} :
    covers (.literal c :: ps) (s.map Char.toNat) = true ↔
      ∃ t, s = c :: t ∧ covers ps (t.map Char.toNat) = true := by
  cases s with
  | nil => simp [covers]
  | cons x t =>
    simp only [List.map_cons, covers, Bool.and_eq_true, beq_iff_eq, Char.toNat_inj, List.cons.injEq]
    constructor
    · rintro ⟨rfl, h⟩
      exact ⟨t, ⟨rfl, rfl⟩, h⟩
    · rintro ⟨_, ⟨rfl, rfl⟩, h⟩
      exact ⟨rfl, h⟩

theorem covers_anyOne_iff :
    covers (.anyOne :: ps) (s.map Char.toNat) = true ↔
      ∃ x t, s = x :: t ∧ covers ps (t.map Char.toNat) = true := by
  cases s with
  | nil => simp [covers]
  | cons x t => simp [covers]

/-- What a part leaves that stands for any text is an end of the text. -/
theorem covers_anyMany_append_iff :
    covers (.anyMany :: ps) (s.map Char.toNat) = true ↔
      ∃ u t, s = u ++ t ∧ covers ps (t.map Char.toNat) = true := by
  rw [covers_anyMany_iff]
  constructor
  · rintro ⟨codes, hcodes, h⟩
    obtain ⟨t, ⟨u, rfl⟩, rfl⟩ := List.suffix_map_iff.mp hcodes
    exact ⟨u, t, rfl, h⟩
  · rintro ⟨u, t, rfl, h⟩
    exact ⟨_, List.suffix_map_iff.mpr ⟨t, ⟨u, rfl⟩, rfl⟩, h⟩

/-- The parts of a pattern cover the texts that are like it. -/
theorem covers_iff_likes (h : ofChars? p = some ps) :
    covers ps (s.map Char.toNat) = true ↔ Likes p s := by
  fun_induction ofChars? p generalizing ps s with
  | case1 =>
    cases h
    simp [covers, Likes]
  | case2 c rest ih =>
    obtain ⟨qs, hqs, rfl⟩ := Option.map_eq_some_iff.mp h
    rw [covers_literal_iff, Likes]
    simp only [ih hqs]
  | case3 => cases h
  | case4 rest ih =>
    obtain ⟨qs, hqs, rfl⟩ := Option.map_eq_some_iff.mp h
    rw [covers_anyMany_append_iff, Likes]
    simp only [ih hqs]
  | case5 rest ih =>
    obtain ⟨qs, hqs, rfl⟩ := Option.map_eq_some_iff.mp h
    rw [covers_anyOne_iff, Likes]
    simp only [ih hqs]
  | case6 c rest hescape hlone hmany hone ih =>
    obtain ⟨qs, hqs, rfl⟩ := Option.map_eq_some_iff.mp h
    rw [covers_literal_iff, Likes.eq_6]
    · simp only [ih hqs]
    all_goals assumption

end Pattern

/-! ## Escaping -/

variable {s t : String}

/-- Three replacements, one after another, escape a text: none of them finds what an earlier one has
put in. -/
theorem toList_escapeLike (t : String) : (escapeLike t).toList =
    replaced '_' ['\\', '_'] (replaced '%' ['\\', '%'] (replaced '\\' ['\\', '\\'] t.toList)) := by
  rw [escapeLike, String.toList_ofList, replaced, replaced, replaced, List.flatMap_assoc,
    List.flatMap_assoc]
  congr 1
  funext c
  by_cases hbackslash : c = '\\'
  · subst hbackslash
    decide
  by_cases hpercent : c = '%'
  · subst hpercent
    decide
  by_cases hunderscore : c = '_'
  · subst hunderscore
    decide
  simp [escapeChar, hbackslash, hpercent, hunderscore]

/-- An escaped text is read as the text itself. -/
theorem ofChars?_escapeLike (t : String) :
    Pattern.ofChars? (escapeLike t).toList = some (Pattern.literals t.toList) := by
  have h := Pattern.ofChars?_escaped t.toList []
  simpa [escapeLike, Pattern.ofChars?] using h

theorem escapeLike_injective : Function.Injective escapeLike := by
  intro s t h
  have hparts := ofChars?_escapeLike s
  rw [h, ofChars?_escapeLike t, Option.some.injEq] at hparts
  have hliteral : Function.Injective PatternPart.literal := fun _ _ h ↦ PatternPart.literal.inj h
  exact (String.toList_inj.mp (List.map_injective_iff.mpr hliteral hparts)).symm

/-- The pattern of a text operator matches what the operator finds. -/
theorem likes_likePattern_iff {op : Operator} (hop : op.isText = true) (s t : String) :
    dangles (likePattern op t).toList = false ∧
      (Likes (likePattern op t).toList s.toList ↔ finds op s.toList t.toList = true) := by
  have h := like?_likePattern hop s t
  cases hparts : Pattern.ofChars? (likePattern op t).toList with
  | none => simp [like?, cell?, Datum.scalar?, hparts] at h
  | some ps =>
    rw [← Pattern.isNone_ofChars?, hparts, ← Pattern.covers_iff_likes hparts]
    refine ⟨rfl, ?_⟩
    have htruth : Truth.ofBool (Pattern.covers ps (codePoints s)) =
        Truth.ofBool (finds op s.toList t.toList) := by
      simpa [like?, cell?, Datum.scalar?, hparts] using h
    change Pattern.covers ps (codePoints s) = true ↔ _
    cases hc : Pattern.covers ps (codePoints s) <;>
      cases hf : finds op s.toList t.toList <;> simp_all [Truth.ofBool]

/-- Patterns of text operators are exact, and escaping is what makes them so. -/
theorem escapeLike_exact :
    (∀ s t : String,
      (Likes (likePattern .contains t).toList s.toList ↔ t.toList <:+: s.toList) ∧
      (Likes (likePattern .startsWith t).toList s.toList ↔ t.toList <+: s.toList) ∧
      (Likes (likePattern .endsWith t).toList s.toList ↔ t.toList <:+ s.toList)) ∧
    Function.Injective escapeLike ∧
    ∀ t : String, dangles (escapeLike t).toList = false ∧
      (∀ op : Operator, dangles (likePattern op t).toList = false) ∧
      (escapeLike t).toList = replaced '_' ['\\', '_']
        (replaced '%' ['\\', '%'] (replaced '\\' ['\\', '\\'] t.toList)) := by
  refine ⟨fun s t ↦ ⟨?_, ?_, ?_⟩, escapeLike_injective, fun t ↦ ⟨?_, ?_, toList_escapeLike t⟩⟩
  · exact (likes_likePattern_iff rfl s t).2.trans Filter.occursIn_iff
  · exact (likes_likePattern_iff rfl s t).2.trans List.isPrefixOf_iff_prefix
  · exact (likes_likePattern_iff rfl s t).2.trans List.isSuffixOf_iff_suffix
  · rw [← Pattern.isNone_ofChars?, ofChars?_escapeLike]
    rfl
  · intro op
    -- an operator that is none on texts has the pattern of one that is
    have htext : ∃ op' : Operator, op'.isText = true ∧ likePattern op t = likePattern op' t := by
      cases op with
      | contains => exact ⟨.contains, rfl, rfl⟩
      | startsWith => exact ⟨.startsWith, rfl, rfl⟩
      | _ => exact ⟨.endsWith, rfl, rfl⟩
    obtain ⟨op', hop', heq⟩ := htext
    rw [heq]
    exact (likes_likePattern_iff hop' "" t).1

end RecordStore.Sql
