import RecordStore.Proofs.Sql.Write

/-!
# Which names are quoted

A name is quoted if and only if it is a list of parts with dots between them, each of which is a
plain name with at most one line break behind it.  The quoted form is that of the parts, and the
name is what is left of it without the quotes.  Every other value is refused, whatever it holds.

* `isWord` are the plain names, `IsPart` the parts that pass: the line break is let through at the
  end of every part.
* `Quotes` relates a name to its quoted form, and `quote_eq_ok_iff` says that quoting does just
  this.  `Quotes.withoutQuotes_eq` reads the name back.
* `QuotedExactly` is what quoting is for, and `quotedExactly_iff` says where it does it.
* `isDotted_iff` tells the dotted plain names among the names that are quoted: they are those
  without a line break.
-/

namespace RecordStore.Sql

/-- Is the text a letter or underscore, then letters, digits and underscores, and nothing else? -/
def isWord : List Char → Bool
  | [] => false
  | c :: cs => isNameStart c && cs.all isNameChar

/-- A part of a name that passes: a plain name, with at most one line break behind it. -/
def IsPart (p : List Char) : Prop := ∃ w, isWord w = true ∧ (p = w ∨ p = w ++ ['\n'])

/-- Parts with dots between them. -/
def dotted (ps : List (List Char)) : String := String.ofList (['.'].intercalate ps)

/-- The text is one or more plain names with dots between them. -/
def IsDotted (s : String) : Prop :=
  ∃ ps, ps ≠ [] ∧ (∀ p ∈ ps, isWord p = true) ∧ s = dotted ps

/-- The first text is made of parts that pass, and the second one has each of them in double
quotes. -/
def Quotes (s q : String) : Prop :=
  ∃ ps, ps ≠ [] ∧ (∀ p ∈ ps, IsPart p) ∧ s = dotted ps ∧ q = dotted (ps.map inQuotes)

/-- A text without its double quotes. -/
def withoutQuotes (q : String) : String := String.ofList (q.toList.filter (· ≠ '"'))

/-- Quoting does what it is for at this value: the parts of a dotted plain name are put into double
quotes, without which the name is left, and everything else is refused. -/
def QuotedExactly (context : String) (d : Datum) : Prop :=
  (∀ ps, ps ≠ [] → (∀ p ∈ ps, isWord p = true) → d = .text (dotted ps) →
    quote context d = .ok (dotted (ps.map inQuotes)) ∧
      withoutQuotes (dotted (ps.map inQuotes)) = dotted ps) ∧
  ((∀ s, d = .text s → ¬IsDotted s) →
    quote context d = .error (.builder (.badIdentifier context d)))

variable {p cs : List Char} {ps : List (List Char)} {s q context : String} {d : Datum}

/-! ## Parts -/

theorem isPlain_eq (cs : List Char) : isPlain cs = isWord (dropFinalBreak cs) := by
  unfold isPlain
  split <;> simp_all [isWord]

/-- A plain name holds no line break. -/
theorem notMem_of_isWord (h : isWord cs = true) : '\n' ∉ cs := by
  cases cs with
  | nil => simp [isWord] at h
  | cons c cs =>
    simp only [isWord, Bool.and_eq_true, List.all_eq_true] at h
    obtain ⟨hstart, hall⟩ := h
    simp only [List.mem_cons, not_or]
    constructor
    · rintro rfl
      exact absurd hstart (by decide)
    · intro hm
      exact absurd (hall _ hm) (by decide)

/-- The check passes exactly the plain names with at most one line break behind them. -/
theorem isPlain_iff : isPlain p = true ↔ IsPart p := by
  rw [isPlain_eq]
  constructor
  · intro h
    by_cases hlast : p.getLast? = some '\n'
    · rw [dropFinalBreak, if_pos hlast] at h
      exact ⟨_, h, .inr (List.dropLast_append_getLast? _ hlast).symm⟩
    · rw [dropFinalBreak, if_neg hlast] at h
      exact ⟨p, h, .inl rfl⟩
  · rintro ⟨w, hw, rfl | rfl⟩
    · have hlast : p.getLast? ≠ some '\n' :=
        fun hl ↦ notMem_of_isWord hw (List.mem_of_getLast? hl)
      rwa [dropFinalBreak, if_neg hlast]
    · simpa [dropFinalBreak] using hw

/-- No part holds a dot or a double quote. -/
theorem IsPart.notMem (h : IsPart p) : '.' ∉ p ∧ '"' ∉ p :=
  ⟨notMem_of_isPlain (isPlain_iff.mpr h) rfl (by decide),
    notMem_of_isPlain (isPlain_iff.mpr h) rfl (by decide)⟩

/-! ## Names -/

/-- Parts that are put together with dots are taken apart at the dots. -/
theorem fields_intercalate (hne : ps ≠ []) (h : ∀ p ∈ ps, '.' ∉ p) :
    Text.fields '.' (['.'].intercalate ps) = ps := by
  induction ps with
  | nil => exact absurd rfl hne
  | cons p ps ih =>
    have hp := fields_eq_singleton (h p List.mem_cons_self)
    cases ps with
    | nil => simpa using hp
    | cons p' ps =>
      rw [List.intercalate_cons_cons, List.append_assoc, List.singleton_append, fields_append, hp,
        ih (by simp) fun r hr ↦ h r (List.mem_cons_of_mem _ hr)]
      rfl

theorem quote?_eq_some_iff : quote? s = some q ↔ Quotes s q := by
  have hs : s = dotted (Text.fields '.' s.toList) := by
    rw [dotted, intercalate_fields, String.ofList_toList]
  constructor
  · intro h
    rw [quote?] at h
    split at h
    · rename_i hall
      refine ⟨_, Text.fields_ne_nil '.' s.toList, ?_, hs, (Option.some.inj h).symm⟩
      intro p hp
      exact isPlain_iff.mp (List.all_eq_true.mp hall p hp)
    · cases h
  · rintro ⟨ps, hne, hparts, rfl, rfl⟩
    have hfields : Text.fields '.' (dotted ps).toList = ps := by
      rw [dotted, String.toList_ofList]
      exact fields_intercalate hne fun p hp ↦ (hparts p hp).notMem.1
    have hall : ps.all isPlain = true :=
      List.all_eq_true.mpr fun p hp ↦ isPlain_iff.mpr (hparts p hp)
    rw [quote?, hfields, if_pos hall]
    rfl

/-- Quoting gives the quoted form of a name that passes. -/
theorem quote_eq_ok_iff : quote context d = .ok q ↔ ∃ s, d = .text s ∧ Quotes s q := by
  constructor
  · intro h
    cases d with
    | text s => exact ⟨s, rfl, quote?_eq_some_iff.mp (quote_eq_ok.mp h)⟩
    | _ => cases h
  · rintro ⟨s, rfl, h⟩
    exact quote_eq_ok.mpr (quote?_eq_some_iff.mpr h)

/-- What has no quoted form is refused. -/
theorem quote_eq_error (h : ∀ s q, d = .text s → ¬Quotes s q) :
    quote context d = .error (.builder (.badIdentifier context d)) := by
  cases d with
  | text s =>
    rw [quote]
    cases hq : quote? s with
    | none => rfl
    | some q => exact absurd (quote?_eq_some_iff.mp hq) (h s q rfl)
  | _ => rfl

/-- Without the quotes, parts that hold none of them are left. -/
theorem filter_intercalate (h : ∀ p ∈ ps, '"' ∉ p) :
    (['.'].intercalate (ps.map inQuotes)).filter (· ≠ '"') = ['.'].intercalate ps := by
  have hpart : ∀ p ∈ ps, (inQuotes p).filter (· ≠ '"') = p := by
    intro p hp
    have hself : ∀ c ∈ p, ¬c = '"' := fun c hc e ↦ h p hp (e ▸ hc)
    simpa [inQuotes] using hself
  induction ps with
  | nil => rfl
  | cons p ps ih =>
    cases ps with
    | nil => simpa using hpart p List.mem_cons_self
    | cons p' ps =>
      have hrest := ih (fun r hr ↦ h r (List.mem_cons_of_mem _ hr))
        fun r hr ↦ hpart r (List.mem_cons_of_mem _ hr)
      rw [List.map_cons, List.map_cons, List.intercalate_cons_cons, List.filter_append,
        List.filter_append, hpart p List.mem_cons_self, ← List.map_cons, hrest,
        List.intercalate_cons_cons]
      rfl

/-- The name is read back from its quoted form. -/
theorem Quotes.withoutQuotes_eq (h : Quotes s q) : withoutQuotes q = s := by
  obtain ⟨ps, -, hparts, rfl, rfl⟩ := h
  rw [withoutQuotes, dotted, String.toList_ofList,
    filter_intercalate fun p hp ↦ (hparts p hp).notMem.2]
  rfl

/-- The characters of parts with dots between them are dots and those of the parts. -/
theorem mem_intercalate_iff {c : Char} (hne : ps ≠ []) (hc : c ≠ '.') :
    c ∈ ['.'].intercalate ps ↔ ∃ p ∈ ps, c ∈ p := by
  induction ps with
  | nil => exact absurd rfl hne
  | cons p ps ih =>
    cases ps with
    | nil => simp
    | cons p' ps =>
      rw [List.intercalate_cons_cons, List.mem_append, List.mem_append, ih (by simp)]
      simp [hc]

/-- The dotted plain names are the names without a line break that have a quoted form. -/
theorem isDotted_iff : IsDotted s ↔ (∃ q, Quotes s q) ∧ '\n' ∉ s.toList := by
  constructor
  · rintro ⟨ps, hne, hwords, rfl⟩
    refine ⟨⟨_, ps, hne, fun p hp ↦ ⟨p, hwords p hp, .inl rfl⟩, rfl, rfl⟩, ?_⟩
    rw [dotted, String.toList_ofList, mem_intercalate_iff hne (by decide)]
    rintro ⟨p, hp, hc⟩
    exact notMem_of_isWord (hwords p hp) hc
  · rintro ⟨⟨q, ps, hne, hparts, rfl, -⟩, hbreak⟩
    rw [dotted, String.toList_ofList, mem_intercalate_iff hne (by decide)] at hbreak
    refine ⟨ps, hne, fun p hp ↦ ?_, rfl⟩
    obtain ⟨w, hw, rfl | rfl⟩ := hparts p hp
    · exact hw
    · exact absurd ⟨_, hp, by simp⟩ hbreak

/-- Quoting does what it is for wherever no name with a line break is let through. -/
theorem quotedExactly_iff :
    QuotedExactly context d ↔ ∀ s q, d = .text s → Quotes s q → '\n' ∉ s.toList := by
  constructor
  · rintro ⟨-, hrefused⟩ s q rfl hq hbreak
    have hdotted : ¬IsDotted s := fun h ↦ (isDotted_iff.mp h).2 hbreak
    have herror := hrefused fun s' hs ↦ Datum.text.inj hs ▸ hdotted
    rw [quote_eq_ok_iff.mpr ⟨s, rfl, hq⟩] at herror
    cases herror
  · intro h
    constructor
    · rintro ps hne hwords rfl
      have hq : Quotes (dotted ps) (dotted (ps.map inQuotes)) :=
        ⟨ps, hne, fun p hp ↦ ⟨p, hwords p hp, .inl rfl⟩, rfl, rfl⟩
      exact ⟨quote_eq_ok_iff.mpr ⟨_, rfl, hq⟩, hq.withoutQuotes_eq⟩
    · intro hdotted
      refine quote_eq_error fun s q hs hq ↦ hdotted s hs ?_
      exact isDotted_iff.mpr ⟨⟨q, hq⟩, h s q hs hq⟩

end RecordStore.Sql
