import Mathlib.Data.List.TakeWhile
import RecordStore.Config.Url
import RecordStore.Proofs.Outcome
import RecordStore.Proofs.Text.Percent

/-!
# Reading an authority back

An authority that is put together from encoded parts is taken apart into the same parts, and a URL
that is put together from such an authority, a path and a query into this authority and this path.

* `Authority` is what stands between the two slashes and the path, `Authority.chars` how it is
  written.
* `Authority.Clear` says that the parts hold none of the separators.  From it come `user_chars`,
  `password_chars` and `hostAndPort_chars`.
* `parse?_chars` is the second half of the statement above.
-/

namespace RecordStore

namespace Text

variable {c : Char} {before after cs : List Char}

/-- A text is cut at the first place where the character stands. -/
theorem cut_append (h : c ∉ before) : cut c (before ++ c :: after) = (before, some after) := by
  have hp : ∀ x ∈ before, decide (x ≠ c) = true := fun x hx ↦ by
    simpa using fun e : x = c ↦ h (e ▸ hx)
  have hd : (before ++ c :: after).dropWhile (· ≠ c) = c :: after := by
    rw [List.dropWhile_append_of_pos hp]
    simp
  have ht : (before ++ c :: after).takeWhile (· ≠ c) = before := by
    rw [List.takeWhile_append_of_pos hp]
    simp
  rw [cut, hd, ht]

/-- A text without the character is not cut. -/
theorem cut_eq_self (h : c ∉ cs) : cut c cs = (cs, none) := by
  have hd : cs.dropWhile (· ≠ c) = [] :=
    List.dropWhile_eq_nil_iff.mpr fun x hx ↦ by simpa using fun e : x = c ↦ h (e ▸ hx)
  rw [cut, hd]

/-- What stands before the cut. -/
theorem cut_fst (c : Char) (cs : List Char) : (cut c cs).1 = cs.takeWhile (· ≠ c) := by
  unfold cut
  split
  · rename_i h
    exact (List.takeWhile_eq_self_iff.mpr (List.dropWhile_eq_nil_iff.mp h)).symm
  · rfl

/-- A text is cut for the last time at the last place where the character stands. -/
theorem cutLast_append (h : c ∉ after) :
    cutLast c (before ++ c :: after) = (some before, after) := by
  have hr : (before ++ c :: after).reverse = after.reverse ++ c :: before.reverse := by simp
  rw [cutLast, hr, cut_append (by simpa using h)]
  simp

/-- A text without the character has no last place to be cut at. -/
theorem cutLast_eq_self (h : c ∉ cs) : cutLast c cs = (none, cs) := by
  rw [cutLast, cut_eq_self (by simpa using h)]
  simp

end Text

/-- What stands between the slashes and the path of a URL. -/
structure Authority where
  user : List Char
  password : Option (List Char)
  host : List Char
  port : List Char

namespace Authority

/-- The password behind its colon. -/
def passwordPart (a : Authority) : List Char := a.password.elim [] (':' :: ·)

/-- The user's name and the password. -/
def credentials (a : Authority) : List Char := a.user ++ a.passwordPart

/-- Host and port with a colon between them. -/
def place (a : Authority) : List Char := a.host ++ ':' :: a.port

/-- The credentials with the sign that ends them; nothing where there are none. -/
def signed (a : Authority) : List Char :=
  if a.credentials = [] then [] else a.credentials ++ ['@']

/-- The authority as it is written. -/
def chars (a : Authority) : List Char := a.signed ++ a.place

/-- Can the character stand in an authority?  The characters of an encoded text can, and the two
separators inside an authority. -/
def isWritten (c : Char) : Bool := Text.Percent.isWritten c || c == ':' || c == '@'

/-- The characters of an authority are visible ASCII characters. -/
theorem toNat_of_isWritten {c : Char} (h : isWritten c = true) :
    0x20 < c.toNat ∧ c.toNat < 0x7f := by
  simp only [isWritten, Bool.or_eq_true, beq_iff_eq] at h
  rcases h with (h | rfl) | rfl
  · exact Text.Percent.toNat_of_isWritten h
  all_goals decide

/-- The parts are encoded texts. -/
structure Clear (a : Authority) : Prop where
  user : ∀ c ∈ a.user, Text.Percent.isWritten c = true
  password : ∀ p ∈ a.password, ∀ c ∈ p, Text.Percent.isWritten c = true
  host : ∀ c ∈ a.host, Text.Percent.isWritten c = true
  port : ∀ c ∈ a.port, Text.Percent.isWritten c = true

variable {a : Authority}

/-- A character that no encoded text holds does not occur in one. -/
theorem notMem_of_isWritten {cs : List Char} (h : ∀ c ∈ cs, Text.Percent.isWritten c = true)
    {c : Char} (hc : Text.Percent.isWritten c = false) : c ∉ cs := by
  intro hm
  simp [h c hm] at hc

theorem Clear.mem_place (h : a.Clear) {c : Char} (hc : c ∈ a.place) :
    Text.Percent.isWritten c = true ∨ c = ':' := by
  simp only [place, List.mem_append, List.mem_cons] at hc
  rcases hc with hc | rfl | hc
  · exact .inl (h.host c hc)
  · exact .inr rfl
  · exact .inl (h.port c hc)

theorem Clear.mem_credentials (h : a.Clear) {c : Char} (hc : c ∈ a.credentials) :
    Text.Percent.isWritten c = true ∨ c = ':' := by
  simp only [credentials, passwordPart, List.mem_append] at hc
  rcases hc with hc | hc
  · exact .inl (h.user c hc)
  · cases hp : a.password with
    | none => simp [hp] at hc
    | some p =>
      rcases List.mem_cons.mp (hp ▸ hc) with rfl | hc
      · exact .inr rfl
      · exact .inl (h.password p hp c hc)

/-- The characters of an authority are those of encoded texts and the two separators. -/
theorem Clear.isWritten (h : a.Clear) {c : Char} (hc : c ∈ a.chars) : isWritten c = true := by
  have encoded : Text.Percent.isWritten c = true ∨ c = ':' ∨ c = '@' := by
    rcases List.mem_append.mp hc with hc | hc
    · rw [signed] at hc
      split_ifs at hc
      · cases hc
      · rcases List.mem_append.mp hc with hc | hc
        · exact (h.mem_credentials hc).imp_right .inl
        · exact .inr (.inr (by simpa using hc))
    · exact (h.mem_place hc).imp_right .inl
  rcases encoded with h | rfl | rfl
  · simp [Authority.isWritten, h]
  · rfl
  · rfl

/-- The last sign `@` stands between the credentials and the place. -/
theorem Clear.cutLast_chars (h : a.Clear) :
    (Text.cutLast '@' a.chars).1.getD [] = a.credentials ∧
      (Text.cutLast '@' a.chars).2 = a.place := by
  have hp : '@' ∉ a.place := by
    intro hm
    rcases h.mem_place hm with hw | hw <;> revert hw <;> decide
  by_cases he : a.credentials = []
  · have hc : a.chars = a.place := by simp [chars, signed, he]
    rw [hc, Text.cutLast_eq_self hp]
    exact ⟨he.symm, rfl⟩
  · have hc : a.chars = a.credentials ++ '@' :: a.place := by simp [chars, signed, he]
    rw [hc, Text.cutLast_append hp]
    exact ⟨rfl, rfl⟩

/-- The first colon of the credentials stands between user and password. -/
theorem Clear.cut_credentials (h : a.Clear) :
    Text.cut ':' a.credentials = (a.user, a.password) := by
  have hu : ':' ∉ a.user := notMem_of_isWritten h.user rfl
  cases hp : a.password with
  | none =>
    have hc : a.credentials = a.user := by simp [credentials, passwordPart, hp]
    rw [hc, Text.cut_eq_self hu]
  | some p =>
    have hc : a.credentials = a.user ++ ':' :: p := by simp [credentials, passwordPart, hp]
    rw [hc, Text.cut_append hu]

end Authority

namespace Url

variable {a : Authority} {scheme : String} {path options : List Char}

theorem user_chars (h : a.Clear) : (⟨scheme, a.chars, path⟩ : Url).user = String.ofList a.user := by
  simp only [user, userPart]
  rw [h.cutLast_chars.1, h.cut_credentials]

theorem password_chars (h : a.Clear) :
    (⟨scheme, a.chars, path⟩ : Url).password = String.ofList (a.password.getD []) := by
  simp only [password, userPart]
  rw [h.cutLast_chars.1, h.cut_credentials]

theorem hostAndPort_chars (h : a.Clear) :
    (⟨scheme, a.chars, path⟩ : Url).hostAndPort = (a.host, a.port) := by
  have hb : '[' ∉ a.place := by
    intro hm
    rcases h.mem_place hm with hw | hw <;> revert hw <;> decide
  have hc : ':' ∉ a.host := Authority.notMem_of_isWritten h.host rfl
  simp only [hostAndPort, hostPart]
  rw [h.cutLast_chars.2, Text.cut_eq_self hb]
  simp only [Authority.place]
  rw [Text.cut_append hc]
  rfl

theorem checkBrackets?_chars (h : a.Clear) : checkBrackets? a.chars = .ok () := by
  have hl : '[' ∉ a.chars := fun hm ↦ absurd (h.isWritten hm) (by decide)
  have hr : ']' ∉ a.chars := fun hm ↦ absurd (h.isWritten hm) (by decide)
  simp [checkBrackets?, hl, hr]

theorem checkLookalikes?_chars (h : a.Clear) : checkLookalikes? a.chars = .ok () := by
  have beyond : ∀ n ∈ lookalikes, 0x80 ≤ n := by decide
  have hl : (a.chars.any fun c ↦ lookalikes.contains c.toNat) = false := by
    simp only [List.any_eq_false, List.contains_iff_mem]
    intro c hc hm
    have := beyond _ hm
    have := Authority.toNat_of_isWritten (h.isWritten hc)
    omega
  rw [checkLookalikes?, hl]
  rfl

/-- The authority behind two slashes ends where the path begins. -/
theorem takeAuthority_chars (h : a.Clear) (rest : List Char) :
    takeAuthority ('/' :: '/' :: (a.chars ++ '/' :: rest)) = (a.chars, '/' :: rest) := by
  have hp : ∀ c ∈ a.chars, (!endsAuthority c) = true := by
    intro c hc
    have hw := h.isWritten hc
    simp only [endsAuthority, Bool.not_eq_true', Bool.or_eq_false_iff, beq_eq_false_iff_ne]
    refine ⟨⟨?_, ?_⟩, ?_⟩ <;> rintro rfl <;> exact absurd hw (by decide)
  simp only [takeAuthority]
  rw [List.takeWhile_append_of_pos hp, List.dropWhile_append_of_pos hp]
  simp [endsAuthority]

/-- The path ends where the options begin. -/
theorem path_append (hp : ∀ c ∈ path, Text.Percent.isWritten c = true)
    (ho : ∀ c ∈ options.head?, c = '?') :
    (Text.cut '?' (Text.cut '#' ('/' :: path ++ options)).1).1 = '/' :: path := by
  have absent : ∀ x : Char, Text.Percent.isWritten x = false → x ≠ '/' →
      ∀ c ∈ '/' :: path, decide (c ≠ x) = true := by
    intro x hx hs c hc
    rw [decide_eq_true_eq]
    rintro rfl
    rcases List.mem_cons.mp hc with rfl | hc
    · exact hs rfl
    · exact Authority.notMem_of_isWritten hp hx hc
  have he : (options.takeWhile (· ≠ '#')).takeWhile (· ≠ '?') = [] := by
    cases options with
    | nil => rfl
    | cons c options =>
      obtain rfl : c = '?' := ho c rfl
      simp
  rw [Text.cut_fst, Text.cut_fst, List.takeWhile_append_of_pos (absent '#' rfl (by decide)),
    List.takeWhile_append_of_pos (absent '?' rfl (by decide)), he, List.append_nil]

/-- No visible character is left out of a URL. -/
theorem filter_visible {cs : List Char} (h : ∀ c ∈ cs, 0x20 < c.toNat) :
    cs.filter (!isDropped ·) = cs := by
  rw [List.filter_eq_self]
  intro c hc
  have hv := h c hc
  simp only [isDropped, Bool.not_eq_true', Bool.or_eq_false_iff, beq_eq_false_iff_ne]
  refine ⟨⟨?_, ?_⟩, ?_⟩ <;> rintro rfl <;> exact absurd hv (by decide)

/-- What is left out of a URL leaves the start of the options alone. -/
theorem head?_filter_options (ho : ∀ c ∈ options.head?, c = '?') :
    ∀ c ∈ (options.filter (!isDropped ·)).head?, c = '?' := by
  cases options with
  | nil => simp
  | cons c options =>
    obtain rfl : c = '?' := ho c rfl
    simp [isDropped]

/-- The scheme of a URL, with its colon and the slashes. -/
def start : List Char :=
  ['p', 'o', 's', 't', 'g', 'r', 'e', 's', 'q', 'l', ':', '/', '/']

/-- A URL as it is put together. -/
def written (a : Authority) (path options : List Char) : List Char :=
  start ++ (a.chars ++ ('/' :: path ++ options))

/-- Of a URL that is put together so, nothing is left out but in its options. -/
theorem filter_written (h : a.Clear) (hp : ∀ c ∈ path, Text.Percent.isWritten c = true) :
    ((written a path options).dropWhile isLeading).filter (!isDropped ·) =
      written a path (options.filter (!isDropped ·)) := by
  have hd : (written a path options).dropWhile isLeading = written a path options :=
    List.dropWhile_cons_of_neg (by decide)
  have hs : start.filter (!isDropped ·) = start := rfl
  have hc : a.chars.filter (!isDropped ·) = a.chars :=
    filter_visible fun c hc ↦ (Authority.toNat_of_isWritten (h.isWritten hc)).1
  have hf : ('/' :: path).filter (!isDropped ·) = '/' :: path := by
    apply filter_visible
    intro c hc
    rcases List.mem_cons.mp hc with rfl | hc
    · decide
    · exact (Text.Percent.toNat_of_isWritten (hp c hc)).1
  rw [hd, written, List.filter_append, List.filter_append, List.filter_append, hs, hc, hf, written]

/-- The scheme of a URL ends at the first colon. -/
theorem takeScheme_written : takeScheme (written a path options) =
    ("postgresql", '/' :: '/' :: (a.chars ++ ('/' :: path ++ options))) := by
  have hc : Text.cut ':' (written a path options) =
      (start.take 10, some ('/' :: '/' :: (a.chars ++ ('/' :: path ++ options)))) :=
    Text.cut_append (show ':' ∉ start.take 10 by decide)
  rw [takeScheme, hc]
  rfl

/-- A URL is read as the authority and the path that it is put together from. -/
theorem parse?_written (h : a.Clear) (hp : ∀ c ∈ path, Text.Percent.isWritten c = true)
    (ho : ∀ c ∈ options.head?, c = '?') :
    parse? (String.ofList (written a path options)) = .ok ⟨"postgresql", a.chars, '/' :: path⟩ := by
  simp only [parse?, String.toList_ofList]
  rw [filter_written h hp, takeScheme_written]
  simp only [List.cons_append, takeAuthority_chars h]
  rw [checkBrackets?_chars h, checkLookalikes?_chars h, ← List.cons_append,
    path_append hp (head?_filter_options ho)]
  rfl

end Url

end RecordStore
