import Mathlib.Tactic.IntervalCases
import Mathlib.Tactic.SplitIfs
import RecordStore.Text.Percent

/-!
# Encoded texts are read back

A percent-encoded text is read as the text it was made of, whatever characters that holds, and it
holds no character but ASCII letters, digits and five signs.

* `Utf8.decode_encode` reads the bytes of a text.  The bytes of one character are read in front of
  any others, with one case for each number of them.
* `Percent.decode_encode` is the first half of the statement above, `Percent.mem_encode` the second.
-/

namespace RecordStore.Text

namespace Utf8

variable {b : UInt8} {bs : List UInt8} {low high bits : Nat}

/-- A first byte gives what it gives, and leaves the character it begins under way. -/
theorem decodeFrom_none (b : UInt8) (bs : List UInt8) :
    decodeFrom none (b :: bs) =
      (first b.toNat).1 ++ decodeFrom (first b.toNat).2 bs := rfl

/-- A byte in the range that the character under way leaves it, with more of them to come. -/
theorem decodeFrom_continued (missing : Nat) (hl : low ≤ b.toNat) (hh : b.toNat ≤ high) :
    decodeFrom (some ⟨missing + 2, low, high, bits⟩) (b :: bs) =
      decodeFrom (some (.next (missing + 1) (64 * bits + (b.toNat - 0x80)))) bs := by
  simp [decodeFrom, step, hl, hh]

/-- The last byte of the character under way. -/
theorem decodeFrom_last (hl : low ≤ b.toNat) (hh : b.toNat ≤ high) :
    decodeFrom (some ⟨1, low, high, bits⟩) (b :: bs) =
      Char.ofNat (64 * bits + (b.toNat - 0x80)) :: decodeFrom none bs := by
  simp [decodeFrom, step, hl, hh]

/-- A byte that has six bits of a character. -/
def continuation (n : Nat) : UInt8 := UInt8.ofNat (n % 64 + 128)

@[simp] theorem toNat_continuation (n : Nat) : (continuation n).toNat = n % 64 + 128 := by
  simp only [continuation, UInt8.toNat_ofNat']
  omega

/-- The first byte of two. -/
theorem first_two {n : Nat} (h₁ : 2 ≤ n) (h₂ : n < 32) :
    first (n + 192) = ([], some (.next 1 n)) := by
  simp only [first]
  rw [if_neg (by omega), if_neg (by omega), if_pos (by omega)]
  simp

/-- The first byte of three keeps the second one from writing what two bytes can write and what
is no character. -/
theorem first_three {n : Nat} (h : n < 16) :
    first (n + 224) = ([], some ⟨2, if n = 0 then 0xa0 else 0x80,
      if n = 13 then 0x9f else 0xbf, n⟩) := by
  interval_cases n <;> rfl

/-- The first byte of four keeps the second one from writing what three bytes can write and what
lies beyond the last character. -/
theorem first_four {n : Nat} (h : n < 5) :
    first (n + 240) = ([], some ⟨3, if n = 0 then 0x90 else 0x80,
      if n = 4 then 0x8f else 0xbf, n⟩) := by
  interval_cases n <;> rfl

/-- A byte of its own is read as the character it encodes. -/
theorem decodeFrom_one {n : Nat} (h : n < 0x80) :
    decodeFrom none (UInt8.ofNat n :: bs) = Char.ofNat n :: decodeFrom none bs := by
  have hb : (UInt8.ofNat n).toNat = n := by
    simp only [UInt8.toNat_ofNat']
    omega
  have hf : first n = ([Char.ofNat n], none) := by simp [first, h]
  rw [decodeFrom_none, hb, hf, List.singleton_append]

/-- Two bytes are read as the character they encode. -/
theorem decodeFrom_two {n : Nat} (h₁ : 0x80 ≤ n) (h₂ : n < 0x800) :
    decodeFrom none (UInt8.ofNat (n / 64 % 32 + 192) :: continuation n :: bs) =
      Char.ofNat n :: decodeFrom none bs := by
  have hb : (UInt8.ofNat (n / 64 % 32 + 192)).toNat = n / 64 + 192 := by
    simp only [UInt8.toNat_ofNat']
    omega
  have hn : 64 * (n / 64) + (n % 64 + 128 - 128) = n := by omega
  rw [decodeFrom_none, hb, first_two (by omega) (by omega), List.nil_append, Pending.next,
    decodeFrom_last (by simp) (by simp; omega), toNat_continuation, hn]

/-- Three bytes are read as the character they encode. -/
theorem decodeFrom_three {n : Nat} (h₁ : 0x800 ≤ n) (h₂ : n < 0x10000)
    (hv : n < 0xd800 ∨ 0xdfff < n) :
    decodeFrom none
        (UInt8.ofNat (n / 4096 % 16 + 224) :: continuation (n / 64) :: continuation n :: bs) =
      Char.ofNat n :: decodeFrom none bs := by
  have hb : (UInt8.ofNat (n / 4096 % 16 + 224)).toNat = n / 4096 + 224 := by
    simp only [UInt8.toNat_ofNat']
    omega
  have hn : 64 * (64 * (n / 4096) + (n / 64 % 64 + 128 - 128)) + (n % 64 + 128 - 128) = n := by
    omega
  rw [decodeFrom_none, hb, first_three (by omega), List.nil_append,
    decodeFrom_continued 0 (by rw [toNat_continuation]; split_ifs <;> omega)
      (by rw [toNat_continuation]; split_ifs <;> omega),
    Pending.next, decodeFrom_last (by simp) (by simp; omega), toNat_continuation,
    toNat_continuation, hn]

/-- Four bytes are read as the character they encode. -/
theorem decodeFrom_four {n : Nat} (h₁ : 0x10000 ≤ n) (h₂ : n < 0x110000) :
    decodeFrom none
        (UInt8.ofNat (n / 262144 % 8 + 240) :: continuation (n / 4096) :: continuation (n / 64) ::
          continuation n :: bs) =
      Char.ofNat n :: decodeFrom none bs := by
  have hb : (UInt8.ofNat (n / 262144 % 8 + 240)).toNat = n / 262144 + 240 := by
    simp only [UInt8.toNat_ofNat']
    omega
  have hn : 64 * (64 * (64 * (n / 262144) + (n / 4096 % 64 + 128 - 128)) +
      (n / 64 % 64 + 128 - 128)) + (n % 64 + 128 - 128) = n := by omega
  rw [decodeFrom_none, hb, first_four (by omega), List.nil_append,
    decodeFrom_continued 1 (by rw [toNat_continuation]; split_ifs <;> omega)
      (by rw [toNat_continuation]; split_ifs <;> omega),
    Pending.next, decodeFrom_continued 0 (by simp) (by simp; omega),
    Pending.next, decodeFrom_last (by simp) (by simp; omega), toNat_continuation,
    toNat_continuation, toNat_continuation, hn]

/-- The bytes of a character are read as this character, whatever follows them. -/
theorem decodeFrom_utf8EncodeChar (c : Char) (bs : List UInt8) :
    decodeFrom none (String.utf8EncodeChar c ++ bs) = c :: decodeFrom none bs := by
  have hv : c.val.toNat < 0xd800 ∨ 0xdfff < c.val.toNat ∧ c.val.toNat < 0x110000 := c.valid
  have hc : Char.ofNat c.val.toNat = c := Char.ofNat_toNat c
  simp only [String.utf8EncodeChar]
  generalize c.val.toNat = n at hv hc
  rw [← hc]
  split_ifs with h₁ h₂ h₃
  · exact decodeFrom_one (by omega)
  · exact decodeFrom_two (by omega) (by omega)
  · exact decodeFrom_three (by omega) (by omega) (by omega)
  · exact decodeFrom_four (by omega) (by omega)

/-- The bytes of a text are read as this text. -/
theorem decode_encode (cs : List Char) : decode (encode cs) = cs := by
  induction cs with
  | nil => rfl
  | cons c cs ih =>
    calc decode (encode (c :: cs))
        = decodeFrom none (String.utf8EncodeChar c ++ encode cs) := by simp [decode, encode]
      _ = c :: decode (encode cs) := decodeFrom_utf8EncodeChar c _
      _ = c :: cs := by rw [ih]

end Utf8

/-! ## Letters and digits -/

theorem isUpper_iff {c : Char} : c.isUpper = true ↔ 65 ≤ c.toNat ∧ c.toNat ≤ 90 :=
  decide_eq_true_iff

theorem isLower_iff {c : Char} : c.isLower = true ↔ 97 ≤ c.toNat ∧ c.toNat ≤ 122 :=
  Bool.and_eq_true_iff.trans (and_congr decide_eq_true_iff decide_eq_true_iff)

theorem isDigit_iff {c : Char} : c.isDigit = true ↔ 48 ≤ c.toNat ∧ c.toNat ≤ 57 :=
  Bool.and_eq_true_iff.trans (and_congr decide_eq_true_iff decide_eq_true_iff)

theorem isAlphanum_iff {c : Char} :
    c.isAlphanum = true ↔ (c.isUpper = true ∨ c.isLower = true) ∨ c.isDigit = true :=
  Bool.or_eq_true_iff.trans (or_congr_left Bool.or_eq_true_iff)

/-! ## Percent signs -/

/-- The two digits of a byte. -/
theorem hexDigits_two {n : Nat} (h : n < 256) :
    hexDigits 2 n = [hexDigit (n / 16), hexDigit (n % 16)] := by
  simp [hexDigits, show n / 16 % 16 = n / 16 by omega]

/-- A digit in upper case keeps its value. -/
theorem hexValue?_toUpper_hexDigit {d : Nat} (h : d < 16) :
    hexValue? (hexDigit d).toUpper = some d := by
  interval_cases d <;> rfl

/-- The digits of a byte in upper case write this byte. -/
theorem ofHex?_upper {n : Nat} (h : n < 256) :
    ofHex? [(hexDigit (n / 16)).toUpper, (hexDigit (n % 16)).toUpper] = some n := by
  have hn : 16 * (n / 16) + n % 16 = n := by omega
  simp [ofHex?, hexValue?_toUpper_hexDigit (show n / 16 < 16 by omega),
    hexValue?_toUpper_hexDigit (show n % 16 < 16 by omega), hn]

namespace Percent

/-- Can the character stand in an encoded text? -/
def isWritten (c : Char) : Bool :=
  c.isAlphanum || c == '_' || c == '.' || c == '-' || c == '~' || c == '%'

/-- An encoded byte is a plain character or two digits behind a percent sign. -/
theorem encodeByte_eq (b : UInt8) :
    (isPlain b = true ∧ encodeByte b = [Char.ofNat b.toNat]) ∨
      encodeByte b =
        ['%', (hexDigit (b.toNat / 16)).toUpper, (hexDigit (b.toNat % 16)).toUpper] := by
  by_cases h : isPlain b = true
  · exact .inl ⟨h, by simp [encodeByte, h]⟩
  · exact .inr (by simp [encodeByte, h, hexDigits_two b.toNat_lt])

/-- A plain character is an ASCII character other than the percent sign. -/
theorem bytes_plain {b : UInt8} (h : isPlain b = true) (rest : List Char) :
    bytes (Char.ofNat b.toNat :: rest) = b :: bytes rest := by
  simp only [isPlain, Bool.and_eq_true, decide_eq_true_eq] at h
  have hb : b.toNat < 0x80 := h.1
  have hv : (Char.ofNat b.toNat).val.toNat = b.toNat := by
    have valid : b.toNat.isValidChar := .inl (by omega)
    rw [Char.ofNat, dif_pos valid]
    rfl
  have hp : Char.ofNat b.toNat ≠ '%' := by
    intro hp
    simp [hp] at h
  rw [bytes, String.utf8EncodeChar]
  · simp [hv, show b.toNat ≤ 127 by omega]
  · simp [hp]

/-- An encoded byte is read as this byte, whatever follows it. -/
theorem bytes_encodeByte (b : UInt8) (rest : List Char) :
    bytes (encodeByte b ++ rest) = b :: bytes rest := by
  rcases encodeByte_eq b with ⟨h, e⟩ | e
  · rw [e, List.singleton_append, bytes_plain h]
  · rw [e, List.cons_append, List.cons_append, List.cons_append, List.nil_append, bytes,
      ofHex?_upper b.toNat_lt]
    simp

/-- Encoded bytes are read as these bytes. -/
theorem bytes_flatMap_encodeByte (bs : List UInt8) : bytes (bs.flatMap encodeByte) = bs := by
  induction bs with
  | nil => rfl
  | cons b bs ih => rw [List.flatMap_cons, bytes_encodeByte, ih]

/-- An encoded text is read as this text. -/
theorem decode_encode (s : String) : decode (encode s) = s := by
  simp only [decode, encode, encodeBytes, String.toList_ofList]
  rw [bytes_flatMap_encodeByte, Utf8.decode_encode, String.ofList_toList]

/-- Only an empty text is encoded as an empty one. -/
theorem encode_eq_empty_iff {s : String} : encode s = "" ↔ s = "" := by
  constructor
  · intro h
    rw [← decode_encode s, h]
    rfl
  · rintro rfl
    rfl

theorem isWritten_of_mem_encodeByte {b : UInt8} {c : Char} (h : c ∈ encodeByte b) :
    isWritten c = true := by
  rcases encodeByte_eq b with ⟨hb, e⟩ | e
  · obtain rfl : c = Char.ofNat b.toNat := by simpa [e] using h
    simp only [isPlain, Bool.and_eq_true, decide_eq_true_eq] at hb
    simp only [isWritten, hb.2, Bool.true_or]
  · have digit : ∀ d < 16, isWritten (hexDigit d).toUpper = true := by decide
    rw [e] at h
    simp only [List.mem_cons, List.not_mem_nil, or_false] at h
    rcases h with rfl | rfl | rfl
    · rfl
    · exact digit _ (by have := b.toNat_lt; omega)
    · exact digit _ (by omega)

/-- The characters of an encoded text are ASCII letters and digits and five signs. -/
theorem isWritten_of_mem_encode {s : String} {c : Char} (h : c ∈ (encode s).toList) :
    isWritten c = true := by
  simp only [encode, encodeBytes, String.toList_ofList, List.mem_flatMap] at h
  obtain ⟨b, -, hb⟩ := h
  exact isWritten_of_mem_encodeByte hb

/-- The characters of an encoded text are visible ASCII characters. -/
theorem toNat_of_isWritten {c : Char} (h : isWritten c = true) :
    0x20 < c.toNat ∧ c.toNat < 0x7f := by
  simp only [isWritten, Bool.or_eq_true, beq_iff_eq, isAlphanum_iff, isUpper_iff, isLower_iff,
    isDigit_iff] at h
  rcases h with ((((h | rfl) | rfl) | rfl) | rfl) | rfl
  · omega
  all_goals decide

end Percent

end RecordStore.Text
