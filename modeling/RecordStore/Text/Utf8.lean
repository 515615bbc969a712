/-!
# Reading UTF-8

`Utf8.decode` reads bytes as UTF-8 and puts the replacement character in the place of every
longest piece that begins no character or breaks one off.  It goes through the bytes once and
remembers the character that is under way.
-/

namespace RecordStore.Text.Utf8

/-- The character that stands for bytes that are no UTF-8. -/
def replacement : Char := Char.ofNat 0xfffd

/-- A character that is under way: how many bytes it lacks, the range of the next one, and the
bits so far. -/
structure Pending where
  missing : Nat
  low : Nat
  high : Nat
  bits : Nat
  deriving Inhabited

/-- A character under way whose next byte may be any continuation byte. -/
def Pending.next (missing bits : Nat) : Pending := ⟨missing, 0x80, 0xbf, bits⟩

/-- What the first byte of a character gives: the characters that are finished with it, and the
one that it begins. -/
def first (b : Nat) : List Char × Option Pending :=
  if b < 0x80 then ([Char.ofNat b], none)
  else if b < 0xc2 then ([replacement], none)
  else if b < 0xe0 then ([], some (.next 1 (b - 0xc0)))
  else if b = 0xe0 then ([], some ⟨2, 0xa0, 0xbf, 0⟩)
  else if b = 0xed then ([], some ⟨2, 0x80, 0x9f, 0xd⟩)
  else if b < 0xf0 then ([], some (.next 2 (b - 0xe0)))
  else if b = 0xf0 then ([], some ⟨3, 0x90, 0xbf, 0⟩)
  else if b < 0xf4 then ([], some (.next 3 (b - 0xf0)))
  else if b = 0xf4 then ([], some ⟨3, 0x80, 0x8f, 4⟩)
  else ([replacement], none)

/-- What one more byte gives. -/
def step (p : Option Pending) (b : Nat) : List Char × Option Pending :=
  match p with
  | none => first b
  | some p =>
    if p.low ≤ b ∧ b ≤ p.high then
      let bits := 64 * p.bits + (b - 0x80)
      if p.missing ≤ 1 then ([Char.ofNat bits], none)
      else ([], some (.next (p.missing - 1) bits))
    else
      let (cs, q) := first b
      (replacement :: cs, q)

/-- Reads bytes with a character under way. -/
def decodeFrom (p : Option Pending) : List UInt8 → List Char
  | [] => if p.isSome then [replacement] else []
  | b :: bs =>
    let (cs, q) := step p b.toNat
    cs ++ decodeFrom q bs

/-- Reads bytes. -/
def decode (bs : List UInt8) : List Char := decodeFrom none bs

/-- The bytes of a text. -/
def encode (cs : List Char) : List UInt8 := cs.flatMap String.utf8EncodeChar

end RecordStore.Text.Utf8
