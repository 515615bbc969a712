/-!
# Hexadecimal digits

Numbers and bytes in base sixteen, with a fixed count of digits.
-/

namespace RecordStore.Text

/-- The digit of a number below sixteen, in lower case. -/
def hexDigit (n : Nat) : Char := Nat.digitChar n

/-- The value of a digit of either case. -/
def hexValue? (c : Char) : Option Nat :=
  if '0' ≤ c ∧ c ≤ '9' then some (c.toNat - 48)
  else if 'a' ≤ c ∧ c ≤ 'f' then some (c.toNat - 87)
  else if 'A' ≤ c ∧ c ≤ 'F' then some (c.toNat - 55)
  else none

/-- The last `width` hexadecimal digits of a number, most significant first. -/
def hexDigits (width n : Nat) : List Char :=
  match width with
  | 0 => []
  | w + 1 => hexDigits w (n / 16) ++ [hexDigit (n % 16)]

@[simp] theorem length_hexDigits (w n : Nat) : (hexDigits w n).length = w := by
  induction w generalizing n with
  | zero => rfl
  | succ w ih => simp [hexDigits, ih]

/-- The number that hexadecimal digits write; none where another character stands. -/
def ofHex? (cs : List Char) : Option Nat :=
  cs.foldlM (fun n c => (hexValue? c).map (16 * n + ·)) 0

/-- Is the character ASCII white space? -/
def isAsciiBlank (c : Char) : Bool := c == ' ' || ('\t' ≤ c && c ≤ '\r')

/-- The bytes that pairs of hexadecimal digits write, or the place of the first character that is
out of order, counted from the given number; white space may stand between the pairs. -/
def bytesOfPairs (place : Nat) : List Char → Except Nat (List UInt8)
  | [] => .ok []
  | a :: rest =>
    if isAsciiBlank a then bytesOfPairs (place + 1) rest
    else match hexValue? a, rest with
      | none, _ => .error place
      | some _, [] => .error (place + 1)
      | some x, b :: rest => match hexValue? b with
        | none => .error (place + 1)
        | some y => (bytesOfPairs (place + 2) rest).map ((16 * x + y).toUInt8 :: ·)

/-- The bytes that pairs of hexadecimal digits write, or the place of the first character that is
out of order.  A character beyond ASCII is out of order before all others. -/
def bytesOfHex (cs : List Char) : Except Nat (List UInt8) :=
  match cs.findIdx? (0x80 ≤ ·.toNat) with
  | some place => .error place
  | none => bytesOfPairs 0 cs

/-- The bytes as pairs of hexadecimal digits. -/
def hexOfBytes (bs : List UInt8) : String :=
  String.ofList (bs.flatMap fun b => hexDigits 2 b.toNat)

end RecordStore.Text
