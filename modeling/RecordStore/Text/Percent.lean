import RecordStore.Text.Hex
import RecordStore.Text.Utf8

/-!
# Percent encoding

Texts in which every byte but those of plain characters is written as a percent sign and two
hexadecimal digits.  Reading leaves a percent sign alone that no two digits follow.
-/

namespace RecordStore.Text.Percent

/-- Does a byte stand for itself?  Those of the ASCII letters and digits and of `_`, `.`, `-` and
`~` do. -/
def isPlain (b : UInt8) : Bool :=
  let c := Char.ofNat b.toNat
  b < 0x80 && (c.isAlphanum || c == '_' || c == '.' || c == '-' || c == '~')

/-- The encoded form of a byte. -/
def encodeByte (b : UInt8) : List Char :=
  if isPlain b then [Char.ofNat b.toNat] else '%' :: (hexDigits 2 b.toNat).map Char.toUpper

/-- The encoded form of bytes. -/
def encodeBytes (bs : List UInt8) : String := String.ofList (bs.flatMap encodeByte)

/-- The encoded form of a text. -/
def encode (s : String) : String := encodeBytes (Utf8.encode s.toList)

/-- The bytes that an encoded text stands for. -/
def bytes : List Char → List UInt8
  | '%' :: a :: b :: rest => match ofHex? [a, b] with
    | some n => n.toUInt8 :: bytes rest
    | none => 0x25 :: bytes (a :: b :: rest)
  | c :: rest => String.utf8EncodeChar c ++ bytes rest
  | [] => []

/-- The text of an encoded one. -/
def decode (s : String) : String := String.ofList (Utf8.decode (bytes s.toList))

end RecordStore.Text.Percent
