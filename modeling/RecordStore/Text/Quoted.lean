import RecordStore.Text.Hex
import RecordStore.Text.Printable

/-!
# Quoted texts

A text between quotation marks, as messages show it.  The marks are single ones unless the text
holds a single mark and no double one; the mark in use and the backslash are escaped, and so is
every character that is not printable.
-/

namespace RecordStore.Text

/-- The quotation mark for a text. -/
def quoteMark (cs : List Char) : Char :=
  if cs.contains '\'' && !cs.contains '"' then '"' else '\''

/-- The escape of a character by its code point, two, four or eight digits long. -/
def codeEscape (n : Nat) : List Char :=
  if n < 0x100 then ['\\', 'x'] ++ hexDigits 2 n
  else if n < 0x10000 then ['\\', 'u'] ++ hexDigits 4 n
  else ['\\', 'U'] ++ hexDigits 8 n

/-- A character between the given marks. -/
def quoteChar (mark c : Char) : List Char :=
  if c = mark ∨ c = '\\' then ['\\', c]
  else if c = '\n' then ['\\', 'n']
  else if c = '\r' then ['\\', 'r']
  else if c = '\t' then ['\\', 't']
  else if isPrintable c then [c]
  else codeEscape c.toNat

/-- A text between quotation marks. -/
def quoted (s : String) : String :=
  let mark := quoteMark s.toList
  String.ofList (mark :: s.toList.flatMap (quoteChar mark) ++ [mark])

/-- A byte between the given marks: only printable ASCII stands for itself. -/
def quoteByte (mark : Char) (b : UInt8) : List Char :=
  if b.toNat < 0x80 then quoteChar mark (Char.ofNat b.toNat) else codeEscape b.toNat

/-- Bytes between quotation marks, after the letter `b`. -/
def quotedBytes (bs : List UInt8) : String :=
  let mark := quoteMark (bs.map fun b => Char.ofNat b.toNat)
  String.ofList ('b' :: mark :: bs.flatMap (quoteByte mark) ++ [mark])

end RecordStore.Text
