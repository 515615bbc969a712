import RecordStore.Text.Hex

/-!
# Universally unique identifiers

Identifiers of 128 bits, written as 32 hexadecimal digits in five groups and ordered as numbers.
-/

namespace RecordStore

/-- An identifier of 128 bits. -/
structure Uuid where
  value : Nat
  deriving DecidableEq, Repr, Inhabited

namespace Uuid

/-- The groups of 8, 4, 4, 4 and 12 digits, in lower case. -/
def text (u : Uuid) : String :=
  let ds := Text.hexDigits 32 u.value
  String.ofList <| ds.take 8 ++ '-' :: (ds.drop 8).take 4 ++ '-' :: (ds.drop 12).take 4 ++
    '-' :: (ds.drop 16).take 4 ++ '-' :: ds.drop 20

/-- Leaves out every occurrence of a label. -/
def without (label : List Char) : List Char → List Char
  | [] => []
  | c :: rest =>
    if label.isPrefixOf (c :: rest) then without label (rest.drop (label.length - 1))
    else c :: without label rest
termination_by cs => cs.length
decreasing_by all_goals simp only [List.length_drop, List.length_cons]; omega

/-- Is the character a brace? -/
def isBrace (c : Char) : Bool := c == '\x7b' || c == '\x7d'

/-- How many characters the number of an identifier takes. -/
def width : Nat := 32

/-- The number in the text of an identifier as it is written there.  Labels before it, braces
around it and hyphens inside it do not count. -/
def numeral (s : String) : String :=
  let cs := without "uuid:".toList (without "urn:".toList s.toList)
  let inner := ((cs.dropWhile isBrace).reverse.dropWhile isBrace).reverse
  String.ofList (inner.filter (· != '-'))

end Uuid

end RecordStore
