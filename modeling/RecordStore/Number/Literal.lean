import RecordStore.Number.Binary64
import RecordStore.Text.Hex

/-!
# Numbers written in settings

Reading whole numbers and floating-point numbers from the text of a setting.  Blanks around the
number do not count, digits may come from any script, and one underscore may stand between two
digits.  A whole number in base ten has a bounded count of digits.

* `Literal.integer` reads a whole number, `Literal.hexadecimal?` one in base sixteen.
* `Literal.binary64?` reads a floating-point number.
-/

namespace RecordStore.Literal

/-- May the character stand before or after a number?  Blanks may, but for the four separators of
information. -/
def isMargin (c : Char) : Bool := Text.isBlank c && !(0x1c ≤ c.toNat && c.toNat ≤ 0x1f)

/-- The text without what may stand before and after a number. -/
def core (s : String) : List Char :=
  ((s.toList.dropWhile isMargin).reverse.dropWhile isMargin).reverse

/-- Is the character a decimal digit of some script? -/
def isDigit (c : Char) : Bool := (Text.digit? c).isSome

/-- Drops underscores that stand between two digits; none where one stands elsewhere. -/
def joinDigits? (isDigit : Char → Bool) (afterDigit : Bool) : List Char → Option (List Char)
  | [] => some []
  | '_' :: rest =>
    if afterDigit && rest.head?.any isDigit then joinDigits? isDigit false rest else none
  | c :: rest => (joinDigits? isDigit (isDigit c) rest).map (c :: ·)

/-- What comes of reading a whole number. -/
inductive Reading where
  | value (n : Int)
  /-- The text begins with more digits than a number may have. -/
  | tooLong (count : Nat)
  | malformed
  deriving DecidableEq, Repr, Inhabited

/-- How many digits a whole number may have. -/
def maxDigits : Nat := 4300

/-- Can the character stand inside a whole number? -/
def isInner (c : Char) : Bool := c == '_' || isDigit c

/-- Reads a whole number.  That it has too many digits is seen before what follows them. -/
def integer (s : String) : Reading :=
  let (n, cs) := Decimal.takeSign (core s)
  match joinDigits? isDigit false (cs.takeWhile isInner) with
  | none => .malformed
  | some inner =>
    let ds := inner.filterMap Text.digit?
    if maxDigits < ds.length then .tooLong ds.length
    else if ds.isEmpty || !(cs.dropWhile isInner).isEmpty then .malformed
    else .value (Decimal.signed n (Text.ofDigits ds))

/-- The value of a digit in base sixteen: a decimal digit of any script or one of the first six
Latin letters. -/
def hexDigit? (c : Char) : Option Nat := (Text.digit? c).or (Text.hexValue? c)

/-- Skips the mark `0x` of base sixteen, behind which one underscore may stand. -/
def skipMark : List Char → List Char
  | z :: x :: rest =>
    if Text.digit? z = some 0 && (x == 'x' || x == 'X') then
      if rest.head? = some '_' then rest.drop 1 else rest
    else z :: x :: rest
  | cs => cs

/-- Reads a whole number in base sixteen, with or without the mark of that base. -/
def hexadecimal? (s : String) : Option Int :=
  let (n, cs) := Decimal.takeSign (core s)
  match joinDigits? (fun c => (hexDigit? c).isSome) false (skipMark cs) with
  | none => none
  | some inner =>
    if inner.isEmpty then none
    else (inner.mapM hexDigit?).map fun ds =>
      Decimal.signed n (ds.foldl (fun m d => 16 * m + d) 0)

/-- Reads a floating-point number. -/
def binary64? (s : String) : Option Binary64 :=
  let (n, cs) := Decimal.takeSign (core s)
  let word := cs.map Char.toLower
  if word = "inf".toList ∨ word = "infinity".toList then some (.infinite n)
  else if word = "nan".toList then some .nan
  else
    (joinDigits? isDigit false cs).bind fun cs =>
      match Decimal.mantissa? cs with
      | some (whole, frac, rest) =>
        (Decimal.exponentPart? rest).map fun e =>
          .ofDecimal (.finite n (Text.ofDigits (whole ++ frac)) (e - frac.length))
      | none => none

end RecordStore.Literal
