import RecordStore.Text.Blank

/-!
# Decimal numbers

Decimals of any length: a sign, a coefficient and an exponent of ten, besides the two infinities
and the values that are no number.  The coefficient and the exponent are kept as they were
written, so `1.5` and `1.50` are different decimals of equal value.

* `Decimal.compare?` is the exact numerical order; it has no answer where a side is no number.
* `Decimal.text` and `Decimal.ofText?` write and read a decimal.
* `Decimal.add` is the sum to 28 digits, a half going to the even neighbour, with bounded
  exponents.
-/

namespace RecordStore

/-- A decimal number `± coefficient · 10 ^ exponent`, an infinity, or no number. -/
inductive Decimal where
  | finite (negative : Bool) (coefficient : Nat) (exponent : Int)
  | infinite (negative : Bool)
  | nan (negative signaling : Bool) (payload : Nat)
  deriving DecidableEq, Repr, Inhabited

namespace Decimal

/-- The decimal digits of a number, most significant first. -/
def digits (n : Nat) : List Char := Nat.toDigits 10 n

/-- The number with a sign. -/
def signed (negative : Bool) (n : Nat) : Int := if negative then -(n : Int) else n

/-- An integer as a decimal with exponent zero. -/
def ofInt (n : Int) : Decimal := .finite (n < 0) n.natAbs 0

/-- Is the value no number? -/
def isNan : Decimal → Bool
  | nan .. => true
  | _ => false

/-- Is the value no number, and must not be computed with? -/
def isSignaling : Decimal → Bool
  | nan _ s _ => s
  | _ => false

/-- Is the value a finite number or an infinity other than zero? -/
def isNonzero : Decimal → Bool
  | finite _ c _ => c != 0
  | _ => true

/-! ## Order -/

/-- The exponent of the leading digit. -/
def adjusted (c : Nat) (e : Int) : Int := e + (digits c).length - 1

/-- The order of two numbers of one sign, given by their magnitudes' leading places first and by
the coefficients over the smaller exponent where those agree. -/
def compareMagnitude (c₁ : Nat) (e₁ : Int) (c₂ : Nat) (e₂ : Int) : Ordering :=
  match compare (adjusted c₁ e₁) (adjusted c₂ e₂) with
  | .eq =>
    compare (c₁ * Nat.pow 10 (e₁ - min e₁ e₂).toNat) (c₂ * Nat.pow 10 (e₂ - min e₁ e₂).toNat)
  | o => o

/-- The order of two finite decimals. -/
def compareFinite (n₁ : Bool) (c₁ : Nat) (e₁ : Int) (n₂ : Bool) (c₂ : Nat) (e₂ : Int) : Ordering :=
  match compare (signed n₁ c₁).sign (signed n₂ c₂).sign with
  | .eq =>
    if c₁ = 0 then .eq
    else if n₁ then compareMagnitude c₂ e₂ c₁ e₁ else compareMagnitude c₁ e₁ c₂ e₂
  | o => o

/-- The numerical order; none where a side is no number. -/
def compare? : Decimal → Decimal → Option Ordering
  | nan .., _ => none
  | _, nan .. => none
  | infinite n₁, infinite n₂ => some (compare (!n₁) (!n₂))
  | infinite n, finite .. => some (if n then .lt else .gt)
  | finite .., infinite n => some (if n then .gt else .lt)
  | finite n₁ c₁ e₁, finite n₂ c₂ e₂ => some (compareFinite n₁ c₁ e₁ n₂ c₂ e₂)

/-! ## Limits -/

/-- The largest exponent of a leading digit. -/
def maxExponent : Int := 999999999999999999

/-- The smallest exponent. -/
def minExponent : Int := -1999999999999999997

/-- The finite decimal of these parts, unless its exponent is out of bounds. -/
def ofParts? (n : Bool) (c : Nat) (e : Int) : Option Decimal :=
  if minExponent ≤ e ∧ adjusted c e ≤ maxExponent then some (finite n c e) else none

/-! ## Text -/

/-- The text of an integer with its sign always shown. -/
def signedText (n : Int) : List Char := (if n < 0 then '-' else '+') :: digits n.natAbs

/-- The digits with a point after the first `place` of them, zeros filling in on either side. -/
def pointed (ds : List Char) (place : Int) : List Char :=
  if place ≤ 0 then '0' :: '.' :: (List.replicate (-place).toNat '0' ++ ds)
  else if ds.length ≤ place then ds ++ List.replicate (place - ds.length).toNat '0'
  else ds.take place.toNat ++ '.' :: ds.drop place.toNat

/-- The text of a finite decimal without its sign: plain while the exponent is not positive and
the leading digit stands at most six places after the point, with an exponent otherwise. -/
def magnitudeText (c : Nat) (e : Int) : List Char :=
  let ds := digits c
  let left := e + ds.length
  if e ≤ 0 ∧ -6 < left then pointed ds left
  else pointed ds 1 ++ 'E' :: signedText (left - 1)

/-- The text of a decimal. -/
def text (d : Decimal) : String :=
  let sign (n : Bool) := if n then ['-'] else []
  String.ofList <| match d with
    | finite n c e => sign n ++ magnitudeText c e
    | infinite n => sign n ++ "Infinity".toList
    | nan n s p => sign n ++ (if s then ['s'] else []) ++ "NaN".toList ++
        (if p = 0 then [] else digits p)

/-- The leading digits of a text, of any script, and the rest. -/
def spanDigits : List Char → List Nat × List Char
  | [] => ([], [])
  | c :: rest => match Text.digit? c with
    | some d => let (ds, r) := spanDigits rest; (d :: ds, r)
    | none => ([], c :: rest)

/-- An optional sign and the rest. -/
def takeSign : List Char → Bool × List Char
  | '-' :: rest => (true, rest)
  | '+' :: rest => (false, rest)
  | cs => (false, cs)

/-- The exponent written after the digits; zero where there is none. -/
def exponentPart? : List Char → Option Int
  | [] => some 0
  | c :: rest =>
    if c.toLower = 'e' then
      let (n, rest) := takeSign rest
      match spanDigits rest with
      | ([], _) => none
      | (ds, []) => some (signed n (Text.ofDigits ds))
      | _ => none
    else none

/-- The digits before and after an optional point, at least one in all, and the rest. -/
def mantissa? (cs : List Char) : Option (List Nat × List Nat × List Char) :=
  let (whole, rest) := spanDigits cs
  let (frac, rest) := match rest with
    | '.' :: r => spanDigits r
    | r => ([], r)
  if whole.isEmpty && frac.isEmpty then none else some (whole, frac, rest)

/-- The words for what is not finite. -/
def special? (n : Bool) (cs : List Char) : Option Decimal :=
  let word := cs.map Char.toLower
  let diagnostic (s : Bool) (rest : List Char) :=
    match spanDigits rest with
    | (ds, []) => some (nan n s (Text.ofDigits ds))
    | _ => none
  match word with
  | 'n' :: 'a' :: 'n' :: rest => diagnostic false rest
  | 's' :: 'n' :: 'a' :: 'n' :: rest => diagnostic true rest
  | _ => if word = "inf".toList ∨ word = "infinity".toList then some (infinite n) else none

/-- Reads a decimal; blanks around it and underscores in it do not count. -/
def ofText? (s : String) : Option Decimal :=
  let (n, cs) := takeSign ((Text.strip s.toList).filter (· ≠ '_'))
  match mantissa? cs with
  | some (whole, frac, rest) =>
    (exponentPart? rest).bind fun e => ofParts? n (Text.ofDigits (whole ++ frac)) (e - frac.length)
  | none => special? n cs

/-! ## Sum -/

/-- How many digits a sum keeps. -/
def precision : Nat := 28

/-- The largest exponent of the leading digit of a sum. -/
def maxSumExponent : Int := 999999

/-- The smallest exponent of a sum. -/
def minSumExponent : Int := -1000026

/-- What comes of an addition. -/
inductive Sum where
  | value (d : Decimal)
  /-- The leading digit stands too high. -/
  | overflow
  | undefined
  deriving DecidableEq, Repr, Inhabited

/-- The quotient rounded to the nearest integer, a half to the even one. -/
def roundDiv (a b : Nat) : Nat :=
  let q := a / b
  match compare (2 * (a % b)) b with
  | .lt => q
  | .gt => q + 1
  | .eq => q + q % 2

/-- A coefficient without its last digits, rounded. -/
def dropDigits (c count : Nat) : Nat :=
  if (digits c).length < count then 0 else roundDiv c (Nat.pow 10 count)

/-- A sum whose leading digit does not stand too high. -/
def bounded (n : Bool) (c : Nat) (e : Int) : Sum :=
  if maxSumExponent < adjusted c e then .overflow else .value (finite n c e)

/-- A coefficient and exponent as a sum: cut to the precision and to the smallest exponent. -/
def rounded (n : Bool) (c : Nat) (e : Int) : Sum :=
  if c = 0 then .value (finite n 0 (max minSumExponent (min maxSumExponent e)))
  else if maxSumExponent < adjusted c e then .overflow
  else
    let excess := max ((digits c).length - precision) (minSumExponent - e).toNat
    if excess = 0 then bounded n c e
    else
      let r := dropDigits c excess
      if (digits r).length ≤ precision then bounded n r (e + excess)
      else bounded n (r / 10) (e + excess + 1)

/-- An addend beside one of a larger exponent that is not zero.  Where it lies so far below that
it can only decide how the sum is rounded, a single digit takes its place. -/
def standIn (c₁ : Nat) (e₁ : Int) (c₂ : Nat) (e₂ : Int) : Nat × Int :=
  let length := (digits c₁).length
  let place := if precision < length then e₁ - 1 else e₁ + length - precision - 2
  if adjusted c₂ e₂ < place then (if c₂ = 0 then 0 else 1, place) else (c₂, e₂)

/-- The sum of two finite decimals, of which the first has the larger exponent. -/
def addFinite (n₁ : Bool) (c₁ : Nat) (e₁ : Int) (n₂ : Bool) (c₂ : Nat) (e₂ : Int) : Sum :=
  let (c₁, c₂, e) :=
    if c₁ = 0 then (0, c₂, e₂)
    else
      let (c, e) := standIn c₁ e₁ c₂ e₂
      (c₁ * Nat.pow 10 (e₁ - e).toNat, c, e)
  let total := signed n₁ c₁ + signed n₂ c₂
  rounded (if total = 0 then n₁ && n₂ else total < 0) total.natAbs e

/-- A value that is no number as a sum: of its payload the last digits are kept. -/
def cutPayload (n : Bool) (payload : Nat) : Sum :=
  .value (nan n false (payload % Nat.pow 10 precision))

/-- The sum of two decimals. -/
def add : Decimal → Decimal → Sum
  | nan _ true _, _ => .undefined
  | _, nan _ true _ => .undefined
  | nan n _ p, _ => cutPayload n p
  | _, nan n _ p => cutPayload n p
  | infinite n₁, infinite n₂ => if n₁ = n₂ then .value (infinite n₁) else .undefined
  | infinite n, _ => .value (infinite n)
  | _, infinite n => .value (infinite n)
  | finite n₁ c₁ e₁, finite n₂ c₂ e₂ =>
    if e₁ < e₂ then addFinite n₂ c₂ e₂ n₁ c₁ e₁ else addFinite n₁ c₁ e₁ n₂ c₂ e₂

end Decimal

end RecordStore
