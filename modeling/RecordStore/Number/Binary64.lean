import RecordStore.Number.Decimal

/-!
# Binary floating-point numbers

Numbers `± mantissa · 2 ^ exponent` with a mantissa below `2 ^ 53` and an exponent of at least
`-1074`, the infinities, and no number.

* `Binary64.ofRatio` rounds a quotient to the nearest such number, a half to the even mantissa.
* `Binary64.shortest` finds the fewest decimal digits that round back to the number, and of those
  the nearest.
* `Binary64.toDecimal` is the exact value.
-/

namespace RecordStore

/-- A binary floating-point number of 64 bits. -/
inductive Binary64 where
  | finite (negative : Bool) (mantissa : Nat) (exponent : Int)
  | infinite (negative : Bool)
  | nan
  deriving DecidableEq, Repr, Inhabited

namespace Binary64

/-- The smallest exponent. -/
def minExponent : Int := -1074

/-- The largest exponent of a finite number. -/
def maxExponent : Int := 971

/-- Zero with a sign. -/
def zero (negative : Bool) : Binary64 := .finite negative 0 minExponent

/-- A quotient divided by a power of two, as a quotient again. -/
def scaleDown (num den : Nat) (e : Int) : Nat × Nat :=
  if 0 ≤ e then (num, den * Nat.pow 2 e.toNat) else (num * Nat.pow 2 (-e).toNat, den)

/-- The exponent at which the quotient has a mantissa of 53 bits, or the smallest one. -/
def exponentOf (num den : Nat) : Int :=
  let e : Int := (num.log2 : Int) - den.log2 - 52
  let (a, b) := scaleDown num den e
  max (if a / b < Nat.pow 2 52 then e - 1 else e) minExponent

/-- The number nearest to a positive quotient. -/
def ofRatio (negative : Bool) (num den : Nat) : Binary64 :=
  if num = 0 then zero negative
  else
    let e := exponentOf num den
    let (a, b) := scaleDown num den e
    let m := Decimal.roundDiv a b
    let (m, e) := if m = Nat.pow 2 53 then (Nat.pow 2 52, e + 1) else (m, e)
    if maxExponent < e then infinite negative else finite negative m e

/-- The number nearest to a decimal. -/
def ofDecimal : Decimal → Binary64
  | .nan .. => nan
  | .infinite n => infinite n
  | .finite n c e =>
    if c = 0 then zero n
    else if 400 < Decimal.adjusted c e then infinite n
    else if Decimal.adjusted c e < -400 then zero n
    else if 0 ≤ e then ofRatio n (c * Nat.pow 10 e.toNat) 1
    else ofRatio n c (Nat.pow 10 (-e).toNat)

/-- The number nearest to an integer. -/
def ofInt (n : Int) : Binary64 := ofRatio (n < 0) n.natAbs 1

/-- The quotient `m / 2 ^ k` in lowest terms, as the numerator and the power of two. -/
def lowestTerms (m : Nat) : Nat → Nat × Nat
  | 0 => (m, 0)
  | k + 1 => if m % 2 = 0 then lowestTerms (m / 2) k else (m, k + 1)

/-- The exact value as a decimal with no more places than it needs. -/
def toDecimal : Binary64 → Decimal
  | nan => .nan false false 0
  | infinite n => .infinite n
  | finite n m e =>
    let (num, places) := lowestTerms m (-e).toNat
    .finite n (num * Nat.pow 2 e.toNat * Nat.pow 5 places) (-places)

/-- The sum of two numbers, rounded once. -/
def add : Binary64 → Binary64 → Binary64
  | nan, _ => nan
  | _, nan => nan
  | infinite n₁, infinite n₂ => if n₁ = n₂ then infinite n₁ else nan
  | infinite n, _ => infinite n
  | _, infinite n => infinite n
  | finite n₁ m₁ e₁, finite n₂ m₂ e₂ =>
    let e := min e₁ e₂
    let total :=
      Decimal.signed n₁ (m₁ * Nat.pow 2 (e₁ - e).toNat) +
        Decimal.signed n₂ (m₂ * Nat.pow 2 (e₂ - e).toNat)
    if total = 0 then zero (n₁ && n₂)
    else if 0 ≤ e then ofRatio (total < 0) (total.natAbs * Nat.pow 2 e.toNat) 1
    else ofRatio (total < 0) total.natAbs (Nat.pow 2 (-e).toNat)

/-! ## Shortest digits -/

/-- The largest `p` with `10 ^ p ≤ num / den`. -/
def decimalExponent (num den : Nat) : Int :=
  let p : Int := (Decimal.digits num).length - (Decimal.digits den).length
  let reached :=
    if 0 ≤ p then den * Nat.pow 10 p.toNat ≤ num else den ≤ num * Nat.pow 10 (-p).toNat
  if reached then p else p - 1

/-- A positive number between its neighbours: the value and the ends of the interval of reals
that round to it, as numerators over one denominator. -/
structure Span where
  low : Nat
  value : Nat
  high : Nat
  den : Nat
  /-- Do the ends round to the number too? -/
  closed : Bool

/-- The reals that round to `m · 2 ^ e`. -/
def spanOf (m : Nat) (e : Int) : Span :=
  let scale := Nat.pow 2 e.toNat
  let below := if m = Nat.pow 2 52 ∧ minExponent < e then 1 else 2
  { low := (4 * m - below) * scale
    value := 4 * m * scale
    high := (4 * m + 2) * scale
    den := 4 * Nat.pow 2 (-e).toNat
    closed := m % 2 == 0 }

/-- Both sides of a comparison of `g · 10 ^ k` with `num / den`, over one denominator. -/
def onGrid (g : Nat) (k : Int) (num den : Nat) : Nat × Nat :=
  (g * den * Nat.pow 10 k.toNat, num * Nat.pow 10 (-k).toNat)

/-- Does the grid point round to the number? -/
def Span.holds (s : Span) (g : Nat) (k : Int) : Bool :=
  let (a, low) := onGrid g k s.low s.den
  let (_, high) := onGrid g k s.high s.den
  if s.closed then low ≤ a && a ≤ high else low < a && a < high

/-- Of the two points of the grid `10 ^ k` around the value, the nearer one that rounds to it. -/
def Span.pick? (s : Span) (k : Int) : Option Nat :=
  let (_, v) := onGrid 0 k s.value s.den
  let unit := s.den * Nat.pow 10 k.toNat
  let g := v / unit
  let nearer := match compare (2 * (v % unit)) unit with
    | .lt => true
    | .gt => false
    | .eq => g % 2 == 0
  match s.holds g k, s.holds (g + 1) k with
  | true, true => some (if nearer then g else g + 1)
  | true, false => some g
  | false, true => some (g + 1)
  | false, false => none

/-- Tries grids of one digit more each time; gives a point and the exponent of its grid. -/
def Span.search (s : Span) (k : Int) : Nat → Nat × Int
  | 0 => ((s.pick? k).getD 0, k)
  | fuel + 1 => match s.pick? k with
    | some g => (g, k)
    | none => s.search (k - 1) fuel

/-- Drops the zeros at the end of the digits. -/
def trimZeros (ds : List Char) : List Char :=
  let t := (ds.reverse.dropWhile (· = '0')).reverse
  if t.isEmpty then ['0'] else t

/-- The fewest digits that round back to a positive number, and the exponent of the first. -/
def shortest (m : Nat) (e : Int) : List Char × Int :=
  let s := spanOf m e
  let p := decimalExponent s.value s.den
  let (g, k) := s.search p 17
  let ds := Decimal.digits g
  (trimZeros ds, k + ds.length - 1)

/-- The text of a number: positional while the leading digit stands between the fourth place
after the point and the sixteenth before it, with an exponent of at least two digits
otherwise. -/
def text : Binary64 → String
  | nan => "nan"
  | infinite n => if n then "-inf" else "inf"
  | finite n m e =>
    let sign := if n then ['-'] else []
    if m = 0 then String.ofList (sign ++ "0.0".toList)
    else
      let (ds, p) := shortest m e
      let body :=
        if -4 ≤ p ∧ p < 16 then
          let t := Decimal.pointed ds (p + 1)
          if t.contains '.' then t else t ++ ['.', '0']
        else
          let ex := Decimal.digits p.natAbs
          let ex := if ex.length < 2 then '0' :: ex else ex
          (match ds with
            | [d] => [d]
            | d :: rest => d :: '.' :: rest
            | [] => []) ++ ['e', if p < 0 then '-' else '+'] ++ ex
      String.ofList (sign ++ body)

end Binary64

end RecordStore
