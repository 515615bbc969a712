import RecordStore.Datum.Sum

/-!
# Plain values as decimals

What a plain value is as a decimal: numbers are what they are, texts are read, and a list or tuple
of three gives the parts, sign, digits and exponent.  In place of the exponent may stand a letter
for an infinity or for no number.

* `Datum.toDecimal?` is the decimal of a plain value.
-/

namespace RecordStore.Datum

/-- The sizes of a machine's integers. -/
def fitsWord (n : Int) : Bool := -9223372036854775808 ≤ n && n ≤ 9223372036854775807

/-- A whole number of the size of a machine's integers. -/
def word? (fault : PartFault) (d : Datum) : Outcome Int :=
  match d.whole? with
  | some n => if fitsWord n then pure n else throw .tooLarge
  | none => throw (.argument (.decimalPart fault))

/-- The sign among the parts of a decimal: 1 is minus. -/
def signPart? (d : Datum) : Outcome Bool := do
  let n ← word? .sign d
  if n = 0 then return false
  else if n = 1 then return true
  else throw (.argument (.decimalPart .sign))

/-- A digit among the parts of a decimal. -/
def digitPart? (d : Datum) : Outcome Nat := do
  let n ← word? .coefficient d
  if 0 ≤ n ∧ n ≤ 9 then return n.toNat else throw (.argument (.decimalPart .coefficient))

/-- The digits among the parts of a decimal. -/
def digitParts? : Datum → Outcome (List Nat)
  | list ds => ds.mapM digitPart?
  | tuple ds => ds.mapM digitPart?
  | _ => throw (.argument (.decimalPart .coefficient))

/-- What stands in place of the exponent: a letter for a value that is not finite, or a number. -/
inductive Scale where
  | infinite
  | nan (signaling : Bool)
  | exponent (e : Int)

/-- The last of the parts of a decimal. -/
def scalePart? : Datum → Outcome Scale
  | text s =>
    if s = "F" then pure .infinite
    else if s = "n" then pure (.nan false)
    else if s = "N" then pure (.nan true)
    else throw (.argument (.decimalPart .word))
  | d => do return .exponent (← word? .exponent d)

/-- A decimal from its parts. -/
def ofParts? : List Datum → Outcome Decimal
  | [sign, digits, scale] => do
    let n ← signPart? sign
    let s ← scalePart? scale
    let c := Text.ofDigits (← digitParts? digits)
    match s with
    | .infinite => return .infinite n
    | .nan signaling => return .nan n signaling c
    | .exponent e => match Decimal.ofParts? n c e with
      | some d => return d
      | none => throw .invalidOperation
  | _ => throw (.argument (.decimalPart .length))

/-- The decimal of a value. -/
def toDecimal? : Datum → Outcome Decimal
  | integer n => pure (.ofInt n)
  | boolean b => pure (.ofInt b.toNat)
  | decimal d => pure d
  | binary f => pure f.toDecimal
  | text s => match Decimal.ofText? s with
    | some d => pure d
    | none => throw .invalidOperation
  | list ds => ofParts? ds
  | tuple ds => ofParts? ds
  | _ => throw .wrongType

end RecordStore.Datum
