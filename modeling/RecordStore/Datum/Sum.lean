import RecordStore.Fault.Basic

/-!
# Sums of plain values

Numbers are added up, texts, bytes, lists and tuples are joined.  A decimal and a binary number
have no sum, nor have values of other types.
-/

namespace RecordStore.Datum

/-- The whole number that a value counts as in a sum. -/
def whole? : Datum → Option Int
  | integer n => some n
  | boolean b => some b.toNat
  | _ => none

/-- The sum of two decimals. -/
def addDecimals? (a b : Decimal) : Outcome Datum :=
  match a.add b with
  | .value d => pure (decimal d)
  | .overflow => throw .overflow
  | .undefined => throw .invalidOperation

/-- A whole number as a binary one, which must be large enough for it. -/
def widen? (n : Int) : Outcome Binary64 :=
  match Binary64.ofInt n with
  | .infinite _ => throw .tooLarge
  | f => pure f

/-- The sum of two numbers of which one is no whole number. -/
def addNumbers? : Datum → Datum → Outcome Datum
  | decimal a, decimal b => addDecimals? a b
  | binary a, binary b => pure (binary (a.add b))
  | decimal a, b => match b.whole? with
    | some n => addDecimals? a (.ofInt n)
    | none => throw .wrongType
  | a, decimal b => match a.whole? with
    | some n => addDecimals? (.ofInt n) b
    | none => throw .wrongType
  | binary a, b => match b.whole? with
    | some n => do return binary (a.add (← widen? n))
    | none => throw .wrongType
  | a, binary b => match a.whole? with
    | some n => do return binary ((← widen? n).add b)
    | none => throw .wrongType
  | _, _ => throw .wrongType

/-- The sum of two values. -/
def add? : Datum → Datum → Outcome Datum
  | text a, text b => pure (text (a ++ b))
  | bytes a, bytes b => pure (bytes (a ++ b))
  | list a, list b => pure (list (a ++ b))
  | tuple a, tuple b => pure (tuple (a ++ b))
  | a, b => match a.whole?, b.whole? with
    | some m, some n => pure (integer (m + n))
    | _, _ => addNumbers? a b

end RecordStore.Datum
