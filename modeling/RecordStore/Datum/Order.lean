import RecordStore.Fault.Basic

/-!
# Equality and order of plain values

Numbers of every type are compared by their exact values, texts by code point, timestamps by
instant, lists and tuples element by element.  Values of different types are unequal.

* `Datum.same?` is equality.  It fails where a decimal must not be computed with, and between
  values tagged with different kinds.
* `Datum.before?` is the strict order, with the answer `none` where there is no order.
-/

namespace RecordStore.Datum

/-- The exact value of a number. -/
def number? : Datum → Option Decimal
  | boolean b => some (.ofInt b.toNat)
  | integer n => some (.ofInt n)
  | decimal d => some d
  | binary f => some f.toDecimal
  | _ => none

/-- Are two numbers equal? -/
def sameNumber? (a b : Decimal) : Outcome Bool :=
  if a.isSignaling || b.isSignaling then throw .invalidOperation
  else pure (a.compare? b == some .eq)

/-- Are two values equal that hold no other values? -/
def sameScalar? : Datum → Datum → Outcome Bool
  | null, null => pure true
  | integer a, integer b => pure (a == b)
  | text a, text b => pure (a == b)
  | timestamp a, timestamp b => pure (a.compare? b == some .eq)
  | date a, date b => pure (a == b)
  | identifier a, identifier b => pure (a == b)
  | bytes a, bytes b => pure (a == b)
  | a, b => match a.number?, b.number? with
    | some x, some y => sameNumber? x y
    | _, _ => pure false

/-- Is the answer yes?  A fault is none. -/
def holds : Outcome Bool → Bool
  | .ok b => b
  | .error _ => false

mutual

/-- Are two values equal? -/
def same? : Datum → Datum → Outcome Bool
  | list xs, b => match b with
    | list ys => if xs.length = ys.length then sameAll? xs ys else pure false
    | _ => pure false
  | tuple xs, b => match b with
    | tuple ys => sameAll? xs ys
    | _ => pure false
  | mapping es, b => match b with
    | mapping fs => if es.length = fs.length then sameEntries? es fs else pure false
    | _ => pure false
  | tagged k x, b => match b with
    | tagged l y =>
      if k = .null ∨ l = .null then pure (k == l)
      else if k = l then same? x y
      else throw (.filterType (.cannotCompare k l))
    | _ => pure false
  | a, b => sameScalar? a b

/-- Are two lists of values equal, element by element? -/
def sameAll? : List Datum → List Datum → Outcome Bool
  | [], [] => pure true
  | x :: xs, y :: ys => do if ← same? x y then sameAll? xs ys else pure false
  | _, _ => pure false

/-- Has the second mapping every entry of the first? -/
def sameEntries? : List (Datum × Datum) → List (Datum × Datum) → Outcome Bool
  | [], _ => pure true
  | (k, v) :: es, fs => match fs.find? fun p => holds (same? k p.1) with
    | some (_, w) => do if ← same? v w then sameEntries? es fs else pure false
    | none => pure false

end

/-- Is one value equal to itself?  The parts of a container are one and the same and are not
compared. -/
def sameAsItself? : Datum → Outcome Bool
  | list _ => pure true
  | tuple _ => pure true
  | mapping _ => pure true
  | tagged k x => if k = .null then pure true else sameAsItself? x
  | a => sameScalar? a a

/-- Do two values count as one key?  Values that cannot be compared do not. -/
def sameKey (a b : Datum) : Bool := holds (a.same? b)

/-- Does one number come before the other? -/
def numberBefore? (a b : Datum) (x y : Decimal) : Outcome (Option Bool) :=
  match x.compare? y with
  | some o => pure (some (o == .lt))
  | none => match a, b with
    | decimal _, _ => throw .invalidOperation
    | _, decimal _ => throw .invalidOperation
    | _, _ => pure (some false)

/-- Does one value come before the other, of values that hold no other values? -/
def scalarBefore? : Datum → Datum → Outcome (Option Bool)
  | integer a, integer b => pure (some (a < b))
  | text a, text b => pure (some (a < b))
  | timestamp a, timestamp b => pure ((a.compare? b).map (· == .lt))
  | date a, date b => pure (some (a.dayNumber < b.dayNumber))
  | identifier a, identifier b => pure (some (a.value < b.value))
  | bytes a, bytes b => pure (some (a.map UInt8.toNat < b.map UInt8.toNat))
  | a, b => match a.number?, b.number? with
    | some x, some y => numberBefore? a b x y
    | _, _ => pure none

mutual

/-- Does the first value come before the second?  None where the two have no order. -/
def before? : Datum → Datum → Outcome (Option Bool)
  | list xs, b => match b with
    | list ys => listBefore? xs ys
    | _ => pure none
  | tuple xs, b => match b with
    | tuple ys => listBefore? xs ys
    | _ => pure none
  | mapping _, _ => pure none
  | tagged k x, b => match b with
    | tagged l y =>
      if k = .null ∨ l = .null then pure (some (k == .null && l != .null))
      else if k = l then do
        match ← before? x y with
        | some r => return some r
        | none => throw (.filterType (.cannotOrder x y))
      else throw (.filterType (.cannotCompare k l))
    | _ => pure none
  | a, b => scalarBefore? a b

/-- The order of two lists, decided by the first elements that differ. -/
def listBefore? : List Datum → List Datum → Outcome (Option Bool)
  | [], ys => pure (some (!ys.isEmpty))
  | _ :: _, [] => pure (some false)
  | x :: xs, y :: ys => do if ← same? x y then listBefore? xs ys else before? x y

end

/-- Does the first value come before the second?  Values without an order are of the wrong
type. -/
def precedes? (a b : Datum) : Outcome Bool := do
  match ← a.before? b with
  | some before => pure before
  | none => throw .wrongType

end RecordStore.Datum
