import RecordStore.Datum.Decimal
import RecordStore.Datum.Order
import RecordStore.Fault.Message

/-!
# Tagged values

A `Value` is a scalar together with its kind.  Null is a kind of its own: it equals only null and
comes before every other value.  Two other values are comparable only within one kind.

* `Value.of?` finds the kind of a plain value, `Value.coerce?` changes it to a declared one.
* `Value.same?` and `Value.before?` are equality and strict order; the other four comparisons are
  made from these two.
-/

namespace RecordStore

/-- A scalar with its kind. -/
structure Value where
  kind : Kind
  data : Datum
  deriving Inhabited

namespace Value

/-- The value that stands for nothing. -/
def null : Value := ⟨.null, .null⟩

/-- A value of the given kind; null carries no data. -/
def make (kind : Kind) (data : Datum) : Value := if kind = .null then null else ⟨kind, data⟩

/-- Is the value null? -/
def isNull (v : Value) : Bool := v.kind == .null

@[simp] theorem isNull_null : null.isNull = true := rfl

/-- The value as a plain one that keeps its tag. -/
def tagged (v : Value) : Datum := .tagged v.kind v.data

/-- The text of a value in messages. -/
def shown (v : Value) : String := v.tagged.shown

/-- The value of a plain one, its kind being found from its type. -/
def of? : Datum → Outcome Value
  | .tagged k d => pure (make k d)
  | .null => pure null
  | .boolean b => pure ⟨.boolean, .boolean b⟩
  | .integer n => pure ⟨.integer, .integer n⟩
  | .decimal d => pure ⟨.decimal, .decimal d⟩
  | .binary f => pure ⟨.decimal, .decimal ((Decimal.ofText? f.text).getD (.nan false false 0))⟩
  | .text s => pure ⟨.text, .text s⟩
  | .timestamp t => pure ⟨.timestamp, .timestamp t⟩
  | .identifier u => pure ⟨.identifier, .identifier u⟩
  | d => throw (.filterType (.unsupported d.typeName))

/-- The value as one of the given kind: null has every kind and an integer widens to a decimal. -/
def coerce? (v : Value) (kind : Kind) : Outcome Value :=
  if v.kind = kind ∨ v.isNull then pure v
  else if v.kind = .integer ∧ kind = .decimal then return ⟨.decimal, .decimal (← v.data.toDecimal?)⟩
  else throw (.filterType (.cannotUse v.kind v.data kind))

theorem coerce?_self (v : Value) : v.coerce? v.kind = .ok v := if_pos (.inl rfl)

/-- Fails unless the kinds agree. -/
def comparable? (a b : Value) : Outcome Unit :=
  if a.kind = b.kind then pure () else throw (.filterType (.cannotCompare a.kind b.kind))

/-- Are the values equal? -/
def same? (a b : Value) : Outcome Bool :=
  if a.isNull || b.isNull then pure (a.isNull && b.isNull)
  else do
    a.comparable? b
    a.data.same? b.data

/-- Does the first value come before the second? -/
def before? (a b : Value) : Outcome Bool :=
  if a.isNull || b.isNull then pure (a.isNull && !b.isNull)
  else do
    a.comparable? b
    match ← a.data.before? b.data with
    | some r => pure r
    | none => throw (.filterType (.cannotOrder a.data b.data))

/-- Are the values different? -/
def differs? (a b : Value) : Outcome Bool := return !(← a.same? b)

/-- Does the first value come after the second? -/
def after? (a b : Value) : Outcome Bool := do
  if ← a.before? b then pure false else a.differs? b

/-- Does the first value come before the second or equal it? -/
def atMost? (a b : Value) : Outcome Bool := do
  if ← a.before? b then pure true else a.same? b

/-- Does the first value come after the second or equal it? -/
def atLeast? (a b : Value) : Outcome Bool := return !(← a.before? b)

/-- The answers of the six comparisons. -/
structure Comparison where
  same : Outcome Bool
  differs : Outcome Bool
  before : Outcome Bool
  atMost : Outcome Bool
  after : Outcome Bool
  atLeast : Outcome Bool

/-- Compares two values in every way. -/
def compareAll (a b : Value) : Comparison where
  same := a.same? b
  differs := a.differs? b
  before := a.before? b
  atMost := a.atMost? b
  after := a.after? b
  atLeast := a.atLeast? b

/-- Compares a value with a plain one: unless that carries a tag, the two are different and have
no order. -/
def compareWith (a : Value) : Datum → Comparison
  | .tagged k d => a.compareAll (make k d)
  | _ =>
    let unordered := throw .wrongType
    ⟨pure false, pure true, unordered, unordered, unordered, unordered⟩

/-- A value refuses every change. -/
def assign (_ : Value) (name : String) (_ : Datum) : Outcome Value :=
  throw (.immutable (.value name))

end Value

end RecordStore
