import RecordStore.Datum.Term
import RecordStore.Filter.Basic

/-!
# Making filters

The constructors of filters that check their arguments, and `FilterForm`, a call of these
constructors written down: the arguments are terms whose holes are filled when the call is made.
-/

namespace RecordStore

namespace Filter

/-- A field's name: any text that is not empty. -/
def fieldName? (d : Datum) : Outcome FieldRef :=
  match d with
  | .text s => if s.isEmpty then throw (.filterField (.name s) []) else pure (.name s)
  | d => throw (.filterField (.name d.plain) [])

/-- Equality and inequality take any value. -/
def scalar? (op : Operator) (field value : Datum) : Outcome Filter := do
  let f ← fieldName? field
  return .compare f op (.one (← Value.of? value))

/-- The ordering operators take any value but null. -/
def ordered? (op : Operator) (field value : Datum) : Outcome Filter := do
  let v ← Value.of? value
  if v.isNull then throw (.filterType (.nullOperand op.name (.ofDatum field)))
  return .compare (← fieldName? field) op (.one v)

/-- The text operators take a text. -/
def textual? (op : Operator) (field value : Datum) : Outcome Filter :=
  match value with
  | .text s => do return .compare (← fieldName? field) op (.one ⟨.text, .text s⟩)
  | d => throw (.filterType (.textOperand op.name (.ofDatum field) d.typeName))

/-- The constructor of an operator that takes one value. -/
def comparing? (op : Operator) (field value : Datum) : Outcome Filter :=
  if op.isOrdering then ordered? op field value
  else if op.isText then textual? op field value
  else scalar? op field value

/-- The rows in which the field is null. -/
def isNull? (field : Datum) : Outcome Filter := do
  return .compare (← fieldName? field) .isNull .none

/-- The rows in which the field is not null. -/
def isNotNull? (field : Datum) : Outcome Filter := scalar? .notEq field .null

/-- The kinds of the values that are not null, each once. -/
def kindsOf (vs : List Value) : List Kind := ((vs.filter (!·.isNull)).map Value.kind).eraseDups

/-- What a set is made of: anything that has elements, except texts and bytes. -/
def setElements? (field values : Datum) : Outcome (List Datum) :=
  match values with
  | .text _ => throw (.filterType (.setFromText (.ofDatum field)))
  | .bytes _ => throw (.filterType (.setFromText (.ofDatum field)))
  | d => match d.elements? with
    | some xs => pure xs
    | none => throw .wrongType

/-- The rows whose field equals a member of the set; the members other than null are of one
kind. -/
def inSet? (field values : Datum) : Outcome Filter := do
  let vs ← (← setElements? field values).mapM Value.of?
  if 1 < (kindsOf vs).length then throw (.filterType (.mixedKinds (.ofDatum field) (kindsOf vs)))
  return .compare (← fieldName? field) .inSet (.many vs)

/-- The rows whose field lies between two values, both included. -/
def between? (field low high : Datum) : Outcome Filter := do
  let a ← ordered? .gte field low
  return .all [a, ← ordered? .lte field high]

end Filter

/-- An operand of a comparison that is written without checks. -/
inductive OperandForm where
  | none
  | one (t : Term)
  | many (ts : List Term)
  deriving Inhabited

/-- A call of the constructors of filters. -/
inductive FilterForm where
  | comparing (op : Operator) (field value : Term)
  | isNull (field : Term)
  | isNotNull (field : Term)
  | inSet (field values : Term)
  | between (field low high : Term)
  | all (fs : List FilterForm)
  | any (fs : List FilterForm)
  | negation (f : FilterForm)
  | node (field : Term) (op : Operator) (operand : OperandForm)
  | junk (t : Term)
  /-- The filter that the write was called with. -/
  | given
  deriving Inhabited

namespace FilterForm

/-- The operand of an unchecked comparison. -/
def operand? (b : Bindings) : OperandForm → Outcome Operand
  | .none => pure .none
  | .one t => do return .one (← Value.of? (← t.value? b))
  | .many ts => do return .many (← (← Term.values? b ts).mapM Value.of?)

mutual

/-- Makes the filter, the parts before the whole and from left to right. -/
def make? (b : Bindings) (written : Filter) : FilterForm → Outcome Filter
  | comparing op f v => do
    let field ← f.value? b
    Filter.comparing? op field (← v.value? b)
  | isNull f => do Filter.isNull? (← f.value? b)
  | isNotNull f => do Filter.isNotNull? (← f.value? b)
  | inSet f vs => do
    let field ← f.value? b
    Filter.inSet? field (← vs.value? b)
  | between f l h => do
    let field ← f.value? b
    let low ← l.value? b
    Filter.between? field low (← h.value? b)
  | all fs => do return .all (← makeAll? b written fs)
  | any fs => do return .any (← makeAll? b written fs)
  | negation f => do return .negation (← make? b written f)
  | node f op o => do
    let field ← f.value? b
    return .compare (.ofDatum field) op (← operand? b o)
  | junk t => do return .junk (← t.value? b)
  | given => pure written

/-- Makes several filters. -/
def makeAll? (b : Bindings) (written : Filter) : List FilterForm → Outcome (List Filter)
  | [] => pure []
  | f :: fs => do
    let x ← make? b written f
    return x :: (← makeAll? b written fs)

end

end FilterForm

end RecordStore
