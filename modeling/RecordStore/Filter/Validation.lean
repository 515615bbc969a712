import RecordStore.Filter.Basic

/-!
# Checking a filter against a shape

`Filter.validate?` accepts a filter whose fields are all declared and whose operands fit them; it
gives back the same tree with every operand in its field's kind.
-/

namespace RecordStore.Filter

/-- Gives an operand the kind of its field: a set for the set operator, one value for the others,
and nothing to do for the test of null. -/
def coerceOperand? (op : Operator) (operand : Operand) (kind : Kind) : Outcome Operand :=
  match op with
  | .isNull => pure operand
  | .inSet => match operand with
    | .many vs => do return .many (← vs.mapM (·.coerce? kind))
    | o => throw (.filterType (.setOperand o.datum.shown))
  | _ => match operand with
    | .one v => do return .one (← v.coerce? kind)
    | o => throw (.filterType (.valueOperand o.datum.shown))

/-- Names the field in a fault of type. -/
def atField (field : FieldRef) : Fault → Fault
  | .filterType t => .filterType (.atField field t)
  | f => f

/-- Checks one comparison against the kind of its field. -/
def validateCompare? (field : FieldRef) (op : Operator) (operand : Operand) (kind : Kind) :
    Outcome Filter :=
  if op.isText ∧ kind ≠ .text then throw (.filterType (.textField op.name field kind))
  else match coerceOperand? op operand kind with
    | .ok o => pure (.compare field op o)
    | .error f => throw (atField field f)

/-- The declared kind of a field. -/
def declared? (fields : Shape) (field : FieldRef) : Outcome Kind :=
  match field.name?.bind (fields.lookup ·) with
  | some k => pure k
  | none =>
    throw (if field.isHashable then .filterField field fields.keys else .wrongType)

mutual

/-- Checks a filter against a shape. -/
def validate? (fields : Shape) : Filter → Outcome Filter
  | compare f op o => do validateCompare? f op o (← declared? fields f)
  | all fs => do return .all (← validateAll? fields fs)
  | any fs => do return .any (← validateAll? fields fs)
  | negation f => do return .negation (← validate? fields f)
  | junk d => throw (notFilter d)

/-- Checks several filters. -/
def validateAll? (fields : Shape) : List Filter → Outcome (List Filter)
  | [] => pure []
  | f :: fs => do
    let x ← validate? fields f
    return x :: (← validateAll? fields fs)

end

end RecordStore.Filter
