import RecordStore.Datum.Conversion
import RecordStore.Record
import RecordStore.Value.Sort

/-!
# Filters

A filter is a tree of comparisons of one field with an operand, put together by conjunction,
disjunction and negation.  Filters are data: building one touches no storage.

* `Filter.fields?` collects the fields that a filter names.
* The constructors that check their arguments are in `RecordStore.Filter.Make`, the check against
  a shape in `RecordStore.Filter.Validation`, the meaning in `RecordStore.Filter.Evaluation`.
-/

namespace RecordStore

/-- What a comparison does with its field and operand. -/
inductive Operator where
  | eq | notEq | gt | gte | lt | lte | contains | startsWith | endsWith | isNull | inSet
  deriving DecidableEq, Repr, Inhabited

namespace Operator

/-- Every operator. -/
def all : List Operator :=
  [eq, notEq, gt, gte, lt, lte, contains, startsWith, endsWith, isNull, inSet]

/-- The name of an operator. -/
def name : Operator → String
  | eq => "eq"
  | notEq => "not_eq"
  | gt => "gt"
  | gte => "gte"
  | lt => "lt"
  | lte => "lte"
  | contains => "contains"
  | startsWith => "starts_with"
  | endsWith => "ends_with"
  | isNull => "is_null"
  | inSet => "in_set"

/-- The operator of a name. -/
def ofName? (s : String) : Option Operator := all.find? (·.name = s)

@[simp] theorem ofName?_name (op : Operator) : ofName? op.name = some op := by
  cases op <;> decide

/-- The operator that a value names. -/
def ofDatum? (d : Datum) : Outcome Operator := d.member? "Operator" ofName?

/-- Does the operator look into a text? -/
def isText : Operator → Bool
  | contains | startsWith | endsWith => true
  | _ => false

/-- Does the operator ask for the order of two values? -/
def isOrdering : Operator → Bool
  | gt | gte | lt | lte => true
  | _ => false

end Operator

/-- What a field is compared with. -/
inductive Operand where
  | none
  | one (v : Value)
  | many (vs : List Value)
  deriving Inhabited

namespace Operand

/-- The operand as a plain value. -/
def datum : Operand → Datum
  | none => .null
  | one v => v.tagged
  | many vs => .tuple (vs.map Value.tagged)

/-- The members of a set; anything else has none. -/
def members : Operand → List Value
  | many vs => vs
  | _ => []

end Operand

/-- A filter expression. -/
inductive Filter where
  /-- A comparison of a field with an operand. -/
  | compare (field : FieldRef) (operator : Operator) (operand : Operand)
  /-- Every one of the filters holds. -/
  | all (filters : List Filter)
  /-- Some one of the filters holds. -/
  | any (filters : List Filter)
  /-- The filter does not hold. -/
  | negation (filter : Filter)
  /-- A plain value in the place of a filter. -/
  | junk (d : Datum)
  deriving Inhabited

namespace Filter

/-- The fault of a plain value that stands in the place of a filter. -/
def notFilter (d : Datum) : Fault := .filterType (.notFilter d.shown)

mutual

/-- The fields that a filter names, from left to right. -/
def fields? : Filter → Outcome (List FieldRef)
  | compare f _ _ => if f.isHashable then pure [f] else throw .wrongType
  | all fs => fieldsOfAll? fs
  | any fs => fieldsOfAll? fs
  | negation f => fields? f
  | junk d => throw (notFilter d)

/-- The fields that several filters name. -/
def fieldsOfAll? : List Filter → Outcome (List FieldRef)
  | [] => pure []
  | f :: fs => do
    let xs ← fields? f
    return xs ++ (← fieldsOfAll? fs)

end

/-- Do two fields count as one? -/
def sameField (f g : FieldRef) : Bool := f.datum.sameKey g.datum

/-- The fields with every one kept only where it stands first. -/
def distinctFields (fs : List FieldRef) : List FieldRef :=
  fs.foldl (fun seen f => if seen.any (sameField · f) then seen else seen ++ [f]) []

/-- Does one field come before another? -/
def fieldBefore? (f g : FieldRef) : Outcome Bool := f.datum.precedes? g.datum

/-- The fields of a filter, sorted, each once. -/
def sortedFields? (f : Filter) : Outcome (List FieldRef) := do
  Sorting.sort fieldBefore? .ascending (distinctFields (← f.fields?))

/-- The filter that is given, where nothing stands for none. -/
def given? : Filter → Option Filter
  | junk .null => none
  | f => some f

end Filter

end RecordStore
