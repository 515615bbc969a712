import RecordStore.Filter.Basic
import RecordStore.Sql.Identifier

/-!
# SQL predicates

A filter as a condition in SQL.  Every comparison is guarded against null, so a predicate is true
or false for every row and negation means in SQL what it means in a filter.  Texts are compared
under the collation `"C"`, by code point.

* `Predicate.ofFilter?` turns a filter into a predicate.
* `Predicate.text` writes a predicate with a placeholder for every datum, and
  `Predicate.parameters` lists the data in the same order.
-/

namespace RecordStore.Sql

/-- The comparisons of SQL. -/
inductive Comparison where
  | eq | ne | gt | ge | lt | le
  deriving DecidableEq, Repr, Inhabited

/-- The sign of a comparison. -/
def Comparison.sign : Comparison → String
  | eq => "="
  | ne => "<>"
  | gt => ">"
  | ge => ">="
  | lt => "<"
  | le => "<="

/-- The comparison that an operator stands for. -/
def Comparison.ofOperator? : Operator → Option Comparison
  | .eq => some eq
  | .notEq => some ne
  | .gt => some gt
  | .gte => some ge
  | .lt => some lt
  | .lte => some le
  | _ => none

/-- A condition on the columns of a row; columns are given by their quoted names. -/
inductive Predicate where
  | always
  | never
  | isNull (column : String)
  | isNotNull (column : String)
  | compare (column : String) (collated : Bool) (c : Comparison) (d : Datum)
  | like (column : String) (pattern : String)
  | equalsAny (column : String) (ds : List Datum)
  | conj (ps : List Predicate)
  | disj (ps : List Predicate)
  | negation (p : Predicate)
  deriving Inhabited

/-- A character of a pattern that stands for itself. -/
def escapeChar (c : Char) : List Char :=
  if c = '\\' ∨ c = '%' ∨ c = '_' then ['\\', c] else [c]

/-- A text as a pattern that only the text itself matches. -/
def escapeLike (s : String) : String := String.ofList (s.toList.flatMap escapeChar)

/-- The pattern of a text operator. -/
def likePattern (op : Operator) (s : String) : String :=
  match op with
  | .contains => "%" ++ escapeLike s ++ "%"
  | .startsWith => escapeLike s ++ "%"
  | _ => "%" ++ escapeLike s

namespace Predicate

/-- A set: its null members ask for null, the others are compared at once. -/
def ofSet (column : String) (vs : List Value) : Predicate :=
  let ds := (vs.filter (!·.isNull)).map Value.data
  let withNull := vs.any Value.isNull
  match ds, withNull with
  | [], true => isNull column
  | [], false => never
  | _, true => disj [isNull column, equalsAny column ds]
  | _, false => conj [isNotNull column, equalsAny column ds]

/-- An operator with a single operand. -/
def ofOne? (column : String) (op : Operator) (v : Value) : Outcome Predicate :=
  if op = .eq ∧ v.isNull then pure (isNull column)
  else if op = .notEq ∧ v.isNull then pure (isNotNull column)
  else match Comparison.ofOperator? op with
    | some c => pure (conj [isNotNull column, compare column (v.kind == .text) c v.data])
    | none => match v.data with
      | .text s => pure (conj [isNotNull column, like column (likePattern op s)])
      | .timestamp _ | .date _ | .bytes _ => throw .wrongType
      | _ => throw .missingOperation

/-- A comparison of a field. -/
def ofCompare? (field : FieldRef) (op : Operator) (operand : Operand) : Outcome Predicate := do
  let column ← quote "filter field" field.datum
  match op with
  | .isNull => return isNull column
  | .inSet => return ofSet column operand.members
  | op => match operand with
    | .one v => ofOne? column op v
    | _ => throw (.filterType (.singleValue op.name field))

/-- Several conditions as one: a single one stands alone. -/
def joined (empty : Predicate) (join : List Predicate → Predicate) : List Predicate → Predicate
  | [] => empty
  | [p] => p
  | ps => join ps

mutual

/-- The predicate of a filter. -/
def ofFilter? : Filter → Outcome Predicate
  | .compare f op o => ofCompare? f op o
  | .all fs => do return joined always conj (← ofFilters? fs)
  | .any fs => do return joined never disj (← ofFilters? fs)
  | .negation f => do return negation (← ofFilter? f)
  | .junk d => throw (Filter.notFilter d)

/-- The predicates of several filters. -/
def ofFilters? : List Filter → Outcome (List Predicate)
  | [] => pure []
  | f :: fs => do
    let p ← ofFilter? f
    return p :: (← ofFilters? fs)

end

mutual

/-- The SQL text of a predicate. -/
def text : Predicate → String
  | always => "TRUE"
  | never => "FALSE"
  | isNull c => c ++ " IS NULL"
  | isNotNull c => c ++ " IS NOT NULL"
  | compare c collated op _ =>
    c ++ (if collated then " COLLATE \"C\" " else " ") ++ op.sign ++ " %s"
  | like c _ => c ++ " LIKE %s"
  | equalsAny c _ => c ++ " = ANY(%s)"
  | conj ps => "(" ++ String.intercalate " AND " (texts ps) ++ ")"
  | disj ps => "(" ++ String.intercalate " OR " (texts ps) ++ ")"
  | negation p => "(NOT " ++ text p ++ ")"

/-- The texts of several predicates. -/
def texts : List Predicate → List String
  | [] => []
  | p :: ps => text p :: texts ps

end

mutual

/-- The data for the placeholders of a predicate, in order. -/
def parameters : Predicate → List Datum
  | compare _ _ _ d => [d]
  | like _ pattern => [.text pattern]
  | equalsAny _ ds => [.list ds]
  | conj ps => parametersOfAll ps
  | disj ps => parametersOfAll ps
  | negation p => parameters p
  | _ => []

/-- The data for the placeholders of several predicates. -/
def parametersOfAll : List Predicate → List Datum
  | [] => []
  | p :: ps => parameters p ++ parametersOfAll ps

end

end Predicate

end RecordStore.Sql
