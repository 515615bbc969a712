import RecordStore.Assoc
import RecordStore.Value.Basic

/-!
# Records

A record maps field names to tagged values, in order.  Columns whose values have no kind are kept
beside them as extras.

* `Record.ofRow?` makes a record of a row, giving declared fields their declared kinds.
* `Record.conform?` gives the declared kinds to a record that was made without them.
* `Record.replace` overwrites values.
-/

namespace RecordStore

/-- The declared kinds of fields, in the order of declaration. -/
abbrev Shape := Assoc Kind

/-- A row as a backend or caller gives it. -/
abbrev Row := Assoc Datum

/-- Tagged values by field name, and the columns that have no kind. -/
structure Record where
  values : Assoc Value := []
  extras : Assoc Datum := []
  deriving Inhabited

namespace Record

/-- Adds one column of a row: a declared field must take its kind, any other column becomes an
extra when it has no kind. -/
def addColumn? (fields : Shape) (r : Record) (name : String) (d : Datum) : Outcome Record :=
  match fields.lookup name with
  | some kind => do
    let v ← (← Value.of? d).coerce? kind
    return { r with values := r.values ++ [(name, v)] }
  | none => match Value.of? d with
    | .ok v => pure { r with values := r.values ++ [(name, v)] }
    | .error _ => pure { r with extras := r.extras ++ [(name, d)] }

/-- The record of a row. -/
def ofRow? (row : Row) (fields : Shape) : Outcome Record :=
  row.foldlM (fun r p => addColumn? fields r p.1 p.2) {}

/-- The tagged values of plain ones. -/
def valuesOf? (row : Row) : Outcome (Assoc Value) :=
  row.mapM fun p => do return (p.1, ← Value.of? p.2)

/-- The record of a mapping, all of whose values must have a kind. -/
def ofMapping? (row : Row) : Outcome Record := do return { values := ← valuesOf? row }

/-- The tagged value of a field. -/
def value? (r : Record) (name : String) : Outcome Value :=
  match r.values.lookup name with
  | some v => pure v
  | none => throw (.missingKey name)

/-- The tagged value of a field, null where the record lacks it. -/
def valueOrNull (r : Record) (name : String) : Value := (r.values.lookup name).getD Value.null

/-- The value stored under what stands for a field. -/
def stored (r : Record) : FieldRef → Value
  | .name s => r.valueOrNull s
  | .stray _ => Value.null

@[simp] theorem stored_name (r : Record) (s : String) : r.stored (.name s) = r.valueOrNull s := rfl

/-- The plain value of a column. -/
def column? (r : Record) (name : String) : Option Datum :=
  match r.values.lookup name with
  | some v => some v.data
  | none => r.extras.lookup name

/-- The plain value of a column that must be there. -/
def get? (r : Record) (name : String) : Outcome Datum :=
  match r.column? name with
  | some d => pure d
  | none => throw (.missingKey name)

/-- Has the record a column of this name? -/
def has (r : Record) (name : String) : Bool := (r.column? name).isSome

/-- The names of all columns, values before extras. -/
def names (r : Record) : List String := r.values.keys ++ r.extras.keys

/-- The number of values and extras. -/
def size (r : Record) : Nat := r.values.length + r.extras.length

/-- Every name with the plain value found under it. -/
def items (r : Record) : Row := r.names.filterMap fun n => (r.column? n).map (n, ·)

/-- The plain values of the fields, as parameters of a statement. -/
def parameters (r : Record) : Row := r.values.mapValues Value.data

/-- Gives one value its declared kind. -/
def conformValue? (fields : Shape) (p : String × Value) : Outcome (String × Value) :=
  match fields.lookup p.1 with
  | some kind => do return (p.1, ← p.2.coerce? kind)
  | none => pure p

/-- Gives every declared field its kind. -/
def conform? (r : Record) (fields : Shape) : Outcome Record := do
  return { r with values := ← r.values.mapM (conformValue? fields) }

/-- Overwrites values, adding those that are new at the end. -/
def replace (r : Record) (values : Assoc Value) : Record :=
  { r with values := r.values.merge values }

/-- Are two lists of named values equal, position by position? -/
def sameValues? : Assoc Value → Assoc Value → Outcome Bool
  | [], [] => pure true
  | (n, v) :: xs, (m, w) :: ys =>
    if n = m ∧ v.kind = w.kind then do
      if ← v.data.same? w.data then sameValues? xs ys else pure false
    else pure false
  | _, _ => pure false

/-- Have two rows the same names with equal values, in whatever order? -/
def sameRow? (a b : Row) : Outcome Bool :=
  if a.length ≠ b.length then pure false
  else a.foldlM (fun same p =>
    if !same then pure false
    else match b.lookup p.1 with
      | some d => p.2.same? d
      | none => pure false) true

/-- Are two records equal?  Values are compared in order, extras in any order. -/
def same? (a b : Record) : Outcome Bool :=
  if a.values.length ≠ b.values.length then pure false
  else do
    if ← sameValues? a.values b.values then sameRow? a.extras b.extras else pure false

/-- Does the record equal a plain mapping? -/
def sameMapping? (r : Record) (row : Row) : Outcome Bool := sameRow? (Assoc.ofPairs r.items) row

/-- The text of a record in messages. -/
def shown (r : Record) : String :=
  "Record(" ++ commaSeparated (r.values.map fun p => p.1 ++ "=" ++ p.2.shown) ++ ")"

end Record

end RecordStore
