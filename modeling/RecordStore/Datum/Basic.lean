import RecordStore.Number.Binary64
import RecordStore.Time.Timestamp
import RecordStore.Uuid

/-!
# Plain values

`Datum` is what callers hand to the library and get back: scalars, dates, bytes, and lists,
tuples and mappings of such values.  `Kind` names the closed set of variants that a field can
hold; a datum may carry a kind as a tag already.
-/

namespace RecordStore

/-- The variants that a field can hold. -/
inductive Kind where
  | text | integer | decimal | boolean | timestamp | identifier | null
  deriving DecidableEq, Repr, Inhabited

namespace Kind

/-- Every kind, in the order of declaration. -/
def all : List Kind := [text, integer, decimal, boolean, timestamp, identifier, null]

/-- The name of a kind. -/
def name : Kind → String
  | text => "text"
  | integer => "integer"
  | decimal => "decimal"
  | boolean => "boolean"
  | timestamp => "timestamp"
  | identifier => "identifier"
  | null => "null"

/-- The kind of a name. -/
def ofName? (s : String) : Option Kind := all.find? (·.name = s)

@[simp] theorem ofName?_name (k : Kind) : ofName? k.name = some k := by
  cases k <;> decide

end Kind

/-- A plain value. -/
inductive Datum where
  | null
  | boolean (b : Bool)
  | integer (n : Int)
  | decimal (d : Decimal)
  | binary (f : Binary64)
  | text (s : String)
  | timestamp (t : Timestamp)
  | date (d : Date)
  | identifier (u : Uuid)
  | bytes (bs : List UInt8)
  | list (xs : List Datum)
  | tuple (xs : List Datum)
  | mapping (entries : List (Datum × Datum))
  | tagged (kind : Kind) (data : Datum)
  deriving Inhabited

namespace Datum

instance : Coe String Datum := ⟨text⟩

/-- The name of the value's type, as messages give it. -/
def typeName : Datum → String
  | null => "NoneType"
  | boolean _ => "bool"
  | integer _ => "int"
  | decimal _ => "Decimal"
  | binary _ => "float"
  | text _ => "str"
  | timestamp _ => "datetime"
  | date _ => "date"
  | identifier _ => "UUID"
  | bytes _ => "bytes"
  | list _ => "list"
  | tuple _ => "tuple"
  | mapping _ => "dict"
  | tagged .. => "Value"

/-- Is the value other than nothing, zero, false and empty? -/
def isTruthy : Datum → Bool
  | null => false
  | boolean b => b
  | integer n => n != 0
  | decimal d => d.isNonzero
  | binary f => match f with
    | .finite _ m _ => m != 0
    | _ => true
  | text s => !s.isEmpty
  | bytes bs => !bs.isEmpty
  | list xs => !xs.isEmpty
  | tuple xs => !xs.isEmpty
  | mapping es => !es.isEmpty
  | _ => true

/-- The elements of a value that can be gone through: those of a list or tuple, the keys of a
mapping, the characters of a text, the numbers of bytes. -/
def elements? : Datum → Option (List Datum)
  | list xs => some xs
  | tuple xs => some xs
  | mapping es => some (es.map Prod.fst)
  | text s => some (s.toList.map fun c => .text c.toString)
  | bytes bs => some (bs.map fun b => .integer b.toNat)
  | _ => none

mutual

/-- Can things be kept under the value?  Not where the value could still change, nor where a
decimal must not be computed with. -/
def isHashable : Datum → Bool
  | list _ => false
  | mapping _ => false
  | decimal d => !d.isSignaling
  | tuple xs => areHashable xs
  | tagged _ d => isHashable d
  | _ => true

/-- Can things be kept under each of the values? -/
def areHashable : List Datum → Bool
  | [] => true
  | x :: xs => isHashable x && areHashable xs

end

end Datum

/-- What stands where a field name is expected: a name, or some other value. -/
inductive FieldRef where
  | name (s : String)
  | stray (d : Datum)
  deriving Inhabited

namespace FieldRef

/-- The value as it was given. -/
def datum : FieldRef → Datum
  | name s => .text s
  | stray d => d

/-- A value taken for a field. -/
def ofDatum : Datum → FieldRef
  | .text s => name s
  | d => stray d

/-- The name, where it is one. -/
def name? : FieldRef → Option String
  | name s => some s
  | stray _ => none

/-- Can things be kept under what stands for a field? -/
def isHashable (f : FieldRef) : Bool := f.datum.isHashable

@[simp] theorem isHashable_name (s : String) : (name s).isHashable = true := rfl

@[simp] theorem ofDatum_datum_name (s : String) : ofDatum (name s).datum = name s := rfl

end FieldRef

end RecordStore
