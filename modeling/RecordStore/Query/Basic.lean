import RecordStore.Filter.Make
import RecordStore.Filter.Validation
import RecordStore.Text.Case
import RecordStore.Value.Sort

/-!
# Queries

A query is a filter, a list of order keys, a limit and an offset.  It is evaluated in this order
always: filter, stable sort by the keys, offset, limit.

* `OrderKey.parse?` reads the ways to write an order key.
* `Query.withLimit?` and `Query.withOffset?` accept counts only.
* `Query.validate?` checks a query against a shape.
-/

namespace RecordStore

/-- The direction of an order key; anything that is not a direction sorts ascending. -/
inductive KeyDirection where
  | known (d : Direction)
  | stray (d : Datum)
  deriving Inhabited

/-- The direction in which the key sorts. -/
def KeyDirection.direction : KeyDirection → Direction
  | known d => d
  | stray _ => .ascending

/-- One key of a sort. -/
structure OrderKey where
  field : FieldRef
  direction : KeyDirection := .known .ascending
  deriving Inhabited

/-- A way to write an order key. -/
inductive OrderItem where
  /-- A key that is made already. -/
  | key (k : OrderKey)
  /-- A field with a direction. -/
  | directed (field : Datum) (d : Direction)
  /-- A name alone, or a pair of a name and the name of a direction. -/
  | plain (d : Datum)
  deriving Inhabited

namespace OrderKey

/-- The name of a direction. -/
def directionName : Direction → String
  | .ascending => "asc"
  | .descending => "desc"

/-- The direction of a name. -/
def exactDirection? (s : String) : Option Direction :=
  [Direction.ascending, .descending].find? (directionName · = s)

/-- The direction of a name in any case. -/
def direction? (s : String) : Option Direction := exactDirection? (Text.lower s)

/-- The direction that a value names. -/
def directionOf? (d : Datum) : Outcome Direction := d.member? "Direction" exactDirection?

/-- A key of a field and what is given for its direction. -/
def ofPair? (field direction : Datum) : Outcome OrderKey :=
  match direction with
  | .text s => match direction? s with
    | some d => pure ⟨.ofDatum field, .known d⟩
    | none => throw (.usage (.badDirection s))
  | d => pure ⟨.ofDatum field, .stray d⟩

/-- Reads an order key. -/
def parse? : OrderItem → Outcome OrderKey
  | .key k => pure k
  | .directed f d => pure ⟨.ofDatum f, .known d⟩
  | .plain (.text s) => pure ⟨.name s, .known .ascending⟩
  | .plain d => match d.elements? with
    | some [f, dir] => ofPair? f dir
    | some xs =>
      if 2 < xs.length then throw (.argument (.tooMany 2))
      else throw (.argument (.tooFew 2 xs.length))
    | none => throw .wrongType

end OrderKey

/-- A filter with ordering and pagination. -/
structure Query where
  condition : Option Filter := none
  ordering : List OrderKey := []
  limit : Option Nat := none
  offset : Option Nat := none
  deriving Inhabited

namespace Query

/-- A count of rows: nothing, or a whole number that is not negative. -/
def count? (name : String) (d : Datum) : Outcome (Option Nat) :=
  match d with
  | .null => pure none
  | .integer n => if n < 0 then throw (.usage (.notCount name d)) else pure (some n.toNat)
  | d => throw (.usage (.notCount name d))

/-- The query with another filter. -/
def withFilter (q : Query) (f : Option Filter) : Query := { q with condition := f }

/-- The query with other order keys. -/
def withOrder? (q : Query) (items : List OrderItem) : Outcome Query := do
  return { q with ordering := ← items.mapM OrderKey.parse? }

/-- The query with another limit. -/
def withLimit? (q : Query) (d : Datum) : Outcome Query := do
  return { q with limit := ← count? "limit" d }

/-- The query with another offset. -/
def withOffset? (q : Query) (d : Datum) : Outcome Query := do
  return { q with offset := ← count? "offset" d }

/-- A query of a limit and an offset alone. -/
def paged? (limit offset : Datum) : Outcome Query := do
  let n ← count? "limit" limit
  return { limit := n, offset := ← count? "offset" offset }

/-- Can the query return nothing at all? -/
def isEmptyPage (q : Query) : Bool := q.limit == some 0

/-- Fails at the first order key whose field is not declared. -/
def checkOrder? (fields : Shape) (keys : List OrderKey) : Outcome Unit :=
  keys.forM fun k => do let _ ← Filter.declared? fields k.field

/-- Checks a query against a shape, order keys first. -/
def validate? (q : Query) (fields : Shape) : Outcome Query := do
  checkOrder? fields q.ordering
  match q.condition with
  | none => pure q
  | some f => return { q with condition := some (← f.validate? fields) }

end Query

/-- A call that changes a query, as it is written down. -/
inductive QueryStep where
  | filter (f : Option FilterForm)
  | order (items : List OrderItem)
  | limit (d : Datum)
  | offset (d : Datum)
  | paged (limit offset : Datum)
  | validated (fields : Shape)
  deriving Inhabited

namespace QueryStep

/-- The filter of a form, where nothing stands for none. -/
def filter? (form : Option FilterForm) : Outcome (Option Filter) :=
  match form with
  | none => pure none
  | some f => do return (← f.make? {} (.junk .null)).given?

/-- Makes the change. -/
def change? (q : Query) : QueryStep → Outcome Query
  | filter f => do return q.withFilter (← filter? f)
  | order items => q.withOrder? items
  | limit d => q.withLimit? d
  | offset d => q.withOffset? d
  | paged l o => Query.paged? l o
  | validated fields => q.validate? fields

/-- Makes the changes one after another on an empty query. -/
def build? (steps : List QueryStep) : Outcome Query := steps.foldlM change? {}

end QueryStep

end RecordStore
