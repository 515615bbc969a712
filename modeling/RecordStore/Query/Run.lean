import RecordStore.Filter.Evaluation
import RecordStore.Query.Basic

/-!
# Running a query on records

`Query.run?` filters records, sorts them by the order keys, and takes the page.  The sort goes
through the keys from the last to the first and is stable, so the first key counts most and
records that tie on every key keep their order.
-/

namespace RecordStore.Query

/-- Does the first record come before the second by one field? -/
def before? (field : FieldRef) (a b : Record) : Outcome Bool :=
  (a.stored field).before? (b.stored field)

/-- Sorts records by one key. -/
def sortBy? (key : OrderKey) (rs : List Record) : Outcome (List Record) :=
  if key.field.isHashable || rs.isEmpty then
    Sorting.sort (before? key.field) key.direction.direction rs
  else throw .wrongType

/-- Sorts records by several keys. -/
def sort? (keys : List OrderKey) (rs : List Record) : Outcome (List Record) :=
  match keys with
  | [] => pure rs
  | key :: rest => do sortBy? key (← sort? rest rs)

/-- The page of a list. -/
def page {α : Type} (q : Query) (xs : List α) : List α :=
  let rest := xs.drop (q.offset.getD 0)
  match q.limit with
  | none => rest
  | some n => rest.take n

/-- Runs a query. -/
def run? (q : Query) (rs : List Record) : Outcome (List Record) :=
  if q.isEmptyPage then pure []
  else do return q.page (← sort? q.ordering (← Filter.select? q.condition rs))

end RecordStore.Query
