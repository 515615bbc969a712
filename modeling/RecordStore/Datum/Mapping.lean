import RecordStore.Datum.Order

/-!
# Mappings of plain values

A mapping is made entry by entry: a key that is there already keeps its place and gets the new
value.

* `Datum.ofEntries?` makes a mapping; every key has to be hashable.
* `Datum.tag` gives a value a kind.
-/

namespace RecordStore.Datum

/-- The entries once a value is put under a key. -/
def putEntry (k v : Datum) : List (Datum × Datum) → List (Datum × Datum)
  | [] => [(k, v)]
  | (l, w) :: es => if l.sameKey k then (l, v) :: es else (l, w) :: putEntry k v es

/-- The mapping of several entries. -/
def ofEntries? (es : List (Datum × Datum)) : Outcome Datum := do
  if es.all fun p => p.1.isHashable then
    return mapping (es.foldl (fun fs p => putEntry p.1 p.2 fs) [])
  else throw .wrongType

/-- A value with a kind; null carries no data. -/
def tag (kind : Kind) (d : Datum) : Datum := tagged kind (if kind = .null then null else d)

@[simp] theorem putEntry_nil (k v : Datum) : putEntry k v [] = [(k, v)] := rfl

end RecordStore.Datum
