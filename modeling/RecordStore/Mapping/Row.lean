import RecordStore.Mapping.Basic

/-!
# Mappings of plain rows

Where the entities are rows themselves, the two functions of a mapping are written down as rules:
which columns are stored, which are set to constants, and which a loaded row must have.
-/

namespace RecordStore

/-- How a row is dumped. -/
inductive DumpRule where
  | failing (f : Fault)
  /-- The columns to store, all of them if none are named, and the constants set over them. -/
  | columns (only : Option (List String)) (constants : Row)
  deriving Inhabited

/-- How a row is loaded. -/
inductive LoadRule where
  | failing (f : Fault)
  /-- The named columns in the order of the names, each of which must be there. -/
  | required (names : List String)
  /-- Every column, as often as the record gives it. -/
  | everything
  deriving Inhabited

namespace DumpRule

/-- Is the column to be stored? -/
def stores (only : Option (List String)) (name : String) : Bool :=
  match only with
  | none => true
  | some names => names.contains name

/-- Dumps a row. -/
def dump? : DumpRule → Row → Outcome Row
  | failing f, _ => throw f
  | columns only constants, row =>
    pure (Assoc.merge (row.filter fun p => stores only p.1) constants)

end DumpRule

namespace LoadRule

/-- Loads a row. -/
def load? : LoadRule → Record → Outcome Row
  | failing f, _ => throw f
  | required names, r => names.mapM fun n => do return (n, ← r.get? n)
  | everything, r => pure r.items

end LoadRule

/-- The mapping of rows by two rules. -/
def EntityMapping.ofRules? (fields : Shape) (name : String) (dump : DumpRule) (load : LoadRule) :
    Outcome (EntityMapping Row) :=
  make? fields name dump.dump? load.load?

end RecordStore
