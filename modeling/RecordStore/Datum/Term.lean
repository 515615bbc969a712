import RecordStore.Assoc
import RecordStore.Datum.Mapping

/-!
# Values with holes

A `Term` is a plain value in which parts are left open until a write takes place: a field of the
entity that is written, the element at hand of one of its fields, or the operand of the filter
that a delete was called with.
-/

namespace RecordStore

/-- A plain value with holes. -/
inductive Term where
  | literal (d : Datum)
  | field (name : String)
  | item
  | operand
  | list (ts : List Term)
  | tuple (ts : List Term)
  | mapping (entries : List (Term × Term))
  | tagged (kind : Kind) (t : Term)
  /-- What has no value, with the reason. -/
  | failing (f : Fault)
  deriving Inhabited

/-- What fills the holes. -/
structure Bindings where
  entity : Assoc Datum := []
  item : Option Datum := none
  operand : Option Datum := none
  deriving Inhabited

namespace Term

/-- What was to fill a hole, or the fault that names it. -/
def filled? (name : String) : Option Datum → Outcome Datum
  | some d => pure d
  | none => throw (.missingKey name)

mutual

/-- The value of a term. -/
def value? (b : Bindings) : Term → Outcome Datum
  | literal d => pure d
  | field n => filled? n (b.entity.lookup n)
  | item => filled? "item" b.item
  | operand => match b.operand with
    | some d => pure d
    | none => throw .missingOperation
  | list ts => do return .list (← values? b ts)
  | tuple ts => do return .tuple (← values? b ts)
  | mapping es => do Datum.ofEntries? (← entries? b es)
  | tagged k t => do return .tag k (← value? b t)
  | failing f => throw f

/-- The values of several terms. -/
def values? (b : Bindings) : List Term → Outcome (List Datum)
  | [] => pure []
  | t :: ts => do
    let d ← value? b t
    return d :: (← values? b ts)

/-- The values of the entries of a mapping. -/
def entries? (b : Bindings) : List (Term × Term) → Outcome (List (Datum × Datum))
  | [] => pure []
  | (k, t) :: es => do
    let key ← value? b k
    let d ← value? b t
    return (key, d) :: (← entries? b es)

end

/-- The values of named terms. -/
def row? (b : Bindings) (ts : Assoc Term) : Outcome (Assoc Datum) :=
  ts.mapM fun p => do return (p.1, ← p.2.value? b)

end Term

end RecordStore
