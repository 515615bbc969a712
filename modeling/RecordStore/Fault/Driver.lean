import RecordStore.Fault.Message

/-!
# Faults of the database driver

What the driver reports is told in the library's own terms, in one place: broken constraints by
their names, trouble with the connection and time-outs, and all the rest.
-/

namespace RecordStore.Fault

/-- Does the fault come from the driver, or is it a time-out? -/
def isFromDriver : Fault → Bool
  | external (.driver _ _) _ _ => true
  | external .timeout _ _ => true
  | _ => false

/-- The name of a constraint that the server may have reported. -/
def constraintName (reported : Option String) : String :=
  match reported with
  | none => "unknown"
  | some s => if s.isEmpty then "unknown" else s

/-- A fault of an operation in the library's own terms, with the fault itself as its cause. -/
def inOwnTerms (operation : String) (f : Fault) : Fault :=
  let failed := operation ++ " failed: " ++ f.message
  match f with
  | external (.driver .integrity _) _ reported =>
    constraint (constraintName reported) f.message (some f)
  | external (.driver .connectivity _) _ _ => connectivity failed (some f)
  | external .timeout _ _ => connectivity failed (some f)
  | _ => backend failed (some f)

/-- Puts a fault of the driver in the library's own terms; every other fault stays what it is. -/
def ofDriver (operation : String) (f : Fault) : Fault :=
  if f.isFromDriver then f.inOwnTerms operation else f

end RecordStore.Fault
