import RecordStore.Value.Sort

/-!
# Faults that callers' code raises

Faults by the name of their class: `Fault.ofArguments?` makes one of the library's own from what
it is told, `Fault.raised?` one of any class with a message.
-/

namespace RecordStore.Fault

/-- The class of a name among those that callers word themselves. -/
def wordedClass? (cls : String) : Option WordedClass :=
  [WordedClass.general, .usage, .builder, .transaction, .filter, .filterType].find? (·.name = cls)

/-- The text of a value that must be one. -/
def textOf? : Datum → Outcome String
  | .text s => pure s
  | _ => throw .wrongType

/-- The names of known fields that an argument lists. -/
def knownFields? (d : Datum) : Outcome (List String) :=
  match d.elements? with
  | some ds => do (← Sorting.sort Datum.precedes? .ascending ds).mapM textOf?
  | none => throw .wrongType

/-- The detail that an argument gives, which may be left away. -/
def detail (d : Option Datum) : String :=
  match d with
  | some d => if d.isTruthy then d.plain else ""
  | none => ""

/-- The cause among the arguments or the one that is given by name, but not both.  A value that is
no fault is known by its type alone. -/
def causeOf? (argument : Option Datum) (named : Option Fault) : Outcome (Option Fault) :=
  match argument, named with
  | some _, some _ => throw .wrongType
  | some .null, none => pure none
  | some d, none => pure (some (.external (.other d.typeName) none none))
  | none, c => pure c

/-- Fails where there are too few or too many arguments. -/
def expecting? (low high : Nat) (arguments : List Datum) : Outcome Unit :=
  if low ≤ arguments.length ∧ arguments.length ≤ high then pure () else throw .wrongType

/-- Fails where a cause is given. -/
def causeless? (named : Option Fault) : Outcome Unit :=
  if named.isNone then pure () else throw .wrongType

/-- The makers of the library's own faults, by the names of their classes. -/
def maker? (cls : String) : Option (List Datum → Option Fault → Outcome Fault) :=
  let text (ds : List Datum) (n : Nat) (fallback : String) := (ds[n]?.map Datum.plain).getD fallback
  match cls with
  | "ConstraintViolation" => some fun ds named => do
    expecting? 1 3 ds
    return constraint (ds[0]?.getD .null) (detail ds[1]?) (← causeOf? ds[2]? named)
  | "ConnectivityError" => some fun ds named => do
    expecting? 0 2 ds
    return connectivity (text ds 0 "Database connection failed") (← causeOf? ds[1]? named)
  | "BackendError" => some fun ds named => do
    expecting? 1 2 ds
    return backend (text ds 0 "") (← causeOf? ds[1]? named)
  | "NestedTransactionError" => some fun ds named => do
    expecting? 0 0 ds
    causeless? named
    return nestedTransaction
  | "TransactionNotActiveError" => some fun ds named => do
    expecting? 0 1 ds
    causeless? named
    return noTransaction (ds[0]?.getD "operation")
  | "FilterFieldError" => some fun ds named => do
    expecting? 1 2 ds
    causeless? named
    return filterField (.ofDatum (ds[0]?.getD .null)) (← knownFields? (ds[1]?.getD (.tuple [])))
  | "SerializationError" => some fun ds named => do
    expecting? 2 3 ds
    return serialization (ds[0]?.getD .null) (.custom (text ds 1 "")) (← causeOf? ds[2]? named)
  | _ => (wordedClass? cls).map fun c ds named => do
    expecting? 1 2 ds
    return worded c (text ds 0 "") (← causeOf? ds[1]? named)

/-- A fault of the library's own from the name of its class, its arguments and its cause. -/
def ofArguments? (cls : String) (arguments : List Datum) (named : Option Fault) :
    Option (Outcome Fault) :=
  (maker? cls).map fun make => make arguments named

/-- The arguments with which a class is told a message. -/
def messageArguments (cls : String) (message : Option String) : List Datum :=
  let given : Datum := (message.map Datum.text).getD .null
  match cls with
  | "ConstraintViolation" => ["custom", given]
  | "SerializationError" => ["Custom", given]
  | _ => (message.map Datum.text).toList

/-- The fault of any class with a message; `reported` is the constraint that the server names. -/
def raised? (cls : String) (message reported : Option String) : Outcome Fault :=
  (ofArguments? cls (messageArguments cls message) none).getD
    (pure (external (.ofName cls) message reported))

/-- The fault that is raised in the end: the one that was made, or the one for which it could not
be made. -/
def thrown : Outcome Fault → Fault
  | .ok f => f
  | .error f => f

end RecordStore.Fault
