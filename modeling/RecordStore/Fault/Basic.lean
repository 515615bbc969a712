import RecordStore.Datum.Printer

/-!
# Faults

Everything that can go wrong, by cause.  A fault of the library's own is a constructor of its
own with the data that tell what happened; what callers' code or the database driver raises is
`Fault.external` with the class of the error.  The wording is in `RecordStore.Fault.Message`.
-/

namespace RecordStore

/-- How the driver groups its errors. -/
inductive DriverGroup where
  | integrity | connectivity | other
  deriving DecidableEq, Repr, Inhabited

/-- The class of an error that is not the library's own. -/
inductive ErrorClass where
  /-- The running task was cancelled. -/
  | cancelled
  /-- Something took too long. -/
  | timeout
  /-- The operating system refused. -/
  | os (name : String)
  /-- The database driver reports an error. -/
  | driver (group : DriverGroup) (name : String)
  /-- The program is to stop. -/
  | stop (name : String)
  /-- Any other error. -/
  | other (name : String)
  deriving DecidableEq, Repr, Inhabited

namespace ErrorClass

/-- The driver's errors about broken constraints. -/
def integrityNames : List String :=
  ["IntegrityError", "UniqueViolation", "ForeignKeyViolation", "NotNullViolation",
    "CheckViolation", "ExclusionViolation", "RestrictViolation"]

/-- The driver's errors about the connection, the pool and the server's state. -/
def connectivityNames : List String :=
  ["OperationalError", "InterfaceError", "SerializationFailure", "DeadlockDetected",
    "QueryCanceled", "AdminShutdown", "ConnectionFailure", "LockNotAvailable", "PoolTimeout",
    "PoolClosed", "TooManyRequests"]

/-- The driver's other errors. -/
def otherDriverNames : List String :=
  ["Error", "DatabaseError", "DataError", "ProgrammingError", "InternalError",
    "NotSupportedError", "UndefinedTable", "SyntaxError", "InsufficientPrivilege",
    "NumericValueOutOfRange"]

/-- The errors of the operating system. -/
def osNames : List String :=
  ["OSError", "ConnectionError", "ConnectionRefusedError", "ConnectionResetError",
    "ConnectionAbortedError", "BrokenPipeError", "FileNotFoundError", "FileExistsError",
    "PermissionError", "InterruptedError", "BlockingIOError", "ChildProcessError",
    "IsADirectoryError", "NotADirectoryError", "ProcessLookupError"]

/-- The class of an error of the given name. -/
def ofName (s : String) : ErrorClass :=
  if s = "CancelledError" then cancelled
  else if s = "TimeoutError" then timeout
  else if integrityNames.contains s then driver .integrity s
  else if connectivityNames.contains s then driver .connectivity s
  else if otherDriverNames.contains s then driver .other s
  else if osNames.contains s then os s
  else if ["KeyboardInterrupt", "SystemExit", "GeneratorExit"].contains s then stop s
  else other s

/-- The name of a class. -/
def name : ErrorClass → String
  | cancelled => "CancelledError"
  | timeout => "TimeoutError"
  | os s => s
  | driver _ s => s
  | stop s => s
  | other s => s

/-- Can ordinary handling of errors take the error up?  Cancellation and the order to stop pass
through. -/
def isOrdinary : ErrorClass → Bool
  | cancelled => false
  | stop _ => false
  | _ => true

end ErrorClass

/-- Why a value or filter has the wrong type. -/
inductive TypeFault where
  /-- The value has no kind. -/
  | unsupported (typeName : String)
  /-- A value of one kind cannot be used as another. -/
  | cannotUse (kind : Kind) (data : Datum) (target : Kind)
  /-- Values of two kinds are not comparable. -/
  | cannotCompare (a b : Kind)
  /-- Two values of one kind have no order. -/
  | cannotOrder (a b : Datum)
  /-- An ordering operator was given null. -/
  | nullOperand (operator : String) (field : FieldRef)
  /-- A text operator was given something else. -/
  | textOperand (operator : String) (field : FieldRef) (typeName : String)
  /-- A set was given as a text. -/
  | setFromText (field : FieldRef)
  /-- The members of a set have several kinds. -/
  | mixedKinds (field : FieldRef) (kinds : List Kind)
  /-- A text operator meets a field of another kind. -/
  | textField (operator : String) (field : FieldRef) (kind : Kind)
  /-- A text operator meets a stored value of another kind. -/
  | textStored (operator : String) (field : FieldRef) (kind : Kind)
  /-- A set operator has no set. -/
  | setOperand (shown : String)
  /-- A scalar operator has no value. -/
  | valueOperand (shown : String)
  /-- A scalar operator has no single value to work with. -/
  | singleValue (operator : String) (field : FieldRef)
  /-- A fault in the operand of a field. -/
  | atField (field : FieldRef) (fault : TypeFault)
  /-- Something else stands in the place of a filter. -/
  | notFilter (shown : String)
  deriving Inhabited

/-- Why a statement could not be put together. -/
inductive BuilderFault where
  | badIdentifier (context : String) (name : Datum)
  | mixed (wanted current : String)
  | emptySubquery
  | emptyCondition
  | parameterCount (placeholders parameters : Nat)
  | badDirection (text : String)
  | badLimit
  | badOffset
  | lockNeedsSelect
  | valuesNeedInsert
  | valuesCount (values columns : Nat)
  | setNeedsUpdate
  | noStatement
  | selectColumns
  | selectSource
  | insertColumns
  | insertValues
  | updateAssignments
  deriving Inhabited

/-- How the library was called against its rules. -/
inductive UsageFault where
  | badDirection (text : String)
  | notCount (name : String) (value : Datum)
  | endedHandle
  | sharedHandle
  | rawSql
  | unsupportedStatement (shown : String)
  | missingHandle (operation : String)
  deriving Inhabited

/-- Why an entity and its record do not fit. -/
inductive SerializationFault where
  | dumpFailed (message : String)
  | shape (missing extra : List String)
  | field (name message : String)
  | loadFailed (message : String)
  | rowMismatch (message : String)
  | viewMismatch (message : String)
  | custom (message : String)
  deriving Inhabited

/-- Which part of a decimal is not as it must be. -/
inductive PartFault where
  | length | sign | word | exponent | coefficient
  deriving DecidableEq, Repr, Inhabited

/-- Why an argument has no acceptable value. -/
inductive ArgumentFault where
  | emptyTable
  | undeclaredKey (names : List String)
  | emptyShape
  | tooFew (expected got : Nat)
  | tooMany (expected : Nat)
  | urlScheme (scheme : String)
  | urlBrackets
  | urlFuture
  | urlVersion4
  | urlAddress (host : String)
  | urlNormalization (netloc : String)
  | portText (text : String)
  | portRange
  | integerText (base : Nat) (text : Datum)
  | tooManyDigits (count : Nat)
  | floatText (text : String)
  | noNumber (what : String)
  | decimalPart (part : PartFault)
  | byteRange
  | hexText (place : Nat)
  | identifierText
  | timeText (text : String)
  | timeRange (part : Timestamp.Part) (date : Date)
  | offsetRange (micros : Int)
  /-- The value is no member of a closed set. -/
  | noMember (set : String) (given : Datum)
  | minPool (size : Datum)
  | maxPool (max min : Datum)
  | poolTimeout (seconds : Datum)
  deriving Inhabited

/-- Why a value refuses to change. -/
inductive ImmutableFault where
  | value (name : String)
  | queryResult
  deriving Inhabited

/-- A release of a lock that nobody holds. -/
inductive LockFault where
  | releaseRead
  | releaseWrite
  deriving DecidableEq, Repr, Inhabited

/-- The classes of the library's own faults that callers' code raises in words of its own. -/
inductive WordedClass where
  /-- A failure without a class of its own. -/
  | general
  | usage
  | builder
  /-- A failure of a transaction. -/
  | transaction
  /-- A filter is invalid. -/
  | filter
  | filterType
  deriving DecidableEq, Repr, Inhabited

/-- What went wrong. -/
inductive Fault where
  /-- A fault of the library's own that callers' code raises. -/
  | worded (cls : WordedClass) (message : String) (cause : Option Fault)
  /-- A uniqueness or reference constraint is broken. -/
  | constraint (name : Datum) (detail : String) (cause : Option Fault)
  /-- The backend cannot be reached. -/
  | connectivity (message : String) (cause : Option Fault)
  /-- The backend reports another failure. -/
  | backend (message : String) (cause : Option Fault)
  /-- The library was called against its rules. -/
  | usage (why : UsageFault)
  /-- A statement could not be put together. -/
  | builder (why : BuilderFault)
  /-- A transaction was begun inside another. -/
  | nestedTransaction
  /-- An operation needs a transaction and there is none. -/
  | noTransaction (operation : Datum)
  /-- A filter or order key names an unknown field. -/
  | filterField (field : FieldRef) (known : List String)
  /-- A filter applies an operator to the wrong kind of value. -/
  | filterType (why : TypeFault)
  /-- An entity and its record do not fit. -/
  | serialization (entity : Datum) (why : SerializationFault) (cause : Option Fault)
  /-- An argument has no acceptable value. -/
  | argument (why : ArgumentFault)
  /-- An operation does not apply to a value of this type. -/
  | wrongType
  /-- A value does not have the operation that was asked of it. -/
  | missingOperation
  /-- There is no unit of work for a handle of this type. -/
  | noUnitOfWork (typeName : String)
  /-- A value was to be changed that cannot change. -/
  | immutable (why : ImmutableFault)
  /-- Decimal arithmetic has no answer. -/
  | invalidOperation
  /-- A sum of decimals is too large. -/
  | overflow
  /-- A number is too large for the form that it is to take. -/
  | tooLarge
  /-- A lock was released that is not held. -/
  | lock (why : LockFault)
  /-- A mapping has no such key. -/
  | missingKey (key : Datum)
  /-- An error of callers' code or of the driver; `reported` is the constraint that the server
  names. -/
  | external (cls : ErrorClass) (message : Option String) (reported : Option String)
  deriving Inhabited

namespace Fault

/-- The running task was cancelled. -/
def cancelled : Fault := .external .cancelled none none

/-- Can ordinary handling of errors take the fault up? -/
def isOrdinary : Fault → Bool
  | external c _ _ => c.isOrdinary
  | _ => true

/-- Is the fault about filter types? -/
def isFilterType : Fault → Bool
  | filterType _ => true
  | worded .filterType _ _ => true
  | _ => false

end Fault

/-- A result or a fault. -/
abbrev Outcome (α : Type) := Except Fault α

end RecordStore
