import RecordStore.Fault.Basic

/-!
# The wording of faults

One message per cause, the name of each class of faults, and the classes that it belongs to.
-/

namespace RecordStore

/-- Names in the order of their code points. -/
def sortedNames (names : List String) : List String := names.mergeSort (fun a b => a ≤ b)

/-- A text between single marks. -/
def marked (s : String) : String := "'" ++ s ++ "'"

namespace TypeFault

/-- The wording of a fault of type. -/
def message : TypeFault → String
  | unsupported t => "Unsupported value type: " ++ t
  | cannotUse k d target =>
    "Cannot use " ++ k.name ++ " value " ++ d.shown ++ " as " ++ target.name
  | cannotCompare a b => "Cannot compare " ++ a.name ++ " with " ++ b.name
  | cannotOrder a b => "Cannot order " ++ a.shown ++ " and " ++ b.shown
  | nullOperand op f => marked op ++ " on " ++ marked f.text ++ " cannot compare with null"
  | textOperand op f t =>
    marked op ++ " on " ++ marked f.text ++ " needs a text operand, got " ++ t
  | setFromText f => "'in_set' on " ++ marked f.text ++ " needs a collection, not a string"
  | mixedKinds f ks =>
    "'in_set' on " ++ marked f.text ++ " mixes value variants: " ++
      commaSeparated (sortedNames (ks.map Kind.name))
  | textField op f k =>
    marked op ++ " is only valid on text fields; " ++ marked f.text ++ " is " ++ k.name
  | textStored op f k =>
    marked op ++ " is only valid on text fields; " ++ marked f.text ++ " holds " ++ k.name
  | setOperand s => "in_set operand must be a tuple of values: " ++ s
  | valueOperand s => "Operand must be a value: " ++ s
  | singleValue op f => marked op ++ " on " ++ marked f.text ++ " needs a single value"
  | atField f t => "Field " ++ marked f.text ++ ": " ++ t.message
  | notFilter s => "Not a filter expression: " ++ s

end TypeFault

/-- The wording of a fault in building a statement. -/
def BuilderFault.message : BuilderFault → String
  | badIdentifier c d => "Invalid SQL " ++ c ++ ": " ++ d.shown
  | mixed a b => "Cannot mix " ++ a ++ " with " ++ b
  | emptySubquery => "Subquery cannot be empty"
  | emptyCondition => "WHERE condition cannot be empty"
  | parameterCount p n =>
    "Parameter count mismatch: " ++ toString p ++ " placeholders, " ++ toString n ++ " parameters"
  | badDirection s => "Invalid sort direction: " ++ s
  | badLimit => "LIMIT count must be a non-negative integer"
  | badOffset => "OFFSET count must be a non-negative integer"
  | lockNeedsSelect => "FOR UPDATE can only be used with SELECT"
  | valuesNeedInsert => "VALUES can only be used with INSERT"
  | valuesCount v c =>
    "VALUES parameter count (" ++ toString v ++ ") must match column count (" ++ toString c ++ ")"
  | setNeedsUpdate => "SET can only be used with UPDATE"
  | noStatement => "No query type specified"
  | selectColumns => "SELECT query must have columns"
  | selectSource => "SELECT query must have a FROM source"
  | insertColumns => "INSERT query must have columns"
  | insertValues => "INSERT query must have VALUES"
  | updateAssignments => "UPDATE query must have SET clauses"

/-- The wording of a fault in using the library. -/
def UsageFault.message : UsageFault → String
  | badDirection s => "Invalid sort direction: " ++ s
  | notCount n d => n ++ " must be a non-negative integer, got " ++ d.shown
  | endedHandle => "Transaction handle used after its transaction ended"
  | sharedHandle => "Use the transaction handle inside a unit of work"
  | rawSql => "Raw SQL statements are not supported by the in-memory backend"
  | unsupportedStatement s => "Unsupported write statement: " ++ s
  | missingHandle op => marked op ++ " needs a backend handle"

/-- A list of names as messages show it. -/
def showNames (names : List String) : String := bracketed (names.map Text.quoted)

/-- The wording of a fault between an entity and its record. -/
def SerializationFault.message : SerializationFault → String
  | dumpFailed m => "dump failed: " ++ m
  | shape missing extra =>
    "dump produced an unexpected shape (missing=" ++ showNames missing ++ ", extra=" ++
      showNames extra ++ ")"
  | field n m => "field " ++ marked n ++ ": " ++ m
  | loadFailed m => "load failed: " ++ m
  | rowMismatch m => "row does not match declared fields: " ++ m
  | viewMismatch m => "view row does not match declared fields: " ++ m
  | custom m => m

/-- The wording of a fault in the parts of a decimal. -/
def PartFault.message : PartFault → String
  | length => "argument must be a sequence of length 3"
  | sign => "sign must be an integer with the value 0 or 1"
  | word => "string argument in the third position must be 'F', 'n' or 'N'"
  | exponent => "exponent must be an integer"
  | coefficient => "coefficient must be a tuple of digits"

/-- The wording for a part of a timestamp in the given year that is out of its range. -/
def timeRangeMessage (year : Nat) : Timestamp.Part → String
  | .date .year => "year " ++ toString year ++ " is out of range"
  | .date .month => "month must be in 1..12"
  | .date .day => "day is out of range for month"
  | .hour => "hour must be in 0..23"
  | .minute => "minute must be in 0..59"
  | .second => "second must be in 0..59"

/-- How many characters of a text that is no integer are shown. -/
def ArgumentFault.shownLength : Nat := 200

/-- The wording of a fault in an argument. -/
def ArgumentFault.message : ArgumentFault → String
  | emptyTable => "A repository needs a table name"
  | undeclaredKey ns => "Key fields not declared by the mapping: " ++ showNames ns
  | emptyShape => "An entity mapping needs at least one field"
  | tooFew e g =>
    "not enough values to unpack (expected " ++ toString e ++ ", got " ++ toString g ++ ")"
  | tooMany e => "too many values to unpack (expected " ++ toString e ++ ")"
  | urlScheme s => "Invalid database URL scheme: " ++ s
  | urlBrackets => "Invalid IPv6 URL"
  | urlFuture => "IPvFuture address is invalid"
  | urlVersion4 => "An IPv4 address cannot be in brackets"
  | urlAddress h => Text.quoted h ++ " does not appear to be an IPv4 or IPv6 address"
  | urlNormalization n =>
    "netloc " ++ marked n ++ " contains invalid characters under NFKC normalization"
  | portText s => "Port could not be cast to integer value as " ++ Text.quoted s
  | portRange => "Port out of range 0-65535"
  | integerText b s =>
    "invalid literal for int() with base " ++ toString b ++ ": " ++
      String.ofList (s.shown.toList.take ArgumentFault.shownLength)
  | tooManyDigits n =>
    "Exceeds the limit (4300 digits) for integer string conversion: value has " ++ toString n ++
      " digits; use sys.set_int_max_str_digits() to increase the limit"
  | floatText s => "could not convert string to float: " ++ Text.quoted s
  | noNumber w => "cannot convert " ++ w ++ " to integer"
  | decimalPart p => p.message
  | byteRange => "byte must be in range(0, 256)"
  | hexText n => "non-hexadecimal number found in fromhex() arg at position " ++ toString n
  | identifierText => "badly formed hexadecimal UUID string"
  | timeText s => "Invalid isoformat string: " ++ Text.quoted s
  | timeRange p d => timeRangeMessage d.year p
  | offsetRange n =>
    "offset must be a timedelta strictly between -timedelta(hours=24) and " ++
      "timedelta(hours=24), not " ++ Datum.showSpan n ++ "."
  | noMember what d => d.shown ++ " is not a valid " ++ what
  | minPool n => "min_pool_size must be >= 0, got " ++ n.plain
  | maxPool a b =>
    "max_pool_size (" ++ a.plain ++ ") must be >= min_pool_size (" ++ b.plain ++ ") and >= 1"
  | poolTimeout d => "pool_timeout must be positive, got " ++ d.plain

/-- The wording of a refused change. -/
def ImmutableFault.message : ImmutableFault → String
  | value a => "Cannot modify immutable value attribute " ++ marked a
  | queryResult => "QueryResult is immutable after creation"

/-- The wording of a release that does not fit. -/
def LockFault.message : LockFault → String
  | releaseRead => "release_read called without a matching acquire_read"
  | releaseWrite => "release_write called without a matching acquire_write"

/-- The name of a class of faults that callers word. -/
def WordedClass.name : WordedClass → String
  | general => "RepositoryError"
  | usage => "UsageError"
  | builder => "QueryBuilderError"
  | transaction => "TransactionError"
  | filter => "FilterError"
  | filterType => "FilterTypeError"

/-- The classes that a class of faults that callers word belongs to, the narrowest first. -/
def WordedClass.lineage : WordedClass → List String
  | general => ["RepositoryError"]
  | builder => ["QueryBuilderError", "UsageError", "RepositoryError"]
  | filterType => ["FilterTypeError", "FilterError", "RepositoryError"]
  | cls => [cls.name, "RepositoryError"]

namespace Fault

/-- The wording of a fault. -/
def message : Fault → String
  | worded _ m _ => m
  | constraint n d _ =>
    "Integrity constraint " ++ marked n.plain ++ " violated" ++
      (if d.isEmpty then "" else ": " ++ d)
  | connectivity m _ => m
  | backend m _ => m
  | usage w => w.message
  | builder w => w.message
  | nestedTransaction => "Transaction is already active; nested transactions are not supported"
  | noTransaction op => marked op.plain ++ " requires an active transaction"
  | filterField f known =>
    "Unknown field " ++ marked f.text ++
      (let names := commaSeparated (sortedNames known)
       if names.isEmpty then "" else " (known fields: " ++ names ++ ")")
  | filterType w => w.message
  | serialization e w _ => e.plain ++ " serialization failed: " ++ w.message
  | argument w => w.message
  | wrongType => ""
  | missingOperation => ""
  | noUnitOfWork t => "No unit of work for backend " ++ t
  | immutable w => w.message
  | invalidOperation => ""
  | overflow => ""
  | tooLarge => ""
  | lock w => w.message
  | missingKey k => k.shown
  | external c m _ => match m with
    | none => ""
    | some m => if c.name = "KeyError" then Text.quoted m else m

/-- The name of the class of a fault. -/
def className : Fault → String
  | worded cls _ _ => cls.name
  | constraint .. => "ConstraintViolation"
  | connectivity .. => "ConnectivityError"
  | backend .. => "BackendError"
  | usage _ => "UsageError"
  | builder _ => "QueryBuilderError"
  | nestedTransaction => "NestedTransactionError"
  | noTransaction _ => "TransactionNotActiveError"
  | filterField .. => "FilterFieldError"
  | filterType _ => "FilterTypeError"
  | serialization .. => "SerializationError"
  | argument _ => "ValueError"
  | wrongType => "TypeError"
  | missingOperation => "AttributeError"
  | noUnitOfWork _ => "TypeError"
  | immutable _ => "AttributeError"
  | invalidOperation => "InvalidOperation"
  | overflow => "Overflow"
  | tooLarge => "OverflowError"
  | lock _ => "RuntimeError"
  | missingKey _ => "KeyError"
  | external c _ _ => c.name

/-- The classes of the library's own that a fault belongs to, the narrowest first; none for a
fault of another origin. -/
def lineage (f : Fault) : List String :=
  match f with
  | worded cls _ _ => cls.lineage
  | constraint .. | connectivity .. | backend .. | usage _ | serialization .. =>
    [f.className, "RepositoryError"]
  | builder _ => [f.className, "UsageError", "RepositoryError"]
  | nestedTransaction | noTransaction _ =>
    [f.className, "TransactionError", "UsageError", "RepositoryError"]
  | filterField .. | filterType _ => [f.className, "FilterError", "RepositoryError"]
  | _ => []

/-- The fault that this one wraps. -/
def cause? : Fault → Option Fault
  | worded _ _ c => c
  | constraint _ _ c => c
  | connectivity _ c => c
  | backend _ c => c
  | serialization _ _ c => c
  | _ => none

end Fault

end RecordStore
