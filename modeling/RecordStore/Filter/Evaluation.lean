import RecordStore.Datum.Sum
import RecordStore.Filter.Basic

/-!
# The meaning of a filter

`Filter.matches?` decides whether a record passes a filter.  Null passes only the tests that ask
for it, negation is plain negation, and conjunction and disjunction stop at the first filter that
decides them.
-/

namespace RecordStore.Filter

/-- Does the first list occur in the second, without a gap? -/
def occursIn {α : Type} [BEq α] (needle : List α) : List α → Bool
  | [] => needle.isEmpty
  | x :: rest => needle.isPrefixOf (x :: rest) || occursIn needle rest

/-- Is the value an element of the list? -/
def isMember? (d : Datum) : List Datum → Outcome Bool
  | [] => pure false
  | x :: xs => do if ← x.same? d then pure true else isMember? d xs

/-- Do bytes hold a byte of this number? -/
def holdsByte? (stored : List UInt8) (n : Int) : Outcome Bool :=
  if 0 ≤ n ∧ n < 256 then pure (stored.contains n.toNat.toUInt8)
  else throw (.argument .byteRange)

/-- Does the stored value contain the operand?  A text contains texts, bytes contain bytes and
single ones, and a collection its elements or keys. -/
def contains? (stored operand : Datum) : Outcome Bool :=
  match stored with
  | .text s => match operand with
    | .text needle => pure (occursIn needle.toList s.toList)
    | _ => throw .wrongType
  | .bytes bs => match operand with
    | .bytes needle => pure (occursIn needle bs)
    | d => match d.whole? with
      | some n => holdsByte? bs n
      | none => throw .wrongType
  | .list xs => isMember? operand xs
  | .tuple xs => isMember? operand xs
  | .mapping es =>
    if operand.isHashable then pure (es.any (·.1.sameKey operand)) else throw .wrongType
  | _ => throw .wrongType

/-- The characters of a text. -/
def textOf? : Datum → Option (List Char)
  | .text s => some s.toList
  | _ => none

/-- The bytes of bytes. -/
def bytesOf? : Datum → Option (List UInt8)
  | .bytes bs => some bs
  | _ => none

/-- Does one of the operands pass, each of which must be readable until one does? -/
def anyReadable? {α : Type} (read? : Datum → Option (List α)) (test : List α → Bool) :
    List Datum → Outcome Bool
  | [] => pure false
  | d :: ds => match read? d with
    | some needle => if test needle then pure true else anyReadable? read? test ds
    | none => throw .wrongType

/-- Does an operand pass that is one text or a tuple of them? -/
def alternatives? {α : Type} (read? : Datum → Option (List α)) (test : List α → Bool)
    (operand : Datum) : Outcome Bool :=
  match operand with
  | .tuple ds => anyReadable? read? test ds
  | d => anyReadable? read? test [d]

@[simp] theorem alternatives?_text (test : List Char → Bool) (s : String) :
    alternatives? textOf? test (.text s) = pure (test s.toList) := by
  cases h : test s.toList <;> simp [alternatives?, anyReadable?, textOf?, h]

/-- Does a list begin or end with another one? -/
def hasEnd {α : Type} [BEq α] (op : Operator) (stored needle : List α) : Bool :=
  if op = .startsWith then needle.isPrefixOf stored else needle.isSuffixOf stored

/-- A text operator on the data of a stored text. -/
def search? (op : Operator) (stored operand : Datum) : Outcome Bool :=
  if op = .contains then contains? stored operand
  else match stored with
    | .text s => alternatives? textOf? (hasEnd op s.toList) operand
    | .bytes bs => alternatives? bytesOf? (hasEnd op bs) operand
    | _ => throw .missingOperation

/-- A text operator on a stored value that is not null. -/
def matchText? (field : FieldRef) (op : Operator) (stored operand : Value) : Outcome Bool :=
  if stored.kind ≠ .text then throw (.filterType (.textStored op.name field stored.kind))
  else search? op stored.data operand.data

/-- An operator with a single operand on a stored value. -/
def matchOne? (field : FieldRef) (op : Operator) (stored operand : Value) : Outcome Bool :=
  match op with
  | .eq =>
    if operand.isNull then pure stored.isNull
    else if stored.isNull then pure false
    else stored.same? operand
  | .notEq =>
    if operand.isNull then pure (!stored.isNull)
    else if stored.isNull then pure false
    else stored.differs? operand
  | op =>
    if stored.isNull then pure false
    else match op with
      | .gt => stored.after? operand
      | .gte => stored.atLeast? operand
      | .lt => stored.before? operand
      | .lte => stored.atMost? operand
      | op => matchText? field op stored operand

/-- Is the stored value equal to a member of the set? -/
def matchSet? (stored : Value) : List Value → Outcome Bool
  | [] => pure false
  | v :: vs => do if ← stored.same? v then pure true else matchSet? stored vs

/-- A comparison on a stored value. -/
def matchStored? (field : FieldRef) (op : Operator) (operand : Operand) (stored : Value) :
    Outcome Bool :=
  match op with
  | .isNull => pure stored.isNull
  | .inSet => matchSet? stored operand.members
  | op => match operand with
    | .one v => matchOne? field op stored v
    | _ => throw (.filterType (.singleValue op.name field))

mutual

/-- Does the record pass the filter? -/
def matches? (r : Record) : Filter → Outcome Bool
  | compare f op o =>
    if f.isHashable then matchStored? f op o (r.stored f) else throw .wrongType
  | all fs => matchesAll? r fs
  | any fs => matchesAny? r fs
  | negation f => do return !(← matches? r f)
  | junk d => throw (notFilter d)

/-- Does the record pass every filter? -/
def matchesAll? (r : Record) : List Filter → Outcome Bool
  | [] => pure true
  | f :: fs => do if ← matches? r f then matchesAll? r fs else pure false

/-- Does the record pass some filter? -/
def matchesAny? (r : Record) : List Filter → Outcome Bool
  | [] => pure false
  | f :: fs => do if ← matches? r f then pure true else matchesAny? r fs

end

/-- The records that pass a filter, in their order. -/
def keep? (f : Filter) : List Record → Outcome (List Record)
  | [] => pure []
  | r :: rs => do
    let passes ← f.matches? r
    let rest ← keep? f rs
    pure (if passes then r :: rest else rest)

/-- The records that pass the filter; all of them where there is no filter. -/
def select? (condition : Option Filter) (rs : List Record) : Outcome (List Record) :=
  match condition with
  | none => pure rs
  | some f => keep? f rs

end RecordStore.Filter
