import RecordStore.Datum.Decimal
import RecordStore.Fault.Message
import RecordStore.Number.Literal
import RecordStore.Time.Reading

/-!
# Plain values of other types

What a plain value is as a value of another type.  Numbers are cut or widened, texts are read; a
value of a type that has no such reading is a fault.

* `Datum.toInteger?` and `Datum.toBinary?` give a number; `Datum.toDecimal?` is a module of its own.
* `Datum.toTimestamp?` and `Datum.toDate?` read the ISO 8601 forms.
* `Datum.toIdentifier?` and `Datum.toBytes?` read hexadecimal digits.
* `Kind.ofDatum?` is the kind that a value names.
-/

namespace RecordStore

namespace Datum

/-- The member of a closed set that a value names. -/
def member? {α : Type} (set : String) (ofName? : String → Option α) (d : Datum) : Outcome α :=
  match d with
  | text s => match ofName? s with
    | some a => pure a
    | none => throw (.argument (.noMember set d))
  | d => throw (.argument (.noMember set d))

/-- A whole number that a text writes. -/
def integerOfText? (s : String) : Outcome Int :=
  match Literal.integer s with
  | .value n => pure n
  | .tooLong count => throw (.argument (.tooManyDigits count))
  | .malformed => throw (.argument (.integerText 10 (.text s)))

/-- Bytes as a text of ASCII characters; what is none becomes a character of no meaning. -/
def asciiText (bs : List UInt8) : String :=
  String.ofList (bs.map fun b => if b < 0x80 then Char.ofNat b.toNat else '\ufffd')

/-- A whole number that bytes write. -/
def integerOfBytes? (bs : List UInt8) : Outcome Int :=
  match Literal.integer (asciiText bs) with
  | .value n => pure n
  | .tooLong count => throw (.argument (.tooManyDigits count))
  | .malformed => throw (.argument (.integerText 10 (.bytes (bs.take ArgumentFault.shownLength))))

/-- The whole part of a number; `what` tells in a fault what is none. -/
def wholePart? (what : String) : Decimal → Outcome Int
  | .finite n m e =>
    pure (Decimal.signed n
      (if 0 ≤ e then m * Nat.pow 10 e.toNat
      else if (Decimal.digits m).length ≤ -e then 0
      else m / Nat.pow 10 (-e).toNat))
  | .infinite _ => throw .tooLarge
  | .nan .. => throw (.argument (.noNumber what))

/-- The whole number of a value. -/
def toInteger? : Datum → Outcome Int
  | integer n => pure n
  | boolean b => pure b.toNat
  | decimal d => wholePart? "NaN" d
  | binary f => wholePart? "float NaN" f.toDecimal
  | identifier u => pure u.value
  | text s => integerOfText? s
  | bytes bs => integerOfBytes? bs
  | _ => throw .wrongType

/-- A floating-point number that a text writes. -/
def binaryOfText? (s : String) : Outcome Binary64 :=
  match Literal.binary64? s with
  | some f => pure f
  | none => throw (.argument (.floatText s))

/-- The floating-point number of a value: a whole number must not be too large for one. -/
def toBinary? : Datum → Outcome Binary64
  | binary f => pure f
  | integer n => widen? n
  | boolean b => widen? b.toNat
  | text s => binaryOfText? s
  | _ => throw .wrongType

/-- The date that a text writes. -/
def toDate? : Datum → Outcome Date
  | text s => match Date.ofText? s with
    | none => throw (.argument (.timeText s))
    | some d => match d.wrongPart? with
      | some p => throw (.argument (.timeRange (.date p) d))
      | none => pure d
  | _ => throw .wrongType

/-- The timestamp that a text writes. -/
def toTimestamp? : Datum → Outcome Timestamp
  | text s => match Timestamp.ofText? s with
    | none => throw (.argument (.timeText s))
    | some t =>
      if !t.hasNearOffset then throw (.argument (.offsetRange (t.offset.getD 0)))
      else match t.wrongPart? with
        | some p => throw (.argument (.timeRange p t.date))
        | none => pure t
  | _ => throw .wrongType

/-- The identifier that a text writes: its number has a fixed width, within which it is written
like any number in base sixteen.  Nothing at all is a fault of type; other values lack what is
asked of a text. -/
def toIdentifier? : Datum → Outcome Uuid
  | text s =>
    let numeral := Uuid.numeral s
    if numeral.length ≠ Uuid.width then throw (.argument .identifierText)
    else match Literal.hexadecimal? numeral with
      | some n => pure ⟨n.toNat⟩
      | none => throw (.argument (.integerText 16 (.text numeral)))
  | null => throw .wrongType
  | _ => throw .missingOperation

/-- The bytes that a text writes in hexadecimal digits. -/
def toBytes? : Datum → Outcome (List UInt8)
  | text s => match Text.bytesOfHex s.toList with
    | .ok bs => pure bs
    | .error place => throw (.argument (.hexText place))
  | _ => throw .wrongType

end Datum

/-- The kind that a value names. -/
def Kind.ofDatum? (d : Datum) : Outcome Kind := d.member? "ValueKind" Kind.ofName?

end RecordStore
