import RecordStore.Time.Calendar

/-!
# Timestamps

A timestamp is a date and a time of day to the microsecond, with or without its distance from
universal time, which is a fixed number.  Two timestamps with a distance are compared by the instant
they name; one with and one without are neither equal nor ordered.

* `Timestamp.compare?` is that order.
* `Timestamp.wrongPart?` and `Timestamp.hasNearOffset` tell whether the timestamp exists.
* `Timestamp.text` writes the ISO 8601 form; reading it is in `RecordStore.Time.Reading`.
-/

namespace RecordStore

/-- A date and time of day; `offset` is the distance from universal time in microseconds.  Zones
whose distance changes are left out of the type: it does not tell which zone gave the offset, nor
which of two readings of a clock that is set back is meant.  Such times are compared otherwise, see
`RecordStore.Time.Zoned`. -/
structure Timestamp where
  date : Date
  hour : Nat
  minute : Nat
  second : Nat
  micro : Nat
  offset : Option Int
  deriving DecidableEq, Repr, Inhabited

namespace Timestamp

/-- The parts of a timestamp. -/
inductive Part where
  | date (part : DatePart)
  | hour | minute | second
  deriving DecidableEq, Repr, Inhabited

/-- The microseconds of a day. -/
def microsPerDay : Int := 86400000000

/-- Is the distance from universal time, if there is one, less than a day? -/
def hasNearOffset (t : Timestamp) : Bool := t.offset.all fun o => o.natAbs < microsPerDay

/-- The first part of the timestamp that is out of its range. -/
def wrongPart? (t : Timestamp) : Option Part :=
  match t.date.wrongPart? with
  | some p => some (.date p)
  | none =>
    if 23 < t.hour then some .hour
    else if 59 < t.minute then some .minute
    else if 59 < t.second then some .second
    else none

/-- The microseconds from the start of day 0 by the timestamp's own clock. -/
def localMicros (t : Timestamp) : Int :=
  ((((t.date.dayNumber * 24 + t.hour) * 60 + t.minute) * 60 + t.second) * 1000000 + t.micro : Nat)

/-- The order of two timestamps; none where only one of them has an offset. -/
def compare? (a b : Timestamp) : Option Ordering :=
  match a.offset, b.offset with
  | none, none => some (compare a.localMicros b.localMicros)
  | some x, some y => some (compare (a.localMicros - x) (b.localMicros - y))
  | _, _ => none

/-! ## Text -/

/-- A fraction of a second, shown in six digits when it is not zero. -/
def microText (n : Nat) : List Char := if n = 0 then [] else '.' :: Date.padded 6 n

/-- The offset as hours and minutes, with seconds where there are any. -/
def offsetText (o : Int) : List Char :=
  let n := o.natAbs
  let s := n / 1000000
  let seconds := if n % 60000000 = 0 then [] else ':' :: Date.padded 2 (s % 60)
  (if o < 0 then '-' else '+') :: Date.padded 2 (s / 3600) ++ ':' :: Date.padded 2 (s / 60 % 60) ++
    seconds ++ microText (n % 1000000)

/-- The ISO 8601 form. -/
def text (t : Timestamp) : String :=
  String.ofList <| t.date.text ++ 'T' :: Date.padded 2 t.hour ++ ':' :: Date.padded 2 t.minute ++
    ':' :: Date.padded 2 t.second ++ microText t.micro ++
    (t.offset.map offsetText).getD []

end Timestamp

end RecordStore
