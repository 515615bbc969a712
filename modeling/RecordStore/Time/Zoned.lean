import RecordStore.Time.Timestamp

/-!
# Times by the clock of a zone

The clock of a zone is set to another distance from universal time now and then.  Where it is set
back, it shows the readings of that hour twice, and a time tells which of the two it is; where it is
set forward, some readings are never shown.

A time by such a clock compares like its timestamp with a time by another clock, but is equal to
none where its distance from universal time depends on which of two readings it is.  Two times by
one clock are compared by their readings alone.  A `Timestamp` knows no such clock: its distance is
a number, and it is a time by a clock that is never set.

* `Zone.offset` is the distance from universal time at a reading of the clock.
* `ZonedTime.same` and `ZonedTime.before` are equality and strict order.
-/

namespace RecordStore

/-- The clock is set, at an instant, to a distance from universal time. -/
structure Zone.Change where
  instant : Int
  offset : Int
  deriving DecidableEq, Repr, Inhabited

/-- A zone: its name, the distance of its clock from universal time in microseconds before all
changes, and the changes in the order of time. -/
structure Zone where
  name : String
  initial : Int
  changes : List Zone.Change
  deriving DecidableEq, Repr, Inhabited

namespace Zone

/-- The reading from which on the clock counts as set.  A reading that is shown twice, or never,
counts as one from before the change if it is the earlier of the two, and as one from after it if it
is the later. -/
def Change.reading (c : Change) (offset : Int) (later : Bool) : Int :=
  c.instant + if later then min offset c.offset else max offset c.offset

/-- The distance from universal time after the changes that have taken place. -/
def offsetAfter (reading : Int) (later : Bool) (offset : Int) : List Change → Int
  | [] => offset
  | c :: cs =>
    if reading < c.reading offset later then offset else offsetAfter reading later c.offset cs

/-- The distance from universal time at a reading of the clock. -/
def offset (z : Zone) (reading : Int) (later : Bool) : Int :=
  offsetAfter reading later z.initial z.changes

end Zone

/-- A time by the clock of a zone: the reading, with the distance that the zone has there, and which
of two readings it is. -/
structure ZonedTime where
  zone : Zone
  time : Timestamp
  later : Bool
  offset_eq : time.offset = some (zone.offset time.localMicros later)

namespace ZonedTime

/-- The time at a reading of the clock; an offset that the reading has already is not looked at. -/
def ofReading (zone : Zone) (reading : Timestamp) (later : Bool) : ZonedTime where
  zone := zone
  time := { reading with offset := some (zone.offset reading.localMicros later) }
  later := later
  offset_eq := rfl

/-- Would the other one of two readings have another distance from universal time? -/
def isTwofold (a : ZonedTime) : Bool :=
  a.zone.offset a.time.localMicros (!a.later) != a.zone.offset a.time.localMicros a.later

/-- Are the times equal? -/
def same (a b : ZonedTime) : Bool :=
  if a.zone = b.zone then a.time.localMicros == b.time.localMicros
  else !a.isTwofold && !b.isTwofold && a.time.compare? b.time == some .eq

/-- Does the first time come before the second? -/
def before (a b : ZonedTime) : Bool :=
  if a.zone = b.zone then a.time.localMicros < b.time.localMicros
  else a.time.compare? b.time == some .lt

end ZonedTime

end RecordStore
