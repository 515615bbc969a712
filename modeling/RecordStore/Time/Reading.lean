import RecordStore.Text.Blank
import RecordStore.Time.Timestamp

/-!
# Reading dates and times

The ISO 8601 forms of dates and times of day.  A date is written by month and day or by week and
day of the week, with hyphens or without; the day of the week may be left away.  Any one character
stands between date and time.  Reading takes the parts as they are written; whether they are in
their ranges is told by `Date.wrongPart?` and `Timestamp.wrongPart?`.

* `Date.ofText?` reads a date.
* `Timestamp.ofText?` reads a date with or without a time of day, which may end in an offset.
-/

namespace RecordStore

/-- A number of exactly `n` ASCII digits and the rest. -/
def takeNumber? (n : Nat) (cs : List Char) : Option (Nat × List Char) :=
  let ds := cs.take n
  if ds.length = n ∧ ds.all Text.isAsciiDigit then
    some (Text.ofDigits (ds.map Text.digitValue), cs.drop n)
  else none

/-- The rest after a hyphen, where one is written; otherwise the whole. -/
def skipHyphen? (written : Bool) (cs : List Char) : Option (List Char) :=
  if !written then some cs
  else match cs with
    | '-' :: rest => some rest
    | _ => none

namespace Date

/-- The day of the week in a date, Monday where it is left away. -/
def readWeekday? (hyphens : Bool) (cs : List Char) : Option Nat :=
  if cs.isEmpty then some 1
  else (skipHyphen? hyphens cs).bind fun cs => (takeNumber? 1 cs).map Prod.fst

/-- The date of which the text after the year is given. -/
def readInYear? (y : Nat) (hyphens : Bool) : List Char → Option Date
  | 'W' :: cs => do
    let (w, cs) ← takeNumber? 2 cs
    ofWeek? y w (← readWeekday? hyphens cs)
  | cs => do
    let (m, cs) ← takeNumber? 2 cs
    let (d, _) ← takeNumber? 2 (← skipHyphen? hyphens cs)
    some ⟨y, m, d⟩

/-- Reads the date at the start of a text. -/
def read? (cs : List Char) : Option Date := do
  let (y, cs) ← takeNumber? 4 cs
  let hyphens := cs.head? == some '-'
  readInYear? y hyphens (if hyphens then cs.drop 1 else cs)

/-- Reads a date.  The text has the length of one of the forms; what follows a shorter form within
that length does not count. -/
def ofText? (s : String) : Option Date :=
  if [7, 8, 10].contains s.utf8ByteSize then read? s.toList else none

end Date

/-- A time of day to the microsecond. -/
structure Clock where
  hour : Nat := 0
  minute : Nat := 0
  second : Nat := 0
  micro : Nat := 0
  deriving DecidableEq, Repr, Inhabited

namespace Clock

/-- The microseconds since midnight. -/
def micros (c : Clock) : Nat := ((c.hour * 60 + c.minute) * 60 + c.second) * 1000000 + c.micro

/-- A fraction of a second, cut to microseconds.  After six places something else may stand in
front of an offset. -/
def fraction? (inFront : Bool) (cs : List Char) : Option Nat :=
  let ds := cs.take 6
  if ds.isEmpty || !ds.all Text.isAsciiDigit then none
  else if inFront || (cs.drop 6).all Text.isAsciiDigit then
    some (Text.ofDigits (ds.map Text.digitValue) * Nat.pow 10 (6 - ds.length))
  else none

/-- The two-digit parts that are read so far, as a time. -/
def ofParts (parts : List Nat) (micro : Nat) : Clock :=
  ⟨(parts[0]?).getD 0, (parts[1]?).getD 0, (parts[2]?).getD 0, micro⟩

/-- Reads parts of two digits up to the second, then a fraction.  Colons stand between all of them
or none.  `inFront` tells that an offset follows; one more character is overlooked then. -/
def read? (inFront : Bool) (parts : List Nat) (colons : Bool) (cs : List Char) :
    Nat → Option Clock
  | 0 => (fraction? inFront cs).map (ofParts parts)
  | count + 1 => do
    let (n, rest) ← takeNumber? 2 cs
    let parts := parts ++ [n]
    match rest with
    | [] => some (ofParts parts 0)
    | [c] => if inFront && c.toNat < 0x80 then some (ofParts parts 0) else none
    | c :: more =>
      let colons := if parts.length = 1 then c == ':' else colons
      if colons && c == ':' then read? inFront parts colons more count
      else if c == '.' || c == ',' then (fraction? inFront more).map (ofParts parts)
      else if colons then none
      else read? inFront parts colons rest count

end Clock

namespace Timestamp

/-- Does the character begin an offset? -/
def beginsOffset (c : Char) : Bool := c == '+' || c == '-' || c == 'Z'

/-- An offset; one of no whole second is none. -/
def offset? : List Char → Option Int
  | ['Z'] => some 0
  | c :: rest => do
    if c == 'Z' then none
    let micros := (← Clock.read? false [] false rest 3).micros
    if micros < 1000000 then some 0
    else some (if c == '-' then -(micros : Int) else micros)
  | [] => none

/-- The time of day and the offset of a timestamp. -/
def readTime? (cs : List Char) : Option (Clock × Option Int) := do
  let zone := cs.dropWhile (!beginsOffset ·)
  let clock ← Clock.read? (!zone.isEmpty) [] false (cs.takeWhile (!beginsOffset ·)) 3
  if zone.isEmpty then some (clock, none) else some (clock, some (← offset? zone))

/-- Is the character at a place a digit? -/
def isDigitAt (cs : List Char) (n : Nat) : Bool := cs[n]?.any Text.isAsciiDigit

/-- The length of the date in front of a time.  A week without hyphens is followed by the day
where an odd count of digits stands after it, as the digits of a time come in pairs.  A hyphen
after a week is taken for the mark in front of a time where no other reading is likely. -/
def dateLength (cs : List Char) : Nat :=
  if cs.length = 7 then 7
  else if cs[4]? = some '-' then
    if cs[5]? ≠ some 'W' then 10
    else if cs[8]? = some '-' ∧ !isDigitAt cs 10 then 10
    else 8
  else if cs[4]? = some 'W' then
    let digits := (cs.drop 7).takeWhile Text.isAsciiDigit
    if digits.length ≤ 1 then 7 + digits.length
    else if digits.length % 2 = 1 then 7
    else 8
  else 8

/-- Reads a date and, after any one character, a time. -/
def ofText? (s : String) : Option Timestamp := do
  let cs := s.toList
  let date ← Date.read? (cs.take (dateLength cs))
  match cs.drop (dateLength cs) with
  | [] => return ⟨date, 0, 0, 0, 0, none⟩
  | _ :: time =>
    let (c, offset) ← readTime? time
    return ⟨date, c.hour, c.minute, c.second, c.micro, offset⟩

end Timestamp

end RecordStore
