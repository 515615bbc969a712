/-!
# Calendar dates

Dates of the proleptic Gregorian calendar in the years 1 to 9999, their day numbers, and the
calendar of weeks: weeks begin on Monday, and the first week of a year is the one that holds its
first Thursday.
-/

namespace RecordStore

/-- The parts of a calendar date. -/
inductive DatePart where
  | year | month | day
  deriving DecidableEq, Repr, Inhabited

/-- A calendar date. -/
structure Date where
  year : Nat
  month : Nat
  day : Nat
  deriving DecidableEq, Repr, Inhabited

namespace Date

/-- Has the year a 29th of February? -/
def isLeap (y : Nat) : Bool := y % 4 == 0 && (y % 100 != 0 || y % 400 == 0)

/-- The number of days of a month. -/
def monthLength (y m : Nat) : Nat :=
  if m = 2 then (if isLeap y then 29 else 28)
  else if m = 4 ∨ m = 6 ∨ m = 9 ∨ m = 11 then 30
  else 31

/-- The first part of the date that is out of its range; none where the date exists. -/
def wrongPart? (d : Date) : Option DatePart :=
  if d.year < 1 ∨ 9999 < d.year then some .year
  else if d.month < 1 ∨ 12 < d.month then some .month
  else if d.day < 1 ∨ monthLength d.year d.month < d.day then some .day
  else none

/-- The days of the years before a year. -/
def daysBeforeYear (y : Nat) : Nat :=
  let p := y - 1
  365 * p + p / 4 - p / 100 + p / 400

/-- The days of the first months of a year. -/
def daysOfMonths (y : Nat) : Nat → Nat
  | 0 => 0
  | m + 1 => daysOfMonths y m + monthLength y (m + 1)

/-- The number of the day, the first of January of the year 1 being day 1. -/
def dayNumber (d : Date) : Nat :=
  daysBeforeYear d.year + daysOfMonths d.year (d.month - 1) + d.day

/-- The date that is a number of days into a year, found by going through the months from the given
one on; the first day of that month is the first of them. -/
def ofYearDay (y m k : Nat) : Nat → Date
  | 0 => ⟨y, m, k⟩
  | fuel + 1 =>
    if k ≤ monthLength y m then ⟨y, m, k⟩ else ofYearDay y (m + 1) (k - monthLength y m) fuel

/-- The date of a day number in the given year or the one before or after it. -/
def ofDayNumber (y n : Nat) : Date :=
  let year :=
    if n ≤ daysBeforeYear y then y - 1 else if daysBeforeYear (y + 1) < n then y + 1 else y
  ofYearDay year 1 (n - daysBeforeYear year) 12

/-- The day of the week of a day number, Monday being 0. -/
def weekday (n : Nat) : Nat := (n + 6) % 7

/-- The day number of the Monday of the first week of a year. -/
def firstMonday (y : Nat) : Nat :=
  let n := daysBeforeYear y + 1
  if weekday n ≤ 3 then n - weekday n else n + (7 - weekday n)

/-- How many weeks a year has; the year 0 would have 52. -/
def weeksOf (y : Nat) : Nat := if y = 0 then 52 else (firstMonday (y + 1) - firstMonday y) / 7

/-- The date of a day of a week of a year, Monday being 1; none where there is no such day.  The
days of the year 0 lie before the first day of all, and have no month. -/
def ofWeek? (y w d : Nat) : Option Date :=
  if w < 1 ∨ weeksOf y < w ∨ d < 1 ∨ 7 < d then none
  else if y = 0 then some ⟨1, 0, 0⟩
  else some (ofDayNumber y (firstMonday y + 7 * (w - 1) + (d - 1)))

/-- A number with zeros in front up to a width. -/
def padded (width n : Nat) : List Char :=
  let ds := Nat.toDigits 10 n
  List.replicate (width - ds.length) '0' ++ ds

/-- The date as year, month and day, four, two and two digits long. -/
def text (d : Date) : List Char :=
  padded 4 d.year ++ '-' :: padded 2 d.month ++ '-' :: padded 2 d.day

end Date

end RecordStore
