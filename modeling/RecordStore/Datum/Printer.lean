import RecordStore.Datum.Basic
import RecordStore.Text.Quoted

/-!
# Plain values in messages

Two texts of a plain value: `Datum.shown`, which tells its type (texts stand in quotation marks,
other types carry their names), and `Datum.plain`, the bare text of a scalar.
-/

namespace RecordStore

/-- Texts with commas between them. -/
def commaSeparated (xs : List String) : String := String.intercalate ", " xs

/-- A list of texts in square brackets. -/
def bracketed (xs : List String) : String := "[" ++ commaSeparated xs ++ "]"

/-- A list of texts in parentheses; a single one is followed by a comma. -/
def parenthesized : List String → String
  | [x] => "(" ++ x ++ ",)"
  | xs => "(" ++ commaSeparated xs ++ ")"

/-- A list of texts in braces. -/
def braced (xs : List String) : String := "\x7b" ++ commaSeparated xs ++ "\x7d"

namespace Datum

/-- A span of microseconds as days, seconds and microseconds, those that are zero left out. -/
def showSpan (n : Int) : String :=
  let day := Timestamp.microsPerDay
  let days := n.fdiv day
  let rest := n.fmod day
  let part (name : String) (k : Int) := if k = 0 then [] else [name ++ "=" ++ toString k]
  let parts := part "days" days ++ part "seconds" (rest / 1000000) ++
    part "microseconds" (rest % 1000000)
  "datetime.timedelta(" ++ (if parts.isEmpty then "0" else commaSeparated parts) ++ ")"

/-- The offset of a timestamp. -/
def showOffset (o : Int) : String :=
  if o = 0 then "datetime.timezone.utc" else "datetime.timezone(" ++ showSpan o ++ ")"

/-- A timestamp by its parts; seconds and microseconds only as far as they are not zero. -/
def showTimestamp (t : Timestamp) : String :=
  let clock := [t.date.year, t.date.month, t.date.day, t.hour, t.minute] ++
    (if t.micro ≠ 0 then [t.second, t.micro] else if t.second ≠ 0 then [t.second] else [])
  let zone := (t.offset.map fun o => "tzinfo=" ++ showOffset o).toList
  "datetime.datetime(" ++ commaSeparated (clock.map toString ++ zone) ++ ")"

/-- A date by its parts. -/
def showDate (d : Date) : String :=
  "datetime.date(" ++ commaSeparated ([d.year, d.month, d.day].map toString) ++ ")"

mutual

/-- The text of a value that tells its type. -/
def shown : Datum → String
  | null => "None"
  | boolean b => if b then "True" else "False"
  | integer n => toString n
  | decimal d => "Decimal('" ++ d.text ++ "')"
  | binary f => f.text
  | text s => Text.quoted s
  | timestamp t => showTimestamp t
  | date d => showDate d
  | identifier u => "UUID('" ++ u.text ++ "')"
  | bytes bs => Text.quotedBytes bs
  | list xs => bracketed (showAll xs)
  | tuple xs => parenthesized (showAll xs)
  | mapping es => braced (showEntries es)
  | tagged k d =>
    if k = .null then "Value(null)" else "Value(" ++ k.name ++ ", " ++ shown d ++ ")"

/-- The texts of several values. -/
def showAll : List Datum → List String
  | [] => []
  | x :: xs => shown x :: showAll xs

/-- The texts of the entries of a mapping. -/
def showEntries : List (Datum × Datum) → List String
  | [] => []
  | (k, v) :: es => (shown k ++ ": " ++ shown v) :: showEntries es

end

/-- The bare text of a value. -/
def plain : Datum → String
  | text s => s
  | decimal d => d.text
  | timestamp t => String.ofList (t.text.toList.map fun c => if c = 'T' then ' ' else c)
  | date d => String.ofList d.text
  | identifier u => u.text
  | d => d.shown

end Datum

/-- The bare text of what stands for a field. -/
def FieldRef.text (f : FieldRef) : String := f.datum.plain

@[simp] theorem FieldRef.text_name (s : String) : (FieldRef.name s).text = s := rfl

end RecordStore
