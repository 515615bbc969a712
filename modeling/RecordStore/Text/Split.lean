/-!
# Splitting texts

The parts of a text between the places where a character occurs, and the two parts beside its
first or last occurrence.
-/

namespace RecordStore.Text

/-- The parts between the occurrences of a character; there is one more of them than of these. -/
def fields (sep : Char) : List Char → List (List Char)
  | [] => [[]]
  | c :: rest =>
    if c = sep then [] :: fields sep rest
    else match fields sep rest with
      | [] => [[c]]
      | p :: ps => (c :: p) :: ps

theorem fields_ne_nil (sep : Char) (cs : List Char) : fields sep cs ≠ [] := by
  cases cs with
  | nil => simp [fields]
  | cons c rest =>
    by_cases h : c = sep
    · simp [fields, h]
    · cases hr : fields sep rest <;> simp [fields, h, hr]

/-- What stands before and after the first of a character; nothing after it where it does not
occur. -/
def cut (c : Char) (cs : List Char) : List Char × Option (List Char) :=
  match cs.dropWhile (· ≠ c) with
  | [] => (cs, none)
  | _ :: after => (cs.takeWhile (· ≠ c), some after)

/-- What stands before and after the last of a character; nothing before it where it does not
occur. -/
def cutLast (c : Char) (cs : List Char) : Option (List Char) × List Char :=
  let (after, before) := cut c cs.reverse
  (before.map List.reverse, after.reverse)

end RecordStore.Text
