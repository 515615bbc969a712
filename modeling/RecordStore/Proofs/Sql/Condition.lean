import RecordStore.Proofs.Value.Scalar
import RecordStore.Sql.Predicate

/-!
# The meaning of SQL conditions

Conditions in the three-valued logic of SQL: a comparison with null is unknown, and so is what
depends on it.  Texts are ordered by the locale of the database, about which nothing is known,
unless the collation `"C"` is asked for, which is the order of code points.

* `Condition.eval?` is the truth of a condition on a row; there is none where a comparison is
  between values of different types.
* `Pattern.ofChars?` reads a pattern of `LIKE`, `Pattern.covers` tells which texts it matches.
-/

namespace RecordStore.Sql

/-- The truth values of SQL. -/
inductive Truth where
  | yes | no | unknown
  deriving DecidableEq, Repr

namespace Truth

/-- One of the two definite truth values. -/
def ofBool (b : Bool) : Truth := if b then yes else no

/-- Both. -/
def and : Truth → Truth → Truth
  | no, _ => no
  | _, no => no
  | yes, yes => yes
  | _, _ => unknown

/-- One of the two. -/
def or : Truth → Truth → Truth
  | yes, _ => yes
  | _, yes => yes
  | no, no => no
  | _, _ => unknown

/-- Not. -/
def not : Truth → Truth
  | yes => no
  | no => yes
  | unknown => unknown

@[simp] theorem and_ofBool (a b : Bool) : (ofBool a).and (ofBool b) = ofBool (a && b) := by
  cases a <;> cases b <;> rfl

@[simp] theorem or_ofBool (a b : Bool) : (ofBool a).or (ofBool b) = ofBool (a || b) := by
  cases a <;> cases b <;> rfl

@[simp] theorem not_ofBool (a : Bool) : (ofBool a).not = ofBool (!a) := by
  cases a <;> rfl

@[simp] theorem no_and (t : Truth) : no.and t = no := by cases t <;> rfl

@[simp] theorem yes_and (t : Truth) : yes.and t = t := by cases t <;> rfl

@[simp] theorem yes_or (t : Truth) : yes.or t = yes := by cases t <;> rfl

@[simp] theorem no_or (t : Truth) : no.or t = t := by cases t <;> rfl

@[simp] theorem ofBool_true : ofBool true = yes := rfl

@[simp] theorem ofBool_false : ofBool false = no := rfl

end Truth

/-! ## Patterns -/

/-- A part of a pattern of `LIKE`. -/
inductive PatternPart where
  /-- A character that stands for itself. -/
  | literal (c : Char)
  | anyOne
  | anyMany
  deriving DecidableEq, Repr

namespace Pattern

/-- The parts of a pattern: a backslash takes the meaning from the character after it, and there
must be one. -/
def ofChars? : List Char → Option (List PatternPart)
  | [] => some []
  | '\\' :: c :: rest => (ofChars? rest).map (.literal c :: ·)
  | '\\' :: [] => none
  | '%' :: rest => (ofChars? rest).map (.anyMany :: ·)
  | '_' :: rest => (ofChars? rest).map (.anyOne :: ·)
  | c :: rest => (ofChars? rest).map (.literal c :: ·)

/-- Does the pattern match the whole text? -/
def covers : List PatternPart → List ℕ → Bool
  | [], s => s.isEmpty
  | .anyMany :: ps, s => s.tails.any (covers ps)
  | .anyOne :: ps, s => match s with
    | _ :: s => covers ps s
    | [] => false
  | .literal c :: ps, s => match s with
    | x :: s => x == c.toNat && covers ps s
    | [] => false

end Pattern

/-! ## Conditions -/

/-- A condition on the columns of a row. -/
inductive Condition where
  | constant (b : Bool)
  | isNull (column : String)
  | isNotNull (column : String)
  /-- A comparison of a column, under the collation `"C"` where that is asked for. -/
  | compare (column : String) (collated : Bool) (c : Comparison) (d : Datum)
  | like (column : String) (pattern : Datum)
  /-- The column equals an element of an array. -/
  | equalsAny (column : String) (array : Datum)
  | and (a b : Condition)
  | or (a b : Condition)
  | not (a : Condition)

/-- Texts in the order of the database. -/
abbrev TextOrder := List ℕ → List ℕ → Bool

/-- The content of a cell: nothing for null, otherwise a scalar.  Arrays and other values are in no
cell. -/
def cell? : Datum → Option (Option Scalar)
  | .null => some none
  | d => d.scalar?.map some

/-- The order of two scalars of one type.  Texts that differ are in the order of code points under
the collation only. -/
noncomputable def order? (locale : TextOrder) (collated : Bool) (s t : Scalar) : Option Ordering :=
  match s, t with
  | .text a, .text b =>
    some (if collated ∨ a = b then Ord.compare s t else if locale a b then .lt else .gt)
  | _, _ => if s.sort = t.sort then some (Ord.compare s t) else none

/-- Does the comparison hold between two things in this order? -/
def Comparison.holds : Comparison → Ordering → Bool
  | .eq, o => o == .eq
  | .ne, o => o != .eq
  | .gt, o => o == .gt
  | .ge, o => o != .lt
  | .lt, o => o == .lt
  | .le, o => o != .gt

/-- The truth of a comparison; null on either side makes it unknown. -/
noncomputable def compare? (locale : TextOrder) (collated : Bool) (c : Comparison) (a b : Datum) :
    Option Truth := do
  match ← cell? a, ← cell? b with
  | some s, some t => return .ofBool (c.holds (← order? locale collated s t))
  | _, _ => return .unknown

/-- The truth of `LIKE`; a pattern that ends in a backslash has none. -/
def like? (a pattern : Datum) : Option Truth := do
  match ← cell? a, pattern with
  | some (.text s), .text p => return .ofBool (Pattern.covers (← Pattern.ofChars? p.toList) s)
  | none, .text _ => return .unknown
  | _, _ => none

/-- The truth of equality with some element. -/
noncomputable def equalsAny? (locale : TextOrder) (a : Datum) : List Datum → Option Truth
  | [] => some .no
  | d :: ds => do return (← compare? locale false .eq a d).or (← equalsAny? locale a ds)

/-- A row of a table, by the names of its columns; a column that is not there is null. -/
abbrev TableRow := String → Datum

/-- The truth of a condition on a row. -/
noncomputable def Condition.eval? (locale : TextOrder) (row : TableRow) : Condition → Option Truth
  | constant b => some (.ofBool b)
  | isNull c => do return .ofBool (← cell? (row c)).isNone
  | isNotNull c => do return .ofBool (← cell? (row c)).isSome
  | compare c collated op d => compare? locale collated op (row c) d
  | like c p => like? (row c) p
  | equalsAny c array => match array with
    | .list ds => equalsAny? locale (row c) ds
    | _ => none
  | and a b => do return (← a.eval? locale row).and (← b.eval? locale row)
  | or a b => do return (← a.eval? locale row).or (← b.eval? locale row)
  | not a => do return (← a.eval? locale row).not

end RecordStore.Sql
