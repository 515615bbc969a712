import RecordStore.Proofs.Sql.Select
import RecordStore.Text.Split

/-!
# The meaning of INSERT, UPDATE and DELETE

A statement that writes is taken apart at its blanks.  Its first words tell what it does, and what
stands between the words that are left is read token by token.  It changes the rows for which its
condition is true, and it is refused if the rows that it would leave do not have the primary key of
their table: none of the columns of the key is null, and no two rows are equal in all of them.

* `Command.read?` reads a statement from its text with parameters.
* `Command.run?` is what becomes of the rows of a table.
-/

namespace RecordStore.Sql

/-- A statement that writes rows of a table. -/
inductive Command where
  | insert (table : String) (cells : Row)
  | update (table : String) (cells : Row) (condition : Option Condition)
  | delete (table : String) (condition : Option Condition)

namespace Command

/-- The table whose rows are written. -/
def table : Command → String
  | insert t _ | update t _ _ | delete t _ => t

/-! ## Reading -/

/-- What stands between the blanks of a text. -/
def words (text : String) : List String := (Text.fields ' ' text.toList).map String.ofList

/-- The tokens of words, with parameters in the places for them. -/
def tokens? (words : List String) (ds : List Datum) : Option (List Token) :=
  (Token.scan? (" ".intercalate words)).bind (Token.bind? · ds)

/-- What stands in parentheses. -/
def group? : List Token → Option (List Token)
  | .opening :: ts => match ts.reverse with
    | .closing :: us => some us.reverse
    | _ => none
  | _ => none

/-- A parameter alone. -/
def value? : List Token → Option Datum
  | [.value d] => some d
  | _ => none

/-- The parameter for a column. -/
def assignment? : List Token → Option (String × Datum)
  | [.name n, .sign .eq, .value d] => some (n, d)
  | _ => none

/-- The condition behind `WHERE`, and nothing else. -/
def restriction? (ts : List Token) : Option (Option Condition) :=
  match Select.optional .where_ ts with
  | (condition, []) => Select.condition? condition
  | _ => none

/-- The statement of words. -/
def ofWords? (ds : List Datum) : List String → Option Command
  | "INSERT" :: "INTO" :: t :: ws => do
    let columns ← tokens? (ws.takeWhile (· ≠ "VALUES")) []
    let values ← tokens? ((ws.dropWhile (· ≠ "VALUES")).drop 1) ds
    let names ← (Select.parts (← group? columns)).mapM Select.name?
    let data ← (Select.parts (← group? values)).mapM value?
    if names.length = data.length then
      return insert (← Select.name? (← tokens? [t] [])) (names.zip data)
    else none
  | "UPDATE" :: t :: "SET" :: ws => do
    let ts ← tokens? ws ds
    let cells ← (Select.parts (ts.takeWhile (!·.beginsClause))).mapM assignment?
    let condition ← restriction? (ts.dropWhile (!·.beginsClause))
    return update (← Select.name? (← tokens? [t] [])) cells condition
  | "DELETE" :: "FROM" :: t :: ws => do
    let condition ← restriction? (← tokens? ws ds)
    return delete (← Select.name? (← tokens? [t] [])) condition
  | _ => none

/-- The statement of a text, with the parameters in the places for them from left to right. -/
def read? (text : String) (ds : List Datum) : Option Command := ofWords? ds (words text)

end Command

/-! ## Meaning -/

/-- The row with other cells in the columns that are named. -/
def TableRow.overwritten (row : TableRow) (cells : Row) : TableRow :=
  fun n ↦ (cells.lookup n).getD (row n)

/-- The row in which every cell is null. -/
def TableRow.blank : TableRow := fun _ ↦ .null

/-- Are two rows equal in all columns of the key? -/
def SameKey (locale : TextOrder) (key : List String) (a b : TableRow) : Prop :=
  ∀ n ∈ key, compare? locale false .eq (a n) (b n) = some .yes

/-- The rows have the primary key. -/
def Keyed (locale : TextOrder) (key : List String) (rows : List TableRow) : Prop :=
  (∀ row ∈ rows, ∀ n ∈ key, row n ≠ .null) ∧
    rows.Pairwise fun a b ↦ ¬ SameKey locale key a b

/-- What becomes of a statement that writes. -/
inductive Command.Effect where
  /-- The table has these rows now. -/
  | done (rows : List TableRow)
  /-- The statement would break the primary key, and nothing has happened. -/
  | refused

namespace Command

/-- Is the row one that a statement with this condition changes? -/
noncomputable def chooses? (locale : TextOrder) (condition : Option Condition) (row : TableRow) :
    Option Bool :=
  match condition with
  | none => some true
  | some c => (c.eval? locale row).map (· = .yes)

/-- The rows, each with the answer whether it is to be changed. -/
noncomputable def marked? (locale : TextOrder) (condition : Option Condition)
    (rows : List TableRow) : Option (List (TableRow × Bool)) :=
  rows.mapM fun row ↦ (chooses? locale condition row).map (row, ·)

/-- The rows that a statement is to leave. -/
noncomputable def after? (locale : TextOrder) (rows : List TableRow) :
    Command → Option (List TableRow)
  | insert _ cells => some (rows ++ [TableRow.blank.overwritten cells])
  | update _ cells condition => do
    return (← marked? locale condition rows).map fun p ↦
      if p.2 then p.1.overwritten cells else p.1
  | delete _ condition => do
    return ((← marked? locale condition rows).filter (!·.2)).map Prod.fst

open Classical in
/-- What a statement does to the rows of a table with a primary key; there is nothing to say where
its condition compares values of different types. -/
noncomputable def run? (locale : TextOrder) (key : List String) (c : Command)
    (rows : List TableRow) : Option Effect :=
  (c.after? locale rows).map fun after ↦
    if Keyed locale key after then .done after else .refused

end Command

end RecordStore.Sql
