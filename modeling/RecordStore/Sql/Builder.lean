import RecordStore.Assoc
import RecordStore.Datum.Order
import RecordStore.Sql.Identifier
import RecordStore.Text.Blank
import RecordStore.Text.Case

/-!
# Building SQL statements

A `Builder` collects the parts of one statement.  Names are checked and quoted; data stand in the
statement as `%s` only and go to the parameters.

* `Builder.call` makes one call; a call that fails half-way keeps what it has stored.
* `Builder.build?` puts the parts together.
-/

namespace RecordStore

/-- SQL text with the parameters for its placeholders. -/
structure BoundSql where
  text : String
  parameters : List Datum
  deriving Inhabited

namespace BoundSql

/-- Have two statements the same text and equal parameters? -/
def same? (a b : BoundSql) : Outcome Bool :=
  if a.text = b.text then (Datum.list a.parameters).same? (.list b.parameters) else pure false

/-- The text of a statement in messages. -/
def shown (q : BoundSql) : String :=
  "QueryResult(sql=" ++ Text.quoted q.text ++ ", parameters=" ++
    (Datum.list q.parameters).shown ++ ")"

/-- A statement that is built refuses every change. -/
def assign (_ : BoundSql) (_ : Datum) : Outcome BoundSql := throw (.immutable .queryResult)

end BoundSql

namespace Sql

/-- The kinds of statement. -/
inductive StatementKind where
  | select | insert | update | delete
  deriving DecidableEq, Repr, Inhabited

/-- The keyword of a kind of statement. -/
def StatementKind.keyword : StatementKind → String
  | select => "SELECT"
  | insert => "INSERT"
  | update => "UPDATE"
  | delete => "DELETE"

/-- The parts of a statement. -/
structure Builder where
  kind : Option StatementKind := none
  columns : List String := []
  source : Option String := none
  conditions : List String := []
  conditionParameters : List Datum := []
  orderings : List String := []
  limit : Option Nat := none
  offset : Option Nat := none
  locking : Bool := false
  table : String := "None"
  insertColumns : List String := []
  insertParameters : List Datum := []
  assignments : List String := []
  assignmentParameters : List Datum := []
  deriving Inhabited

namespace Builder

/-- A call on a builder. -/
inductive Call where
  | select (columns : Datum)
  | selectCount
  | fromTable (table : Datum)
  | fromSubquery (sql label : Datum)
  | condition (text parameters : Datum)
  | orderBy (column direction collate : Datum)
  | limit (count : Datum)
  | offset (count : Datum)
  | forUpdate
  | insertInto (table columns : Datum)
  | values (parameters : Datum)
  | update (table : Datum)
  | set (assignments : Assoc Datum)
  | deleteFrom (table : Datum)
  deriving Inhabited

/-- What a call leaves behind, with its fault if it failed. -/
abbrev Effect := Builder × Option Fault

/-- The effect of a call that changes all or nothing. -/
def effect (b : Builder) : Outcome Builder → Effect
  | .ok b' => (b', none)
  | .error f => (b, some f)

/-- Begins a statement of the given kind, or goes on with one. -/
def start? (b : Builder) (k : StatementKind) : Outcome Builder :=
  match b.kind with
  | some k' =>
    if k' = k then pure b else throw (.builder (.mixed k.keyword k'.keyword))
  | none => pure { b with kind := some k }

/-- Begins a statement and goes on when that is allowed. -/
def starting (b : Builder) (k : StatementKind) (rest : Builder → Effect) : Effect :=
  match b.start? k with
  | .ok b' => rest b'
  | .error f => (b, some f)

/-- Adds columns one by one, up to the first that is no name. -/
def addColumns (b : Builder) : List Datum → Effect
  | [] => (b, none)
  | d :: ds => match quote "column" d with
    | .ok q => addColumns { b with columns := b.columns ++ [q] } ds
    | .error f => (b, some f)

/-- Adds assignments one by one, up to the first that has no name. -/
def addAssignments (b : Builder) : Assoc Datum → Effect
  | [] => (b, none)
  | (n, d) :: rest => match quote "set column" (.text n) with
    | .ok q => addAssignments
        { b with assignments := b.assignments ++ [q ++ " = %s"]
                 assignmentParameters := b.assignmentParameters ++ [d] } rest
    | .error f => (b, some f)

/-- The elements of an argument that must be a sequence. -/
def sequence? (d : Datum) : Outcome (List Datum) :=
  match d.elements? with
  | some xs => pure xs
  | none => throw .wrongType

/-- The number of placeholders in a text. -/
def placeholders : List Char → Nat
  | [] => 0
  | '%' :: 's' :: rest => placeholders rest + 1
  | _ :: rest => placeholders rest

/-- A text without the semicolons at its end. -/
def dropSemicolons (cs : List Char) : List Char := (cs.reverse.dropWhile (· = ';')).reverse

/-- A subquery in parentheses with its alias. -/
def subquery? (sql label : Datum) : Outcome String :=
  if !sql.isTruthy then throw (.builder .emptySubquery)
  else match sql with
    | .text s =>
      let cs := Text.strip s.toList
      if cs.isEmpty then throw (.builder .emptySubquery)
      else do
        let a ← quote "alias" label
        return "(" ++ String.ofList (dropSemicolons cs) ++ ") AS " ++ a
    | .bytes bs =>
      throw (if Text.areBlankBytes bs then .builder .emptySubquery else .wrongType)
    | _ => throw .missingOperation

/-- Adds a condition with its parameters. -/
def addCondition? (b : Builder) (text parameters : Datum) : Outcome Builder :=
  match text with
  | .text s => do
    if (Text.strip s.toList).isEmpty then throw (.builder .emptyCondition)
    let ps ← sequence? parameters
    let n := placeholders s.toList
    if n ≠ ps.length then throw (.builder (.parameterCount n ps.length))
    return { b with conditions := b.conditions ++ [s]
                    conditionParameters := b.conditionParameters ++ ps }
  | .bytes bs => throw (if Text.areBlankBytes bs then .builder .emptyCondition else .wrongType)
  | _ => throw .missingOperation

/-- The upper-case form of an ASCII letter. -/
def upperByte (b : UInt8) : UInt8 := if 97 ≤ b && b ≤ 122 then b - 32 else b

/-- An order key: nulls come first ascending and last descending. -/
def ordering? (column direction collate : Datum) : Outcome String := do
  let q ← quote "order by column" column
  match direction with
  | .text s =>
    let dir := Text.upper s
    let collation := if collate.isTruthy then " COLLATE \"C\"" else ""
    if dir = "ASC" then return q ++ collation ++ " ASC NULLS FIRST"
    else if dir = "DESC" then return q ++ collation ++ " DESC NULLS LAST"
    else throw (.builder (.badDirection dir))
  | .bytes bs => throw (.builder (.badDirection (Datum.bytes (bs.map upperByte)).shown))
  | _ => throw .missingOperation

/-- A count of rows. -/
def count? (fault : BuilderFault) (d : Datum) : Outcome Nat :=
  match d with
  | .integer n => if n < 0 then throw (.builder fault) else pure n.toNat
  | _ => throw (.builder fault)

/-- Makes a call. -/
def call (b : Builder) : Call → Effect
  | .select columns => b.starting .select fun b =>
    match columns with
    | .text s =>
      if Text.strip s.toList = ['*'] then ({ b with columns := b.columns ++ ["*"] }, none)
      else addColumns b [columns]
    | d => match d.elements? with
      | some ds => addColumns b ds
      | none => (b, some .wrongType)
  | .selectCount => b.starting .select fun b =>
    ({ b with columns := b.columns ++ ["COUNT(*) AS \"count\""] }, none)
  | .fromTable t => b.effect do return { b with source := some (← quote "table" t) }
  | .fromSubquery sql label => b.effect do return { b with source := some (← subquery? sql label) }
  | .condition text ps => b.effect (b.addCondition? text ps)
  | .orderBy c dir collate => b.effect do
    return { b with orderings := b.orderings ++ [← ordering? c dir collate] }
  | .limit d => b.effect do return { b with limit := some (← count? .badLimit d) }
  | .offset d => b.effect do return { b with offset := some (← count? .badOffset d) }
  | .forUpdate =>
    if b.kind = some .select then ({ b with locking := true }, none)
    else (b, some (.builder .lockNeedsSelect))
  | .insertInto t columns => b.starting .insert fun b =>
    match quote "insert table" t with
    | .error f => (b, some f)
    | .ok q =>
      let b := { b with table := q }
      b.effect do
        let cs ← (← sequence? columns).mapM (quote "insert column")
        return { b with insertColumns := cs }
  | .values ps => b.effect do
    if b.kind ≠ some .insert then throw (.builder .valuesNeedInsert)
    let ds ← sequence? ps
    if ds.length ≠ b.insertColumns.length then
      throw (.builder (.valuesCount ds.length b.insertColumns.length))
    return { b with insertParameters := ds }
  | .update t => b.starting .update fun b =>
    b.effect do return { b with table := ← quote "update table" t }
  | .set assignments =>
    if b.kind = some .update then b.addAssignments assignments
    else (b, some (.builder .setNeedsUpdate))
  | .deleteFrom t => b.starting .delete fun b =>
    b.effect do return { b with table := ← quote "delete table" t }

/-- Makes a call that has to succeed. -/
def perform? (b : Builder) (c : Call) : Outcome Builder :=
  match b.call c with
  | (b', none) => .ok b'
  | (_, some f) => .error f

/-- Makes calls one after another, all of which have to succeed. -/
def performAll? (b : Builder) (cs : List Call) : Outcome Builder := cs.foldlM perform? b

/-- The conditions, joined; nothing where there are none. -/
def conditionPart (b : Builder) : List String :=
  if b.conditions.isEmpty then []
  else ["WHERE " ++ String.intercalate " AND " (b.conditions.map fun c => "(" ++ c ++ ")")]

/-- Parts with spaces between them. -/
def spaced (parts : List String) : String := String.intercalate " " parts

/-- A SELECT statement. -/
def buildSelect? (b : Builder) : Outcome BoundSql :=
  if b.columns.isEmpty then throw (.builder .selectColumns)
  else match b.source with
    | none => throw (.builder .selectSource)
    | some source =>
      let orderPart := if b.orderings.isEmpty then []
        else ["ORDER BY " ++ commaSeparated b.orderings]
      let limitPart := if b.limit.isSome then ["LIMIT %s"] else []
      let offsetPart := if b.offset.isSome then ["OFFSET %s"] else []
      let lockPart := if b.locking then ["FOR UPDATE"] else []
      let count (n : Nat) : Datum := .integer n
      pure ⟨spaced (["SELECT " ++ commaSeparated b.columns, "FROM " ++ source] ++
          b.conditionPart ++ orderPart ++ limitPart ++ offsetPart ++ lockPart),
        b.conditionParameters ++ (b.limit.map count).toList ++ (b.offset.map count).toList⟩

/-- An INSERT statement. -/
def buildInsert? (b : Builder) : Outcome BoundSql :=
  if b.insertColumns.isEmpty then throw (.builder .insertColumns)
  else if b.insertParameters.length ≠ b.insertColumns.length then
    throw (.builder .insertValues)
  else
    let slots := b.insertColumns.map fun _ => "%s"
    pure ⟨"INSERT INTO " ++ b.table ++ " (" ++ commaSeparated b.insertColumns ++ ") VALUES (" ++
      commaSeparated slots ++ ")", b.insertParameters⟩

/-- An UPDATE statement. -/
def buildUpdate? (b : Builder) : Outcome BoundSql :=
  if b.assignments.isEmpty then throw (.builder .updateAssignments)
  else pure ⟨spaced (["UPDATE " ++ b.table, "SET " ++ commaSeparated b.assignments] ++
      b.conditionPart), b.assignmentParameters ++ b.conditionParameters⟩

/-- A DELETE statement. -/
def buildDelete (b : Builder) : BoundSql :=
  ⟨spaced (("DELETE FROM " ++ b.table) :: b.conditionPart), b.conditionParameters⟩

/-- Puts the statement together. -/
def build? (b : Builder) : Outcome BoundSql :=
  match b.kind with
  | none => throw (.builder .noStatement)
  | some .select => b.buildSelect?
  | some .insert => b.buildInsert?
  | some .update => b.buildUpdate?
  | some .delete => pure b.buildDelete

end Builder

end Sql

end RecordStore
