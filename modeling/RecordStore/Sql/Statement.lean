import RecordStore.Query.Basic
import RecordStore.Source
import RecordStore.Sql.Builder
import RecordStore.Sql.Predicate

/-!
# Whole statements

The statements that the relational backend runs: reading, testing, counting and writing the rows
of a source, and the write statements that hooks give back.
-/

namespace RecordStore

/-- A write that a hook asks for. -/
inductive WriteStatement where
  /-- Inserts one record. -/
  | insert (table : String) (values : Row)
  /-- Overwrites values on every record that passes the filter. -/
  | update (table : String) (condition : Filter) (values : Row)
  /-- Removes every record that passes the filter. -/
  | delete (table : String) (condition : Filter)
  /-- Raw SQL with its parameters. -/
  | sql (text : String) (parameters : Datum)
  /-- A plain value in the place of a statement. -/
  | junk (d : Datum)
  deriving Inhabited

namespace Sql

open Builder (Call)

/-- A list of names as an argument. -/
def nameList (names : List String) : Datum := .list (names.map Datum.text)

/-- Reads from the source's own SQL, or from its table. -/
def fromSource (s : Source) : Call :=
  match s.sql? with
  | some sql => .fromSubquery (.text sql) (.text "q")
  | none => .fromTable (.text s.table)

/-- Adds the condition of a filter, where there is one. -/
def restricted? (b : Builder) (condition : Option Filter) : Outcome Builder :=
  match condition with
  | none => pure b
  | some f => do
    let p ← Predicate.ofFilter? f
    b.perform? (.condition (.text p.text) (.list p.parameters))

/-- The call that orders by a field; a text field is ordered by code point. -/
def orderCall (s : Source) (field : FieldRef) (dir : Direction) : Call :=
  .orderBy field.datum (.text (if dir = .descending then "DESC" else "ASC"))
    (.boolean (field.name?.bind (s.fields.lookup ·) == some .text))

/-- Orders by the keys of a query. -/
def orderedBy? (s : Source) (b : Builder) : List OrderKey → Outcome Builder
  | [] => pure b
  | k :: ks => do
    if !k.field.isHashable then throw .wrongType
    orderedBy? s (← b.perform? (orderCall s k.field k.direction.direction)) ks

/-- The calls that order by the fields of the natural key which a query leaves out. -/
def keyCalls (s : Source) (q : Query) : List Call :=
  let named := q.ordering.filterMap fun k => k.field.name?
  (s.key.filter (!named.contains ·)).map fun n => orderCall s (.name n) .ascending

/-- The limit, the offset unless it is zero, and the lock. -/
def pageCalls (q : Query) (lock : Bool) : List Call :=
  (q.limit.map fun n => Call.limit (.integer n)).toList ++
    ((q.offset.filter (· ≠ 0)).map fun n => Call.offset (.integer n)).toList ++
    (if lock then [.forUpdate] else [])

/-- Reads the rows of a query. -/
def select? (s : Source) (q : Query) (lock : Bool) : Outcome BoundSql := do
  let columns : Datum := if s.sql?.isSome then .text "*" else nameList s.fields.keys
  let b ← Builder.performAll? {} [.select columns, fromSource s]
  let b ← restricted? b q.condition
  let b ← orderedBy? s b q.ordering
  let b ← b.performAll? (keyCalls s q ++ pageCalls q lock)
  b.build?

/-- Asks whether some row passes the filter. -/
def exists? (s : Source) (condition : Option Filter) : Outcome BoundSql := do
  let b ← Builder.performAll? {} [.select (.text "*"), fromSource s]
  let inner ← (← restricted? b condition).build?
  return ⟨"SELECT EXISTS(" ++ inner.text ++ ") AS \"exists\"", inner.parameters⟩

/-- Counts the rows that pass the filter. -/
def count? (s : Source) (condition : Option Filter) : Outcome BoundSql := do
  let b ← Builder.performAll? {} [.selectCount, fromSource s]
  (← restricted? b condition).build?

/-- Inserts a row. -/
def insert? (table : String) (values : Row) : Outcome BoundSql := do
  let b ← Builder.performAll? {} [.insertInto (.text table) (nameList values.keys),
    .values (.list (values.map Prod.snd))]
  b.build?

/-- Overwrites values on the rows that pass the filter. -/
def update? (table : String) (condition : Option Filter) (values : Row) : Outcome BoundSql := do
  let b ← Builder.performAll? {} [.update (.text table), .set values]
  (← restricted? b condition).build?

/-- Removes the rows that pass the filter. -/
def delete? (table : String) (condition : Option Filter) : Outcome BoundSql := do
  let b ← Builder.performAll? {} [.deleteFrom (.text table)]
  (← restricted? b condition).build?

/-- The plain data of values that must have a kind. -/
def plain? (values : Row) : Outcome Row := do
  return (← Record.valuesOf? values).mapValues Value.data

/-- The SQL of a write that a hook asks for. -/
def write? : WriteStatement → Outcome BoundSql
  | .insert t vs => do insert? t (← plain? vs)
  | .update t f vs => do update? t f.given? (← plain? vs)
  | .delete t f => delete? t f.given?
  | .sql text ps => do return ⟨text, ← Builder.sequence? ps⟩
  | .junk d => throw (.usage (.unsupportedStatement d.shown))

end Sql

end RecordStore
