import RecordStore.Filter.Make
import RecordStore.Mapping.Row
import RecordStore.Repository

/-!
# Hooks that are written down

A hook may be given by rules instead of a function: write statements with holes that the entity
or the filter at hand fills, a fault, or rules to go through once for every element of a field.

* `HookRule.statementsOfAll?` gives the statements that rules ask for.
* `RepositoryForm.make?` makes a repository whose hooks are rules and whose entities are rows.
-/

namespace RecordStore

/-- A write statement with holes. -/
inductive WriteForm where
  | insert (table : String) (values : Assoc Term)
  | update (table : String) (condition : FilterForm) (values : Assoc Term)
  | delete (table : String) (condition : FilterForm)
  | sql (text : String) (parameters : Term)
  | junk (t : Term)
  deriving Inhabited

/-- The statement once its holes are filled. -/
def WriteForm.make? (b : Bindings) (written : Filter) : WriteForm → Outcome WriteStatement
  | insert table values => do return .insert table (← Term.row? b values)
  | update table f values => do
    let f ← f.make? b written
    return .update table f (← Term.row? b values)
  | delete table f => do return .delete table (← f.make? b written)
  | sql text ps => do return .sql text (← ps.value? b)
  | junk t => do return .junk (← t.value? b)

/-- The statements once their holes are filled. -/
def WriteForm.makeAll? (ws : List WriteForm) : Outcome (List WriteStatement) :=
  ws.mapM (make? {} (.junk .null))

/-- A rule of a hook. -/
inductive HookRule where
  | write (w : WriteForm)
  | fail (f : Fault)
  /-- Goes through the rules once for every element of a field. -/
  | each (field : String) (rules : List HookRule)
  deriving Inhabited

namespace HookRule

/-- The elements of a field of the entity. -/
def elements? (b : Bindings) (field : String) : Outcome (List Datum) := do
  match (← Term.filled? field (b.entity.lookup field)).elements? with
  | some ds => pure ds
  | none => throw .wrongType

mutual

/-- The statements that a rule asks for. -/
def statements? (written : Filter) (b : Bindings) : HookRule → Outcome (List WriteStatement)
  | write w => do return [← w.make? b written]
  | fail f => throw f
  | each field rules => do
    let lists ← (← elements? b field).mapM fun d =>
      statementsOfAll? written { b with item := some d } rules
    return lists.flatten

/-- The statements that several rules ask for, in order. -/
def statementsOfAll? (written : Filter) (b : Bindings) :
    List HookRule → Outcome (List WriteStatement)
  | [] => pure []
  | r :: rs => do
    let ws ← statements? written b r
    return ws ++ (← statementsOfAll? written b rs)

end

/-- The operand of the filter that a delete was called with, where the filter is a comparison. -/
def operandOf : Filter → Option Datum
  | .compare _ _ o => some o.datum
  | _ => none

/-- Rules as a hook that is given the entity. -/
def onEntity (rules : List HookRule) (entity : Row) : Outcome (List WriteStatement) :=
  statementsOfAll? (.junk .null) { entity } rules

/-- Rules as a hook that is given the filter. -/
def onFilter (rules : List HookRule) (f : Filter) : Outcome (List WriteStatement) :=
  statementsOfAll? f { operand := operandOf f } rules

end HookRule

/-- A repository of rows, written down. -/
structure RepositoryForm where
  table : String
  fields : Shape
  name : String := "Entity"
  dump : DumpRule := .columns none []
  load : LoadRule := .everything
  key : List String := []
  read : Option ReadStatement := none
  afterAdd : Option (List HookRule) := none
  afterUpdate : Option (List HookRule) := none
  afterDelete : Option (List HookRule) := none
  deriving Inhabited

/-- Makes the repository. -/
def RepositoryForm.make? (f : RepositoryForm) : Outcome (Repository Row) := do
  let mapping ← EntityMapping.ofRules? f.fields f.name f.dump f.load
  Repository.make?
    { table := f.table, mapping, key := f.key, read := f.read
      hooks := ⟨f.afterAdd.map HookRule.onEntity, f.afterUpdate.map HookRule.onEntity,
        f.afterDelete.map HookRule.onFilter⟩ }

end RecordStore
