import RecordStore.Datum.Sum
import RecordStore.Session.Basic

/-!
# Doing commands

`Command.act` does one command, `Command.actAll` a list of them up to a fault that ends the list,
and `Command.startAll` starts tasks.  Each command that is done is entered into a journal.
-/

namespace RecordStore

namespace Command

variable {β η γ κ ν : Type}

/-- An action of a session. -/
abbrev SessionAction (β η κ ν α : Type) := Action (β × Notes η κ ν) α

/-- What is under a name. -/
def named {α : Type} (m : Assoc α) (name : String) : Outcome α :=
  match m.lookup name with
  | some a => pure a
  | none => throw (.missingKey name)

/-- The repository of a name. -/
def repositoryOf (name : String) : SessionAction β η κ ν (Repository Row) := do
  named (← Action.own).repositories name

/-- The handle of a name, where that is no name for nothing. -/
def handleOf? (name : String) : SessionAction β η κ ν (Option η) := do
  named (← Action.own).handles name

/-- The handle of a name, which must not be a name for nothing. -/
def handleOf (name : String) : SessionAction β η κ ν η := do
  match ← handleOf? name with
  | some h => return h
  | none => throw .missingOperation

/-- The number of the unit of work of a name. -/
def unitNamed (name : String) : SessionAction β η κ ν Nat := do
  named (← Action.own).units name

/-- The unit of work of a number. -/
def unitState (n : Nat) : SessionAction β η κ ν (UnitOfWork η) := do
  match (← Action.own).unitStates[n]? with
  | some u => return u
  | none => throw .missingOperation

/-- The unit of work of a name, as it stands. -/
def unitOfName (name : String) : SessionAction β η κ ν (UnitOfWork η) := do
  unitState (← unitNamed name)

/-- Makes a unit of work for a handle; nothing has none. -/
def newUnit (h : Option η) : SessionAction β η κ ν Nat := do
  match h with
  | none => throw (.noUnitOfWork Datum.null.typeName)
  | some h =>
    let n := (← Action.own).unitStates.length
    Action.modifyOwn fun notes =>
      { notes with unitStates := notes.unitStates ++ [{ database := h }] }
    return n

/-- Gives a handle a name. -/
def nameIt (name : String) (h : η) : SessionAction β η κ ν Unit :=
  Action.modifyOwn fun n => { n with handles := n.handles.insert name (some h) }

/-- Gives a unit of work a name. -/
def nameUnit (name : String) (unit : Nat) : SessionAction β η κ ν Unit :=
  Action.modifyOwn fun n => { n with units := n.units.insert name unit }

/-- The filter of a form. -/
def filterOf (f : FilterForm) : Outcome Filter := f.make? {} (.junk .null)

/-- What is seen of the backend. -/
def look (d : Dialect β η γ κ ν) : SessionAction β η κ ν ν := do
  let (b, seen) := d.observe (← Action.shared)
  Action.modifyShared fun _ => b
  return seen

/-- A place for a journal that has not begun. -/
def newJournal : SessionAction β η κ ν Nat := do
  let n := (← Action.own).journals.length
  Action.modifyOwn fun notes => { notes with journals := notes.journals ++ [none] }
  return n

/-- Begins a journal. -/
def beginJournal (d : Dialect β η γ κ ν) (journal : Nat) : SessionAction β η κ ν Unit := do
  let seen ← look d
  Action.modifyOwn (·.beginJournal journal seen)

/-- Does a command, which is given a journal for what is inside it, and enters what has come of it
into another. -/
def entered (d : Dialect β η γ κ ν) (home : Nat) (x : Nat → SessionAction β η κ ν Answer) :
    SessionAction β η κ ν Answer := do
  let inside ← newJournal
  (x inside).andThen fun r => do
    let seen ← look d
    Action.modifyOwn fun n =>
      n.addEntry home ⟨r, seen, (n.journals[inside]?).getD none⟩
    r

/-- Lets everything run and tells how far the tasks have come. -/
def settle : SessionAction β η κ ν Answer := do
  Action.giveWay (← Action.own).patience
  return .tasks ((← Action.own).reports (← Action.endings)) (← Action.lockState)

/-- Starts a task that is given its journal, and gives it a name. -/
def startTask (d : Dialect β η γ κ ν) (name : String) (x : Nat → SessionAction β η κ ν Unit) :
    SessionAction β η κ ν Unit := do
  let journal ← newJournal
  beginJournal d journal
  let id ← (x journal).start
  Action.modifyOwn fun n => { n with tasks := n.tasks.insert name ⟨id, journal⟩ }

/-- Nothing, as an answer. -/
def nothing (x : SessionAction β η κ ν Unit) : SessionAction β η κ ν Answer := do
  x
  return .plain .null

/-- A truth value, as an answer. -/
def truth (x : SessionAction β η κ ν Bool) : SessionAction β η κ ν Answer := do
  return .plain (.boolean (← x))

/-- A number, as an answer. -/
def number (x : SessionAction β η κ ν Int) : SessionAction β η κ ν Answer := do
  return .plain (.integer (← x))

/-- A text, as an answer. -/
def text (x : SessionAction β η κ ν String) : SessionAction β η κ ν Answer := do
  return .plain (.text (← x))

/-- An entity that may be missing, as an answer. -/
def entityOrNothing (x : SessionAction β η κ ν (Option Row)) : SessionAction β η κ ν Answer := do
  match ← x with
  | some row => return .entity row
  | none => return .plain .null

/-- What there is to tell of a repository. -/
def telling (r : Repository Row) : Answer :=
  .plain (.list [.text r.shown, .text r.table, .text r.mapping.name,
    .list (r.key.map Datum.text)])

/-- An entity with an amount added to a field, and what the field then holds. -/
def bumped? (field : String) (amount : Datum) : Option Row → Outcome (Row × Datum)
  | none => throw .wrongType
  | some row => do
    let row := Assoc.ofPairs row
    let d ← (← named row field).add? amount
    return (row.insert field d, d)

variable [Backend β η]

/-- Begins the transaction of a unit of work. -/
def startUnit (unit : Nat) : SessionAction β η κ ν Unit := do
  let started ← (← unitState unit).start
  Action.modifyOwn fun n => { n with unitStates := n.unitStates.set unit started }

mutual

/-- Does a command; commands inside it go to the journal. -/
def act (d : Dialect β η γ κ ν) (inside : Nat) : Command γ → SessionAction β η κ ν Answer
  | .add r h entity => nothing do (← repositoryOf r).add (← handleOf? h) entity
  | .get r h f => entityOrNothing do
    let r ← repositoryOf r
    r.get (← handleOf? h) (← filterOf f)
  | .getForUpdate r h f => entityOrNothing do
    let r ← repositoryOf r
    r.getForUpdate (← handleOf? h) (← filterOf f)
  | .getMany r h q => do
    let r ← repositoryOf r
    return .entities (← r.getMany (← handleOf? h) (← QueryStep.build? q))
  | .update r h f entity => nothing do
    let r ← repositoryOf r
    r.update (← handleOf? h) (← filterOf f) entity
  | .delete r h f => nothing do
    let r ← repositoryOf r
    r.delete (← handleOf? h) (← filterOf f)
  | .any r h f => truth do
    let r ← repositoryOf r
    r.any (← handleOf? h) (← filterOf f)
  | .count r h f => number do
    let r ← repositoryOf r
    r.count (← handleOf? h) (← filterOf f)
  | .countAll r h => number do (← repositoryOf r).countAll (← handleOf? h)
  | .bump r h f field amount => do
    let r ← repositoryOf r
    let h ← handleOf? h
    let f ← filterOf f
    let (row, value) ← bumped? field amount (← r.getForUpdate h f)
    r.update h f row
    return .plain value
  | .define name form => do
    let r ← form.make?
    Action.modifyOwn fun n => { n with repositories := n.repositories.insert name r }
    return telling r
  | .fetchFrom h src q locked => do
    return .records (← Backend.fetch (← handleOf h) src (← QueryStep.build? q) locked)
  | .anyIn h src f => truth do Backend.any (← handleOf h) src (← filterOf f)
  | .countIn h src f => number do
    Backend.count (← handleOf h) src (← filterOf f).given?
  | .insertInto h src values => nothing do
    Backend.insert (← handleOf h) src (← Record.ofMapping? values)
  | .updateIn h src f values => nothing do
    let h ← handleOf h
    let f ← filterOf f
    Backend.update h src f (← Record.ofMapping? values)
  | .deleteFrom h src f => nothing do Backend.delete (← handleOf h) src (← filterOf f)
  | .execute h ws => nothing do
    let h ← handleOf h
    Backend.execute h (← WriteForm.makeAll? ws)
  | .inTransaction h => truth do Backend.inTransaction (← handleOf h)
  | .describe h => text do
    match ← handleOf? h with
    | some h => Backend.describe h
    | none => return Datum.null.plain
  | .commit h => nothing do Backend.commit (← handleOf h)
  | .rollback h => nothing do Backend.rollback (← handleOf h)
  | .fail f => throw f
  | .transaction name h commands result => do
    let h ← handleOf h
    Backend.transaction h fun scope => do
      beginJournal d inside
      nameIt name scope
      actAll d inside .inside commands
      return .plain result
  | .makeUnit name h => do
    nameUnit name (← newUnit (← handleOf? h))
    return .plain (.text d.unitName)
  | .unitOf value => throw (.noUnitOfWork value.typeName)
  | .beginUnit u => nothing do startUnit (← unitNamed u)
  | .commitUnit u => nothing do (← unitOfName u).commit
  | .rollbackUnit u => nothing do (← unitOfName u).rollback
  | .unitIsActive u => truth do (← unitOfName u).isActive
  | .nameHandle u name => text do
    let h ← (← unitOfName u).handle
    nameIt name h
    Backend.describe h
  | .within name h u commands result => do
    let unit ← match u with
      | some u => unitNamed u
      | none => do newUnit (← handleOf? h)
    startUnit unit
    let work : SessionAction β η κ ν Answer := do
      beginJournal d inside
      nameIt name (← (← unitState unit).handle)
      actAll d inside .inside commands
      return .plain result
    work.andThen fun r => do (← unitState unit).leave r
  | .gate name => nothing (Action.request (.gate name))
  | .spawn tasks => do
    startAll d tasks
    settle
  | .openGates names => do
    names.forM fun name => Action.request (.openGate name)
    settle
  | .cancel task => do
    Action.request (.cancel (← named (← Action.own).tasks task).id)
    settle
  | .catching c => act d inside c
  | .special c => d.perform c

/-- Does commands up to the first fault that ends them. -/
def actAll (d : Dialect β η γ κ ν) (home : Nat) (place : Place) :
    List (Command γ) → SessionAction β η κ ν Unit
  | [] => pure ()
  | c :: rest => (entered d home fun inside => act d inside c).andThen fun
    | .ok _ => actAll d home place rest
    | .error f => if place.survives c f then actAll d home place rest else throw f

/-- Starts tasks in order. -/
def startAll (d : Dialect β η γ κ ν) :
    List (String × List (Command γ)) → SessionAction β η κ ν Unit
  | [] => pure ()
  | (name, commands) :: rest => do
    startTask d name fun journal => actAll d journal .task commands
    startAll d rest

end

end Command

end RecordStore
