import RecordStore.Memory.Store
import RecordStore.Sql.Statement

/-!
# Batches of writes on the in-memory store

Write statements are made one after another, each on what the one before it left; when one of
them fails, none has happened.  Raw SQL is refused before anything is done.
-/

namespace RecordStore.Store

/-- The filter of a statement with its operands in the kinds that its table declares. -/
def widened? (s : Store) (table : String) (f : Filter) : Outcome Filter :=
  match s.shape? table with
  | none => pure f
  | some fields => if fields.isEmpty then pure f else f.validate? fields

/-- The store, with what has come of a call. -/
abbrev Effect := Store × Outcome Unit

/-- The effect of a call that changes all or nothing. -/
def effect (s : Store) (next : Outcome (Store × Nat)) : Effect :=
  match next with
  | .ok (s', _) => (s', .ok ())
  | .error f => (s, .error f)

/-- Makes one write. -/
def write (s : Store) : WriteStatement → Effect
  | .insert table values => match Record.ofMapping? values with
    | .ok r => s.insert table r
    | .error f => (s, .error f)
  | .update table f values => s.effect do
    let vs ← Record.valuesOf? values
    s.update? table (← s.widened? table f) vs
  | .delete table f => s.effect do s.delete? table (← s.widened? table f)
  | .sql _ _ => (s, throw (.usage .rawSql))
  | .junk d => (s, throw (.usage (.unsupportedStatement d.shown)))

/-- Makes writes up to the first that fails. -/
def writeAll (s : Store) : List WriteStatement → Effect
  | [] => (s, .ok ())
  | w :: ws => match s.write w with
    | (s', .ok _) => writeAll s' ws
    | (s', .error f) => (s', .error f)

/-- Is the statement raw SQL? -/
def isRaw : WriteStatement → Bool
  | .sql _ _ => true
  | _ => false

/-- Fails where a statement is raw SQL. -/
def refuseRaw? (ws : List WriteStatement) : Outcome Unit :=
  if ws.any isRaw then throw (.usage .rawSql) else pure ()

/-- Makes all the writes, or none of them. -/
def batch (s : Store) (ws : List WriteStatement) : Effect :=
  match s.writeAll ws with
  | (s', .ok _) => (s', .ok ())
  | (s', .error f) => (s'.restore s.checkpoint, .error f)

end RecordStore.Store
