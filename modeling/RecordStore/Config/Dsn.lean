import RecordStore.Fault.Basic
import RecordStore.Text.Percent

/-!
# Connection strings

The URL under which the database is reached, put together from its parts.  User and password are
percent-encoded; the mode of encryption is written unless it is the default.  The parts may be any
values, which are written as their bare texts; only what is to be encoded must be a text or bytes.
-/

namespace RecordStore

/-- The parts of a connection string. -/
structure Dsn where
  host : Datum := "localhost"
  port : Datum := .integer 5432
  database : Datum := "repokit"
  user : Datum := ""
  password : Datum := .null
  sslMode : Datum := "prefer"
  deriving Inhabited

namespace Dsn

/-- The percent-encoded form of a part. -/
def encoded? : Datum → Outcome String
  | .text s => pure (Text.Percent.encode s)
  | .bytes bs => pure (Text.Percent.encodeBytes bs)
  | _ => throw .wrongType

/-- The encoded password behind its colon; nothing where there is no password. -/
def passwordPart? (d : Dsn) : Outcome String := do
  if d.password.isTruthy then return ":" ++ (← encoded? d.password) else return ""

/-- User and password before the sign that ends them; nothing where both are missing. -/
def credentials? (d : Dsn) : Outcome String := do
  let user ← encoded? d.user
  let auth := user ++ (← d.passwordPart?)
  return if auth.isEmpty then "" else auth ++ "@"

/-- The options behind the name of the database. -/
def options (d : Dsn) : String :=
  match d.sslMode with
  | .text "prefer" => ""
  | mode => "?sslmode=" ++ mode.plain

/-- The connection string. -/
def text? (d : Dsn) : Outcome String := do
  return "postgresql://" ++ (← d.credentials?) ++ d.host.plain ++ ":" ++ d.port.plain ++ "/" ++
    d.database.plain ++ d.options

/-- One change of a connection string. -/
inductive Change where
  | host (d : Datum)
  | port (d : Datum)
  | database (d : Datum)
  | credentials (user password : Datum)
  | ssl (mode : Datum)
  deriving Inhabited

/-- Makes a change. -/
def change (d : Dsn) : Change → Dsn
  | .host h => { d with host := h }
  | .port p => { d with port := p }
  | .database n => { d with database := n }
  | .credentials u p => { d with user := u, password := p }
  | .ssl mode => { d with sslMode := mode }

end Dsn

end RecordStore
