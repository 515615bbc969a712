import RecordStore.Assoc
import RecordStore.Config.Dsn
import RecordStore.Config.Url
import RecordStore.Datum.Conversion
import RecordStore.Datum.Order

/-!
# Settings of the database

Where the database is and how large the pool of connections to it may grow.  Settings are plain
values of any type: they are kept as they are given, and what does not fit is found where it is
used, in `DatabaseConfig.validate?` and in the connection string.

* `DatabaseConfig.ofArguments?` takes settings by their names.
* `DatabaseConfig.ofUrl?` takes host, port, database and credentials from a URL.
* `DatabaseConfig.ofEnvironment?` reads the variables of an environment, of which a URL gives the
  defaults of the others, and checks the result.
-/

namespace RecordStore

/-- The settings of the database. -/
structure DatabaseConfig where
  host : Datum := "localhost"
  port : Datum := .integer 5432
  database : Datum := "repokit"
  user : Datum := ""
  password : Datum := .null
  minPoolSize : Datum := .integer 1
  maxPoolSize : Datum := .integer 10
  /-- In seconds. -/
  poolTimeout : Datum := .binary (.ofDecimal (.ofInt 30))
  sslMode : Datum := "prefer"
  deriving Inhabited

namespace DatabaseConfig

/-- The settings with one of them replaced by its name. -/
def set? (c : DatabaseConfig) (name : String) (d : Datum) : Outcome DatabaseConfig :=
  match name with
  | "host" => pure { c with host := d }
  | "port" => pure { c with port := d }
  | "database" => pure { c with database := d }
  | "user" => pure { c with user := d }
  | "password" => pure { c with password := d }
  | "min_pool_size" => pure { c with minPoolSize := d }
  | "max_pool_size" => pure { c with maxPoolSize := d }
  | "pool_timeout" => pure { c with poolTimeout := d }
  | "ssl_mode" => pure { c with sslMode := d }
  | _ => throw .wrongType

/-- The settings of the given names, and the defaults of all others. -/
def ofArguments? (arguments : Assoc Datum) : Outcome DatabaseConfig :=
  arguments.foldlM (fun c p => c.set? p.1 p.2) {}

/-- Every setting with its name. -/
def settings (c : DatabaseConfig) : Assoc Datum :=
  [("host", c.host), ("port", c.port), ("database", c.database), ("user", c.user),
    ("password", c.password), ("min_pool_size", c.minPoolSize), ("max_pool_size", c.maxPoolSize),
    ("pool_timeout", c.poolTimeout), ("ssl_mode", c.sslMode)]

/-- The start of the names of the variables, unless another one is asked for. -/
def variablesStart : String := "REPOKIT_DATABASE_"

/-- The schemes of acceptable URLs. -/
def schemes : List String := ["postgresql", "postgres"]

/-- The path as the name of a database. -/
def databaseOf (path : List Char) : String :=
  if path.isEmpty then "repokit" else String.ofList (path.dropWhile (· = '/'))

/-- A text, or none where it is empty. -/
def nonempty (s : String) : Option String := if s.isEmpty then none else some s

/-- The encoded password of a URL; an empty one is none. -/
def passwordOf (s : String) : Datum :=
  match nonempty s with
  | some s => .text (Text.Percent.decode s)
  | none => .null

/-- The settings of a URL. -/
def ofUrl? (s : String) : Outcome DatabaseConfig := do
  let url ← Url.parse? s
  if !schemes.contains url.scheme then throw (.argument (.urlScheme url.scheme))
  let port ← url.port?
  return { host := .text ((nonempty url.host).getD "localhost")
           port := .integer (if port = 0 then 5432 else port)
           database := .text (databaseOf url.path)
           user := .text (Text.Percent.decode url.user)
           password := passwordOf url.password }

/-- Is a value less than another?  Values without an order are of the wrong type. -/
def isLess? (a b : Datum) : Outcome Bool := do
  match ← a.before? b with
  | some less => pure less
  | none => throw .wrongType

/-- Is a time to wait none at all? -/
def isNoTime? (d : Datum) : Outcome Bool := do
  if ← isLess? d (.integer 0) then pure true else d.same? (.integer 0)

/-- A size, or one where the size is less. -/
def atLeastOne? (size : Datum) : Outcome Datum := do
  return if ← isLess? size (.integer 1) then .integer 1 else size

/-- Fails where the bounds of the pool contradict each other. -/
def validate? (c : DatabaseConfig) : Outcome Unit := do
  if ← isLess? c.minPoolSize (.integer 0) then throw (.argument (.minPool c.minPoolSize))
  if ← isLess? c.maxPoolSize (← atLeastOne? c.minPoolSize) then
    throw (.argument (.maxPool c.maxPoolSize c.minPoolSize))
  if ← isNoTime? c.poolTimeout then throw (.argument (.poolTimeout c.poolTimeout))

/-- The value of a variable as `read?` takes it, or the default. -/
def setting? (env : Assoc String) (name : String) (fallback : Datum)
    (read? : String → Outcome Datum) : Outcome Datum :=
  match env.lookup name with
  | some s => read? s
  | none => pure fallback

/-- The text of a variable as it is. -/
def text? (s : String) : Outcome Datum := pure (.text s)

/-- The whole number in the text of a variable. -/
def integer? (s : String) : Outcome Datum := do return .integer (← Datum.integerOfText? s)

/-- The floating-point number in the text of a variable. -/
def binary? (s : String) : Outcome Datum := do return .binary (← Datum.binaryOfText? s)

/-- The settings of the variables whose names start with the given text. -/
def ofEnvironment? (env : Assoc String) (start : String) :
    Outcome DatabaseConfig := do
  let base ← match (env.lookup (start ++ "URL")).bind nonempty with
    | some url => ofUrl? url
    | none => pure {}
  let host ← setting? env (start ++ "HOST") base.host text?
  let port ← setting? env (start ++ "PORT") base.port integer?
  let database ← setting? env (start ++ "NAME") base.database text?
  let user ← setting? env (start ++ "USER") base.user text?
  let password ← setting? env (start ++ "PASSWORD") base.password text?
  let minPoolSize ← setting? env (start ++ "MIN_POOL_SIZE") base.minPoolSize integer?
  let maxPoolSize ← setting? env (start ++ "MAX_POOL_SIZE") base.maxPoolSize integer?
  let poolTimeout ← setting? env (start ++ "POOL_TIMEOUT") base.poolTimeout binary?
  let sslMode ← setting? env (start ++ "SSL_MODE") base.sslMode text?
  let config : DatabaseConfig :=
    ⟨host, port, database, user, password, minPoolSize, maxPoolSize, poolTimeout, sslMode⟩
  config.validate?
  return config

/-- The parts of the connection string. -/
def dsn (c : DatabaseConfig) : Dsn :=
  ⟨c.host, c.port, c.database, c.user, c.password, c.sslMode⟩

/-- The text of the settings in messages, without the password. -/
def shown (c : DatabaseConfig) : String :=
  "DatabaseConfig(host=" ++ c.host.shown ++ ", port=" ++ c.port.plain ++ ", database=" ++
    c.database.shown ++ ", user=" ++ c.user.shown ++ ", pool=" ++ c.minPoolSize.plain ++ "-" ++
    c.maxPoolSize.plain ++ ")"

end DatabaseConfig

end RecordStore
