import RecordStore.Config.Address
import RecordStore.Fault.Message
import RecordStore.Number.Literal
import RecordStore.Text.Case

/-!
# The parts of a URL

A URL is a scheme, an authority and a path; a query and a fragment are left away.  The authority
holds the user's name and password, the host and the port.  A host in brackets has to be a numeric
address, but not one of version 4.
-/

namespace RecordStore

/-- The parts of a URL. -/
structure Url where
  scheme : String
  authority : List Char
  path : List Char
  deriving Inhabited

namespace Url

/-- Can the character stand in a scheme? -/
def isSchemeChar (c : Char) : Bool := c.isAlphanum || c == '+' || c == '-' || c == '.'

/-- The scheme, in lower case, and what follows it. -/
def takeScheme (cs : List Char) : String × List Char :=
  match Text.cut ':' cs with
  | (c :: name, some rest) =>
    if c.isAlpha && name.all isSchemeChar then
      (String.ofList ((c :: name).map Char.toLower), rest)
    else ("", cs)
  | _ => ("", cs)

/-- Does the character end an authority? -/
def endsAuthority (c : Char) : Bool := c == '/' || c == '?' || c == '#'

/-- The authority and what follows it. -/
def takeAuthority : List Char → List Char × List Char
  | '/' :: '/' :: rest =>
    (rest.takeWhile (!endsAuthority ·), rest.dropWhile (!endsAuthority ·))
  | cs => ([], cs)

/-- The characters whose compatibility form holds one of `/`, `?`, `#`, `@` and `:`. -/
def lookalikes : List Nat :=
  [0x2047, 0x2048, 0x2049, 0x2100, 0x2101, 0x2105, 0x2106, 0x2a74, 0xfe13, 0xfe16, 0xfe55,
   0xfe56, 0xfe5f, 0xfe6b, 0xff03, 0xff0f, 0xff1a, 0xff1f, 0xff20]

/-- Fails unless a host may stand in brackets. -/
def checkHost? (cs : List Char) : Outcome Unit :=
  if cs.head? = some 'v' then
    if Address.isFuture cs then pure () else throw (.argument .urlFuture)
  else if Address.isVersion4 cs then throw (.argument .urlVersion4)
  else if Address.isVersion6 cs then pure ()
  else throw (.argument (.urlAddress (String.ofList cs)))

/-- The host of an authority with brackets: nothing may stand before them, and only a port after
them. -/
def bracketedHost? (cs : List Char) : Outcome (List Char) :=
  let hostPart := (Text.cutLast '@' cs).2
  match Text.cut '[' hostPart with
  | (before, some bracketed) =>
    let (host, after) := Text.cut ']' bracketed
    let after := after.getD []
    if before.isEmpty && (after.isEmpty || after.head? == some ':') then pure host
    else throw (.argument .urlBrackets)
  | (_, none) => pure (Text.cut ':' hostPart).1

/-- Fails where brackets are not closed or hold no address. -/
def checkBrackets? (cs : List Char) : Outcome Unit := do
  if cs.contains '[' != cs.contains ']' then throw (.argument .urlBrackets)
  if cs.contains '[' then checkHost? (← bracketedHost? cs)

/-- Fails where a character could be taken for a separator. -/
def checkLookalikes? (cs : List Char) : Outcome Unit :=
  if cs.any fun c => lookalikes.contains c.toNat then
    throw (.argument (.urlNormalization (String.ofList cs)))
  else pure ()

/-- Is the character a blank or control character, which may stand in front of a URL? -/
def isLeading (c : Char) : Bool := c.toNat ≤ 0x20

/-- Is the character left out of every URL? -/
def isDropped (c : Char) : Bool := c == '\t' || c == '\r' || c == '\n'

/-- Reads a URL. -/
def parse? (s : String) : Outcome Url := do
  let (scheme, rest) := takeScheme ((s.toList.dropWhile isLeading).filter (!isDropped ·))
  let (authority, rest) := takeAuthority rest
  checkBrackets? authority
  checkLookalikes? authority
  return ⟨scheme, authority, (Text.cut '?' (Text.cut '#' rest).1).1⟩

/-- What stands for the user, empty where there is no such part. -/
def userPart (u : Url) : List Char := (Text.cutLast '@' u.authority).1.getD []

/-- The encoded name of the user. -/
def user (u : Url) : String := String.ofList (Text.cut ':' u.userPart).1

/-- The encoded password. -/
def password (u : Url) : String := String.ofList ((Text.cut ':' u.userPart).2.getD [])

/-- What stands for host and port. -/
def hostPart (u : Url) : List Char := (Text.cutLast '@' u.authority).2

/-- The host and the port as they are written; brackets around the host are left away. -/
def hostAndPort (u : Url) : List Char × List Char :=
  match Text.cut '[' u.hostPart with
  | (_, some bracketed) =>
    let (host, after) := Text.cut ']' bracketed
    (host, (Text.cut ':' (after.getD [])).2.getD [])
  | (_, none) =>
    let (host, port) := Text.cut ':' u.hostPart
    (host, port.getD [])

/-- The host in lower case, up to the zone that a percent sign begins. -/
def host (u : Url) : String :=
  let cs := u.hostAndPort.1
  Text.lower (String.ofList (cs.takeWhile (· ≠ '%'))) ++ String.ofList (cs.dropWhile (· ≠ '%'))

/-- The port; zero where none is written. -/
def port? (u : Url) : Outcome Nat :=
  let cs := u.hostAndPort.2
  if !cs.all Text.isAsciiDigit then throw (.argument (.portText (String.ofList cs)))
  else if Literal.maxDigits < cs.length then throw (.argument (.tooManyDigits cs.length))
  else
    let n := Text.ofDigits (cs.map Text.digitValue)
    if 65535 < n then throw (.argument .portRange) else pure n

end Url

end RecordStore
