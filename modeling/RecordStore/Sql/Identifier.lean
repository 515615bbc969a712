import RecordStore.Fault.Message
import RecordStore.Text.Split

/-!
# SQL identifiers

Names that may stand in SQL text.  A name is split at its dots, and every part has to be plain:
a letter or underscore, then letters, digits and underscores, all ASCII.  One line break is
tolerated at the very end of a part.  The parts are written in double quotes.
-/

namespace RecordStore.Sql

/-- Can the character begin a plain name? -/
def isNameStart (c : Char) : Bool := c.isAlpha || c == '_'

/-- Can the character stand inside a plain name? -/
def isNameChar (c : Char) : Bool := c.isAlphanum || c == '_'

/-- The text without one line break at its end. -/
def dropFinalBreak (cs : List Char) : List Char :=
  if cs.getLast? = some '\n' then cs.dropLast else cs

/-- Is the text a plain name? -/
def isPlain (cs : List Char) : Bool :=
  match dropFinalBreak cs with
  | [] => false
  | c :: rest => isNameStart c && rest.all isNameChar

/-- A part in double quotes. -/
def inQuotes (cs : List Char) : List Char := '"' :: cs ++ ['"']

/-- The quoted form of a name; none where it is no identifier. -/
def quote? (name : String) : Option String :=
  let ps := Text.fields '.' name.toList
  if ps.all isPlain then some (String.ofList (List.intercalate ['.'] (ps.map inQuotes))) else none

/-- The quoted form of what stands where a name is expected; `context` tells in a fault what the
name is for. -/
def quote (context : String) (d : Datum) : Outcome String :=
  match d with
  | .text s => match quote? s with
    | some q => pure q
    | none => throw (.builder (.badIdentifier context d))
  | d => throw (.builder (.badIdentifier context d))

end RecordStore.Sql
