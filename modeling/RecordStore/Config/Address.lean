import RecordStore.Text.Blank
import RecordStore.Text.Hex
import RecordStore.Text.Split

/-!
# Numeric addresses of hosts

The two forms of the address of a host, and the form kept for later ones.

* `Address.isVersion4` accepts four numbers below 256 with points between them.
* `Address.isVersion6` accepts eight groups of hexadecimal digits with colons between them, of
  which the last two may be written as an address of version 4; two colons in a row stand for one
  or more groups of zeros, once at most.  A zone may follow a percent sign.
* `Address.isFuture` accepts `v`, a version in hexadecimal digits, a point and any text.
-/

namespace RecordStore.Address

/-- Is the text a number below 256 without zeros in front? -/
def isByte (cs : List Char) : Bool :=
  !cs.isEmpty && cs.length ≤ 3 && cs.all Text.isAsciiDigit &&
    (cs == ['0'] || cs.head? != some '0') && Text.ofDigits (cs.map Text.digitValue) ≤ 255

/-- Is the text an address of version 4? -/
def isVersion4 (cs : List Char) : Bool :=
  let ps := Text.fields '.' cs
  ps.length == 4 && ps.all isByte

/-- Is the text a group of one to four hexadecimal digits? -/
def isGroup (cs : List Char) : Bool :=
  !cs.isEmpty && cs.length ≤ 4 && cs.all fun c => (Text.hexValue? c).isSome

/-- The groups, with an address of version 4 in the last place counted as two of them. -/
def expandLast? (gs : List (List Char)) : Option (List (List Char)) :=
  match gs.getLast? with
  | some g =>
    if !g.contains '.' then some gs
    else if isVersion4 g then some (gs.dropLast ++ [['0'], ['0']])
    else none
  | none => none

/-- No groups where there is only an empty text beside two colons. -/
def beside (gs : List (List Char)) : List (List Char) := if gs = [[]] then [] else gs

/-- Are these the groups of an address, an empty one between others standing for zeros? -/
def areGroups (gs : List (List Char)) : Bool :=
  let inner := gs.dropLast.drop 1
  if inner.all (!·.isEmpty) then gs.length == 8 && gs.all isGroup
  else
    let written := beside (gs.take 1 ++ inner.takeWhile (!·.isEmpty)) ++
      beside ((inner.dropWhile (!·.isEmpty)).drop 1 ++ gs.getLast?.toList)
    written.length < 8 && written.all isGroup

/-- Is the zone behind an address, if there is one, a text without a percent sign? -/
def isZone : Option (List Char) → Bool
  | some zone => !zone.isEmpty && !zone.contains '%'
  | none => true

/-- Is the text an address of version 6? -/
def isVersion6 (cs : List Char) : Bool :=
  let (address, zone) := Text.cut '%' cs
  isZone zone && (expandLast? (Text.fields ':' address)).any areGroups

/-- Is the text an address of a later version? -/
def isFuture (cs : List Char) : Bool :=
  match cs with
  | 'v' :: rest => match Text.cut '.' rest with
    | (version, some address) =>
      !version.isEmpty && version.all (fun c => (Text.hexValue? c).isSome) && !address.isEmpty
    | _ => false
  | _ => false

end RecordStore.Address
