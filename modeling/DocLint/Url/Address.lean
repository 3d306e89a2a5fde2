import DocLint.Text.Words
/-!
# Address literals

The addresses that may stand between square brackets in the place of a host
name: groups of hexadecimal digits with colons between them, of which one run of
zero groups may be left out, the last two groups perhaps written as four decimal
numbers; or an address of a future kind, which names its version.
-/

namespace DocLint.Url

/-- Is the character a hexadecimal digit? -/
def isHexDigit (c : Char) : Bool :=
  c.isDigit || ('a' ≤ c && c ≤ 'f') || ('A' ≤ c && c ≤ 'F')

/-- The value of a text of decimal digits. -/
def decimal (cs : List Char) : Nat := cs.foldl (fun n c => 10 * n + (c.toNat - '0'.toNat)) 0

/-- Is it a number up to 255 without leading zeros? -/
def isOctet (cs : List Char) : Bool :=
  !cs.isEmpty && cs.all Char.isDigit && cs.length ≤ 3 && (cs = ['0'] || cs.head? != some '0') &&
    decimal cs ≤ 255

/-- Is it four numbers with points between them? -/
def isDotted (cs : List Char) : Bool :=
  let octets := Text.splitAt '.' cs
  octets.length == 4 && octets.all isOctet

/-- Is it a group: up to four hexadecimal digits? -/
def isGroup (cs : List Char) : Bool :=
  !cs.isEmpty && cs.all isHexDigit && cs.length ≤ 4

/-- The groups of an address, the four decimal numbers at its end as two
groups; `none` if they are no such numbers. -/
def groups? (cs : List Char) : Option (List (List Char)) :=
  let parts := Text.splitAt ':' cs
  if parts.length < 3 then none
  else
    match parts.getLast? with
    | some last =>
      if last.contains '.' then
        if isDotted last then some (parts.dropLast ++ [['0'], ['0']]) else none
      else some parts
    | none => none

/-- Are these groups, next to the place where groups were left out, well-formed?
An empty group is allowed only if it stands alone at the end of the address. -/
def isHalf (groups : List (List Char)) : Bool :=
  groups == [[]] || groups.all isGroup

/-- How many groups a half stands for. -/
def halfSize (groups : List (List Char)) : Nat := if groups == [[]] then 0 else groups.length

/-- Where groups were left out: the numbers of the empty groups that are neither
first nor last. -/
def gaps (groups : List (List Char)) : List Nat :=
  (List.range groups.length).filter fun i =>
    0 < i && i + 1 < groups.length && groups[i]? == some []

/-- Do the groups make an address? -/
def areGroups (groups : List (List Char)) : Bool :=
  if 9 < groups.length then false
  else
    match gaps groups with
    | [] => groups.length == 8 && groups.all isGroup
    | [i] =>
      let before := groups.take i
      let behind := groups.drop (i + 1)
      isHalf before && isHalf behind && halfSize before + halfSize behind < 8
    | _ => false

/-- Is it an address in groups, perhaps with a zone behind a percent sign? -/
def isAddress (cs : List Char) : Bool :=
  let (address, zone) := Text.cutAt '%' cs
  let zoneFits := match zone with
    | none => true
    | some zone => !zone.isEmpty && !zone.contains '%'
  !cs.contains '/' && zoneFits &&
    match groups? address with
    | some groups => areGroups groups
    | none => false

/-- Is it an address of a future kind: `v`, a version, a point, and the address? -/
def isFutureAddress (cs : List Char) : Bool :=
  match cs with
  | 'v' :: rest =>
    let (version, address) := Text.cutAt '.' rest
    !version.isEmpty && version.all isHexDigit &&
      match address with
      | none => false
      | some address => !address.isEmpty && !address.contains '\n'
  | _ => false

/-- May this stand between square brackets? -/
def isLiteral (cs : List Char) : Bool :=
  if cs.head? = some 'v' then isFutureAddress cs else isAddress cs

end DocLint.Url
