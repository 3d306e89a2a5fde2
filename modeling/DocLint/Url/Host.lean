import DocLint.Text.Case
import DocLint.Url.Address
/-!
# The host of a URL

A URL is read the way browsers do it as far as its host is concerned: control
characters in front and line ends anywhere do not count, a scheme may come first,
and an authority stands behind two slashes up to the next slash, question mark or
number sign. In the authority, the user comes before the last `@`, and the port
behind the first colon after that.

A host in square brackets has to be an address literal and to stand alone, and no
character may turn into a delimiter when it is normalized; other URLs have no
host here.
-/

namespace DocLint.Url

/-- Code points whose compatibility form holds one of `/ ? # @ :`. -/
def delimiterLikeRanges : Text.CodeRanges :=
  [(0x2047, 0x2049), (0x2100, 0x2101), (0x2105, 0x2106), (0x2A74, 0x2A74), (0xFE13, 0xFE13),
    (0xFE16, 0xFE16), (0xFE55, 0xFE56), (0xFE5F, 0xFE5F), (0xFE6B, 0xFE6B), (0xFF03, 0xFF03),
    (0xFF0F, 0xFF0F), (0xFF1A, 0xFF1A), (0xFF1F, 0xFF20)]

/-- Is the character one that may stand in a scheme? -/
def isSchemeChar (c : Char) : Bool := c.isAlphanum || c == '+' || c == '-' || c == '.'

/-- The URL without what does not count. -/
def clean (url : String) : List Char :=
  ((Text.stripChars url.toList).dropWhile (· ≤ ' ')).filter fun c =>
    c != '\t' && c != '\r' && c != '\n'

/-- The URL without its scheme. -/
def dropScheme (cs : List Char) : List Char :=
  match Text.cutAt ':' cs with
  | (scheme, some rest) =>
    if (scheme.head?.any Char.isAlpha) && scheme.all isSchemeChar then rest else cs
  | (_, none) => cs

/-- Does the character end an authority? -/
def endsAuthority (c : Char) : Bool := c == '/' || c == '?' || c == '#'

/-- The authority of a URL without scheme; empty if there is none. -/
def authority : List Char → List Char
  | '/' :: '/' :: rest => rest.takeWhile (!endsAuthority ·)
  | _ => []

/-- The authority without the user: what stands behind the last `@`. -/
def withoutUser (authority : List Char) : List Char :=
  (authority.reverse.takeWhile (· != '@')).reverse

/-- A host in square brackets, with what stands before the brackets and behind
them; without brackets, host and port. -/
def hostParts (cs : List Char) : List Char × List Char × List Char :=
  match Text.cutAt '[' cs with
  | (before, some inside) =>
    let (host, behind) := Text.cutAt ']' inside
    (before, host, behind.getD [])
  | (_, none) =>
    let (host, port) := Text.cutAt ':' cs
    ([], host, (port.map (':' :: ·)).getD [])

/-- Are brackets used rightly, if they are used? This follows the later form of the check,
which also looks at the text around the brackets: none may stand before them, and behind them
only a port. Release 3.11.10 does not have that part yet and looks only at what stands between
the first brackets of the authority. -/
def bracketsFit (authority : List Char) : Bool :=
  match authority.contains '[', authority.contains ']' with
  | false, false => true
  | true, true =>
    let (before, host, behind) := hostParts (withoutUser authority)
    before.isEmpty && (behind.isEmpty || behind.head? == some ':') && isLiteral host
  | _, _ => false

/-- Does no character turn into a delimiter? -/
def staysSplit (authority : List Char) : Bool :=
  authority.all fun c => !delimiterLikeRanges.has c.toNat

/-- The host in lower case; what follows a percent sign is kept. -/
def lowerHost (host : List Char) : String :=
  let (name, zone) := Text.cutAt '%' host
  Text.lower (String.ofList name) ++
    match zone with
    | none => ""
    | some zone => "%" ++ String.ofList zone

/-- The host of a URL; `none` if it has none or is malformed. -/
def host? (url : String) : Option String :=
  let authority := authority (dropScheme (clean url))
  if bracketsFit authority && staysSplit authority then
    let (_, host, _) := hostParts (withoutUser authority)
    if host.isEmpty then none else some (lowerHost host)
  else none

end DocLint.Url
