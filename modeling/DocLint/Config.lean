import DocLint.Text.Case
import DocLint.Text.Words
import DocLint.Fault
import DocLint.Url.Host
/-!
# Configuration

The thresholds and word lists of the built-in rules, and the **domain policy**,
which says what absolute URLs a document may hold: none that lead to the
platform's own sites, unless their host is listed as an exception. Links to the
platform ought to be relative, so that they work wherever it runs.

Names are compared in lower case. A setting may be given as any value; `ofFields`
takes the known settings out of a record and checks them.
-/

namespace DocLint

/-- A threshold: a number of things, or a truth value that counts as 0 or 1. -/
inductive Threshold
  | count (n : Nat)
  | flag (b : Bool)
  deriving DecidableEq, Repr

namespace Threshold

/-- The number that a threshold means. -/
def value : Threshold → Nat
  | count n => n
  | flag b => if b then 1 else 0

/-- A threshold as a value. -/
def toTree : Threshold → Tree
  | count n => .int n
  | flag b => .bool b

/-- The threshold that the value of a setting means. -/
def ofTree (name : String) : Tree → Except Fault Threshold
  | .bool b => return flag b
  | .int i =>
    if 0 ≤ i then return count i.toNat else throw (.about (.int i) (.setting name (.int i)))
  | t => throw (.about t (.setting name t))

end Threshold

/-- The texts of a collection. Text is a collection of its characters, and a
record one of its keys. -/
def collection : Tree → Except Fault (List Tree)
  | .list items => return items
  | .str s => return s.toList.map fun c => .str c.toString
  | .record fields => return fields.map fun (key, _) => .str key
  | t => throw (.type (.notIterable t.kind))

/-- The lower-case forms of the texts of a collection, each changed by `change`,
as a set. -/
def lowerSet (change : String → String) (t : Tree) : Except Fault (List String) := do
  let texts ← (← collection t).mapM fun
    | .str s => return change (Text.lower s)
    | t => throw (.noOperation t.kind "lower")
  return Text.setOf texts

/-- Which hosts belong to the platform, and which of them may be linked to. Both
sets hold lower-case names; a domain includes its subdomains, an exception does
not. -/
structure DomainPolicy where
  platformDomains : List String
  allowedHosts : List String
  deriving DecidableEq, Repr

namespace DomainPolicy

/-- The policy that holds where none is set. The exceptions can only be reached
by an absolute URL. -/
def default : DomainPolicy where
  platformDomains := ["kastatic.org", "khanacademy.org"]
  allowedHosts := ["cdn.kastatic.org", "fastly.kastatic.org",
    "ka-perseus-graphie.s3.amazonaws.com", "ka-perseus-images.s3.amazonaws.com",
    "sandcastle.khanacademy.org"]

instance : Inhabited DomainPolicy := ⟨default⟩

/-- A domain without the points in front of it. -/
def withoutDots (domain : String) : String := String.ofList (domain.toList.dropWhile (· == '.'))

/-- The policy that settings describe. -/
def ofFields (settings : List (String × Tree)) : Except Fault DomainPolicy := do
  let domains ← match fieldOf? settings "platform_domains" with
    | some t => lowerSet withoutDots t
    | none => pure default.platformDomains
  let hosts ← match fieldOf? settings "allowed_hosts" with
    | some t => lowerSet id t
    | none => pure default.allowedHosts
  return ⟨domains, hosts⟩

/-- Is the host the domain itself, or one of its subdomains? Both are in lower
case. -/
def isWithin (host domain : String) : Bool :=
  host == domain || ('.' :: domain.toList).isSuffixOf host.toList

/-- Does a host belong to the platform? -/
def isPlatformHost (p : DomainPolicy) (host : String) : Bool :=
  p.platformDomains.any (isWithin (Text.lower host))

/-- May a document hold this URL? -/
def allows (p : DomainPolicy) (url : String) : Bool :=
  match Url.host? url with
  | none => true
  | some host => p.allowedHosts.contains host || !p.isPlatformHost host

end DomainPolicy

/-- The settings of the built-in rules. -/
structure Config where
  /-- The most characters that a paragraph may have. -/
  maxParagraphLength : Threshold
  /-- The least level that a heading may have. -/
  minHeadingLevel : Threshold
  /-- The fewest characters that describe an image. -/
  minAltTextLength : Threshold
  /-- Link texts that say nothing, in lower case with single spaces. -/
  genericLinkPhrases : List String
  domainPolicy : DomainPolicy
  deriving DecidableEq, Repr

namespace Config

/-- The configuration that holds where nothing is set. -/
def default : Config where
  maxParagraphLength := .count 500
  minHeadingLevel := .count 2
  minAltTextLength := .count 5
  genericLinkPhrases := ["click here", "here", "learn more", "link", "read more", "this link"]
  domainPolicy := .default

instance : Inhabited Config := ⟨default⟩

/-- The value of a threshold, if it is set. -/
def threshold (settings : List (String × Tree)) (name : String) (default : Threshold) :
    Except Fault Threshold :=
  match fieldOf? settings name with
  | some t => Threshold.ofTree name t
  | none => return default

/-- The configuration that settings describe. -/
def ofFields (settings : List (String × Tree)) : Except Fault Config := do
  let policy ← match fieldOf? settings "domain_policy" with
    | some (.record fields) => DomainPolicy.ofFields fields
    | _ => pure default.domainPolicy
  let paragraph ← threshold settings "max_paragraph_length" default.maxParagraphLength
  let heading ← threshold settings "min_heading_level" default.minHeadingLevel
  let altText ← threshold settings "min_alt_text_length" default.minAltTextLength
  let phrases ← match fieldOf? settings "generic_link_phrases" with
    | some t => lowerSet Text.normalizeBlanks t
    | none => pure default.genericLinkPhrases
  return ⟨paragraph, heading, altText, phrases, policy⟩

theorem ofFields_nil : ofFields [] = .ok default := rfl

end Config

end DocLint
