import Mathlib.Data.List.Forall2
import Mathlib.Data.List.Infix
import DocLint.Config
import DocLint.Proofs.Url.Letters

/-!
# DocLint.Proofs.Url.Policy

**The domain policy decides by whole labels** (`allows_iff_labels`), although it compares the
characters of names: for any two names, one is within the other just if its labels end with
those of the other (`isWithin_iff_labels`).

What becomes of the settings is a policy in any case (`ofFields_named`), and only the small
forms of the names are in it. So their letter case never matters; that of the URL does where
it decides whether the URL has a host at all (`allows_bracketed_capital`).
-/

namespace DocLint

namespace Text

theorem mem_setOf {text : String} {texts : List String} : text ∈ setOf texts ↔ text ∈ texts := by
  have hfold (texts : List String) : text ∈ texts.foldr (fun text rest =>
      if rest.head? = some text then rest else text :: rest) [] ↔ text ∈ texts := by
    induction texts with
    | nil => rfl
    | cons first texts ih =>
        rw [List.foldr_cons, List.mem_cons, ← ih]
        split
        · next hhead =>
            refine ⟨.inr, fun h => h.elim (fun h => ?_) id⟩
            exact h ▸ List.mem_of_mem_head? hhead
        · exact List.mem_cons
  rw [setOf, hfold, List.mem_mergeSort]

end Text

namespace DomainPolicy

/-- The parts of a name between its dots. -/
def labels (name : String) : List (List Char) := name.toList.splitOn '.'

/-- A domain as the policy compares it: in lower case, without the dots in front. -/
def plainDomain (domain : String) : String := withoutDots (Text.lower domain)

/-- The settings with these names. -/
def settings (domains hosts : List String) : List (String × Tree) :=
  [("platform_domains", .list (domains.map .str)), ("allowed_hosts", .list (hosts.map .str))]

/-! ### Labels -/

/-- One more name and a dot in front are more labels in front. -/
theorem labels_append (front name : String) :
    labels (front ++ "." ++ name) = labels front ++ labels name := by
  rw [labels, String.toList_append, String.toList_append, List.append_assoc]
  exact List.splitOn_append_cons_self _ _

theorem labels_injective {name other : String} (h : labels name = labels other) : name = other := by
  have hjoin := congrArg (List.intercalate ['.']) h
  rw [labels, labels, List.intercalate_splitOn, List.intercalate_splitOn] at hjoin
  exact String.toList_inj.mp hjoin

/-- Labels with more labels in front are a name with another and a dot in front. -/
theorem exists_front {more : List (List Char)} {name host : String} (hmore : more ≠ [])
    (h : more ++ labels name = labels host) : ∃ front, host = front ++ "." ++ name := by
  have hjoin (more : List (List Char)) (hmore : more ≠ []) :
      ['.'].intercalate (more ++ labels name) = ['.'].intercalate more ++ '.' :: name.toList := by
    induction more with
    | nil => exact absurd rfl hmore
    | cons first more ih =>
        cases more with
        | nil =>
            have hsome : labels name ≠ [] := List.splitOn_ne_nil '.' name.toList
            rw [List.cons_append, List.nil_append, List.intercalate_singleton,
              List.intercalate_cons_of_ne_nil hsome, labels, List.intercalate_splitOn,
              List.append_assoc]
            rfl
        | cons second more =>
            rw [List.cons_append, List.cons_append, List.intercalate_cons_cons,
              ← List.cons_append, ih (List.cons_ne_nil _ _), List.intercalate_cons_cons,
              List.append_assoc, List.append_assoc, List.append_assoc]
  refine ⟨String.ofList (['.'].intercalate more), String.toList_inj.mp ?_⟩
  have hhost : ['.'].intercalate (labels host) = host.toList := List.intercalate_splitOn '.'
  rw [← hhost, ← h, hjoin more hmore]
  simp

/-- The labels of a host end with those of a name just if the host is the name, or the name
with something and a dot in front. -/
theorem labels_suffix_iff {name host : String} :
    labels name <:+ labels host ↔ host = name ∨ ∃ front, host = front ++ "." ++ name := by
  constructor
  · rintro ⟨more, hmore⟩
    cases more with
    | nil => exact .inl (labels_injective hmore).symm
    | cons first more => exact .inr (exists_front (List.cons_ne_nil _ _) hmore)
  · rintro (rfl | ⟨front, rfl⟩)
    · exact List.suffix_rfl
    · rw [labels_append]
      exact List.suffix_append _ _

/-- A host is within a domain just if its labels end with those of the domain. -/
theorem isWithin_iff_labels (host domain : String) :
    isWithin host domain = true ↔ labels domain <:+ labels host := by
  have hdotted : ('.' :: domain.toList).isSuffixOf host.toList = true ↔
      ∃ front, host = front ++ "." ++ domain := by
    rw [List.isSuffixOf_iff_suffix]
    constructor
    · rintro ⟨front, hfront⟩
      refine ⟨String.ofList front, String.toList_inj.mp ?_⟩
      simp [← hfront]
    · rintro ⟨front, rfl⟩
      exact ⟨front.toList, by simp⟩
  rw [isWithin, Bool.or_eq_true, beq_iff_eq, hdotted, labels_suffix_iff]

/-! ### Policies from settings -/

theorem mapM_texts {f : Tree → Except Fault String} {g : String → String}
    (h : ∀ text, f (.str text) = .ok (g text)) (texts : List String) :
    (texts.map Tree.str).mapM f = .ok (texts.map g) := by
  induction texts with
  | nil => rfl
  | cons text texts ih =>
      rw [List.map_cons, List.mapM_cons, h, ih]
      rfl

theorem lowerSet_texts (change : String → String) (texts : List String) :
    lowerSet change (.list (texts.map .str)) =
      .ok (Text.setOf (texts.map fun text => change (Text.lower text))) := by
  refine congrArg (fun found => found >>= fun texts => pure (Text.setOf texts))
    (mapM_texts (fun text => ?_) texts)
  rfl

/-- The policy of some names. -/
def named (domains hosts : List String) : DomainPolicy where
  platformDomains := Text.setOf (domains.map plainDomain)
  allowedHosts := Text.setOf (hosts.map Text.lower)

theorem ofFields_named (domains hosts : List String) :
    ofFields (settings domains hosts) = .ok (named domains hosts) := by
  have hdomains : fieldOf? (settings domains hosts) "platform_domains" =
      some (.list (domains.map .str)) := rfl
  have hhosts : fieldOf? (settings domains hosts) "allowed_hosts" =
      some (.list (hosts.map .str)) := rfl
  simp only [ofFields, hdomains, hhosts, lowerSet_texts]
  rfl

/-! ### What a policy allows -/

/-- Which hosts belong to the platform, by labels. -/
theorem isPlatformHost_named (domains hosts : List String) (host : String) :
    (named domains hosts).isPlatformHost host = true ↔
      ∃ d ∈ domains, labels (plainDomain d) <:+ labels (Text.lower host) := by
  rw [isPlatformHost, List.any_eq_true]
  simp only [isWithin_iff_labels, named, Text.mem_setOf, List.mem_map]
  constructor
  · rintro ⟨_, ⟨d, hd, rfl⟩, hsuffix⟩
    exact ⟨d, hd, hsuffix⟩
  · rintro ⟨d, hd, hsuffix⟩
    exact ⟨_, ⟨d, hd, rfl⟩, hsuffix⟩

/-- The host of the URL is in lower case, if it has one. -/
def Lowered (url : String) : Prop := ∀ host, Url.host? url = some host → Text.lower host = host

variable {url url' : String}

/-- What is not allowed has a host of the platform that is no exception. -/
theorem allows_named (hlower : Lowered url) (domains hosts : List String) :
    (named domains hosts).allows url = false ↔ ∃ host, Url.host? url = some host ∧
      host ∉ hosts.map Text.lower ∧ ∃ d ∈ domains, labels (plainDomain d) <:+ labels host := by
  rw [allows]
  cases hhost : Url.host? url with
  | none => simp
  | some host =>
      have hexceptions : (named domains hosts).allowedHosts.contains host = true ↔
          host ∈ hosts.map Text.lower := by
        rw [List.contains_iff_mem]
        exact Text.mem_setOf
      have hplatform := isPlatformHost_named domains hosts host
      rw [hlower host hhost] at hplatform
      simp only [Option.some.injEq, exists_eq_left', Bool.or_eq_false_iff, Bool.not_eq_false']
      rw [hplatform, ← hexceptions, Bool.not_eq_true]

/-- The capital letters in the settings do not matter. -/
theorem named_alike {domains domains' hosts hosts' : List String}
    (hdomains : List.Forall₂ Text.Alike domains domains')
    (hhosts : List.Forall₂ Text.Alike hosts hosts') :
    named domains' hosts' = named domains hosts := by
  have hmap (change : String → String) {texts texts' : List String}
      (h : List.Forall₂ Text.Alike texts texts') :
      (texts'.map fun text => change (Text.lower text)) =
        texts.map fun text => change (Text.lower text) := by
    induction h with
    | nil => rfl
    | cons hfirst _ ih => rw [List.map_cons, List.map_cons, ih, hfirst.lower]
  have hplain : domains'.map plainDomain = domains.map plainDomain := hmap withoutDots hdomains
  have hlower : hosts'.map Text.lower = hosts.map Text.lower := hmap id hhosts
  rw [named, named, hplain, hlower]

/-- URLs with hosts that are alike, and in lower case, have the same host. -/
theorem host?_of_alike (hlower : Lowered url) (hlower' : Lowered url') (h : Text.Alike url url')
    (hsome : (Url.host? url').isSome = (Url.host? url).isSome) :
    Url.host? url' = Url.host? url := by
  cases hhost : Url.host? url with
  | none => simpa [hhost] using hsome
  | some host =>
      obtain ⟨host', hhost'⟩ := Option.isSome_iff_exists.mp
        (hsome.trans (congrArg Option.isSome hhost))
      rw [hhost', ← hlower host hhost, ← hlower' host' hhost',
        (Url.host?_alike h hhost hhost').lower]

/-- **The domain policy decides by whole labels.** A policy can be made of all names. It does
not allow a URL just if the URL has a host, the host is not listed as an exception, and its
labels end with those of a domain of the platform. So a host that merely ends in the characters
of a domain is allowed, and a subdomain is only if it is listed. The names in the settings
may be written in small or capital letters. So may the URL as long as either both forms of it
have a host or neither has, and without brackets that is always so. -/
theorem allows_iff_labels (hlower : Lowered url) (domains hosts : List String) :
    ∃ p, ofFields (settings domains hosts) = .ok p ∧
      (p.allows url = false ↔ ∃ host, Url.host? url = some host ∧ host ≠ "" ∧
        host ∉ hosts.map Text.lower ∧
        ∃ d ∈ domains, labels (plainDomain d) <:+ labels host) ∧
      (∀ host, Url.host? url = some host →
        (∀ d ∈ domains, ∀ front, host = front ++ plainDomain d →
          front ≠ "" ∧ front.toList.getLast? ≠ some '.') → p.allows url = true) ∧
      (∀ d ∈ domains, ∀ front, Url.host? url = some (front ++ "." ++ plainDomain d) →
        (p.allows url = true ↔ front ++ "." ++ plainDomain d ∈ hosts.map Text.lower)) ∧
      (∀ domains' hosts', List.Forall₂ Text.Alike domains domains' →
        List.Forall₂ Text.Alike hosts hosts' → ofFields (settings domains' hosts') = .ok p) ∧
      ∀ url', Text.Alike url url' → Lowered url' →
        ('[' ∉ url.toList ∨ (Url.host? url').isSome = (Url.host? url).isSome) →
          p.allows url' = p.allows url := by
  have hallows := allows_named hlower domains hosts
  refine ⟨named domains hosts, ofFields_named domains hosts, ?_, ?_, ?_, ?_, ?_⟩
  · rw [hallows]
    refine exists_congr fun host => and_congr_right fun hhost => ?_
    have hsome : host ≠ "" := by
      rintro rfl
      exact Url.host?_ne_empty hhost
    rw [and_iff_right hsome]
  · intro host hhost hmerely
    rw [← Bool.not_eq_false, hallows]
    rintro ⟨host', hhost', -, d, hd, hsuffix⟩
    obtain rfl : host = host' := Option.some.inj (hhost.symm.trans hhost')
    rcases labels_suffix_iff.mp hsuffix with heq | ⟨front, heq⟩
    · exact (hmerely d hd "" (heq.trans String.empty_append.symm)).1 rfl
    · refine (hmerely d hd (front ++ ".") heq).2 ?_
      rw [String.toList_append]
      exact List.getLast?_concat
  · intro d hd front hhost
    have hsuffix : labels (plainDomain d) <:+ labels (front ++ "." ++ plainDomain d) :=
      labels_suffix_iff.mpr (.inr ⟨front, rfl⟩)
    rw [← Bool.not_eq_false, hallows, not_iff_comm]
    constructor
    · intro hnot
      exact ⟨_, hhost, hnot, d, hd, hsuffix⟩
    · rintro ⟨host, hhost', hnot, -⟩
      exact Option.some.inj (hhost.symm.trans hhost') ▸ hnot
  · intro domains' hosts' hdomains hhosts
    rw [ofFields_named, named_alike hdomains hhosts]
  · intro url' halike hlower' hside
    have hsome : (Url.host? url').isSome = (Url.host? url).isSome := by
      rcases hside with hopen | hsome
      · exact Url.isSome_host?_alike halike hopen
      · exact hsome
    rw [allows, allows, host?_of_alike hlower hlower' halike hsome]

/-- A subdomain of the platform is not allowed, however the names are written. -/
theorem allows_iff_labels_capitals :
    Lowered "https://WWW.KhanAcademy.org/x" ∧
    ∃ p, ofFields (settings [".KHANACADEMY.org"] ["cdn.KhanAcademy.org"]) = .ok p ∧
      p.allows "https://WWW.KhanAcademy.org/x" = false ∧
      p.allows "https://www.khanacademy.ORG/X" = false := by
  have hlowered : Lowered "https://WWW.KhanAcademy.org/x" ∧
      Lowered "https://www.khanacademy.ORG/X" := by
    have hone : Url.host? "https://WWW.KhanAcademy.org/x" = some "www.khanacademy.org" ∧
        Url.host? "https://www.khanacademy.ORG/X" = some "www.khanacademy.org" := by decide
    have hlower : Text.lower "www.khanacademy.org" = "www.khanacademy.org" := by decide
    refine ⟨?_, ?_⟩
    · intro host hhost
      obtain rfl := Option.some.inj (hone.1.symm.trans hhost)
      exact hlower
    · intro host hhost
      obtain rfl := Option.some.inj (hone.2.symm.trans hhost)
      exact hlower
  obtain ⟨p, hp, -, -, hsubdomain, -, hcapitals⟩ :=
    allows_iff_labels hlowered.1 [".KHANACADEMY.org"] ["cdn.KhanAcademy.org"]
  have hnot : p.allows "https://WWW.KhanAcademy.org/x" = false := by
    have hhost : Url.host? "https://WWW.KhanAcademy.org/x" =
        some ("www" ++ "." ++ plainDomain ".KHANACADEMY.org") := by decide
    rw [← Bool.not_eq_true, hsubdomain _ List.mem_cons_self "www" hhost]
    decide
  have hsame := hcapitals "https://www.khanacademy.ORG/X" (by decide) hlowered.2 (.inl (by decide))
  exact ⟨hlowered.1, p, hp, hnot, hsame.trans hnot⟩

/-- The letter case of a URL can decide: an address of a future kind begins with a small `v`,
so in brackets the same name with a capital letter is no host, and what has no host is
allowed. -/
theorem allows_bracketed_capital :
    Text.Alike "http://[v1.khanacademy.org]/" "http://[V1.khanacademy.org]/" ∧
    Lowered "http://[v1.khanacademy.org]/" ∧ Lowered "http://[V1.khanacademy.org]/" ∧
    ∃ p, ofFields (settings ["khanacademy.org"] []) = .ok p ∧
      p.allows "http://[v1.khanacademy.org]/" = false ∧
      p.allows "http://[V1.khanacademy.org]/" = true := by
  have hsmall : Url.host? "http://[v1.khanacademy.org]/" = some "v1.khanacademy.org" := by decide
  have hcapital : Url.host? "http://[V1.khanacademy.org]/" = none := by decide
  have hlowered : Lowered "http://[v1.khanacademy.org]/" := by
    intro host hhost
    obtain rfl := Option.some.inj (hsmall.symm.trans hhost)
    decide
  refine ⟨by decide, hlowered, ?_, _, ofFields_named _ _, ?_, ?_⟩
  · intro host hhost
    exact absurd (hcapital.symm.trans hhost) nofun
  · rw [allows_named hlowered]
    refine ⟨"v1.khanacademy.org", hsmall, List.not_mem_nil, _, List.mem_cons_self, ?_⟩
    decide
  · rw [allows, hcapital]

end DomainPolicy

end DocLint
