import DocLint.Generate.Selector
import DocLint.Proofs.Generate.Always
import DocLint.Proofs.Regex.Limits
import DocLint.Proofs.Rule.FirstMatch
import DocLint.Proofs.Selector.Accept
import Mathlib

/-!
# DocLint.Proofs.Generate.Selector

**Random selectors are read, or refused as selectors** (`always_anySelector`). Those that are
well-formed are always read (`always_validSelector`): their parts are texts that the grammar
has, and are put together as it says.

The others are thrown together from pieces, and nothing is known about their form. But no piece
has a backslash, a brace or a question mark in it, so there is no expression among them that asks
for more than there is, and all that can be wrong is wrong with the text (`parse_plain`).
-/

namespace DocLint

namespace Selector

open Regex

variable [CharacterNames]

/-- A text of plain characters is read, or refused as a selector. -/
theorem parse_plain {text : String} (h : ∀ c ∈ text.toList, IsPlainChar c) :
    (∃ s, parse text = .ok s) ∨ ∃ error, parse text = .error (.selector error) := by
  cases hparse : parse text with
  | ok s => exact .inl ⟨s, rfl⟩
  | error fault =>
      rcases refusal_of_parse hparse with
        ⟨error, rfl⟩ | ⟨source, _, limit, -, hcompile, hlimit, hin⟩
      · exact .inr ⟨error, rfl⟩
      · -- The source of an expression is a part of the text.
        have hsource : ∀ c ∈ source.toList, IsPlainChar c := by
          refine fun c hc => h c (hin.subset ?_)
          simp [hc]
        obtain ⟨problem, position, hproblem⟩ := compile_problem hsource hcompile
        exact absurd hproblem (hlimit problem position)

end Selector

namespace Generate

open Selector

variable {σ : Type} [Source σ]

/-! ### Well-formed selectors -/

/-- A name that can be written, as a test. -/
theorem isTypeName_of_all {name : String} (h : name.toList.head?.any Text.isLetter = true)
    (hall : name.toList.all Token.isNameChar = true) : IsTypeName name := by
  cases hname : name.toList with
  | nil => simp [hname] at h
  | cons c rest =>
      rw [hname] at h hall
      exact ⟨c, rest, hname, h, fun d hd => List.all_eq_true.mp hall d (List.mem_cons_of_mem c hd)⟩

theorem isTypeName_nodeTypes : ∀ name ∈ nodeTypes, IsTypeName name := by
  have hall : nodeTypes.all (fun name => name.toList.head?.any Text.isLetter &&
      name.toList.all Token.isNameChar) = true := by decide +kernel
  intro name hname
  obtain ⟨hfirst, hrest⟩ := Bool.and_eq_true_iff.mp (List.all_eq_true.mp hall name hname)
  exact isTypeName_of_all hfirst hrest

theorem always_nodeSelector :
    Always (nodeSelector : Gen σ String) fun text => ∃ s, NodeText text.toList s := by
  refine always_oneOf fun text htext => ?_
  have hcases : text ∈ nodeTypes ∨ text = "*" := by simpa [nodeTypes, or_assoc] using htext
  rcases hcases with hname | rfl
  · exact ⟨_, .type (isTypeName_nodeTypes text hname)⟩
  · exact ⟨_, .any⟩

theorem always_chainLink : Always (chainLink : Gen σ String) fun text =>
    ∃ bs rs kind right, text.toList = bs ++ rs ∧ LinkText bs kind ∧ NodeText rs right := by
  have hlink : ∀ text ∈ [" ", " > ", " + ", " ~ ", ">", "~"],
      ∃ kind, LinkText text.toList kind := by
    simp only [List.forall_mem_cons]
    refine ⟨⟨_, .blanks (by decide) blanks_space⟩, ⟨_, .symbol .parent blanks_space blanks_space⟩,
      ⟨_, .symbol .previous blanks_space blanks_space⟩,
      ⟨_, .symbol .sibling blanks_space blanks_space⟩, ⟨_, .symbol .parent blanks_nil blanks_nil⟩,
      ⟨_, .symbol .sibling blanks_nil blanks_nil⟩, nofun⟩
  refine (always_oneOf hlink).bind fun combinator hcombinator => ?_
  refine always_nodeSelector.bind fun node hnode => always_pure ?_
  obtain ⟨kind, hkind⟩ := hcombinator
  obtain ⟨right, hright⟩ := hnode
  exact ⟨_, _, kind, right, String.toList_append, hkind, hright⟩

/-- Links make a chain longer. -/
theorem chainText_links {links : List String} (hlinks : ∀ text ∈ links,
    ∃ bs rs kind right, text.toList = bs ++ rs ∧ LinkText bs kind ∧ NodeText rs right)
    {cs : List Char} {left : Selector} (hleft : ChainText cs left) :
    ∃ s, ChainText (cs ++ (String.join links).toList) s := by
  induction links generalizing cs left with
  | nil => exact ⟨left, by simpa using hleft⟩
  | cons text rest ih =>
      obtain ⟨⟨bs, rs, kind, right, htext, hlink, hright⟩, hrest⟩ := List.forall_mem_cons.mp hlinks
      obtain ⟨s, hs⟩ := ih hrest (.comb hleft hlink hright)
      refine ⟨s, ?_⟩
      rw [String.join_cons, String.toList_append, htext]
      simpa using hs

variable [CharacterNames]

/-- A filter behind a chain ends the text of a tree. -/
theorem treeText_filter {cs ws : List Char} {s : Selector} (h : ChainText cs s) (hws : Blanks ws)
    {text : String} (source flags : String)
    (htext : text.toList = ws ++ '/' :: (source.toList ++ '/' :: flags.toList))
    (hsource : IsPatternSource source) (hflags : IsFlags flags)
    (hcompile : (Regex.compile source (flags.toList.contains 'i')).isOk = true) :
    ∃ s, TreeText (cs ++ text.toList) s := by
  rw [htext]
  obtain ⟨filter, rfl, rfl, hcompiled⟩ := TextFilter.exists_compiled source flags hcompile
  exact ⟨_, .filtered h hws hsource hflags hcompiled⟩

/-- The filters that may follow a chain. -/
theorem treeText_filters {cs : List Char} {s : Selector} (h : ChainText cs s) :
    ∀ text ∈ ["", " /a/", " /[A-Z]/i", "/x+/"], ∃ s, TreeText (cs ++ text.toList) s := by
  simp only [List.forall_mem_cons]
  refine ⟨⟨s, by simpa using TreeText.chain h⟩, ?_, ?_, ?_, nofun⟩
  · exact treeText_filter h blanks_space "a" "" (by decide) (by decide) (.inl rfl)
      (by cbv)
  · exact treeText_filter h blanks_space "[A-Z]" "i" (by decide) (by decide) (.inr rfl)
      (by cbv)
  · exact treeText_filter h blanks_nil "x+" "" (by decide) (by decide) (.inl rfl)
      (by cbv)

theorem always_alternative :
    Always (alternative : Gen σ String) fun text => ∃ s, Stands text s := by
  refine always_nodeSelector.bind fun first hfirst => ?_
  refine (always_chainLink.upTo 3).bind fun links hlinks => ?_
  obtain ⟨left, hleft⟩ := hfirst
  obtain ⟨s, hchain⟩ := chainText_links hlinks (.node hleft)
  have htree : ∀ filter ∈ ["", " /a/", " /[A-Z]/i", "/x+/"],
      ∃ s, Stands (first ++ String.join links ++ filter) s := by
    intro filter hfilter
    obtain ⟨s, hs⟩ := treeText_filters hchain filter hfilter
    exact ⟨s, TreeText.stands (by simpa using hs)⟩
  obtain ⟨hnone, hsome⟩ := List.forall_mem_cons.mp htree
  refine always_any.bind fun _ _ => Always.ite ?_ (always_pure hnone)
  exact (always_oneOf hsome).bind fun filter h => always_pure h

/-- **Well-formed selectors are read.** -/
theorem always_validSelector :
    Always (validSelector : Gen σ String) fun text => ∃ s, parse text = .ok s := by
  refine (always_between (by decide)).bind fun count hcount => ?_
  refine (always_alternative.times count).bind fun texts h => always_pure ?_
  obtain ⟨trees, htrees⟩ := Rule.exists_forall₂ h.2
  cases htrees with
  | nil =>
      have hnone : 0 = count := h.1
      omega
  | cons hfirst hmore => exact ⟨_, (denotes_join (.cons hfirst hmore)).parse⟩

/-! ### Pieces thrown together -/

omit [CharacterNames] in
theorem isPlainChar_pieces : ∀ piece ∈ " " :: (pieces ++ nodeTypes),
    ∀ c ∈ piece.toList, Regex.IsPlainChar c := by
  have hall : (" " :: (pieces ++ nodeTypes)).all (fun piece =>
      piece.toList.all fun c => decide (Regex.IsPlainChar c)) = true := by decide +kernel
  intro piece hpiece c hc
  exact of_decide_eq_true (List.all_eq_true.mp (List.all_eq_true.mp hall piece hpiece) c hc)

/-- **Random selectors are read, or refused as selectors.** -/
theorem always_anySelector : Always (anySelector : Gen σ String) fun text =>
    (∃ s, parse text = .ok s) ∨ ∃ error, parse text = .error (.selector error) := by
  refine always_any.bind fun _ _ => Always.ite (always_validSelector.mono fun _ => .inl) ?_
  refine ((always_oneOf isPlainChar_pieces).upTo 8).bind fun texts h => always_pure ?_
  refine parse_plain fun c hc => ?_
  obtain ⟨text, htext, hc⟩ : ∃ text ∈ texts, c ∈ text.toList := by
    simpa using hc
  exact h text htext c hc

end Generate

end DocLint
