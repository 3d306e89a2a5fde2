import DocLint.Proofs.Selector.Accept
import DocLint.Proofs.Selector.Comma

/-!
# DocLint.Proofs.Selector.Format

**Reading undoes writing.** The text of a selector that can be written is read as that
selector (`parse_format`).

Writing is followed from the node up to the list: at each level, what is written is
derived by the grammar, for what was written (`denotes_format`). Reading what the grammar
derives is then all that is left (`Denotes.parse`).
-/

namespace DocLint.Selector

open Token Text

/-- The text of a node selector. -/
theorem nodeText_format {s : Selector} (hs : s.IsNode) :
    ∃ text, s.format = .ok text ∧ NodeText text.toList s := by
  cases s with
  | any => exact ⟨"*", rfl, .any⟩
  | type name => exact ⟨name, rfl, .type hs⟩
  | comb _ _ _ | filtered _ _ | list _ | foreign _ => exact hs.elim

/-- What is written between nodes. -/
theorem linkText_infix {kind : Combinator} (hkind : kind.IsKnown) :
    ∃ between, kind.infixText? = some between ∧ LinkText between.toList kind := by
  cases kind with
  | ancestor => exact ⟨" ", rfl, .blanks (by simp) blanks_space⟩
  | parent => exact ⟨" > ", rfl, .symbol .parent blanks_space blanks_space⟩
  | previous => exact ⟨" + ", rfl, .symbol .previous blanks_space blanks_space⟩
  | sibling => exact ⟨" ~ ", rfl, .symbol .sibling blanks_space blanks_space⟩
  | unknown name => exact absurd rfl (hkind name)

/-- The text of a chain. -/
theorem chainText_format {s : Selector} (hs : s.IsChain) :
    ∃ text, s.format = .ok text ∧ ChainText text.toList s := by
  induction hs using IsChain.induction with
  | node s hs =>
      obtain ⟨text, hformat, h⟩ := nodeText_format hs
      exact ⟨text, hformat, .node h⟩
  | comb kind left right hkind hleft hright ih =>
      obtain ⟨l, hl, hltext⟩ := ih
      obtain ⟨between, hbetween, hlink⟩ := linkText_infix hkind
      obtain ⟨r, hr, hrtext⟩ := nodeText_format hright
      refine ⟨l ++ between ++ r, ?_, ?_⟩
      · simp [format, hl, hbetween, hr, bind, Except.bind, pure, Except.pure]
      · simpa using ChainText.comb hltext hlink hrtext

section Names

variable [CharacterNames]

/-- The text of a tree. -/
theorem treeText_format {s : Selector} (hs : s.IsTree) :
    ∃ text, s.format = .ok text ∧ TreeText text.toList s := by
  rcases hs.cases with hchain | ⟨inner, filter, rfl, hchain, hsource, hflags, hcompiled⟩
  · obtain ⟨text, hformat, h⟩ := chainText_format hchain
    exact ⟨text, hformat, .chain h⟩
  · obtain ⟨text, hformat, h⟩ := chainText_format hchain
    refine ⟨text ++ " /" ++ filter.source ++ "/" ++ filter.flags, ?_, ?_⟩
    · rw [format, hformat]
      rfl
    · simpa using TreeText.filtered h blanks_space hsource hflags hcompiled

/-- The texts of several trees. -/
theorem stands_format {trees : List Selector} (h : ∀ s ∈ trees, s.IsTree) :
    ∃ texts, formatList trees = .ok texts ∧ List.Forall₂ Stands texts trees := by
  induction trees with
  | nil => exact ⟨[], rfl, .nil⟩
  | cons s rest ih =>
      obtain ⟨hs, hrest⟩ := List.forall_mem_cons.mp h
      obtain ⟨text, hformat, htext⟩ := treeText_format hs
      obtain ⟨texts, htexts, hstands⟩ := ih hrest
      refine ⟨text :: texts, ?_, .cons htext.stands hstands⟩
      rw [formatList, hformat, htexts]
      rfl

/-- What is written is derived. -/
theorem denotes_format {s : Selector} (hs : s.Written) :
    ∃ text, s.format = .ok text ∧ Denotes text s := by
  rcases hs.cases with htree | ⟨alternatives, rfl, hlength, htrees⟩
  · obtain ⟨text, hformat, h⟩ := treeText_format htree
    exact ⟨text, hformat, [], text.toList, [], by simp, blanks_nil, blanks_nil, .tree (.one h)⟩
  -- A list that is written has two trees or more.
  · match alternatives, hlength, htrees with
    | first :: s :: more, _, htrees =>
        obtain ⟨texts, htexts, h⟩ := stands_format htrees
        refine ⟨_, ?_, denotes_join h⟩
        rw [format, htexts]
        rfl

/-- **Reading undoes writing.** -/
theorem parse_format {s : Selector} (hs : s.Written) :
    ∃ text, s.format = .ok text ∧ parse text = .ok s := by
  obtain ⟨text, hformat, h⟩ := denotes_format hs
  exact ⟨text, hformat, h.parse⟩

/-- **The two directions.** Whatever names characters have, every selector that can be written
is read back from its text; nothing else is ever read, so what was read is read back from what
it shows as. -/
theorem parse_format_parse :
    (∀ s : Selector, s.Written → ∃ text, s.format = .ok text ∧ parse text = .ok s) ∧
    (∀ (text : String) (s : Selector), parse text = .ok s → s.Written) ∧
    (∀ (text : String) (s : Selector), parse text = .ok s →
      ∃ text', s.shown = .ok text' ∧ parse text' = .ok s) := by
  refine ⟨fun s hs => parse_format hs, fun text s h => parse_written h, fun text s h => ?_⟩
  obtain ⟨text', hformat, hparse⟩ := parse_format (parse_written h)
  refine ⟨text', ?_, hparse⟩
  cases s with
  | foreign value => exact (parse_written h).elim
  | _ => exact hformat

end Names

/-- A node whose text is searched for a filter, or a node right under another one. -/
def filteredOrInner (filter : TextFilter) : Selector :=
  .list [.filtered .any filter, .comb .parent .any .any]

/-- The filter is compiled from the name of a character and a set with a slash in it. -/
theorem parse_format_parse_namedCharacter : ∃ filter : TextFilter,
    filter.source = "\\N\x7bDIGIT ONE\x7d[/]" ∧ filter.flags = "i" ∧
      (filteredOrInner filter).Written ∧
      parse "* /\\N\x7bDIGIT ONE\x7d[/]/i, * > *" = .ok (filteredOrInner filter) ∧
      ∃ text', (filteredOrInner filter).shown = .ok text' ∧
        parse text' = .ok (filteredOrInner filter) := by
  have hpattern : IsPatternSource "\\N\x7bDIGIT ONE\x7d[/]" := by decide
  obtain ⟨filter, hsource, hflags, hcompiled⟩ :=
    TextFilter.exists_compiled "\\N\x7bDIGIT ONE\x7d[/]" "i" (by decide +kernel)
  have hwritten : (filteredOrInner filter).Written := by
    refine ⟨Nat.le_refl _, ?_⟩
    simp [IsTree, IsChain, IsNode, Combinator.IsKnown, IsFlags, hsource, hflags, hpattern,
      hcompiled]
  have hformat : (filteredOrInner filter).format = .ok "* /\\N\x7bDIGIT ONE\x7d[/]/i, * > *" := by
    obtain ⟨source, flags, regex⟩ := filter
    obtain ⟨rfl, rfl⟩ : source = _ ∧ flags = _ := ⟨hsource, hflags⟩
    rfl
  obtain ⟨hread, -, hagain⟩ := parse_format_parse
  obtain ⟨text, htext, hparse⟩ := hread _ hwritten
  obtain rfl : "* /\\N\x7bDIGIT ONE\x7d[/]/i, * > *" = text :=
    Except.ok.inj (hformat.symm.trans htext)
  exact ⟨filter, hsource, hflags, hwritten, hparse, hagain _ _ hparse⟩

end DocLint.Selector
