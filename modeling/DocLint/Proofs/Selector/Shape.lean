import DocLint.Selector.Parse

/-!
# DocLint.Proofs.Selector.Shape

**The shape of selectors that can be written.** Selectors are built by programs as
well as read, and not everything that can be built has a text of its own.
`Selector.Written` describes those that the grammar has: chains lean to the left, a
text filter is around a whole chain and compiled from what it shows, and a list stands at
the top only and has at least two alternatives. Which expressions can be compiled hangs on
the names of characters, so `Written` does.

What may stand between the slashes of a text filter is said over characters
(`Token.Enclosed`); that the scanner finds the slash that closes it is shown once, in
`Token.patternBody_eq_some_iff`. The two stages of reading are taken apart in
`Selector.parse_eq_ok` and `Selector.parseTokens_eq_ok`.
-/

namespace DocLint

/-- A name that can be written: a letter, then letters, digits and underscores. -/
def IsTypeName (name : String) : Prop :=
  ∃ c rest, name.toList = c :: rest ∧ Text.isLetter c = true ∧
    ∀ d ∈ rest, Token.isNameChar d = true

/-- The text between two slashes is one pattern. -/
def IsPatternSource (source : String) : Prop :=
  Token.patternBody false (source.toList ++ ['/']) = some (source.toList, [])

instance (source : String) : Decidable (IsPatternSource source) :=
  inferInstanceAs (Decidable (_ = _))

/-- The flags that can be written. -/
def IsFlags (flags : String) : Prop := flags = "" ∨ flags = "i"

/-- The text filter is what its source and its flags are compiled to. -/
def TextFilter.Compiled [CharacterNames] (filter : TextFilter) : Prop :=
  Regex.compile filter.source (filter.flags.toList.contains 'i') = .ok filter.regex

/-- A combinator that relates. -/
def Combinator.IsKnown (kind : Combinator) : Prop := ∀ name, kind ≠ .unknown name

namespace Selector

/-- Selectors of a single node. -/
def IsNode : Selector → Prop
  | .any => True
  | .type name => IsTypeName name
  | _ => False

/-- Nodes joined by combinators, leaning to the left. -/
def IsChain : Selector → Prop
  | .comb kind left right => kind.IsKnown ∧ left.IsChain ∧ right.IsNode
  | s => s.IsNode

theorem IsNode.isChain {s : Selector} (h : s.IsNode) : s.IsChain := by
  cases s <;> first | exact h | exact h.elim

/-- Chains are nodes, and chains that a node is joined to. -/
@[elab_as_elim]
theorem IsChain.induction {P : (s : Selector) → s.IsChain → Prop}
    (node : ∀ (s : Selector) (h : s.IsNode), P s h.isChain)
    (comb : ∀ (kind : Combinator) (left right : Selector) (hkind : kind.IsKnown)
      (hleft : left.IsChain) (hright : right.IsNode), P left hleft →
        P (.comb kind left right) ⟨hkind, hleft, hright⟩) :
    ∀ {s : Selector} (h : s.IsChain), P s h
  | .comb kind left right, h => comb kind left right h.1 h.2.1 h.2.2 (h.2.1.induction node comb)
  | .any, h => node .any h
  | .type name, h => node (.type name) h
  | .filtered _ _, h | .list _, h | .foreign _, h => h.elim

theorem IsNode.same {sel : Selector} (h : sel.IsNode) : sel.same sel = true := by
  cases sel <;> simp_all [IsNode, Selector.same]

theorem IsChain.same {sel : Selector} (h : sel.IsChain) : sel.same sel = true := by
  induction h using IsChain.induction with
  | node s h => exact h.same
  | comb kind left right hkind hleft hright ih => simp [Selector.same, ih, hright.same]

section Names

variable [CharacterNames]

/-- A chain, with a text filter or without. -/
def IsTree : Selector → Prop
  | .filtered inner filter =>
    inner.IsChain ∧ IsPatternSource filter.source ∧ IsFlags filter.flags ∧ filter.Compiled
  | s => s.IsChain

/-- A tree, or several. -/
def Written : Selector → Prop
  | .list alternatives => 2 ≤ alternatives.length ∧ ∀ s ∈ alternatives, s.IsTree
  | s => s.IsTree

theorem IsChain.isTree {s : Selector} (h : s.IsChain) : s.IsTree := by
  cases s <;> first | exact h | exact h.elim

theorem IsTree.written {s : Selector} (h : s.IsTree) : s.Written := by
  cases s <;> first | exact h | exact h.elim

theorem IsTree.cases {s : Selector} (h : s.IsTree) : s.IsChain ∨ ∃ inner filter,
    s = .filtered inner filter ∧ inner.IsChain ∧ IsPatternSource filter.source ∧
      IsFlags filter.flags ∧ filter.Compiled := by
  cases s with
  | filtered inner filter => exact .inr ⟨inner, filter, rfl, h⟩
  | _ => exact .inl h

theorem Written.cases {s : Selector} (h : s.Written) : s.IsTree ∨ ∃ alternatives,
    s = .list alternatives ∧ 2 ≤ alternatives.length ∧ ∀ s ∈ alternatives, s.IsTree := by
  cases s with
  | list alternatives => exact .inr ⟨alternatives, rfl, h⟩
  | _ => exact .inl h

/-! ### A selector is the same as itself -/

theorem IsTree.same {sel : Selector} (h : sel.IsTree) : sel.same sel = true := by
  cases sel with
  | filtered inner filter => simp [Selector.same, IsChain.same h.1, TextFilter.same]
  | _ => exact IsChain.same h

theorem sameList_self {alternatives : List Selector} (h : ∀ sel ∈ alternatives, sel.IsTree) :
    sameList alternatives alternatives = true := by
  induction alternatives with
  | nil => rfl
  | cons sel rest ih =>
      obtain ⟨hsel, hrest⟩ := List.forall_mem_cons.mp h
      simp [sameList, hsel.same, ih hrest]

theorem Written.same {sel : Selector} (h : sel.Written) : sel.same sel = true := by
  cases sel with
  | list alternatives => exact sameList_self h.2
  | _ => exact IsTree.same h

end Names

end Selector

namespace Token

/-! ### Where a pattern ends -/

/-- Is the scanner inside brackets behind a character? -/
def bracketsAfter (inBrackets : Bool) (c : Char) : Bool :=
  if c == '[' then true else if c == ']' then false else inBrackets

theorem patternBody_escape (b : Bool) (c : Char) (rest : List Char) :
    patternBody b ('\\' :: c :: rest) =
      (patternBody b rest).map fun p => ('\\' :: c :: p.1, p.2) := by
  rw [patternBody]
  cases patternBody b rest <;> rfl

theorem patternBody_cons {c : Char} (b : Bool) (rest : List Char) (hc : c ≠ '\\') :
    patternBody b (c :: rest) =
      if c == '/' && !b then some ([], rest)
      else (patternBody (bracketsAfter b c) rest).map fun p => (c :: p.1, p.2) := by
  rw [patternBody.eq_def]
  split
  · next h => simp at h
  · next h => exact absurd (List.cons.inj h).1 hc
  · next h => exact absurd (List.cons.inj h).1 hc
  · next h =>
      obtain ⟨rfl, rfl⟩ := List.cons.inj h
      split
      · rfl
      · show Option.bind (patternBody (bracketsAfter b c) rest) _ = _
        cases patternBody (bracketsAfter b c) rest <;> rfl

/-- The inside of a pattern, from a place inside or outside of brackets up to the slash that closes
it. That slash is the first one that stands neither in brackets nor behind a backslash. -/
inductive Enclosed : Bool → List Char → Prop
  | nil : Enclosed false []
  | escaped {inBrackets : Bool} {c : Char} {cs : List Char} (h : Enclosed inBrackets cs) :
      Enclosed inBrackets ('\\' :: c :: cs)
  | plain {inBrackets : Bool} {c : Char} {cs : List Char} (hc : c ≠ '\\')
      (hslash : c = '/' → inBrackets = true) (h : Enclosed (bracketsAfter inBrackets c) cs) :
      Enclosed inBrackets (c :: cs)

theorem enclosed_of_patternBody {b : Bool} {cs body behind : List Char}
    (h : patternBody b cs = some (body, behind)) :
    cs = body ++ '/' :: behind ∧ Enclosed b body := by
  fun_induction patternBody b cs generalizing body behind with
  | case1 => simp at h
  | case2 => simp at h
  -- An escaped character: both characters are copied.
  | case3 b c rest ih =>
      obtain ⟨⟨body', behind'⟩, hrest, heq⟩ := Option.bind_eq_some_iff.mp h
      obtain ⟨rfl, rfl⟩ := Prod.mk.inj (Option.some.inj heq)
      obtain ⟨rfl, hbody⟩ := ih hrest
      exact ⟨rfl, .escaped hbody⟩
  -- The slash that ends the pattern.
  | case4 b c rest hne hne' hslash =>
      obtain ⟨rfl, rfl⟩ := Prod.mk.inj (Option.some.inj h)
      obtain ⟨rfl, rfl⟩ : c = '/' ∧ b = false := by simpa using hslash
      exact ⟨rfl, .nil⟩
  -- Any other character; it may open or close brackets.
  | case5 b c rest hne hne' hslash ih =>
      obtain ⟨⟨body', behind'⟩, hrest, heq⟩ := Option.bind_eq_some_iff.mp h
      obtain ⟨rfl, rfl⟩ := Prod.mk.inj (Option.some.inj heq)
      obtain ⟨rfl, hbody⟩ := ih hrest
      refine ⟨rfl, .plain ?_ (by simpa using hslash) hbody⟩
      intro hc
      cases hbody' : body' ++ '/' :: behind' with
      | nil => exact hne hc hbody'
      | cons d rest => exact hne' d rest hc hbody'

theorem Enclosed.patternBody {b : Bool} {body : List Char} (h : Enclosed b body)
    (behind : List Char) : patternBody b (body ++ '/' :: behind) = some (body, behind) := by
  induction h with
  | nil =>
      rw [List.nil_append, patternBody_cons _ _ (by decide)]
      rfl
  | escaped _ ih =>
      rw [List.cons_append, List.cons_append, patternBody_escape, ih]
      rfl
  | plain hc hslash _ ih =>
      rw [List.cons_append, patternBody_cons _ _ hc, if_neg (by simpa using hslash), ih]
      rfl

/-- The scanner finds the slash that closes a pattern. -/
theorem patternBody_eq_some_iff {b : Bool} {cs body behind : List Char} :
    patternBody b cs = some (body, behind) ↔ cs = body ++ '/' :: behind ∧ Enclosed b body := by
  constructor
  · exact enclosed_of_patternBody
  · rintro ⟨rfl, h⟩
    exact h.patternBody behind

/-- What a pattern reads does not hang on what stands behind its slash. -/
theorem patternBody_append {b : Bool} {cs body behind : List Char} (more : List Char)
    (h : patternBody b cs = some (body, behind)) :
    patternBody b (body ++ '/' :: more) = some (body, more) :=
  (patternBody_eq_some_iff.mp h).2.patternBody more

/-- What is read are the characters up to the slash, and what is left stands behind it. -/
theorem eq_of_patternBody {b : Bool} {cs body behind : List Char}
    (h : patternBody b cs = some (body, behind)) : cs = body ++ '/' :: behind :=
  (patternBody_eq_some_iff.mp h).1

theorem isPatternSource_iff {body : String} :
    IsPatternSource body ↔ Enclosed false body.toList := by
  rw [IsPatternSource, patternBody_eq_some_iff, and_iff_right rfl]

/-- A pattern is closed in one place only. -/
theorem patternBody_unique {b : Bool} {cs body behind body' behind' : List Char}
    (h : patternBody b cs = some (body, behind)) (hcs : cs = body' ++ '/' :: behind')
    (hbody' : Enclosed b body') : body = body' ∧ behind = behind' :=
  Prod.mk.inj (Option.some.inj (h.symm.trans (patternBody_eq_some_iff.mpr ⟨hcs, hbody'⟩)))

/-- The flags that the scanner lets pass are those that can be written. -/
theorem isFlags_iff {flags : List Char} :
    IsFlags (String.ofList flags) ↔ (flags == [] || flags == ['i']) = true := by
  rw [IsFlags, Bool.or_eq_true_iff, beq_iff_eq, beq_iff_eq, ← String.toList_inj,
    ← String.toList_inj, String.toList_ofList]
  rfl

end Token

theorem TextFilter.exists_compiled [CharacterNames] (source flags : String)
    (h : (Regex.compile source (flags.toList.contains 'i')).isOk = true) :
    ∃ filter : TextFilter, filter.source = source ∧ filter.flags = flags ∧ filter.Compiled := by
  cases hregex : Regex.compile source (flags.toList.contains 'i') with
  | error error =>
      rw [hregex] at h
      contradiction
  | ok regex => exact ⟨⟨source, flags, regex⟩, rfl, rfl, hregex⟩

/-- A text filter is read if it is what its source and flags are compiled to. -/
theorem TextFilter.ofSource_eq_ok [CharacterNames] {source flags : String} {filter : TextFilter} :
    ofSource source flags = .ok filter ↔
      filter.source = source ∧ filter.flags = flags ∧ filter.Compiled := by
  unfold ofSource Compiled
  constructor
  · intro h
    split at h
    · next regex hcompile =>
        obtain rfl := Except.ok.inj h
        exact ⟨rfl, rfl, hcompile⟩
    · contradiction
  · rintro ⟨rfl, rfl, hcompile⟩
    rw [hcompile]

namespace Selector

/-! ### The stages of reading -/

variable [CharacterNames]

/-- The two stages of reading. -/
theorem parse_eq_ok {text : String} {s : Selector} : parse text = .ok s ↔
    (Text.strip text).isEmpty = false ∧
      ∃ tokens, Token.scan (Text.strip text) = .ok tokens ∧ parseTokens tokens = .ok s := by
  unfold parse
  dsimp only
  cases hempty : (Text.strip text).isEmpty with
  | true => simp [throw, throwThe, MonadExceptOf.throw, bind, Except.bind]
  | false =>
      cases hscan : Token.scan (Text.strip text) with
      | error fault => simp [throw, throwThe, MonadExceptOf.throw]
      | ok tokens => simp

/-- The parts of a selector in its tokens. -/
theorem parseTokens_eq_ok {tokens : List Token} {s : Selector} : parseTokens tokens = .ok s ↔
    ∃ first rest more behind, parseTree tokens = .ok (first, rest) ∧
      parseMore rest = .ok (more, behind) ∧ (nextToken behind).kind = .finish ∧
      ofAlternatives first more = s := by
  constructor
  · intro h
    obtain ⟨⟨first, rest⟩, hfirst, h⟩ := except_bind_eq_ok h
    obtain ⟨⟨more, behind⟩, hmore, h⟩ := except_bind_eq_ok h
    dsimp only at h
    cases hkind : (nextToken behind).kind != .finish with
    | true =>
        rw [if_pos hkind] at h
        contradiction
    | false =>
        rw [if_neg (by simp [hkind])] at h
        exact ⟨first, rest, more, behind, hfirst, hmore, by simpa using hkind, Except.ok.inj h⟩
  · rintro ⟨first, rest, more, behind, hfirst, hmore, hkind, rfl⟩
    have hfinish : ((nextToken behind).kind != .finish) = false := by simp [hkind]
    unfold parseTokens
    simp [hfirst, hmore, hfinish, bind, Except.bind, pure, Except.pure]

end Selector

end DocLint
