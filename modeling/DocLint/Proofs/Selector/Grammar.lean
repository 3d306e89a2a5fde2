import DocLint.Proofs.Selector.Scan

/-!
# DocLint.Proofs.Selector.Grammar

**The grammar of selectors**, over characters and without tokens:

    selector := tree (blank* ',' blank* tree)*
    tree     := node (link node)* (blank* '/' body '/' 'i'?)?
    link     := blank+ | blank* ('>' | '+' | '~') blank*
    node     := '*' | letter (letter | digit | numeric | '_')*

`SelectorText cs s` says that the grammar derives the characters `cs` and what selector
they stand for. `Denotes` allows for blanks around them. Of a body it is asked that it can be
compiled, which hangs on the names that characters have.

Here is the half that says what is derived is read (`Denotes.parse`). The proof follows
the derivation from left to right. `Scans` says that the scanner makes some tokens of a
part of the text and goes on with what stands behind it. `Reads` says that tokens stand
for a chain to which more may be joined, so chains grow to the right in the text as they
do in the parser (`ChainText.scan`). A text filter closes a chain (`TreeText.scan`), and a
comma closes a tree (`TreesText.scan`).
-/

namespace DocLint.Selector

open Token Text

/-- Nothing but blanks. -/
def Blanks (cs : List Char) : Prop := ∀ c ∈ cs, isBlank c = true

/-- The text of a node. -/
inductive NodeText : List Char → Selector → Prop
  | any : NodeText ['*'] .any
  | type {name : String} (h : IsTypeName name) : NodeText name.toList (.type name)

/-- The characters that combine nodes. -/
inductive LinkSymbol : Char → Combinator → Prop
  | parent : LinkSymbol '>' .parent
  | previous : LinkSymbol '+' .previous
  | sibling : LinkSymbol '~' .sibling

/-- The text between two nodes. -/
inductive LinkText : List Char → Combinator → Prop
  | blanks {ws : List Char} (hne : ws ≠ []) (hws : Blanks ws) : LinkText ws .ancestor
  | symbol {before behind : List Char} {c : Char} {kind : Combinator} (hc : LinkSymbol c kind)
      (hbefore : Blanks before) (hbehind : Blanks behind) : LinkText (before ++ c :: behind) kind

/-- The text of a chain, which leans to the left. -/
inductive ChainText : List Char → Selector → Prop
  | node {cs : List Char} {s : Selector} (h : NodeText cs s) : ChainText cs s
  | comb {ls bs rs : List Char} {kind : Combinator} {left right : Selector}
      (hleft : ChainText ls left) (hlink : LinkText bs kind) (hright : NodeText rs right) :
      ChainText (ls ++ (bs ++ rs)) (.comb kind left right)

section Names

variable [CharacterNames]

/-- The text of a chain, with a text filter or without. -/
inductive TreeText : List Char → Selector → Prop
  | chain {cs : List Char} {s : Selector} (h : ChainText cs s) : TreeText cs s
  | filtered {cs ws : List Char} {s : Selector} {filter : TextFilter} (h : ChainText cs s)
      (hws : Blanks ws) (hsource : IsPatternSource filter.source) (hflags : IsFlags filter.flags)
      (hcompiled : filter.Compiled) :
      TreeText (cs ++ (ws ++ '/' :: (filter.source.toList ++ '/' :: filter.flags.toList)))
        (.filtered s filter)

/-- The text of a tree and of those behind it. -/
inductive TreesText : List Char → Selector → List Selector → Prop
  | one {cs : List Char} {s : Selector} (h : TreeText cs s) : TreesText cs s []
  | more {cs ws ws' rest : List Char} {first s : Selector} {more : List Selector}
      (h : TreeText cs first) (hws : Blanks ws) (hws' : Blanks ws')
      (hrest : TreesText rest s more) :
      TreesText (cs ++ (ws ++ ',' :: (ws' ++ rest))) first (s :: more)

/-- The text of a selector. One tree stands for itself, and several form a list. -/
inductive SelectorText : List Char → Selector → Prop
  | tree {cs : List Char} {s : Selector} (h : TreesText cs s []) : SelectorText cs s
  | list {cs : List Char} {first s : Selector} {more : List Selector}
      (h : TreesText cs first (s :: more)) : SelectorText cs (.list (first :: s :: more))

/-- The text stands for the selector: the grammar derives it, up to blanks at its ends. -/
def Denotes (text : String) (s : Selector) : Prop :=
  ∃ front core back, text.toList = front ++ core ++ back ∧ Blanks front ∧ Blanks back ∧
    SelectorText core s

theorem SelectorText.ofAlternatives {cs : List Char} {first : Selector} {more : List Selector}
    (h : TreesText cs first more) : SelectorText cs (ofAlternatives first more) := by
  cases more with
  | nil => exact .tree h
  | cons s more => exact .list h

theorem SelectorText.trees {cs : List Char} {s : Selector} (h : SelectorText cs s) :
    ∃ first more, TreesText cs first more ∧ Selector.ofAlternatives first more = s := by
  cases h with
  | tree h => exact ⟨s, [], h, rfl⟩
  | list h => exact ⟨_, _, h, rfl⟩

end Names

/-! ### What is derived can be written -/

section

variable {cs : List Char} {s : Selector}

theorem NodeText.isNode (h : NodeText cs s) : s.IsNode := by
  cases h with
  | any => exact trivial
  | type h => exact h

theorem LinkText.isKnown {kind : Combinator} (h : LinkText cs kind) : kind.IsKnown := by
  intro name
  cases h with
  | blanks => simp
  | symbol hc => cases hc <;> simp

theorem ChainText.isChain (h : ChainText cs s) : s.IsChain := by
  induction h with
  | node h => exact h.isNode.isChain
  | comb _ hlink hright ih => exact ⟨hlink.isKnown, ih, hright.isNode⟩

variable [CharacterNames]

theorem TreeText.isTree (h : TreeText cs s) : s.IsTree := by
  cases h with
  | chain h => exact h.isChain.isTree
  | filtered h _ hsource hflags hcompiled => exact ⟨h.isChain, hsource, hflags, hcompiled⟩

theorem TreesText.isTree {first : Selector} {more : List Selector}
    (h : TreesText cs first more) : ∀ s ∈ first :: more, s.IsTree := by
  induction h with
  | one h => exact List.forall_mem_singleton.mpr h.isTree
  | more h _ _ _ ih => exact List.forall_mem_cons.mpr ⟨h.isTree, ih⟩

/-- The grammar derives texts only for selectors that can be written. -/
theorem Denotes.written {text : String} (h : Denotes text s) : s.Written := by
  obtain ⟨-, core, -, -, -, -, hcore⟩ := h
  cases hcore with
  | tree h => exact (h.isTree s List.mem_cons_self).written
  | list h => exact ⟨by simp, h.isTree⟩

end

/-! ### Blanks around a text -/

theorem blanks_nil : Blanks [] := List.forall_mem_nil _

theorem blanks_space : Blanks [' '] := List.forall_mem_singleton.mpr (by decide)

theorem blanks_append {ws ws' : List Char} (h : Blanks ws) (h' : Blanks ws') :
    Blanks (ws ++ ws') := by
  intro c hc
  exact (List.mem_append.mp hc).elim (h c) (h' c)

theorem not_mem_blanks {ws : List Char} (hws : Blanks ws) : '/' ∉ ws :=
  fun h => absurd (hws '/' h) (by decide)

/-- No blank stands at either end of a text. -/
structure Bare (cs : List Char) : Prop where
  front : ∃ c rest, cs = c :: rest ∧ isBlank c = false
  back : ∃ rest c, cs = rest ++ [c] ∧ isBlank c = false

theorem Bare.append {cs ds : List Char} (h : Bare cs) (between : List Char) (h' : Bare ds) :
    Bare (cs ++ (between ++ ds)) := by
  obtain ⟨c, rest, rfl, hc⟩ := h.front
  obtain ⟨rest', d, rfl, hd⟩ := h'.back
  exact ⟨⟨c, _, rfl, hc⟩, ⟨c :: rest ++ (between ++ rest'), d, by simp, hd⟩⟩

theorem bare_singleton {c : Char} (h : isBlank c = false) : Bare [c] :=
  ⟨⟨c, [], rfl, h⟩, ⟨[], c, rfl, h⟩⟩

theorem bare_name {c : Char} {rest : List Char} (h : ∀ d ∈ c :: rest, isNameChar d = true) :
    Bare (c :: rest) := by
  have hback := List.dropLast_concat_getLast (l := c :: rest) (by simp)
  exact ⟨⟨c, rest, rfl, isBlank_of_isNameChar (h c List.mem_cons_self)⟩,
    ⟨_, _, hback.symm, isBlank_of_isNameChar (h _ (List.getLast_mem _))⟩⟩

theorem NodeText.bare {cs : List Char} {s : Selector} (h : NodeText cs s) : Bare cs := by
  cases h with
  | any => exact bare_singleton (by decide)
  | type h =>
      obtain ⟨c, rest, hname, hc, hrest⟩ := h
      rw [hname]
      exact bare_name (List.forall_mem_cons.mpr ⟨isNameChar_of_isLetter hc, hrest⟩)

theorem ChainText.bare {cs : List Char} {s : Selector} (h : ChainText cs s) : Bare cs := by
  induction h with
  | node h => exact h.bare
  | comb _ _ hright ih => exact ih.append _ hright.bare

/-- A text filter ends with a slash or a flag. -/
theorem bare_flags {flags : String} (h : IsFlags flags) : Bare ('/' :: flags.toList) := by
  rcases h with rfl | rfl
  · exact bare_singleton (by decide)
  · exact ⟨⟨'/', ['i'], rfl, by decide⟩, ⟨['/'], 'i', rfl, by decide⟩⟩

theorem TreeText.bare [CharacterNames] {cs : List Char} {s : Selector} (h : TreeText cs s) :
    Bare cs := by
  cases h with
  | chain h => exact h.bare
  | @filtered cs ws s filter h hws hsource hflags hcompiled =>
      simpa using h.bare.append (ws ++ '/' :: filter.source.toList) (bare_flags hflags)

theorem TreesText.bare [CharacterNames] {cs : List Char} {first : Selector} {more : List Selector}
    (h : TreesText cs first more) : Bare cs := by
  induction h with
  | one h => exact h.bare
  | @more cs ws ws' rest first s more h hws hws' hrest ih =>
      simpa using h.bare.append (ws ++ ',' :: ws') ih

theorem dropBlanks_append {ws cs : List Char} (hws : Blanks ws) (hcs : ∃ c rest, cs = c :: rest ∧
    isBlank c = false) : dropBlanks (ws ++ cs) = cs := by
  obtain ⟨c, rest, rfl, hc⟩ := hcs
  rw [dropBlanks, List.dropWhile_append_of_pos hws, List.dropWhile_cons_of_neg (by simp [hc])]

/-- Stripping takes the blanks at the ends away, and nothing else. -/
theorem stripChars_of_bare {front core back : List Char} (hfront : Blanks front)
    (hcore : Bare core) (hback : Blanks back) : stripChars (front ++ core ++ back) = core := by
  obtain ⟨c, rest, hc⟩ := hcore.front
  obtain ⟨rest', d, hd⟩ := hcore.back
  have hleft : dropBlanks (front ++ core ++ back) = core ++ back := by
    rw [List.append_assoc]
    exact dropBlanks_append hfront ⟨c, rest ++ back, by simp [hc.1], hc.2⟩
  have hright : dropBlanks (core ++ back).reverse = core.reverse := by
    rw [List.reverse_append]
    exact dropBlanks_append (by simpa [Blanks] using hback)
      ⟨d, rest'.reverse, by simp [hd.1], hd.2⟩
  rw [stripChars, hleft, hright, List.reverse_reverse]

/-! ### Nodes and links -/

/-- In front of `tail`, the scanner makes `ts` of `cs`; the last of them is of the kind
`kind`. -/
def Scans (source : String) (position : Nat) (blanks : Bool) (before : Option TokenKind)
    (cs tail : List Char) (ts : List Token) (kind : TokenKind) : Prop :=
  ∃ position', scanFrom source position blanks before (cs ++ tail) =
    (scanFrom source position' false (some kind) tail).map (ts ++ ·)

/-- The tokens stand for a chain that more may be joined to. -/
def Reads [CharacterNames] (ts : List Token) (s : Selector) : Prop :=
  ∃ t rest first, ts = t :: rest ∧ ofToken t = .ok first ∧
    ∀ more, parseChain first (rest ++ more) = parseChain s more

variable (source : String) (position : Nat) (blanks : Bool) (before : Option TokenKind)
  {cs tail : List Char} {s : Selector}

theorem except_map_map {ε α β γ : Type} (f : α → β) (g : β → γ) (m : Except ε α) :
    (m.map f).map g = m.map (g ∘ f) := by
  cases m <;> rfl

/-- What stands behind is scanned from some position. -/
theorem Scans.append {source : String} {position : Nat} {blanks : Bool}
    {before : Option TokenKind} {cs ds : List Char} {ts : List Token} {kind : TokenKind}
    (h : Scans source position blanks before cs (ds ++ tail) ts kind) :
    ∃ position', ∀ {us : List Token} {kind' : TokenKind},
      Scans source position' false (some kind) ds tail us kind' →
        Scans source position blanks before (cs ++ ds) tail (ts ++ us) kind' := by
  obtain ⟨position', h⟩ := h
  refine ⟨position', fun ⟨position'', h'⟩ => ⟨position'', ?_⟩⟩
  rw [List.append_assoc, h, h', except_map_map]
  congr 1
  funext more
  exact (List.append_assoc _ _ _).symm

/-- Blanks are passed over; what is left of them is that there were some. -/
theorem scan_blanks {source : String} {position : Nat} {blanks : Bool}
    {before : Option TokenKind} {ws : List Char} (hws : Blanks ws) :
    scanFrom source position blanks before (ws ++ tail) =
      scanFrom source (position + ws.length) (blanks || !ws.isEmpty) before tail := by
  induction ws generalizing position blanks with
  | nil => simp
  | cons c ws ih =>
      obtain ⟨hc, hws⟩ := List.forall_mem_cons.mp hws
      rw [List.cons_append, scan_blank hc, ih hws, List.length_cons, Nat.add_assoc,
        Nat.add_comm 1]
      simp

/-- A symbol that begins no node. -/
theorem scans_symbol {c : Char} (hc : IsSymbol c) (hstar : (c == '*') = false) (tail : List Char) :
    ∃ t, (∃ position, t = ofSymbol c position) ∧
      Scans source position blanks before [c] tail [t] t.kind := by
  have hgap : descendant blanks before c position = [] := by simp [descendant, hstar, hc.2.1]
  refine ⟨ofSymbol c position, ⟨position, rfl⟩, position + 1, ?_⟩
  rw [List.singleton_append, scan_symbol hc, hgap]
  rfl

theorem NodeText.scan (h : NodeText cs s) (htail : Ends tail) :
    ∃ t kind, ofToken t = .ok s ∧ kind.isNode = true ∧
      Scans source position blanks before cs tail
        (descendant blanks before '*' position ++ [t]) kind := by
  cases h with
  | any =>
      refine ⟨ofSymbol '*' position, .universal, rfl, rfl, position + 1, ?_⟩
      rw [List.singleton_append, scan_symbol (by decide)]
      simp [ofSymbol]
  | @type name h =>
      obtain ⟨c, rest, hname, hc, hrest⟩ := h
      refine ⟨⟨.ident, some name, position, ""⟩, .ident, rfl, rfl,
        position + (c :: rest).length, ?_⟩
      rw [hname, scan_name hc hrest htail, ← hname, String.ofList_toList]
      simp

theorem LinkSymbol.isSymbol {c : Char} {kind : Combinator} (h : LinkSymbol c kind) :
    IsSymbol c ∧ (c == '*') = false := by
  cases h <;> decide

theorem LinkSymbol.token {c : Char} {kind : Combinator} (h : LinkSymbol c kind) (position : Nat) :
    (ofSymbol c position).kind = .combinator ∧ combinatorOf (ofSymbol c position) = .ok kind := by
  cases h <;> exact ⟨rfl, rfl⟩

theorem ends_of_isBlank {c : Char} (h : isBlank c = true) (cs : List Char) : Ends (c :: cs) := by
  refine ends_cons (Bool.eq_false_iff.mpr fun hname => ?_)
  simp [isBlank_of_isNameChar hname] at h

theorem ends_blanks_append {ws : List Char} (hws : Blanks ws) (hcs : Ends cs) :
    Ends (ws ++ cs) := by
  cases ws with
  | nil => exact hcs
  | cons c ws => exact ends_of_isBlank (hws c List.mem_cons_self) _

/-- No name goes on into a link. -/
theorem LinkText.ends {kind : Combinator} (h : LinkText cs kind) (rest : List Char) :
    Ends (cs ++ rest) := by
  cases h with
  | @blanks _ hne hws =>
      obtain ⟨c, ws, rfl⟩ := List.exists_cons_of_ne_nil hne
      exact ends_of_isBlank (hws c List.mem_cons_self) _
  | symbol hc hbefore hbehind =>
      rw [List.append_assoc]
      refine ends_blanks_append hbefore (ends_cons ?_)
      cases hc <;> decide

theorem descendant_star {position : Nat} {before : Option TokenKind}
    (h : before.any (·.isNode) = true) :
    descendant true before '*' position = [⟨.combinator, some " ", position, ""⟩] := by
  simp [descendant, h]

/-- A link between nodes and the node behind it. -/
theorem LinkText.scan {bs : List Char} {kind : Combinator} (hlink : LinkText bs kind)
    (h : NodeText cs s) {node : TokenKind} (hnode : node.isNode = true) (htail : Ends tail) :
    ∃ t u kind', t.kind = .combinator ∧ combinatorOf t = .ok kind ∧ ofToken u = .ok s ∧
      kind'.isNode = true ∧
        Scans source position false (some node) (bs ++ cs) tail [t, u] kind' := by
  cases hlink with
  -- Blanks are a combinator only because nodes stand on both sides of them.
  | blanks hne hws =>
      obtain ⟨u, kind', hu, hkind', position', hscan⟩ := h.scan source (position + bs.length)
        true (some node) htail
      rw [descendant_star (by simpa using hnode)] at hscan
      refine ⟨⟨.combinator, some " ", position + bs.length, ""⟩, u, kind', rfl, rfl, hu, hkind',
        position', ?_⟩
      have hblanks : (false || !bs.isEmpty) = true := by simp [hne]
      rw [List.append_assoc, scan_blanks hws, hblanks]
      exact hscan
  | @symbol front behind c _ hc hfront hbehind =>
      obtain ⟨hsymbol, hstar⟩ := hc.isSymbol
      rw [List.append_assoc]
      obtain ⟨t, ⟨p, rfl⟩, hscan⟩ := scans_symbol source (position + front.length)
        (false || !front.isEmpty) (some node) hsymbol hstar (behind ++ cs ++ tail)
      obtain ⟨hkind, hcomb⟩ := hc.token p
      obtain ⟨position', happend⟩ := hscan.append
      obtain ⟨u, kind', hu, hkind', hnodes⟩ := h.scan source (position' + behind.length)
        (false || !behind.isEmpty) (some .combinator) htail
      rw [descendant_of_not_node rfl] at hnodes
      refine ⟨_, u, kind', hkind, hcomb, hu, hkind', ?_⟩
      rw [hkind] at happend
      obtain ⟨last, hnodes⟩ := hnodes
      have hmore : Scans source position' false (some .combinator) (behind ++ cs) tail [u] kind' :=
        ⟨last, by rw [List.append_assoc, scan_blanks hbehind, hnodes]; rfl⟩
      obtain ⟨last, hall⟩ := happend hmore
      refine ⟨last, ?_⟩
      rw [List.append_assoc, scan_blanks hfront]
      exact hall

/-- The text of a chain. -/
theorem ChainText.scan [CharacterNames] (h : ChainText cs s)
    (hbefore : before.any (·.isNode) = false) (htail : Ends tail) :
    ∃ ts kind, Reads ts s ∧ kind.isNode = true ∧
      Scans source position blanks before cs tail ts kind := by
  induction h generalizing tail with
  | node h =>
      obtain ⟨t, kind, ht, hkind, hts⟩ := h.scan source position blanks before htail
      rw [descendant_of_not_node hbefore] at hts
      exact ⟨[t], kind, ⟨t, [], _, rfl, ht, fun _ => rfl⟩, hkind, hts⟩
  | @comb ls bs rs kind left right hleft hlink hright ih =>
      -- The tail of the left side begins with the link, where no name goes on.
      have hends : Ends (bs ++ rs ++ tail) := (List.append_assoc bs rs tail).symm ▸ hlink.ends _
      obtain ⟨ts, node, ⟨t, rest, first, rfl, hfirst, hparse⟩, hnode, hts⟩ := ih hends
      obtain ⟨position', happend⟩ := hts.append
      obtain ⟨u, v, kind', hu, hcomb, hv, hkind', huv⟩ := hlink.scan source position' hright
        hnode htail
      refine ⟨t :: rest ++ [u, v], kind', ⟨t, rest ++ [u, v], first, rfl, hfirst, ?_⟩, hkind',
        happend huv⟩
      intro more
      rw [List.append_assoc, hparse]
      show parseChain left (u :: v :: more) = _
      rw [parseChain.eq_def]
      simp [hu, hcomb, nextToken, hv, bind, Except.bind]

/-! ### Trees and lists -/

variable [CharacterNames]

theorem Reads.parseTree {ts : List Token} (h : Reads ts s) (more : List Token) :
    parseTree (ts ++ more) = parseChain s more := by
  obtain ⟨t, rest, first, rfl, hfirst, hparse⟩ := h
  rw [Selector.parseTree]
  show (ofToken t >>= fun first => parseChain first (rest ++ more)) = _
  rw [hfirst]
  exact hparse more

/-- Behind a chain that a tree ends with, nothing is joined. -/
theorem parseChain_of_endsTree {more : List Token}
    (h : endsTree (nextToken more) = true) : parseChain s more = .ok (s, more) := by
  cases more with
  | nil => rw [parseChain]
  | cons t more =>
      have hkind : (t.kind == .combinator) = false ∧ (t.kind == .pattern) = false := by
        rcases Bool.or_eq_true_iff.mp h with h | h
        all_goals
          rw [show t.kind = _ from eq_of_beq h]
          decide
      rw [parseChain, if_neg (by simp [hkind.1]), if_neg (by simp [hkind.2])]

/-- A text filter behind a chain is compiled. -/
theorem parseChain_pattern {body flags : String} {t : Token} {more : List Token}
    (hkind : t.kind = .pattern) (hvalue : t.value = some body)
    (hflags : t.flags = flags) (h : endsTree (nextToken more) = true) :
    parseChain s (t :: more) =
      (TextFilter.ofSource body flags).map fun filter => (.filtered s filter, more) := by
  rw [parseChain.eq_def]
  simp only [hkind, hvalue, hflags, h, Option.getD_some]
  cases TextFilter.ofSource body flags <;> rfl

/-- The text of a chain and of a filter, whether or not the filter is compiled. -/
theorem ChainText.scan_filter {ws : List Char} {body flags : String} (h : ChainText cs s)
    (hws : Blanks ws) (hbody : IsPatternSource body) (hflags : IsFlags flags)
    (hbefore : before.any (·.isNode) = false) (htail : Ends tail) : ∃ ts kind,
      Scans source position blanks before
          (cs ++ (ws ++ '/' :: (body.toList ++ '/' :: flags.toList))) tail ts kind ∧
        ∀ more, endsTree (nextToken more) = true → Selector.parseTree (ts ++ more) =
          (TextFilter.ofSource body flags).map fun filter => (.filtered s filter, more) := by
  let pattern := '/' :: (body.toList ++ '/' :: flags.toList)
  have hends : Ends (ws ++ pattern ++ tail) := by
    rw [List.append_assoc]
    exact ends_blanks_append hws (ends_cons (by decide))
  obtain ⟨ts, node, hreads, -, hts⟩ := h.scan source position blanks before hbefore hends
  obtain ⟨position', happend⟩ := hts.append
  let t : Token := ⟨.pattern, some body, position' + ws.length, flags⟩
  have hpattern :
      Scans source position' false (some node) (ws ++ pattern) tail [t] .pattern := by
    have hscan := @scan_pattern source (position' + ws.length) (false || !ws.isEmpty)
      (some node) tail _ _ hbody hflags htail
    refine ⟨position' + ws.length + 2 + body.toList.length + flags.toList.length, ?_⟩
    rw [List.append_assoc, scan_blanks hws]
    exact Eq.trans (by simp [pattern]) hscan
  refine ⟨ts ++ [t], .pattern, happend hpattern, fun more hmore => ?_⟩
  rw [List.append_assoc, hreads.parseTree]
  exact parseChain_pattern rfl rfl rfl hmore

/-- The text of a tree. -/
theorem TreeText.scan (h : TreeText cs s) (hbefore : before.any (·.isNode) = false)
    (htail : Ends tail) : ∃ ts kind, Scans source position blanks before cs tail ts kind ∧
      ∀ more, endsTree (nextToken more) = true →
        Selector.parseTree (ts ++ more) = .ok (s, more) := by
  cases h with
  | chain h =>
      obtain ⟨ts, kind, hreads, -, hts⟩ := h.scan source position blanks before hbefore htail
      exact ⟨ts, kind, hts, fun more hmore =>
        (hreads.parseTree more).trans (parseChain_of_endsTree hmore)⟩
  | @filtered cs ws s filter h hws hsource hflags hcompiled =>
      obtain ⟨ts, kind, hts, hparse⟩ :=
        h.scan_filter source position blanks before hws hsource hflags hbefore htail
      have hfilter : TextFilter.ofSource filter.source filter.flags = .ok filter :=
        TextFilter.ofSource_eq_ok.mpr ⟨rfl, rfl, hcompiled⟩
      refine ⟨ts, kind, hts, fun more hmore => ?_⟩
      rw [hparse more hmore, hfilter]
      rfl

/-- A comma and the tree behind it. -/
theorem parseMore_comma {comma : Token} {ts rest behind : List Token} {more : List Selector}
    (hcomma : comma.kind = .comma) (hs : parseTree ts = .ok (s, rest))
    (hmore : parseMore rest = .ok (more, behind)) :
    parseMore (comma :: ts) = .ok (s :: more, behind) := by
  obtain ⟨first, hfirst, hchain⟩ := except_bind_eq_ok hs
  rw [parseMore, if_pos (by simp [hcomma])]
  split
  · next fault h => exact absurd (hfirst.symm.trans h) (by simp)
  · next first' h =>
      obtain rfl := Except.ok.inj (hfirst.symm.trans h)
      split
      · next fault h => exact absurd (hchain.symm.trans h) (by simp)
      · next s' behind' h =>
          obtain ⟨rfl, rfl⟩ := Prod.mk.inj (Except.ok.inj (hchain.symm.trans h))
          dsimp only
          rw [hmore]

/-- The text of several trees. -/
theorem TreesText.scan {first : Selector} {more : List Selector} (h : TreesText cs first more)
    (hbefore : before.any (·.isNode) = false) : ∃ ts rest behind,
      scanFrom source position blanks before cs = .ok ts ∧
        Selector.parseTree ts = .ok (first, rest) ∧ parseMore rest = .ok (more, behind) ∧
        (nextToken behind).kind = .finish := by
  induction h generalizing position blanks before with
  | one h =>
      have hnil : Ends [] := by simp [Ends]
      obtain ⟨ts, kind, ⟨position', hts⟩, hparse⟩ :=
        h.scan source position blanks before hbefore hnil
      have hend : endsTree ⟨.finish, none, position', ""⟩ = true := rfl
      refine ⟨_, _, _, ?_, hparse [⟨.finish, none, position', ""⟩] hend,
        by rw [parseMore]; rfl, rfl⟩
      rw [List.append_nil, scanFrom] at hts
      exact hts
  | @more cs ws ws' rest first s more h hws hws' hrest ih =>
      have hends : Ends (ws ++ ',' :: (ws' ++ rest)) :=
        ends_blanks_append hws (ends_cons (by decide))
      obtain ⟨ts, kind, ⟨position', hts⟩, hparse⟩ :=
        h.scan source position blanks before hbefore hends
      obtain ⟨comma, ⟨p, rfl⟩, last, hcomma⟩ := scans_symbol source (position' + ws.length)
        (false || !ws.isEmpty) (some kind) (c := ',') (by decide) rfl (ws' ++ rest)
      obtain ⟨us, behind, end_, hus, htree, hmore, hkind⟩ := ih (last + ws'.length)
        (false || !ws'.isEmpty) (some .comma) rfl
      refine ⟨ts ++ ofSymbol ',' p :: us, _, end_, ?_, hparse _ rfl,
        parseMore_comma rfl htree hmore, hkind⟩
      have hkindComma : (ofSymbol ',' p).kind = .comma := rfl
      rw [hts, scan_blanks hws, ← List.singleton_append, hcomma, hkindComma, scan_blanks hws', hus]
      rfl

/-- **What the grammar derives is read**, as the selector that it stands for. -/
theorem Denotes.parse {text : String} (h : Denotes text s) : parse text = .ok s := by
  obtain ⟨front, core, back, htext, hfront, hback, hcore⟩ := h
  obtain ⟨first, more, htrees, rfl⟩ := hcore.trees
  have hstrip : strip text = String.ofList core := by
    rw [strip, htext, stripChars_of_bare hfront htrees.bare hback]
  obtain ⟨ts, rest, behind, hts, htree, hmore, hend⟩ :=
    htrees.scan (String.ofList core) 0 false none rfl
  refine parse_eq_ok.mpr ⟨?_, ts, ?_, parseTokens_eq_ok.mpr ⟨_, _, _, _, htree, hmore, hend, rfl⟩⟩
  · obtain ⟨c, cs, hc, -⟩ := htrees.bare.front
    rw [hstrip, ← Bool.not_eq_true, String.isEmpty_iff]
    intro hempty
    have hnil := congrArg String.toList hempty
    simp [hc] at hnil
  · rw [hstrip, Token.scan, String.toList_ofList]
    exact hts

end DocLint.Selector
