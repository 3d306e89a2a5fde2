import DocLint.Proofs.Selector.Extent

/-!
# DocLint.Proofs.Selector.Accept

**What is read is what the grammar derives** (`parse_accepts`): a text that is read is
derived, for the selector that is returned, and every other text is refused as a selector.

The scanner is not looked at again: it places its tokens in the text (`Placed`), and the places
do not matter here. `Cuts` says how a text falls into the parts that its tokens stand for, with
blanks between them; blanks may stand for a token themselves, the descendant combinator.
Everything about the parser is then a matter of such cuts: each of its functions is shown to
derive as much of the text as it takes tokens (`Cuts.node`, `Cuts.link`, `Cuts.chain`,
`Cuts.more`).
-/

namespace DocLint.Selector

open Token Text

/-! ### How tokens cut a text -/

/-- The characters that a token stands for. -/
inductive Part : List Char → Token → Prop
  | name {run : List Char} {position : Nat} (h : IsTypeName (String.ofList run)) :
      Part run ⟨.ident, some (String.ofList run), position, ""⟩
  | number {run : List Char} {position : Nat} :
      Part run ⟨.integer, some (String.ofList run), position, ""⟩
  | pattern {body flags : List Char} {position : Nat} (hbody : IsPatternSource (String.ofList body))
      (hflags : IsFlags (String.ofList flags)) : Part ('/' :: (body ++ '/' :: flags))
        ⟨.pattern, some (String.ofList body), position, String.ofList flags⟩
  | symbol {c : Char} {position : Nat} (hc : IsSymbol c) : Part [c] (ofSymbol c position)

/-- The text falls into the parts of the tokens, one behind the other. -/
inductive Cuts : List Char → List Token → Prop
  | finish {ws : List Char} {position : Nat} (hws : Blanks ws) :
      Cuts ws [⟨.finish, none, position, ""⟩]
  | part {ws run tail : List Char} {t : Token} {ts : List Token} (hws : Blanks ws)
      (hrun : Part run t) (htail : Cuts tail ts) : Cuts (ws ++ (run ++ tail)) (t :: ts)
  | gap {ws tail : List Char} {position : Nat} {ts : List Token} (hne : ws ≠ [])
      (hws : Blanks ws) (htail : Cuts tail ts) :
      Cuts (ws ++ tail) (⟨.combinator, some " ", position, ""⟩ :: ts)

theorem part_of_isLexeme {t : Token} (h : t.IsLexeme) : Part t.extent t := by
  have hsymbol : ∀ (c : Char) (position : Nat), IsSymbol c →
      Part (ofSymbol c position).extent (ofSymbol c position) := by
    intro c position hc
    rw [extent_ofSymbol hc]
    exact .symbol hc
  have hrun : ∀ value : String, ∃ run, value = String.ofList run :=
    fun value => ⟨value.toList, String.ofList_toList.symm⟩
  cases h with
  | @ident name position hname =>
      obtain ⟨run, rfl⟩ := hrun name
      rw [(IsLexeme.ident hname).extent_eq (by simp), Option.getD_some, String.toList_ofList]
      exact .name hname
  | @integer digits position hne hdigits =>
      obtain ⟨run, rfl⟩ := hrun digits
      rw [(IsLexeme.integer hne hdigits).extent_eq (by simp), Option.getD_some, String.toList_ofList]
      exact .number
  | @pattern body flags position hbody hflags =>
      rw [← isPatternSource_iff] at hbody
      obtain ⟨body, rfl⟩ := hrun body
      obtain ⟨flags, rfl⟩ := hrun flags
      rw [extent_pattern, String.toList_ofList, String.toList_ofList]
      exact .pattern hbody hflags
  | universal => exact hsymbol '*' _ (by decide)
  | @combinator c kind position hlink =>
      have htoken : ofSymbol c position = ⟨.combinator, some (String.ofList [c]), position, ""⟩ := by
        cases hlink <;> rfl
      rw [← htoken]
      exact hsymbol c position hlink.isSymbol.1
  | comma => exact hsymbol ',' _ (by decide)
  | @other c position hc hne =>
      have htoken : ofSymbol c position = ⟨.other, some (String.ofList [c]), position, ""⟩ := by
        simp at hne
        simp [ofSymbol, hne]
      rw [← htoken]
      exact hsymbol c position hc

/-- Tokens that are placed cut the text. -/
theorem Cuts.of_placed {last : Option Token} {front cs : List Char} {ts : List Token}
    (h : Placed last front cs ts) : Cuts cs ts := by
  induction h with
  | finish hws => exact .finish hws
  | lexeme hws ht _ _ _ _ ih => exact .part hws (part_of_isLexeme ht) ih
  | gap hws hne _ _ _ _ ih => exact .gap hne hws ih

/-- The tokens of a text cut it. -/
theorem cuts_of_scan {source : String} {ts : List Token} (h : Token.scan source = .ok ts) :
    Cuts source.toList ts :=
  .of_placed (placed_of_scan h)

/-- Where the tokens of a cut come from: from a part of the text, unless they stand for
its end or for blanks. -/
theorem Cuts.origin {cs : List Char} {ts : List Token} (h : Cuts cs ts) : ∀ t ∈ ts,
    t.kind = .finish ∨ t.kind = .combinator ∧ combinatorOf t = .ok .ancestor ∨
      ∃ run, Part run t ∧ run <:+: cs := by
  induction h with
  | finish hws =>
      intro t ht
      obtain rfl := List.mem_singleton.mp ht
      exact .inl rfl
  | @part ws run tail t ts hws hrun htail ih =>
      have hrun' : run <:+: ws ++ (run ++ tail) := ⟨ws, tail, List.append_assoc _ _ _⟩
      refine List.forall_mem_cons.mpr ⟨.inr (.inr ⟨run, hrun, hrun'⟩), ?_⟩
      intro u hu
      refine (ih u hu).imp_right (Or.imp_right ?_)
      rintro ⟨run', hpart, hwithin⟩
      rw [← List.append_assoc]
      exact ⟨run', hpart, hwithin.trans (List.suffix_append _ _).isInfix⟩
  | @gap ws tail position ts hne hws htail ih =>
      refine List.forall_mem_cons.mpr ⟨.inr (.inl ⟨rfl, rfl⟩), ?_⟩
      intro u hu
      refine (ih u hu).imp_right (Or.imp_right ?_)
      rintro ⟨run', hpart, hwithin⟩
      exact ⟨run', hpart, hwithin.trans (List.suffix_append _ _).isInfix⟩

/-! ### What the parser derives -/

theorem Part.node {run : List Char} {t : Token} {s : Selector} (h : Part run t)
    (hs : ofToken t = .ok s) : NodeText run s := by
  cases h with
  | @name run position h =>
      obtain rfl : .type (String.ofList run) = s := Except.ok.inj hs
      have htext := NodeText.type h
      rwa [String.toList_ofList] at htext
  | number => simp [ofToken] at hs
  | pattern => simp [ofToken] at hs
  | @symbol c position hc =>
      rcases symbol_cases c position with ⟨rfl, -⟩ | ⟨-, hkind⟩ | ⟨-, hkind⟩ | hkind
      · obtain rfl : Selector.any = s := Except.ok.inj hs
        exact .any
      · simp [ofToken, hkind] at hs
      · simp [ofToken, hkind] at hs
      · simp [ofToken, hkind] at hs

theorem Part.link {run : List Char} {t : Token} (h : Part run t) (hkind : t.kind = .combinator) :
    ∃ c kind, run = [c] ∧ LinkSymbol c kind ∧ combinatorOf t = .ok kind := by
  cases h with
  | name | number | pattern => simp at hkind
  | @symbol c position hc =>
      rcases symbol_cases c position with ⟨-, hother⟩ | ⟨⟨kind, hlink⟩, -⟩ | ⟨-, hother⟩ | hother
      · simp [hother] at hkind
      · exact ⟨c, kind, rfl, hlink, (hlink.token position).2⟩
      · simp [hother] at hkind
      · simp [hother] at hkind

theorem Part.comma {run : List Char} {t : Token} (h : Part run t) (hkind : t.kind = .comma) :
    run = [','] := by
  cases h with
  | name | number | pattern => simp at hkind
  | @symbol c position hc =>
      rcases symbol_cases c position with ⟨-, hother⟩ | ⟨-, hother⟩ | ⟨rfl, -⟩ | hother
      · simp [hother] at hkind
      · simp [hother] at hkind
      · rfl
      · simp [hother] at hkind

theorem Part.pattern_inv {run : List Char} {t : Token} (h : Part run t)
    (hkind : t.kind = .pattern) :
    ∃ body, t.value = some body ∧ IsPatternSource body ∧ IsFlags t.flags ∧
      run = '/' :: (body.toList ++ '/' :: t.flags.toList) := by
  cases h with
  | name | number => simp at hkind
  | @pattern body flags position hbody hflags =>
      exact ⟨String.ofList body, rfl, hbody, hflags, by simp⟩
  | @symbol c position hc =>
      rcases symbol_cases c position with ⟨-, hother⟩ | ⟨-, hother⟩ | ⟨-, hother⟩ | hother
      all_goals simp [hother] at hkind

/-- Where a node is read, the text goes on with one. -/
theorem Cuts.node {cs : List Char} {ts : List Token} {s : Selector} (h : Cuts cs ts)
    (hs : ofToken (nextToken ts) = .ok s) : ∃ ws ns tail t more, cs = ws ++ (ns ++ tail) ∧
      Blanks ws ∧ NodeText ns s ∧ ts = t :: more ∧ Cuts tail more := by
  cases h with
  | finish hws => simp [nextToken, ofToken] at hs
  | part hws hrun htail => exact ⟨_, _, _, _, _, rfl, hws, hrun.node hs, rfl, htail⟩
  | gap hne hws htail => simp [nextToken, ofToken] at hs

/-- Where a combinator and a node are read, the text goes on with a link and a node. -/
theorem Cuts.link {cs : List Char} {t : Token} {rest : List Token} {kind : Combinator}
    {right : Selector} (h : Cuts cs (t :: rest)) (hkind : t.kind = .combinator)
    (hcomb : combinatorOf t = .ok kind) (hright : ofToken (nextToken rest) = .ok right) :
    ∃ bs ns tail u more, cs = bs ++ (ns ++ tail) ∧ LinkText bs kind ∧ NodeText ns right ∧
      rest = u :: more ∧ Cuts tail more := by
  cases h with
  | finish => simp at hkind
  | @part ws run tail _ _ hws hrun htail =>
      obtain ⟨c, kind', rfl, hlink, hcomb'⟩ := hrun.link hkind
      obtain rfl : kind' = kind := Except.ok.inj (hcomb'.symm.trans hcomb)
      obtain ⟨ws', ns, tail', u, more, rfl, hws', hnode, rfl, hmore⟩ := htail.node hright
      exact ⟨ws ++ c :: ws', ns, tail', u, more, by simp, .symbol hlink hws hws', hnode, rfl, hmore⟩
  | @gap ws tail position _ hne hws htail =>
      obtain rfl : Combinator.ancestor = kind := Except.ok.inj hcomb
      obtain ⟨ws', ns, tail', u, more, rfl, hws', hnode, rfl, hmore⟩ := htail.node hright
      have hblanks : LinkText (ws ++ ws') .ancestor :=
        .blanks (by simp [hne]) (blanks_append hws hws')
      exact ⟨ws ++ ws', ns, tail', u, more, by simp, hblanks, hnode, rfl, hmore⟩

/-- The chain read so far grows by what is read of the text. -/
theorem Cuts.chain [CharacterNames] {cs ls : List Char} {ts rest : List Token} {left s : Selector}
    (hcuts : Cuts cs ts) (hleft : ChainText ls left) (h : parseChain left ts = .ok (s, rest)) :
    ∃ ms tail, cs = ms ++ tail ∧ TreeText (ls ++ ms) s ∧ Cuts tail rest := by
  fun_induction parseChain left ts generalizing cs ls with
  | case1 left => cases hcuts
  -- A combinator, and a node behind it.
  | case2 left t more hk ih =>
      obtain ⟨kind, hkind, h⟩ := except_bind_eq_ok h
      obtain ⟨right, hright, h⟩ := except_bind_eq_ok h
      obtain ⟨bs, ns, tail, u, more, rfl, hlink, hnode, rfl, hmore⟩ :=
        hcuts.link (eq_of_beq hk) hkind hright
      obtain ⟨ms, tail', rfl, htree, hrest⟩ := ih kind right hmore (hleft.comb hlink hnode) h
      exact ⟨bs ++ (ns ++ ms), tail', by simp, by simpa using htree, hrest⟩
  -- A pattern ends the tree.
  | case3 left t more hk hp he =>
      obtain ⟨filter, hfilter, h⟩ := except_bind_eq_ok h
      obtain ⟨rfl, rfl⟩ := Prod.mk.inj (Except.ok.inj h)
      cases hcuts with
      | finish => simp at hp
      | gap => simp at hp
      | @part ws run tail _ _ hws hrun htail =>
          obtain ⟨body, hvalue, hsource, hflags, rfl⟩ := hrun.pattern_inv (eq_of_beq hp)
          rw [hvalue] at hfilter
          obtain ⟨rfl, hf, hcompiled⟩ := TextFilter.ofSource_eq_ok.mp hfilter
          rw [← hf] at hflags ⊢
          exact ⟨_, tail, (List.append_assoc _ _ _).symm,
            .filtered hleft hws hsource hflags hcompiled, htail⟩
  | case4 => simp at h
  -- Anything else is left to whoever reads on.
  | case5 left t more hk hp =>
      obtain ⟨rfl, rfl⟩ := Prod.mk.inj (Except.ok.inj h)
      exact ⟨[], cs, rfl, by simpa using TreeText.chain hleft, hcuts⟩

theorem Cuts.comma {cs : List Char} {t : Token} {ts : List Token} (h : Cuts cs (t :: ts))
    (hkind : t.kind = .comma) : ∃ ws tail, cs = ws ++ ',' :: tail ∧ Blanks ws ∧ Cuts tail ts := by
  cases h with
  | finish => simp at hkind
  | gap => simp at hkind
  | @part ws run tail _ _ hws hrun htail =>
      obtain rfl := hrun.comma hkind
      exact ⟨ws, tail, rfl, hws, htail⟩

/-- The trees behind commas join the tree before them. -/
theorem Cuts.more [CharacterNames] {cs fs : List Char} {ts rest : List Token} {first : Selector}
    {more : List Selector} (hcuts : Cuts cs ts) (hfirst : TreeText fs first)
    (h : parseMore ts = .ok (more, rest)) :
    ∃ ms tail, cs = ms ++ tail ∧ TreesText (fs ++ ms) first more ∧ Cuts tail rest := by
  fun_induction parseMore ts generalizing cs fs first more rest with
  | case1 => cases hcuts
  | case2 => contradiction
  | case3 => contradiction
  | case4 => contradiction
  -- A comma and a tree, and the rest behind them.
  | case5 =>
      rename_i t ts hcomma node hnode s behind hchain _ more' behind' hmore ih
      obtain ⟨rfl, rfl⟩ := Prod.mk.inj (Except.ok.inj h)
      obtain ⟨ws, tail, rfl, hws, htail⟩ := hcuts.comma (eq_of_beq hcomma)
      obtain ⟨ws', ns, tail, u, us, rfl, hws', hns, rfl, hus⟩ := htail.node hnode
      obtain ⟨ms, tail, rfl, htree, hbehind⟩ := hus.chain (.node hns) hchain
      obtain ⟨rs, tail, rfl, htrees, hrest⟩ := ih hbehind htree hmore
      have hall := TreesText.more hfirst hws hws' htrees
      exact ⟨ws ++ ',' :: (ws' ++ (ns ++ ms ++ rs)), tail, by simp, by simpa using hall, hrest⟩
  | case6 =>
      obtain ⟨rfl, rfl⟩ := Prod.mk.inj (Except.ok.inj h)
      exact ⟨[], cs, rfl, by simpa using TreesText.one hfirst, hcuts⟩

/-- Where the end is next, only blanks are left. -/
theorem Cuts.blanks {cs : List Char} {ts : List Token} (h : Cuts cs ts)
    (hend : (nextToken ts).kind = .finish) : Blanks cs := by
  cases h with
  | finish hws => exact hws
  | gap => simp [nextToken] at hend
  | @part ws run tail t ts hws hrun htail =>
      replace hend : t.kind = .finish := hend
      cases hrun with
      | name | number | pattern => simp at hend
      | @symbol c position hc =>
          rcases symbol_cases c position with ⟨-, hkind⟩ | ⟨-, hkind⟩ | ⟨-, hkind⟩ | hkind
          all_goals simp [hkind] at hend

/-- The table of combinators has an entry for each token that the scanner calls one. -/
theorem Cuts.combinator {cs : List Char} {ts : List Token} {t : Token} (h : Cuts cs ts)
    (ht : t ∈ ts) (hkind : t.kind = .combinator) : ∃ kind, combinatorOf t = .ok kind := by
  rcases h.origin t ht with hfinish | hgap | ⟨run, hrun, -⟩
  · simp [hfinish] at hkind
  · exact ⟨_, hgap.2⟩
  · obtain ⟨c, kind, -, -, hcomb⟩ := hrun.link hkind
    exact ⟨kind, hcomb⟩

theorem Cuts.pattern {cs : List Char} {ts : List Token} {t : Token} (h : Cuts cs ts)
    (ht : t ∈ ts) (hkind : t.kind = .pattern) :
    ∃ body, t.value = some body ∧ '/' :: (body.toList ++ ['/']) <:+: cs := by
  rcases h.origin t ht with hfinish | hgap | ⟨run, hrun, hwithin⟩
  · simp [hfinish] at hkind
  · simp [hgap.1] at hkind
  · obtain ⟨body, hvalue, -, -, rfl⟩ := hrun.pattern_inv hkind
    refine ⟨body, hvalue, List.IsInfix.trans ⟨[], t.flags.toList, by simp⟩ hwithin⟩

theorem blanks_takeWhile (cs : List Char) : Blanks (cs.takeWhile isBlank) :=
  fun _ hc => List.all_eq_true.mp List.all_takeWhile _ hc

/-- What stripping takes away are blanks. -/
theorem eq_of_stripChars (cs : List Char) : ∃ front back, cs = front ++ stripChars cs ++ back ∧
    Blanks front ∧ Blanks back := by
  have hfront : cs.takeWhile isBlank ++ dropBlanks cs = cs := List.takeWhile_append_dropWhile
  have hback : (dropBlanks cs).reverse.takeWhile isBlank ++ dropBlanks (dropBlanks cs).reverse =
      (dropBlanks cs).reverse := List.takeWhile_append_dropWhile
  refine ⟨cs.takeWhile isBlank, ((dropBlanks cs).reverse.takeWhile isBlank).reverse, ?_,
    blanks_takeWhile cs, fun c hc => blanks_takeWhile _ c (List.mem_reverse.mp hc)⟩
  rw [List.append_assoc, stripChars, ← List.reverse_append, hback, List.reverse_reverse, hfront]

/-- **What is read is derived**, for the selector that is returned. -/
theorem denotes_of_parse [CharacterNames] {text : String} {s : Selector} (h : parse text = .ok s) :
    Denotes text s := by
  obtain ⟨-, ts, hscan, htokens⟩ := parse_eq_ok.mp h
  obtain ⟨first, rest, more, behind, hfirst, hmore, hend, rfl⟩ := parseTokens_eq_ok.mp htokens
  obtain ⟨node, hnode, hchain⟩ := except_bind_eq_ok hfirst
  have hcuts := cuts_of_scan hscan
  obtain ⟨ws, ns, tail, t, us, hcs, hws, hns, rfl, hus⟩ := hcuts.node hnode
  obtain ⟨ms, tail, rfl, htree, hrest⟩ := hus.chain (.node hns) hchain
  obtain ⟨rs, tail, rfl, htrees, hbehind⟩ := hrest.more htree hmore
  obtain ⟨front, back, htext, hfront, hback⟩ := eq_of_stripChars text.toList
  rw [strip, String.toList_ofList] at hcs
  refine ⟨front ++ ws, ns ++ ms ++ rs, tail ++ back, ?_, blanks_append hfront hws,
    blanks_append (hbehind.blanks hend) hback, .ofAlternatives htrees⟩
  rw [htext, hcs]
  simp

/-- **What is read can be written.** -/
theorem parse_written [CharacterNames] {text : String} {s : Selector} (h : parse text = .ok s) :
    s.Written :=
  (denotes_of_parse h).written

/-! ### What is refused -/

/-- Reading fails because of the text, or because a pattern in it is one that could not be
compiled although nothing is wrong with it. -/
def Refusal [CharacterNames] (cs : List Char) (fault : Fault) : Prop :=
  (∃ error, fault = .selector error) ∨
  ∃ source ignoreCase limit, fault = .regexLimit limit ∧
    Regex.compile source ignoreCase = .error limit ∧
    (∀ problem position, limit ≠ .malformed problem position) ∧
    '/' :: (source.toList ++ ['/']) <:+: cs

section Refusal

variable [CharacterNames]

theorem refusal_of_ofToken {cs : List Char} {t : Token} {fault : Fault}
    (h : ofToken t = .error fault) : Refusal cs fault := by
  rw [ofToken] at h
  split at h
  · contradiction
  · contradiction
  · exact .inl ⟨_, (Except.error.inj h).symm⟩
  · exact .inl ⟨_, (Except.error.inj h).symm⟩

theorem refusal_of_ofSource {cs : List Char} {source flags : String} {fault : Fault}
    (h : TextFilter.ofSource source flags = .error fault)
    (hsource : '/' :: (source.toList ++ ['/']) <:+: cs) : Refusal cs fault := by
  unfold TextFilter.ofSource at h
  split at h
  · contradiction
  · next error hcompile =>
      obtain rfl := Except.error.inj h
      unfold TextFilter.faultOf
      split
      · exact .inl ⟨_, rfl⟩
      · next hlimit => exact .inr ⟨_, _, _, rfl, hcompile, hlimit, hsource⟩

theorem Refusal.mono {cs ds : List Char} {fault : Fault} (h : Refusal ds fault)
    (hwithin : ds <:+: cs) : Refusal cs fault := by
  refine h.imp_right ?_
  rintro ⟨source, ignoreCase, limit, hfault, hcompile, hlimit, hsource⟩
  exact ⟨source, ignoreCase, limit, hfault, hcompile, hlimit, hsource.trans hwithin⟩

theorem refusal_of_parseChain {cs : List Char} {ts : List Token} {left : Selector} {fault : Fault}
    (hcuts : Cuts cs ts) (h : parseChain left ts = .error fault) : Refusal cs fault := by
  fun_induction parseChain left ts generalizing cs with
  | case1 => contradiction
  -- A combinator: looking it up does not fail, so the node behind it is missing.
  | case2 left t more hk ih =>
      obtain ⟨kind, hkind⟩ := hcuts.combinator List.mem_cons_self (eq_of_beq hk)
      rcases except_bind_eq_error h with hnone | ⟨kind', hkind', h⟩
      · exact absurd (hkind.symm.trans hnone) (by simp)
      rcases except_bind_eq_error h with hnone | ⟨right, hright, h⟩
      · exact refusal_of_ofToken hnone
      obtain ⟨bs, ns, tail, u, more, rfl, -, -, rfl, hmore⟩ :=
        hcuts.link (eq_of_beq hk) hkind' hright
      refine (ih kind' right hmore h).mono ?_
      rw [← List.append_assoc]
      exact (List.suffix_append _ _).isInfix
  -- A pattern that is not compiled.
  | case3 left t more hk hp he =>
      obtain ⟨body, hvalue, hbody⟩ := hcuts.pattern List.mem_cons_self (eq_of_beq hp)
      rcases except_bind_eq_error h with hnone | ⟨filter, -, h⟩
      · rw [hvalue, Option.getD_some] at hnone
        exact refusal_of_ofSource hnone hbody
      · contradiction
  | case4 => exact .inl ⟨_, (Except.error.inj h).symm⟩
  | case5 => contradiction

theorem refusal_of_parseMore {cs : List Char} {ts : List Token} {fault : Fault}
    (hcuts : Cuts cs ts) (h : parseMore ts = .error fault) : Refusal cs fault := by
  fun_induction parseMore ts generalizing cs fault with
  | case1 => contradiction
  -- No node behind the comma.
  | case2 =>
      rename_i hnode
      exact Except.error.inj h ▸ refusal_of_ofToken hnode
  -- A node behind the comma, but no tree.
  | case3 =>
      rename_i t ts hcomma node hnode fault' hchain
      obtain rfl := Except.error.inj h
      obtain ⟨ws, tail, rfl, -, htail⟩ := hcuts.comma (eq_of_beq hcomma)
      obtain ⟨ws', ns, tail, u, us, rfl, -, -, rfl, hus⟩ := htail.node hnode
      exact (refusal_of_parseChain hus hchain).mono ⟨ws ++ ',' :: (ws' ++ ns), [], by simp⟩
  -- A tree behind the comma, and a fault farther on.
  | case4 =>
      rename_i t ts hcomma node hnode s behind hchain _ fault' hmore ih
      obtain rfl := Except.error.inj h
      obtain ⟨ws, tail, rfl, -, htail⟩ := hcuts.comma (eq_of_beq hcomma)
      obtain ⟨ws', ns, tail, u, us, rfl, -, hns, rfl, hus⟩ := htail.node hnode
      obtain ⟨ms, tail, rfl, -, hbehind⟩ := hus.chain (.node hns) hchain
      exact (ih hbehind hmore).mono ⟨ws ++ ',' :: (ws' ++ (ns ++ ms)), [], by simp⟩
  | case5 => contradiction
  | case6 => contradiction

theorem refusal_of_parseTokens {cs : List Char} {ts : List Token} {fault : Fault}
    (hcuts : Cuts cs ts) (htokens : parseTokens ts = .error fault) : Refusal cs fault := by
  rcases except_bind_eq_error htokens with hfirst | ⟨⟨first, rest⟩, hfirst, h⟩
  · rcases except_bind_eq_error hfirst with hnode | ⟨node, hnode, hchain⟩
    · exact refusal_of_ofToken hnode
    · obtain ⟨ws, ns, tail, t, us, rfl, -, -, rfl, hus⟩ := hcuts.node hnode
      exact (refusal_of_parseChain hus hchain).mono ⟨ws ++ ns, [], by simp⟩
  obtain ⟨node, hnode, hchain⟩ := except_bind_eq_ok hfirst
  obtain ⟨ws, ns, tail, t, us, rfl, -, hns, rfl, hus⟩ := hcuts.node hnode
  obtain ⟨ms, tail, rfl, -, hrest⟩ := hus.chain (.node hns) hchain
  rcases except_bind_eq_error h with hmore | ⟨⟨more, behind⟩, -, h⟩
  · exact (refusal_of_parseMore hrest hmore).mono ⟨ws ++ (ns ++ ms), [], by simp⟩
  -- Something is left behind the last tree.
  · dsimp only at h
    split at h
    · exact .inl ⟨_, (Except.error.inj h).symm⟩
    · contradiction

/-- A text that is not read is refused. -/
theorem refusal_of_parse {text : String} {fault : Fault} (h : parse text = .error fault) :
    Refusal text.toList fault := by
  unfold parse at h
  dsimp only at h
  split at h
  · exact .inl ⟨_, (Except.error.inj h).symm⟩
  · split at h
    · exact .inl ⟨_, (Except.error.inj h).symm⟩
    · next ts hscan =>
        have hcuts := cuts_of_scan hscan
        obtain ⟨front, back, htext, -, -⟩ := eq_of_stripChars text.toList
        refine (refusal_of_parseTokens hcuts h).mono ?_
        rw [strip, String.toList_ofList]
        exact ⟨front, back, htext.symm⟩

/-- **Reading accepts what the grammar derives, and nothing else.** What is read is the
selector that the grammar derives the text for; where it derives the text for none, the
text is refused. -/
theorem parse_accepts (text : String) :
    (∀ s, parse text = .ok s ↔ Denotes text s) ∧
    ((∃ s, Denotes text s) ∨ (∀ s, ¬ Denotes text s) ∧
      ∃ fault, parse text = .error fault ∧ Refusal text.toList fault) := by
  have hiff : ∀ s, parse text = .ok s ↔ Denotes text s :=
    fun s => ⟨denotes_of_parse, Denotes.parse⟩
  refine ⟨hiff, ?_⟩
  cases hparse : parse text with
  | ok s => exact .inl ⟨s, (hiff s).mp hparse⟩
  | error fault =>
      refine .inr ⟨fun s h => ?_, fault, rfl, refusal_of_parse hparse⟩
      exact absurd (hparse.symm.trans h.parse) (by simp)

end Refusal

end DocLint.Selector
