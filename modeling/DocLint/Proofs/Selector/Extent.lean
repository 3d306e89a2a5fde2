import DocLint.Proofs.Selector.Grammar
import DocLint.Proofs.Selector.Refusal

/-!
# DocLint.Proofs.Selector.Extent

**Where tokens stand in the text.** Most tokens are lexemes: they stand for some characters
(`Token.extent`), and what these look like says of which kind the token is (`Token.IsLexeme`). The
descendant combinator and the end of the text stand for none.

`Placed` lays the tokens of a text out from left to right, each one behind the blanks before it,
and keeps what stands in front, so that positions are lengths. The scanner is looked at only in
`placed_of_scan`; whatever else is said about places is an induction over `Placed`.
-/

namespace DocLint

open Text Selector

/-- May the text of a token of this kind go on with a character? -/
def TokenKind.takes : TokenKind → Char → Bool
  | .ident => Token.isNameChar
  | .integer => isDigit
  | .pattern => isAlnum
  | _ => fun _ => false

namespace Token

/-- The descendant combinator. -/
def IsDescendant (t : Token) : Prop := t.kind = .combinator ∧ t.value = some " "

instance : DecidablePred IsDescendant := fun t =>
  inferInstanceAs (Decidable (t.kind = .combinator ∧ t.value = some " "))

/-- The characters that a token stands for. -/
def extent (t : Token) : List Char :=
  let value := (t.value.getD "").toList
  if t.IsDescendant then []
  else if t.kind = .pattern then '/' :: (value ++ '/' :: t.flags.toList)
  else value

/-- The position behind a token. -/
def stop (t : Token) : Nat := t.position + t.extent.length

/-- Tokens that stand for characters, by what their characters look like. -/
inductive IsLexeme : Token → Prop
  | ident {name : String} {position : Nat} (h : IsTypeName name) :
      IsLexeme ⟨.ident, some name, position, ""⟩
  | integer {digits : String} {position : Nat} (hne : digits.toList ≠ [])
      (h : ∀ c ∈ digits.toList, isDigit c = true) : IsLexeme ⟨.integer, some digits, position, ""⟩
  | universal {position : Nat} : IsLexeme ⟨.universal, some "*", position, ""⟩
  | combinator {c : Char} {kind : Combinator} {position : Nat} (h : LinkSymbol c kind) :
      IsLexeme ⟨.combinator, some (String.ofList [c]), position, ""⟩
  | comma {position : Nat} : IsLexeme ⟨.comma, some ",", position, ""⟩
  | pattern {body flags : String} {position : Nat} (hbody : Enclosed false body.toList)
      (hflags : IsFlags flags) : IsLexeme ⟨.pattern, some body, position, flags⟩
  | other {c : Char} {position : Nat} (hc : IsSymbol c) (hne : c ∉ ['*', '>', '+', '~', ',']) :
      IsLexeme ⟨.other, some (String.ofList [c]), position, ""⟩

variable {t : Token}

theorem extent_descendant (position : Nat) :
    extent ⟨.combinator, some " ", position, ""⟩ = [] := by
  rw [extent, if_pos ⟨rfl, rfl⟩]

theorem IsDescendant.not_isNode (h : t.IsDescendant) : t.kind.isNode = false := by
  rw [h.1]
  rfl

theorem IsLexeme.ne_finish (h : t.IsLexeme) : t.kind ≠ .finish := by
  cases h <;> exact TokenKind.noConfusion

theorem IsLexeme.not_isDescendant (h : t.IsLexeme) : ¬ t.IsDescendant := by
  rintro ⟨hkind, hvalue⟩
  cases h with
  | combinator h => cases h <;> simp at hvalue
  | _ => contradiction

theorem IsLexeme.extent_eq (h : t.IsLexeme) (hkind : t.kind ≠ .pattern) :
    t.extent = (t.value.getD "").toList := by
  rw [extent, if_neg h.not_isDescendant, if_neg hkind]

theorem extent_pattern (body flags : String) (position : Nat) :
    extent ⟨.pattern, some body, position, flags⟩ =
      '/' :: (body.toList ++ '/' :: flags.toList) := by
  rw [extent, if_neg (by simp [IsDescendant]), if_pos rfl]
  rfl

/-- The symbols that stand for something. -/
theorem symbol_cases (c : Char) (position : Nat) :
    (c = '*' ∧ (ofSymbol c position).kind = .universal) ∨
    ((∃ kind, LinkSymbol c kind) ∧ (ofSymbol c position).kind = .combinator) ∨
    (c = ',' ∧ (ofSymbol c position).kind = .comma) ∨
    (ofSymbol c position).kind = .other := by
  by_cases hstar : c = '*'
  · exact .inl ⟨hstar, by rw [hstar]; rfl⟩
  by_cases hparent : c = '>'
  · subst hparent
    exact .inr (.inl ⟨⟨_, .parent⟩, rfl⟩)
  by_cases hprevious : c = '+'
  · subst hprevious
    exact .inr (.inl ⟨⟨_, .previous⟩, rfl⟩)
  by_cases hsibling : c = '~'
  · subst hsibling
    exact .inr (.inl ⟨⟨_, .sibling⟩, rfl⟩)
  by_cases hcomma : c = ','
  · exact .inr (.inr (.inl ⟨hcomma, by rw [hcomma]; rfl⟩))
  · exact .inr (.inr (.inr (by simp [ofSymbol, *])))

theorem isLexeme_ofSymbol {c : Char} (hc : IsSymbol c) (position : Nat) :
    (ofSymbol c position).IsLexeme := by
  rcases symbol_cases c position with ⟨rfl, -⟩ | ⟨⟨kind, hlink⟩, hkind⟩ | ⟨rfl, -⟩ | hkind
  · exact .universal
  · have htoken : ofSymbol c position = ⟨.combinator, some (String.ofList [c]), position, ""⟩ := by
      rw [← hkind]
      rfl
    rw [htoken]
    exact .combinator hlink
  · exact .comma
  · have htoken : ofSymbol c position = ⟨.other, some (String.ofList [c]), position, ""⟩ := by
      rw [← hkind]
      rfl
    have hne : c ∉ ['*', '>', '+', '~', ','] := by
      intro hmem
      simp only [List.mem_cons, List.not_mem_nil, or_false] at hmem
      rcases hmem with rfl | rfl | rfl | rfl | rfl <;> cases hkind
    rw [htoken]
    exact .other hc hne

theorem extent_ofSymbol {c : Char} (hc : IsSymbol c) (position : Nat) :
    (ofSymbol c position).extent = [c] := by
  have hkind : (ofSymbol c position).kind ≠ .pattern := by
    rcases symbol_cases c position with ⟨-, h⟩ | ⟨-, h⟩ | ⟨-, h⟩ | h <;> simp [h]
  rw [(isLexeme_ofSymbol hc position).extent_eq hkind]
  exact String.toList_ofList

theorem isNode_ofSymbol (c : Char) (position : Nat) :
    (ofSymbol c position).kind.isNode = (c == '*') := by
  rcases symbol_cases c position with ⟨rfl, -⟩ | ⟨⟨kind, hlink⟩, -⟩ | ⟨rfl, -⟩ | hkind
  · rfl
  · cases hlink <;> rfl
  · rfl
  · have hstar : (c == '*') = false := by
      refine Bool.eq_false_iff.mpr ?_
      intro hc
      obtain rfl : c = '*' := eq_of_beq hc
      cases hkind
    rw [hkind, hstar]
    rfl

theorem takes_ofSymbol (c d : Char) (position : Nat) :
    (ofSymbol c position).kind.takes d = false := by
  rcases symbol_cases c position with ⟨-, h⟩ | ⟨-, h⟩ | ⟨-, h⟩ | h <;> rw [h] <;> rfl

/-! ### Tokens from left to right -/

/-- The tokens of characters that stand behind `front`. The token that ends where `front` does, if
there is one, is `last`. -/
inductive Placed : Option Token → List Char → List Char → List Token → Prop
  | finish {last : Option Token} {front ws : List Char} (hws : Blanks ws) :
      Placed last front ws [⟨.finish, none, (front ++ ws).length, ""⟩]
  | lexeme {last : Option Token} {front ws tail : List Char} {t : Token} {ts : List Token}
      (hws : Blanks ws) (ht : t.IsLexeme) (hposition : t.position = (front ++ ws).length)
      (hends : ∀ c ∈ tail.head?, t.kind.takes c = false)
      (hjoined : ∀ b ∈ last, b.kind.isNode = true → t.kind.isNode = true → ws = [])
      (htail : Placed (some t) (front ++ ws ++ t.extent) tail ts) :
      Placed last front (ws ++ (t.extent ++ tail)) (t :: ts)
  /-- Blanks between nodes; the combinator stands where the second one does. -/
  | gap {b t : Token} {front ws cs : List Char} {ts : List Token} (hws : Blanks ws) (hne : ws ≠ [])
      (hb : b.kind.isNode = true) (ht : t.kind.isNode = true)
      (hposition : t.position = (front ++ ws).length)
      (htail : Placed none (front ++ ws) cs (t :: ts)) :
      Placed (some b) front (ws ++ cs) (⟨.combinator, some " ", t.position, ""⟩ :: t :: ts)

variable {last : Option Token} {front ws cs run tail : List Char} {ts : List Token}
  {source : String} {position : Nat} {blanks : Bool} {before : Option TokenKind} {c : Char}

/-- One lexeme, and the blanks before it. -/
theorem Placed.of_scan {result : Except SelectorError (List Token)} (hws : Blanks ws)
    (hblanks : blanks = !ws.isEmpty) (hbefore : before = last.map (·.kind)) (ht : t.IsLexeme)
    (hextent : t.extent = run) (hposition : t.position = (front ++ ws).length)
    (hnode : t.kind.isNode = (c == '*' || isLetter c))
    (hends : ∀ c ∈ tail.head?, t.kind.takes c = false)
    (h : result.map (descendant blanks before c t.position ++ t :: ·) = .ok ts)
    (htail : ∀ us, result = .ok us → Placed (some t) (front ++ ws ++ run) tail us) :
    Placed last front (ws ++ (run ++ tail)) ts := by
  subst hblanks hbefore hextent
  cases result with
  | error e => simp [Except.map] at h
  | ok us =>
      obtain rfl : descendant (!ws.isEmpty) (last.map (·.kind)) c t.position ++ t :: us = ts :=
        Except.ok.inj h
      rw [descendant, ← hnode]
      split
      · next hgap =>
          obtain ⟨⟨hne, hb⟩, htnode⟩ : (ws ≠ [] ∧ (last.map (·.kind)).any (·.isNode) = true) ∧
              t.kind.isNode = true := by simpa using hgap
          cases last with
          | none => cases hb
          | some b =>
              refine .gap hws hne hb htnode hposition ?_
              refine @lexeme none (front ++ ws) [] tail t us blanks_nil ht ?_ hends (by simp) ?_
              · rw [hposition, List.append_nil]
              · rw [List.append_nil]
                exact htail us rfl
      · next hgap =>
          refine .lexeme hws ht hposition hends ?_ (htail us rfl)
          rintro b rfl hb htnode
          simpa [hb, htnode] using hgap

/-- The scanner places the tokens of characters, blanks that were passed before them included. -/
theorem placed_of_scanFrom (h : scanFrom source position blanks before cs = .ok ts) (hws : Blanks ws)
    (hposition : position = (front ++ ws).length) (hblanks : blanks = !ws.isEmpty)
    (hbefore : before = last.map (·.kind)) : Placed last front (ws ++ cs) ts := by
  fun_induction scanFrom source position blanks before cs generalizing last front ws ts with
  -- The end of the text.
  | case1 position blanks before =>
      obtain rfl := Except.ok.inj h
      rw [List.append_nil, hposition]
      exact .finish hws
  -- A blank.
  | case2 position blanks before c rest hblank ih =>
      have hws' : Blanks (ws ++ [c]) := blanks_append hws (List.forall_mem_singleton.mpr hblank)
      rw [← List.singleton_append, ← List.append_assoc]
      exact ih h hws' (by simp [hposition, Nat.add_assoc]) (by simp) hbefore
  -- A name: a letter, and the name characters behind it.
  | case3 =>
      rename_i c rest _ gap hletter name _ ih
      have hname : IsTypeName (String.ofList name) := by
        refine ⟨c, rest.takeWhile isNameChar, String.toList_ofList, hletter, ?_⟩
        exact fun d hd => List.all_eq_true.mp List.all_takeWhile d hd
      have hcs : c :: rest = name ++ rest.dropWhile isNameChar :=
        congrArg (c :: ·) List.takeWhile_append_dropWhile.symm
      rw [hcs]
      refine .of_scan hws hblanks hbefore (.ident hname) ?_ hposition ?_ ?_ h ?_
      · exact ((IsLexeme.ident hname).extent_eq (by simp)).trans String.toList_ofList
      · simp [TokenKind.isNode, hletter]
      · exact not_of_head?_dropWhile isNameChar rest
      · exact fun us hus => ih hus blanks_nil (by simp [hposition, Nat.add_assoc]) rfl rfl
  -- A number.
  | case4 =>
      rename_i position _ _ c rest _ gap hletter hdigit digits _ ih
      have hdigits : ∀ d ∈ digits, isDigit d = true :=
        List.forall_mem_cons.mpr ⟨hdigit, List.all_eq_true.mp List.all_takeWhile⟩
      have hstar : (c == '*') = false := by
        refine Bool.eq_false_iff.mpr ?_
        intro hc
        rw [eq_of_beq hc] at hdigit
        exact absurd hdigit (by decide)
      have hcs : c :: rest = digits ++ rest.dropWhile isDigit :=
        congrArg (c :: ·) List.takeWhile_append_dropWhile.symm
      rw [hcs]
      have hlexeme : IsLexeme ⟨.integer, some (String.ofList digits), position, ""⟩ := by
        refine .integer ?_ ?_
        · rw [String.toList_ofList]
          exact List.cons_ne_nil _ _
        · rwa [String.toList_ofList]
      refine .of_scan hws hblanks hbefore hlexeme ?_ hposition ?_ ?_ h ?_
      · exact (hlexeme.extent_eq (by simp)).trans String.toList_ofList
      · simp [TokenKind.isNode, hletter, hstar]
      · exact not_of_head?_dropWhile isDigit rest
      · exact fun us hus => ih hus blanks_nil (by simp [hposition, Nat.add_assoc]) rfl rfl
  -- A pattern without its slash.
  | case5 => simp at h
  -- A pattern with flags that are known; other flags are a fault.
  | case6 =>
      rename_i c rest _ gap _ _ hslash body behind hbody flags hflags _ ih
      obtain rfl : c = '/' := eq_of_beq hslash
      obtain ⟨hrest, henclosed⟩ := patternBody_eq_some_iff.mp hbody
      have hcs : '/' :: rest = '/' :: (body ++ '/' :: flags) ++ behind.dropWhile isAlnum := calc
        '/' :: rest = '/' :: (body ++ '/' :: behind) := by rw [hrest]
        _ = '/' :: (body ++ '/' :: (flags ++ behind.dropWhile isAlnum)) := by
          rw [List.takeWhile_append_dropWhile]
        _ = '/' :: (body ++ '/' :: flags) ++ behind.dropWhile isAlnum := by simp
      rw [hcs]
      refine .of_scan hws hblanks hbefore (.pattern ?_ (isFlags_iff.mpr hflags)) ?_ hposition ?_ ?_
        h ?_
      · rwa [String.toList_ofList]
      · rw [extent_pattern, String.toList_ofList, String.toList_ofList]
      · exact (by decide : false = ('/' == '*' || isLetter '/'))
      · exact not_of_head?_dropWhile isAlnum behind
      · exact fun us hus => ih hus blanks_nil (by simp [hposition]; omega) rfl rfl
  | case7 => simp at h
  -- A symbol.
  | case8 =>
      rename_i c rest hblank gap hletter hdigit hslash token ih
      have hsymbol : IsSymbol c := by
        simp at hblank hletter hdigit hslash
        exact ⟨hblank, hletter, hdigit, by simp [hslash]⟩
      rw [← List.singleton_append]
      refine .of_scan hws hblanks hbefore (isLexeme_ofSymbol hsymbol _) (extent_ofSymbol hsymbol _)
        hposition ?_ ?_ h ?_
      · rw [isNode_ofSymbol, Bool.eq_false_iff.mpr hletter, Bool.or_false]
      · exact fun d _ => takes_ofSymbol c d _
      · exact fun us hus => ih hus blanks_nil (by simp [hposition, Nat.add_assoc]) rfl rfl

/-- The scanner places the tokens of a text. -/
theorem placed_of_scan (h : scan source = .ok ts) : Placed none [] source.toList ts := by
  have hplaced : Placed none [] ([] ++ source.toList) ts :=
    placed_of_scanFrom h blanks_nil rfl rfl rfl
  exact hplaced

end Token

end DocLint
