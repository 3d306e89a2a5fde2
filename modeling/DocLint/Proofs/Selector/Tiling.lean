import Mathlib.Data.List.Chain
import DocLint.Proofs.Selector.Extent

/-!
# DocLint.Proofs.Selector.Tiling

**The scanner loses nothing and adds nothing.** The tokens of a text tile it (`Tiling`): each one
stands where its characters are, no two of them share a character, and what no token covers is
blank. A descendant combinator covers nothing; there is one between two nodes exactly if blanks
stand there. Where there are no tokens, the text is refused for one of its slashes (`scan_tiles`).

All of this is read off `Placed`. What concerns one token at a time, or any two of them, is an
induction over it. The descendant combinators concern tokens that come one after the other, so
what two neighbours have to do with each other is collected first (`Meets`) and holds along the
whole list.
-/

namespace DocLint.Token

open Text Selector

/-! ### Tilings -/

/-- The token stands in the text at its position, and its characters end where they have to. -/
def StandsIn (cs : List Char) (t : Token) : Prop :=
  ∃ before behind, cs = before ++ (t.extent ++ behind) ∧ t.position = before.length ∧
    ∀ c ∈ behind.head?, t.kind.takes c = false

/-- The character at an index is one of the token's. -/
def Covers (t : Token) (i : Nat) : Prop := t.position ≤ i ∧ i < t.stop

/-- There is a blank between two tokens. -/
def Separated (cs : List Char) (t u : Token) : Prop :=
  ∃ i c, cs[i]? = some c ∧ isBlank c = true ∧ t.stop ≤ i ∧ i < u.position

/-- The tokens are those of the text. -/
structure Tiling (cs : List Char) (tokens : List Token) : Prop where
  /-- Only the last token is an end, and it stands at the end of the text. -/
  ends : ∃ front, tokens = front ++ [⟨.finish, none, cs.length, ""⟩] ∧
    ∀ t ∈ front, t.kind ≠ .finish
  kinds : ∀ t ∈ tokens, t.IsLexeme ∨ t.IsDescendant ∨ t.kind = .finish
  ascending : tokens.Pairwise fun t u => t.position ≤ u.position
  stands : ∀ t ∈ tokens, t.StandsIn cs
  apart : tokens.Pairwise fun t u => t.stop ≤ u.position
  /-- What belongs to no token is blank. -/
  rest : ∀ i c, cs[i]? = some c → (∀ t ∈ tokens, ¬ t.Covers i) → isBlank c = true
  /-- A descendant combinator comes between two nodes with blanks between them, and stands where
  the second one does. -/
  between : ∀ front d back, tokens = front ++ d :: back → d.IsDescendant →
    ∃ front' t u back', front = front' ++ [t] ∧ back = u :: back' ∧ t.kind.isNode = true ∧
      u.kind.isNode = true ∧ Separated cs t u ∧ d.position = u.position
  /-- Two nodes with blanks between them, and no other text, have one between them. -/
  linked : ∀ front t mid u back, tokens = front ++ t :: (mid ++ u :: back) →
    t.kind.isNode = true → u.kind.isNode = true → (∀ d ∈ mid, d.IsDescendant) →
      Separated cs t u → ∃ d, mid = [d]

/-! ### Tokens one at a time and in pairs -/

variable {last : Option Token} {front ws cs tail : List Char} {t u d : Token} {ts : List Token}

theorem stop_of_position (h : t.position = front.length) :
    t.stop = (front ++ t.extent).length := by
  rw [stop, h, List.length_append]

theorem Placed.le_position (h : Placed last front cs ts) : ∀ t ∈ ts, front.length ≤ t.position := by
  induction h with
  | finish hws => simp
  | lexeme _ _ hposition _ _ _ ih =>
      refine List.forall_mem_cons.mpr ⟨by simp [hposition], ?_⟩
      exact fun u hu => Nat.le_trans (by simp) (ih u hu)
  | gap _ _ _ _ hposition _ ih =>
      refine List.forall_mem_cons.mpr ⟨by simp [hposition], ?_⟩
      exact fun u hu => Nat.le_trans (by simp) (ih u hu)

theorem Placed.apart (h : Placed last front cs ts) :
    ts.Pairwise fun t u => t.stop ≤ u.position := by
  induction h with
  | finish hws => exact List.pairwise_singleton _ _
  | lexeme hws ht hposition _ _ htail ih =>
      refine List.pairwise_cons.mpr ⟨?_, ih⟩
      intro u hu
      rw [stop_of_position hposition]
      exact htail.le_position u hu
  | @gap b t front ws cs ts hws _ _ _ hposition htail ih =>
      refine List.pairwise_cons.mpr ⟨?_, ih⟩
      intro u hu
      rw [stop, extent_descendant, hposition]
      exact htail.le_position u hu

theorem Placed.kinds (h : Placed last front cs ts) :
    ∀ t ∈ ts, t.IsLexeme ∨ t.IsDescendant ∨ t.kind = .finish := by
  induction h with
  | finish hws => exact List.forall_mem_singleton.mpr (.inr (.inr rfl))
  | lexeme _ ht _ _ _ _ ih => exact List.forall_mem_cons.mpr ⟨.inl ht, ih⟩
  | gap _ _ _ _ _ _ ih => exact List.forall_mem_cons.mpr ⟨.inr (.inl ⟨rfl, rfl⟩), ih⟩

theorem Placed.ends (h : Placed last front cs ts) :
    ∃ before, ts = before ++ [⟨.finish, none, (front ++ cs).length, ""⟩] ∧
      ∀ t ∈ before, t.kind ≠ .finish := by
  induction h with
  | finish hws => exact ⟨[], rfl, List.forall_mem_nil _⟩
  | @lexeme last front ws tail t ts _ ht _ _ _ _ ih =>
      obtain ⟨before, hts, hbefore⟩ := ih
      refine ⟨t :: before, ?_, List.forall_mem_cons.mpr ⟨ht.ne_finish, hbefore⟩⟩
      simp [hts]
  | @gap b t front ws cs ts _ _ _ _ _ _ ih =>
      obtain ⟨before, hts, hbefore⟩ := ih
      refine ⟨⟨.combinator, some " ", t.position, ""⟩ :: before, ?_,
        List.forall_mem_cons.mpr ⟨by simp, hbefore⟩⟩
      simp [hts]

theorem Placed.stands (h : Placed last front cs ts) : ∀ t ∈ ts, t.StandsIn (front ++ cs) := by
  induction h with
  | @finish last front ws hws =>
      refine List.forall_mem_singleton.mpr ⟨front ++ ws, [], ?_, rfl, by simp⟩
      simp [extent]
  | @lexeme last front ws tail t ts hws ht hposition hends _ _ ih =>
      refine List.forall_mem_cons.mpr ⟨⟨front ++ ws, tail, by simp, hposition, hends⟩, ?_⟩
      simpa using ih
  | @gap b t front ws cs ts hws _ _ _ hposition _ ih =>
      refine List.forall_mem_cons.mpr ⟨⟨front ++ ws, cs, ?_, hposition, fun _ _ => rfl⟩, ?_⟩
      · simp [extent_descendant]
      · simpa using ih

/-- A character at a place behind `front` and not behind `ws` is one of `ws`. -/
theorem mem_of_getElem?_between {i : Nat} {c : Char} (h : (front ++ ws ++ tail)[i]? = some c)
    (hle : front.length ≤ i) (hlt : i < (front ++ ws).length) : c ∈ ws := by
  rw [List.getElem?_append_left hlt, List.getElem?_append_right hle] at h
  exact List.mem_of_getElem? h

theorem Placed.rest (h : Placed last front cs ts) : ∀ i c, (front ++ cs)[i]? = some c →
    front.length ≤ i → (∀ t ∈ ts, ¬ t.Covers i) → isBlank c = true := by
  induction h with
  | @finish last front ws hws =>
      intro i c hi hle _
      have hlt : i < (front ++ ws).length := (List.getElem?_eq_some_iff.mp hi).1
      rw [← List.append_nil (front ++ ws)] at hi
      exact hws c (mem_of_getElem?_between hi hle hlt)
  | @lexeme last front ws tail t ts hws ht hposition _ _ _ ih =>
      intro i c hi hle hcovers
      obtain ⟨ht, hts⟩ := List.forall_mem_cons.mp hcovers
      rw [← List.append_assoc] at hi
      by_cases hlt : i < (front ++ ws).length
      · exact hws c (mem_of_getElem?_between hi hle hlt)
      · have hstop : t.stop ≤ i := Nat.le_of_not_lt fun hstop => ht ⟨by omega, hstop⟩
        rw [← List.append_assoc] at hi
        exact ih i c hi (stop_of_position hposition ▸ hstop) hts
  | @gap b t front ws cs ts hws _ _ _ _ _ ih =>
      intro i c hi hle hcovers
      rw [← List.append_assoc] at hi
      by_cases hlt : i < (front ++ ws).length
      · exact hws c (mem_of_getElem?_between hi hle hlt)
      · exact ih i c hi (Nat.le_of_not_lt hlt) (List.forall_mem_cons.mp hcovers).2

/-! ### Neighbours -/

/-- What holds of two tokens that come one after the other. -/
structure Meets (cs : List Char) (t u : Token) : Prop where
  before : u.IsDescendant → t.kind.isNode = true ∧ Separated cs t u
  behind : t.IsDescendant → u.kind.isNode = true ∧ t.position = u.position
  joined : t.kind.isNode = true → u.kind.isNode = true → ¬ Separated cs t u

theorem Meets.of_text (ht : ¬ t.IsDescendant) (hu : ¬ u.IsDescendant)
    (hjoined : t.kind.isNode = true → u.kind.isNode = true → ¬ Separated cs t u) :
    Meets cs t u where
  before h := absurd h hu
  behind h := absurd h ht
  joined := hjoined

theorem isChain_last {R : Token → Token → Prop} (hlast : ∀ b ∈ last, R b t)
    (hts : (t :: ts).IsChain R) : (last.toList ++ t :: ts).IsChain R := by
  cases last with
  | none => exact hts
  | some b => exact .cons_cons (hlast b rfl) hts

theorem Placed.meets (h : Placed last front cs ts)
    (hlast : ∀ b ∈ last, b.stop = front.length ∧ ¬ b.IsDescendant) :
    (last.toList ++ ts).IsChain (Meets (front ++ cs)) := by
  induction h with
  | finish hws =>
      refine isChain_last ?_ (.singleton _)
      intro b hb
      exact .of_text (hlast b hb).2 (by simp [IsDescendant]) (by simp [TokenKind.isNode])
  | @lexeme last front ws tail t ts hws ht hposition _ hjoined _ ih =>
      refine isChain_last ?_ ?_
      · intro b hb
        refine .of_text (hlast b hb).2 ht.not_isDescendant ?_
        -- Nodes are joined without blanks, so there is no room between them.
        rintro hbnode htnode ⟨i, c, -, -, hle, hlt⟩
        rw [hjoined b hb hbnode htnode, List.append_nil] at hposition
        rw [(hlast b hb).1] at hle
        omega
      · have hts := ih fun b hb => by
          obtain rfl := Option.some.inj hb
          exact ⟨stop_of_position hposition, ht.not_isDescendant⟩
        simpa using hts
  | @gap b t front ws cs ts hws hne hb ht hposition _ ih =>
      have hts : (t :: ts).IsChain (Meets (front ++ (ws ++ cs))) := by
        simpa using ih (by simp)
      obtain ⟨hstop, hb'⟩ := hlast b rfl
      have hnode : (⟨.combinator, some " ", t.position, ""⟩ : Token).kind.isNode ≠ true := by
        simp [TokenKind.isNode]
      refine .cons_cons ⟨fun _ => ⟨hb, ?_⟩, fun h => absurd h hb', fun _ h => absurd h hnode⟩
        (.cons_cons ⟨?_, fun _ => ⟨ht, rfl⟩, fun h => absurd h hnode⟩ hts)
      · obtain ⟨c, ws, rfl⟩ := List.exists_cons_of_ne_nil hne
        refine ⟨front.length, c, by simp, hws c List.mem_cons_self, Nat.le_of_eq hstop, ?_⟩
        simp [hposition]
      · intro h
        exact absurd (h.not_isNode.symm.trans ht) Bool.false_ne_true

/-- The first token stands for no blanks. -/
theorem Placed.head?_not_isDescendant (h : Placed none front cs ts) :
    ∀ t ∈ ts.head?, ¬ t.IsDescendant := by
  intro t ht
  cases h with
  | finish =>
      obtain rfl := Option.some.inj ht
      simp [IsDescendant]
  | lexeme _ hlexeme =>
      obtain rfl := Option.some.inj ht
      exact hlexeme.not_isDescendant

variable {tokens back mid : List Token}

/-- A descendant combinator has a neighbour on either side. -/
theorem between_of_meets {front : List Token} (hmeets : (front ++ d :: back).IsChain (Meets cs))
    (hfront : front ≠ []) (hback : back ≠ []) (hd : d.IsDescendant) :
    ∃ front' t u back', front = front' ++ [t] ∧ back = u :: back' ∧ t.kind.isNode = true ∧
      u.kind.isNode = true ∧ Separated cs t u ∧ d.position = u.position := by
  obtain ⟨front, t, rfl⟩ := (List.eq_nil_or_concat' front).resolve_left hfront
  obtain ⟨u, back, rfl⟩ := List.exists_cons_of_ne_nil hback
  rw [List.append_assoc, List.singleton_append, List.isChain_append_cons_cons,
    List.isChain_cons_cons] at hmeets
  obtain ⟨-, hbefore, hbehind, -⟩ := hmeets
  obtain ⟨ht, i, c, hi, hc, hle, hlt⟩ := hbefore.before hd
  obtain ⟨hu, hposition⟩ := hbehind.behind hd
  exact ⟨front, t, u, back, rfl, rfl, ht, hu, ⟨i, c, hi, hc, hle, hposition ▸ hlt⟩, hposition⟩

/-- Between nodes that are separated there is one token that stands for the blanks, and no more. -/
theorem linked_of_meets (hmeets : (t :: (mid ++ u :: back)).IsChain (Meets cs))
    (ht : t.kind.isNode = true) (hu : u.kind.isNode = true) (hmid : ∀ d ∈ mid, d.IsDescendant)
    (hseparated : Separated cs t u) : ∃ d, mid = [d] := by
  match mid with
  | [] =>
      obtain ⟨hjoined, -⟩ := List.isChain_cons_cons.mp hmeets
      exact absurd hseparated (hjoined.joined ht hu)
  | [d] => exact ⟨d, rfl⟩
  | d :: d' :: mid =>
      -- Behind such a token comes a node.
      obtain ⟨-, hmeets⟩ := List.isChain_cons_cons.mp hmeets
      obtain ⟨hbehind, -⟩ := List.isChain_cons_cons.mp hmeets
      have hnode := (hbehind.behind (hmid d List.mem_cons_self)).1
      have hd' := hmid d' (List.mem_cons_of_mem _ List.mem_cons_self)
      exact absurd (hd'.not_isNode.symm.trans hnode) Bool.false_ne_true

/-! ### The tokens of a text -/

theorem Placed.tiling (h : Placed none [] cs tokens) : Tiling cs tokens where
  ends := h.ends
  kinds := h.kinds
  ascending := h.apart.imp fun {t u} hstop => by
    rw [stop] at hstop
    omega
  stands := h.stands
  apart := h.apart
  rest i c hi hcovers := h.rest i c hi (Nat.zero_le i) hcovers
  between front d back htokens hd := by
    have hmeets : tokens.IsChain (Meets cs) := h.meets (by simp)
    obtain ⟨before, hends, hbefore⟩ := h.ends
    subst htokens
    refine between_of_meets hmeets ?_ ?_ hd
    · rintro rfl
      exact h.head?_not_isDescendant d rfl hd
    · rintro rfl
      obtain rfl := List.singleton_inj.mp (List.append_inj' hends rfl).2
      simp [IsDescendant] at hd
  linked front t mid u back htokens ht hu hmid hseparated := by
    have hmeets : tokens.IsChain (Meets cs) := h.meets (by simp)
    subst htokens
    exact linked_of_meets (List.isChain_split.mp hmeets).2 ht hu hmid hseparated

/-- **The scanner loses nothing and adds nothing.** Every text is cut into tokens that tile it, or
it is refused; and it is refused exactly where one of its slashes is. -/
theorem scan_tiles (source : String) :
    ((∃ tokens, scan source = .ok tokens ∧ Tiling source.toList tokens) ∨
      ∃ fault, scan source = .error fault) ∧
    ∀ fault, scan source = .error fault ↔ ∃ front rest, source.toList = front ++ '/' :: rest ∧
      Passed front ∧ Refused source front.length rest fault := by
  constructor
  · cases hscan : scan source with
    | ok tokens => exact .inl ⟨tokens, rfl, (placed_of_scan hscan).tiling⟩
    | error fault => exact .inr ⟨fault, rfl⟩
  · intro fault
    rw [scan, scan_eq_error_iff, Stops]
    simp only [Nat.zero_add]

/-- Blanks stand for a combinator between nodes only. -/
example : scan "a *, /b/i" = .ok [⟨.ident, some "a", 0, ""⟩, ⟨.combinator, some " ", 2, ""⟩,
    ⟨.universal, some "*", 2, ""⟩, ⟨.comma, some ",", 3, ""⟩, ⟨.pattern, some "b", 5, "i"⟩,
    ⟨.finish, none, 9, ""⟩] := by decide +kernel

/-- The slash in brackets is passed, and the pattern is refused for what stands behind it. -/
example : scan "a /[/]/ix" = .error (.unsupportedFlags "ix" 2) := by decide +kernel

end DocLint.Token
