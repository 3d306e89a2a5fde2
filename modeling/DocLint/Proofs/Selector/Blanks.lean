import Mathlib.Logic.Relation
import DocLint.Proofs.Selector.Format
import DocLint.Proofs.Selector.Unplaced

/-!
# DocLint.Proofs.Selector.Blanks

**Blanks matter only as the descendant combinator.** A run of them may become a longer or a
shorter one, and next to the other combinators, to commas, in front of a pattern and at the
ends of the text there may be any or none (`Respace`). A selector is read from all such texts
alike, or from none of them (`parse_respaced`). Inside a pattern, blanks are characters like
any other, so these changes are made `Outside` of patterns.

The proof compares the tokens of two texts that differ in one place. Up to there, both are
scanned in the same way, because the place is one where no name, no number and no pattern goes
on (`ScannedAlike.append`). From there on it is enough to know what one run of blanks, or one
symbol with blanks around it, does to the scanner.
-/

namespace DocLint

namespace Token

open Selector Text

/-! ### Places outside of patterns -/

/-- At the end of these characters, no pattern is open. -/
inductive Outside : List Char → Prop
  | nil : Outside []
  | plain {c : Char} {cs : List Char} (hc : c ≠ '/') (h : Outside cs) : Outside (c :: cs)
  | pattern {cs body behind : List Char} (hbody : patternBody false cs = some (body, behind))
      (h : Outside behind) : Outside ('/' :: cs)

theorem Outside.dropWhile {cs : List Char} (h : Outside cs) {p : Char → Bool}
    (hp : p '/' = false) : Outside (cs.dropWhile p) := by
  induction h with
  | nil => exact .nil
  | @plain c cs hc h ih =>
      rw [List.dropWhile_cons]
      split
      · exact ih
      · exact .plain hc h
  | pattern hbody h _ =>
      rw [List.dropWhile_cons, if_neg (by simp [hp])]
      exact .pattern hbody h

theorem Outside.of_cons {c : Char} {cs : List Char} (hc : c ≠ '/') (h : Outside (c :: cs)) :
    Outside cs := by
  cases h with
  | plain _ h => exact h
  | pattern => exact absurd rfl hc

theorem Outside.of_pattern {cs body behind : List Char} (h : Outside ('/' :: cs))
    (hbody : patternBody false cs = some (body, behind)) : Outside behind := by
  cases h with
  | plain hc => exact absurd rfl hc
  | pattern hbody' h =>
      obtain ⟨-, rfl⟩ := Prod.mk.inj (Option.some.inj (hbody.symm.trans hbody'))
      exact h

theorem Outside.exists_body {cs : List Char} (h : Outside ('/' :: cs)) :
    ∃ body behind, patternBody false cs = some (body, behind) := by
  cases h with
  | plain hc => exact absurd rfl hc
  | pattern hbody => exact ⟨_, _, hbody⟩

/-- A pattern that is not closed is not closed by more characters either, if none of them is a
slash. -/
theorem patternBody_append_none {b : Bool} {cs more : List Char} (h : patternBody b cs = none)
    (hmore : '/' ∉ more) : patternBody b (cs ++ more) = none := by
  refine Option.eq_none_iff_forall_not_mem.mpr ?_
  rintro ⟨body, behind⟩ hread
  rcases List.append_eq_append_iff.mp (eq_of_patternBody hread) with
    ⟨rest, -, htail⟩ | ⟨rest, hcs, htail⟩
  · exact hmore (htail ▸ by simp)
  · cases rest with
    | nil => exact hmore (List.nil_append more ▸ htail ▸ List.mem_cons_self)
    | cons c rest =>
        -- The slash is one of the first characters, so they are closed already.
        obtain ⟨rfl, -⟩ := List.cons.inj htail
        have hclosed := patternBody_append rest hread
        rw [← hcs, h] at hclosed
        contradiction

/-! ### Tokens without their places -/

/-- The tokens of a scan without their places. -/
def unplacedTokens (result : Except SelectorError (List Token)) : Option (List Token) :=
  result.toOption.map (·.map unplaced)

theorem unplacedTokens_map (gap : List Token) (t : Token)
    (result : Except SelectorError (List Token)) :
    unplacedTokens (result.map (gap ++ t :: ·)) =
      (unplacedTokens result).map (gap.map unplaced ++ t.unplaced :: ·) := by
  cases result <;> simp [unplacedTokens, Except.map, Except.toOption]

theorem unplaced_descendant (blanks : Bool) (before : Option TokenKind) (c : Char)
    (position : Nat) :
    (descendant blanks before c position).map unplaced = descendant blanks before c 0 := by
  unfold descendant
  split <;> rfl

/-- Places aside, the same tokens are made of both, wherever they stand. -/
def ScannedAlike (cs ds : List Char) : Prop :=
  ∀ source source' position position' blanks before,
    unplacedTokens (scanFrom source position blanks before cs) =
      unplacedTokens (scanFrom source' position' blanks before ds)

variable {source : String} {position : Nat} {blanks : Bool} {before : Option TokenKind}
  {c : Char} {cs ds rest tail ws : List Char}

/-! ### What the scanner does with a character -/

/-- What the scanner does at a letter. -/
theorem scan_letter (hletter : isLetter c = true) :
    scanFrom source position blanks before (c :: rest) =
      (scanFrom source (position + (c :: rest.takeWhile isNameChar).length) false (some .ident)
        (rest.dropWhile isNameChar)).map (descendant blanks before c position ++
          ⟨.ident, some (String.ofList (c :: rest.takeWhile isNameChar)), position, ""⟩ :: ·) := by
  have hblank : isBlank c = false := isBlank_of_isNameChar (isNameChar_of_isLetter hletter)
  rw [scanFrom, if_neg (by simp [hblank]), if_pos hletter]

/-- What the scanner does at a digit. -/
theorem scan_digit (hletter : isLetter c = false) (hdigit : isDigit c = true) :
    scanFrom source position blanks before (c :: rest) =
      (scanFrom source (position + (c :: rest.takeWhile isDigit).length) false (some .integer)
        (rest.dropWhile isDigit)).map (descendant blanks before c position ++
          ⟨.integer, some (String.ofList (c :: rest.takeWhile isDigit)), position, ""⟩ :: ·) := by
  have hblank : isBlank c = false := isBlank_of_isNameChar (isNameChar_of_isDigit hdigit)
  rw [scanFrom, if_neg (by simp [hblank]), if_neg (by simp [hletter]), if_pos hdigit]

/-- What the scanner does at a slash. -/
theorem scan_slash : scanFrom source position blanks before ('/' :: rest) =
    match patternBody false rest with
    | none => .error (.unterminatedPattern position source)
    | some (body, behind) =>
      let flags := behind.takeWhile isAlnum
      if flags == [] || flags == ['i'] then
        (scanFrom source (position + 2 + body.length + flags.length) false (some .pattern)
          (behind.dropWhile isAlnum)).map
            (⟨.pattern, some (String.ofList body), position, String.ofList flags⟩ :: ·)
      else .error (.unsupportedFlags (String.ofList flags) position) := by
  have hslash : isBlank '/' = false ∧ isLetter '/' = false ∧ isDigit '/' = false := by decide
  have hgap : descendant blanks before '/' position = [] := by simp [descendant, hslash]
  rw [scanFrom, if_neg (by simp [hslash]), if_neg (by simp [hslash]), if_neg (by simp [hslash]),
    if_pos (by rfl)]
  split
  · next h => simp only [h]
  · next h => simp only [h, hgap, List.nil_append]

variable {rest' : List Char}

theorem ScannedAlike.blank (hc : isBlank c = true) (h : ScannedAlike rest rest') :
    ScannedAlike (c :: rest) (c :: rest') := by
  intro source source' position position' blanks before
  rw [scan_blank hc, scan_blank hc]
  exact h _ _ _ _ _ _

theorem ScannedAlike.letter (hc : isLetter c = true)
    (hrun : rest.takeWhile isNameChar = rest'.takeWhile isNameChar)
    (h : ScannedAlike (rest.dropWhile isNameChar) (rest'.dropWhile isNameChar)) :
    ScannedAlike (c :: rest) (c :: rest') := by
  intro source source' position position' blanks before
  rw [scan_letter hc, scan_letter hc, unplacedTokens_map, unplacedTokens_map,
    unplaced_descendant, unplaced_descendant, hrun, h]
  rfl

theorem ScannedAlike.digit (hletter : isLetter c = false) (hc : isDigit c = true)
    (hrun : rest.takeWhile isDigit = rest'.takeWhile isDigit)
    (h : ScannedAlike (rest.dropWhile isDigit) (rest'.dropWhile isDigit)) :
    ScannedAlike (c :: rest) (c :: rest') := by
  intro source source' position position' blanks before
  rw [scan_digit hletter hc, scan_digit hletter hc, unplacedTokens_map, unplacedTokens_map,
    unplaced_descendant, unplaced_descendant, hrun, h]
  rfl

theorem ScannedAlike.symbol (hc : IsSymbol c) (h : ScannedAlike rest rest') :
    ScannedAlike (c :: rest) (c :: rest') := by
  intro source source' position position' blanks before
  rw [scan_symbol hc, scan_symbol hc, unplacedTokens_map, unplacedTokens_map,
    unplaced_descendant, unplaced_descendant, h]
  rfl

theorem ScannedAlike.unclosed (hrest : patternBody false rest = none)
    (hrest' : patternBody false rest' = none) : ScannedAlike ('/' :: rest) ('/' :: rest') := by
  intro source source' position position' blanks before
  rw [scan_slash, scan_slash, hrest, hrest']
  rfl

theorem ScannedAlike.pattern {body behind behind' : List Char}
    (hbody : patternBody false rest = some (body, behind))
    (hbody' : patternBody false rest' = some (body, behind'))
    (hflags : behind.takeWhile isAlnum = behind'.takeWhile isAlnum)
    (h : ScannedAlike (behind.dropWhile isAlnum) (behind'.dropWhile isAlnum)) :
    ScannedAlike ('/' :: rest) ('/' :: rest') := by
  intro source source' position position' blanks before
  rw [scan_slash, scan_slash]
  simp only [hbody, hbody', hflags]
  split
  · refine (unplacedTokens_map [] _ _).trans (Eq.trans ?_ (unplacedTokens_map [] _ _).symm)
    rw [h]
    rfl
  · rfl

/-! ### Texts that go on alike -/

/-- A run at the end of `cs` ends before `ds`, if no name goes on there. -/
theorem cut_append {p : Char → Bool} (hp : ∀ c, p c = true → isNameChar c = true)
    (cs : List Char) (hds : Ends ds) : (cs ++ ds).takeWhile p = cs.takeWhile p ∧
      (cs ++ ds).dropWhile p = cs.dropWhile p ++ ds := by
  induction cs with
  | nil => exact cut_of_ends (List.forall_mem_nil _) hp hds
  | cons c cs ih =>
      rw [List.cons_append, List.takeWhile_cons, List.dropWhile_cons, List.takeWhile_cons,
        List.dropWhile_cons]
      split
      · exact ⟨congrArg _ ih.1, ih.2⟩
      · exact ⟨rfl, rfl⟩

/-- **Two texts that go on alike are scanned alike**, if no name, no number and no pattern goes
on where they part. -/
theorem ScannedAlike.append {qs : List Char} (h : ScannedAlike qs ds) (hqs : Ends qs)
    (hds : Ends ds) (cs : List Char) (hcs : Outside cs ∨ ('/' ∉ qs ∧ '/' ∉ ds)) :
    ScannedAlike (cs ++ qs) (cs ++ ds) := by
  match cs with
  | [] => exact h
  | c :: rest =>
      rw [List.cons_append, List.cons_append]
      -- A run of characters ends before the place, and what is behind it is shorter.
      have hrun : ∀ (p : Char → Bool), (∀ c, p c = true → isNameChar c = true) →
          ∀ behind : List Char, (Outside behind ∨ ('/' ∉ qs ∧ '/' ∉ ds)) →
            behind.length ≤ rest.length →
          (behind ++ qs).takeWhile p = (behind ++ ds).takeWhile p ∧
            ScannedAlike ((behind ++ qs).dropWhile p) ((behind ++ ds).dropWhile p) := by
        intro p hp behind hbehind hshorter
        have hslash : p '/' = false := Bool.eq_false_iff.mpr fun hp' =>
          absurd (hp _ hp') (by decide)
        have hless := length_dropWhile_le p behind
        obtain ⟨htake, hdrop⟩ := cut_append hp behind hqs
        obtain ⟨htake', hdrop'⟩ := cut_append hp behind hds
        rw [htake, hdrop, htake', hdrop']
        exact ⟨rfl, h.append hqs hds _ (hbehind.imp_left (·.dropWhile hslash))⟩
      by_cases hslash : c = '/'
      · subst hslash
        cases hbody : patternBody false rest with
        | none =>
            -- The pattern is not closed, so more text is the same only if nothing closes it.
            obtain ⟨hqs', hds'⟩ := hcs.resolve_left fun houtside => by
              obtain ⟨body, behind, hbody'⟩ := houtside.exists_body
              simp [hbody] at hbody'
            exact .unclosed (patternBody_append_none hbody hqs')
              (patternBody_append_none hbody hds')
        | some read =>
            obtain ⟨body, behind⟩ := read
            have hread : ∀ more, patternBody false (rest ++ more) = some (body, behind ++ more) := by
              intro more
              rw [eq_of_patternBody hbody, List.append_assoc, List.cons_append]
              exact patternBody_append _ hbody
            have hless := length_of_patternBody hbody
            obtain ⟨hflags, hbehind⟩ := hrun isAlnum (fun _ => isNameChar_of_isAlnum) behind
              (hcs.imp_left (·.of_pattern hbody)) (by omega)
            exact .pattern (hread qs) (hread ds) hflags hbehind
      have hrest : Outside rest ∨ ('/' ∉ qs ∧ '/' ∉ ds) := hcs.imp_left (Outside.of_cons hslash)
      by_cases hblank : isBlank c = true
      · exact .blank hblank (h.append hqs hds rest hrest)
      by_cases hletter : isLetter c = true
      · obtain ⟨hname, hbehind⟩ := hrun isNameChar (fun _ hc => hc) rest hrest (Nat.le_refl _)
        exact .letter hletter hname hbehind
      by_cases hdigit : isDigit c = true
      · obtain ⟨hdigits, hbehind⟩ :=
          hrun isDigit (fun _ => isNameChar_of_isDigit) rest hrest (Nat.le_refl _)
        exact .digit (by simpa using hletter) hdigit hdigits hbehind
      · refine .symbol ?_ (h.append hqs hds rest hrest)
        simp at hblank hletter hdigit
        exact ⟨hblank, hletter, hdigit, by simp [hslash]⟩
termination_by cs.length

theorem ScannedAlike.refl (cs : List Char) : ScannedAlike cs cs := by
  have hnil : ScannedAlike [] [] := by
    intro source source' position position' blanks before
    rw [scanFrom, scanFrom]
    rfl
  simpa using hnil.append (by simp [Ends]) (by simp [Ends]) cs (.inr (by simp))

/-- Behind what is no node, it makes no difference whether there are blanks. -/
theorem scan_behind (hbefore : before.any (·.isNode) = false) (blanks' : Bool) :
    scanFrom source position blanks before cs = scanFrom source position blanks' before cs := by
  cases cs with
  | nil => rw [scanFrom, scanFrom]
  | cons c cs =>
      rw [scanFrom, scanFrom, descendant_of_not_node hbefore, descendant_of_not_node hbefore]

/-- Nor does it in front of what begins no node. -/
theorem scan_before (hstar : (c == '*') = false) (hletter : isLetter c = false)
    (blanks' : Bool) :
    scanFrom source position blanks before (c :: cs) =
      scanFrom source position blanks' before (c :: cs) := by
  have hgap : ∀ blanks, descendant blanks before c position = [] := by
    intro blanks
    simp [descendant, hstar, hletter]
  rw [scanFrom, scanFrom, hgap, hgap]

end Token

namespace Selector

open Token Text

/-! ### Changes of blanks -/

/-- A symbol that blanks may stand on both sides of. -/
def Separates (c : Char) : Prop := c = ',' ∨ ∃ kind, LinkSymbol c kind

/-- One change of blanks that should not matter. -/
inductive Respace : List Char → List Char → Prop
  /-- Blanks become other blanks. -/
  | run {cs ds ws ws' : List Char} (hcs : Outside cs) (hne : ws ≠ []) (hws : Blanks ws)
      (hne' : ws' ≠ []) (hws' : Blanks ws') : Respace (cs ++ (ws ++ ds)) (cs ++ (ws' ++ ds))
  /-- There are blanks before a symbol or a pattern. -/
  | before {cs ds ws : List Char} {c : Char} (hcs : Outside cs) (hc : Separates c ∨ c = '/')
      (hws : Blanks ws) : Respace (cs ++ c :: ds) (cs ++ (ws ++ c :: ds))
  /-- There are blanks behind a symbol. -/
  | behind {cs ds ws : List Char} {c : Char} (hcs : Outside cs) (hc : Separates c)
      (hws : Blanks ws) : Respace (cs ++ c :: ds) (cs ++ c :: (ws ++ ds))
  /-- The text begins with blanks. -/
  | front {cs ws : List Char} (hws : Blanks ws) : Respace cs (ws ++ cs)
  /-- The text ends with blanks. -/
  | back {cs ws : List Char} (hws : Blanks ws) : Respace cs (cs ++ ws)

/-- The texts differ only by such changes, made and undone in any number. -/
def Respaced : List Char → List Char → Prop := Relation.EqvGen Respace

variable {c : Char} {cs ds ws ws' : List Char}

theorem Separates.isSymbol (h : Separates c) : IsSymbol c ∧ (c == '*') = false := by
  rcases h with rfl | ⟨kind, hlink⟩
  · decide
  · exact hlink.isSymbol

theorem Separates.not_node (h : Separates c) :
    (some (ofSymbol c 0).kind).any (·.isNode) = false := by
  rcases h with rfl | ⟨kind, hlink⟩
  · rfl
  · rw [(hlink.token 0).1]
    rfl

theorem Separates.ends (h : Separates c) : Ends (c :: cs) := by
  refine ends_cons ?_
  rcases h with rfl | ⟨kind, hlink⟩
  · decide
  · cases hlink <;> decide

theorem ends_blanks (hne : ws ≠ []) (hws : Blanks ws) : Ends (ws ++ cs) := by
  obtain ⟨c, ws, rfl⟩ := List.exists_cons_of_ne_nil hne
  exact ends_of_isBlank (hws c List.mem_cons_self) _

theorem scannedAlike_run (hne : ws ≠ []) (hws : Blanks ws) (hne' : ws' ≠ []) (hws' : Blanks ws') :
    ScannedAlike (ws ++ ds) (ws' ++ ds) := by
  intro source source' position position' blanks before
  rw [scan_blanks hws, scan_blanks hws', show (!ws.isEmpty) = true by simp [hne],
    show (!ws'.isEmpty) = true by simp [hne']]
  exact ScannedAlike.refl ds _ _ _ _ _ _

theorem scannedAlike_before (hc : Separates c ∨ c = '/') (hws : Blanks ws) :
    ScannedAlike (c :: ds) (ws ++ c :: ds) := by
  have hplain : (c == '*') = false ∧ isLetter c = false := by
    rcases hc with hc | rfl
    · exact ⟨hc.isSymbol.2, hc.isSymbol.1.2.1⟩
    · decide
  intro source source' position position' blanks before
  rw [scan_blanks hws, scan_before hplain.1 hplain.2 (blanks || !ws.isEmpty)]
  exact ScannedAlike.refl (c :: ds) _ _ _ _ _ _

theorem scannedAlike_behind (hc : Separates c) (hws : Blanks ws) :
    ScannedAlike (c :: ds) (c :: (ws ++ ds)) := by
  intro source source' position position' blanks before
  -- A symbol is no node, so the blanks behind it are not even noticed.
  have hbehind := @scan_behind source' (position' + 1 + ws.length) false
    (some (ofSymbol c position').kind) ds hc.not_node (false || !ws.isEmpty)
  have hrest := ScannedAlike.refl ds source source' (position + 1) (position' + 1 + ws.length) false
    (some (ofSymbol c 0).kind)
  rw [scan_symbol hc.isSymbol.1, scan_symbol hc.isSymbol.1, unplacedTokens_map, unplacedTokens_map,
    unplaced_descendant, unplaced_descendant, scan_blanks hws, ← hbehind]
  exact congrArg (Option.map (descendant blanks before c 0 ++ ofSymbol c 0 :: ·)) hrest

theorem scannedAlike_back (hws : Blanks ws) : ScannedAlike [] ws := by
  intro source source' position position' blanks before
  rw [← List.append_nil ws, scan_blanks hws, scanFrom, scanFrom]
  rfl

theorem scan_front (source source' : String) (position position' : Nat) (hws : Blanks ws)
    (cs : List Char) :
    unplacedTokens (scanFrom source position false none (ws ++ cs)) =
      unplacedTokens (scanFrom source' position' false none cs) := by
  rw [scan_blanks hws, scan_behind rfl false]
  exact ScannedAlike.refl cs _ _ _ _ _ _

/-- The same tokens are made before and after a change. -/
theorem scan_respace (h : Respace cs ds) (source source' : String) :
    unplacedTokens (scanFrom source 0 false none cs) =
      unplacedTokens (scanFrom source' 0 false none ds) := by
  cases h with
  | run hcs hne hws hne' hws' =>
      exact (scannedAlike_run hne hws hne' hws').append (ends_blanks hne hws)
        (ends_blanks hne' hws') _ (.inl hcs) _ _ _ _ _ _
  | @before cs ds ws c hcs hc hws =>
      have hends : Ends (c :: ds) := by
        rcases hc with hc | rfl
        · exact hc.ends
        · exact ends_cons (by decide)
      exact (scannedAlike_before hc hws).append hends (ends_blanks_append hws hends) _ (.inl hcs)
        _ _ _ _ _ _
  | behind hcs hc hws =>
      exact (scannedAlike_behind hc hws).append hc.ends hc.ends _ (.inl hcs) _ _ _ _ _ _
  | front hws => exact (scan_front source' source 0 0 hws cs).symm
  | @back _ ws hws =>
      have hnil : Ends [] := by simp [Ends]
      have hends : Ends ws := by simpa using ends_blanks_append hws hnil
      have hback := (scannedAlike_back hws).append hnil hends cs
        (.inr ⟨by simp, not_mem_blanks hws⟩)
      rw [List.append_nil] at hback
      exact hback _ _ _ _ _ _

/-! ### What is read -/

section Reading

variable [CharacterNames]

/-- Read a selector without taking the blanks at the ends away first. -/
def parseUnstripped (text : String) : Except Fault Selector :=
  match Token.scan text with
  | .error fault => .error (.selector fault)
  | .ok tokens => parseTokens tokens

/-- What comes of tokens without their places, or of none. -/
def readUnplaced : Option (List Token) → Except (Option Fault) Selector
  | none => .error none
  | some tokens => blurred (parseTokens tokens)

theorem blurred_parseUnstripped (text : String) :
    blurred (parseUnstripped text) = readUnplaced (unplacedTokens (Token.scan text)) := by
  unfold parseUnstripped
  cases Token.scan text with
  | error fault => rfl
  | ok tokens => exact (blurred_parseTokens tokens).symm

/-- Blanks at the ends of a text are not noticed, so taking them away is not either. -/
theorem blurred_parse (text : String) : blurred (parse text) = blurred (parseUnstripped text) := by
  obtain ⟨front, back, htext, hfront, hback⟩ := eq_of_stripChars text.toList
  have hscan : unplacedTokens (Token.scan text) = unplacedTokens (Token.scan (strip text)) := by
    rw [Token.scan, htext, List.append_assoc, scan_front text "" 0 0 hfront, Token.scan, strip,
      String.toList_ofList]
    exact (scan_respace (.back hback) _ _).symm
  have hstrip : blurred (parse text) = blurred (parseUnstripped (strip text)) := by
    unfold parse
    dsimp only
    split
    · next hempty =>
        -- There is only the end to read, where a node should be.
        have hnone : Token.scan "" = .ok [⟨.finish, none, 0, ""⟩] := by
          rw [Token.scan, String.toList_empty, scanFrom]
        rw [String.isEmpty_iff.mp hempty, parseUnstripped, hnone]
        rfl
    · rfl
  rw [hstrip, blurred_parseUnstripped, blurred_parseUnstripped, hscan]

/-- Both give the same selector, or neither of the texts is one. The texts are refused alike
also where a pattern cannot be compiled although nothing is wrong with it. -/
inductive Agree : Except Fault Selector → Except Fault Selector → Prop
  | read (s : Selector) : Agree (.ok s) (.ok s)
  | refused (error error' : SelectorError) :
      Agree (.error (.selector error)) (.error (.selector error'))
  | limit {source : String} {ignoreCase : Bool} {limit : Regex.Error}
      (hcompile : Regex.compile source ignoreCase = .error limit)
      (hlimit : ∀ problem position, limit ≠ .malformed problem position) :
      Agree (.error (.regexLimit limit)) (.error (.regexLimit limit))

theorem agree_of_blurred {text : String} {result : Except Fault Selector}
    (h : blurred (parse text) = blurred result) : Agree (parse text) result := by
  cases hparse : parse text with
  | ok s =>
      rw [hparse] at h
      cases result with
      | ok s' =>
          obtain rfl := Except.ok.inj h
          exact .read s
      | error fault => contradiction
  | error fault =>
      rw [hparse] at h
      cases result with
      | ok s => contradiction
      | error fault' =>
          have hblurred : fault.blurred = fault'.blurred := Except.error.inj h
          rcases refusal_of_parse hparse with ⟨error, rfl⟩ | ⟨_, _, limit, rfl, hcompile, hlimit, -⟩
          · obtain ⟨error', rfl⟩ := Fault.of_blurred_none hblurred.symm
            exact .refused error error'
          · obtain rfl := Fault.of_blurred_some hblurred.symm
            exact .limit hcompile hlimit

/-- Texts that differ by changes of blanks are read alike. -/
theorem blurred_respaced (h : Respaced cs ds) :
    blurred (parse (String.ofList cs)) = blurred (parse (String.ofList ds)) := by
  induction h with
  | rel cs ds hstep =>
      have hscan := scan_respace hstep (String.ofList cs) (String.ofList ds)
      rw [blurred_parse, blurred_parse, blurred_parseUnstripped, blurred_parseUnstripped,
        Token.scan, Token.scan, String.toList_ofList, String.toList_ofList, hscan]
  | refl => rfl
  | symm _ _ _ ih => exact ih.symm
  | trans _ _ _ _ _ ih ih' => exact ih.trans ih'

end Reading

/-! ### What is shown -/

/-- The characters that are no blanks. -/
def inked (cs : List Char) : List Char := cs.filter (!isBlank ·)

theorem inked_append (cs ds : List Char) : inked (cs ++ ds) = inked cs ++ inked ds :=
  List.filter_append _ _

theorem inked_blanks (hws : Blanks ws) : inked ws = [] :=
  List.filter_eq_nil_iff.mpr fun c hc => by simp [hws c hc]

theorem inked_cons (hc : isBlank c = false) (cs : List Char) :
    inked (c :: cs) = c :: inked cs := by
  simp [inked, hc]

variable {s first : Selector} {more : List Selector}

theorem NodeText.inked_eq (h : NodeText cs s) (h' : NodeText ds s) : inked cs = inked ds := by
  cases h <;> cases h' <;> rfl

theorem inked_symbol {kind : Combinator} (h : LinkSymbol c kind) (hws : Blanks ws)
    (hws' : Blanks ws') : inked (ws ++ c :: ws') = [c] := by
  rw [inked_append, inked_blanks hws, inked_cons h.isSymbol.1.1, inked_blanks hws']
  rfl

theorem LinkText.inked_eq {kind : Combinator} (h : LinkText cs kind) (h' : LinkText ds kind) :
    inked cs = inked ds := by
  cases h with
  | blanks _ hws =>
      cases h' with
      | blanks _ hws' => rw [inked_blanks hws, inked_blanks hws']
      | symbol hc => cases hc
  | symbol hc hbefore hbehind =>
      cases h' with
      | blanks => cases hc
      | symbol hc' hbefore' hbehind' =>
          rw [inked_symbol hc hbefore hbehind, inked_symbol hc' hbefore' hbehind']
          -- Each combinator has one symbol.
          cases hc <;> cases hc' <;> rfl

theorem ChainText.inked_eq (h : ChainText cs s) (h' : ChainText ds s) : inked cs = inked ds := by
  induction h generalizing ds with
  | node h =>
      cases h' with
      | node h' => exact h.inked_eq h'
      | comb => cases h
  | comb hleft hlink hright ih =>
      cases h' with
      | node h' => cases h'
      | comb hleft' hlink' hright' =>
          simp only [inked_append, ih hleft', hlink.inked_eq hlink', hright.inked_eq hright']

section Names

variable [CharacterNames]

theorem TreeText.inked_eq (h : TreeText cs s) (h' : TreeText ds s) : inked cs = inked ds := by
  cases h with
  | chain h =>
      cases h' with
      | chain h' => exact h.inked_eq h'
      | filtered => cases h with | node h => cases h
  | filtered h hws =>
      cases h' with
      | chain h' => cases h' with | node h' => cases h'
      | filtered h' hws' =>
          simp only [inked_append, h.inked_eq h', inked_blanks hws, inked_blanks hws']

theorem TreesText.inked_eq (h : TreesText cs first more) (h' : TreesText ds first more) :
    inked cs = inked ds := by
  induction h generalizing ds with
  | one h =>
      cases h' with
      | one h' => exact h.inked_eq h'
  | more h hws hws' hrest ih =>
      cases h' with
      | more h' hvs hvs' hrest' =>
          have hcomma : isBlank ',' = false := by decide
          simp only [inked_append, inked_cons hcomma, h.inked_eq h', inked_blanks hws,
            inked_blanks hws', inked_blanks hvs, inked_blanks hvs', ih hrest']

theorem not_treeText_list {alternatives : List Selector} : ¬ TreeText cs (.list alternatives) := by
  rintro (⟨⟨⟨⟩⟩⟩)

/-- All texts that stand for a selector have the same characters, up to blanks. -/
theorem Denotes.inked_eq {text text' : String} (h : Denotes text s) (h' : Denotes text' s) :
    inked text.toList = inked text'.toList := by
  obtain ⟨front, core, back, htext, hfront, hback, hcore⟩ := h
  obtain ⟨front', core', back', htext', hfront', hback', hcore'⟩ := h'
  have heq : inked core = inked core' := by
    cases hcore with
    | tree h =>
        cases hcore' with
        | tree h' => exact h.inked_eq h'
        | list => cases h with | one h => exact absurd h not_treeText_list
    | list h =>
        cases hcore' with
        | tree h' => cases h' with | one h' => exact absurd h' not_treeText_list
        | list h' => exact h.inked_eq h'
  simp only [htext, htext', inked_append, heq, inked_blanks hfront, inked_blanks hback,
    inked_blanks hfront', inked_blanks hback']

/-- **Blanks matter only as the descendant combinator.** A selector that is read shows as a text
with the same characters, up to blanks. Texts that differ by changes of blanks stand for the same
selector, or are refused alike, and so it makes no difference that the blanks at the ends of a
text are taken away first. -/
theorem parse_respaced :
    (∀ text s, parse text = .ok s → ∃ shown, s.format = .ok shown ∧
      inked shown.toList = inked text.toList) ∧
    (∀ text text' : String, Respaced text.toList text'.toList →
      Agree (parse text) (parse text')) ∧
    ∀ text, Agree (parse text) (parseUnstripped text) := by
  refine ⟨?_, ?_, fun text => agree_of_blurred (blurred_parse text)⟩
  · intro text s hparse
    obtain ⟨shown, hshown, hdenotes⟩ := denotes_format (parse_written hparse)
    exact ⟨shown, hshown, hdenotes.inked_eq (denotes_of_parse hparse)⟩
  · intro text text' h
    have hblurred := blurred_respaced h
    rw [String.ofList_toList, String.ofList_toList] at hblurred
    exact agree_of_blurred hblurred

end Names

/-- A node right under another one, written with and without blanks. -/
theorem parse_respaced_inner : parse "* > *" = .ok (.comb .parent .any .any) ∧
    (∃ shown, (Selector.comb .parent .any .any).format = .ok shown ∧
      inked shown.toList = inked "* > *".toList) ∧
    Respaced "*>*".toList "* > *".toList ∧ Agree (parse "*>*") (parse "* > *") := by
  obtain ⟨hshow, hagree, -⟩ := parse_respaced
  have hwritten : (Selector.comb .parent .any .any).Written := by
    simp [Written, IsTree, IsChain, IsNode, Combinator.IsKnown]
  have hparse : parse "* > *" = .ok (.comb .parent .any .any) := by
    obtain ⟨text, hformat, hparse⟩ := parse_format hwritten
    obtain rfl : "* > *" = text := Except.ok.inj hformat
    exact hparse
  have hseparates : Separates '>' := .inr ⟨.parent, .parent⟩
  have hstar : Outside ['*'] := .plain (by decide) .nil
  have hblank : Outside ['*', ' '] := .plain (by decide) (.plain (by decide) .nil)
  have hrespaced : Respaced ['*', '>', '*'] ['*', ' ', '>', ' ', '*'] :=
    .trans _ ['*', ' ', '>', '*'] _
      (.rel _ _ (@Respace.before ['*'] ['*'] [' '] '>' hstar (.inl hseparates) blanks_space))
      (.rel _ _ (@Respace.behind ['*', ' '] ['*'] [' '] '>' hblank hseparates blanks_space))
  exact ⟨hparse, hshow _ _ hparse, hrespaced, hagree _ _ hrespaced⟩

end Selector

end DocLint
