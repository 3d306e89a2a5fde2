import DocLint.Proofs.Regex.Brackets
import DocLint.Proofs.Rule.Attach

/-!
# DocLint.Proofs.Rule.Delimit

**Where an expression ends.** An expression may have slashes of its own, behind a backslash or
in a set of characters. The pattern of a rule is cut at its last slash and keeps all of them.
The scanner of selectors keeps track of brackets instead, and for it every closing bracket
closes, also one that is the first member of a set.

`scan_delimited` says for which expressions this makes no difference: the slashes of a set that
begins with a closing bracket have to stand behind another opening one, and no bracket outside of
the sets, as in a comment, may be left open. The expression is given as the reader of expressions
divides it, into sets (`Regex.Brackets`) and the pieces between them.
-/

namespace DocLint

open Token

namespace Regex

/-! ### Expressions in parts -/

/-- A part of an expression: a set, or a piece outside of the sets. -/
inductive Part
  | outside (p : Piece)
  | set (b : Brackets)

namespace Part

/-- The pieces of a part. -/
def pieces : Part → List Piece
  | .outside p => [p]
  | .set b => b.opening :: b.behind

end Part

/-- Is the scanner inside brackets behind a piece? -/
def Piece.bracketsAfter (inBrackets : Bool) (p : Piece) : Bool :=
  if p.escaped then inBrackets else Token.bracketsAfter inBrackets p.char

/-- Is the scanner inside brackets behind all of the parts, if it stops at none of their slashes? -/
def leftOpen (parts : List Part) : Bool :=
  (parts.flatMap Part.pieces).foldl Piece.bracketsAfter false

/-- The scanner keeps the slashes of the set. If a closing bracket comes first, it is outside of
brackets up to the next opening one. -/
def Brackets.Kept (b : Brackets) : Prop :=
  b.first.is ']' = true → ∀ p ∈ b.others.takeWhile (fun p => !p.is '['), p.is '/' = false

variable {p : Piece} {ps more : List Piece} {inBrackets : Bool}

/-! ### Pieces as the scanner sees them -/

/-- A backslash is part of a piece, with the character behind it. -/
def Piece.Written (p : Piece) : Prop := p.escaped = false → p.char ≠ '\\'

theorem Piece.written_scan (position : Nat) (cs : List Char) :
    ∀ p ∈ (Piece.scan position cs).1, p.Written := by
  fun_induction Piece.scan position cs with
  | case1 => simp
  | case2 => simp
  | case3 position c rest pieces broken e ih =>
      rw [e] at ih
      refine List.forall_mem_cons.mpr ⟨?_, ih⟩
      intro hplain
      cases hplain
  | case4 position c rest hlone hpair pieces broken e ih =>
      rw [e] at ih
      refine List.forall_mem_cons.mpr ⟨?_, ih⟩
      intro _ hc
      cases rest with
      | nil => exact hlone hc rfl
      | cons d rest => exact hpair d rest hc rfl

/-- The scanner meets no slash outside of brackets. -/
def KeptFrom : Bool → List Piece → Prop
  | _, [] => True
  | inBrackets, p :: rest =>
    (p.is '/' = true → inBrackets = true) ∧ KeptFrom (p.bracketsAfter inBrackets) rest

theorem keptFrom_append : KeptFrom inBrackets (ps ++ more) ↔
    KeptFrom inBrackets ps ∧ KeptFrom (ps.foldl Piece.bracketsAfter inBrackets) more := by
  induction ps generalizing inBrackets with
  | nil => simp [KeptFrom]
  | cons p rest ih => simp [KeptFrom, ih, and_assoc]

theorem patternBody_piece (hp : p.Written) (rest : List Char) :
    patternBody inBrackets (p.chars ++ rest) =
      if p.is '/' && !inBrackets then some ([], rest)
      else (patternBody (p.bracketsAfter inBrackets) rest).map fun q => (p.chars ++ q.1, q.2) := by
  obtain ⟨position, escaped, c⟩ := p
  cases escaped with
  | true => exact patternBody_escape inBrackets c rest
  | false => exact patternBody_cons inBrackets rest (hp rfl)

/-- The scanner reads up to the slash behind the pieces, if it meets none before and is not inside
brackets there. -/
theorem patternBody_pieces (hps : ∀ p ∈ ps, p.Written) :
    patternBody inBrackets (ps.flatMap Piece.chars ++ ['/']) =
        some (ps.flatMap Piece.chars, []) ↔
      KeptFrom inBrackets ps ∧ ps.foldl Piece.bracketsAfter inBrackets = false := by
  induction ps generalizing inBrackets with
  | nil =>
      cases inBrackets with
      | false => exact ⟨fun _ => ⟨trivial, rfl⟩, fun _ => rfl⟩
      | true => exact ⟨nofun, fun h => nomatch h.2⟩
  | cons p rest ih =>
      obtain ⟨hp, hrest⟩ := List.forall_mem_cons.mp hps
      rw [List.flatMap_cons, List.append_assoc, patternBody_piece hp, List.foldl_cons, KeptFrom,
        and_assoc, ← ih hrest]
      cases hstop : p.is '/' && !inBrackets with
      | true =>
          obtain ⟨hslash, hout⟩ : p.is '/' = true ∧ inBrackets = false := by simpa using hstop
          have hsome : p.chars ≠ [] := by
            rw [← List.length_pos_iff, Piece.length_chars, Piece.size]
            split <;> omega
          simp [hslash, hout, hsome]
      | false =>
          have hkept : p.is '/' = true → inBrackets = true := by
            intro hslash
            simpa [hslash] using hstop
          rw [if_neg Bool.false_ne_true, and_iff_right hkept]
          constructor
          · intro h
            obtain ⟨q, hq, heq⟩ := Option.map_eq_some_iff.mp h
            obtain ⟨hbody, hbehind⟩ := Prod.mk.inj heq
            rw [hq, ← List.append_cancel_left hbody, ← hbehind]
          · intro h
            rw [h]
            rfl

/-! ### Sets as the scanner sees them -/

theorem bracketsAfter_opening (h : p.is '[' = true) : p.bracketsAfter inBrackets = true := by
  obtain ⟨hplain, hchar⟩ := Bool.and_eq_true_iff.mp h
  rw [Piece.bracketsAfter, if_neg (by simpa using hplain), Token.bracketsAfter, if_pos hchar]

theorem bracketsAfter_closing (h : p.is ']' = true) : p.bracketsAfter inBrackets = false := by
  obtain ⟨hplain, hchar⟩ := Bool.and_eq_true_iff.mp h
  rw [Piece.bracketsAfter, if_neg (by simpa using hplain), Token.bracketsAfter,
    eq_of_beq hchar]
  rfl

theorem bracketsAfter_other (hopening : p.is '[' = false) (hclosing : p.is ']' = false) :
    p.bracketsAfter inBrackets = inBrackets := by
  rw [Piece.bracketsAfter]
  split
  · rfl
  · next hplain =>
      rw [Token.bracketsAfter, if_neg (by simpa [Piece.is, hplain] using hopening),
        if_neg (by simpa [Piece.is, hplain] using hclosing)]

theorem bracketsAfter_inside (hclosing : p.is ']' = false) : p.bracketsAfter true = true := by
  cases hopening : p.is '[' with
  | true => exact bracketsAfter_opening hopening
  | false => exact bracketsAfter_other hopening hclosing

/-- Inside brackets the scanner stops at nothing before a closing bracket. -/
theorem keptFrom_inside (hps : ∀ p ∈ ps, p.is ']' = false) : KeptFrom true ps := by
  induction ps with
  | nil => trivial
  | cons p rest ih =>
      obtain ⟨hp, hrest⟩ := List.forall_mem_cons.mp hps
      rw [KeptFrom, bracketsAfter_inside hp]
      exact ⟨fun _ => rfl, ih hrest⟩

/-- Outside of brackets it stops at the first slash, if no opening bracket comes before. -/
theorem keptFrom_outside (hps : ∀ p ∈ ps, p.is ']' = false) :
    KeptFrom false ps ↔ ∀ p ∈ ps.takeWhile (fun p => !p.is '['), p.is '/' = false := by
  induction ps with
  | nil => simp [KeptFrom]
  | cons p rest ih =>
      obtain ⟨hp, hrest⟩ := List.forall_mem_cons.mp hps
      cases hopening : p.is '[' with
      | true =>
          have hslash : p.is '/' = false := Piece.is_ne hopening (by decide)
          have hinside : KeptFrom (p.bracketsAfter false) rest := by
            rw [bracketsAfter_opening hopening]
            exact keptFrom_inside hrest
          simp [KeptFrom, hopening, hslash, hinside]
      | false =>
          rw [KeptFrom, bracketsAfter_other hopening hp, ih hrest]
          simp [hopening]

theorem Brackets.keptFrom (b : Brackets) : KeptFrom inBrackets (Part.set b).pieces ↔ b.Kept := by
  have hopening : b.opening.is '/' = false := Piece.is_ne b.opens (by decide)
  have hclosing : b.closing.is '/' = false := Piece.is_ne b.closes (by decide)
  have hcaret : KeptFrom true b.caret.toList ∧
      b.caret.toList.foldl Piece.bracketsAfter true = true := by
    cases hcaret : b.caret with
    | none => exact ⟨trivial, rfl⟩
    | some p =>
        have hp : p.is '^' = true := b.negates p hcaret
        refine ⟨⟨fun _ => rfl, trivial⟩, ?_⟩
        exact bracketsAfter_other (Piece.is_ne hp (by decide)) (Piece.is_ne hp (by decide))
  have hmembers : KeptFrom (b.first.bracketsAfter true) b.others ↔ b.Kept := by
    cases hfirst : b.first.is ']' with
    | true =>
        rw [bracketsAfter_closing hfirst, keptFrom_outside b.others_ne, Kept]
        exact (imp_iff_right hfirst).symm
    | false =>
        rw [bracketsAfter_inside hfirst]
        refine iff_of_true (keptFrom_inside b.others_ne) ?_
        exact fun h => absurd (hfirst.symm.trans h) Bool.false_ne_true
  rw [Part.pieces, Brackets.behind, KeptFrom, bracketsAfter_opening b.opens, keptFrom_append,
    hcaret.2, KeptFrom, keptFrom_append, hmembers]
  simp [hopening, hclosing, hcaret.1, KeptFrom]

theorem keptFrom_parts {parts : List Part}
    (hslash : ∀ p, .outside p ∈ parts → p.is '/' = false) :
    KeptFrom inBrackets (parts.flatMap Part.pieces) ↔ ∀ b, .set b ∈ parts → b.Kept := by
  induction parts generalizing inBrackets with
  | nil => simp [KeptFrom]
  | cons part rest ih =>
      rw [List.flatMap_cons, keptFrom_append, ih fun p hp => hslash p (List.mem_cons_of_mem part hp)]
      cases part with
      | outside p =>
          have hp : p.is '/' = false := hslash p List.mem_cons_self
          simp [Part.pieces, KeptFrom, hp]
      | set b =>
          rw [b.keptFrom]
          simp

end Regex

open Regex

/-- An expression is one token exactly where the scanner reads it as a pattern. -/
theorem scan_slashed_iff (body : String) :
    Token.scan (slashed body "") =
        .ok [⟨.pattern, some body, 0, ""⟩, ⟨.finish, none, body.length + 2, ""⟩] ↔
      IsPatternSource body := by
  constructor
  · intro h
    exact pattern_of_scan (.inl rfl) h rfl
  · intro h
    have hends : Ends [] := nofun
    rw [Token.scan, toList_slashed, ← List.append_nil "".toList,
      scan_pattern h (.inl rfl) hends, scanFrom]
    simp [Except.map, String.length_toList, Nat.add_comm]

/-- **Where an expression ends.** Let an expression be cut into parts, as it is read, with all of
its slashes behind a backslash or in a set. Between slashes it is one token exactly if the scanner
keeps the slashes of every set and is not left in brackets. -/
theorem scan_delimited {body : String} {parts : List Part}
    (hcut : Piece.scan 0 body.toList = (parts.flatMap Part.pieces, false))
    (hslash : ∀ p, .outside p ∈ parts → p.is '/' = false) :
    Token.scan (slashed body "") =
        .ok [⟨.pattern, some body, 0, ""⟩, ⟨.finish, none, body.length + 2, ""⟩] ↔
      (∀ b, .set b ∈ parts → b.Kept) ∧ leftOpen parts = false := by
  have htext : (parts.flatMap Part.pieces).flatMap Piece.chars = body.toList := by
    have hwhole := Piece.flatMap_chars_scan 0 body.toList
    rw [hcut] at hwhole
    simpa using hwhole
  have hwritten : ∀ p ∈ parts.flatMap Part.pieces, p.Written := by
    have hall := Piece.written_scan 0 body.toList
    rwa [hcut] at hall
  rw [scan_slashed_iff, IsPatternSource, ← htext, patternBody_pieces hwritten,
    keptFrom_parts hslash]
  rfl

/-- A set of a slash. -/
def slashSet : Brackets where
  opening := ⟨1, false, '['⟩
  caret := none
  first := ⟨2, false, '/'⟩
  others := []
  closing := ⟨3, false, ']'⟩
  opens := by decide
  negates := nofun
  first_ne := fun _ => by decide
  others_ne := nofun
  closes := by decide

/-- A letter, a slash in a set and a slash behind a backslash. -/
def twoSlashes : List Part := [.outside ⟨0, false, 'a'⟩, .set slashSet, .outside ⟨4, true, '/'⟩]

/-- Both slashes are kept. -/
theorem scan_delimited_twoSlashes :
    (Piece.scan 0 "a[/]\\/".toList = (twoSlashes.flatMap Part.pieces, false) ∧
      ∀ p, .outside p ∈ twoSlashes → p.is '/' = false) ∧
    Token.scan (slashed "a[/]\\/" "") =
      .ok [⟨.pattern, some "a[/]\\/", 0, ""⟩, ⟨.finish, none, 8, ""⟩] := by
  have hcut : Piece.scan 0 "a[/]\\/".toList = (twoSlashes.flatMap Part.pieces, false) := by decide
  have hslash : ∀ p, .outside p ∈ twoSlashes → p.is '/' = false := by
    intro p hp
    have hp : p = ⟨0, false, 'a'⟩ ∨ p = ⟨4, true, '/'⟩ := by simpa [twoSlashes] using hp
    rcases hp with rfl | rfl <;> decide
  have hkept : ∀ b, .set b ∈ twoSlashes → b.Kept := by
    intro b hb hfirst
    obtain rfl : b = slashSet := by simpa [twoSlashes] using hb
    exact absurd hfirst (by decide)
  exact ⟨⟨hcut, hslash⟩, (scan_delimited hcut hslash).mpr ⟨hkept, by decide⟩⟩

/-- A set of a closing bracket and a slash. -/
def closingFirst : Brackets where
  opening := ⟨0, false, '['⟩
  caret := none
  first := ⟨1, false, ']'⟩
  others := [⟨2, false, '/'⟩]
  closing := ⟨3, false, ']'⟩
  opens := by decide
  negates := nofun
  first_ne := fun _ => by decide
  others_ne := by decide
  closes := by decide

/-- The scanner stops at the slash of a set that begins with a closing bracket, although the set
goes on. The pattern of a rule is read to its end. -/
theorem scan_closingFirst :
    Piece.scan 0 "[]/]".toList = ((Part.set closingFirst).pieces, false) ∧
    Token.scan (slashed "[]/]" "") = .error (.unterminatedPattern 5 "/[]/]/") ∧
    ∃ regex, Regex.compile "[]/]" false = .ok regex ∧
      Pattern.ofTree? (.str (slashed "[]/]" "")) = .ok (some (.regex regex)) := by
  have hcompiles : (Regex.compile "[]/]" false).isOk = true := by decide +kernel
  obtain ⟨regex, hregex⟩ : ∃ regex, Regex.compile "[]/]" false = .ok regex := by
    cases h : Regex.compile "[]/]" false with
    | error fault => simp [h, Except.isOk, Except.toBool] at hcompiles
    | ok regex => exact ⟨regex, rfl⟩
  refine ⟨by decide, by decide +kernel, regex, hregex, ?_⟩
  rw [ofTree?_slashed (.inl rfl), show ("" == "i") = false from rfl, hregex]

end DocLint
