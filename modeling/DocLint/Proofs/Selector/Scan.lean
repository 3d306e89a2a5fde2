import DocLint.Proofs.Selector.Shape

/-!
# DocLint.Proofs.Selector.Scan

**What the scanner makes of the parts of a selector**, wherever they stand: a blank,
a symbol, a name, a pattern. What stands behind a part only has to keep a name from
going on (`Ends`).

The classes of characters overlap less than their tables show: no blank is a letter,
a digit or a numeric (`isBlank_of_isAlnum`), which is why a text can be cut into parts
at all.
-/

namespace DocLint

namespace Text

/-- A code point of a class lies in one of its ranges. -/
theorem CodeRanges.mem_of_has : ∀ {ranges : CodeRanges} {n : Nat}, ranges.has n = true →
    ∃ r ∈ ranges, r.1 ≤ n ∧ n ≤ r.2
  | (first, last) :: rest, n, h => by
      rw [has] at h
      split at h
      · contradiction
      · next hfirst =>
          split at h
          · next hlast => exact ⟨_, List.mem_cons_self, by omega, hlast⟩
          · obtain ⟨r, hr, hn⟩ := mem_of_has h
            exact ⟨r, List.mem_cons_of_mem _ hr, hn⟩

/-- No blank is a letter, a digit or a numeric. -/
theorem isBlank_of_isAlnum {c : Char} (h : isAlnum c = true) : isBlank c = false := by
  -- There are only a few blanks, so each one is looked up in the three tables.
  have hblanks : ∀ r ∈ blankRanges, ∀ k ∈ List.range (r.2 - r.1 + 1),
      letterRanges.has (r.1 + k) = false ∧ digitRanges.has (r.1 + k) = false ∧
        numericRanges.has (r.1 + k) = false := by decide +kernel
  refine Bool.eq_false_iff.mpr ?_
  intro hblank
  obtain ⟨r, hr, hfirst, hlast⟩ := CodeRanges.mem_of_has hblank
  have hnone := hblanks r hr (c.toNat - r.1) (by simp; omega)
  rw [Nat.add_sub_cancel' hfirst] at hnone
  simp [isAlnum, isLetter, isDigit, isNumeric, hnone] at h

end Text

namespace Token

open Text

theorem isBlank_of_isNameChar {c : Char} (h : isNameChar c = true) : isBlank c = false := by
  rcases Bool.or_eq_true_iff.mp h with h | h
  · exact isBlank_of_isAlnum h
  · rw [eq_of_beq h]
    decide

theorem isNameChar_of_isLetter {c : Char} (h : isLetter c = true) : isNameChar c = true := by
  rw [isNameChar, isAlnum_of_isLetter h]
  rfl

theorem isNameChar_of_isAlnum {c : Char} (h : isAlnum c = true) : isNameChar c = true := by
  rw [isNameChar, h]
  rfl

theorem isNameChar_of_isDigit {c : Char} (h : isDigit c = true) : isNameChar c = true := by
  simp [isNameChar, isAlnum, h]

theorem isAlnum_of_isFlags {flags : String} (h : IsFlags flags) :
    ∀ c ∈ flags.toList, isAlnum c = true := by
  rcases h with rfl | rfl
  · simp
  · intro c hc
    obtain rfl : c = 'i' := List.mem_singleton.mp hc
    decide

/-- No name goes on here. -/
def Ends (cs : List Char) : Prop := ∀ c ∈ cs.head?, isNameChar c = false

theorem ends_cons {c : Char} {cs : List Char} (h : isNameChar c = false) : Ends (c :: cs) := by
  intro d hd
  obtain rfl : c = d := Option.some.inj hd
  exact h

/-- A run of characters ends before the first one that does not go on with it. -/
theorem cut_of_head {p : Char → Bool} {run tail : List Char} (hrun : ∀ c ∈ run, p c = true)
    (htail : ∀ c ∈ tail.head?, p c = false) :
    (run ++ tail).takeWhile p = run ∧ (run ++ tail).dropWhile p = tail := by
  rw [List.takeWhile_append_of_pos hrun, List.dropWhile_append_of_pos hrun]
  cases tail with
  | nil => simp
  | cons c tail => simp [htail c rfl]

theorem not_of_head?_dropWhile (p : Char → Bool) (cs : List Char) :
    ∀ c ∈ (cs.dropWhile p).head?, p c = false := by
  intro c hc
  have hhead := List.head?_dropWhile_not p cs
  rwa [hc] at hhead

/-- What ends names ends all runs of such characters. -/
theorem cut_of_ends {p : Char → Bool} {run tail : List Char} (hrun : ∀ c ∈ run, p c = true)
    (hp : ∀ c, p c = true → isNameChar c = true) (htail : Ends tail) :
    (run ++ tail).takeWhile p = run ∧ (run ++ tail).dropWhile p = tail := by
  refine cut_of_head hrun ?_
  intro c hc
  refine Bool.eq_false_iff.mpr ?_
  intro hpc
  exact absurd ((hp c hpc).symm.trans (htail c hc)) (by decide)

/-! ### The parts of a selector -/

variable {source : String} {position : Nat} {blanks : Bool} {before : Option TokenKind}
  {tail : List Char}

/-- A gap is seen in front of every node in the same way. -/
theorem descendant_letter {c : Char} (hc : isLetter c = true) :
    descendant blanks before c position = descendant blanks before '*' position := by
  simp [descendant, hc]

theorem descendant_of_not_node {c : Char} (h : before.any (·.isNode) = false) :
    descendant blanks before c position = [] := by
  simp [descendant, h]

theorem scan_blank {c : Char} (hc : isBlank c = true) :
    scanFrom source position blanks before (c :: tail) =
      scanFrom source (position + 1) true before tail := by
  rw [scanFrom, if_pos hc]

theorem scan_name {c : Char} {rest : List Char} (hc : isLetter c = true)
    (hrest : ∀ d ∈ rest, isNameChar d = true) (htail : Ends tail) :
    scanFrom source position blanks before (c :: rest ++ tail) =
      (scanFrom source (position + (c :: rest).length) false (some .ident) tail).map
        (descendant blanks before '*' position ++
          ⟨.ident, some (String.ofList (c :: rest)), position, ""⟩ :: ·) := by
  have hblank : isBlank c = false := isBlank_of_isNameChar (isNameChar_of_isLetter hc)
  obtain ⟨htake, hdrop⟩ := cut_of_ends hrest (fun _ h => h) htail
  rw [List.cons_append, scanFrom, if_neg (by simp [hblank]), if_pos hc]
  dsimp only
  rw [htake, hdrop, descendant_letter hc]

/-- The characters that stand for themselves. -/
def IsSymbol (c : Char) : Prop :=
  isBlank c = false ∧ isLetter c = false ∧ isDigit c = false ∧ (c == '/') = false

instance : DecidablePred IsSymbol := fun c =>
  inferInstanceAs (Decidable
    (isBlank c = false ∧ isLetter c = false ∧ isDigit c = false ∧ (c == '/') = false))

theorem scan_symbol {c : Char} (hc : IsSymbol c) :
    scanFrom source position blanks before (c :: tail) =
      (scanFrom source (position + 1) false (some (ofSymbol c position).kind) tail).map
        (descendant blanks before c position ++ ofSymbol c position :: ·) := by
  obtain ⟨hblank, hletter, hdigit, hslash⟩ := hc
  rw [scanFrom, if_neg (by simp [hblank]), if_neg (by simp [hletter]), if_neg (by simp [hdigit]),
    if_neg (by simp [hslash])]

theorem scan_pattern {body flags : String} (hbody : IsPatternSource body) (hflags : IsFlags flags)
    (htail : Ends tail) :
    scanFrom source position blanks before ('/' :: (body.toList ++ '/' :: (flags.toList ++ tail))) =
      (scanFrom source (position + 2 + body.toList.length + flags.toList.length) false
        (some .pattern) tail).map (⟨.pattern, some body, position, flags⟩ :: ·) := by
  have hslash : isBlank '/' = false ∧ isLetter '/' = false ∧ isDigit '/' = false := by decide
  -- A pattern begins no node, so a blank before it is no combinator.
  have hgap : descendant blanks before '/' position = [] := by simp [descendant, hslash]
  -- The scanner takes all letters and digits behind the slash for flags.
  obtain ⟨htake, hdrop⟩ := cut_of_ends (isAlnum_of_isFlags hflags)
    (fun _ => isNameChar_of_isAlnum) htail
  have hlegal : (flags.toList == [] || flags.toList == ['i']) = true := by
    rwa [← isFlags_iff, String.ofList_toList]
  -- That the body is a pattern means that reading it stops at this slash.
  have hread := patternBody_append (flags.toList ++ tail) hbody
  rw [scanFrom, if_neg (by simp [hslash]), if_neg (by simp [hslash]), if_neg (by simp [hslash]),
    if_pos (by rfl)]
  split
  · next hnone => simp [hread] at hnone
  · next body' behind hsome =>
      obtain ⟨rfl, rfl⟩ := Prod.mk.inj (Option.some.inj (hread.symm.trans hsome))
      dsimp only
      rw [htake, hdrop, hgap, if_pos hlegal]
      simp

end Token

end DocLint
