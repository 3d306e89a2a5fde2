import DocLint.Proofs.Selector.Scan

/-!
# DocLint.Proofs.Selector.Refusal

**When the scanner refuses a text.** It stops at nothing but a slash that it reaches outside of
patterns (`Passed`): one that opens a pattern that is never closed, or a pattern with letters or
digits behind it that are no flag (`Refused`). `scan_eq_error_iff` says so for every text, with
the fault and the place that it names.

The scanner passes runs of characters, while `Passed` goes character by character. So what leads
there are equations for `Stops`, one for each way in which the scanner goes on.
-/

namespace DocLint.Token

open Text

/-! ### What is passed and what is refused -/

/-- The scanner gets behind these characters: they are patterns with their flags, and characters
other than slashes. -/
inductive Passed : List Char → Prop
  | nil : Passed []
  | plain {c : Char} {cs : List Char} (hc : c ≠ '/') (h : Passed cs) : Passed (c :: cs)
  | pattern {body cs : List Char} {flags : String} (hbody : Enclosed false body)
      (hflags : IsFlags flags) (hends : ∀ c ∈ cs.head?, isAlnum c = false) (h : Passed cs) :
      Passed ('/' :: (body ++ '/' :: (flags.toList ++ cs)))

/-- The fault of a slash at a position, with `rest` behind it. -/
inductive Refused (source : String) (position : Nat) (rest : List Char) : SelectorError → Prop
  /-- No slash closes the pattern. -/
  | unclosed (h : ∀ body behind, rest = body ++ '/' :: behind → ¬ Enclosed false body) :
      Refused source position rest (.unterminatedPattern position source)
  /-- All the letters and digits behind the pattern together are no flag. -/
  | flags {body behind : List Char} (hrest : rest = body ++ '/' :: behind)
      (hbody : Enclosed false body)
      (hflags : ¬ IsFlags (String.ofList (behind.takeWhile isAlnum))) :
      Refused source position rest
        (.unsupportedFlags (String.ofList (behind.takeWhile isAlnum)) position)

/-- From a position on, the scanner passes some characters and refuses the slash behind them. -/
def Stops (source : String) (position : Nat) (cs : List Char) (fault : SelectorError) : Prop :=
  ∃ front rest, cs = front ++ '/' :: rest ∧ Passed front ∧
    Refused source (position + front.length) rest fault

variable {source : String} {position : Nat} {fault : SelectorError} {c : Char}
  {body behind cs rest run : List Char}

theorem refused_of_none (h : patternBody false rest = none) :
    Refused source position rest fault ↔ fault = .unterminatedPattern position source := by
  have hnone : ∀ body behind, rest = body ++ '/' :: behind → ¬ Enclosed false body := by
    intro body behind hrest hbody
    simp [patternBody_eq_some_iff.mpr ⟨hrest, hbody⟩] at h
  constructor
  · intro hrefused
    cases hrefused with
    | unclosed => rfl
    | flags hrest hbody => exact absurd hbody (hnone _ _ hrest)
  · rintro rfl
    exact .unclosed hnone

theorem refused_of_some (h : patternBody false rest = some (body, behind)) :
    Refused source position rest fault ↔
      ¬ IsFlags (String.ofList (behind.takeWhile isAlnum)) ∧
        fault = .unsupportedFlags (String.ofList (behind.takeWhile isAlnum)) position := by
  obtain ⟨hrest, hbody⟩ := patternBody_eq_some_iff.mp h
  constructor
  · intro hrefused
    cases hrefused with
    | unclosed hnone => exact absurd hbody (hnone _ _ hrest)
    | flags hrest' hbody' hflags =>
        obtain ⟨rfl, rfl⟩ := patternBody_unique h hrest' hbody'
        exact ⟨hflags, rfl⟩
  · rintro ⟨hflags, rfl⟩
    exact .flags hrest hbody hflags

/-! ### How far it is to a refusal -/

theorem not_stops_nil : ¬ Stops source position [] fault := by
  rintro ⟨front, rest, hcs, -⟩
  simp at hcs

theorem stops_cons (hc : c ≠ '/') :
    Stops source position (c :: cs) fault ↔ Stops source (position + 1) cs fault := by
  have hplace : ∀ front : List Char,
      position + (c :: front).length = position + 1 + front.length := by
    intro front
    rw [List.length_cons]
    omega
  constructor
  · rintro ⟨front, rest, hcs, hpassed, hrefused⟩
    cases hpassed with
    | nil => exact absurd (List.cons.inj hcs).1 hc
    | @plain d front _ hpassed =>
        obtain ⟨rfl, rfl⟩ := List.cons.inj hcs
        exact ⟨front, rest, rfl, hpassed, hplace front ▸ hrefused⟩
    | pattern => exact absurd (List.cons.inj hcs).1 hc
  · rintro ⟨front, rest, rfl, hpassed, hrefused⟩
    exact ⟨c :: front, rest, rfl, .plain hc hpassed, hplace front ▸ hrefused⟩

theorem stops_run (hrun : '/' ∉ run) :
    Stops source position (run ++ cs) fault ↔ Stops source (position + run.length) cs fault := by
  induction run generalizing position with
  | nil => rfl
  | cons c run ih =>
      obtain ⟨hc, hrun⟩ := not_or.mp (mt List.mem_cons.mpr hrun)
      rw [List.cons_append, stops_cons (Ne.symm hc), ih hrun, List.length_cons, Nat.add_assoc,
        Nat.add_comm 1]

/-- A slash is refused itself, or the scanner passes its pattern. -/
theorem stops_slash : Stops source position ('/' :: rest) fault ↔
    Refused source position rest fault ∨
      ∃ body flags cs, rest = body ++ '/' :: (flags.toList ++ cs) ∧ Enclosed false body ∧
        IsFlags flags ∧ (∀ c ∈ cs.head?, isAlnum c = false) ∧
        Stops source (position + 2 + body.length + flags.toList.length) cs fault := by
  have hplace : ∀ (body flags front : List Char),
      position + ('/' :: (body ++ '/' :: (flags ++ front))).length =
        position + 2 + body.length + flags.length + front.length := by
    intro body flags front
    simp only [List.length_cons, List.length_append]
    omega
  constructor
  · rintro ⟨front, rest', hcs, hpassed, hrefused⟩
    cases hpassed with
    | nil =>
        obtain ⟨-, rfl⟩ := List.cons.inj hcs
        exact .inl hrefused
    | plain hc => exact absurd (List.cons.inj hcs).1.symm hc
    | @pattern body front flags hbody hflags hends hpassed =>
        obtain ⟨-, rfl⟩ := List.cons.inj hcs
        refine .inr ⟨body, flags, front ++ '/' :: rest', by simp, hbody, hflags, ?_, ?_⟩
        · -- A slash goes on with no flags.
          cases front with
          | nil => exact fun d hd => Option.some.inj hd ▸ by decide
          | cons c front => exact hends
        · exact ⟨front, rest', rfl, hpassed, hplace body flags.toList front ▸ hrefused⟩
  · rintro (hrefused | ⟨body, flags, cs, rfl, hbody, hflags, hends, hstops⟩)
    · exact ⟨[], rest, rfl, .nil, hrefused⟩
    · obtain ⟨front, rest', rfl, hpassed, hrefused⟩ := hstops
      have hends' : ∀ c ∈ front.head?, isAlnum c = false := by
        cases front with
        | nil => simp
        | cons c front => exact hends
      exact ⟨_, rest', by simp, .pattern hbody hflags hends' hpassed,
        hplace body flags.toList front ▸ hrefused⟩

/-! ### The scanner at a slash -/

theorem stops_unclosed (hbody : patternBody false rest = none) :
    Stops source position ('/' :: rest) fault ↔ fault = .unterminatedPattern position source := by
  rw [stops_slash, refused_of_none hbody, or_iff_left_iff_imp]
  rintro ⟨body, flags, cs, hrest, hbody', -⟩
  simp [patternBody_eq_some_iff.mpr ⟨hrest, hbody'⟩] at hbody

theorem stops_unknown (hbody : patternBody false rest = some (body, behind))
    (hflags : ¬ IsFlags (String.ofList (behind.takeWhile isAlnum))) :
    Stops source position ('/' :: rest) fault ↔
      fault = .unsupportedFlags (String.ofList (behind.takeWhile isAlnum)) position := by
  rw [stops_slash, refused_of_some hbody, and_iff_right hflags, or_iff_left_iff_imp]
  rintro ⟨body', flags, cs, hrest, hbody', hflags', hends, -⟩
  obtain ⟨-, rfl⟩ := patternBody_unique hbody hrest hbody'
  rw [(cut_of_head (isAlnum_of_isFlags hflags') hends).1, String.ofList_toList] at hflags
  exact absurd hflags' hflags

theorem stops_pattern (hbody : patternBody false rest = some (body, behind))
    (hflags : IsFlags (String.ofList (behind.takeWhile isAlnum))) :
    Stops source position ('/' :: rest) fault ↔
      Stops source (position + 2 + body.length + (behind.takeWhile isAlnum).length)
        (behind.dropWhile isAlnum) fault := by
  rw [stops_slash, refused_of_some hbody, or_iff_right fun h => h.1 hflags]
  constructor
  · rintro ⟨body', flags, cs, hrest, hbody', hflags', hends, hstops⟩
    obtain ⟨rfl, rfl⟩ := patternBody_unique hbody hrest hbody'
    obtain ⟨htake, hdrop⟩ := cut_of_head (isAlnum_of_isFlags hflags') hends
    rwa [htake, hdrop]
  · intro hstops
    obtain ⟨hrest, hbody'⟩ := patternBody_eq_some_iff.mp hbody
    refine ⟨body, _, behind.dropWhile isAlnum, ?_, hbody', hflags, ?_, ?_⟩
    · rw [hrest, String.toList_ofList, List.takeWhile_append_dropWhile]
    · exact not_of_head?_dropWhile isAlnum behind
    · rwa [String.toList_ofList]

/-! ### The scanner on the way -/

theorem slash_notMem_run {p : Char → Bool} (hp : ∀ c, p c = true → isNameChar c = true)
    (hrun : ∀ c ∈ run, p c = true) : '/' ∉ run := by
  intro h
  exact absurd (hp _ (hrun _ h)) (by decide)

theorem except_map_eq_error {ε α β : Type} {m : Except ε α} {f : α → β} {e : ε} :
    m.map f = .error e ↔ m = .error e := by
  cases m <;> simp [Except.map]

/-- **The scanner refuses a text exactly where it stops at a slash.** -/
theorem scan_eq_error_iff {blanks : Bool} {before : Option TokenKind} :
    scanFrom source position blanks before cs = .error fault ↔ Stops source position cs fault := by
  fun_induction scanFrom source position blanks before cs with
  -- The end of the text.
  | case1 position blanks before => simp [not_stops_nil]
  -- A blank.
  | case2 position blanks before c rest hblank ih =>
      have hc : c ≠ '/' := by
        rintro rfl
        exact absurd hblank (by decide)
      rw [stops_cons hc, ih]
  -- A name: a letter, and the name characters behind it.
  | case3 =>
      rename_i c rest _ gap hletter name _ ih
      have hname : '/' ∉ name := slash_notMem_run (fun _ h => h)
        (List.forall_mem_cons.mpr
          ⟨isNameChar_of_isLetter hletter, List.all_eq_true.mp List.all_takeWhile⟩)
      have hcs : c :: rest = name ++ rest.dropWhile isNameChar :=
        congrArg (c :: ·) List.takeWhile_append_dropWhile.symm
      rw [except_map_eq_error, ih, hcs, stops_run hname]
  -- A number.
  | case4 =>
      rename_i c rest _ gap _ hdigit digits _ ih
      have hdigits : '/' ∉ digits := slash_notMem_run (fun _ => isNameChar_of_isDigit)
        (List.forall_mem_cons.mpr ⟨hdigit, List.all_eq_true.mp List.all_takeWhile⟩)
      have hcs : c :: rest = digits ++ rest.dropWhile isDigit :=
        congrArg (c :: ·) List.takeWhile_append_dropWhile.symm
      rw [except_map_eq_error, ih, hcs, stops_run hdigits]
  -- A pattern without its slash.
  | case5 =>
      rename_i c rest _ gap _ _ hslash hbody
      rw [eq_of_beq hslash, stops_unclosed hbody]
      exact ⟨fun h => (Except.error.inj h).symm, fun h => congrArg _ h.symm⟩
  -- A pattern with flags that are known.
  | case6 =>
      rename_i c rest _ gap _ _ hslash body behind hbody flags hflags _ ih
      rw [except_map_eq_error, ih, eq_of_beq hslash, stops_pattern hbody (isFlags_iff.mpr hflags)]
  -- A pattern with other flags.
  | case7 =>
      rename_i c rest _ gap _ _ hslash body behind hbody flags hflags
      rw [eq_of_beq hslash, stops_unknown hbody (mt isFlags_iff.mp hflags)]
      exact ⟨fun h => (Except.error.inj h).symm, fun h => congrArg _ h.symm⟩
  -- A symbol.
  | case8 =>
      rename_i c rest hblank gap hletter hdigit hslash token ih
      rw [except_map_eq_error, ih, stops_cons (by simpa using hslash)]

end DocLint.Token
