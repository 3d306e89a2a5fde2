import DocLint.Regex.CharSet

/-!
# DocLint.Proofs.Regex.Brackets

**Where a set of characters ends.** The reader of expressions takes a closing bracket for a
member of the set where it comes first, also behind the `^`. `Brackets` are the pieces of a set,
from its opening bracket to the closing one, and reading a set takes the pieces of one
(`charSet_takes`).

What is read inside a member, such as the digits of an escape, is never a closing bracket
(`Skips`); this is why it does not matter here which members there are. For the name of a
character it is so because no character has a name with a bracket in it.
-/

namespace DocLint.Regex

/-- A piece is no other character. -/
theorem Piece.is_ne {p : Piece} {c d : Char} (h : p.is c = true) (hne : c ≠ d) :
    p.is d = false := by
  refine Bool.eq_false_iff.mpr ?_
  intro hd
  have hc := eq_of_beq (Bool.and_eq_true_iff.mp h).2
  exact hne (hc.symm.trans (eq_of_beq (Bool.and_eq_true_iff.mp hd).2))

/-- The pieces of a set. Behind the first member, only the last piece is a closing bracket. -/
structure Brackets where
  opening : Piece
  caret : Option Piece
  first : Piece
  others : List Piece
  closing : Piece
  opens : opening.is '[' = true
  negates : ∀ p ∈ caret, p.is '^' = true
  first_ne : caret = none → first.is '^' = false
  others_ne : ∀ p ∈ others, p.is ']' = false
  closes : closing.is ']' = true

/-- The pieces behind the opening bracket. -/
def Brackets.behind (b : Brackets) : List Piece :=
  b.caret.toList ++ b.first :: (b.others ++ [b.closing])

namespace Parse

variable {α β : Type} {s s' : Reading} {a : α} {m : Parse α} {f : α → Parse β}

/-! ### Steps of the reader -/

theorem bind_eq_ok {b : β} (h : (m >>= f) s = .ok (b, s')) :
    ∃ a s₁, m s = .ok (a, s₁) ∧ f a s₁ = .ok (b, s') := by
  change (m s >>= fun p => f p.1 p.2) = _ at h
  cases hm : m s with
  | error e => rw [hm] at h; cases h
  | ok p =>
      rw [hm] at h
      exact ⟨p.1, p.2, rfl, h⟩

theorem checkEnd_ok {u : Unit} (h : checkEnd s = .ok (u, s')) : s = s' := by
  obtain ⟨_, _, hget, h⟩ := bind_eq_ok h
  cases hget
  cases hlast : s.rest.isEmpty && s.broken with
  | true => simp only [hlast] at h; cases h
  | false => simp only [hlast] at h; cases h; rfl

theorem next_ok {p : Option Piece} (h : next s = .ok (p, s')) :
    (p = none ∧ s.rest = []) ∨ ∃ q, p = some q ∧ s.rest = q :: s'.rest := by
  obtain ⟨_, _, hget, h⟩ := bind_eq_ok h
  cases hget
  cases hrest : s.rest with
  | nil =>
      simp only [hrest] at h
      cases h
      exact .inl ⟨rfl, rfl⟩
  | cons q rest =>
      simp only [hrest] at h
      obtain ⟨_, _, hset, h⟩ := bind_eq_ok h
      cases hset
      obtain ⟨_, _, hcheck, h⟩ := bind_eq_ok h
      obtain rfl := checkEnd_ok hcheck
      cases h
      exact .inr ⟨q, rfl, rfl⟩

theorem peek_ok {p : Option Piece} (h : peek s = .ok (p, s')) : p = s.rest.head? ∧ s = s' := by
  obtain ⟨_, _, hget, h⟩ := bind_eq_ok h
  cases hget
  cases h
  exact ⟨rfl, rfl⟩

/-- The piece that was seen is the one that is taken. -/
theorem next_of_head {p : Piece} {q : Option Piece} (hhead : s.rest.head? = some p)
    (h : next s = .ok (q, s')) : s.rest = p :: s'.rest := by
  rcases next_ok h with ⟨-, hnil⟩ | ⟨q, -, hcons⟩
  · simp [hnil] at hhead
  · obtain rfl : q = p := by simpa [hcons] using hhead
    exact hcons

theorem failAt_ne_ok {problem : Problem} {position : Nat} :
    failAt problem position s ≠ .ok (a, s') :=
  nofun

theorem accept_ok {c : Char} {b : Bool} (h : accept c s = .ok (b, s')) :
    (b = true ∧ ∃ p, p.is c = true ∧ s.rest = p :: s'.rest) ∨
      (b = false ∧ s = s' ∧ ∀ p ∈ s.rest.head?, p.is c = false) := by
  obtain ⟨_, _, hpeek, h⟩ := bind_eq_ok h
  obtain ⟨rfl, rfl⟩ := peek_ok hpeek
  cases hhead : s.rest.head? with
  | none =>
      rw [hhead] at h
      cases h
      exact .inr ⟨rfl, rfl, nofun⟩
  | some p =>
      rw [hhead] at h
      dsimp only at h
      split at h
      · next hp =>
          obtain ⟨_, _, hnext, h⟩ := bind_eq_ok h
          cases h
          exact .inl ⟨rfl, p, hp, next_of_head hhead hnext⟩
      · next hp =>
          cases h
          refine .inr ⟨rfl, rfl, ?_⟩
          intro q hq
          obtain rfl := Option.some.inj hq
          simpa using hp

/-! ### Steps that take no closing bracket -/

/-- The step takes no closing bracket. -/
def Skips (m : Parse α) : Prop :=
  ∀ s a s', m s = .ok (a, s') →
    ∃ taken, s.rest = taken ++ s'.rest ∧ ∀ p ∈ taken, p.is ']' = false

theorem Skips.bind (hm : Skips m) (hf : ∀ a, Skips (f a)) : Skips (m >>= f) := by
  intro s b s' h
  obtain ⟨a, s₁, hm', hf'⟩ := bind_eq_ok h
  obtain ⟨taken, htaken, hinner⟩ := hm _ _ _ hm'
  obtain ⟨more, hmore, hinner'⟩ := hf a _ _ _ hf'
  refine ⟨taken ++ more, by rw [htaken, hmore, List.append_assoc], ?_⟩
  exact List.forall_mem_append.mpr ⟨hinner, hinner'⟩

theorem skips_pure (a : α) : Skips (pure a) := by
  intro s b s' h
  cases h
  exact ⟨[], rfl, by simp⟩

theorem skips_failAt (problem : Problem) (position : Nat) :
    Skips (failAt problem position : Parse α) := by
  intro s a s' h
  cases h

theorem skips_get : Skips (get : Parse Reading) := by
  intro s a s' h
  cases h
  exact ⟨[], rfl, by simp⟩

theorem skips_takeWhile {ok : Char → Bool} (hok : ok ']' = false) (limit : Nat) :
    Skips (takeWhile ok limit) := by
  induction limit with
  | zero => exact skips_pure []
  | succ limit ih =>
      intro s a s' h
      obtain ⟨_, _, hpeek, h⟩ := bind_eq_ok h
      obtain ⟨rfl, rfl⟩ := peek_ok hpeek
      cases hhead : s.rest.head? with
      | none =>
          rw [hhead] at h
          cases h
          exact ⟨[], rfl, nofun⟩
      | some p =>
          rw [hhead] at h
          dsimp only at h
          split at h
          · next hp =>
              obtain ⟨_, s₁, hnext, h⟩ := bind_eq_ok h
              obtain ⟨_, _, hmore, h⟩ := bind_eq_ok h
              cases h
              have hcons := next_of_head hhead hnext
              obtain ⟨taken, htaken, hinner⟩ := ih _ _ _ hmore
              refine ⟨p :: taken, by rw [hcons, htaken, List.cons_append], ?_⟩
              refine List.forall_mem_cons.mpr ⟨?_, hinner⟩
              -- It has passed the test that a closing bracket does not.
              refine Bool.eq_false_iff.mpr ?_
              intro hclosing
              obtain ⟨-, hchar⟩ := Bool.and_eq_true_iff.mp hclosing
              obtain ⟨-, hpassed⟩ := Bool.and_eq_true_iff.mp hp
              rw [eq_of_beq hchar, hok] at hpassed
              exact absurd hpassed Bool.false_ne_true
          · cases h
            exact ⟨[], rfl, nofun⟩

theorem skips_accept {c : Char} (hc : c ≠ ']') : Skips (accept c) := by
  intro s b s' h
  rcases accept_ok h with ⟨-, p, hp, hrest⟩ | ⟨-, rfl, -⟩
  · exact ⟨[p], hrest, List.forall_mem_singleton.mpr (Piece.is_ne hp hc)⟩
  · exact ⟨[], rfl, nofun⟩

theorem Skips.ite {c : Prop} [Decidable c] {n : Parse α} (hm : Skips m) (hn : Skips n) :
    Skips (if c then m else n) := by
  split
  · exact hm
  · exact hn

/-! ### Members -/

theorem skips_hexCode (p : Piece) (count : Nat) : Skips (hexCode p count) := by
  have hdigit : (fun c => (hexDigit? c).isSome) ']' = false := by decide
  refine (skips_takeWhile hdigit count).bind ?_
  intro digits
  have hcode : Skips (if 0x10FFFF < valueIn 16 digits then do
      failAt (.badEscape (p.text ++ String.ofList digits)) p.position
      pure (valueIn 16 digits) else pure (valueIn 16 digits)) :=
    .ite ((skips_failAt _ _).bind fun _ => skips_pure _) (skips_pure _)
  exact .ite ((skips_failAt _ _).bind fun _ => hcode) hcode

theorem skips_octalCode (p : Piece) (more : List Char) : Skips (octalCode p more) :=
  .ite ((skips_failAt _ _).bind fun _ => skips_pure _) (skips_pure _)

theorem fail_ne_ok {problem : Problem} {back : Nat} : fail problem back s ≠ .ok (a, s') := by
  intro h
  obtain ⟨_, _, _, hfail⟩ := bind_eq_ok h
  exact failAt_ne_ok hfail

/-- The text up to the terminator is that of the pieces taken before it. -/
theorem takeUntil_ok {terminator : Char} {what : String} {fuel : Nat} {read name : String}
    (hfuel : s.rest.length < fuel) (h : takeUntil terminator what fuel read s = .ok (name, s')) :
    ∃ taken closing, s.rest = taken ++ closing :: s'.rest ∧ closing.is terminator = true ∧
      name.toList = read.toList ++ taken.flatMap Piece.chars := by
  induction fuel generalizing s read with
  | zero => exact absurd hfuel (Nat.not_lt_zero _)
  | succ fuel ih =>
      obtain ⟨_, s₁, hnext, h⟩ := bind_eq_ok h
      rcases next_ok hnext with ⟨rfl, -⟩ | ⟨p, rfl, hrest⟩
      · dsimp only at h
        split at h
        · exact absurd h fail_ne_ok
        · exact absurd h fail_ne_ok
      · dsimp only at h
        split at h
        · next hp =>
            split at h
            · exact absurd h fail_ne_ok
            · cases h
              exact ⟨[], p, hrest, hp, by simp⟩
        · have hfuel₁ : s₁.rest.length < fuel := by
            rw [hrest, List.length_cons] at hfuel
            omega
          obtain ⟨taken, closing, htaken, hclosing, hname⟩ := ih hfuel₁ h
          refine ⟨p :: taken, closing, by rw [hrest, htaken, List.cons_append], hclosing, ?_⟩
          rw [hname, String.toList_append, Piece.text, String.toList_ofList, List.flatMap_cons,
            List.append_assoc]

/-- What is called by a name has that name, and nothing more is read for it. -/
theorem codeCalled_ok {p : Piece} {name : String} {code : Nat}
    (h : codeCalled p name s = .ok (code, s')) :
    (∃ c, s.characters.called? name = some c) ∧ s' = s := by
  obtain ⟨_, _, hget, h⟩ := bind_eq_ok h
  cases hget
  cases hcalled : s.characters.called? name with
  | none =>
      simp only [hcalled] at h
      exact absurd h failAt_ne_ok
  | some c =>
      simp only [hcalled] at h
      cases h
      exact ⟨⟨c, rfl⟩, rfl⟩

/-- No closing bracket is among the pieces of a name. -/
theorem skips_namedCode (p : Piece) : Skips (namedCode p) := by
  refine (skips_accept (by decide)).bind ?_
  intro found
  have hname : Skips (takeName '\x7d' "character name" >>= codeCalled p) := by
    intro s a s' h
    obtain ⟨name, s₁, htake, h⟩ := bind_eq_ok h
    obtain ⟨_, _, hget, htake⟩ := bind_eq_ok htake
    cases hget
    obtain ⟨taken, closing, htaken, hclosing, hread⟩ := takeUntil_ok (Nat.lt_succ_self _) htake
    obtain ⟨⟨c, hcalled⟩, rfl⟩ := codeCalled_ok h
    refine ⟨taken ++ [closing], by simp [htaken], ?_⟩
    refine List.forall_mem_append.mpr ⟨?_, List.forall_mem_singleton.mpr
      (Piece.is_ne hclosing (by decide))⟩
    intro q hq
    refine Bool.eq_false_iff.mpr fun hbracket => ?_
    obtain ⟨hplain, hchar⟩ := Bool.and_eq_true_iff.mp hbracket
    have hmem : ']' ∈ name.toList := by
      rw [hread]
      refine List.mem_append_right _ (List.mem_flatMap.mpr ⟨q, hq, ?_⟩)
      simp_all [Piece.chars]
    exact absurd (s'.characters.isNameLetter_of_called hcalled _ hmem) (by decide)
  refine .ite (.bind ?_ fun _ => hname) hname
  exact skips_get.bind fun _ => skips_failAt _ _

theorem skips_codeEscape? (p : Piece) : Skips (codeEscape? p) := by
  have hhex (count : Nat) : Skips (some <$> hexCode p count) :=
    (skips_hexCode p count).bind fun _ => skips_pure _
  refine .ite (hhex 2) (.ite (hhex 4) (.ite (hhex 8) (.ite ?_ (skips_pure _))))
  exact (skips_namedCode p).bind fun _ => skips_pure _

theorem skips_plainEscape (p : Piece) : Skips (plainEscape p) :=
  .ite ((skips_failAt _ _).bind fun _ => skips_pure _) (skips_pure _)

theorem skips_setEscape (p : Piece) : Skips (setEscape p) := by
  rw [setEscape]
  split
  · exact skips_pure _
  · split
    · exact skips_pure _
    · refine (skips_codeEscape? p).bind ?_
      intro code
      cases code with
      | some code => exact skips_pure _
      | none =>
          have hoctal : isOctal ']' = false := by decide
          refine .ite ?_ ((skips_plainEscape p).bind fun _ => skips_pure _)
          refine (skips_takeWhile hoctal 2).bind ?_
          intro more
          exact (skips_octalCode p more).bind fun _ => skips_pure _

/-- Behind the piece of a member, no closing bracket is taken for it. -/
theorem skips_setMember (p : Piece) : Skips (setMember p) :=
  .ite (skips_setEscape p) (skips_pure _)

theorem skips_setRange (p q : Piece) (first last : SetItem) : Skips (setRange p q first last) := by
  have hfail {α : Type} (problem : Problem) (back : Nat) : Skips (fail problem back : Parse α) :=
    (skips_get.bind fun _ => skips_pure _).bind fun _ => skips_failAt _ _
  unfold setRange
  split
  · exact .ite ((hfail _ _).bind fun _ => skips_pure _) (skips_pure _)
  · exact hfail _ _

/-! ### The members up to the closing bracket -/

/-- What is left to be read of a set behind the piece of a member. -/
def setRest (start fuel : Nat) (items : List SetItem) (p : Piece) : Parse (List SetItem) := do
  let first ← setMember p
  if ← accept '-' then
    match ← next with
    | none => failAt .unterminatedSet start
    | some q =>
      if q.is ']' then return items ++ [first, .code '-'.toNat]
      else
        let last ← setMember q
        setItems start fuel (items ++ [← setRange p q first last])
  else setItems start fuel (items ++ [first])

theorem setItems_succ (start fuel : Nat) (items : List SetItem) :
    setItems start (fuel + 1) items = next >>= fun
      | none => failAt .unterminatedSet start
      | some p =>
        if p.is ']' && !items.isEmpty then return items else setRest start fuel items p :=
  rfl

/-- The step takes pieces up to a closing bracket, and that one as well, if no more than so many
pieces are left. -/
def Closes (fuel : Nat) (m : Parse α) : Prop :=
  ∀ s a s', s.rest.length < fuel → m s = .ok (a, s') → ∃ others closing,
    s.rest = others ++ closing :: s'.rest ∧ (∀ p ∈ others, p.is ']' = false) ∧
      closing.is ']' = true

variable {fuel : Nat}

theorem Skips.closes (hm : Skips m) (hf : ∀ a, Closes fuel (f a)) : Closes fuel (m >>= f) := by
  intro s b s' hfuel h
  obtain ⟨a, s₁, hm', hf'⟩ := bind_eq_ok h
  obtain ⟨taken, htaken, hinner⟩ := hm _ _ _ hm'
  have hfuel₁ : s₁.rest.length < fuel := by
    rw [htaken, List.length_append] at hfuel
    omega
  obtain ⟨others, closing, hothers, hinner', hclosing⟩ := hf a _ _ _ hfuel₁ hf'
  refine ⟨taken ++ others, closing, by rw [htaken, hothers, List.append_assoc], ?_, hclosing⟩
  exact List.forall_mem_append.mpr ⟨hinner, hinner'⟩

/-- A closing bracket ends it, and any other piece is passed. -/
theorem closes_next {f : Option Piece → Parse α} (hnone : ∀ s a s', f none s ≠ .ok (a, s'))
    (hclosing : ∀ p, p.is ']' = true → ∃ a, f (some p) = pure a)
    (hother : ∀ p, p.is ']' = false → Closes fuel (f (some p))) :
    Closes (fuel + 1) (next >>= f) := by
  intro s b s' hfuel h
  obtain ⟨_, s₁, hnext, h⟩ := bind_eq_ok h
  rcases next_ok hnext with ⟨rfl, -⟩ | ⟨p, rfl, hrest⟩
  · exact absurd h (hnone _ _ _)
  · cases hp : p.is ']' with
    | true =>
        obtain ⟨a, ha⟩ := hclosing p hp
        rw [ha] at h
        cases h
        exact ⟨[], p, hrest, nofun, hp⟩
    | false =>
        have hfuel₁ : s₁.rest.length < fuel := by
          rw [hrest, List.length_cons] at hfuel
          omega
        obtain ⟨others, closing, hothers, hinner, hclosing⟩ := hother p hp _ _ _ hfuel₁ h
        exact ⟨p :: others, closing, by rw [hrest, hothers, List.cons_append],
          List.forall_mem_cons.mpr ⟨hp, hinner⟩, hclosing⟩

theorem Closes.mono {fewer : Nat} (h : Closes fuel m) (hle : fewer ≤ fuel) : Closes fewer m :=
  fun s a s' hfewer => h s a s' (Nat.lt_of_lt_of_le hfewer hle)

theorem closes_setRest {start : Nat} {items : List SetItem} (p : Piece)
    (hitems : ∀ items : List SetItem, items.isEmpty = false →
      Closes fuel (setItems start fuel items)) : Closes fuel (setRest start fuel items p) := by
  refine (skips_setMember p).closes fun first => ?_
  refine (skips_accept (by decide)).closes fun hyphen => ?_
  cases hyphen with
  | false => exact hitems _ (by simp)
  | true =>
      refine (closes_next (fun _ _ _ => failAt_ne_ok) ?_ ?_).mono (Nat.le_succ fuel)
      · intro q hq
        exact ⟨_, if_pos hq⟩
      · intro q hq
        show Closes fuel (if q.is ']' then _ else _)
        rw [if_neg (by simp [hq])]
        refine (skips_setMember q).closes fun last => ?_
        refine (skips_setRange p q first last).closes fun range => ?_
        exact hitems _ (by simp)

theorem closes_setItems (start : Nat) {items : List SetItem} (hsome : items.isEmpty = false) :
    Closes fuel (setItems start fuel items) := by
  induction fuel generalizing items with
  | zero => exact fun s a s' hfuel => absurd hfuel (Nat.not_lt_zero _)
  | succ fuel ih =>
      rw [setItems_succ]
      refine closes_next (fun _ _ _ => failAt_ne_ok) ?_ ?_
      · intro p hp
        exact ⟨items, by simp [hp, hsome]⟩
      · intro p hp
        simp only [hp, Bool.false_and, Bool.false_eq_true, if_false]
        exact closes_setRest p fun items hsome => ih hsome

/-- **Reading a set** takes its pieces, up to the bracket that closes it. -/
theorem charSet_takes {start : Nat} {node : Node} {opening : Piece}
    (hopening : opening.is '[' = true) (h : charSet start s = .ok (node, s')) :
    ∃ b : Brackets, b.opening = opening ∧ s.rest = b.behind ++ s'.rest := by
  obtain ⟨negated, s₁, hcaret, h⟩ := bind_eq_ok h
  obtain ⟨_, s₂, hget, h⟩ := bind_eq_ok h
  cases hget
  obtain ⟨_, _, hitems, h⟩ := bind_eq_ok h
  cases h
  rw [setItems_succ] at hitems
  obtain ⟨_, s₃, hnext, hitems⟩ := bind_eq_ok hitems
  rcases next_ok hnext with ⟨rfl, -⟩ | ⟨first, rfl, hfirst⟩
  · exact absurd hitems failAt_ne_ok
  · have hrest : s₃.rest.length < s₁.rest.length := by
      rw [hfirst, List.length_cons]
      omega
    simp only [List.isEmpty_nil, Bool.not_true, Bool.and_false, Bool.false_eq_true,
      if_false] at hitems
    obtain ⟨others, closing, hothers, hinner, hclosing⟩ :=
      closes_setRest first (fun _ => closes_setItems start) _ _ _ hrest hitems
    rcases accept_ok hcaret with ⟨-, caret, hnegates, hs⟩ | ⟨-, rfl, hne⟩
    · refine ⟨⟨opening, some caret, first, others, closing, hopening, ?_, nofun, hinner, hclosing⟩,
        rfl, ?_⟩
      · intro p hp
        exact Option.some.inj hp ▸ hnegates
      · simp [Brackets.behind, hs, hfirst, hothers]
    · refine ⟨⟨opening, none, first, others, closing, hopening, nofun, ?_, hinner, hclosing⟩,
        rfl, ?_⟩
      · exact fun _ => hne first (by rw [hfirst]; rfl)
      · simp [Brackets.behind, hfirst, hothers]

end Parse

end DocLint.Regex
