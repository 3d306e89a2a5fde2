import DocLint.Regex

/-!
# DocLint.Proofs.Regex.Limits

**Without backslashes, braces and question marks no limit is met.** An expression can be refused
because there is something wrong with its text, or because it asks for more than there is: too
many rounds in braces, or two repertoires, which are chosen behind a question mark. A text that
has none of these characters can only be refused for the first reason (`compile_problem`).

`Tame` says so of a step of the reader, which has only such characters before it, and of whatever
comes behind: the step leaves no other characters than it finds, and keeps off the repertoires.
A sequence of tame steps is tame (`Tame.bind`).
-/

namespace DocLint.Regex

/-- The error is a problem of the text. -/
def Error.IsProblem (e : Error) : Prop := ∃ problem position, e = .malformed problem position

/-- The character opens no escape, no braces and no group that is special. -/
def IsPlainChar (c : Char) : Prop := c ≠ '\\' ∧ c ≠ '\x7b' ∧ c ≠ '?'

instance : DecidablePred IsPlainChar := fun c =>
  inferInstanceAs (Decidable (c ≠ '\\' ∧ c ≠ '\x7b' ∧ c ≠ '?'))

/-- The piece is a plain character. -/
def Piece.IsPlain (p : Piece) : Prop := p.escaped = false ∧ IsPlainChar p.char

/-- Plain characters come, and the repertoire is left open. -/
structure Reading.IsPlain (s : Reading) : Prop where
  rest : ∀ p ∈ s.rest, p.IsPlain
  flags : s.flags.ascii = false

/-- A text of plain characters is cut into plain pieces. -/
theorem Piece.isPlain_scan {cs : List Char} (h : ∀ c ∈ cs, IsPlainChar c) (position : Nat) :
    ∀ p ∈ (Piece.scan position cs).1, p.IsPlain := by
  fun_induction Piece.scan position cs with
  | case1 => exact List.forall_mem_nil _
  | case2 => exact List.forall_mem_nil _
  | case3 position c rest => exact absurd rfl (h '\\' List.mem_cons_self).1
  | case4 position c rest _ _ pieces broken e ih =>
      obtain ⟨hc, hrest⟩ := List.forall_mem_cons.mp h
      have hpieces := ih hrest
      rw [e] at hpieces
      exact List.forall_mem_cons.mpr ⟨⟨rfl, hc⟩, hpieces⟩

namespace Parse

variable {α β : Type} {P : α → Prop} {Q : β → Prop} {m : Parse α} {f : α → Parse β}

/-- From a plain reading, the step comes to another one and to an answer with the property, or
finds a problem in the text. -/
def Tame (m : Parse α) (P : α → Prop) : Prop :=
  ∀ s : Reading, s.IsPlain →
    (∀ a s', m s = .ok (a, s') → s'.IsPlain ∧ P a) ∧ ∀ e, m s = .error e → e.IsProblem

/-! ### Sequences of steps -/

theorem Tame.bind (hm : Tame m P) (hf : ∀ a, P a → Tame (f a) Q) : Tame (m >>= f) Q := by
  intro s hs
  obtain ⟨hok, herror⟩ := hm s hs
  show (∀ b s', (m s >>= fun p => f p.1 p.2) = _ → _) ∧
    ∀ e, (m s >>= fun p => f p.1 p.2) = .error e → _
  cases h : m s with
  | ok p =>
      obtain ⟨hs', ha⟩ := hok p.1 p.2 h
      exact hf p.1 ha p.2 hs'
  | error e =>
      refine ⟨nofun, fun e' h' => ?_⟩
      obtain rfl : e = e' := Except.error.inj h'
      exact herror e h

theorem tame_pure {a : α} (h : P a) : Tame (pure a) P := by
  refine fun s hs => ⟨fun b s' hb => ?_, nofun⟩
  obtain ⟨rfl, rfl⟩ := Prod.mk.inj (Except.ok.inj hb)
  exact ⟨hs, h⟩

theorem tame_throw (problem : Problem) (position : Option Nat) :
    Tame (throw (.malformed problem position)) P := by
  refine fun s _ => ⟨nofun, fun e h => ?_⟩
  exact ⟨problem, position, (Except.error.inj h).symm⟩

theorem tame_failAt (problem : Problem) (position : Nat) : Tame (failAt problem position) P :=
  tame_throw problem (some position)

theorem tame_get : Tame get Reading.IsPlain := by
  refine fun s hs => ⟨fun a s' h => ?_, nofun⟩
  obtain ⟨rfl, rfl⟩ := Prod.mk.inj (Except.ok.inj h)
  exact ⟨hs, hs⟩

theorem tame_set {s : Reading} (h : s.IsPlain) : Tame (set s) fun _ => True := by
  refine fun _ _ => ⟨fun _ s' h' => ?_, nofun⟩
  obtain ⟨-, rfl⟩ := Prod.mk.inj (Except.ok.inj h')
  exact ⟨h, trivial⟩

theorem tame_modify {f : Reading → Reading} (h : ∀ s, s.IsPlain → (f s).IsPlain) :
    Tame (modify f) fun _ => True := by
  refine fun s hs => ⟨fun _ s' h' => ?_, nofun⟩
  obtain ⟨-, rfl⟩ := Prod.mk.inj (Except.ok.inj h')
  exact ⟨h s hs, trivial⟩

theorem Tame.ite {c : Prop} [Decidable c] {n : Parse α} (hm : Tame m P) (hn : Tame n P) :
    Tame (if c then m else n) P := by
  split
  · exact hm
  · exact hn

/-! ### Pieces -/

theorem tame_position : Tame position fun _ => True :=
  tame_get.bind fun _ _ => tame_pure trivial

theorem tame_fail (problem : Problem) (back : Nat) : Tame (fail problem back : Parse α) P :=
  tame_position.bind fun _ _ => tame_failAt problem _

theorem tame_checkEnd : Tame checkEnd fun _ => True :=
  tame_get.bind fun _ _ => (tame_failAt _ _).ite (tame_pure trivial)

theorem tame_next : Tame next fun p => ∀ q ∈ p, q.IsPlain := by
  refine tame_get.bind fun s hs => ?_
  split
  · exact tame_pure nofun
  · next p rest hrest =>
      obtain ⟨hp, hmore⟩ := List.forall_mem_cons.mp (hrest ▸ hs.rest)
      refine (tame_set (s := { s with rest := rest }) ⟨hmore, hs.flags⟩).bind fun _ _ =>
        tame_checkEnd.bind fun _ _ => ?_
      exact tame_pure fun q hq => Option.some.inj hq ▸ hp

theorem tame_peek : Tame peek fun p => ∀ q ∈ p, q.IsPlain :=
  tame_get.bind fun _ hs => tame_pure fun q hq => hs.rest q (List.mem_of_head? hq)

/-- A question mark is not there to be taken. -/
theorem tame_accept (c : Char) : Tame (accept c) fun b => b = true → c ≠ '?' := by
  refine tame_peek.bind fun p hp => ?_
  cases p with
  | none => exact tame_pure nofun
  | some p =>
      dsimp only
      split
      · next hc =>
          refine tame_next.bind fun _ _ => tame_pure fun _ hmark => ?_
          have hchar : p.char = c := eq_of_beq (Bool.and_eq_true_iff.mp hc).2
          exact (hp p rfl).2.2.2 (hchar.trans hmark)
      · exact tame_pure nofun

theorem tame_skipLine : ∀ fuel : Nat, Tame (skipLine fuel) fun _ => True
  | 0 => tame_pure trivial
  | fuel + 1 => by
      refine tame_next.bind fun p _ => ?_
      cases p with
      | none => exact tame_pure trivial
      | some p => exact (tame_pure trivial).ite (tame_skipLine fuel)

/-! ### Items -/

theorem tame_repeatLast (start : Nat) (rounds : Rounds) (items : List Node) :
    Tame (repeatLast start rounds items) fun _ => True := by
  have hgreed : Tame greed fun _ => True := by
    refine (tame_accept '?').bind fun _ _ => (tame_pure trivial).ite ?_
    exact (tame_accept '+').bind fun _ _ => (tame_pure trivial).ite (tame_pure trivial)
  unfold repeatLast
  split
  · exact tame_failAt _ _
  · split
    · exact hgreed.bind fun _ _ => tame_pure trivial
    · exact tame_pure trivial

theorem tame_setMember {p : Piece} (hp : p.IsPlain) : Tame (setMember p) fun _ => True := by
  rw [setMember, hp.1, if_neg Bool.false_ne_true]
  exact tame_pure trivial

theorem tame_setRange (p q : Piece) (first last : SetItem) :
    Tame (setRange p q first last) fun _ => True := by
  unfold setRange
  split
  · exact Tame.ite ((tame_fail _ _).bind (P := fun _ => True) fun _ _ => tame_pure trivial)
      (tame_pure trivial)
  · exact tame_fail _ _

theorem tame_setItems (start : Nat) : ∀ (fuel : Nat) (items : List SetItem),
    Tame (setItems start fuel items) fun _ => True
  | 0, _ => tame_pure trivial
  | fuel + 1, items => by
      refine tame_next.bind fun p hp => ?_
      cases p with
      | none => exact tame_failAt _ _
      | some p =>
          refine (tame_pure trivial).ite ((tame_setMember (hp p rfl)).bind fun first _ => ?_)
          refine (tame_accept '-').bind fun _ _ => Tame.ite ?_ (tame_setItems start fuel _)
          refine tame_next.bind fun q hq => ?_
          cases q with
          | none => exact tame_failAt _ _
          | some q =>
              refine (tame_pure trivial).ite ((tame_setMember (hq q rfl)).bind fun last _ => ?_)
              exact (tame_setRange p q first last).bind fun _ _ => tame_setItems start fuel _

theorem tame_charSet (start : Nat) : Tame (charSet start) fun _ => True :=
  (tame_accept '^').bind fun _ _ => tame_get.bind fun _ _ =>
    (tame_setItems start _ []).bind fun _ _ => tame_pure trivial

/-- A parenthesis opens a group that is captured, and that has no name. -/
theorem tame_opened (start : Nat) : Tame (opened start) (· = .capture none) := by
  refine (tame_accept '?').bind fun b hb => ?_
  obtain rfl : b = false := Bool.eq_false_iff.mpr fun h => hb h rfl
  exact tame_pure rfl

/-! ### Expressions -/

theorem tame_closing (start : Nat) : Tame (closing start) fun _ => True :=
  (tame_accept ')').bind fun _ _ => (tame_failAt _ _).ite (tame_pure trivial)

theorem tame_openGroup : Tame (openGroup none) fun _ => True := by
  refine tame_get.bind fun s hs => ?_
  exact (tame_set (s := { s with widths := s.widths ++ [none] }) ⟨hs.rest, hs.flags⟩).bind
    fun _ _ => tame_pure trivial

theorem tame_closeGroup (index : Nat) (body : Node) :
    Tame (closeGroup index body) fun _ => True :=
  tame_modify fun _ hs => ⟨hs.rest, hs.flags⟩

/-- Sequences are tame if groups and shorter ones are. -/
theorem tame_alternatives (fuel : Nat) :
    (∀ verbose top first, Tame (alternatives verbose top first fuel) fun _ => True) ∧
    (∀ verbose top first items, Tame (sequence verbose top first fuel items) fun _ => True) ∧
    ∀ verbose start, Tame (group verbose start (.capture none) fuel) fun _ => True := by
  induction fuel with
  | zero => exact ⟨fun _ _ _ => tame_failAt _ _, fun _ _ _ _ => tame_failAt _ _,
      fun _ _ => tame_failAt _ _⟩
  | succ fuel ih =>
      obtain ⟨halternatives, hsequence, hgroup⟩ := ih
      refine ⟨fun verbose top first => ?_, fun verbose top first items => ?_,
        fun verbose start => ?_⟩
      · rw [alternatives]
        refine (hsequence _ _ _ _).bind fun item _ => (tame_accept '|').bind fun _ _ => ?_
        refine Tame.ite (tame_get.bind fun s _ => ?_) (tame_pure trivial)
        exact (halternatives _ _ _).bind fun _ _ => tame_pure trivial
      · rw [sequence]
        refine tame_peek.bind fun p hp => ?_
        cases p with
        | none => exact tame_pure trivial
        | some p =>
            obtain ⟨hescaped, -, hbrace, hmark⟩ := hp p rfl
            refine (tame_pure trivial).ite (tame_next.bind fun _ _ => ?_)
            refine Tame.ite (hsequence _ _ _ _) (Tame.ite ?_ ?_)
            · exact tame_get.bind fun _ _ => (tame_skipLine _).bind fun _ _ => hsequence _ _ _ _
            rw [hescaped, if_neg Bool.false_ne_true]
            split
            · exact (tame_charSet _).bind fun _ _ => hsequence _ _ _ _
            · exact hsequence _ _ _ _
            · exact hsequence _ _ _ _
            · exact hsequence _ _ _ _
            · next h => exact absurd h hmark
            · exact (tame_repeatLast _ _ _).bind fun _ _ => hsequence _ _ _ _
            · exact (tame_repeatLast _ _ _).bind fun _ _ => hsequence _ _ _ _
            · next h => exact absurd h hbrace
            · refine (tame_opened _).bind fun inner hinner => ?_
              subst hinner
              exact (hgroup _ _).bind fun _ _ => hsequence _ _ _ _
            · exact hsequence _ _ _ _
      · rw [group]
        refine tame_openGroup.bind fun index _ => (halternatives _ _ _).bind fun body _ => ?_
        refine (tame_closing start).bind fun _ _ => (tame_closeGroup index body).bind fun _ _ => ?_
        exact tame_pure trivial

end Parse

open Parse

/-- A whole expression is tame. -/
theorem tame_parseAll : Tame parseAll fun _ => True := by
  refine tame_checkEnd.bind fun _ _ => tame_get.bind fun s _ => ?_
  refine ((tame_alternatives _).1 _ _ _).bind fun node _ => tame_get.bind fun s' hs' => ?_
  rw [hs'.flags, Bool.false_and, if_neg Bool.false_ne_true]
  refine Tame.ite ((tame_fail _ _).bind (P := fun _ => True) fun _ _ => ?_) ?_
  all_goals
    split
    · exact tame_failAt _ _
    · refine Tame.ite ((tame_throw _ _).bind (P := fun _ => True) fun _ _ => ?_) ?_
      all_goals exact Tame.ite ((tame_throw _ _).bind (P := fun _ => True) fun _ _ =>
        tame_pure trivial) (tame_pure trivial)

/-- **No limit is met** where an expression has no backslash, brace or question mark: it is
refused only for a problem of its text. -/
theorem compile_problem [CharacterNames] {source : String} {ignoreCase : Bool} {e : Error}
    (hplain : ∀ c ∈ source.toList, IsPlainChar c) (h : compile source ignoreCase = .error e) :
    e.IsProblem := by
  let start : Reading := ⟨(Piece.scan 0 source.toList).1, source.toList.length,
    (Piece.scan 0 source.toList).2, { ignoreCase := ignoreCase }, [], [], none, [],
    inferInstance⟩
  have hstart : start.IsPlain := ⟨Piece.isPlain_scan hplain 0, rfl⟩
  refine (tame_parseAll start hstart).2 e ?_
  have hcompile : compile source ignoreCase =
      (Prod.fst <$> parseAll start).map fun parsed => ⟨source, ignoreCase, parsed⟩ := rfl
  rw [hcompile] at h
  cases hread : parseAll start with
  | ok p =>
      rw [hread] at h
      contradiction
  | error e' =>
      rw [hread] at h
      obtain rfl : e' = e := Except.error.inj h
      rfl

end DocLint.Regex
