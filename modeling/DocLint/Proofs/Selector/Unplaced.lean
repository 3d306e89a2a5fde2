import DocLint.Proofs.Selector.Accept

/-!
# DocLint.Proofs.Selector.Unplaced

**Positions are for messages only.** The scanner notes where each token starts, and the parser
hands that on to its faults. Nothing is decided by it: for tokens without their places
(`Token.unplaced`), the parser reads the same selector, or fails for the same reason in other
words (`blurred_parseTokens`).
-/

namespace DocLint

/-- A token without its place. -/
def Token.unplaced (t : Token) : Token := { t with position := 0 }

@[simp] theorem Token.unplaced_kind (t : Token) : t.unplaced.kind = t.kind := rfl

/-- A fault without its words: all faults of the text are one. -/
def Fault.blurred : Fault → Option Fault
  | .selector _ => none
  | fault => some fault

theorem Fault.of_blurred_none {fault : Fault} (h : fault.blurred = none) :
    ∃ error, fault = .selector error := by
  cases fault with
  | selector error => exact ⟨error, rfl⟩
  | _ => contradiction

theorem Fault.of_blurred_some {fault same : Fault} (h : fault.blurred = some same) :
    fault = same := by
  cases fault with
  | selector error => contradiction
  | _ => exact Option.some.inj h

namespace Selector

/-- What came of reading, a fault without its words. -/
def blurred {α : Type} (result : Except Fault α) : Except (Option Fault) α :=
  result.mapError Fault.blurred

variable {α β : Type} {left s : Selector} {t : Token} {ts : List Token}

theorem blurred_bind (m : Except Fault α) (f : α → Except Fault β) :
    blurred (m >>= f) = blurred m >>= fun a => blurred (f a) := by
  cases m <;> rfl

/-- Tokens behind what was read lose their places, too. -/
def unplacedRest (r : α × List Token) : α × List Token := (r.1, r.2.map Token.unplaced)

theorem nextToken_unplaced (ts : List Token) :
    nextToken (ts.map Token.unplaced) = (nextToken ts).unplaced := by
  cases ts <;> rfl

theorem blurred_ofToken (t : Token) : blurred (ofToken t.unplaced) = blurred (ofToken t) := by
  obtain ⟨kind, value, position, flags⟩ := t
  cases kind <;> rfl

variable [CharacterNames]

theorem blurred_parseChain (left : Selector) (ts : List Token) :
    blurred (parseChain left (ts.map Token.unplaced)) =
      (blurred (parseChain left ts)).map unplacedRest := by
  fun_induction parseChain left ts with
  | case1 left => rfl
  -- A combinator, and a node behind it.
  | case2 left t more hk ih =>
      have hcomb : combinatorOf t.unplaced = combinatorOf t := rfl
      rw [List.map_cons, parseChain.eq_def]
      simp only [Token.unplaced_kind, if_pos hk, hcomb, nextToken_unplaced, blurred_bind,
        blurred_ofToken]
      cases hkind : combinatorOf t with
      | error fault => rfl
      | ok kind =>
          cases hright : ofToken (nextToken more) with
          | error fault => rfl
          | ok right =>
              cases more with
              | nil => rfl
              | cons u more => exact ih kind right
  -- A pattern ends the tree.
  | case3 left t more hk hp following he =>
      have he' : endsTree (nextToken more).unplaced = true := he
      rw [List.map_cons, parseChain.eq_def]
      simp only [Token.unplaced_kind, if_neg hk, if_pos hp, nextToken_unplaced, if_pos he',
        blurred_bind]
      show (blurred (TextFilter.ofSource (t.value.getD "") t.flags) >>= _) = _
      cases TextFilter.ofSource (t.value.getD "") t.flags <;> rfl
  | case4 left t more hk hp following he =>
      have he' : ¬endsTree (nextToken more).unplaced = true := he
      rw [List.map_cons, parseChain.eq_def]
      simp only [Token.unplaced_kind, if_neg hk, if_pos hp, nextToken_unplaced, if_neg he']
      rfl
  -- Anything else is left to whoever reads on.
  | case5 left t more hk hp =>
      rw [List.map_cons, parseChain, Token.unplaced_kind, if_neg hk, if_neg hp]
      rfl

theorem blurred_parseTree (ts : List Token) :
    blurred (parseTree (ts.map Token.unplaced)) = (blurred (parseTree ts)).map unplacedRest := by
  simp only [parseTree, blurred_bind, nextToken_unplaced, blurred_ofToken, ← List.map_drop,
    blurred_parseChain]
  cases ofToken (nextToken ts) <;> rfl

/-- The trees behind commas, one step of reading after the other. -/
theorem parseMore_cons (t : Token) (rest : List Token) : parseMore (t :: rest) =
    if t.kind == .comma then do
      let (s, behind) ← parseTree rest
      let (more, behind) ← parseMore behind
      return (s :: more, behind)
    else .ok ([], t :: rest) := by
  rw [parseMore]
  simp only [parseTree]
  split
  · cases ofToken (nextToken rest) with
    | error fault => rfl
    | ok first =>
        simp only [bind, Except.bind]
        split
        · next h => rw [h]
        · next h =>
            rw [h]
            simp only []
            split <;> simp_all [pure, Except.pure]
  · rfl

/-- What follows the tree behind a comma is shorter than all from the comma on. -/
theorem length_of_parseTree {rest behind : List Token}
    (h : parseTree rest = .ok (s, behind)) (t : Token) :
    behind.length < (t :: rest).length := by
  obtain ⟨first, -, hchain⟩ := except_bind_eq_ok h
  exact length_behind_comma hchain t

theorem blurred_parseMore (ts : List Token) :
    blurred (parseMore (ts.map Token.unplaced)) = (blurred (parseMore ts)).map unplacedRest := by
  match ts with
  | [] =>
      rw [List.map_nil, parseMore]
      rfl
  | t :: rest =>
      rw [List.map_cons, parseMore_cons, parseMore_cons]
      by_cases hk : (t.kind == .comma) = true
      · rw [Token.unplaced_kind, if_pos hk, if_pos hk, blurred_bind, blurred_bind,
          blurred_parseTree]
        cases htree : parseTree rest with
        | error fault => rfl
        | ok r =>
            obtain ⟨s, behind⟩ := r
            have hshorter : behind.length < (t :: rest).length := length_of_parseTree htree t
            have ih := blurred_parseMore behind
            show blurred (parseMore (behind.map Token.unplaced) >>= _) =
              (blurred (parseMore behind >>= _)).map unplacedRest
            rw [blurred_bind, blurred_bind, ih]
            cases parseMore behind <;> rfl
      · rw [Token.unplaced_kind, if_neg hk, if_neg hk]
        rfl
termination_by ts.length
decreasing_by assumption

/-- **Positions decide nothing.** -/
theorem blurred_parseTokens (ts : List Token) :
    blurred (parseTokens (ts.map Token.unplaced)) = blurred (parseTokens ts) := by
  unfold parseTokens
  rw [blurred_bind, blurred_bind, blurred_parseTree]
  cases parseTree ts with
  | error fault => rfl
  | ok r =>
      obtain ⟨first, rest⟩ := r
      show blurred (parseMore (rest.map Token.unplaced) >>= _) = blurred (parseMore rest >>= _)
      rw [blurred_bind, blurred_bind, blurred_parseMore]
      cases parseMore rest with
      | error fault => rfl
      | ok r =>
          obtain ⟨more, behind⟩ := r
          show blurred (if (nextToken (behind.map Token.unplaced)).kind != .finish then _ else _) =
            blurred (if (nextToken behind).kind != .finish then _ else _)
          rw [nextToken_unplaced, Token.unplaced_kind]
          split <;> rfl

end Selector

end DocLint
