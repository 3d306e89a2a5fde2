import DocLint.Regex

/-!
# DocLint.Proofs.Regex.Forward

**A match lies inside the text.** A matcher takes characters off the front and leaves the rest
to the goal behind it, so what it answers is what the goal answers somewhere ahead
(`Matcher.Forward`). Each form of expression has this property if its parts have it; repetition
keeps it from one round to the next, and to look around comes back to where it started. So a
search finds spans inside the text only (`search?_within`).
-/

namespace DocLint.Regex

/-- The attempt `b` is no farther back in the text than `a`, and still in it. -/
def Ahead (text : Array Char) (a b : Attempt) : Prop :=
  a.position ≤ b.position ∧ (a.position ≤ text.size → b.position ≤ text.size)

/-- What the matcher answers is what its goal answers somewhere ahead. -/
def Matcher.Forward (text : Array Char) (m : Matcher) : Prop :=
  ∀ (goal : Goal) (a b : Attempt), m goal a = some b → ∃ c, Ahead text a c ∧ goal c = some b

variable {text : Array Char} {a b c : Attempt} {m : Matcher} {goal : Goal}

theorem Ahead.refl (a : Attempt) : Ahead text a a := ⟨Nat.le_refl _, id⟩

theorem Ahead.trans (h : Ahead text a b) (h' : Ahead text b c) : Ahead text a c :=
  ⟨Nat.le_trans h.1 h'.1, h'.2 ∘ h.2⟩

/-- What is there to be read is in the text. -/
theorem ahead_next {d : Char} (h : text[a.position]? = some d) :
    Ahead text a { a with position := a.position + 1 } := by
  obtain ⟨hlt, -⟩ := Array.getElem?_eq_some_iff.mp h
  exact ⟨Nat.le_succ _, fun _ => hlt⟩

/-- A match of its own ends ahead. -/
theorem Matcher.Forward.ahead (h : m.Forward text) (hm : m some a = some b) : Ahead text a b := by
  obtain ⟨c, hc, hgoal⟩ := h some a b hm
  obtain rfl := Option.some.inj hgoal
  exact hc

theorem or_else_eq_some {α : Type} {x : Option α} {y : Unit → Option α} {z : α}
    (h : x.orElse y = some z) : x = some z ∨ y () = some z := by
  cases x with
  | none => exact .inr h
  | some w => exact .inl h

/-! ### Single characters and the text of a group -/

theorem forward_oneChar (test : Char → Bool) : (oneChar text test).Forward text := by
  intro goal a b h
  unfold oneChar at h
  split at h
  · next d hd =>
      split at h
      · exact ⟨_, ahead_next hd, h⟩
      · contradiction
  · contradiction

theorem forward_sameText (same : Char → Char → Bool) (count : Nat) (span : Span) :
    (sameText text same count span).Forward text := by
  induction count generalizing span with
  | zero => exact fun goal a b h => ⟨a, .refl a, h⟩
  | succ count ih =>
      intro goal a b h
      unfold sameText at h
      split at h
      · next hd =>
          split at h
          · obtain ⟨c, hc, hgoal⟩ := ih _ goal _ b h
            exact ⟨c, (ahead_next hd).trans hc, hgoal⟩
          · contradiction
      · contradiction

/-! ### Repetition -/

theorem forward_rounds (hm : m.Forward text) (eager : Bool) (least : Nat) (most : Option Nat)
    (budget count : Nat) (last : Option Nat) :
    Matcher.Forward text fun goal => rounds eager m least most goal budget count last := by
  induction budget generalizing count last with
  | zero =>
      intro goal a b h
      contradiction
  | succ budget ih =>
      intro goal a b h
      -- One more round, and the rounds behind it.
      have hround : ∀ last, m (rounds eager m least most goal budget (count + 1) last) a = some b →
          ∃ c, Ahead text a c ∧ goal c = some b := by
        intro last h
        obtain ⟨c, hc, hmore⟩ := hm _ a b h
        obtain ⟨d, hd, hgoal⟩ := ih (count + 1) last goal c b hmore
        exact ⟨d, hc.trans hd, hgoal⟩
      have hagain : (if mayRepeat most count && last != some a.position then
          m (rounds eager m least most goal budget (count + 1) (some a.position)) a
        else none) = some b → ∃ c, Ahead text a c ∧ goal c = some b := by
        intro h
        split at h
        · exact hround _ h
        · contradiction
      have hdone : goal a = some b → ∃ c, Ahead text a c ∧ goal c = some b :=
        fun h => ⟨a, .refl a, h⟩
      simp only [rounds] at h
      split at h
      · exact hround _ h
      · split at h
        · exact (or_else_eq_some h).elim hagain hdone
        · exact (or_else_eq_some h).elim hdone hagain

theorem forward_firmRounds (hm : m.Forward text) (least : Nat) (most : Option Nat)
    (budget count : Nat) (last : Option Nat) :
    Matcher.Forward text fun goal => firmRounds m least most goal budget count last := by
  induction budget generalizing count last with
  | zero =>
      intro goal a b h
      contradiction
  | succ budget ih =>
      intro goal a b h
      have hmore : ∀ last c, m some a = some c →
          firmRounds m least most goal budget (count + 1) last c = some b →
            ∃ d, Ahead text a d ∧ goal d = some b := by
        intro last c hround h
        obtain ⟨d, hd, hgoal⟩ := ih (count + 1) last goal c b h
        exact ⟨d, (hm.ahead hround).trans hd, hgoal⟩
      simp only [firmRounds] at h
      split at h
      · split at h
        · next c hround => exact hmore _ c hround h
        · contradiction
      · split at h
        · split at h
          · next c hround => exact hmore _ c hround h
          · exact ⟨a, .refl a, h⟩
        · exact ⟨a, .refl a, h⟩

/-! ### Expressions -/

/-- **Every expression matches forward.** -/
theorem forward_matcher (groups : Nat → Width) (node : Node) (flags : Flags) :
    (node.matcher text groups flags).Forward text := by
  induction node generalizing flags with
  | empty => exact fun goal a b h => ⟨a, .refl a, h⟩
  | code | any | set => exact forward_oneChar _
  | anchor condition =>
      intro goal a b h
      simp only [Node.matcher] at h
      split at h
      · exact ⟨a, .refl a, h⟩
      · contradiction
  | seq first second ihFirst ihSecond =>
      intro goal a b h
      obtain ⟨c, hc, hsecond⟩ := ihFirst flags _ a b h
      obtain ⟨d, hd, hgoal⟩ := ihSecond flags goal c b hsecond
      exact ⟨d, hc.trans hd, hgoal⟩
  | alt first second ihFirst ihSecond =>
      intro goal a b h
      rcases or_else_eq_some h with h | h
      · exact ihFirst flags goal a b h
      · exact ihSecond flags goal a b h
  | capture index body ih =>
      intro goal a b h
      obtain ⟨c, hc, hgoal⟩ := ih flags _ a b h
      exact ⟨c.keep index (a.position, c.position), hc, hgoal⟩
  | scope on off body ih => exact ih _
  | loop greed least most body ih =>
      intro goal a b h
      cases greed with
      | greedy => exact forward_rounds (ih flags) _ _ _ _ _ _ goal a b h
      | lazy => exact forward_rounds (ih flags) _ _ _ _ _ _ goal a b h
      | possessive => exact forward_firmRounds (ih flags) _ _ _ _ _ goal a b h
  | atomic body ih =>
      intro goal a b h
      obtain ⟨c, hbody, hgoal⟩ := Option.bind_eq_some_iff.mp h
      exact ⟨c, (ih flags).ahead hbody, hgoal⟩
  | look ahead wanted body ih =>
      intro goal a b h
      simp only [Node.matcher] at h
      -- Wherever the look went, the goal goes on from where it started.
      split at h
      · next c _ =>
          split at h
          · exact ⟨{ c with position := a.position }, ⟨Nat.le_refl _, id⟩, h⟩
          · contradiction
      · split at h
        · contradiction
        · exact ⟨a, .refl a, h⟩
  | backref index =>
      intro goal a b h
      simp only [Node.matcher] at h
      split at h
      · contradiction
      · exact forward_sameText _ _ _ goal a b h
  | cond index yes no ihYes ihNo =>
      intro goal a b h
      simp only [Node.matcher] at h
      split at h
      · exact ihYes flags goal a b h
      · exact ihNo flags goal a b h

/-! ### Searches -/

/-- The span of a match lies in a text of a size. -/
def Found.Within (size : Nat) (found : Found) : Prop :=
  found.whole.1 ≤ found.whole.2 ∧ found.whole.2 ≤ size

theorem matchAt?_within {r : Regex} {start : Nat} {found : Found} (hstart : start ≤ text.size)
    (h : r.matchAt? text start = some found) : found.Within text.size := by
  obtain ⟨b, hb, rfl⟩ := Option.map_eq_some_iff.mp h
  have hahead := (forward_matcher _ _ _).ahead hb
  exact ⟨hahead.1, hahead.2 hstart⟩

theorem searchFrom?_within {r : Regex} {count start : Nat} {found : Found}
    (hstart : start + count ≤ text.size) (h : r.searchFrom? text count start = some found) :
    found.Within text.size := by
  induction count generalizing start with
  | zero => exact matchAt?_within hstart h
  | succ count ih =>
      rcases or_else_eq_some h with h | h
      · exact matchAt?_within (by omega) h
      · exact ih (by omega) h

/-- **What a search finds lies inside the text.** -/
theorem search?_within {r : Regex} {text : String} {found : Found}
    (h : r.search? text = some found) : found.Within text.length := by
  have hsize : text.toList.toArray.size = text.length := String.length_toList
  rw [← hsize]
  exact searchFrom?_within (by simp) h

end DocLint.Regex
