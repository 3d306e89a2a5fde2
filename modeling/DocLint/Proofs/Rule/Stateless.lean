import DocLint.Proofs.Rule.Spares

/-!
# DocLint.Proofs.Rule.Stateless

**Stateless rules** answer the same whenever they are asked the same about a document,
and leave the document alone. They may fail, and they may report diagnostics; who
listens to these makes no difference to the answer.

`Callback.Reads` says this of any computation of a callback, and is kept by the
sequence of computations (`Reads.bind`). So the question to a rule reads if its callback
does (`Rule.Stateless.check`). The built-in rules are stateless, as they spare every
document (`stateless_rules`).
-/

namespace DocLint

namespace Callback

variable {α β : Type} {P : α → Prop} {Q : β → Prop} {m : M α}

/-- The computation leaves the document alone, whether it fails and what it returns does
not hang on who listens, and what it returns has a property. -/
def Reads (m : M α) (P : α → Prop) : Prop :=
  ∀ s : Store, ∃ result : Except Fault α,
    (∀ heard, ∃ heard', m ⟨s, heard⟩ = (liftM result : M α) ⟨s, heard'⟩) ∧
    ∀ a, result = .ok a → P a

/-- What a computation comes to when no one listens. -/
def quietly (m : M α) (s : Store) : Except Fault α :=
  match m.run ⟨s, none⟩ with
  | .ok a _ => .ok a
  | .error fault _ => .error fault

theorem quietly_eq {s t : Store} {result : Except Fault α} {heard : Option (List Diagnostic)}
    (h : m ⟨s, none⟩ = (liftM result : M α) ⟨t, heard⟩) : quietly m s = result := by
  rw [quietly, EStateM.run, h]
  cases result <;> rfl

/-- What is made of the result of a computation. -/
theorem quietly_bind_lift (m : M α) (f : α → Except Fault β) (s : Store) :
    quietly (m >>= fun a => liftM (f a)) s = (quietly m s >>= f) := by
  unfold quietly EStateM.run
  cases hrun : m ⟨s, none⟩ with
  | error fault w => rw [DocLint.bind_error hrun]; rfl
  | ok a w =>
      rw [DocLint.bind_ok hrun]
      show _ = f a
      cases f a <;> rfl

/-- A computation that reads comes to the same whoever listens. -/
theorem Reads.eq_quietly (h : Reads m P) (s : Store) (heard : Option (List Diagnostic)) :
    ∃ heard', m ⟨s, heard⟩ = (liftM (quietly m s) : M α) ⟨s, heard'⟩ := by
  obtain ⟨result, hrun, -⟩ := h s
  obtain ⟨_, hnone⟩ := hrun none
  rw [quietly_eq hnone]
  exact hrun heard

theorem Reads.of_quietly (h : Reads m P) {s : Store} {a : α} (ha : quietly m s = .ok a) : P a := by
  obtain ⟨result, hrun, hP⟩ := h s
  obtain ⟨_, hnone⟩ := hrun none
  exact hP a (quietly_eq hnone ▸ ha)

theorem reads_lift {result : Except Fault α} (h : ∀ a, result = .ok a → P a) :
    Reads (liftM result : M α) P :=
  fun _ => ⟨result, fun heard => ⟨heard, rfl⟩, h⟩

theorem reads_pure {a : α} (h : P a) : Reads (pure a) P :=
  fun _ => ⟨.ok a, fun heard => ⟨heard, rfl⟩, fun _ heq => Except.ok.inj heq ▸ h⟩

theorem Reads.bind {f : α → M β} (hm : Reads m P) (hf : ∀ a, P a → Reads (f a) Q) :
    Reads (m >>= f) Q := by
  intro s
  obtain ⟨result, hrun, hP⟩ := hm s
  cases result with
  | error fault =>
      refine ⟨.error fault, ?_, by simp⟩
      intro heard
      obtain ⟨heard', hfault⟩ := hrun heard
      exact ⟨heard', bind_error hfault⟩
  | ok a =>
      obtain ⟨result', hmore, hQ⟩ := hf a (hP a rfl) s
      refine ⟨result', ?_, hQ⟩
      intro heard
      obtain ⟨heard₁, hfirst⟩ := hrun heard
      obtain ⟨heard₂, hsecond⟩ := hmore heard₁
      exact ⟨heard₂, (bind_ok hfirst).trans hsecond⟩

/-- To look at the document is to read. -/
theorem reads_get {f : Session → M α}
    (h : ∀ s, ∃ g : M α, (∀ heard, f ⟨s, heard⟩ = g) ∧ Reads g P) : Reads (get >>= f) P := by
  intro s
  obtain ⟨g, hf, hg⟩ := h s
  obtain ⟨result, hrun, hP⟩ := hg s
  refine ⟨result, ?_, hP⟩
  intro heard
  rw [get_bind, hf heard]
  exact hrun heard

/-- A computation that keeps the document as it is, whatever it is, reads it. -/
theorem Spares.reads (h : ∀ s : Store, Spares (· = s) m P) : Reads m P := by
  intro s
  obtain ⟨result, t, emitted, hrun, rfl, hP⟩ := h s s rfl
  exact ⟨result, fun heard => ⟨_, hrun heard⟩, hP⟩

end Callback

open Callback

/-! ### Rules -/

/-- The callback reads the document, and answers nothing or remarks. -/
def Callback.Stateless (callback : Callback) : Prop :=
  ∀ nodes found, Reads (callback nodes found) Answer.Remarks

/-- A rule with a message is stateless, and one with a stateless callback. -/
def Rule.Stateless (r : Rule) : Prop := ∀ callback, r.action = .ask callback → callback.Stateless

/-- What a rule answers at a node when no one listens. -/
def Rule.asked (r : Rule) (s : Store) (c : Cursor) (content : String) :
    Except Fault (Option Finding) :=
  quietly (r.check c content) s

theorem Rule.Stateless.check {r : Rule} (h : r.Stateless) (c : Cursor) (content : String) :
    Reads (r.check c content) fun found => ∃ remark : Option Remark,
      found = remark.map Remark.finding ∧ ∀ m ∈ remark, m.rule = r.name := by
  refine reads_get fun s =>
    ⟨liftM (Rule.target? s c content r.alternatives) >>= _, fun heard => rfl, ?_⟩
  refine Reads.bind (reads_lift fun _ _ => trivial) ?_
  intro target _
  cases target with
  | none => exact reads_pure ⟨none, rfl, by simp⟩
  | some target =>
      obtain ⟨nodes, found⟩ := target
      have hanswer (answer : Answer) (hremarks : answer.Remarks) :
          Reads (liftM (answer.finding? r.name content.length) : M (Option Finding)) fun found =>
            ∃ remark : Option Remark, found = remark.map Remark.finding ∧
              ∀ m ∈ remark, m.rule = r.name := by
        refine reads_lift fun finding hfinding => ?_
        obtain ⟨remark, rfl⟩ := hremarks _ _ _ hfinding
        refine ⟨remark, rfl, ?_⟩
        intro m hm
        obtain rfl : remark = some m := hm
        exact rule_of_finding? hfinding
      refine Reads.bind ?_ hanswer
      cases haction : r.action with
      | message text =>
          refine reads_pure ?_
          intro rule size finding hfinding
          exact ⟨some ⟨rule, text, found.start, found.stop⟩, (Except.ok.inj hfinding).symm⟩
      | ask callback => exact h callback haction nodes found

/-- A rule that spares every document as it is, is stateless. -/
theorem Rule.Spares.stateless {r : Rule} (h : ∀ s : Store, r.Spares (· = s)) : r.Stateless :=
  fun callback haction nodes found => Spares.reads fun s => h s callback haction nodes found

/-- **The built-in rules** are stateless. -/
theorem Catalogue.stateless_rules (config : Config) : ∀ r ∈ rules config, r.Stateless :=
  fun r hr => Rule.Spares.stateless fun _ => spares_rules config _ r hr

end DocLint
