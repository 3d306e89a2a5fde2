import DocLint.Generate.Source

/-!
# DocLint.Proofs.Generate.Always

**What holds of everything that can be made by chance.** `Always m P` says that `m` makes
something with the property `P` from every state of every source, so whatever the draws are.
It is kept by sequences (`Always.bind`), and each way to choose has a lemma about what can be
chosen.
-/

namespace DocLint.Generate

variable {σ α β : Type} {P P' : α → Prop} {Q : β → Prop} {m : Gen σ α}

/-- Whatever is drawn, what is made has the property. -/
def Always (m : Gen σ α) (P : α → Prop) : Prop := ∀ g, P (m.run g).1

theorem Always.mono (h : Always m P) (hp : ∀ a, P a → P' a) : Always m P' := fun g => hp _ (h g)

theorem Always.bind {f : α → Gen σ β} (hm : Always m P) (hf : ∀ a, P a → Always (f a) Q) :
    Always (m >>= f) Q :=
  fun g => hf _ (hm g) _

theorem always_pure {a : α} (h : P a) : Always (pure a : Gen σ α) P := fun _ => h

/-- Nothing is known of what is made, as of a draw. -/
theorem always_any : Always m fun _ => True := fun _ => trivial

theorem Always.ite {c : Prop} [Decidable c] {n : Gen σ α} (hm : Always m P) (hn : Always n P) :
    Always (if c then m else n) P := by
  split
  · exact hm
  · exact hn

theorem Always.times (h : Always m P) :
    ∀ n, Always (times m n) fun as => as.length = n ∧ ∀ a ∈ as, P a
  | 0 => always_pure ⟨rfl, List.forall_mem_nil _⟩
  | n + 1 => h.bind fun _ ha => (h.times n).bind fun _ has =>
      always_pure ⟨congrArg (· + 1) has.1, List.forall_mem_cons.mpr ⟨ha, has.2⟩⟩

variable [Source σ]

theorem always_between {first last : Nat} (h : first ≤ last) :
    Always (between first last : Gen σ Nat) fun n => first ≤ n ∧ n ≤ last := by
  refine always_any.bind fun d _ => always_pure ?_
  have hlt : d % (last + 1 - first) < last + 1 - first := Nat.mod_lt _ (by omega)
  omega

theorem always_oneOf {head : α} {tail : List α} (h : ∀ a ∈ head :: tail, P a) :
    Always (oneOf head tail : Gen σ α) P := by
  refine always_any.bind fun d _ => always_pure ?_
  cases hchosen : (head :: tail)[d % (tail.length + 1)]? with
  | none => exact h head List.mem_cons_self
  | some a => exact h a (List.mem_of_getElem? hchosen)

theorem Always.upTo (h : Always m P) (most : Nat) : Always (upTo most m) fun as => ∀ a ∈ as, P a :=
  always_any.bind fun n _ => (h.times n).mono fun _ has => has.2

end DocLint.Generate
