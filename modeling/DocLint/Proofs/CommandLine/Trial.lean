import DocLint.CommandLine.Trial
import DocLint.Proofs.Check
import DocLint.Proofs.Generate.Document
import DocLint.Proofs.Generate.Selector

/-!
# DocLint.Proofs.CommandLine.Trial

**No trial fails**, whatever is drawn (`trials_pass`). What is made by chance is regular, and what
is asked of a document holds of every regular one (`attempt_ok`); so a trial passes
(`trial_passes`), and with it all trials of a run (`trialsFrom_passes`).
-/

namespace DocLint.CommandLine.Trial

open Generate

variable [CharacterNames]

/-- A regular document passes with every selector that is read, or refused as a selector. -/
theorem attempt_ok {levels : Nat} {document : Tree} {selector : String}
    (hdocument : document.Regular levels)
    (hselector : (∃ s, Selector.parse selector = .ok s) ∨
      ∃ error, Selector.parse selector = .error (.selector error)) :
    attempt document selector = .ok () := by
  obtain ⟨x, store, hadd, htree, hlays⟩ := Layout.lays_add document .empty hdocument.keyed
  have hx : x.Unmixed := Layout.unmixed_iff.mpr (htree ▸ hdocument.unmixed)
  rw [attempt, hadd]
  exact (Check.bind_of_ok (Check.selector_ok hlays hx hselector)).trans
    (Check.document_ok hlays hx (htree ▸ hdocument.writable) (htree ▸ hdocument.bare))

variable {σ : Type} [Source σ]

/-- One trial. -/
theorem trial_passes (r : Request) (number : Nat) (t : Tally) :
    Always (trial r number t : Gen σ Tally) fun t' =>
      t'.passed = t.passed + 1 ∧ t'.failures = t.failures := by
  refine always_document.bind fun document hdocument => ?_
  refine always_anySelector.bind fun selector hselector => ?_
  rw [attempt_ok hdocument hselector]
  refine always_pure ⟨?_, ?_⟩ <;> dsimp only <;> split <;> rfl

/-- All trials of a run. -/
theorem trialsFrom_passes (r : Request) (count number : Nat) (t : Tally) :
    Always (trialsFrom r count number t : Gen σ Tally) fun t' =>
      t'.passed = t.passed + count ∧ t'.failures = t.failures := by
  induction count generalizing number t with
  | zero => exact always_pure ⟨rfl, rfl⟩
  | succ count ih =>
      refine (trial_passes r number t).bind fun t' h => (ih (number + 1) t').mono fun t'' h' => ?_
      exact ⟨by rw [h'.1, h.1]; omega, h'.2.trans h.2⟩

/-- **No trial fails.** Whatever is drawn, of the document that is made no list has both nodes and
other values in it, its text leaves have nothing inside them, and no more than seven of its nodes
stand inside one another. The selector that is made is read, or refused as a selector, and one that
is made to be well-formed is read. Both pass all checks, and a run of the program ends well. -/
theorem trials_pass (g g' : σ) :
    let document := ((Generate.document : Gen σ Tree).run g).1
    let selector := ((anySelector : Gen σ String).run g').1
    document.Regular 7 ∧
    ((∃ s, Selector.parse selector = .ok s) ∨
      ∃ error, Selector.parse selector = .error (.selector error)) ∧
    (∃ s, Selector.parse ((validSelector : Gen σ String).run g').1 = .ok s) ∧
    attempt document selector = .ok () ∧
    ∀ r : Request, ((runTrials r : Gen σ Output).run g).1.ending = .stopped 0 := by
  have hdocument := always_document g
  have hselector := always_anySelector g'
  refine ⟨hdocument, hselector, always_validSelector g', attempt_ok hdocument hselector, ?_⟩
  intro r
  have hends : Always (runTrials r : Gen σ Output) fun output => output.ending = .stopped 0 := by
    refine (trialsFrom_passes r r.trials.toNat 0 {}).bind fun t h => always_pure ?_
    rw [h.2]
    rfl
  exact hends g

end DocLint.CommandLine.Trial
