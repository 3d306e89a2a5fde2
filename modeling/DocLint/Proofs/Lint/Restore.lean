import DocLint.Proofs.Lint.Replies

/-!
# DocLint.Proofs.Lint.Restore

**What a run leaves alone.** Who listened to diagnostics before a run listens again
afterwards, and has heard nothing of the run. A run that fails leaves the document as it
was, also one that highlights: nothing is highlighted before the last question is
answered, and highlighting does not fail. What the run itself has heard is what the
questions emitted, up to the failure (`run_restores`).

Nothing of this hangs on who listens when the run begins. So a run is something that a
callback of another run may do (`spares_nested`), and the other run hears nothing of it.
-/

namespace DocLint

open Layout Highlight Callback

/-- A run that a callback starts. -/
def Callback.nested {α : Type} (m : StateM Session α) : M α := fun session =>
  .ok (m.run session).1 (m.run session).2

namespace Lint

variable {options : Options} {rules : List Rule} {x : Layout} {s t : Store} {replies : List Reply}

/-! ### The end of a run -/

/-- What a run that highlights reports in the end, if something was found at the root. -/
def rootDiagnostics (options : Options) (x : Layout) (replies : List Reply) : List Diagnostic :=
  if options.highlight ∧ ∃ q ∈ replies, x.ref = .object q.visit.node ∧ q.remark.isSome then
    [.make (.str "unhighlighted-root") ((x.tree.nodeType?.map Tree.str).getD .null)
      (.str "The root node can't be wrapped in a lint node")]
  else []

theorem remarksAt_eq_nil {node : Nat} :
    remarksAt replies node = [] ↔ ¬ ∃ q ∈ replies, node = q.visit.node ∧ q.remark.isSome := by
  simp only [remarksAt, List.filterMap_eq_nil_iff, List.mem_filter, beq_iff_eq, not_exists, not_and,
    and_imp, Option.not_isSome_iff_eq_none]
  exact ⟨fun h q hq hnode => h q hq hnode.symm, fun h q hq hnode => h q hq hnode.symm⟩

/-- Something was found at the root where there are remarks about it. -/
theorem remarks_eq_nil (ht : x.Holds t) (hreplies : ∀ q ∈ replies, x.HasNode q.visit.node) :
    x.remarks (remarksAt replies) = [] ↔
      ¬ ∃ q ∈ replies, x.ref = .object q.visit.node ∧ q.remark.isSome := by
  unfold remarks
  cases hid : x.id? with
  | none =>
      simp only [Option.map_none, Option.getD_none, ite_self, true_iff, not_exists, not_and]
      intro q _ href
      rw [Layout.id?_eq_some.mpr href] at hid
      contradiction
  | some n =>
      have href := Layout.id?_eq_some.mp hid
      rw [href, Option.map_some, Option.getD_some]
      by_cases hnode : x.isNode = true
      · simp only [hnode, if_true, Ref.object.injEq]
        exact remarksAt_eq_nil
      · simp only [if_neg hnode, true_iff, not_exists, not_and, Ref.object.injEq]
        rintro q hq rfl
        exact absurd ((isNode_of_holds ht).symm.trans (href ▸ hreplies q hq t ht)) hnode

theorem typeOf_of_holds (heard : Option (List Diagnostic)) (ht : x.Holds t) {type : String}
    (htype : x.tree.nodeType? = some type) : Session.typeOf ⟨t, heard⟩ x.ref = .str type := by
  rw [← nodeType?_of_holds ht] at htype
  unfold Store.nodeType? at htype
  unfold Session.typeOf
  split at htype
  · next hfield =>
      rw [hfield, ← Option.some.inj htype]
      simp only [Store.tree, Store.treeWithin]
  · contradiction

theorem rootReport_heard (h : options.highlight = true) (ht : x.Holds t)
    (hreplies : ∀ q ∈ replies, x.HasNode q.visit.node) (heard : Option (List Diagnostic)) :
    (rootReport (remarksAt replies) x ⟨t, heard⟩).heard =
      heard.map (· ++ rootDiagnostics options x replies) := by
  have hiff := remarks_eq_nil ht hreplies
  unfold rootReport rootDiagnostics
  by_cases hnone : x.remarks (remarksAt replies) = []
  · rw [if_pos hnone, if_neg fun hroot => hiff.mp hnone hroot.2]
    cases heard <;> simp
  · obtain ⟨q, hq, href, hremark⟩ := Classical.not_not.mp (mt hiff.mpr hnone)
    obtain ⟨type, htype⟩ : ∃ type, x.tree.nodeType? = some type := by
      have hnode := hreplies q hq t ht
      rw [← href, isNode_of_holds ht] at hnode
      exact Option.isSome_iff_exists.mp hnode
    rw [if_neg hnone, if_pos ⟨h, q, hq, href, hremark⟩, typeOf_of_holds heard ht htype, htype]
    rfl

/-- Highlighting does not fail, and reports nothing but findings at the root. -/
theorem highlightAll_flags (options : Options) (hlays : t.Lays x)
    (hreplies : ∀ q ∈ replies, x.HasNode q.visit.node) (heard : Option (List Diagnostic)) : ∃ u,
      highlightAll (flagsFor options (remarksAt replies) (x.visits .fresh)).reverse ⟨t, heard⟩ =
        .ok () ⟨u, heard.map (· ++ rootDiagnostics options x replies)⟩ ∧
      (options.highlight = false → u = t) := by
  cases hhighlight : options.highlight with
  | false =>
      refine ⟨t, ?_, fun _ => rfl⟩
      have hnone : rootDiagnostics options x replies = [] := by simp [rootDiagnostics, hhighlight]
      rw [flagsFor, hhighlight, hnone]
      cases heard <;> simp [highlightAll] <;> rfl
  | true =>
      obtain ⟨u, hreplay, -⟩ := replay_document (remarksAt replies) hlays heard
      rw [rootReport_heard hhighlight hlays.holds hreplies] at hreplay
      rw [flagsFor, hhighlight]
      exact ⟨u, hreplay, by simp⟩

/-- When all questions are replied to, the run comes to its end. -/
theorem walkAndHighlight_answered (hlays : s.Lays x)
    (hwalk : Walk.Careful x (visit options rules))
    (hanswered : Answered options x s (questionsOf (x.visits .fresh) rules) replies t)
    {c : Cursor} {p : Progress}
    (hvisits : Walk.visitAll (visit options rules) (x.visits .fresh)
      ⟨s, .fresh, start options.listen⟩ = .ok () ⟨t, c, p⟩)
    (hgained : Gained (emissions replies) (replies.filterMap Reply.finding)
      (flagsFor options (remarksAt replies) (x.visits .fresh)) (start options.listen) p) :
    ∃ w, walkAndHighlight options rules x.ref ⟨s, .fresh, start options.listen⟩ =
        .ok (replies.filterMap Reply.finding) w ∧
      w.data.heard = (start options.listen).heard.map
        (· ++ (emissions replies ++ rootDiagnostics options x replies)) ∧
      (options.highlight = false → w.store = t) := by
  have hdocument := Walk.document_careful hwalk (start options.listen) hlays
  rw [hvisits] at hdocument
  have hreplies : ∀ q ∈ replies, x.HasNode q.visit.node := fun q hq =>
    Part.hasNode (fun _ hs => hs) (hanswered.visit_mem q hq)
  obtain ⟨u, hhighlight, hsame⟩ := highlightAll_flags options
    ⟨hanswered.holds, hlays.unshared, hlays.keyed⟩ hreplies p.heard
  have hmark (c : Cursor) : inSession (highlightAll p.flagged) ⟨t, c, p⟩ =
      .ok () ⟨u, c, { p with heard := p.heard.map (· ++ rootDiagnostics options x replies) }⟩ := by
    have hrun : highlightAll p.flagged ⟨t, p.heard⟩ =
        (liftM (.ok () : Except Fault Unit) : Callback.M Unit)
          ⟨u, p.heard.map (· ++ rootDiagnostics options x replies)⟩ := by
      rw [hgained.flagged]
      exact (congrArg (highlightAll · _) (List.append_nil _)).trans hhighlight
    exact inSession_lift hrun
  have hfindings : p.findings.reverse = replies.filterMap Reply.finding := by
    rw [hgained.findings]
    exact (congrArg List.reverse (List.append_nil _)).trans (List.reverse_reverse _)
  refine ⟨_, (bind_ok hdocument).trans ((bind_ok (hmark _)).trans
    (congrArg (EStateM.Result.ok · _) hfindings)), ?_, hsame⟩
  show Option.map _ p.heard = _
  rw [hgained.heard]
  cases (start options.listen).heard <;> simp

/-- The diagnostics that a run has kept, if it listens. -/
def Options.kept (options : Options) (heard : List Diagnostic) : List Diagnostic :=
  if options.listen then heard else []

theorem diagnostics_start {heard : Option (List Diagnostic)} {emitted : List Diagnostic}
    (h : heard = (start options.listen).heard.map (· ++ emitted)) :
    heard.getD [] = options.kept emitted := by
  rw [h, start, Options.kept]
  cases options.listen <;> rfl

/-- A run that a callback starts is not heard by those who listen to the callback. -/
theorem comesTo_nested {α : Type} {m : StateM Session α} {a : α} {u : Store}
    (h : ∀ heard, m.run ⟨s, heard⟩ = (a, ⟨u, heard⟩)) : ComesTo (nested m) s (.ok a) u [] := by
  intro heard
  rw [nested, h heard]
  cases heard <;> simp <;> rfl

/-- **A run comes to its end, or a question ends it**, whoever listens when it begins. -/
theorem run_cases (hrules : ∀ r ∈ rules, r.Spares x.Holds) (hoptions : options.Spares x.Holds)
    (hlays : s.Lays x) : ∃ outcome u,
      (∀ heard, (run options rules x.ref).run ⟨s, heard⟩ = (outcome, ⟨u, heard⟩)) ∧
      ((∃ replies t, Answered options x s (questionsOf (x.visits .fresh) rules) replies t ∧
          outcome.findings = .ok (replies.filterMap Reply.finding) ∧
          outcome.diagnostics = options.kept
            (emissions replies ++ rootDiagnostics options x replies) ∧
          (options.highlight = false → u = t)) ∨
        ∃ replies fault emitted,
          Stopped options x s (questionsOf (x.visits .fresh) rules) replies fault emitted u ∧
          outcome.findings = .error fault ∧ outcome.diagnostics = options.kept emitted) := by
  have hwalk := careful_visit hrules hoptions
  have hnodes : ∀ v ∈ x.visits .fresh, x.HasNode v.node := fun v hv =>
    Part.hasNode (fun _ hs => hs) hv
  rcases visitAll_cases hrules hoptions hnodes (nodup_visits hlays) hlays.holds with
    ⟨replies, t, hanswered, hall⟩ | ⟨replies, fault, emitted, u, hstopped, hall⟩
  · obtain ⟨c, p, hvisits, hgained⟩ := hall .fresh (start options.listen)
    obtain ⟨w, hrun, hheard, hsame⟩ :=
      walkAndHighlight_answered hlays hwalk hanswered hvisits hgained
    have hends (heard : Option (List Diagnostic)) :
        (run options rules x.ref).run ⟨s, heard⟩ = ending ⟨s, heard⟩ _ := run_eq hrun
    exact ⟨_, w.store, hends,
      .inl ⟨replies, t, hanswered, rfl, diagnostics_start hheard, hsame⟩⟩
  · obtain ⟨c, p, hvisits, hheard⟩ := hall .fresh (start options.listen)
    have hdocument := Walk.document_careful hwalk (start options.listen) hlays
    rw [hvisits] at hdocument
    have hends (heard : Option (List Diagnostic)) :
        (run options rules x.ref).run ⟨s, heard⟩ = ending ⟨s, heard⟩ _ :=
      run_eq (bind_error hdocument)
    exact ⟨_, u, hends,
      .inr ⟨replies, fault, emitted, hstopped, rfl, diagnostics_start hheard⟩⟩

/-- A callback may lint the document that is being linted, if it does not highlight it. -/
theorem spares_nested (hrules : ∀ r ∈ rules, r.Spares x.Holds) (hoptions : options.Spares x.Holds)
    (hunshared : x.ids.Nodup) (hkeyed : x.tree.Keyed) (hplain : options.highlight = false) :
    Callback.Spares x.Holds (nested (run options rules x.ref)) fun _ => True := by
  intro s hs
  obtain ⟨outcome, u, hrun, hends⟩ := run_cases hrules hoptions ⟨hs, hunshared, hkeyed⟩
  refine ⟨.ok outcome, u, [], comesTo_nested hrun, ?_, fun _ _ => trivial⟩
  rcases hends with ⟨replies, t, hanswered, -, -, hsame⟩ | ⟨replies, fault, emitted, hstopped, -⟩
  · exact hsame hplain ▸ hanswered.holds
  · exact hstopped.holds

/-- **A run leaves everything as it was.** Whoever listens, a run comes to the same, and who
listens then has heard nothing of it, also where a callback of another run starts it. When
every rule is asked at every visit, the run has heard what these questions emitted, in
their order, and at the end of a finding at the root if it highlights. Where a question
fails, the run fails in the same way; it has heard what was emitted until then, and the
document is as it was. -/
theorem run_restores (hrules : ∀ r ∈ rules, r.Spares x.Holds) (hoptions : options.Spares x.Holds)
    (hlays : s.Lays x) : ∃ outcome u,
      (∀ heard, (run options rules x.ref).run ⟨s, heard⟩ = (outcome, ⟨u, heard⟩)) ∧
      ComesTo (nested (run options rules x.ref)) s (.ok outcome) u [] ∧
      ((∃ replies t, Answered options x s (questionsOf (x.visits .fresh) rules) replies t ∧
          outcome.findings = .ok (replies.filterMap Reply.finding) ∧
          outcome.diagnostics = options.kept
            (emissions replies ++ rootDiagnostics options x replies) ∧
          (options.highlight = false → u = t)) ∨
        ∃ replies fault emitted,
          Stopped options x s (questionsOf (x.visits .fresh) rules) replies fault emitted u ∧
          outcome.findings = .error fault ∧ outcome.diagnostics = options.kept emitted ∧
          u.tree x.ref = s.tree x.ref) := by
  obtain ⟨outcome, u, hrun, hends⟩ := run_cases hrules hoptions hlays
  refine ⟨outcome, u, hrun, comesTo_nested hrun, hends.imp_right ?_⟩
  rintro ⟨replies, fault, emitted, hstopped, hfindings, hdiagnostics⟩
  refine ⟨replies, fault, emitted, hstopped, hfindings, hdiagnostics, ?_⟩
  rw [tree_of_holds hstopped.holds hlays.unshared, tree_of_holds hlays.holds hlays.unshared]

/-- Whether something failed with a certain fault can be seen. -/
instance {α : Type} (result : Except Fault α) (fault : Fault) :
    Decidable (result = .error fault) :=
  match result with
  | .ok _ => isFalse nofun
  | .error fault' => decidable_of_iff (fault' = fault) ⟨congrArg _, Except.error.inj⟩

/-- Reports a diagnostic about every text, and finds nothing. -/
def noticing : Rule :=
  ⟨.str "noticing", .type "text", none, .ask fun nodes _ => do
    modify fun session => session.report "noticed" (session.typeOf (nodes.headD .null)) (.str "")
    return .value .null⟩

/-- Lints the document again at every text, with an ear for diagnostics, then reports a
diagnostic of its own, and finds something. -/
def relinting : Rule :=
  ⟨.str "relinting", .type "text", none, .ask fun nodes _ => do
    let _ ← nested (run { listen := true } [noticing] oneText.ref)
    modify fun session => session.report "relinted" (session.typeOf (nodes.headD .null)) (.str "")
    return .finding ⟨.null, .str "odd", .int 1, .int 2⟩⟩

/-- Fails at the root of `oneText`. -/
def failing : Rule :=
  ⟨.str "failing", .type "doc", none, .ask fun _ _ => throw (.type .keyPlusOne)⟩

theorem spares_noticing : ∀ r ∈ [noticing], r.Spares oneText.Holds := by
  intro r hr callback haction nodes found
  obtain rfl := List.mem_singleton.mp hr
  obtain rfl := Action.ask.inj haction
  exact (returns_report _ _ _).spares.bind fun _ _ => spares_pure (remarks_value .null)

theorem spares_relinting : relinting.Spares oneText.Holds := by
  intro callback haction nodes found
  obtain rfl := Action.ask.inj haction
  have hremarks : Answer.Remarks (.finding ⟨.null, .str "odd", .int 1, .int 2⟩) :=
    fun rule size finding h => ⟨some ⟨rule, "odd", 1, 2⟩, (Except.ok.inj h).symm⟩
  refine (spares_nested spares_noticing (fun _ h => by contradiction) lays_oneText.unshared
    lays_oneText.keyed rfl).bind fun _ _ => ?_
  exact (returns_report _ _ _).spares.bind fun _ _ => spares_pure hremarks

theorem spares_failing : failing.Spares oneText.Holds := by
  intro callback haction nodes found
  obtain rfl := Action.ask.inj haction
  have hfails (s : Store) : ComesTo (throw (.type .keyPlusOne) : M Answer) s
      (.error (.type .keyPlusOne)) s [] := comesTo_lift (.error (.type .keyPlusOne)) s
  exact fun s hs => ⟨_, s, [], hfails s, hs, fun _ h => by simp at h⟩

/-- A run with a failing rule, in which a callback starts another run. -/
def relintingRun : Outcome × Session :=
  (run { highlight := true, listen := true } [relinting, failing] oneText.ref).run
    ⟨oneTextStore, none⟩

theorem relintingRun_outcome : relintingRun.1.findings = .error (.type .keyPlusOne) ∧
    relintingRun.1.diagnostics = [.make (.str "relinted") (.str "text") (.str "")] :=
  ⟨by decide +kernel, by decide +kernel⟩

/-- The text is found odd, and its callback lints the document in a run of its own; then the
root fails. Nothing is highlighted, and nobody hears what the other run has heard. -/
theorem run_restores_relinting :
    ((∀ r ∈ [relinting, failing], r.Spares oneText.Holds) ∧
      Options.Spares oneText.Holds { highlight := true, listen := true } ∧
      oneTextStore.Lays oneText) ∧
    ∃ outcome u, (∀ heard, (run { highlight := true, listen := true } [relinting, failing]
        oneText.ref).run ⟨oneTextStore, heard⟩ = (outcome, ⟨u, heard⟩)) ∧
      outcome.findings = .error (.type .keyPlusOne) ∧
      outcome.diagnostics = [.make (.str "relinted") (.str "text") (.str "")] ∧
      u.tree oneText.ref = oneTextStore.tree oneText.ref := by
  have hrules : ∀ r ∈ [relinting, failing], r.Spares oneText.Holds := by
    simp only [List.forall_mem_cons]
    exact ⟨spares_relinting, spares_failing, by simp⟩
  have hoptions : Options.Spares oneText.Holds { highlight := true, listen := true } :=
    fun report h => by simp at h
  obtain ⟨outcome, u, hrun, -, hends⟩ := run_restores hrules hoptions lays_oneText
  have houtcome : relintingRun.1 = outcome := congrArg Prod.fst (hrun none)
  obtain ⟨hfails, hheard⟩ := relintingRun_outcome
  rw [houtcome] at hfails hheard
  refine ⟨⟨hrules, hoptions, lays_oneText⟩, outcome, u, hrun, hfails, hheard, ?_⟩
  rcases hends with ⟨replies, t, -, hfindings, -⟩ | ⟨replies, fault, emitted, -, -, -, htree⟩
  · rw [hfindings] at hfails
    simp at hfails
  · exact htree

end Lint

end DocLint
