import DocLint.Proofs.Lint.Replay
import DocLint.Proofs.Rule.Stateless
import DocLint.Proofs.Walk.Plain

/-!
# DocLint.Proofs.Lint.Run

**A run that highlights** leaves the pure rebuild of the document (`run_highlight`), if
its rules are stateless. What such rules say about a node can be told without the run
(`answers`), as the document is the same at every visit and nothing else matters.

A run is then a walk that changes nothing (`steady_visit`), which keeps the nodes
with findings (`visitAll_answers`), and the replay of what was kept.
-/

namespace DocLint.Lint

open Layout Highlight

/-- What rules answer at a visit, in the order of the rules. -/
def answers (s : Store) (v : Visit) : List Rule → Except Fault (List Finding)
  | [] => return []
  | rule :: rest => do
    let found ← rule.asked s v.cursor v.content
    return found.toList ++ (← answers s v rest)

variable {s : Store} {c : Cursor} {rules : List Rule}

/-- The remarks are made in the names of the rules. -/
def Signed (rules : List Rule) (remarks : List Remark) : Prop :=
  ∀ m ∈ remarks, ∃ r ∈ rules, m.rule = r.name

theorem answers_remarks (hrules : ∀ r ∈ rules, r.Stateless) {v : Visit} {found : List Finding}
    (h : answers s v rules = .ok found) :
    ∃ remarks : List Remark, found = remarks.map Remark.finding ∧ Signed rules remarks := by
  induction rules generalizing found with
  | nil =>
      obtain rfl : [] = found := Except.ok.inj h
      exact ⟨[], rfl, List.forall_mem_nil _⟩
  | cons r rest ih =>
      obtain ⟨hr, hrest⟩ := List.forall_mem_cons.mp hrules
      rw [answers] at h
      cases hasked : r.asked s v.cursor v.content with
      | error fault => simp [hasked, bind, Except.bind] at h
      | ok asked =>
          obtain ⟨remark, rfl, hname⟩ := (hr.check v.cursor v.content).of_quietly hasked
          cases hmore : answers s v rest with
          | error fault => simp [hasked, hmore, bind, Except.bind] at h
          | ok more =>
              obtain ⟨remarks, rfl, hsigned⟩ := ih hrest hmore
              refine ⟨remark.toList ++ remarks, ?_, ?_⟩
              · simp only [hasked, hmore, bind, Except.bind, pure, Except.pure,
                  Except.ok.injEq] at h
                rw [← h, List.map_append]
                cases remark <;> rfl
              · intro m hm
                rcases List.mem_append.mp hm with hm | hm
                · exact ⟨r, List.mem_cons_self, hname m (Option.mem_toList.mp hm)⟩
                · obtain ⟨r', hr', hrule⟩ := hsigned m hm
                  exact ⟨r', List.mem_cons_of_mem _ hr', hrule⟩

/-! ### One visit -/

/-- Highlight the document, and tell nobody of the findings. -/
def highlighting (listen : Bool) : Options := { highlight := true, listen := listen }

theorem inSession_lift {α : Type} {m : Callback.M α} {result : Except Fault α} {p : Progress}
    {t : Store} {heard : Option (List Diagnostic)}
    (h : m ⟨s, p.heard⟩ = (liftM result : Callback.M α) ⟨t, heard⟩) :
    inSession m ⟨s, c, p⟩ = (liftM result : Walk Progress α) ⟨t, c, { p with heard := heard }⟩ := by
  rw [inSession, get_bind, EStateM.run, h]
  cases result <;> rfl

theorem ask_eq_answers (hrules : ∀ r ∈ rules, r.Stateless) (listen : Bool) (s : Store) (v : Visit)
    (p : Progress) : ∃ heard, ask (highlighting listen) v.node v.content rules ⟨s, v.cursor, p⟩ =
      (liftM (answers s v rules) : Walk Progress _) ⟨s, v.cursor, { p with heard := heard }⟩ := by
  induction rules generalizing p with
  | nil => exact ⟨p.heard, rfl⟩
  | cons r rest ih =>
      obtain ⟨hr, hrest⟩ := List.forall_mem_cons.mp hrules
      obtain ⟨heard, hcheck⟩ := (hr.check v.cursor v.content).eq_quietly s p.heard
      have hasked := inSession_lift (c := v.cursor) hcheck
      obtain ⟨heard', hmore⟩ := ih hrest { p with heard := heard }
      rw [ask, get_bind, answers]
      cases hfound : r.asked s v.cursor v.content with
      | error fault =>
          rw [← Rule.asked, hfound] at hasked
          exact ⟨heard, bind_error hasked⟩
      | ok found =>
          rw [← Rule.asked, hfound] at hasked
          refine ⟨heard', (bind_ok hasked).trans ?_⟩
          cases found with
          | none =>
              refine hmore.trans ?_
              cases answers s v rest <;> rfl
          | some f =>
              have htold : announce (highlighting listen) v.node f
                  ⟨s, v.cursor, { p with heard := heard }⟩ =
                  .ok () ⟨s, v.cursor, { p with heard := heard }⟩ := rfl
              refine (bind_ok htold).trans ?_
              cases hanswers : answers s v rest with
              | error fault =>
                  rw [hanswers] at hmore
                  exact bind_error hmore
              | ok more =>
                  rw [hanswers] at hmore
                  exact bind_ok hmore

/-- What a run keeps of a visit. -/
def noted (v : Visit) (found : List Finding) (p : Progress) : Progress :=
  if found.isEmpty then p
  else { p with
    findings := found.reverse ++ p.findings
    flagged := ⟨v.cursor, v.node, v.content, found⟩ :: p.flagged }

theorem visit_ok (hrules : ∀ r ∈ rules, r.Stateless) (listen : Bool) {v : Visit}
    {found : List Finding} (h : answers s v rules = .ok found) (p : Progress) :
    ∃ heard, visit (highlighting listen) rules v.node v.content ⟨s, v.cursor, p⟩ =
      .ok () ⟨s, v.cursor, noted v found { p with heard := heard }⟩ := by
  obtain ⟨heard, hask⟩ := ask_eq_answers hrules listen s v p
  rw [h] at hask
  refine ⟨heard, (bind_ok hask).trans ?_⟩
  cases found <;> rfl

theorem visit_error (hrules : ∀ r ∈ rules, r.Stateless) (listen : Bool) {v : Visit}
    {fault : Fault} (h : answers s v rules = .error fault) (p : Progress) :
    ∃ heard, visit (highlighting listen) rules v.node v.content ⟨s, v.cursor, p⟩ =
      .error fault ⟨s, v.cursor, { p with heard := heard }⟩ := by
  obtain ⟨heard, hask⟩ := ask_eq_answers hrules listen s v p
  rw [h] at hask
  exact ⟨heard, bind_error hask⟩

/-- Stateless rules do not disturb the walk. -/
theorem steady_visit (hrules : ∀ r ∈ rules, r.Stateless) (listen : Bool) :
    Walk.Steady (visit (highlighting listen) rules) := by
  intro node content w w' h
  obtain ⟨s, c, p⟩ := w
  cases hfound : answers s ⟨node, content, c⟩ rules with
  | error fault =>
      obtain ⟨heard, hvisit⟩ := visit_error hrules listen hfound p
      rw [hvisit] at h
      contradiction
  | ok found =>
      obtain ⟨heard, hvisit⟩ := visit_ok hrules listen hfound p
      rw [hvisit] at h
      obtain rfl : _ = w' := (EStateM.Result.ok.inj h).2
      exact ⟨rfl, rfl⟩

/-! ### All visits -/

/-- The findings of visits, given the remarks at each node. -/
def findings (found : Nat → List Remark) (vs : List Visit) : List Finding :=
  vs.flatMap fun v => (found v.node).map Remark.finding

variable {found : Nat → List Remark} {vs : List Visit}

theorem noted_remarks (found : Nat → List Remark) (v : Visit) (p : Progress) :
    noted v ((found v.node).map Remark.finding) p =
      { p with
        findings := (findings found [v]).reverse ++ p.findings
        flagged := (flags found [v]).reverse ++ p.flagged } := by
  unfold noted findings flags
  cases hfound : found v.node <;> simp [hfound]

theorem visitAll_answers (hrules : ∀ r ∈ rules, r.Stateless) (listen : Bool)
    (h : ∀ v ∈ vs, answers s v rules = .ok ((found v.node).map Remark.finding))
    (c : Cursor) (p : Progress) : ∃ c' heard,
      Walk.visitAll (visit (highlighting listen) rules) vs ⟨s, c, p⟩ = .ok () ⟨s, c',
        { p with
          heard := heard
          findings := (findings found vs).reverse ++ p.findings
          flagged := (flags found vs).reverse ++ p.flagged }⟩ := by
  induction vs generalizing c p with
  | nil => exact ⟨c, p.heard, rfl⟩
  | cons v rest ih =>
      obtain ⟨hv, hrest⟩ := List.forall_mem_cons.mp h
      obtain ⟨heard, hvisit⟩ := visit_ok hrules listen hv p
      rw [noted_remarks] at hvisit
      obtain ⟨c', heard', hmore⟩ := ih hrest v.cursor _
      refine ⟨c', heard', (bind_ok hvisit).trans (hmore.trans ?_)⟩
      have hfindings : findings found (v :: rest) = findings found [v] ++ findings found rest := by
        simp [findings]
      have hflags : flags found (v :: rest) = flags found [v] ++ flags found rest :=
        flags_append found [v] rest
      rw [hfindings, hflags, List.reverse_append, List.reverse_append, List.append_assoc,
        List.append_assoc]

theorem visitAll_error (hrules : ∀ r ∈ rules, r.Stateless) (listen : Bool)
    {before behind : List Visit}
    {v : Visit} {fault : Fault} (hbefore : ∀ u ∈ before, ∃ found, answers s u rules = .ok found)
    (hv : answers s v rules = .error fault) (c : Cursor) (p : Progress) : ∃ c' p',
      Walk.visitAll (visit (highlighting listen) rules) (before ++ v :: behind) ⟨s, c, p⟩ =
        .error fault ⟨s, c', p'⟩ := by
  induction before generalizing c p with
  | nil =>
      obtain ⟨heard, hvisit⟩ := visit_error hrules listen hv p
      exact ⟨_, _, (Walk.visitAll_cons v behind _).trans (bind_error hvisit)⟩
  | cons u rest ih =>
      obtain ⟨⟨found, hu⟩, hrest⟩ := List.forall_mem_cons.mp hbefore
      obtain ⟨heard, hvisit⟩ := visit_ok hrules listen hu p
      obtain ⟨c', p', hmore⟩ := ih hrest u.cursor _
      exact ⟨c', p', (bind_ok hvisit).trans hmore⟩

/-- Either all visits are answered with remarks, or one is the first to fail. -/
theorem answers_cases (hrules : ∀ r ∈ rules, r.Stateless) (s : Store) (vs : List Visit) :
    (∀ v ∈ vs, ∃ remarks : List Remark,
      answers s v rules = .ok (remarks.map Remark.finding) ∧ Signed rules remarks) ∨
    ∃ before v behind fault, vs = before ++ v :: behind ∧
      (∀ u ∈ before, ∃ found, answers s u rules = .ok found) ∧
      answers s v rules = .error fault := by
  induction vs with
  | nil => exact .inl (by simp)
  | cons v rest ih =>
      cases hv : answers s v rules with
      | error fault => exact .inr ⟨[], v, rest, fault, rfl, by simp, hv⟩
      | ok found =>
          obtain ⟨remarks, rfl, hsigned⟩ := answers_remarks hrules hv
          rcases ih with hall | ⟨before, u, behind, fault, rfl, hbefore, hu⟩
          · exact .inl (List.forall_mem_cons.mpr ⟨⟨remarks, hv, hsigned⟩, hall⟩)
          · exact .inr ⟨v :: before, u, behind, fault, rfl,
              List.forall_mem_cons.mpr ⟨⟨_, hv⟩, hbefore⟩, hu⟩

/-- The remarks at visits, by their nodes; at other nodes there are none. -/
theorem exists_found {P : Visit → List Remark → Prop} {Q : List Remark → Prop} (hnone : Q [])
    (hn : (vs.map Visit.node).Nodup) (h : ∀ v ∈ vs, ∃ remarks, P v remarks ∧ Q remarks) :
    ∃ found : Nat → List Remark, (∀ v ∈ vs, P v (found v.node)) ∧ ∀ n, Q (found n) := by
  induction vs with
  | nil => exact ⟨fun _ => [], by simp, fun _ => hnone⟩
  | cons v rest ih =>
      obtain ⟨⟨remarks, hv, hq⟩, hrest⟩ := List.forall_mem_cons.mp h
      obtain ⟨hne, hn⟩ := List.nodup_cons.mp hn
      obtain ⟨found, hfound, hqs⟩ := ih hn hrest
      refine ⟨fun n => if n = v.node then remarks else found n, List.forall_mem_cons.mpr
        ⟨by simpa using hv, fun u hu => ?_⟩, fun n => ?_⟩
      · have hother : u.node ≠ v.node := fun heq => hne (heq ▸ List.mem_map_of_mem hu)
        simpa [hother] using hfound u hu
      · by_cases hnode : n = v.node
        · simpa [hnode] using hq
        · simpa [hnode] using hqs n

/-! ### Runs -/

variable {x : Layout} {session : Session}

/-- What a run keeps before its walk. -/
def start (listen : Bool) : Progress := { heard := if listen then some [] else none }

/-- What a run leaves behind, given how the walk ended. -/
def ending (session : Session) :
    EStateM.Result Fault (Scene Progress) (List Finding) → Outcome × Session
  | .ok found w => (⟨.ok found, w.data.heard.getD [], w.data.reports.reverse,
      w.data.trace.reverse⟩, ⟨w.store, session.heard⟩)
  | .error fault w => (⟨.error fault, w.data.heard.getD [], w.data.reports.reverse,
      w.data.trace.reverse⟩, ⟨w.store, session.heard⟩)

theorem run_eq {options : Options} {root : Ref}
    {result : EStateM.Result Fault (Scene Progress) (List Finding)}
    (h : walkAndHighlight options rules root ⟨session.store, .fresh, start options.listen⟩ =
      result) : (run options rules root).run session = ending session result := by
  subst h
  unfold run
  -- The two sides agree for any walk; seen with this one, the comparison would unfold it.
  generalize walkAndHighlight options rules root = walk
  revert walk
  exact id fun _ => rfl

theorem walkAndHighlight_ok (hrules : ∀ r ∈ rules, r.Stateless) (hlays : s.Lays x) (listen : Bool)
    (h : ∀ v ∈ x.visits .fresh, answers s v rules = .ok ((found v.node).map Remark.finding)) :
    ∃ w, walkAndHighlight (highlighting listen) rules x.ref ⟨s, .fresh, start listen⟩ =
      .ok (findings found (x.visits .fresh)) w ∧ Rebuilt found x w.store := by
  have hdocument := Walk.document_plain (steady_visit hrules listen) (start listen) hlays
  obtain ⟨c, heard, hvisits⟩ := visitAll_answers hrules listen h .fresh (start listen)
  obtain ⟨t, hreplay, hrebuilt⟩ := replay_document found hlays heard
  have hmark (c : Cursor) (p : Progress) (hheard : p.heard = heard)
      (hflagged : p.flagged = (flags found (x.visits .fresh)).reverse) :
      inSession (highlightAll p.flagged) ⟨s, c, p⟩ =
        .ok () ⟨t, c, { p with heard := (rootReport found x ⟨s, heard⟩).heard }⟩ := by
    have hrun : highlightAll p.flagged ⟨s, p.heard⟩ =
        (liftM (.ok () : Except Fault Unit) : Callback.M Unit)
          ⟨t, (rootReport found x ⟨s, heard⟩).heard⟩ := by
      rw [hflagged, hheard]
      exact hreplay
    exact inSession_lift hrun
  have hfindings : ((findings found (x.visits .fresh)).reverse ++ []).reverse =
      findings found (x.visits .fresh) := by
    rw [List.append_nil, List.reverse_reverse]
  rw [hvisits] at hdocument
  exact ⟨_, (bind_ok hdocument).trans ((bind_ok (hmark _ _ rfl (List.append_nil _))).trans
    (congrArg (EStateM.Result.ok · _) hfindings)), hrebuilt⟩

theorem walkAndHighlight_error (hrules : ∀ r ∈ rules, r.Stateless) (hlays : s.Lays x)
    (listen : Bool) {before behind : List Visit} {v : Visit} {fault : Fault}
    (hvs : x.visits .fresh = before ++ v :: behind)
    (hbefore : ∀ u ∈ before, ∃ found, answers s u rules = .ok found)
    (hv : answers s v rules = .error fault) :
    ∃ w, walkAndHighlight (highlighting listen) rules x.ref
        ⟨s, .fresh, start listen⟩ = .error fault w ∧ w.store = s := by
  have hdocument := Walk.document_plain (steady_visit hrules listen) (start listen) hlays
  obtain ⟨c, p, hvisits⟩ := visitAll_error hrules listen hbefore hv .fresh (start listen)
  rw [hvs, hvisits] at hdocument
  exact ⟨_, bind_error hdocument, rfl⟩

/-- No node is visited twice. -/
theorem nodup_visits (hlays : s.Lays x) : ((x.visits .fresh).map Visit.node).Nodup := by
  have hkeys := (nodes_visits x hlays.unshared).2
  rwa [keys, List.map_map] at hkeys

/-- What a run leaves behind: the rebuilt document, with the remarks that the rules answer
where they are asked in the document as it was, or a fault and the document as it was. -/
theorem run_rebuilt (hrules : ∀ r ∈ rules, r.Stateless) (hlays : session.store.Lays x)
    (listen : Bool) : ∃ outcome after,
    (run (highlighting listen) rules x.ref).run session = (outcome, after) ∧
      ((∃ found : Nat → List Remark, (∀ n, Signed rules (found n)) ∧
          (∀ v ∈ x.visits .fresh,
            answers session.store v rules = .ok ((found v.node).map Remark.finding)) ∧
          outcome.findings = .ok (findings found (x.visits .fresh)) ∧
          Rebuilt found x after.store) ∨
        ∃ before v behind fault, x.visits .fresh = before ++ v :: behind ∧
          (∀ u ∈ before, ∃ found, answers session.store u rules = .ok found) ∧
          answers session.store v rules = .error fault ∧
          outcome.findings = .error fault ∧ after.store = session.store) := by
  rcases answers_cases hrules session.store (x.visits .fresh) with
    hall | ⟨before, v, behind, fault, hvs, hbefore, hv⟩
  · obtain ⟨found, hfound, hsigned⟩ :=
      exists_found (List.forall_mem_nil _) (nodup_visits hlays) hall
    obtain ⟨w, hwalk, hrebuilt⟩ := walkAndHighlight_ok hrules hlays listen hfound
    exact ⟨_, _, run_eq hwalk, .inl ⟨found, hsigned, hfound, rfl, hrebuilt⟩⟩
  · obtain ⟨w, hwalk, hstore⟩ := walkAndHighlight_error hrules hlays listen hvs hbefore hv
    exact ⟨_, _, run_eq hwalk, .inr ⟨before, v, behind, fault, hvs, hbefore, hv, rfl, hstore⟩⟩

/-- **Highlighting in place is the pure rebuild.** A run over a document with stateless
rules leaves the document that is built again by plain recursion, with the remarks that
the rules answer where they are asked in the document as it was. Only a rule that
fails ends the run, and then the document is as it was. -/
theorem run_highlight (hrules : ∀ r ∈ rules, r.Stateless) (hlays : session.store.Lays x)
    (listen : Bool) : ∃ outcome after,
    (run { highlight := true, listen := listen } rules x.ref).run session = (outcome, after) ∧
      ((∃ found : Nat → List Remark,
          (∀ v ∈ x.visits .fresh,
            answers session.store v rules = .ok ((found v.node).map Remark.finding)) ∧
          outcome.findings =
            .ok ((x.visits .fresh).flatMap fun v => (found v.node).map Remark.finding) ∧
          after.store.tree x.ref = x.rebuilt found false) ∨
        ∃ before v behind fault, x.visits .fresh = before ++ v :: behind ∧
          (∀ u ∈ before, ∃ found, answers session.store u rules = .ok found) ∧
          answers session.store v rules = .error fault ∧
          outcome.findings = .error fault ∧ after.store = session.store) := by
  obtain ⟨outcome, after, hrun, ⟨found, -, hfound, hfindings, hrebuilt⟩ | hfault⟩ :=
    run_rebuilt hrules hlays listen
  · exact ⟨outcome, after, hrun, .inl ⟨found, hfound, hfindings, hrebuilt.tree⟩⟩
  · exact ⟨outcome, after, hrun, .inr hfault⟩

/-- A document with a text. -/
def oneText : Layout :=
  .record 0 [("type", .scalar (.str "doc")), ("children", .list 1
    [.record 2 [("type", .scalar (.str "text")), ("content", .scalar (.str "abc"))]])]

/-- A store that holds `oneText`. -/
def oneTextStore : Store :=
  ⟨#[.record [("type", .scalar (.str "doc")), ("children", .object 1)],
    .list [.object 2],
    .record [("type", .scalar (.str "text")), ("content", .scalar (.str "abc"))]]⟩

/-- A rule about the second character of every text. -/
def second : Rule :=
  ⟨.str "second", .type "text", none,
    .ask fun _ _ => return .finding ⟨.null, .str "odd", .int 1, .int 2⟩⟩

theorem lays_oneText : oneTextStore.Lays oneText := by
  refine ⟨?_, by decide, ?_⟩
  · simp [oneText, Holds, HoldsFields, HoldsItems, oneTextStore, Store.cell?, fieldRefs, ref]
  · simp [oneText, tree, treeItems, treeFields, Tree.Keyed, Tree.KeyedItems, Tree.KeyedFields]

theorem stateless_second : ∀ r ∈ [second], r.Stateless := by
  intro r hr callback haction nodes found
  obtain rfl := List.mem_singleton.mp hr
  obtain rfl := Action.ask.inj haction
  refine Callback.reads_pure ?_
  intro rule size finding h
  exact ⟨some ⟨rule, "odd", 1, 2⟩, (Except.ok.inj h).symm⟩

/-- A rule about the second character splits the text. -/
theorem run_highlight_oneText :
    ((∀ r ∈ [second], r.Stateless) ∧ oneTextStore.Lays oneText) ∧
    ∃ outcome after, (run { highlight := true } [second] (.object 0)).run ⟨oneTextStore, none⟩ =
        (outcome, after) ∧
      after.store.tree (.object 0) = .record [("type", .str "doc"), ("children", .list
        [textLeaf "a", lintTree [textLeaf "b"] [⟨.str "second", "odd", 1, 2⟩] false,
          textLeaf "c"])] := by
  have hlays : (Session.mk oneTextStore none).store.Lays oneText := lays_oneText
  have hanswers : (oneText.visits .fresh).map (fun v => answers oneTextStore v [second]) =
      [.ok [⟨.str "second", .str "odd", .int 1, .int 2⟩], .ok []] := rfl
  obtain ⟨outcome, after, hrun,
      ⟨found, hfound, -, htree⟩ | ⟨before, v, behind, fault, hvs, -, hv, -⟩⟩ :=
    run_highlight stateless_second hlays false
  · have hall := (List.map_congr_left hfound).symm.trans hanswers
    have hnode : Except.ok ((found 2).map Remark.finding) =
        (.ok [⟨.str "second", .str "odd", .int 1, .int 2⟩] : Except Fault _) :=
      (List.cons.inj hall).1
    obtain ⟨remark, htwo, hremark⟩ := List.map_eq_singleton_iff.mp (Except.ok.inj hnode)
    obtain rfl : remark = ⟨.str "second", "odd", 1, 2⟩ := by
      cases remark
      simpa [Remark.finding] using hremark
    have hrebuilt : oneText.rebuilt found false = .record [("type", .str "doc"),
        ("children", .list ((mark (found 2) true "abc" false
          (.record [("type", .str "text"), ("content", .str "abc")])).items ++ []))] := rfl
    rw [htwo] at hrebuilt
    exact ⟨⟨stateless_second, hlays⟩, outcome, after, hrun, htree.trans hrebuilt⟩
  · have hmem : v ∈ oneText.visits .fresh := hvs ▸ List.mem_append_right _ List.mem_cons_self
    have hfault := List.mem_map_of_mem (f := fun v => answers oneTextStore v [second]) hmem
    rw [hanswers, hv] at hfault
    simp at hfault

end DocLint.Lint
