import DocLint.Proofs.Lint.Run

/-!
# DocLint.Proofs.Lint.Replies

**The questions of a run**: every rule is asked at every visit, one after the other. A
`Reply` says what a rule found, which diagnostics it emitted, and what it left of the
store; `Replies` is a chain of them, and a question that `Fails` ends it.

Asking the rules at one visit is such a chain, complete (`Answered`) or with a question
that ends it (`Stopped`), and so are the visits of a walk, as chains can be put together
(`Answered.append`, `Answered.stopped`). What the run keeps of them is read off the chain
(`Gained`). Nothing here is about highlighting, which has not begun yet.
-/

namespace DocLint.Lint

open Layout Highlight Callback

/-- Tell those who asked for it of a finding at a node. The name of the rule is written for
them, and for the trace. -/
def Options.tell (options : Options) (node : Nat) (f : Finding) : M Unit := do
  match options.report with
  | none => pure ()
  | some report =>
    let title ← f.title
    report ((← f.rule.shown) ++ ": " ++ title) node
  if options.trace then
    let _ ← f.rule.shown

/-- A rule is asked at a visit, and a finding is told. -/
def Options.inquire (options : Options) (v : Visit) (r : Rule) : M (Option Finding) := do
  let found ← r.check v.cursor v.content
  if let some f := found then options.tell v.node f
  return found

/-- Who is told of the findings spares what a callback has to spare. -/
def Options.Spares (inv : Store → Prop) (options : Options) : Prop :=
  ∀ report, options.report = some report →
    ∀ text node, Callback.Spares inv (report text node) fun _ => True

/-- What a rule replied at a visit: whether it found something, the diagnostics that were
emitted, and the store before and after. -/
structure Reply where
  visit : Visit
  rule : Rule
  before : Store
  remark : Option Remark
  emitted : List Diagnostic
  after : Store

namespace Reply

/-- The question that is replied to. -/
def question (q : Reply) : Visit × Rule := (q.visit, q.rule)

def finding (q : Reply) : Option Finding := q.remark.map Remark.finding

/-- The rule does reply so, whoever listens, and what it found is told. -/
def Given (options : Options) (q : Reply) : Prop :=
  ComesTo (options.inquire q.visit q.rule) q.before (.ok q.finding) q.after q.emitted

end Reply

/-- Replies one after the other, each in the store that the one before has left. The
document `x` is there all the time. -/
inductive Replies (options : Options) (x : Layout) : Store → List Reply → Store → Prop
  | nil {s : Store} (holds : x.Holds s) : Replies options x s [] s
  | cons {q : Reply} {rest : List Reply} {t : Store} (holds : x.Holds q.before)
      (given : q.Given options) (tail : Replies options x q.after rest t) :
      Replies options x q.before (q :: rest) t

/-- A question that ends the run: the rule fails, or what it found cannot be told. Until
then `emitted` is emitted. -/
def Fails (options : Options) (v : Visit) (r : Rule) (s : Store) (fault : Fault)
    (emitted : List Diagnostic) (t : Store) : Prop :=
  ComesTo (options.inquire v r) s (.error fault) t emitted

/-- Everything that is emitted in the course of replies. -/
def emissions (replies : List Reply) : List Diagnostic := replies.flatMap Reply.emitted

/-- The questions are all replied to. -/
structure Answered (options : Options) (x : Layout) (s : Store) (questions : List (Visit × Rule))
    (replies : List Reply) (t : Store) : Prop where
  given : Replies options x s replies t
  asked : replies.map Reply.question = questions

/-- After some replies a question ends the run. Until then `emitted` was emitted, and the
document `x` is left as it was. -/
structure Stopped (options : Options) (x : Layout) (s : Store) (questions : List (Visit × Rule))
    (replies : List Reply) (fault : Fault) (emitted : List Diagnostic) (u : Store) : Prop where
  fails : ∃ t v r rest more, Replies options x s replies t ∧
    questions = replies.map Reply.question ++ (v, r) :: rest ∧ Fails options v r t fault more u ∧
    emitted = emissions replies ++ more
  holds : x.Holds u

/-- What the progress of a run gains. -/
structure Gained (emitted : List Diagnostic) (findings : List Finding) (flagged : List Flagged)
    (p p' : Progress) : Prop where
  heard : p'.heard = p.heard.map (· ++ emitted)
  findings : p'.findings = findings.reverse ++ p.findings
  flagged : p'.flagged = flagged.reverse ++ p.flagged

variable {options : Options} {x : Layout} {s t u : Store} {rules : List Rule} {v : Visit}
  {q : Reply} {replies more : List Reply} {questions others : List (Visit × Rule)}
  {fault : Fault} {emitted : List Diagnostic}

/-! ### Chains -/

theorem emissions_append (replies more : List Reply) :
    emissions (replies ++ more) = emissions replies ++ emissions more := List.flatMap_append

theorem Replies.append (h : Replies options x s replies t) (h' : Replies options x t more u) :
    Replies options x s (replies ++ more) u := by
  induction h with
  | nil => exact h'
  | cons holds given tail ih => exact .cons holds given (ih h')

/-- Every question is asked in a document as it was, and so is what comes afterwards. -/
theorem Replies.holds (h : Replies options x s replies t) :
    (∀ q ∈ replies, x.Holds q.before) ∧ x.Holds t := by
  induction h with
  | nil holds => exact ⟨List.forall_mem_nil _, holds⟩
  | cons holds given tail ih => exact ⟨List.forall_mem_cons.mpr ⟨holds, ih.1⟩, ih.2⟩

theorem Replies.given (h : Replies options x s replies t) : ∀ q ∈ replies, q.Given options := by
  induction h with
  | nil holds => exact List.forall_mem_nil _
  | cons holds given tail ih => exact List.forall_mem_cons.mpr ⟨given, ih⟩

theorem Answered.holds (h : Answered options x s questions replies t) : x.Holds t :=
  h.given.holds.2

theorem Answered.append (h : Answered options x s questions replies t)
    (h' : Answered options x t others more u) :
    Answered options x s (questions ++ others) (replies ++ more) u := by
  refine ⟨h.given.append h'.given, ?_⟩
  rw [List.map_append, h.asked, h'.asked]

theorem Answered.stopped (h : Answered options x s questions replies t)
    (h' : Stopped options x t others more fault emitted u) :
    Stopped options x s (questions ++ others) (replies ++ more) fault
      (emissions replies ++ emitted) u := by
  obtain ⟨t', v, r, rest, last, hreplies, hquestions, hfails, rfl⟩ := h'.fails
  refine ⟨⟨t', v, r, rest, last, h.given.append hreplies, ?_, hfails, ?_⟩, h'.holds⟩
  · rw [List.map_append, h.asked, hquestions, List.append_assoc]
  · rw [emissions_append, List.append_assoc]

/-- What ends the run is followed by questions that are not asked any more. -/
theorem Stopped.before (h : Stopped options x s questions replies fault emitted u)
    (others : List (Visit × Rule)) :
    Stopped options x s (questions ++ others) replies fault emitted u := by
  obtain ⟨t, v, r, rest, more, hreplies, rfl, hfails, hemitted⟩ := h.fails
  refine ⟨⟨t, v, r, rest ++ others, more, hreplies, ?_, hfails, hemitted⟩, h.holds⟩
  rw [List.append_assoc, List.cons_append]

theorem Answered.of_given (h : q.Given options) (hs : x.Holds q.before) (ht : x.Holds q.after) :
    Answered options x q.before [q.question] [q] q.after :=
  ⟨.cons hs h (.nil ht), rfl⟩

theorem Stopped.of_fails {r : Rule} (h : Fails options v r s fault emitted u) (hs : x.Holds s)
    (hu : x.Holds u) : Stopped options x s [(v, r)] [] fault emitted u :=
  ⟨⟨s, v, r, [], emitted, .nil hs, rfl, h, rfl⟩, hu⟩

/-! ### Gains -/

variable {findings : List Finding} {flagged : List Flagged} {p p₁ p₂ : Progress}

theorem Gained.refl (p : Progress) : Gained [] [] [] p p := by
  refine ⟨?_, rfl, rfl⟩
  cases p.heard <;> simp

theorem Gained.trans {emitted' : List Diagnostic} {findings' : List Finding}
    {flagged' : List Flagged} (h : Gained emitted findings flagged p p₁)
    (h' : Gained emitted' findings' flagged' p₁ p₂) :
    Gained (emitted ++ emitted') (findings ++ findings') (flagged ++ flagged') p p₂ := by
  refine ⟨?_, ?_, ?_⟩
  · rw [h'.heard, h.heard]
    cases p.heard <;> simp
  · rw [h'.findings, h.findings, List.reverse_append, List.append_assoc]
  · rw [h'.flagged, h.flagged, List.reverse_append, List.append_assoc]

/-! ### One question -/

theorem Options.Spares.tell (h : options.Spares x.Holds) (node : Nat) (f : Finding) :
    Callback.Spares x.Holds (options.tell node f) fun _ => True := by
  have hnamed : Callback.Spares x.Holds
      (if options.trace then (do let _ ← f.rule.shown) else pure () : M Unit) fun _ => True := by
    split
    · exact (spares_lift fun _ _ => trivial).bind fun _ _ => spares_pure trivial
    · exact spares_pure trivial
  unfold Options.tell
  cases hreport : options.report with
  | none => exact hnamed
  | some report =>
      refine (spares_lift fun _ _ => trivial).bind fun title _ => ?_
      refine (spares_lift fun _ _ => trivial).bind fun name _ => ?_
      exact (h report hreport (name ++ ": " ++ title) node).bind fun _ _ => hnamed

theorem inSession_comesTo {α : Type} {m : M α} {result : Except Fault α}
    (h : ComesTo m s result t emitted) (c : Cursor) (p : Progress) :
    inSession m ⟨s, c, p⟩ = (liftM result : Walk Progress α)
      ⟨t, c, { p with heard := p.heard.map (· ++ emitted) }⟩ :=
  inSession_lift (h p.heard)

/-- Nodes have a type that can be shown. -/
theorem typeText_of_isNode {node : Nat} (h : s.isNode (.object node) = true) :
    ∃ text, typeText s node = .ok text := by
  unfold Store.isNode Store.nodeType? Store.field? Store.fields? at h
  cases hcell : s.cell? node with
  | none => simp [hcell] at h
  | some cell =>
      cases cell with
      | list items => simp [hcell] at h
      | record fields =>
          cases htype : fieldOf? fields "type" with
          | none => simp [hcell, htype] at h
          | some type =>
              simp only [hcell, htype, Option.bind_some] at h
              split at h
              · next name heq =>
                  obtain rfl := Option.some.inj heq
                  have hfield : s.field (.object node) "type" = .ok (.scalar (.str name)) := by
                    simp [Store.field, hcell, htype, pure, Except.pure]
                  have htree : s.tree (.scalar (.str name)) = .str name := by
                    simp only [Store.tree, Store.treeWithin]
                  refine ⟨name, ?_⟩
                  rw [typeText, hfield]
                  show (s.tree (.scalar (.str name))).shown = _
                  rw [htree]
                  rfl
              · contradiction

/-- Lines that are written down are no gain. -/
theorem Gained.of_trace (lines : List String) (p : Progress) :
    Gained [] [] [] p { p with trace := lines } :=
  ⟨(Gained.refl p).heard, rfl, rfl⟩

/-- A line about a node can be written down. -/
theorem note_apply {node : Nat} (h : s.isNode (.object node) = true) (indent : Nat)
    (line : String → String) (c : Cursor) (p : Progress) :
    ∃ p', (do note indent (line (← typeText s node)) : Walk Progress Unit) ⟨s, c, p⟩ =
      .ok () ⟨s, c, p'⟩ ∧ Gained [] [] [] p p' := by
  obtain ⟨text, htext⟩ := typeText_of_isNode h
  rw [htext]
  exact ⟨_, rfl, Gained.of_trace _ p⟩

/-- What is kept of a finding that has been told, apart from what is heard. -/
def recorded (options : Options) (node : Nat) (m : Remark) : Walk Progress Unit := do
  if options.report.isSome then
    Walk.modifyData fun p => { p with
      reports := (m.rule.text ++ ": " ++ Text.firstLine m.message, node) :: p.reports }
  if options.trace then
    let scene ← get
    note (2 * scene.cursor.depth + 2)
      (m.rule.text ++ " fired at " ++ (← typeText scene.store node))

theorem recorded_apply (options : Options) {node : Nat}
    (hnode : s.isNode (.object node) = true) (m : Remark) (c : Cursor) (p : Progress) :
    ∃ p', recorded options node m ⟨s, c, p⟩ = .ok () ⟨s, c, p'⟩ ∧ Gained [] [] [] p p' := by
  have hline (p : Progress) : ∃ p', (do
      if options.trace then
        let scene ← get
        note (2 * scene.cursor.depth + 2)
          (m.rule.text ++ " fired at " ++ (← typeText scene.store node)) :
            Walk Progress Unit) ⟨s, c, p⟩ = .ok () ⟨s, c, p'⟩ ∧ Gained [] [] [] p p' := by
    cases options.trace with
    | true => exact note_apply hnode _ (m.rule.text ++ " fired at " ++ ·) c p
    | false => exact ⟨p, rfl, .refl p⟩
  unfold recorded
  cases options.report with
  | none => exact hline p
  | some report =>
      obtain ⟨p', hwritten, hgained⟩ := hline { p with
        reports := (m.rule.text ++ ": " ++ Text.firstLine m.message, node) :: p.reports }
      exact ⟨p', hwritten, hgained.heard, hgained.findings, hgained.flagged⟩

/-- A finding of a rule whose name can be written is told without any fault but those of who
is told. -/
theorem tell_written (options : Options) (node : Nat) {m : Remark}
    (h : m.rule.isWritable = true) : options.tell node m.finding =
      match options.report with
      | none => pure ()
      | some report => report (m.rule.text ++ ": " ++ Text.firstLine m.message) node := by
  have hname : m.finding.rule.shown = .ok m.rule.text := Tree.shown_eq_ok h
  unfold Options.tell
  rw [hname]
  cases options.report with
  | none => cases options.trace <;> rfl
  | some report =>
      cases options.trace <;>
        exact bind_pure (report (m.rule.text ++ ": " ++ Text.firstLine m.message) node)

/-- To announce a finding is to tell it, and to keep a record of that. -/
theorem announce_eq (options : Options) (node : Nat) (m : Remark) :
    announce options node m.finding =
      inSession (options.tell node m.finding) >>= fun _ => recorded options node m := by
  by_cases h : m.rule.isWritable = true
  · have hname : m.finding.rule.shown = .ok m.rule.text := Tree.shown_eq_ok h
    rw [tell_written options node h]
    unfold announce recorded
    rw [hname]
    cases options.report <;> rfl
  · -- A name that cannot be written keeps the finding from being told at all.
    have hname : m.finding.rule.shown = .error (.literal .unwritable) := Tree.shown_eq_error h
    funext w
    unfold announce Options.tell recorded
    rw [hname]
    cases options.report <;> cases options.trace <;> rfl

theorem announce_apply {node : Nat} {m : Remark} {result : Except Fault Unit}
    (h : ComesTo (options.tell node m.finding) s result t emitted)
    (hnode : t.isNode (.object node) = true) (c : Cursor) (p : Progress) :
    ∃ p', announce options node m.finding ⟨s, c, p⟩ =
      (liftM result : Walk Progress Unit) ⟨t, c, p'⟩ ∧ Gained emitted [] [] p p' := by
  have htold := inSession_comesTo h c p
  have hgained : Gained emitted [] [] p { p with heard := p.heard.map (· ++ emitted) } :=
    ⟨rfl, rfl, rfl⟩
  rw [announce_eq]
  cases result with
  | error fault => exact ⟨_, DocLint.bind_error htold, hgained⟩
  | ok _ =>
      obtain ⟨p', hrecorded, hmore⟩ := recorded_apply options hnode m c
        { p with heard := p.heard.map (· ++ emitted) }
      refine ⟨p', (DocLint.bind_ok htold).trans hrecorded, ?_⟩
      simpa using hgained.trans hmore

/-- What a run does with the answer of a rule before it asks the others. -/
def proceed (options : Options) (node : Nat) (content : String) (rest : List Rule) :
    Option Finding → Walk Progress (List Finding)
  | none => ask options node content rest
  | some f => do
    announce options node f
    return f :: (← ask options node content rest)

theorem ask_cons (options : Options) (node : Nat) (content : String) (r : Rule)
    (rest : List Rule) (s : Store) (c : Cursor) (p : Progress) :
    ask options node content (r :: rest) ⟨s, c, p⟩ =
      (inSession (r.check c content) >>= proceed options node content rest) ⟨s, c, p⟩ := by
  rw [ask, get_bind]
  rfl

/-- One question: the rule replies and the run goes on, or the question ends the run. -/
theorem ask_question {r : Rule} (hr : r.Spares x.Holds) (hoptions : options.Spares x.Holds)
    (hnode : x.HasNode v.node) (hs : x.Holds s) :
    (∃ q : Reply, q.question = (v, r) ∧ q.before = s ∧ q.Given options ∧ x.Holds q.after ∧
      ∀ rest p, ∃ p', ask options v.node v.content (r :: rest) ⟨s, v.cursor, p⟩ =
          (do return q.finding.toList ++ (← ask options v.node v.content rest) :
            Walk Progress (List Finding)) ⟨q.after, v.cursor, p'⟩ ∧
        Gained q.emitted [] [] p p') ∨
    ∃ fault emitted u, Fails options v r s fault emitted u ∧ x.Holds u ∧
      ∀ rest p, ∃ p', ask options v.node v.content (r :: rest) ⟨s, v.cursor, p⟩ =
          .error fault ⟨u, v.cursor, p'⟩ ∧ Gained emitted [] [] p p' := by
  obtain ⟨result, t, emitted, hcheck, ht, hremark⟩ := hr.check v.cursor v.content s hs
  have hasked (p : Progress) := inSession_comesTo hcheck v.cursor p
  have hgained (p : Progress) :
      Gained emitted [] [] p { p with heard := p.heard.map (· ++ emitted) } := ⟨rfl, rfl, rfl⟩
  cases result with
  | error fault =>
      exact .inr ⟨fault, emitted, t, hcheck.bind_error, ht, fun rest p =>
        ⟨_, (ask_cons ..).trans (DocLint.bind_error (hasked p)), hgained p⟩⟩
  | ok found =>
      obtain ⟨remark, rfl⟩ := hremark found rfl
      have hnext (rest : List Rule) (p : Progress) :
          ask options v.node v.content (r :: rest) ⟨s, v.cursor, p⟩ =
            proceed options v.node v.content rest (remark.map Remark.finding)
              ⟨t, v.cursor, { p with heard := p.heard.map (· ++ emitted) }⟩ :=
        (ask_cons ..).trans (DocLint.bind_ok (hasked p))
      cases remark with
      | none =>
          have hgiven : ComesTo (options.inquire v r) s (.ok none) t (emitted ++ []) :=
            hcheck.bind_ok (comesTo_lift (.ok none) t)
          refine .inl ⟨⟨v, r, s, none, emitted, t⟩, rfl, rfl, List.append_nil emitted ▸ hgiven, ht,
            fun rest p => ⟨_, (hnext rest p).trans ?_, hgained p⟩⟩
          exact congrFun (bind_pure _).symm _
      | some m =>
          obtain ⟨result, u, more, htold, hu, -⟩ := hoptions.tell v.node m.finding t ht
          cases result with
          | ok _ =>
              have hgiven : ComesTo (options.inquire v r) s (.ok (some m.finding)) u
                  (emitted ++ (more ++ [])) :=
                hcheck.bind_ok (htold.bind_ok (comesTo_lift (.ok (some m.finding)) u))
              rw [List.append_nil] at hgiven
              refine .inl ⟨⟨v, r, s, some m, emitted ++ more, u⟩, rfl, rfl, hgiven, hu,
                fun rest p => ?_⟩
              obtain ⟨p', hannounced, hmore⟩ := announce_apply htold (hnode u hu) v.cursor
                { p with heard := p.heard.map (· ++ emitted) }
              exact ⟨p', (hnext rest p).trans (DocLint.bind_ok hannounced),
                (hgained p).trans hmore⟩
          | error fault =>
              refine .inr ⟨fault, emitted ++ more, u, hcheck.bind_ok htold.bind_error, hu,
                fun rest p => ?_⟩
              obtain ⟨p', hannounced, hmore⟩ := announce_apply htold (hnode u hu) v.cursor
                { p with heard := p.heard.map (· ++ emitted) }
              exact ⟨p', (hnext rest p).trans (DocLint.bind_error hannounced),
                (hgained p).trans hmore⟩

/-! ### All questions of a visit -/

/-- The rules are all asked at a visit, or one of the questions ends the run. -/
theorem ask_cases (hrules : ∀ r ∈ rules, r.Spares x.Holds)
    (hoptions : options.Spares x.Holds)
    (hnode : x.HasNode v.node) (hs : x.Holds s) :
    (∃ replies t, Answered options x s (rules.map (v, ·)) replies t ∧
      ∀ p, ∃ p', ask options v.node v.content rules ⟨s, v.cursor, p⟩ =
          .ok (replies.filterMap Reply.finding) ⟨t, v.cursor, p'⟩ ∧
        Gained (emissions replies) [] [] p p') ∨
    ∃ replies fault emitted u, Stopped options x s (rules.map (v, ·)) replies fault emitted u ∧
      ∀ p, ∃ p', ask options v.node v.content rules ⟨s, v.cursor, p⟩ =
          .error fault ⟨u, v.cursor, p'⟩ ∧ Gained emitted [] [] p p' := by
  induction rules generalizing s with
  | nil => exact .inl ⟨[], s, ⟨.nil hs, rfl⟩, fun p => ⟨p, rfl, .refl p⟩⟩
  | cons r rest ih =>
      obtain ⟨hr, hrest⟩ := List.forall_mem_cons.mp hrules
      rcases ask_question hr hoptions hnode hs with
        ⟨q, hquestion, rfl, hgiven, hafter, hask⟩ | ⟨fault, emitted, u, hfails, hu, hask⟩
      · have hone : Answered options x q.before [(v, r)] [q] q.after :=
          hquestion ▸ .of_given hgiven hs hafter
        have hemitted : emissions [q] = q.emitted := List.append_nil _
        rcases ih hrest hafter with
          ⟨replies, t, hanswered, hall⟩ | ⟨replies, fault, emitted, u, hstopped, hall⟩
        · refine .inl ⟨q :: replies, t, hone.append hanswered, fun p => ?_⟩
          obtain ⟨p₁, hfirst, hgained⟩ := hask rest p
          obtain ⟨p₂, hmore, hgained'⟩ := hall p₁
          refine ⟨p₂, (hfirst.trans (DocLint.bind_ok hmore)).trans ?_, hgained.trans hgained'⟩
          cases hfinding : q.finding <;> simp [hfinding] <;> rfl
        · refine .inr ⟨q :: replies, fault, _, u, hone.stopped hstopped, fun p => ?_⟩
          obtain ⟨p₁, hfirst, hgained⟩ := hask rest p
          obtain ⟨p₂, hmore, hgained'⟩ := hall p₁
          rw [hemitted]
          exact ⟨p₂, hfirst.trans (DocLint.bind_error hmore), hgained.trans hgained'⟩
      · exact .inr ⟨[], fault, emitted, u, (Stopped.of_fails hfails hs hu).before (rest.map (v, ·)),
          fun p => hask rest p⟩

/-! ### All visits -/

/-- What was remarked at a node. -/
def remarksAt (replies : List Reply) (node : Nat) : List Remark :=
  (replies.filter (·.visit.node == node)).filterMap Reply.remark

/-- The visits with remarks, if they are to be highlighted. -/
def flagsFor (options : Options) (found : Nat → List Remark) (vs : List Visit) : List Flagged :=
  if options.highlight then flags found vs else []

/-- The questions of a run. -/
def questionsOf (vs : List Visit) (rules : List Rule) : List (Visit × Rule) :=
  vs.flatMap fun v => rules.map (v, ·)

theorem remarksAt_append (replies more : List Reply) (node : Nat) :
    remarksAt (replies ++ more) node = remarksAt replies node ++ remarksAt more node := by
  rw [remarksAt, List.filter_append, List.filterMap_append]
  rfl

theorem remarksAt_of_ne {node : Nat} (h : ∀ q ∈ replies, q.visit.node ≠ node) :
    remarksAt replies node = [] := by
  rw [remarksAt, List.filter_eq_nil_iff.mpr fun q hq => by simpa using h q hq]
  rfl

theorem findings_eq {node : Nat} (h : ∀ q ∈ replies, q.visit.node = node) :
    replies.filterMap Reply.finding = (remarksAt replies node).map Remark.finding := by
  rw [remarksAt, List.filter_eq_self.mpr fun q hq => by simpa using h q hq, List.map_filterMap]
  rfl

theorem flags_congr {found found' : Nat → List Remark} {vs : List Visit}
    (h : ∀ v ∈ vs, found v.node = found' v.node) : flags found vs = flags found' vs := by
  induction vs with
  | nil => rfl
  | cons v rest ih =>
      obtain ⟨hv, hrest⟩ := List.forall_mem_cons.mp h
      have hone : flags found [v] = flags found' [v] := by
        unfold flags
        by_cases hnone : found' v.node = [] <;> simp [hv, hnone]
      rw [← List.singleton_append, flags_append, flags_append, hone, ih hrest]

theorem Answered.question_mem (h : Answered options x s questions replies t) :
    ∀ q ∈ replies, q.question ∈ questions :=
  fun _ hq => h.asked ▸ List.mem_map_of_mem hq

theorem Answered.visit_eq (h : Answered options x s (rules.map (v, ·)) replies t) :
    ∀ q ∈ replies, q.visit = v := by
  intro q hq
  obtain ⟨r, -, hr⟩ := List.mem_map.mp (h.question_mem q hq)
  exact (congrArg Prod.fst hr).symm

theorem Answered.visit_mem {vs : List Visit}
    (h : Answered options x s (questionsOf vs rules) replies t) : ∀ q ∈ replies, q.visit ∈ vs := by
  intro q hq
  obtain ⟨u, hu, hr⟩ := List.mem_flatMap.mp (h.question_mem q hq)
  obtain ⟨r, -, hr⟩ := List.mem_map.mp hr
  have hvisit : u = q.visit := congrArg Prod.fst hr
  exact hvisit ▸ hu

/-- What a run does with the findings of a visit. -/
def keep (options : Options) (node : Nat) (content : String) (found : List Finding) :
    Walk Progress Unit := do
  if !found.isEmpty then
    let cursor := (← get).cursor
    Walk.modifyData fun p => { p with
      findings := found.reverse ++ p.findings
      flagged :=
        if options.highlight then ⟨cursor, node, content, found⟩ :: p.flagged else p.flagged }

/-- What a run keeps of a visit in order to highlight its node. -/
def Options.mark (options : Options) (v : Visit) (found : List Finding) : List Flagged :=
  if options.highlight && !found.isEmpty then [⟨v.cursor, v.node, v.content, found⟩] else []

theorem keep_apply (options : Options) (found : List Finding) (v : Visit) (s : Store)
    (p : Progress) : ∃ p',
      keep options v.node v.content found ⟨s, v.cursor, p⟩ = .ok () ⟨s, v.cursor, p'⟩ ∧
      Gained [] found (options.mark v found) p p' := by
  unfold keep Options.mark
  cases found with
  | nil => exact ⟨p, rfl, by simpa using Gained.refl p⟩
  | cons f rest =>
      refine ⟨_, rfl, (Gained.refl p).heard, rfl, ?_⟩
      cases options.highlight <;> simp

theorem mark_remarks (options : Options) (found : Nat → List Remark) (v : Visit) :
    options.mark v ((found v.node).map Remark.finding) = flagsFor options found [v] := by
  unfold Options.mark flagsFor flags
  cases options.highlight <;> cases hfound : found v.node <;> simp [hfound]

/-- A visit writes a line down, asks the rules and keeps what they found. -/
theorem visit_apply (options : Options) (rules : List Rule) {node : Nat}
    (hnode : s.isNode (.object node) = true) (content : String) (c : Cursor) (p : Progress) :
    ∃ p', visit options rules node content ⟨s, c, p⟩ =
      (ask options node content rules >>= keep options node content) ⟨s, c, p'⟩ ∧
      Gained [] [] [] p p' := by
  unfold visit
  cases options.trace with
  | false => exact ⟨p, rfl, .refl p⟩
  | true =>
      obtain ⟨text, htext⟩ := typeText_of_isNode hnode
      refine ⟨_, ?_, Gained.of_trace (("".pushn ' ' (2 * c.depth) ++ ("visit " ++ text ++ " (" ++
        toString content.length ++ " chars)")) :: p.trace) p⟩
      rw [if_pos rfl, get_bind]
      dsimp only
      rw [htext]
      rfl

/-- One visit: the rules are all asked, and what they found is kept; or one of the questions
ends the run. -/
theorem visit_cases (hrules : ∀ r ∈ rules, r.Spares x.Holds)
    (hoptions : options.Spares x.Holds)
    (hnode : x.HasNode v.node) (hs : x.Holds s) :
    (∃ replies t, Answered options x s (rules.map (v, ·)) replies t ∧
      ∀ p, ∃ p', visit options rules v.node v.content ⟨s, v.cursor, p⟩ =
          .ok () ⟨t, v.cursor, p'⟩ ∧
        Gained (emissions replies) (replies.filterMap Reply.finding)
          (flagsFor options (remarksAt replies) [v]) p p') ∨
    ∃ replies fault emitted u, Stopped options x s (rules.map (v, ·)) replies fault emitted u ∧
      ∀ p, ∃ p', visit options rules v.node v.content ⟨s, v.cursor, p⟩ =
          .error fault ⟨u, v.cursor, p'⟩ ∧ Gained emitted [] [] p p' := by
  rcases ask_cases hrules hoptions hnode hs with
    ⟨replies, t, hanswered, hask⟩ | ⟨replies, fault, emitted, u, hstopped, hask⟩
  · refine .inl ⟨replies, t, hanswered, fun p => ?_⟩
    obtain ⟨p₁, hvisit, hgained₁⟩ := visit_apply options rules (hnode s hs) v.content v.cursor p
    obtain ⟨p₂, hfound, hgained₂⟩ := hask p₁
    have hfindings : replies.filterMap Reply.finding =
        (remarksAt replies v.node).map Remark.finding :=
      findings_eq fun q hq => congrArg Visit.node (hanswered.visit_eq q hq)
    obtain ⟨p₃, hkeep, hgained₃⟩ := keep_apply options (replies.filterMap Reply.finding) v t p₂
    rw [hfindings, mark_remarks, ← hfindings] at hgained₃
    refine ⟨p₃, hvisit.trans ((DocLint.bind_ok hfound).trans hkeep), ?_⟩
    simpa using (hgained₁.trans hgained₂).trans hgained₃
  · refine .inr ⟨replies, fault, emitted, u, hstopped, fun p => ?_⟩
    obtain ⟨p₁, hvisit, hgained₁⟩ := visit_apply options rules (hnode s hs) v.content v.cursor p
    obtain ⟨p₂, hfault, hgained₂⟩ := hask p₁
    exact ⟨p₂, hvisit.trans (DocLint.bind_error hfault), hgained₁.trans hgained₂⟩

/-- Rules that spare the document do not disturb the walk. -/
theorem careful_visit (hrules : ∀ r ∈ rules, r.Spares x.Holds)
    (hoptions : options.Spares x.Holds) :
    Walk.Careful x (visit options rules) := by
  intro node content w w' hnode hs h
  obtain ⟨s, c, p⟩ := w
  rcases visit_cases (v := ⟨node, content, c⟩) hrules hoptions hnode hs with
    ⟨replies, t, hanswered, hvisit⟩ | ⟨replies, fault, emitted, u, hstopped, hvisit⟩
  · obtain ⟨p', hok, -⟩ := hvisit p
    obtain rfl := (EStateM.Result.ok.inj (hok.symm.trans h)).2
    exact ⟨hanswered.holds, rfl⟩
  · obtain ⟨p', herror, -⟩ := hvisit p
    rw [herror] at h
    contradiction

theorem flagsFor_cons {vs : List Visit} (hn : ((v :: vs).map Visit.node).Nodup)
    (hfirst : ∀ q ∈ replies, q.visit = v) (hrest : ∀ q ∈ more, q.visit ∈ vs) :
    flagsFor options (remarksAt (replies ++ more)) (v :: vs) =
      flagsFor options (remarksAt replies) [v] ++ flagsFor options (remarksAt more) vs := by
  have hnodes : ∀ u ∈ vs, u.node ≠ v.node := fun u hu heq =>
    (List.nodup_cons.mp hn).1 (heq ▸ List.mem_map_of_mem hu)
  have hone : flags (remarksAt (replies ++ more)) [v] = flags (remarksAt replies) [v] := by
    refine flags_congr fun u hu => ?_
    obtain rfl := List.mem_singleton.mp hu
    have hnone : remarksAt more u.node = [] :=
      remarksAt_of_ne fun q hq => hnodes _ (hrest q hq)
    rw [remarksAt_append, hnone, List.append_nil]
  have hmore : flags (remarksAt (replies ++ more)) vs = flags (remarksAt more) vs := by
    refine flags_congr fun u hu => ?_
    have hnone : remarksAt replies u.node = [] :=
      remarksAt_of_ne fun q hq heq =>
        hnodes u hu (heq.symm.trans (congrArg Visit.node (hfirst q hq)))
    rw [remarksAt_append, hnone, List.nil_append]
  unfold flagsFor
  split
  · rw [← List.singleton_append, flags_append, hone, hmore]
  · rfl

/-- **The visits of a walk**: every rule is asked at every visit, in the order of the visits
and there of the rules, and what they found is kept; or one of the questions ends the run,
and the diagnostics until then are kept. -/
theorem visitAll_cases (hrules : ∀ r ∈ rules, r.Spares x.Holds)
    (hoptions : options.Spares x.Holds)
    {vs : List Visit} (hnodes : ∀ v ∈ vs, x.HasNode v.node) (hn : (vs.map Visit.node).Nodup)
    (hs : x.Holds s) :
    (∃ replies t, Answered options x s (questionsOf vs rules) replies t ∧
      ∀ c p, ∃ c' p', Walk.visitAll (visit options rules) vs ⟨s, c, p⟩ = .ok () ⟨t, c', p'⟩ ∧
        Gained (emissions replies) (replies.filterMap Reply.finding)
          (flagsFor options (remarksAt replies) vs) p p') ∨
    ∃ replies fault emitted u,
      Stopped options x s (questionsOf vs rules) replies fault emitted u ∧
      ∀ c p, ∃ c' p', Walk.visitAll (visit options rules) vs ⟨s, c, p⟩ =
          .error fault ⟨u, c', p'⟩ ∧ p'.heard = p.heard.map (· ++ emitted) := by
  induction vs generalizing s with
  | nil =>
      have hnone : flagsFor options (remarksAt []) [] = [] := ite_self _
      exact .inl ⟨[], s, ⟨.nil hs, rfl⟩, fun c p => ⟨c, p, rfl, hnone ▸ Gained.refl p⟩⟩
  | cons v rest ih =>
      obtain ⟨hnode, hnodes⟩ := List.forall_mem_cons.mp hnodes
      rcases visit_cases hrules hoptions hnode hs with
        ⟨replies, t, hanswered, hvisit⟩ | ⟨replies, fault, emitted, u, hstopped, hvisit⟩
      · rcases ih hnodes (List.nodup_cons.mp hn).2 hanswered.holds with
          ⟨more, t', hanswered', hall⟩ | ⟨more, fault, emitted, u, hstopped, hall⟩
        · refine .inl ⟨replies ++ more, t', hanswered.append hanswered', fun c p => ?_⟩
          obtain ⟨p₁, hfirst, hgained⟩ := hvisit p
          obtain ⟨c₂, p₂, hmore, hgained'⟩ := hall v.cursor p₁
          refine ⟨c₂, p₂, (DocLint.bind_ok hfirst).trans hmore, ?_⟩
          rw [emissions_append, List.filterMap_append,
            flagsFor_cons hn hanswered.visit_eq hanswered'.visit_mem]
          exact hgained.trans hgained'
        · refine .inr ⟨replies ++ more, fault, _, u, hanswered.stopped hstopped, fun c p => ?_⟩
          obtain ⟨p₁, hfirst, hgained⟩ := hvisit p
          obtain ⟨c₂, p₂, hmore, hheard⟩ := hall v.cursor p₁
          refine ⟨c₂, p₂, (DocLint.bind_ok hfirst).trans hmore, ?_⟩
          rw [hheard, hgained.heard]
          cases p.heard <;> simp
      · refine .inr ⟨replies, fault, emitted, u, hstopped.before (questionsOf rest rules),
          fun c p => ?_⟩
        obtain ⟨p₁, hfirst, hgained⟩ := hvisit p
        exact ⟨v.cursor, p₁, (Walk.visitAll_cons v rest _).trans (DocLint.bind_error hfirst),
          hgained.heard⟩

end DocLint.Lint
