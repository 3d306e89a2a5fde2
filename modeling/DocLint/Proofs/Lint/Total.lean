import DocLint.Proofs.Lint.Levels
import DocLint.Proofs.Lint.Restore
import Mathlib.Data.List.Nodup

/-!
# DocLint.Proofs.Lint.Total

**Where linting fails.** Of the built-in rules, only the one about skipped levels of
headings looks at what it may not be able to ask for a type: it goes back from a heading
to the nearest heading before it, and everything between comes in its way. All other
rules are matched at the node itself and the nodes around it. Once it is matched, no rule
fails that has no level to name (`returns_rules`). So linting fails exactly where a heading
has a value without a type before it, and no other heading between, or where a level has to
be named that has too many digits (`lint_ok_iff`).
-/

namespace DocLint

/-- There is no other visit than those at nodes that a walk comes to. -/
theorem Spot.of_visit_mem {s : Store} {x : Layout} {v : Visit} (hlays : s.Lays x)
    (hv : v ∈ x.visits .fresh) :
    ∃ p : Spot, p.In x ∧ p.Walked ∧ p.here.isNode = true ∧ p.here.id? = some v.node ∧
      v = ⟨v.node, p.here.text, p.cursor⟩ := by
  obtain ⟨p, hp, hwalked, hn, hid, -⟩ := visits_document hlays.keyed hv
  exact ⟨p, hp, hwalked, hn, hid,
    List.inj_on_of_nodup_map (Lint.nodup_visits hlays) hv (visit_mem hp hwalked hn hid) rfl⟩

namespace Lint

open Layout Callback Catalogue

variable {s : Store} {x : Layout} {p : Spot} {options : Options} {v : Visit} {r : Rule}

/-! ### The selectors of the built-in rules -/

/-- The alternatives that the built-in rules have. -/
def isBuiltIn : Selector → Bool
  | .type _ => true
  | .comb .ancestor (.type _) (.type _) => true
  | .comb .sibling (.type "heading") (.type "heading") => true
  | _ => false

theorem isBuiltIn_rules : ∀ r ∈ defaultRules, ∀ a ∈ r.alternatives, isBuiltIn a.1 = true := by
  decide +kernel

/-- A type is asked for at nodes only, when it is looked for around a node. -/
theorem find?_ancestor_ok (hlays : s.Lays x) (hp : p.In x) {name : String} {right : Selector}
    {found : Matched} (hright : right.find? s p.cursor = .ok (some found)) :
    ∃ nodes, (Selector.comb .ancestor (.type name) right).find? s p.cursor = .ok nodes := by
  refine (Selector.find?_comb_ok_iff hlays hp (by simp [Combinator.IsKnown]) hright).mpr
    fun front q behind hspots => .inl ?_
  have hrel : Combinator.ancestor.Relates q p :=
    (Combinator.mem_spots hp .ancestor).mp (by simp [hspots])
  exact Selector.find?_type_ok hlays (hrel.spot_in hp) (typed_of_isNode hrel.1) name

/-- They are matched without failing, if the search for the heading before is. -/
theorem find?_builtIn_ok (hlays : s.Lays x) (hp : p.In x) (hn : p.here.isNode = true)
    (hclear : p.here.tree.nodeType? = some "heading" → p.Clear "heading") {sel : Selector}
    (hsel : isBuiltIn sel = true) : ∃ nodes, sel.find? s p.cursor = .ok nodes := by
  have htype (name : String) := Selector.find?_type_ok hlays hp (typed_of_isNode hn) name
  -- Where the right side does not match, the combinator does not either.
  have hcomb {kind : Combinator} {left : Selector} {name : String}
      (h : ∀ found, (Selector.type name).find? s p.cursor = .ok (some found) →
        ∃ nodes, (Selector.comb kind left (.type name)).find? s p.cursor = .ok nodes) :
      ∃ nodes, (Selector.comb kind left (.type name)).find? s p.cursor = .ok nodes := by
    obtain ⟨nodes, hright⟩ := htype name
    cases nodes with
    | none => exact ⟨none, by rw [Selector.find?, hright]; rfl⟩
    | some found => exact h found hright
  unfold isBuiltIn at hsel
  split at hsel
  · exact htype _
  · exact hcomb fun found hright => find?_ancestor_ok hlays hp hright
  · refine hcomb fun found hright => (Selector.find?_sibling_ok_iff hlays hp hright).mpr ?_
    exact hclear (Classical.not_not.mp fun hother => Selector.find?_unused hlays hp hother hright)
  · contradiction

/-! ### The answers of the built-in rules -/

/-- Every built-in rule answers at a node, if it is no heading or a legible one. -/
theorem asked_ok (hlays : s.Lays x) (hp : p.In x) (hn : p.here.isNode = true)
    (hlegible : p.here.tree.nodeType? = some "heading" → Legible p) (hr : r ∈ defaultRules) :
    ∃ found, r.asked s p.cursor p.here.text = .ok found := by
  rcases returns_rules .default r hr with rfl | rfl | hreturns
  · refine (asked_headingLevel_iff (by decide) hlays hp hn _).mpr fun hheading => ?_
    exact (hlegible hheading).high
  · by_cases hheading : p.here.tree.nodeType? = some "heading"
    · obtain ⟨hclear, -, hlow⟩ := hlegible hheading
      exact (asked_headingLevelSkip_iff hlays hp hheading).mpr ⟨hclear, hlow⟩
    · exact ⟨none, asked_headingLevelSkip_other hlays hp hn hheading _⟩
  · have hmatch : ∀ a ∈ r.alternatives, ∃ nodes, a.1.find? s p.cursor = .ok nodes := fun a ha =>
      find?_builtIn_ok hlays hp hn (fun hheading => (hlegible hheading).clear)
        (isBuiltIn_rules r hr a ha)
    obtain ⟨remark, emitted, hcomes⟩ := hreturns.check p.here.text hmatch
    exact ⟨_, quietly_eq (hcomes none)⟩

theorem named_defaultRules : ∀ r ∈ defaultRules, ∃ text, r.name = .str text := by
  simp only [defaultRules, rules, List.forall_mem_cons, List.not_mem_nil, false_implies,
    implies_true, and_true]
  and_intros <;> exact ⟨_, rfl⟩

/-- If nobody is told of findings, a built-in rule replies what it answers, and fails where it
has no answer. -/
theorem asked_of_inquire (hreport : options.report = none) (hr : r ∈ defaultRules)
    {result : Except Fault (Option Finding)} {t : Store} {emitted : List Diagnostic}
    (h : ComesTo (options.inquire v r) s result t emitted) :
    r.asked s v.cursor v.content = result := by
  have hstateless : r.Stateless := stateless_rules .default r hr
  obtain ⟨answer, u, more, hcheck, -, -⟩ :=
    (spares_rules .default (· = s) r hr).check v.cursor v.content s rfl
  have hasked : r.asked s v.cursor v.content = answer := quietly_eq (hcheck none)
  cases answer with
  | error fault => exact hasked.trans (hcheck.bind_error.unique h)
  | ok found =>
      obtain ⟨remark, rfl, hname⟩ := (hstateless.check v.cursor v.content).of_quietly hasked
      cases remark with
      | none =>
          have hnothing : ComesTo (options.inquire v r) s (.ok none) u (more ++ []) :=
            hcheck.bind_ok (comesTo_lift (.ok none) u)
          exact hasked.trans (hnothing.unique h)
      | some m =>
          have hwritable : m.rule.isWritable = true := by
            obtain ⟨text, htext⟩ := named_defaultRules r hr
            rw [hname m rfl, htext]
            rfl
          have htold : ComesTo (options.tell v.node m.finding) u (.ok ()) u [] := by
            rw [tell_written options v.node hwritable, hreport]
            exact comesTo_lift (.ok ()) u
          have hreplied : ComesTo (options.inquire v r) s (.ok (some m.finding)) u
              (more ++ ([] ++ [])) :=
            hcheck.bind_ok (htold.bind_ok (comesTo_lift (.ok (some m.finding)) u))
          exact hasked.trans (hreplied.unique h)

/-! ### Runs -/

theorem headingLevel_mem : headingLevel .default ∈ defaultRules :=
  List.mem_cons_of_mem _ List.mem_cons_self

theorem headingLevelSkip_mem : headingLevelSkip ∈ defaultRules :=
  List.mem_cons_of_mem _ (List.mem_cons_of_mem _ List.mem_cons_self)

theorem mem_questionsOf {vs : List Visit} {rules : List Rule} :
    (v, r) ∈ questionsOf vs rules ↔ v ∈ vs ∧ r ∈ rules := by
  simp [questionsOf]

section Asked

variable {rules : List Rule} {replies : List Reply} {t : Store}

/-- In a run that came to its end, every built-in rule among those that were asked has answered
at every node that a walk comes to. -/
theorem Answered.asked_ok (h : Answered options x s (questionsOf (x.visits .fresh) rules) replies t)
    (hreport : options.report = none) (hlays : s.Lays x) (hp : p.In x) (hwalked : p.Walked)
    (hn : p.here.isNode = true) (hmem : r ∈ rules) (hr : r ∈ defaultRules) :
    ∃ u found, u.Lays x ∧ r.asked u p.cursor p.here.text = .ok found := by
  obtain ⟨n, hid⟩ := Spot.id?_of_isNode hn
  have hasked : (⟨n, p.here.text, p.cursor⟩, r) ∈ replies.map Reply.question :=
    h.asked ▸ mem_questionsOf.mpr ⟨Spot.visit_mem hp hwalked hn hid, hmem⟩
  obtain ⟨q, hq, hquestion⟩ := List.mem_map.mp hasked
  obtain ⟨hvisit, rfl⟩ := Prod.mk.inj hquestion
  have hanswer := asked_of_inquire hreport hr (h.given.given q hq)
  rw [hvisit] at hanswer
  exact ⟨q.before, q.finding, ⟨h.given.holds.1 q hq, hlays.unshared, hlays.keyed⟩, hanswer⟩

/-- Where a run of built-in rules has stopped, one of them has failed with this fault. -/
theorem Stopped.asked_error {fault : Fault} {emitted : List Diagnostic} {u : Store}
    (h : Stopped options x s (questionsOf (x.visits .fresh) rules) replies fault emitted u)
    (hreport : options.report = none) (hlays : s.Lays x) (hrules : ∀ r ∈ rules, r ∈ defaultRules) :
    ∃ (t : Store) (p : Spot) (r : Rule), t.Lays x ∧ p.In x ∧ p.Walked ∧ p.here.isNode = true ∧
      r ∈ rules ∧ r.asked t p.cursor p.here.text = .error fault := by
  obtain ⟨t, v, r, rest, more, hreplies, hquestions, hfails, -⟩ := h.fails
  obtain ⟨hv, hr⟩ := mem_questionsOf.mp (hquestions ▸ List.mem_append_right _ List.mem_cons_self)
  obtain ⟨p, hp, hwalked, hn, -, hvisit⟩ := Spot.of_visit_mem hlays hv
  have hanswer := asked_of_inquire hreport (hrules r hr) hfails
  rw [hvisit] at hanswer
  exact ⟨t, p, r, ⟨hreplies.holds.2, hlays.unshared, hlays.keyed⟩, hp, hwalked, hn, hr, hanswer⟩

end Asked

/-- **Where linting fails.** With the built-in rules, whoever listens and whether or not it
highlights, a run comes to its findings if and only if every heading is legible: it can look
back to the nearest heading before it, and the levels that have to be named can be. At a node
all selectors that can be read are matched without failing if and only if there is nothing
without a type before it, nor before a node around it. -/
theorem lint_ok_iff [CharacterNames] (hlays : s.Lays x) :
    (∀ (options : Options) (heard : Option (List Diagnostic)), options.report = none →
      ((∃ found, ((run options defaultRules x.ref).run ⟨s, heard⟩).1.findings = .ok found) ↔
        ∀ p : Spot, p.In x → p.Walked → p.here.tree.nodeType? = some "heading" → Legible p)) ∧
    ∀ p : Spot, p.In x → p.Walked → p.here.isNode = true →
      ((∀ text sel, Selector.parse text = .ok sel → ∃ nodes, sel.find? s p.cursor = .ok nodes) ↔
        p.Quiet) := by
  refine ⟨fun options heard hreport => ?_, fun p hp _ hn => Selector.find?_ok_iff hlays hp hn⟩
  have hrules : ∀ r ∈ defaultRules, r.Spares x.Holds := spares_rules .default x.Holds
  have hoptions : options.Spares x.Holds := fun report h => by simp [hreport] at h
  obtain ⟨outcome, u, hrun, hends⟩ := run_cases hrules hoptions hlays
  rw [hrun heard]
  rcases hends with
    ⟨replies, t, hanswered, hfindings, -⟩ | ⟨replies, fault, emitted, hstopped, hfindings, -⟩
  · refine iff_of_true ⟨_, hfindings⟩ fun p hp hwalked hheading => ?_
    have hn : p.here.isNode = true := isNode_of_type hheading
    obtain ⟨u, found, hu, hlevel⟩ :=
      hanswered.asked_ok hreport hlays hp hwalked hn headingLevel_mem headingLevel_mem
    obtain ⟨u', found', hu', hskip⟩ :=
      hanswered.asked_ok hreport hlays hp hwalked hn headingLevelSkip_mem headingLevelSkip_mem
    obtain ⟨hclear, hlow⟩ := (asked_headingLevelSkip_iff hu' hp hheading).mp ⟨found', hskip⟩
    refine ⟨hclear, ?_, hlow⟩
    exact (asked_headingLevel_iff (by decide) hu hp hn _).mp ⟨found, hlevel⟩ hheading
  · refine iff_of_false (by simp [hfindings]) fun hall => ?_
    obtain ⟨t, p, r, ht, hp, hwalked, hn, hr, hasked⟩ :=
      hstopped.asked_error hreport hlays fun _ => id
    obtain ⟨found, hfound⟩ := asked_ok ht hp hn (hall p hp hwalked) hr
    rw [hfound] at hasked
    contradiction

/-- A heading behind a bare text. -/
def textThenHeading : Layout :=
  .list 0 [.scalar (.str "x"), .record 1 [("type", .scalar (.str "heading"))]]

/-- A store that holds `textThenHeading`. -/
def textThenHeadingStore : Store :=
  ⟨#[.list [.scalar (.str "x"), .object 1], .record [("type", .scalar (.str "heading"))]]⟩

theorem lays_textThenHeading : textThenHeadingStore.Lays textThenHeading := by
  refine ⟨?_, by decide, ?_⟩
  · simp [textThenHeading, Holds, HoldsFields, HoldsItems, textThenHeadingStore, Store.cell?,
      fieldRefs, ref]
  · simp [textThenHeading, tree, treeItems, treeFields, Tree.Keyed, Tree.KeyedItems,
      Tree.KeyedFields]

/-- Linting fails at the bare text, which is asked for its type. -/
theorem lint_textThenHeading_fails : textThenHeadingStore.Lays textThenHeading ∧
    ((run {} defaultRules textThenHeading.ref).run ⟨textThenHeadingStore, none⟩).1.findings =
      .error (.type .textIndex) ∧
    ((run { highlight := true } defaultRules textThenHeading.ref).run
      ⟨textThenHeadingStore, none⟩).1.findings = .error (.type .textIndex) := by
  exact ⟨lays_textThenHeading, by decide +kernel, by decide +kernel⟩

/-- The heading in it. -/
def headingInList : Spot :=
  ⟨.record 1 [("type", .scalar (.str "heading"))], [(textThenHeading, .index 1)]⟩

/-- The text in it. -/
def textInList : Spot := ⟨.scalar (.str "x"), [(textThenHeading, .index 0)]⟩

theorem textInList_before : Combinator.sibling.Relates textInList headingInList :=
  ⟨0, _, [], 0, 1, Nat.zero_lt_one, rfl, rfl, rfl⟩

theorem textInList_untyped : ¬ textInList.here.Typed := by simp [textInList, Typed]

/-- The heading cannot look back, as the bare text is right before it. -/
theorem lint_ok_iff_textThenHeading : textThenHeadingStore.Lays textThenHeading ∧
    (¬ ∃ found, ((run { highlight := true } defaultRules textThenHeading.ref).run
      ⟨textThenHeadingStore, none⟩).1.findings = .ok found) ∧
    ¬ ∀ text sel, Selector.parse text = .ok sel →
      ∃ nodes, sel.find? textThenHeadingStore headingInList.cursor = .ok nodes := by
  have hin : headingInList.In textThenHeading := ⟨rfl, rfl⟩
  have hwalked : headingInList.Walked := by simp [headingInList, Spot.Walked]
  obtain ⟨hrun, hmatch⟩ := lint_ok_iff lays_textThenHeading
  refine ⟨lays_textThenHeading, fun hok => ?_, fun hall => ?_⟩
  · have hlegible := (hrun { highlight := true } none rfl).mp hok headingInList hin hwalked rfl
    obtain ⟨q, ⟨id, items, outer, j, k, hlt, hheading, hq, -⟩, -, hnearer⟩ :=
      hlegible.clear textInList textInList_before textInList_untyped
    have hk : (k : Int) = 1 := by
      simp only [headingInList, List.cons.injEq, Prod.mk.injEq, Step.index.injEq] at hheading
      exact hheading.1.2.symm
    have hj : (0 : Int) < j := by
      simp only [Combinator.Nearer, Spot.index, hq] at hnearer
      exact hnearer
    omega
  · have hquiet := (hmatch headingInList hin hwalked rfl).mp hall
    exact textInList_untyped (hquiet headingInList (.inl rfl) textInList textInList_before)

end Lint

end DocLint
