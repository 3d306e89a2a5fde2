import DocLint.Check
import DocLint.Proofs.Lint.Count
import DocLint.Proofs.Lint.Independent
import DocLint.Proofs.Lint.Total

/-!
# DocLint.Proofs.Check

**The checks are passed** by every document of which three things hold: no list in it has both
nodes and other values, so that everything a search comes to can be asked for its type, its
numbers can be written out, so that rules can name levels, and its leaves have nothing inside
them, so that their text is all the text there is. A selector may be
any text that is read, or refused as a selector (`selector_ok`, `document_ok`).

Most of this is known of reading, matching and linting already. What is added is that the checks
see it: the cursor of a search is another than that of the walk (`matching_apply`), equal findings
are the same to a comparison by value (`run_findings`), and what highlighting leaves is not inside
itself (`run_isCircular`).
-/

namespace DocLint.Check

open Layout

variable {s : Store} {x : Layout} {v : Visit}

/-- What comes behind a computation that succeeded. -/
theorem bind_of_ok {α β : Type} {m : Except Fault α} {a : α} {f : α → Except Fault β}
    (h : m = .ok a) : (m >>= f) = f a := by
  rw [h]
  rfl

/-! ### Selectors -/

/-- What a match is checked for: its end. -/
def checkEnd (node : Nat) : Option Matched → Except Fault Unit
  | none => return
  | some nodes => do if nodes.getLast? != some (.object node) then throw (.check .wrongEnd)

/-- Matching does not move the cursor, so the check of the cursor is always passed. -/
theorem matching_apply (sel : Selector) (node : Nat) (content : String) (w : Scene Unit) :
    matching sel node content w =
      (liftM (sel.find? w.store w.cursor >>= checkEnd node) : Walk Unit Unit) w := by
  rw [matching, get_bind]
  cases sel.find? w.store w.cursor with
  | error fault => rfl
  | ok found =>
      rw [bind_lift_ok, get_bind, bne_self_eq_false]
      cases found with
      | none => rfl
      | some nodes =>
          show _ = (liftM (checkEnd node (some nodes)) : Walk Unit Unit) w
          simp only [checkEnd, Bool.false_eq_true, if_false]
          generalize (nodes.getLast? != some (.object node)) = wrong
          cases wrong <;> rfl

theorem steady_matching (sel : Selector) : Walk.Steady (matching sel) := by
  intro node content w w' h
  rw [matching_apply] at h
  cases hresult : sel.find? w.store w.cursor >>= checkEnd node with
  | error fault =>
      rw [hresult] at h
      contradiction
  | ok a =>
      rw [hresult] at h
      obtain rfl : w = w' := (EStateM.Result.ok.inj h).2
      exact ⟨rfl, rfl⟩

/-- Matching passes its checks at every visit. -/
theorem matching_ok [CharacterNames] {sel : Selector} (hsel : sel.Written) (hlays : s.Lays x)
    (hx : x.Unmixed) (hv : v ∈ x.visits .fresh) (data : Unit) :
    matching sel v.node v.content ⟨s, v.cursor, data⟩ = .ok () ⟨s, v.cursor, data⟩ := by
  obtain ⟨p, hp, -, hn, hid, hcursor⟩ := Spot.visits_document hlays.keyed hv
  obtain ⟨r, hfind, hmeans⟩ := Selector.find?_means hlays hx hsel hp hn
  have hend : checkEnd v.node r = .ok () := by
    cases r with
    | none => rfl
    | some found =>
        rw [checkEnd, hmeans.getLast?, id?_eq_some.mp hid, bne_self_eq_false]
        rfl
  rw [hcursor] at hfind
  rw [matching_apply, hfind]
  exact congrArg (fun result : Except Fault Unit => (liftM result : Walk Unit Unit) _) hend

/-- **No check of a selector fails** on a document without mixed lists, and the text is read,
or refused as a selector. -/
theorem selector_ok [CharacterNames] {source : String} (hlays : s.Lays x) (hx : x.Unmixed)
    (h : (∃ sel, Selector.parse source = .ok sel) ∨
      ∃ error, Selector.parse source = .error (.selector error)) :
    selector source s x.ref = .ok () := by
  rcases h with ⟨sel, hparse⟩ | ⟨error, hparse⟩
  · obtain ⟨-, hwritten, hread⟩ := Selector.parse_format_parse
    have hsel := hwritten source sel hparse
    obtain ⟨text, htext, hagain⟩ := hread source sel hparse
    obtain ⟨c, hwalk⟩ := Walk.walk_noted (steady_matching sel) hlays ()
      fun v hv => matching_ok hsel hlays hx hv
    rw [selector, hparse]
    refine (bind_of_ok htext).trans ((bind_of_ok hagain).trans ?_)
    rw [hsel.same, hwalk]
    rfl
  · rw [selector, hparse]
    rfl

/-! ### Documents -/

theorem steady_listing : Walk.Steady listing := Walk.steady_of_eq fun _ _ _ => rfl

theorem steady_answering_any : Walk.Steady (answering .any) := Walk.steady_of_eq fun _ _ _ => rfl

/-- The nodes that are counted are those that a walk comes to. -/
theorem nodeCount_eq (hlays : s.Lays x) :
    nodeCount s x.ref = .ok (x.visits .fresh).length := by
  obtain ⟨c, hwalk⟩ := Walk.walk_noted steady_listing hlays [] fun v _ data => rfl
  rw [nodeCount, hwalk]
  simp [List.foldl_flip_cons_eq_append]

/-- Without mixed lists and long numbers every built-in rule answers, with nothing or a remark in
its name. -/
theorem asked_ok (hlays : s.Lays x) (hx : x.Unmixed) (hwritable : x.tree.isWritable = true)
    (hv : v ∈ x.visits .fresh) {r : Rule}
    (hr : r ∈ Catalogue.defaultRules) : ∃ remark : Option Remark,
      r.asked s v.cursor v.content = .ok (remark.map Remark.finding) ∧
        ∀ m ∈ remark, m.rule = r.name := by
  obtain ⟨p, hp, -, hn, -, hvisit⟩ := Spot.of_visit_mem hlays hv
  obtain ⟨found, hasked⟩ := Lint.asked_ok hlays hp hn
    (fun _ => Lint.legible_of_isWritable hwritable hp (Lint.clear_of_unmixed hx hp hn _)) hr
  rw [hvisit]
  obtain ⟨remark, hremark, hname⟩ :=
    ((Catalogue.stateless_rules .default r hr).check p.cursor p.here.text).of_quietly hasked
  exact ⟨remark, hremark ▸ hasked, hname⟩

/-! ### Findings -/

theorem same_str (text : String) : Tree.same (.str text) (.str text) = true := by
  simp [Tree.same, Scalar.same, Scalar.numeral?]

theorem same_int (i : Int) : Tree.same (.int i) (.int i) = true := by
  simp [Tree.same, Scalar.same, Scalar.numeral?, Numeral.same, Numeral.place?, Numeral.Place.lt]

/-- A remark in the name of a text is the same as itself. -/
theorem same_remark {m : Remark} {text : String} (h : m.rule = .str text) :
    m.finding.same m.finding = true := by
  simp [Remark.finding, Finding.same, h, same_str, same_int]

theorem sameFindings_self {found : List Finding} (h : ∀ f ∈ found, f.same f = true) :
    sameFindings found found = true := by
  induction found with
  | nil => rfl
  | cons f rest ih =>
      obtain ⟨hf, hrest⟩ := List.forall_mem_cons.mp h
      simp [sameFindings, hf, ih hrest]

/-- What a built-in rule finds where it answers is a remark in its name. -/
theorem mem_told (hlays : s.Lays x) (hx : x.Unmixed) (hwritable : x.tree.isWritable = true)
    (hv : v ∈ x.visits .fresh) {f : Finding}
    (h : f ∈ Lint.told (Lint.finds s) Catalogue.defaultRules v) :
    ∃ (m : Remark) (text : String), f = m.finding ∧ m.rule = .str text := by
  obtain ⟨r, hr, hf⟩ := List.mem_flatMap.mp h
  obtain ⟨remark, hasked, hname⟩ := asked_ok hlays hx hwritable hv hr
  rw [Lint.finds_of_asked hasked, Option.mem_toList, Option.map_eq_some_iff] at hf
  obtain ⟨m, hm, rfl⟩ := hf
  obtain ⟨text, htext⟩ := Lint.named_defaultRules r hr
  exact ⟨m, text, rfl, (hname m hm).trans htext⟩

/-- Highlighted or not, a run finds the same, which is the same by value, too. -/
theorem run_findings (hlays : s.Lays x) (hx : x.Unmixed) (hwritable : x.tree.isWritable = true) :
    ∃ found,
    Lint.returned false false Catalogue.defaultRules x ⟨s, none⟩ = .ok found ∧
    Lint.returned true true Catalogue.defaultRules x ⟨s, none⟩ = .ok found ∧
    sameFindings found found = true := by
  have hrules := Catalogue.consistent_rules .default x
  have hsaid : ∀ v ∈ x.visits .fresh, ∀ r ∈ Catalogue.defaultRules,
      r.Tells x v (Lint.finds s v r) := by
    intro v hv r hr
    obtain ⟨remark, hasked, -⟩ := asked_ok hlays hx hwritable hv hr
    exact Lint.finds_of_asked hasked ▸ (hrules r hr).tells hlays hv hasked
  have hstart : (Session.mk s none).store.Lays x := hlays
  have hplain (listen : Bool) := Lint.returned_plain hrules hstart hsaid listen
  obtain ⟨-, hmarked⟩ := Lint.returned_highlight hrules hstart hsaid true
  refine ⟨_, hplain false, (hmarked fun v hv f hf => ?_).trans (hplain true),
    sameFindings_self fun f hf => ?_⟩
  · obtain ⟨m, -, hm, -⟩ := mem_told hlays hx hwritable hv hf
    exact ⟨m, hm⟩
  · obtain ⟨v, hv, hf⟩ := List.mem_flatMap.mp hf
    obtain ⟨m, text, rfl, htext⟩ := mem_told hlays hx hwritable hv hf
    exact same_remark htext

/-- Highlighting leaves nothing that is inside itself. -/
theorem run_isCircular {rules : List Rule} {session : Session} (hrules : ∀ r ∈ rules, r.Stateless)
    (hlays : session.store.Lays x) (listen : Bool) :
    ((Lint.run (Lint.highlighting listen) rules x.ref).run session).2.store.isCircular x.ref =
      false := by
  obtain ⟨outcome, after, hrun, hleft⟩ := Lint.run_rebuilt hrules hlays listen
  rw [hrun]
  rcases hleft with ⟨_, -, -, -, y, href, hy, hn, -⟩ | ⟨-, -, -, -, -, -, -, -, hstore⟩
  · exact href ▸ isCircular_of_holds hy hn
  · exact hstore ▸ isCircular_of_holds hlays.holds hlays.unshared

/-- **No check of a document fails** that has no mixed lists, no long numbers and only leaves with
nothing inside. -/
theorem document_ok (hlays : s.Lays x) (hx : x.Unmixed) (hwritable : x.tree.isWritable = true)
    (hbare : x.tree.Bare) : document s x.ref = .ok () := by
  have hnamed : ∀ r ∈ Catalogue.defaultRules, r.Named := fun r hr =>
    (Lint.named_defaultRules r hr).imp' Scalar.str fun _ h => h
  have hstateless : ∀ r ∈ Catalogue.defaultRules, r.Stateless := Catalogue.stateless_rules .default
  obtain ⟨_, hwalk⟩ := Walk.walk_noted steady_answering_any hlays [] fun v _ data => rfl
  obtain ⟨found, hplain, hmarked, hsame⟩ := run_findings hlays hx hwritable
  have hstart : (Session.mk s none).store.Lays x := hlays
  obtain ⟨marked, after, hrun, hcount⟩ := Lint.run_count hstateless hnamed hstart hbare true
  have hcircular := run_isCircular hstateless hstart true
  rw [Lint.returned, Lint.quiet] at hplain
  rw [Lint.returned, Lint.quiet, hrun] at hmarked
  rw [Lint.highlighting, hrun] at hcircular
  unfold document
  split
  next result scene heq =>
  obtain ⟨rfl, rfl⟩ := Prod.mk.inj (hwalk.symm.trans heq)
  refine (bind_of_ok rfl).trans ((bind_of_ok (nodeCount_eq hlays)).trans ?_)
  rw [if_neg (by simp [List.foldl_flip_cons_eq_append])]
  extract_lets rules
  split
  next outcome session heq =>
  rw [heq] at hplain
  refine (bind_of_ok hplain).trans ?_
  rw [hrun]
  refine (bind_of_ok hmarked).trans ?_
  rw [hsame, if_neg (by simp)]
  refine (bind_of_ok hcount).trans ((bind_of_ok (Lint.characterCount_text hlays hbare)).trans ?_)
  rw [bne_self_eq_false, if_neg (by simp), if_neg (by simp [hcircular])]
  rfl

end DocLint.Check
