import DocLint.Proofs.Selector.Format
import DocLint.Proofs.Selector.Meaning
import DocLint.Proofs.Walk.Plain

/-!
# DocLint.Proofs.Selector.Match

**The search finds what selectors mean.** It commits to the nearest candidate from
which the left side can be found, and never comes back to a combinator. What
`firstMatch` finds is nearest all the same (`firstMatch_spec`), because the candidates
are sorted and a candidate that is passed over begins no witness. The rest is an
induction over the chain (`find?_chain`).
-/

namespace DocLint.Selector

/-! ### The search -/

variable {s : Store} {x : Layout} {p : Spot}

/-- The first candidate with an answer decides; those before it have none. -/
theorem firstMatch_spec {find : Cursor → Except Fault (Option Matched)}
    {answers : Spot → Option Matched → Prop} {qs : List Spot}
    (h : ∀ q ∈ qs, ∃ r, find q.cursor = .ok r ∧ answers q r) :
    (firstMatch find (qs.map fun q => .ok q.cursor) = .ok none ∧ ∀ q ∈ qs, answers q none) ∨
    ∃ before q behind found, qs = before ++ q :: behind ∧
      firstMatch find (qs.map fun q => .ok q.cursor) = .ok (some found) ∧
      (∀ q' ∈ before, answers q' none) ∧ answers q (some found) := by
  induction qs with
  | nil => exact .inl ⟨rfl, by simp⟩
  | cons q rest ih =>
      obtain ⟨⟨r, hfind, hr⟩, hrest⟩ := List.forall_mem_cons.mp h
      cases r with
      | some found =>
          refine .inr ⟨[], q, rest, found, rfl, ?_, by simp, hr⟩
          simp [firstMatch, hfind, bind, Except.bind, pure, Except.pure]
      | none =>
          have hnext : firstMatch find ((q :: rest).map fun q => .ok q.cursor) =
              firstMatch find (rest.map fun q => .ok q.cursor) := by
            simp [firstMatch, hfind, bind, Except.bind]
          rcases ih hrest with
            ⟨hnone, hall⟩ | ⟨before, q', behind, found, rfl, hfound, hbefore, hq'⟩
          · exact .inl ⟨hnext.trans hnone, List.forall_mem_cons.mpr ⟨hr, hall⟩⟩
          · exact .inr ⟨q :: before, q', behind, found, rfl, hnext.trans hfound,
              List.forall_mem_cons.mpr ⟨hr, hbefore⟩, hq'⟩

/-- To ask for a type at a node does not fail. -/
theorem find?_type_node {y : Layout} {c : Cursor} (hy : y.Holds s) (hn : y.isNode = true)
    (hc : c.current = y.ref) (name : String) : (Selector.type name).find? s c =
      .ok (if y.tree.nodeType? = some name then some [y.ref] else none) := by
  obtain ⟨type, htype⟩ := Option.isSome_iff_exists.mp hn
  have hfield := Layout.field_type_of_holds hy htype
  have hcurrent : y.ref ≠ .null := by
    intro hnull
    rw [hnull] at hfield
    contradiction
  rw [find?, hc, if_neg hcurrent, hfield, htype]
  by_cases h : type = name <;> simp [h, bind, Except.bind, pure, Except.pure]

/-- A node selector asks for nothing, or for the type. -/
theorem find?_node (hlays : s.Lays x) {sel : Selector} (hsel : sel.IsNode) (hp : p.In x)
    (hn : p.here.isNode = true) :
    (sel.find? s p.cursor = .ok (some [p.here.ref]) ∧ sel.Witness x [p]) ∨
      (sel.find? s p.cursor = .ok none ∧ ¬ sel.Witness x [p]) := by
  cases sel with
  | any => exact .inl ⟨rfl, p, rfl, hp, hn⟩
  | type name =>
      have hcurrent : p.cursor.current = p.here.ref := rfl
      have hfind := find?_type_node (hp.holds hlays.holds) hn hcurrent name
      by_cases h : p.here.tree.nodeType? = some name
      · rw [if_pos h] at hfind
        exact .inl ⟨hfind, p, rfl, hp, h⟩
      · rw [if_neg h] at hfind
        refine .inr ⟨hfind, ?_⟩
        rintro ⟨q, hq, -, hname⟩
        obtain rfl : p = q := by simpa using hq
        exact h hname
  | comb _ _ _ | filtered _ _ | list _ | foreign _ => exact hsel.elim

/-- The left side is searched for where the right side was found. -/
theorem find?_comb {kind : Combinator} {left right : Selector} {c : Cursor} {inner : Matched}
    {outer : Option Matched} (hright : right.find? s c = .ok (some inner))
    (hleft : firstMatch (left.find? s) (kind.candidates s c) = .ok outer) :
    (Selector.comb kind left right).find? s c = .ok (outer.map (· ++ inner)) := by
  rw [find?, hright]
  show (firstMatch (left.find? s) (kind.candidates s c) >>= _) = _
  rw [hleft]
  rfl

/-- **Chains.** At every node a chain answers what it means. -/
theorem find?_chain (hlays : s.Lays x) (hx : x.Unmixed) {sel : Selector} (hsel : sel.IsChain)
    (hp : p.In x) (hn : p.here.isNode = true) :
    ∃ r, sel.find? s p.cursor = .ok r ∧ sel.Answers x p r := by
  induction hsel using IsChain.induction generalizing p with
  | node sel hsel =>
      rcases find?_node hlays hsel hp hn with ⟨hfind, hwitness⟩ | ⟨hfind, hno⟩
      · exact ⟨_, hfind, [p], hsel.nearest hwitness, rfl, rfl⟩
      · refine ⟨_, hfind, fun ps hps hlast => hno ?_⟩
        obtain ⟨q, rfl, -⟩ := hsel.witness hps
        obtain rfl : q = p := by simpa using hlast
        exact hps
  | comb kind left right hkind hleft hright ih =>
      rcases find?_node hlays hright hp hn with ⟨hfind, hwitness⟩ | ⟨hfind, hno⟩
      · have hqs : ∀ q ∈ kind.spots p, ∃ r, left.find? s q.cursor = .ok r ∧ left.Answers x q r :=
          fun q hq =>
            have hrel := (Combinator.mem_spots hp kind).mp hq
            ih (hrel.spot_in hp) (hrel.isNode hx hp hn)
        rcases firstMatch_spec hqs with ⟨hfirst, hnone⟩ |
          ⟨before, q, behind, found, hsplit, hfirst, hbefore, front, hnearest, hlast, rfl⟩
        all_goals rw [← Combinator.candidates_cursor hlays hp hkind] at hfirst
        · refine ⟨none, find?_comb hfind hfirst, ?_⟩
          rintro ps ⟨front, q, p', rfl, hfront, hlast, -, hrel⟩ hend
          obtain rfl : p' = p := by simpa using hend
          exact hnone q ((Combinator.mem_spots hp kind).mpr hrel) front hfront hlast
        · have hrel : kind.Relates q p := (Combinator.mem_spots hp kind).mp (by simp [hsplit])
          refine ⟨_, find?_comb hfind hfirst, front ++ [p],
            ⟨front, q, p, rfl, hnearest, hlast, hwitness, hrel, ?_⟩, by simp, by simp⟩
          intro q' front' hrel' hfront' hlast' hnearer
          have hsorted := hsplit ▸ kind.spots_sorted p
          have hmem : q' ∈ before ++ q :: behind :=
            hsplit ▸ (Combinator.mem_spots hp kind).mpr hrel'
          rcases List.mem_append.mp hmem with hmem | hmem
          · exact hbefore q' hmem front' hfront' hlast'
          · rcases List.mem_cons.mp hmem with rfl | hmem
            · exact hnearer.asymm hnearer
            · have hbehind := (List.pairwise_append.mp hsorted).2.1
              exact hnearer.asymm ((List.pairwise_cons.mp hbehind).1 q' hmem)
      · refine ⟨none, by rw [find?, hfind]; rfl, ?_⟩
        rintro ps ⟨front, q, p', rfl, -, -, hwitness, -⟩ hlast
        obtain rfl : p' = p := by simpa using hlast
        exact hno hwitness

theorem find?_tree [CharacterNames] (hlays : s.Lays x) (hx : x.Unmixed) {sel : Selector}
    (hsel : sel.IsTree) (hp : p.In x) (hn : p.here.isNode = true) :
    ∃ r, sel.find? s p.cursor = .ok r ∧ sel.Answers x p r := by
  rcases hsel.cases with hchain | ⟨inner, filter, rfl, hchain, -⟩
  · exact find?_chain hlays hx hchain hp hn
  · obtain ⟨r, hfind, hr⟩ := find?_chain hlays hx hchain hp hn
    exact ⟨r, by rw [find?, hfind], answers_filtered.mpr hr⟩

/-- Of several alternatives, the first with an answer decides. -/
theorem findFirst?_spec {alternatives : List Selector}
    (h : ∀ sel ∈ alternatives, ∃ r, sel.find? s p.cursor = .ok r ∧ sel.Answers x p r) :
    ∃ r, findFirst? s alternatives p.cursor = .ok r ∧ (list alternatives).Means x p r := by
  induction alternatives with
  | nil => exact ⟨none, rfl, by simp [Means]⟩
  | cons sel rest ih =>
      obtain ⟨⟨r, hfind, hr⟩, hrest⟩ := List.forall_mem_cons.mp h
      cases r with
      | some found =>
          refine ⟨some found, ?_, [], sel, rest, rfl, by simp, hr⟩
          rw [findFirst?, hfind]
          rfl
      | none =>
          obtain ⟨r, hnext, hmeans⟩ := ih hrest
          refine ⟨r, ?_, ?_⟩
          · rw [findFirst?, hfind]
            exact hnext
          · cases r with
            | none => exact List.forall_mem_cons.mpr ⟨hr, hmeans⟩
            | some found =>
                obtain ⟨before, sel', behind, rfl, hbefore, hfound⟩ := hmeans
                exact ⟨sel :: before, sel', behind, rfl,
                  List.forall_mem_cons.mpr ⟨hr, hbefore⟩, hfound⟩

/-- **The search finds what is meant**, at every node, and does not fail. -/
theorem find?_means [CharacterNames] (hlays : s.Lays x) (hx : x.Unmixed) {sel : Selector}
    (hsel : sel.Written) (hp : p.In x) (hn : p.here.isNode = true) :
    ∃ r, sel.find? s p.cursor = .ok r ∧ sel.Means x p r := by
  rcases hsel.cases with htree | ⟨alternatives, rfl, -, htrees⟩
  · obtain ⟨r, hfind, hr⟩ := find?_tree hlays hx htree hp hn
    exact ⟨r, hfind, htree.means.mpr hr⟩
  · obtain ⟨r, hfind, hmeans⟩ :=
      findFirst?_spec fun sel hmem => find?_tree hlays hx (htrees sel hmem) hp hn
    exact ⟨r, by rw [find?, hfind], hmeans⟩

/-! ### The search in the course of a walk -/

/-- Notes for every node what a selector answers there. -/
def noting (sel : Selector) : Visitor (List (Nat × Except Fault (Option Matched))) :=
  fun node _ => do
    let scene ← get
    Walk.modifyData (· ++ [(node, sel.find? scene.store scene.cursor)])

/-- **Matching in a walk.** At every node that the walk visits, a selector that was read
answers what it means there, and nothing else. -/
theorem walk_noting [CharacterNames] {text : String} {sel : Selector}
    (hparse : parse text = .ok sel) (hlays : s.Lays x) (hx : x.Unmixed) :
    ∃ content w, walk (noting sel) s x.ref [] = (.ok content, w) ∧ w.store = s ∧
      w.data.map (·.1) = (x.visits .fresh).map Visit.node ∧
      ∀ noted ∈ w.data, ∃ (p : Spot) (answer : Option Matched),
        p.In x ∧ p.here.isNode = true ∧ p.here.id? = some noted.1 ∧ noted.2 = .ok answer ∧
          ∀ r, sel.Means x p r ↔ r = answer := by
  have hsel : sel.Written := parse_written hparse
  obtain ⟨c, hwalk⟩ := Walk.walk_collecting (fun s c => sel.find? s c) hlays
  refine ⟨x.text, _, hwalk, rfl, ?_, ?_⟩
  · simp [Function.comp_def]
  · intro noted hnoted
    obtain ⟨v, hv, rfl⟩ := List.mem_map.mp hnoted
    have hfresh : Spot.cursor ⟨x, []⟩ = { Cursor.fresh with current := x.ref } := rfl
    rw [← Layout.visits_current .fresh x.ref x, ← hfresh] at hv
    have hroot : x.Around [] x := rfl
    have hwalked : Spot.Walked ⟨x, []⟩ := List.forall_mem_nil _
    obtain ⟨p, hp, -, hn, hid, hcursor⟩ := Spot.visits_spot hlays.keyed hroot hwalked hv
    obtain ⟨answer, hfind, hmeans⟩ := find?_means hlays hx hsel hp hn
    refine ⟨p, answer, hp, hn, hid, hcursor ▸ hfind, fun r => ⟨fun hr => ?_, fun hr => ?_⟩⟩
    · exact hr.unique hsel hmeans
    · exact hr ▸ hmeans

/-- In a document with two paragraphs, the selector is matched at the second one only. -/
theorem walk_noting_twoParagraphs :
    (parse "* + *" = .ok (comb .previous .any .any) ∧ twoParagraphsStore.Lays twoParagraphs ∧
      twoParagraphs.Unmixed) ∧
    ∃ content w, walk (noting (comb .previous .any .any)) twoParagraphsStore (.object 0) [] =
      (.ok content, w) ∧ w.data.map (·.1) = [2, 3, 0] := by
  have hparse : parse "* + *" = .ok (comb .previous .any .any) := by
    obtain ⟨text, hformat, hparse⟩ := parse_format (s := comb .previous .any .any)
      ⟨fun name => by simp, trivial, trivial⟩
    obtain rfl : "* + *" = text := Except.ok.inj hformat
    exact hparse
  have hunmixed : twoParagraphs.Unmixed := by
    refine ⟨trivial, ⟨.inl ?_, ⟨trivial, trivial⟩, ⟨trivial, trivial⟩, trivial⟩, trivial⟩
    decide
  obtain ⟨content, w, hwalk, -, hnodes, -⟩ := walk_noting hparse lays_twoParagraphs hunmixed
  exact ⟨⟨hparse, lays_twoParagraphs, hunmixed⟩, content, w, hwalk, hnodes⟩

end DocLint.Selector
