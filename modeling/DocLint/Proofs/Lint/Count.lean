import Mathlib.Algebra.GroupWithZero.Nat
import DocLint.Proofs.Lint.Exact
import DocLint.Proofs.Lint.Occurrences

/-!
# DocLint.Proofs.Lint.Count

**Counting characters measures the text** (`characterCount_exact`), and what merges or
highlights a document leaves the count as it is.

The count is a sum over visits and the text of a walk is put together on the way up. The two
agree because a leaf with nothing inside is visited alone, with its own text
(`counted_visits`). So whoever lays out a document of such leaves has its text as the count
(`characterCount_text`). This covers every node of a document, which is a document of its own
(`visit_lays`), and what is left by the two that edit: the merged document (`bare_merged`) and
the rebuilt one (`bare_rebuilt`), both with the text of the document.
-/

namespace DocLint

/-! ### The parts of a laid-out document -/

namespace Store.Lays

open Layout

variable {s : Store} {id : Nat}

theorem item {items : List Layout} (h : s.Lays (.list id items)) {x : Layout} (hx : x ∈ items) :
    s.Lays x :=
  ⟨holdsItems_iff.mp h.holds.2 x hx,
    (List.nodup_cons.mp h.unshared).2.sublist (ids_sublist_items hx),
    keyedItems_iff.mp h.keyed x hx⟩

theorem field {fields : List (String × Layout)} (h : s.Lays (.record id fields))
    {f : String × Layout} (hf : f ∈ fields) : s.Lays f.2 :=
  ⟨holdsFields_iff.mp h.holds.2 f hf,
    (List.nodup_cons.mp h.unshared).2.sublist (ids_sublist_fields hf),
    keyedFields_iff.mp h.keyed.2 f hf⟩

end Store.Lays

namespace Layout

variable {s : Store} {x : Layout} {v : Visit} {c : Cursor} {found : Nat → List Remark}

/-- A visit is at a part of the document, with the text of the part. -/
theorem visit_lays (hlays : s.Lays x) (hbare : x.tree.Bare) (hv : v ∈ x.visits c) :
    ∃ y, s.Lays y ∧ y.tree.Bare ∧ y.ref = .object v.node ∧ v.content = y.text := by
  let P (y : Layout) : Prop := s.Lays y ∧ y.tree.Bare
  have hitems {id : Nat} {items : List Layout} (h : P (.list id items)) : ∀ y ∈ items, P y :=
    fun y hy => ⟨h.1.item hy, bareItems_iff.mp h.2 y hy⟩
  have hfields {id : Nat} {fields : List (String × Layout)} (h : P (.record id fields)) :
      ∀ f ∈ fields, P f.2 :=
    fun f hf => ⟨h.1.field hf, bareFields_iff.mp h.2.2 f hf⟩
  obtain ⟨y, ⟨hy, hbare⟩, -, href, -, htext⟩ := visit_part hitems hfields ⟨hlays, hbare⟩ hv
  exact ⟨y, hy, hbare, href, htext⟩

/-! ### The sum over the visits -/

/-- The lengths of the text leaves among the visits, added up. -/
def counted (s : Store) (vs : List Visit) : Nat :=
  (vs.map fun v => if s.isTextLeaf (.object v.node) then v.content.length else 0).sum

theorem counted_append (s : Store) (front back : List Visit) :
    counted s (front ++ back) = counted s front + counted s back := by
  rw [counted, List.map_append, List.sum_append]
  rfl

/-- The visit of a record itself. -/
theorem counted_own {id : Nat} {fields : List (String × Layout)}
    (hholds : (Layout.record id fields).Holds s) (hbare : (Layout.record id fields).tree.Bare) :
    counted s (if (Layout.record id fields).isNode then
      [⟨id, (Layout.record id fields).text, c.facing id⟩] else []) = (ownText fields).length := by
  have hread : s.isTextLeaf (.object id) = (Layout.record id fields).tree.isTextLeaf :=
    congrArg Option.isSome (leafText?_of_holds hholds)
  cases hleaf : (Layout.record id fields).tree.leafText? with
  | none =>
      have hnone : (Layout.record id fields).tree.isTextLeaf = false := congrArg Option.isSome hleaf
      have hown : ownText fields = "" := congrArg (Option.getD · "") hleaf
      rw [hown]
      split
      · simp [counted, hread, hnone]
      · rfl
  | some text =>
      have hsome : (Layout.record id fields).tree.isTextLeaf = true := congrArg Option.isSome hleaf
      have hown : ownText fields = text := congrArg (Option.getD · "") hleaf
      have hnode : (Layout.record id fields).isNode = true :=
        congrArg Option.isSome (leafText?_tree.mp hleaf).1
      simp [counted, hread, hsome, hnode, hown, text_of_bare hleaf hbare]

/-- **The sum over the visits is the length of the text.** -/
theorem counted_visits (hholds : x.Holds s) (hbare : x.tree.Bare) (c : Cursor) :
    counted s (x.visits c) = x.text.length := by
  induction x using induct generalizing c with
  | scalar value => rfl
  | list id items ih =>
      have hitems : ∀ x ∈ items, ∀ c, counted s (x.visits c) = x.text.length := fun x hx =>
        ih x hx (holdsItems_iff.mp hholds.2 x hx) (bareItems_iff.mp hbare x hx)
      have hfrom (index : Nat) : counted s (visitsItems (c.inside id false) index items) =
          (textItems items).length := by
        clear ih hholds hbare
        induction items generalizing index with
        | nil => rfl
        | cons x rest ihr =>
            obtain ⟨hx, hrest⟩ := List.forall_mem_cons.mp hitems
            rw [visitsItems, counted_append, hx, ihr hrest, textItems, String.length_append]
      exact hfrom 0
  | record id fields ih =>
      have hfields : ∀ f ∈ fields, ∀ c, counted s (f.2.visits c) = f.2.text.length := fun f hf =>
        ih f hf (holdsFields_iff.mp hholds.2 f hf) (bareFields_iff.mp hbare.2 f hf)
      have hinside (c : Cursor) :
          counted s (visitsFields c fields) = (textFields fields).length := by
        clear ih hholds hbare
        induction fields with
        | nil => rfl
        | cons f rest ihr =>
            obtain ⟨hf, hrest⟩ := List.forall_mem_cons.mp hfields
            rw [visitsFields, counted_append, ihr hrest, textFields, String.length_append]
            split
            · rfl
            · rw [hf]
      rw [visits, counted_append, hinside, counted_own hholds hbare, text, String.length_append,
        Nat.add_comm]

/-! ### The leaves of the rebuilt document -/

open Highlight

/-- Of the leaves in a lint node none has anything inside it, if that is so in its content. -/
theorem bare_lintTree {items : List Tree} {remarks : List Remark} (hitems : Tree.BareItems items)
    (hnamed : ∀ m ∈ remarks, m.Named) (inside : Bool) : (lintTree items remarks inside).Bare := by
  have hrules : Tree.BareItems (remarks.map (·.rule)) := by
    refine Tree.bareItems_iff.mpr (List.forall_mem_map.mpr ?_)
    intro m hm
    obtain ⟨value, hvalue⟩ := hnamed m hm
    rw [hvalue]
    trivial
  have hleaf : (lintTree items remarks inside).isTextLeaf = false := rfl
  refine ⟨fun h => absurd (hleaf.symm.trans h) Bool.false_ne_true, ?_⟩
  exact ⟨trivial, hitems, trivial, hrules, trivial, trivial⟩

theorem bare_mark {remarks : List Remark} (hnamed : ∀ m ∈ remarks, m.Named)
    (isLeaf inside : Bool) (text : String) {now : Tree} (hnow : now.Bare) :
    Tree.BareItems (mark remarks isLeaf text inside now).items ∧
      (mark remarks isLeaf text inside now).value.Bare := by
  have hlint (t : Tree) (ht : t.Bare) : (lintTree [t] remarks inside).Bare := by
    have hone : Tree.BareItems [t] := ⟨ht, trivial⟩
    exact bare_lintTree hone hnamed inside
  have hitems := forall_mem_mark bare_textLeaf hlint isLeaf text hnow
  exact ⟨Tree.bareItems_iff.mpr hitems,
    Marked.value_of_items (fun _ => Tree.bareItems_iff.mpr) hitems⟩

mutual
/-- In the rebuilt document, too, leaves have nothing inside them. -/
theorem bare_rebuilt (hnamed : ∀ n, ∀ m ∈ found n, m.Named) (inside : Bool) :
    ∀ x : Layout, x.tree.Bare → (x.rebuilt found inside).Bare
  | .scalar _, _ => trivial
  | .list _ items, hbare => bareItems_rebuilt hnamed inside items hbare
  | .record id fields, hbare => by
      refine ⟨?_, bareFields_rebuilt hnamed _ fields hbare.2⟩
      intro hleaf
      have hbefore : (Layout.record id fields).tree.isTextLeaf = true :=
        (congrArg Option.isSome (leafText?_rebuilt (.record id fields))).symm.trans hleaf
      obtain ⟨text, htext⟩ := Option.isSome_iff_exists.mp hbefore
      obtain ⟨_, _, hrecord, hflat⟩ := record_of_leaf htext hbare
      obtain ⟨rfl, rfl⟩ := Layout.record.inj hrecord
      rw [hflat.rebuilt]
      exact hbare.1 hbefore

theorem bareItems_rebuilt (hnamed : ∀ n, ∀ m ∈ found n, m.Named) (inside : Bool) :
    ∀ items : List Layout, Tree.BareItems (treeItems items) →
      Tree.BareItems (rebuiltItems found inside items)
  | [], _ => trivial
  | x :: rest, hbare => by
      have hmark := bare_mark (remarks_named hnamed x) x.tree.isTextLeaf inside x.text
        (bare_rebuilt hnamed inside x hbare.1)
      rw [rebuiltItems, Tree.bareItems_append]
      exact ⟨hmark.1, bareItems_rebuilt hnamed inside rest hbare.2⟩

theorem bareFields_rebuilt (hnamed : ∀ n, ∀ m ∈ found n, m.Named) (inside : Bool) :
    ∀ fields : List (String × Layout), Tree.BareFields (treeFields fields) →
      Tree.BareFields (rebuiltFields found inside fields)
  | [], _ => trivial
  | (key, x) :: rest, hbare => by
      have hmark := bare_mark (remarks_named hnamed x) x.tree.isTextLeaf inside x.text
        (bare_rebuilt hnamed inside x hbare.1)
      refine ⟨?_, bareFields_rebuilt hnamed inside rest hbare.2⟩
      by_cases htype : key = "type"
      · rw [if_pos htype]
        exact hbare.1
      · rw [if_neg htype]
        exact hmark.2
end

end Layout

/-! ### Runs -/

namespace Lint

open Layout Highlight

variable {s t : Store} {x y : Layout} {rules : List Rule} {session : Session}

theorem steady_counting : Walk.Steady counting := by
  intro node content w w' h
  rw [counting, get_bind] at h
  split at h
  · obtain rfl : _ = w' := (EStateM.Result.ok.inj h).2
    exact ⟨rfl, rfl⟩
  · obtain rfl : w = w' := (EStateM.Result.ok.inj h).2
    exact ⟨rfl, rfl⟩

theorem visitAll_counting (vs : List Visit) (w : Scene Nat) :
    ∃ c, Walk.visitAll counting vs w = .ok () ⟨w.store, c, w.data + counted w.store vs⟩ := by
  induction vs generalizing w with
  | nil => exact ⟨w.cursor, rfl⟩
  | cons v rest ih =>
      let own := if w.store.isTextLeaf (.object v.node) then v.content.length else 0
      have hvisit : counting v.node v.content { w with cursor := v.cursor } =
          .ok () ⟨w.store, v.cursor, w.data + own⟩ := by
        show (if w.store.isTextLeaf (.object v.node) then
          Walk.modifyData (· + v.content.length) else pure ()) { w with cursor := v.cursor } = _
        by_cases hleaf : w.store.isTextLeaf (.object v.node) = true
        · simp only [own, if_pos hleaf]
          rfl
        · simp only [own, if_neg hleaf]
          rfl
      obtain ⟨c, hrest⟩ := ih ⟨w.store, v.cursor, w.data + own⟩
      refine ⟨c, (Walk.visitAll_cons v rest w).trans ((bind_ok hvisit).trans (hrest.trans ?_))⟩
      rw [Nat.add_assoc]
      rfl

/-- The count is the length of the text. -/
theorem characterCount_text (hlays : s.Lays x) (hbare : x.tree.Bare) :
    characterCount s x.ref = .ok x.text.length := by
  obtain ⟨_, hvisits⟩ := visitAll_counting (x.visits .fresh) ⟨s, .fresh, 0⟩
  obtain ⟨_, hwalk⟩ := Walk.walk_plain steady_counting 0 hlays hvisits
  rw [characterCount, hwalk, Nat.zero_add, counted_visits hlays.holds hbare]
  rfl

/-- A merged document has the count of the document. -/
theorem Fused.count (h : Fused s t x y) (hlays : s.Lays x) (hbare : x.tree.Bare) :
    characterCount t x.ref = .ok x.text.length := by
  rw [← ref_merged x, characterCount_text (h.lays hlays hbare) (bare_merged hbare),
    text_merged x hbare]

/-- A highlighted document has the count of the document. -/
theorem characterCount_rebuilt {found : Nat → List Remark} (h : Rebuilt found x t)
    (hkeyed : x.tree.Keyed) (hbare : x.tree.Bare) (hnamed : ∀ n, ∀ m ∈ found n, m.Named) :
    characterCount t x.ref = .ok x.text.length := by
  obtain ⟨y, href, hy, hn, htree⟩ := h
  have hlays : t.Lays y := ⟨hy, hn, htree ▸ keyed_rebuilt hnamed false x hkeyed⟩
  have htext : y.text = x.text := by rw [← content_tree, htree, content_rebuilt hnamed]
  rw [← href, characterCount_text hlays (htree ▸ bare_rebuilt hnamed false x hbare), htext]

/-- Whether they fail or not, stateless rules leave the count as it is. -/
theorem run_count (hrules : ∀ r ∈ rules, r.Stateless) (hnames : ∀ r ∈ rules, r.Named)
    (hlays : session.store.Lays x) (hbare : x.tree.Bare) (listen : Bool) : ∃ outcome after,
      (run { highlight := true, listen := listen } rules x.ref).run session = (outcome, after) ∧
        characterCount after.store x.ref = .ok x.text.length := by
  obtain ⟨outcome, after, hrun, hleft⟩ := run_rebuilt hrules hlays listen
  refine ⟨outcome, after, hrun, ?_⟩
  rcases hleft with ⟨found, hsigned, -, -, hrebuilt⟩ | ⟨-, -, -, -, -, -, -, -, hstore⟩
  · refine characterCount_rebuilt hrebuilt hlays.keyed hbare ?_
    intro n m hm
    obtain ⟨r, hr, hname⟩ := hsigned n m hm
    obtain ⟨value, hvalue⟩ := hnames r hr
    exact ⟨value, hname.trans hvalue⟩
  · rw [hstore]
    exact characterCount_text hlays hbare

/-- Notes at a node how long its content is, and how many characters are counted under it. -/
def measuring : Visitor (List (Nat × Except Fault Nat)) := fun node content => do
  let scene ← get
  Walk.modifyData (· ++ [(content.length, characterCount scene.store (.object node))])

theorem steady_measuring : Walk.Steady measuring := Walk.steady_of_eq fun _ _ _ => rfl

theorem visitAll_measuring {vs : List Visit} (w : Scene (List (Nat × Except Fault Nat)))
    (h : ∀ v ∈ vs, characterCount w.store (.object v.node) = .ok v.content.length) :
    ∃ c, Walk.visitAll measuring vs w = .ok () ⟨w.store, c,
      w.data ++ vs.map fun v => (v.content.length, .ok v.content.length)⟩ := by
  induction vs generalizing w with
  | nil => exact ⟨w.cursor, by rw [List.map_nil, List.append_nil]; rfl⟩
  | cons v rest ih =>
      obtain ⟨hv, hrest⟩ := List.forall_mem_cons.mp h
      have hvisit : measuring v.node v.content { w with cursor := v.cursor } =
          .ok () ⟨w.store, v.cursor, w.data ++ [(v.content.length, .ok v.content.length)]⟩ := by
        rw [← hv]
        rfl
      obtain ⟨c, hmore⟩ :=
        ih ⟨w.store, v.cursor, w.data ++ [(v.content.length, .ok v.content.length)]⟩ hrest
      refine ⟨c, (Walk.visitAll_cons v rest w).trans ((bind_ok hvisit).trans (hmore.trans ?_))⟩
      rw [List.append_assoc]
      rfl

/-- **Counting characters measures the text.** If the leaves of a document have nothing inside
them, its count is the length of the text that a walk finds, and the count of every node that
a walk comes to is the length of the content it is visited with. The count is the same after
the leaves have been merged, and after a run that highlights what stateless rules find. -/
theorem characterCount_exact (hrules : ∀ r ∈ rules, r.Stateless) (hnames : ∀ r ∈ rules, r.Named)
    (hlays : session.store.Lays x) (hbare : x.tree.Bare) (listen : Bool) :
    (walk idle session.store x.ref ()).1 = .ok x.tree.content ∧
    characterCount session.store x.ref = .ok x.tree.content.length ∧
    (∃ c, walk measuring session.store x.ref [] = (.ok x.tree.content, ⟨session.store, c,
      (x.visits .fresh).map fun v => (v.content.length, .ok v.content.length)⟩)) ∧
    (∃ t, mergeText session.store x.ref = (.ok (), t) ∧
      characterCount t x.ref = .ok x.tree.content.length) ∧
    ∃ outcome after,
      (run { highlight := true, listen := listen } rules x.ref).run session = (outcome, after) ∧
        characterCount after.store x.ref = .ok x.tree.content.length := by
  rw [content_tree]
  refine ⟨content_tree x ▸ walk_idle hlays, characterCount_text hlays hbare, ?_, ?_, ?_⟩
  · have hnodes : ∀ v ∈ x.visits .fresh,
        characterCount session.store (.object v.node) = .ok v.content.length := by
      intro v hv
      obtain ⟨y, hy, hbare, href, htext⟩ := visit_lays hlays hbare hv
      rw [← href, htext, characterCount_text hy hbare]
    obtain ⟨_, hvisits⟩ := visitAll_measuring ⟨session.store, .fresh, []⟩ hnodes
    exact Walk.walk_plain steady_measuring [] hlays hvisits
  · obtain ⟨_, t, hmerge, hfused⟩ := mergeText_merged hlays hbare
    exact ⟨t, hmerge, hfused.count hlays hbare⟩
  · exact run_count hrules hnames hlays hbare listen

/-- Four characters in a paragraph with a broken text, also when a part of each is marked. -/
theorem characterCount_exact_brokenText :
    ((∀ r ∈ [second], r.Stateless) ∧ (∀ r ∈ [second], r.Named) ∧
      brokenTextStore.Lays brokenText ∧ brokenText.tree.Bare) ∧
    characterCount brokenTextStore (.object 0) = .ok 4 ∧
    (walk measuring brokenTextStore (.object 0) []).2.data =
      [(1, .ok 1), (1, .ok 1), (1, .ok 1), (0, .ok 0), (1, .ok 1), (4, .ok 4)] ∧
    (∃ t, mergeText brokenTextStore (.object 0) = (.ok (), t) ∧
      characterCount t (.object 0) = .ok 4) ∧
    ∃ outcome after, (run { highlight := true } [second] (.object 0)).run
        ⟨brokenTextStore, none⟩ = (outcome, after) ∧
      characterCount after.store (.object 0) = .ok 4 := by
  have hnamed : ∀ r ∈ [second], r.Named := by
    intro r hr
    obtain rfl := List.mem_singleton.mp hr
    exact ⟨.str "second", rfl⟩
  have hlays : (Session.mk brokenTextStore none).store.Lays brokenText := lays_brokenText
  have hbare : brokenText.tree.Bare := by
    have hother : brokenText.tree.isTextLeaf = false := by decide
    refine ⟨fun h => absurd (hother.symm.trans h) Bool.false_ne_true, ?_⟩
    simp [treeItems, treeFields, tree, Tree.Bare, Tree.BareItems, Tree.BareFields]
  have htext : brokenText.tree.content = "abcd" := by decide
  have hcontents : (brokenText.visits .fresh).map Visit.content =
      ["a", "b", "c", "", "d", "abcd"] := by decide
  obtain ⟨-, hcount, ⟨c, hmeasured⟩, hmerge, hrun⟩ :=
    characterCount_exact stateless_second hnamed hlays hbare false
  rw [htext] at hcount hmerge hrun
  have hwalk : walk measuring brokenTextStore (.object 0) [] = (.ok brokenText.tree.content,
      ⟨brokenTextStore, c, ((brokenText.visits .fresh).map Visit.content).map fun content =>
        (content.length, .ok content.length)⟩) := by
    rw [List.map_map]
    exact hmeasured
  rw [hcontents] at hwalk
  rw [hwalk]
  exact ⟨⟨stateless_second, hnamed, hlays, hbare⟩, hcount, rfl, hmerge, hrun⟩

end Lint

end DocLint
