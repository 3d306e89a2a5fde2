import DocLint.Proofs.Cursor.Spot
import DocLint.Proofs.Cursor.Way
import DocLint.Proofs.Walk.Plain

/-!
# DocLint.Proofs.Cursor.Moves

**Moves land where the walk was.** From the cursor of a visit one may move to the parent
and to the previous sibling, as often as one likes and in any order. Every cursor on the
way is the cursor of a spot of the document (`Reaches.spot`), and where a node stands in
such a spot, it is the very cursor that the walk came to the node with (`spot_visits`).

What a cursor says about itself is then read off its spot: that its stacks fit together
(`fits_cursor`), and where its two moves lead (`parentMove_cursor`,
`previousMove_cursor`).
-/

namespace DocLint

namespace Cursor

/-! ### What is said of moves -/

/-- The cursor that a move leaves, whether it fails or not. -/
def Move.leaves (move : Move Unit) (c : Cursor) : Cursor :=
  match move.run c with
  | .ok _ c' => c'
  | .error _ c' => c'

/-- One comes from the cursor `start` to `c` by going to parents and previous siblings.
Moves that fail count, too. A copy of a cursor is the same cursor. -/
inductive Reaches (s : Store) (start : Cursor) : Cursor → Prop
  | here : Reaches s start start
  | parent {c : Cursor} (h : Reaches s start c) : Reaches s start (goToParent.leaves c)
  | previous {c : Cursor} (h : Reaches s start c) : Reaches s start ((goToPrevious s).leaves c)

/-- The position is item `k` of a list with these items. -/
def IsItem (s : Store) (items : List Ref) (k : Nat) (c : Cursor) : Prop :=
  (∃ id, c.containers.top? = some id ∧ s.items? (.object id) = some items) ∧
    c.steps.top? = some (.index k) ∧ items[k]? = some c.current

/-- The stacks of the cursor fit together: as many steps as containers, the steps lead
from `root` through the containers to the current value, and the ancestors are the nodes
among the containers. -/
structure Fits (s : Store) (root : Ref) (c : Cursor) : Prop where
  size : c.containers.size = c.steps.size
  leads : c.Leads s root
  ancestors : c.ancestors.toList = c.containers.toList.filter fun id => s.isNode (.object id)

/-- Going to the parent fails if there is no ancestor, and leads to the cursor that is
noted for the nearest one otherwise. -/
def ParentMove (noted : List (Nat × Cursor)) (c : Cursor) : Prop :=
  (c.ancestors.top? = none ∧ goToParent.run c = .error (.traversal .parentOfRoot) c) ∨
  ∃ id c', c.ancestors.top? = some id ∧ goToParent.run c = .ok () c' ∧ (id, c') ∈ noted

/-- Going to the previous sibling fails if there is none, as `hasPreviousSibling` says,
since the position is in no list or the first item of one. Otherwise it leads from an item
to the one before, which `previousSibling` shows, and to the cursor that is noted for it
if it is a node. -/
def PreviousMove (s : Store) (noted : List (Nat × Cursor)) (c : Cursor) : Prop :=
  (c.hasPreviousSibling s = .ok false ∧ (∀ items k, c.IsItem s items k → k = 0) ∧
    (goToPrevious s).run c = .error (.traversal .noPreviousSibling) c) ∨
  (c.hasPreviousSibling s = .ok true ∧ ∃ items k c', c.IsItem s items (k + 1) ∧
    (goToPrevious s).run c = .ok () c' ∧ c'.IsItem s items k ∧
    c.previousSibling s = .ok c'.current ∧
    c'.containers = c.containers ∧ c'.ancestors = c.ancestors ∧
    c.steps.replaceTop (.index k) = .ok c'.steps ∧
    ∀ id, c'.current = .object id → s.isNode (.object id) = true → (id, c') ∈ noted)

theorem Move.from_eq_ok {move : Move Unit} {c c' : Cursor} :
    move.from c = .ok c' ↔ move.run c = .ok () c' := by
  unfold Move.from
  cases move.run c <;> simp

theorem Move.leaves_of_run {move : Move Unit} {c c' : Cursor}
    (h : move.run c = .ok () c' ∨ ∃ fault, move.run c = .error fault c') : move.leaves c = c' := by
  unfold Move.leaves
  rcases h with h | ⟨fault, h⟩ <;> rw [h]

end Cursor

namespace Spot

variable {s : Store} {x : Layout} {p : Spot} {around : List (Layout × Step)}

/-! ### The stacks of a spot -/

theorem containers_cons {y z : Layout} {step : Step} (around : List (Layout × Step))
    (h : z.child? step = some y) :
    ∃ id, z.ref = .object id ∧ z.id? = some id ∧
      containers ((z, step) :: around) = id :: containers around := by
  cases z with
  | scalar value => cases step <;> simp [Layout.child?] at h
  | list id items => exact ⟨id, rfl, rfl, rfl⟩
  | record id fields => exact ⟨id, rfl, rfl, rfl⟩

/-- What a step leads to in a layout, it leads to in the store. -/
theorem child?_ref {y z : Layout} {step : Step} {id : Nat} (hz : z.Holds s)
    (href : z.ref = .object id) (h : z.child? step = some y) :
    s.child? (.object id) step = some y.ref := by
  cases step with
  | index i =>
      obtain ⟨id', items, k, rfl, rfl, hy⟩ := Layout.child?_index h
      obtain rfl : id' = id := Ref.object.inj href
      show s.child? (.object id') (.index k) = _
      rw [Store.child?_item hz.1, List.getElem?_map, hy]
      rfl
  | key key =>
      obtain ⟨id', fields, rfl, hy⟩ := Layout.child?_key h
      obtain rfl : id' = id := Ref.object.inj href
      rw [Store.child?_field hz.1, Layout.fieldOf?_fieldRefs, hy]
      rfl

/-- The containers and steps of a spot are the way to it. -/
theorem leads_cursor (hx : x.Holds s) {y : Layout} (h : x.Around around y) :
    (cursor ⟨y, around⟩).Leads s x.ref := by
  induction around generalizing y with
  | nil =>
      obtain rfl := h
      exact .here y.ref
  | cons f outer ih =>
      obtain ⟨z, step⟩ := f
      obtain ⟨id, href, -, hcontainers⟩ := containers_cons outer h.1
      have hway : s.Way x.ref (containers outer).reverse (outer.map (·.2)).reverse (.object id) :=
        href ▸ ih h.2
      have hsnoc := hway.snoc (child?_ref (h.2.holds hx) href h.1)
      show s.Way x.ref (containers ((z, step) :: outer)).reverse
        (step :: outer.map (·.2)).reverse y.ref
      rw [hcontainers, List.reverse_cons, List.reverse_cons]
      exact hsnoc

/-- The ancestors of a spot are the nodes among the objects around it. -/
theorem ancestors_eq (hx : x.Holds s) {y : Layout} (h : x.Around around y) :
    (nodes around).filterMap (·.here.id?) =
      (containers around).filter fun id => s.isNode (.object id) := by
  induction around generalizing y with
  | nil => rfl
  | cons f outer ih =>
      obtain ⟨z, step⟩ := f
      obtain ⟨id, href, hid, hcontainers⟩ := containers_cons outer h.1
      have hnode : s.isNode (.object id) = z.isNode := by
        rw [← href]
        exact Layout.isNode_of_holds (h.2.holds hx)
      rw [hcontainers, List.filter_cons, hnode, nodes]
      by_cases hz : z.isNode = true
      · rw [if_pos hz, if_pos hz, ← ih h.2]
        exact List.filterMap_cons_some (f := fun q : Spot => q.here.id?) hid
      · rw [if_neg hz, if_neg hz, ih h.2]

theorem length_containers {y : Layout} (h : x.Around around y) :
    (containers around).length = around.length := by
  induction around generalizing y with
  | nil => rfl
  | cons f outer ih =>
      obtain ⟨z, step⟩ := f
      obtain ⟨id, -, -, hcontainers⟩ := containers_cons outer h.1
      rw [hcontainers, List.length_cons, ih h.2, List.length_cons]

/-- The stacks of the cursor at a spot fit together. -/
theorem fits_cursor (hx : x.Holds s) (hp : p.In x) : p.cursor.Fits s x.ref where
  size := (length_containers hp).trans (List.length_map _).symm
  leads := leads_cursor hx hp
  ancestors := by
    show ((nodes p.around).filterMap (·.here.id?)).reverse =
      (containers p.around).reverse.filter _
    rw [ancestors_eq hx hp, List.filter_reverse]

/-! ### Where the moves lead -/

/-- The notes of a walk that writes down its cursors: each node, and the cursor that the
walk came to it with. -/
def noted (x : Layout) : List (Nat × Cursor) := (x.visits .fresh).map fun v => (v.node, v.cursor)

/-- The cursor at a node that the walk comes to is noted. -/
theorem mem_noted {id : Nat} (hp : p.In x) (hwalked : p.Walked) (hn : p.here.isNode = true)
    (hid : p.here.id? = some id) : (id, p.cursor) ∈ noted x := by
  obtain ⟨v, hv, hnode, hcursor⟩ := spot_visits hp hwalked hn
  obtain rfl : v.node = id := Option.some.inj (hnode.symm.trans hid)
  exact List.mem_map.mpr ⟨v, hv, by rw [hcursor]⟩

theorem Walked.outer {q : Spot} (hwalked : p.Walked) (hq : q ∈ nodes p.around) : q.Walked := by
  obtain ⟨-, inner, step, hp⟩ := mem_nodes.mp hq
  intro f hf
  exact hwalked f (hp ▸ List.mem_append_right _ (List.mem_cons_of_mem _ hf))

/-- Without a node around it, a spot has no parent to go to. -/
theorem goToParent_nothing (h : nodes p.around = []) :
    Cursor.goToParent.run p.cursor = .error (.traversal .parentOfRoot) p.cursor := by
  have hparent : p.cursor.hasParent = false := by
    show decide (0 < ((nodes p.around).filterMap (·.here.id?)).length) = false
    rw [h]
    rfl
  unfold Cursor.goToParent EStateM.run
  rw [get_bind, hparent]
  rfl

/-- Going to the parent: it fails, or it goes to a spot whose cursor is noted. -/
theorem parent_cases (hx : x.ids.Nodup) (hp : p.In x) (hwalked : p.Walked) :
    (p.cursor.ancestors.top? = none ∧
      Cursor.goToParent.run p.cursor = .error (.traversal .parentOfRoot) p.cursor) ∨
    ∃ (id : Nat) (q : Spot), p.cursor.ancestors.top? = some id ∧ q.In x ∧ q.Walked ∧
      Cursor.goToParent.run p.cursor = .ok () q.cursor ∧ (id, q.cursor) ∈ noted x := by
  cases hnodes : nodes p.around with
  | nil =>
      refine .inl ⟨?_, goToParent_nothing hnodes⟩
      show ((nodes p.around).filterMap (·.here.id?)).head? = none
      rw [hnodes]
      rfl
  | cons q rest =>
      have hmem : q ∈ nodes p.around := hnodes ▸ List.mem_cons_self
      have hn := (mem_nodes.mp hmem).1
      obtain ⟨id, hid⟩ := id?_of_isNode hn
      have hq : q.In x := in_of_mem_nodes hp hmem
      have hwalked' : q.Walked := hwalked.outer hmem
      refine .inr ⟨id, q, ?_, hq, hwalked', Cursor.Move.from_eq_ok.mp
        (goToParent_cursor hx hp hnodes), mem_noted hq hwalked' hn hid⟩
      show ((nodes p.around).filterMap (·.here.id?)).head? = some id
      rw [hnodes, List.filterMap_cons_some (f := fun q : Spot => q.here.id?) hid]
      rfl

/-- Without an item before the position, there is none to go to. -/
theorem goToPrevious_nothing {c : Cursor} (h : c.hasPreviousSibling s = .ok false) :
    (Cursor.goToPrevious s).run c = .error (.traversal .noPreviousSibling) c := by
  unfold Cursor.hasPreviousSibling at h
  unfold Cursor.goToPrevious EStateM.run
  rw [get_bind]
  cases hsiblings : c.siblings? s with
  | none => rfl
  | some siblings =>
      obtain ⟨id, items⟩ := siblings
      rw [hsiblings] at h
      dsimp only at h ⊢
      cases hindex : c.previousIndex? items.length with
      | error fault =>
          rw [hindex] at h
          contradiction
      | ok index =>
          cases index with
          | none => rfl
          | some i =>
              rw [hindex] at h
              exact absurd (Except.ok.inj h) (by simp)

theorem isItem_cursor {id k : Nat} {items : List Layout} {y : Layout}
    (hcell : s.cell? id = some (.list (items.map Layout.ref))) (hy : items[k]? = some y) :
    (cursor ⟨y, (.list id items, .index k) :: around⟩).IsItem s (items.map Layout.ref) k := by
  refine ⟨⟨id, rfl, ?_⟩, rfl, ?_⟩
  · rw [Store.items?, hcell]
  · rw [List.getElem?_map, hy]
    rfl

/-- Outside of lists, a spot is no item. -/
theorem not_isItem (h : p.around = [] ∨ ∃ id fields step outer,
    p.around = (.record id fields, step) :: outer ∧
      s.cell? id = some (.record (Layout.fieldRefs fields))) {items : List Ref} {k : Nat} :
    ¬ p.cursor.IsItem s items k := by
  obtain ⟨y, around⟩ := p
  rintro ⟨⟨id, htop, hitems⟩, -, -⟩
  rcases h with rfl | ⟨id', fields, step, outer, rfl, hcell⟩
  · contradiction
  · obtain rfl : id' = id := Option.some.inj htop
    rw [Store.items?, hcell] at hitems
    contradiction

/-- Going to the previous sibling: there is none, or it is at a spot in the same list. -/
theorem previous_cases (hx : x.Holds s) (hp : p.In x) (hwalked : p.Walked) :
    (p.cursor.hasPreviousSibling s = .ok false ∧ ∀ items k, p.cursor.IsItem s items k → k = 0) ∨
    (p.cursor.hasPreviousSibling s = .ok true ∧ ∃ (items : List Ref) (k : Nat) (q : Spot),
      p.cursor.IsItem s items (k + 1) ∧ q.In x ∧ q.Walked ∧
      (Cursor.goToPrevious s).run p.cursor = .ok () q.cursor ∧ q.cursor.IsItem s items k ∧
      p.cursor.previousSibling s = .ok q.cursor.current ∧
      q.cursor.containers = p.cursor.containers ∧ q.cursor.ancestors = p.cursor.ancestors ∧
      p.cursor.steps.replaceTop (.index k) = .ok q.cursor.steps) := by
  rcases hp.cases with h | ⟨id, items, outer, k, h, hk⟩ | ⟨id, fields, outer, key, h⟩
  · exact .inl ⟨hasPreviousSibling_eq_false (.inl h), fun _ _ hitem =>
      absurd hitem (not_isItem (.inl h))⟩
  · obtain ⟨here, around⟩ := p
    subst h
    have hcell : s.cell? id = some (.list (items.map Layout.ref)) := (hp.2.holds hx).1
    obtain ⟨hlt, -⟩ := List.getElem?_eq_some_iff.mp hk
    have hhas : (cursor ⟨here, (.list id items, .index k) :: outer⟩).hasPreviousSibling s =
        .ok (decide (0 < k)) := hasPreviousSibling_cursor hcell (Nat.le_of_lt hlt)
    cases k with
    | zero =>
        refine .inl ⟨hhas, ?_⟩
        rintro refs k ⟨-, hstep, -⟩
        have hindex : Step.index (0 : Nat) = .index k := Option.some.inj hstep
        simpa using hindex.symm
    | succ k =>
        obtain ⟨y, hy, hq⟩ := in_of_lt hp.2 (Nat.lt_of_succ_lt hlt)
        have hwalked' : Walked ⟨y, (.list id items, .index k) :: outer⟩ :=
          List.forall_mem_cons.mpr ⟨by simp, (List.forall_mem_cons.mp hwalked).2⟩
        exact .inr ⟨hhas, items.map Layout.ref, k, _, isItem_cursor hcell hk, hq, hwalked',
          Cursor.Move.from_eq_ok.mp (goToPrevious_cursor hcell hy), isItem_cursor hcell hy,
          previousSibling_cursor hcell hy, rfl, rfl, rfl⟩
  · obtain ⟨here, around⟩ := p
    subst h
    have hrecord : (Spot.mk here ((.record id fields, .key key) :: outer)).around = [] ∨
        ∃ id' fields' step outer', (.record id fields, .key key) :: outer =
          (Layout.record id' fields', step) :: outer' ∧
            s.cell? id' = some (.record (Layout.fieldRefs fields')) :=
      .inr ⟨id, fields, .key key, outer, rfl, (hp.2.holds hx).1⟩
    exact .inl ⟨hasPreviousSibling_eq_false hrecord, fun _ _ hitem =>
      absurd hitem (not_isItem hrecord)⟩

/-- Every cursor that one comes to is the cursor of a spot. -/
theorem reaches_spot (hlays : s.Lays x) (hp : p.In x) (hwalked : p.Walked) {c : Cursor}
    (h : p.cursor.Reaches s c) : ∃ q : Spot, q.In x ∧ q.Walked ∧ q.cursor = c := by
  induction h with
  | here => exact ⟨p, hp, hwalked, rfl⟩
  | parent h ih =>
      obtain ⟨q, hq, hwalked', rfl⟩ := ih
      rcases parent_cases hlays.unshared hq hwalked' with ⟨-, hrun⟩ | ⟨id, q', -, hq', hw, hrun, -⟩
      · exact ⟨q, hq, hwalked', (Cursor.Move.leaves_of_run (.inr ⟨_, hrun⟩)).symm⟩
      · exact ⟨q', hq', hw, (Cursor.Move.leaves_of_run (.inl hrun)).symm⟩
  | previous h ih =>
      obtain ⟨q, hq, hwalked', rfl⟩ := ih
      rcases previous_cases hlays.holds hq hwalked' with
        ⟨hnone, -⟩ | ⟨-, items, k, q', -, hq', hw, hrun, -⟩
      · have hrun := goToPrevious_nothing hnone
        exact ⟨q, hq, hwalked', (Cursor.Move.leaves_of_run (.inr ⟨_, hrun⟩)).symm⟩
      · exact ⟨q', hq', hw, (Cursor.Move.leaves_of_run (.inl hrun)).symm⟩

theorem parentMove_cursor (hlays : s.Lays x) (hp : p.In x) (hwalked : p.Walked) :
    p.cursor.ParentMove (noted x) := by
  rcases parent_cases hlays.unshared hp hwalked with hnone | ⟨id, q, htop, -, -, hrun, hmem⟩
  · exact .inl hnone
  · exact .inr ⟨id, q.cursor, htop, hrun, hmem⟩

theorem previousMove_cursor (hlays : s.Lays x) (hp : p.In x) (hwalked : p.Walked) :
    p.cursor.PreviousMove s (noted x) := by
  rcases previous_cases hlays.holds hp hwalked with ⟨hnone, hfirst⟩ |
    ⟨hsome, items, k, q, hitem, hq, hwalked', hrun, hitem', hshown, hmoved⟩
  · exact .inl ⟨hnone, hfirst, goToPrevious_nothing hnone⟩
  · obtain ⟨hcontainers, hancestors, hsteps⟩ := hmoved
    refine .inr ⟨hsome, items, k, q.cursor, hitem, hrun, hitem', hshown, hcontainers, hancestors,
      hsteps, ?_⟩
    intro id hcurrent hnode
    replace hcurrent : q.here.ref = .object id := hcurrent
    have hn : q.here.isNode = true := by
      rw [← Layout.isNode_of_holds (hq.holds hlays.holds), hcurrent]
      exact hnode
    exact mem_noted hq hwalked' hn (Layout.id?_eq_some.mpr hcurrent)

end Spot

/-- **Moves land where the walk was.** A walk writes down the cursor of every visit. From
each of these, however one moves to parents and previous siblings, the cursor's stacks fit
together, and its two moves lead to where the walk was, or fail where there is nothing to
go to. -/
theorem walk_moves {s : Store} {x : Layout} (hlays : s.Lays x) :
    ∃ content w, walk (Walk.collecting fun _ c => c) s x.ref [] = (.ok content, w) ∧
      w.data.map (·.1) = (x.visits .fresh).map Visit.node ∧ (w.data.map (·.1)).Nodup ∧
      ∀ node start, (node, start) ∈ w.data → start.current = .object node ∧
        ∀ c, start.Reaches s c →
          c.Fits s x.ref ∧ c.ParentMove w.data ∧ c.PreviousMove s w.data := by
  obtain ⟨last, hwalk⟩ := Walk.walk_collecting (fun _ c => c) hlays
  have hnodes : (Spot.noted x).map (·.1) = (x.visits .fresh).map Visit.node := by
    simp [Spot.noted, Function.comp_def]
  have hkeys : (x.visits .fresh).map Visit.node = x.keys.map (·.1) := by
    simp [Layout.keys, Visit.key, Function.comp_def]
  refine ⟨x.text, _, hwalk, hnodes, ?_, ?_⟩
  · show ((Spot.noted x).map (·.1)).Nodup
    rw [hnodes, hkeys]
    exact (Layout.nodes_visits x hlays.unshared).2
  · intro node start hnoted
    obtain ⟨v, hv, hv'⟩ := List.mem_map.mp hnoted
    obtain ⟨rfl, rfl⟩ := Prod.mk.inj hv'
    have hfresh : Spot.cursor ⟨x, []⟩ = { Cursor.fresh with current := x.ref } := rfl
    rw [← Layout.visits_current .fresh x.ref x, ← hfresh] at hv
    have hroot : x.Around [] x := rfl
    have hwalked : Spot.Walked ⟨x, []⟩ := List.forall_mem_nil _
    obtain ⟨p, hp, hwalked, hn, hid, hcursor⟩ := Spot.visits_spot hlays.keyed hroot hwalked hv
    refine ⟨?_, fun c hc => ?_⟩
    · rw [← hcursor]
      exact Layout.id?_eq_some.mp hid
    · rw [← hcursor] at hc
      obtain ⟨q, hq, hwalked, rfl⟩ := Spot.reaches_spot hlays hp hwalked hc
      exact ⟨Spot.fits_cursor hlays.holds hq, Spot.parentMove_cursor hlays hq hwalked,
        Spot.previousMove_cursor hlays hq hwalked⟩

/-- From the second of two paragraphs, the moves lead to the first one and to the document. -/
theorem walk_moves_twoParagraphs : twoParagraphsStore.Lays twoParagraphs ∧
    ∃ content w start, walk (Walk.collecting fun _ c => c) twoParagraphsStore (.object 0) [] =
      (.ok content, w) ∧ (3, start) ∈ w.data ∧
      start.Fits twoParagraphsStore (.object 0) ∧ start.ParentMove w.data ∧
      start.PreviousMove twoParagraphsStore w.data := by
  refine ⟨lays_twoParagraphs, ?_⟩
  obtain ⟨content, w, hwalk, hnodes, -, hmoves⟩ := walk_moves lays_twoParagraphs
  have hvisited : (twoParagraphs.visits .fresh).map Visit.node = [2, 3, 0] := rfl
  have hmem : 3 ∈ w.data.map (·.1) := by
    rw [hnodes, hvisited]
    simp
  obtain ⟨⟨node, start⟩, hstart, rfl⟩ := List.mem_map.mp hmem
  obtain ⟨-, hstart'⟩ := hmoves _ start hstart
  exact ⟨content, w, start, hwalk, hstart, hstart' start .here⟩

end DocLint
