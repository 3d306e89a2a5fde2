import DocLint.Proofs.Walk.Step

/-!
# DocLint.Proofs.Cursor.Spot

**Spots.** A place in a document, described from the inside out: what stands there
(`here`), and what is around it, each time with the step that leads on inwards. The
stacks of a cursor are such a description, too, so a spot has a cursor, and the moves
of the cursor go to the cursors of other spots:

* `goToParent_cursor`: to the first node around it;
* `goToPrevious_cursor`: to the item right before it.

`visits_spot` says that the cursors of a walk are cursors of spots, and `spot_visits` that
a walk finds the cursor at every node that it comes to.
-/

namespace DocLint

/-- What a step leads to. -/
def Layout.child? : Layout → Step → Option Layout
  | .list _ items, .index i => if 0 ≤ i then items[i.toNat]? else none
  | .record _ fields, .key key => fieldOf? fields key
  | _, _ => none

/-- A place in a document. -/
structure Spot where
  /-- What stands there. -/
  here : Layout
  /-- What is around it, from the inside out, with the steps that lead inwards. -/
  around : List (Layout × Step)

/-- In `x`, the layout `y` has `around` around it. -/
def Layout.Around (x : Layout) : List (Layout × Step) → Layout → Prop
  | [], y => y = x
  | (z, step) :: outer, y => z.child? step = some y ∧ x.Around outer z

namespace Spot

/-- The spot is in the document `x`. -/
def In (x : Layout) (p : Spot) : Prop := x.Around p.around p.here

/-- A walk comes to the spot, since it passes no field of the name `type`. -/
def Walked (p : Spot) : Prop := ∀ f ∈ p.around, f.2 ≠ .key "type"

/-- The objects around a spot. -/
def containers (around : List (Layout × Step)) : List Nat := around.filterMap (·.1.id?)

/-- The nodes around a spot, from the inside out. -/
def nodes : List (Layout × Step) → List Spot
  | [] => []
  | (z, _) :: outer => if z.isNode then ⟨z, outer⟩ :: nodes outer else nodes outer

/-- The cursor at a spot. -/
def cursor (p : Spot) : Cursor where
  current := p.here.ref
  containers := ⟨containers p.around⟩
  steps := ⟨p.around.map (·.2)⟩
  ancestors := ⟨(nodes p.around).filterMap (·.here.id?)⟩

end Spot

namespace Layout

/-! ### What stands in a spot of a document -/

theorem child?_index {z y : Layout} {i : Int} (h : z.child? (.index i) = some y) :
    ∃ id items k, z = .list id items ∧ i = Int.ofNat k ∧ items[k]? = some y := by
  cases z with
  | scalar value => simp [child?] at h
  | record id fields => simp [child?] at h
  | list id items =>
      by_cases hi : 0 ≤ i
      · rw [child?, if_pos hi] at h
        exact ⟨id, items, i.toNat, rfl, (Int.toNat_of_nonneg hi).symm, h⟩
      · rw [child?, if_neg hi] at h
        contradiction

theorem child?_key {z y : Layout} {key : String} (h : z.child? (.key key) = some y) :
    ∃ id fields, z = .record id fields ∧ fieldOf? fields key = some y := by
  cases z with
  | scalar value => simp [child?] at h
  | list id items => simp [child?] at h
  | record id fields => exact ⟨id, fields, rfl, h⟩

/-- A part of a layout is held where the layout is, and its objects are among those
inside the layout. -/
theorem of_child? {z y : Layout} {step : Step} (h : z.child? step = some y) :
    (∃ id rest, z.id? = some id ∧ z.ids = id :: rest ∧ y.ids.Sublist rest) ∧
      ∀ {s : Store}, z.Holds s → y.Holds s := by
  cases step with
  | index i =>
      obtain ⟨id, items, k, rfl, -, hy⟩ := child?_index h
      have hmem := List.mem_of_getElem? hy
      exact ⟨⟨id, idsItems items, rfl, rfl, ids_sublist_items hmem⟩, fun hh =>
        holdsItems_iff.mp hh.2 y hmem⟩
  | key key =>
      obtain ⟨id, fields, rfl, hy⟩ := child?_key h
      have hmem := mem_of_fieldOf? hy
      exact ⟨⟨id, idsFields fields, rfl, rfl, ids_sublist_fields hmem⟩, fun hh =>
        holdsFields_iff.mp hh.2 _ hmem⟩

/-- What passes from layouts to their parts holds in all spots of a document. -/
theorem Around.of {P : Layout → Prop} {x : Layout}
    (hstep : ∀ {z y : Layout} {step : Step}, z.child? step = some y → P z → P y) (hx : P x) :
    ∀ {around : List (Layout × Step)} {y : Layout}, x.Around around y → P y
  | [], _, h => h ▸ hx
  | _ :: _, _, h => hstep h.1 (Around.of hstep hx h.2)

theorem Around.holds {s : Store} {x y : Layout} {around : List (Layout × Step)}
    (h : x.Around around y) (hx : x.Holds s) : y.Holds s :=
  h.of (P := (·.Holds s)) (fun hchild => (of_child? hchild).2) hx

theorem Around.keyed {x y : Layout} {around : List (Layout × Step)} (h : x.Around around y)
    (hx : x.tree.Keyed) : y.tree.Keyed := by
  refine h.of (P := (·.tree.Keyed)) (fun {z y step} hchild hz => ?_) hx
  cases step with
  | index i =>
      obtain ⟨id, items, k, rfl, -, hy⟩ := child?_index hchild
      exact keyedItems_iff.mp hz y (List.mem_of_getElem? hy)
  | key key =>
      obtain ⟨id, fields, rfl, hy⟩ := child?_key hchild
      exact keyedFields_iff.mp hz.2 _ (mem_of_fieldOf? hy)

/-- The objects around a spot are different from each other and from those in it. -/
theorem Around.unshared {x : Layout} (hx : x.ids.Nodup) :
    ∀ {around : List (Layout × Step)} {y : Layout}, x.Around around y →
      y.ids.Nodup ∧ (Spot.containers around).Nodup ∧ ∀ i ∈ Spot.containers around, i ∉ y.ids
  | [], _, h => ⟨h ▸ hx, .nil, by simp [Spot.containers]⟩
  | (z, step) :: outer, y, h => by
      obtain ⟨hz, houter, hout⟩ := Around.unshared hx h.2
      -- The layout around is one object and its parts, and the spot is among the parts.
      obtain ⟨⟨id, rest, hid, hids, hsub⟩, -⟩ := of_child? h.1
      rw [hids] at hz hout
      obtain ⟨hidz, hrest⟩ := List.nodup_cons.mp hz
      have hcontainers : Spot.containers ((z, step) :: outer) = id :: Spot.containers outer :=
        List.filterMap_cons_some hid
      rw [hcontainers]
      refine ⟨hrest.sublist hsub, List.nodup_cons.mpr ⟨?_, houter⟩, ?_⟩
      · intro hi
        exact hout id hi List.mem_cons_self
      · intro i hi hy
        rcases List.mem_cons.mp hi with rfl | hi
        · exact hidz (hsub.subset hy)
        · exact hout i hi (List.mem_cons_of_mem _ (hsub.subset hy))

end Layout

namespace Spot

variable {x : Layout} {around : List (Layout × Step)} {p q : Spot} {rest : List Spot}

/-- A spot is the whole document, an item of a list, or a field of a record. -/
theorem In.cases (h : p.In x) :
    p.around = [] ∨
    (∃ (id : Nat) (items : List Layout) (outer : List (Layout × Step)) (k : Nat),
      p.around = (.list id items, .index k) :: outer ∧ items[k]? = some p.here) ∨
    ∃ id fields outer key, p.around = (.record id fields, .key key) :: outer := by
  obtain ⟨y, around⟩ := p
  cases around with
  | nil => exact .inl rfl
  | cons f outer =>
      obtain ⟨z, step⟩ := f
      cases step with
      | index i =>
          obtain ⟨id, items, k, rfl, rfl, hk⟩ := Layout.child?_index h.1
          exact .inr (.inl ⟨id, items, outer, k, rfl, hk⟩)
      | key key =>
          obtain ⟨id, fields, rfl, -⟩ := Layout.child?_key h.1
          exact .inr (.inr ⟨id, fields, outer, key, rfl⟩)

/-! ### The nodes around a spot -/

theorem mem_nodes : q ∈ nodes around ↔
    q.here.isNode = true ∧ ∃ inner step, around = inner ++ (q.here, step) :: q.around := by
  induction around with
  | nil => simp [nodes]
  | cons f outer ih =>
      obtain ⟨z, step⟩ := f
      rw [nodes]
      constructor
      · intro hq
        have hq' : (z.isNode = true ∧ q = ⟨z, outer⟩) ∨ q ∈ nodes outer := by
          split at hq
          · next hz => exact (List.mem_cons.mp hq).imp (fun h => ⟨hz, h⟩) id
          · exact .inr hq
        rcases hq' with ⟨hz, rfl⟩ | hq
        · exact ⟨hz, [], step, rfl⟩
        · obtain ⟨hn, inner, step', rfl⟩ := ih.mp hq
          exact ⟨hn, (z, step) :: inner, step', rfl⟩
      · rintro ⟨hn, inner, step', h⟩
        cases inner with
        | nil =>
            obtain ⟨⟨rfl, rfl⟩, rfl⟩ : (z = q.here ∧ step = step') ∧ outer = q.around := by
              simpa using h
            rw [if_pos hn]
            exact List.mem_cons_self
        | cons g inner =>
            obtain ⟨-, rfl⟩ := List.cons.inj h
            have hq := ih.mpr ⟨hn, inner, step', rfl⟩
            split
            · exact List.mem_cons_of_mem _ hq
            · exact hq

/-- Those that come later are further out. -/
theorem nodes_sorted : ∀ around : List (Layout × Step),
    (nodes around).Pairwise fun q q' => q'.around.length < q.around.length
  | [] => .nil
  | (z, step) :: outer => by
      rw [nodes]
      split
      · refine List.pairwise_cons.mpr ⟨?_, nodes_sorted outer⟩
        intro q hq
        obtain ⟨-, inner, step', rfl⟩ := mem_nodes.mp hq
        simp only [List.length_append, List.length_cons]
        omega
      · exact nodes_sorted outer

/-- Behind the nearest node come the nodes around it. -/
theorem nodes_tail (h : nodes around = q :: rest) : rest = nodes q.around := by
  induction around with
  | nil => simp [nodes] at h
  | cons f outer ih =>
      obtain ⟨z, step⟩ := f
      rw [nodes] at h
      split at h
      · obtain ⟨rfl, rfl⟩ := List.cons.inj h
        rfl
      · exact ih h

/-- A node around a spot of the document is in the document, too. -/
theorem in_of_mem_nodes {y : Layout} (h : x.Around around y) (hq : q ∈ nodes around) : q.In x := by
  obtain ⟨-, inner, step, rfl⟩ := mem_nodes.mp hq
  clear hq
  induction inner generalizing y with
  | nil => exact h.2
  | cons f inner ih => exact ih h.2

theorem id?_of_isNode {y : Layout} (h : y.isNode = true) : ∃ id, y.id? = some id := by
  cases y with
  | scalar value => simp [Layout.isNode, Tree.isNode, Tree.nodeType?, Tree.field?, Layout.tree] at h
  | list id items => exact ⟨id, rfl⟩
  | record id fields => exact ⟨id, rfl⟩

theorem length_ids_nodes (around : List (Layout × Step)) :
    ((nodes around).filterMap (·.here.id?)).length = (nodes around).length := by
  rw [List.filterMap_length_eq_length]
  intro q hq
  obtain ⟨id, hid⟩ := id?_of_isNode (mem_nodes.mp hq).1
  simp [hid]

/-! ### Going to the parent -/

/-- Unwinding ends at the innermost node. -/
theorem unwindTo_apply {id : Nat} {y : Layout} (current : Ref) (ancestors : Stack Nat)
    (hx : x.ids.Nodup) (h : x.Around around y) (hq : nodes around = q :: rest)
    (hid : q.here.id? = some id) : ∃ step,
    Cursor.unwindTo id (containers around)
        ⟨current, ⟨containers around⟩, ⟨around.map (·.2)⟩, ancestors⟩ =
      .ok () ⟨current, ⟨id :: containers q.around⟩, ⟨step :: q.around.map (·.2)⟩, ancestors⟩ := by
  induction around generalizing y with
  | nil => simp [nodes] at hq
  | cons f outer ih =>
      obtain ⟨z, step⟩ := f
      obtain ⟨-, hdistinct, -⟩ := Layout.Around.unshared hx h
      obtain ⟨⟨j, more, hj, -, -⟩, -⟩ := Layout.of_child? h.1
      have hcontainers : containers ((z, step) :: outer) = j :: containers outer :=
        List.filterMap_cons_some hj
      rw [hcontainers] at hdistinct ⊢
      rw [nodes] at hq
      split at hq
      · obtain ⟨rfl, rfl⟩ := List.cons.inj hq
        obtain rfl : j = id := Option.some.inj (hj.symm.trans hid)
        refine ⟨step, ?_⟩
        rw [Cursor.unwindTo, if_pos rfl]
        rfl
      -- Not yet there: the node is further out, so it is not the innermost container.
      · have hmem : id ∈ containers outer := by
          obtain ⟨-, inner, step', rfl⟩ := mem_nodes.mp (hq ▸ List.mem_cons_self)
          exact List.mem_filterMap.mpr ⟨(q.here, step'), by simp, hid⟩
        have hne : j ≠ id := fun h => (List.nodup_cons.mp hdistinct).1 (h ▸ hmem)
        rw [Cursor.unwindTo, if_neg hne]
        exact ih h.2 hq

/-- Going to the parent unwinds to the nearest ancestor and forgets it. -/
theorem goToParent_apply {current : Ref} {known objects ancestors : List Nat}
    {steps outer : List Step} {id : Nat} {step : Step}
    (h : Cursor.unwindTo id known ⟨current, ⟨known⟩, ⟨steps⟩, ⟨ancestors⟩⟩ =
      .ok () ⟨current, ⟨id :: objects⟩, ⟨step :: outer⟩, ⟨ancestors⟩⟩) :
    Cursor.goToParent.run ⟨current, ⟨known⟩, ⟨steps⟩, ⟨id :: ancestors⟩⟩ =
      .ok () ⟨.object id, ⟨objects⟩, ⟨outer⟩, ⟨ancestors⟩⟩ := by
  show ((Cursor.unwindTo id known) >>= fun _ => (do
    Cursor.dropContainer
    let _ ← Cursor.dropStep
    modify fun c => { c with current := .object id } : Cursor.Move Unit))
      ⟨current, ⟨known⟩, ⟨steps⟩, ⟨ancestors⟩⟩ = _
  rw [bind_ok h]
  rfl

/-- The parent of a spot is the nearest node around it. -/
theorem goToParent_cursor (hx : x.ids.Nodup) (hp : p.In x) (hq : nodes p.around = q :: rest) :
    Cursor.goToParent.from p.cursor = .ok q.cursor := by
  have hmem : q ∈ nodes p.around := hq ▸ List.mem_cons_self
  obtain ⟨id, hid⟩ := id?_of_isNode (mem_nodes.mp hmem).1
  have href : q.here.ref = .object id := Layout.id?_eq_some.mp hid
  obtain ⟨step, hunwind⟩ := unwindTo_apply p.here.ref
    ⟨(nodes q.around).filterMap (·.here.id?)⟩ hx hp hq hid
  have hrun := goToParent_apply hunwind
  -- The ancestors of the cursor are the nodes around, the nearest on top.
  have hancestors : (nodes p.around).filterMap (·.here.id?) =
      id :: (nodes q.around).filterMap (·.here.id?) := by
    rw [hq, List.filterMap_cons_some (f := fun q : Spot => q.here.id?) hid, nodes_tail hq]
  unfold Cursor.Move.from cursor
  rw [hancestors, hrun, href]

/-- Every item of a list in the document is at a spot. -/
theorem in_of_lt {id k : Nat} {items : List Layout} (h : x.Around around (.list id items))
    (hk : k < items.length) :
    ∃ y, items[k]? = some y ∧ In x ⟨y, (.list id items, .index k) :: around⟩ := by
  have hy : items[k]? = some items[k] := List.getElem?_eq_getElem hk
  exact ⟨items[k], hy, by simp [Layout.child?], h⟩

/-! ### Going to the item before -/

section Items

variable {s : Store} {id k : Nat} {items : List Layout} {y z : Layout}

theorem siblings?_cursor (hcell : s.cell? id = some (.list (items.map Layout.ref)))
    (step : Step) : (cursor ⟨y, (.list id items, step) :: around⟩).siblings? s =
      some (id, items.map Layout.ref) := by
  show (do
    let items ← s.items? (.object id)
    return (id, items) : Option (Nat × List Ref)) = _
  rw [Store.items?, hcell]
  rfl

theorem previousIndex?_cursor (hk : k ≤ items.length) :
    (cursor ⟨y, (z, .index k) :: around⟩).previousIndex? items.length =
      .ok (if 0 < k then some (k - 1) else none) := by
  have hbound : (0 < (k : Int) ∧ (k : Int) ≤ items.length) ↔ 0 < k := by omega
  have hindex : ((k : Int) - 1).toNat = k - 1 := by omega
  show (pure (if 0 < (k : Int) ∧ (k : Int) ≤ items.length then some ((k : Int) - 1).toNat
    else none) : Except Fault (Option Nat)) = _
  rw [hindex]
  simp only [hbound]
  rfl

/-- Every item but the first has one before it. -/
theorem hasPreviousSibling_cursor (hcell : s.cell? id = some (.list (items.map Layout.ref)))
    (hk : k ≤ items.length) :
    (cursor ⟨y, (.list id items, .index k) :: around⟩).hasPreviousSibling s =
      .ok (decide (0 < k)) := by
  have hindex : (cursor ⟨y, (.list id items, .index k) :: around⟩).previousIndex? items.length =
      .ok (if 0 < k then some (k - 1) else none) := previousIndex?_cursor hk
  rw [Cursor.hasPreviousSibling, siblings?_cursor hcell]
  dsimp only
  rw [List.length_map, hindex]
  by_cases h : 0 < k <;> simp [h, bind, Except.bind, pure, Except.pure]

/-- Where nothing or a record contains the spot, there is no item before it. -/
theorem hasPreviousSibling_eq_false {p : Spot}
    (h : p.around = [] ∨ ∃ id fields step outer, p.around = (.record id fields, step) :: outer ∧
      s.cell? id = some (.record (Layout.fieldRefs fields))) :
    p.cursor.hasPreviousSibling s = .ok false := by
  obtain ⟨y, around⟩ := p
  have hnone : (cursor ⟨y, around⟩).siblings? s = none := by
    rcases h with rfl | ⟨id, fields, step, outer, rfl, hcell⟩
    · rfl
    · show (do
        let items ← s.items? (.object id)
        return (id, items) : Option (Nat × List Ref)) = _
      rw [Store.items?, hcell]
      rfl
  rw [Cursor.hasPreviousSibling, hnone]
  rfl

/-- The item before. -/
theorem goToPrevious_cursor (hcell : s.cell? id = some (.list (items.map Layout.ref)))
    (hz : items[k]? = some z) :
    (Cursor.goToPrevious s).from (cursor ⟨y, (.list id items, .index (k + 1 : Nat)) :: around⟩) =
      .ok (cursor ⟨z, (.list id items, .index k) :: around⟩) := by
  obtain ⟨hk, -⟩ := List.getElem?_eq_some_iff.mp hz
  have hrun : (Cursor.goToPrevious s).run
      (cursor ⟨y, (.list id items, .index (k + 1 : Nat)) :: around⟩) =
        .ok () (cursor ⟨z, (.list id items, .index k) :: around⟩) := by
    have hindex : (cursor ⟨y, (.list id items, .index (k + 1 : Nat)) :: around⟩).previousIndex?
        items.length = .ok (if 0 < k + 1 then some (k + 1 - 1) else none) :=
      previousIndex?_cursor hk
    rw [if_pos (Nat.succ_pos k), Nat.add_sub_cancel] at hindex
    have hitem : (items.map Layout.ref)[k]?.getD .null = z.ref := by simp [hz]
    rw [Cursor.goToPrevious, EStateM.run, get_bind, siblings?_cursor hcell]
    dsimp only
    rw [List.length_map, hindex]
    show EStateM.Result.ok () _ = _
    simp only [hitem]
    rfl
  unfold Cursor.Move.from
  rw [hrun]

/-- What is shown of the item before. -/
theorem previousSibling_cursor (hcell : s.cell? id = some (.list (items.map Layout.ref)))
    (hz : items[k]? = some z) :
    (cursor ⟨y, (.list id items, .index (k + 1 : Nat)) :: around⟩).previousSibling s =
      .ok z.ref := by
  obtain ⟨hk, -⟩ := List.getElem?_eq_some_iff.mp hz
  have hindex : (cursor ⟨y, (.list id items, .index (k + 1 : Nat)) :: around⟩).previousIndex?
      items.length = .ok (if 0 < k + 1 then some (k + 1 - 1) else none) := previousIndex?_cursor hk
  rw [if_pos (Nat.succ_pos k), Nat.add_sub_cancel] at hindex
  rw [Cursor.previousSibling, siblings?_cursor hcell]
  dsimp only
  rw [List.length_map, hindex]
  simp [hz, bind, Except.bind, pure, Except.pure]

end Items

/-! ### The visits of a walk are spots -/

theorem cursor_step {y z : Layout} {id : Nat} (hid : z.id? = some id) (step : Step) :
    cursor ⟨y, (z, step) :: around⟩ =
      { ((cursor ⟨z, around⟩).inside id z.isNode).down step with current := y.ref } := by
  have hcontainers : containers ((z, step) :: around) = id :: containers around :=
    List.filterMap_cons_some hid
  have hnodes : (nodes ((z, step) :: around)).filterMap (·.here.id?) =
      if z.isNode then id :: (nodes around).filterMap (·.here.id?)
      else (nodes around).filterMap (·.here.id?) := by
    rw [nodes]
    split
    · exact List.filterMap_cons_some (f := fun q : Spot => q.here.id?) hid
    · rfl
  unfold cursor Cursor.inside Cursor.down
  rw [hcontainers, hnodes]
  cases z.isNode <;> rfl

/-- Each visit finds the cursor at a spot where a node stands. -/
theorem visits_spot {v : Visit} {y : Layout} (hx : x.tree.Keyed) (h : x.Around around y)
    (hwalked : Walked ⟨y, around⟩) (hv : v ∈ y.visits (cursor ⟨y, around⟩)) :
    ∃ q : Spot, q.In x ∧ q.Walked ∧ q.here.isNode = true ∧ q.here.id? = some v.node ∧
      q.cursor = v.cursor := by
  induction y using Layout.induct generalizing around with
  | scalar value => simp [Layout.visits] at hv
  | list id items ih =>
      obtain ⟨k, y, hy, hv⟩ := Layout.mem_visitsItems hv
      have hchild : (Layout.list id items).child? (.index k) = some y := by
        simpa [Layout.child?] using hy
      have haround : x.Around ((.list id items, .index k) :: around) y := ⟨hchild, h⟩
      have hwalked' : Walked ⟨y, (.list id items, .index k) :: around⟩ :=
        List.forall_mem_cons.mpr ⟨by simp, hwalked⟩
      refine ih y (List.mem_of_getElem? hy) haround hwalked' ?_
      -- The cursor of the item is the one that the walk goes down with.
      rw [cursor_step rfl, Layout.visits_current]
      rwa [Nat.zero_add] at hv
  | record id fields ih =>
      rw [Layout.visits] at hv
      rcases List.mem_append.mp hv with hv | hv
      · obtain ⟨f, hf, htype, hv⟩ := Layout.mem_visitsFields hv
        have hdiff : (fields.map (·.1)).Nodup :=
          Layout.keys_treeFields fields ▸ (h.keyed hx).1
        have hchild : (Layout.record id fields).child? (.key f.1) = some f.2 :=
          Layout.fieldOf?_of_mem hdiff hf
        have haround : x.Around ((.record id fields, .key f.1) :: around) f.2 := ⟨hchild, h⟩
        have hwalked' : Walked ⟨f.2, (.record id fields, .key f.1) :: around⟩ :=
          List.forall_mem_cons.mpr ⟨by simpa using htype, hwalked⟩
        refine ih f hf haround hwalked' ?_
        rwa [cursor_step rfl, Layout.visits_current]
      · split at hv
        · next hnode =>
            obtain rfl := List.mem_singleton.mp hv
            exact ⟨⟨.record id fields, around⟩, h, hwalked, hnode, rfl, rfl⟩
        · simp at hv

/-- Each visit of a document is at a spot that the walk comes to. -/
theorem visits_document {v : Visit} (hx : x.tree.Keyed) (hv : v ∈ x.visits .fresh) :
    ∃ q : Spot, q.In x ∧ q.Walked ∧ q.here.isNode = true ∧ q.here.id? = some v.node ∧
      q.cursor = v.cursor := by
  have hroot : x.Around [] x := rfl
  have hwalked : Walked ⟨x, []⟩ := List.forall_mem_nil _
  have hfresh : cursor ⟨x, []⟩ = { Cursor.fresh with current := x.ref } := rfl
  rw [← Layout.visits_current .fresh x.ref x, ← hfresh] at hv
  exact visits_spot hx hroot hwalked hv

/-- What is visited in a spot that a walk comes to is visited in the document. -/
theorem visits_subset {y : Layout} (h : x.Around around y) (hwalked : Walked ⟨y, around⟩) :
    y.visits (cursor ⟨y, around⟩) ⊆ x.visits .fresh := by
  induction around generalizing y with
  | nil =>
      obtain rfl := h
      have hfresh : cursor ⟨y, []⟩ = { Cursor.fresh with current := y.ref } := rfl
      rw [hfresh, Layout.visits_current]
      exact List.Subset.refl _
  | cons f outer ih =>
      obtain ⟨z, step⟩ := f
      obtain ⟨hstep, houter⟩ := List.forall_mem_cons.mp hwalked
      refine List.Subset.trans ?_ (ih h.2 houter)
      cases step with
      | index i =>
          obtain ⟨id, items, k, rfl, rfl, hy⟩ := Layout.child?_index h.1
          rw [cursor_step rfl, Layout.visits_current]
          have hsubset := Layout.visits_subset_visitsItems
            ((cursor ⟨.list id items, outer⟩).inside id false) 0 hy
          rwa [Nat.zero_add] at hsubset
      | key key =>
          obtain ⟨id, fields, rfl, hy⟩ := Layout.child?_key h.1
          rw [cursor_step rfl, Layout.visits_current]
          have hsubset := Layout.visits_subset_visitsFields
            ((cursor ⟨.record id fields, outer⟩).inside id (Layout.record id fields).isNode)
            (Layout.mem_of_fieldOf? hy) fun hkey => hstep (congrArg Step.key hkey)
          rw [Layout.visits]
          exact List.Subset.trans hsubset (List.subset_append_left _ _)

/-- At every node that a walk comes to, it visits the node with its text and the cursor there. -/
theorem visit_mem {n : Nat} (hp : p.In x) (hwalked : p.Walked) (hn : p.here.isNode = true)
    (hid : p.here.id? = some n) : ⟨n, p.here.text, p.cursor⟩ ∈ x.visits .fresh := by
  obtain ⟨y, around⟩ := p
  have hsubset := visits_subset hp hwalked
  cases y with
  -- Only records are nodes.
  | scalar value => contradiction
  | list id items => contradiction
  | record id fields =>
      obtain rfl : id = n := Option.some.inj hid
      refine hsubset ?_
      rw [Layout.visits, if_pos hn]
      exact List.mem_append_right _ List.mem_cons_self

theorem spot_visits (hp : p.In x) (hwalked : p.Walked) (hn : p.here.isNode = true) :
    ∃ v ∈ x.visits .fresh, p.here.id? = some v.node ∧ v.cursor = p.cursor := by
  obtain ⟨n, hid⟩ := id?_of_isNode hn
  exact ⟨_, visit_mem hp hwalked hn hid, hid, rfl⟩

end Spot

end DocLint
