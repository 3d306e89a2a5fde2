import DocLint.Proofs.Layout

/-!
# DocLint.Proofs.Walk.Visits

**The visits of a document**, by plain recursion over its layout: what a walk that
nobody disturbs does. `Layout.visits` lists the nodes from left to right, the
parts of a node before the node, each with the text of the leaves under it
(`Layout.text`) and with the cursor that points at it. Fields of the name `type`
are passed over.

`Layout.without` leaves items out of lists; the visits of what is left are what a
walk does whose visitor takes these items away.
-/

namespace DocLint

/-- A node that a walk comes to: the text of the leaves under it, and the
position. -/
structure Visit where
  node : Nat
  content : String
  cursor : Cursor

namespace Cursor

/-- The cursor inside an object, which is an ancestor if it is a node. -/
def inside (c : Cursor) (id : Nat) (node : Bool) : Cursor :=
  { c with
    containers := c.containers.push id
    ancestors := if node then c.ancestors.push id else c.ancestors }

/-- The cursor one step further down. -/
def down (c : Cursor) (step : Step) : Cursor := { c with steps := c.steps.push step }

/-- The cursor with an object as the current value. -/
def facing (c : Cursor) (id : Nat) : Cursor := { c with current := .object id }

end Cursor

namespace Layout

/-- The text that a record adds to the text of its fields: its content, if it is a
text leaf. -/
def ownText (fields : List (String × Layout)) : String :=
  (Tree.record (treeFields fields)).leafText?.getD ""

mutual
/-- The text of the leaves of a layout that a walk comes to. -/
def text : Layout → String
  | .scalar _ => ""
  | .list _ items => textItems items
  | .record _ fields => ownText fields ++ textFields fields

/-- The text of the items of a list. -/
def textItems : List Layout → String
  | [] => ""
  | x :: rest => x.text ++ textItems rest

/-- The text of the fields of a record. -/
def textFields : List (String × Layout) → String
  | [] => ""
  | (key, x) :: rest => (if key = "type" then "" else x.text) ++ textFields rest
end

mutual
/-- The nodes of a layout that a walk comes to, from a cursor that points at the
layout. -/
def visits (c : Cursor) : Layout → List Visit
  | .scalar _ => []
  | .list id items => visitsItems (c.inside id false) 0 items
  | .record id fields =>
    let node := (Layout.record id fields).isNode
    let own : Visit := ⟨id, (Layout.record id fields).text, c.facing id⟩
    visitsFields (c.inside id node) fields ++ if node then [own] else []

/-- The visits of the items of a list from the item with number `index` on. -/
def visitsItems (c : Cursor) (index : Nat) : List Layout → List Visit
  | [] => []
  | x :: rest => x.visits (c.down (.index index)) ++ visitsItems c (index + 1) rest

/-- The visits of the fields of a record. -/
def visitsFields (c : Cursor) : List (String × Layout) → List Visit
  | [] => []
  | (key, x) :: rest =>
    (if key = "type" then [] else x.visits (c.down (.key key))) ++ visitsFields c rest
end

/-- The object of a layout, if it is one. -/
def id? : Layout → Option Nat
  | .scalar _ => none
  | .list id _ | .record id _ => some id

/-- Is the layout an object of `gone`? -/
def isOneOf (gone : List Nat) (x : Layout) : Bool := x.id?.any gone.contains

mutual
/-- The layout with the objects of `gone` left out of its lists. -/
def without (gone : List Nat) : Layout → Layout
  | .scalar value => .scalar value
  | .list id items => .list id (withoutItems gone items)
  | .record id fields => .record id (withoutFields gone fields)

/-- The items that are left, without what is gone inside them. -/
def withoutItems (gone : List Nat) : List Layout → List Layout
  | [] => []
  | x :: rest =>
    if x.isOneOf gone then withoutItems gone rest else x.without gone :: withoutItems gone rest

/-- The fields without what is gone inside them. -/
def withoutFields (gone : List Nat) : List (String × Layout) → List (String × Layout)
  | [] => []
  | (key, x) :: rest => (key, x.without gone) :: withoutFields gone rest
end

/-! ### Visits of the parts -/

theorem mem_visitsItems {v : Visit} {c : Cursor} {index : Nat} {items : List Layout}
    (h : v ∈ visitsItems c index items) :
    ∃ (k : Nat) (y : Layout),
      items[k]? = some y ∧ v ∈ y.visits (c.down (.index (index + k : Nat))) := by
  induction items generalizing index with
  | nil => simp [visitsItems] at h
  | cons x rest ih =>
      rcases List.mem_append.mp h with h | h
      · exact ⟨0, x, rfl, h⟩
      · obtain ⟨k, y, hy, hv⟩ := ih h
        refine ⟨k + 1, y, hy, ?_⟩
        rwa [Nat.add_right_comm, Nat.add_assoc] at hv

theorem mem_visitsFields {v : Visit} {c : Cursor} {fields : List (String × Layout)}
    (h : v ∈ visitsFields c fields) :
    ∃ f ∈ fields, f.1 ≠ "type" ∧ v ∈ f.2.visits (c.down (.key f.1)) := by
  induction fields with
  | nil => simp [visitsFields] at h
  | cons f rest ih =>
      obtain ⟨key, x⟩ := f
      rcases List.mem_append.mp h with h | h
      · split at h
        · simp at h
        · next htype => exact ⟨(key, x), List.mem_cons_self, htype, h⟩
      · obtain ⟨f, hf, hv⟩ := ih h
        exact ⟨f, List.mem_cons_of_mem _ hf, hv⟩

/-- A visit is at a node inside the layout. What passes from a layout to its parts holds of the
node, too. -/
theorem visit_part {P : Layout → Prop}
    (hitems : ∀ {id : Nat} {items : List Layout}, P (.list id items) → ∀ y ∈ items, P y)
    (hfields : ∀ {id : Nat} {fields : List (String × Layout)}, P (.record id fields) →
      ∀ f ∈ fields, P f.2)
    {x : Layout} {c : Cursor} {v : Visit} (h : P x) (hv : v ∈ x.visits c) :
    ∃ y, P y ∧ y.isNode = true ∧ y.ref = .object v.node ∧ v.cursor.current = y.ref ∧
      v.content = y.text := by
  induction x using induct generalizing c with
  | scalar value => exact absurd hv List.not_mem_nil
  | list id items ih =>
      obtain ⟨k, y, hy, hv⟩ := mem_visitsItems hv
      have hmem := List.mem_of_getElem? hy
      exact ih y hmem (hitems h y hmem) hv
  | record id fields ih =>
      rcases List.mem_append.mp hv with hv | hv
      · obtain ⟨f, hf, -, hv⟩ := mem_visitsFields hv
        exact ih f hf (hfields h f hf) hv
      · obtain ⟨hnode, hv⟩ := List.mem_ite_nil_right.mp hv
        obtain rfl := List.mem_singleton.mp hv
        exact ⟨.record id fields, h, hnode, rfl, rfl, rfl⟩

theorem visits_subset_visitsItems (c : Cursor) (index : Nat) {k : Nat} {items : List Layout}
    {y : Layout} (h : items[k]? = some y) :
    y.visits (c.down (.index (index + k : Nat))) ⊆ visitsItems c index items := by
  induction items generalizing index k with
  | nil => simp at h
  | cons x rest ih =>
      cases k with
      | zero =>
          obtain rfl : x = y := Option.some.inj h
          exact List.subset_append_left _ _
      | succ k =>
          rw [← Nat.add_assoc, Nat.add_right_comm]
          exact List.Subset.trans (ih (index + 1) h) (List.subset_append_right _ _)

theorem visits_subset_visitsFields (c : Cursor) {key : String} {fields : List (String × Layout)}
    {y : Layout} (h : (key, y) ∈ fields) (hkey : key ≠ "type") :
    y.visits (c.down (.key key)) ⊆ visitsFields c fields := by
  induction fields with
  | nil => simp at h
  | cons f rest ih =>
      obtain ⟨key', x⟩ := f
      rcases List.mem_cons.mp h with h | h
      · obtain ⟨rfl, rfl⟩ := Prod.mk.inj h
        rw [visitsFields, if_neg hkey]
        exact List.subset_append_left _ _
      · exact List.Subset.trans (ih h) (List.subset_append_right _ _)

/-! ### The current value of the first cursor does not matter -/

@[simp] theorem inside_facing (c : Cursor) (id : Nat) (node : Bool) (r : Ref) :
    { c with current := r }.inside id node = { c.inside id node with current := r } := rfl

mutual
theorem visits_current (c : Cursor) (r : Ref) :
    ∀ x : Layout, x.visits { c with current := r } = x.visits c
  | .scalar _ => rfl
  | .list id items => visitsItems_current (c.inside id false) r 0 items
  | .record id fields => by
      simp only [visits, inside_facing, visitsFields_current (c.inside id _) r fields]
      rfl

theorem visitsItems_current (c : Cursor) (r : Ref) : ∀ (index : Nat) (items : List Layout),
    visitsItems { c with current := r } index items = visitsItems c index items
  | _, [] => rfl
  | index, x :: rest => by
      simp only [visitsItems, visitsItems_current c r (index + 1) rest]
      exact congrArg (· ++ _) (visits_current (c.down (.index index)) r x)

theorem visitsFields_current (c : Cursor) (r : Ref) : ∀ fields : List (String × Layout),
    visitsFields { c with current := r } fields = visitsFields c fields
  | [] => rfl
  | (key, x) :: rest => by
      simp only [visitsFields, visitsFields_current c r rest]
      refine congrArg (· ++ _) ?_
      split
      · rfl
      · exact visits_current (c.down (.key key)) r x
end

/-- What is no node is no text leaf. -/
theorem ownText_of_not_node {id : Nat} {fields : List (String × Layout)}
    (h : (Layout.record id fields).isNode = false) : ownText fields = "" := by
  have hnone : (Tree.record (treeFields fields)).leafText? = none :=
    Option.eq_none_iff_forall_ne_some.mpr fun text ht => by
      have htype := (leafText?_tree.mp ht).1
      simp [isNode, Tree.isNode, tree, htype] at h
  rw [ownText, hnone, Option.getD_none]

/-! ### Visits without their cursors -/

end Layout

/-- The node of a visit and its content. -/
def Visit.key (v : Visit) : Nat × String := (v.node, v.content)

namespace Layout

/-- The nodes that a walk comes to, with their contents. -/
def keys (x : Layout) : List (Nat × String) := (x.visits .fresh).map Visit.key

/-- `keys` for the items of a list. -/
def keysItems (items : List Layout) : List (Nat × String) :=
  (visitsItems .fresh 0 items).map Visit.key

/-- `keys` for the fields of a record. -/
def keysFields (fields : List (String × Layout)) : List (Nat × String) :=
  (visitsFields .fresh fields).map Visit.key

mutual
/-- Which nodes there are does not hang on where the layout stands. -/
theorem visits_key (c : Cursor) : ∀ x : Layout, (x.visits c).map Visit.key = x.keys
  | .scalar _ => rfl
  | .list id items => by
      rw [keys, visits, visits, visitsItems_key, visitsItems_key]
  | .record id fields => by
      rw [keys, visits, visits, List.map_append, List.map_append, visitsFields_key,
        visitsFields_key]
      split <;> rfl

theorem visitsItems_key (c : Cursor) (index : Nat) : ∀ items : List Layout,
    (visitsItems c index items).map Visit.key = keysItems items
  | [] => rfl
  | x :: rest => by
      rw [keysItems, visitsItems, visitsItems, List.map_append, List.map_append, visits_key,
        visits_key, visitsItems_key, visitsItems_key]

theorem visitsFields_key (c : Cursor) : ∀ fields : List (String × Layout),
    (visitsFields c fields).map Visit.key = keysFields fields
  | [] => rfl
  | (key, x) :: rest => by
      rw [keysFields, visitsFields, visitsFields, List.map_append, List.map_append,
        visitsFields_key, visitsFields_key]
      split
      · rfl
      · rw [visits_key, visits_key]
end

@[simp] theorem keys_scalar (value : Scalar) : (Layout.scalar value).keys = [] := rfl

@[simp] theorem keys_list (id : Nat) (items : List Layout) :
    (Layout.list id items).keys = keysItems items := visitsItems_key _ _ _

theorem keys_record (id : Nat) (fields : List (String × Layout)) :
    (Layout.record id fields).keys = keysFields fields ++
      if (Layout.record id fields).isNode then [(id, (Layout.record id fields).text)] else [] := by
  rw [keys, visits, List.map_append, visitsFields_key]
  split <;> rfl

@[simp] theorem keysItems_nil : keysItems [] = [] := rfl

@[simp] theorem keysItems_cons (x : Layout) (rest : List Layout) :
    keysItems (x :: rest) = x.keys ++ keysItems rest := by
  rw [keysItems, visitsItems, List.map_append, visits_key, visitsItems_key]

@[simp] theorem keysFields_nil : keysFields [] = [] := rfl

@[simp] theorem keysFields_cons (key : String) (x : Layout) (rest : List (String × Layout)) :
    keysFields ((key, x) :: rest) = (if key = "type" then [] else x.keys) ++ keysFields rest := by
  rw [keysFields, visitsFields, List.map_append, visitsFields_key]
  split
  · rfl
  · rw [visits_key]

theorem id?_eq_some {x : Layout} {id : Nat} : x.id? = some id ↔ x.ref = .object id := by
  cases x <;> simp [id?, ref]

theorem mem_ids_of_id? {x : Layout} {i : Nat} (h : x.id? = some i) : i ∈ x.ids := by
  cases x with
  | scalar value => simp [id?] at h
  | list id items => simp_all [id?, ids]
  | record id fields => simp_all [id?, ids]

/-- Nodes from different objects are different. -/
theorem nodes_append {first more : List (Nat × String)} {ids others : List Nat}
    (h : (∀ k ∈ first, k.1 ∈ ids) ∧ (first.map (·.1)).Nodup)
    (h' : (∀ k ∈ more, k.1 ∈ others) ∧ (more.map (·.1)).Nodup)
    (hd : ∀ i ∈ ids, ∀ j ∈ others, i ≠ j) :
    (∀ k ∈ first ++ more, k.1 ∈ ids ++ others) ∧ ((first ++ more).map (·.1)).Nodup := by
  refine ⟨?_, ?_⟩
  · intro k hk
    rcases List.mem_append.mp hk with hk | hk
    · exact List.mem_append_left _ (h.1 k hk)
    · exact List.mem_append_right _ (h'.1 k hk)
  · rw [List.map_append, List.nodup_append]
    refine ⟨h.2, h'.2, ?_⟩
    intro i hi j hj
    obtain ⟨k, hk, rfl⟩ := List.mem_map.mp hi
    obtain ⟨l, hl, rfl⟩ := List.mem_map.mp hj
    exact hd _ (h.1 k hk) _ (h'.1 l hl)

mutual
/-- The nodes of the visits are objects of the layout, and each is visited once. -/
theorem nodes_visits : ∀ x : Layout, x.ids.Nodup →
    (∀ k ∈ x.keys, k.1 ∈ x.ids) ∧ (x.keys.map (·.1)).Nodup
  | .scalar _, _ => by simp
  | .list id items, h => by
      obtain ⟨hm, hn⟩ := nodes_visitsItems items (List.nodup_cons.mp h).2
      rw [keys_list]
      exact ⟨fun k hk => List.mem_cons_of_mem _ (hm k hk), hn⟩
  | .record id fields, h => by
      obtain ⟨hid, h⟩ := List.nodup_cons.mp h
      have hf := nodes_visitsFields fields h
      rw [keys_record]
      split
      · have hown : (∀ k ∈ [(id, (Layout.record id fields).text)], k.1 ∈ [id]) ∧
            ([(id, (Layout.record id fields).text)].map (·.1)).Nodup := by simp
        have hne : ∀ i ∈ idsFields fields, ∀ j ∈ [id], i ≠ j := fun i hi j hj =>
          List.mem_singleton.mp hj ▸ ne_of_mem_of_not_mem hi hid
        obtain ⟨hm, hn⟩ := nodes_append hf hown hne
        exact ⟨fun k hk => by simpa [ids, or_comm] using hm k hk, hn⟩
      · rw [List.append_nil]
        exact ⟨fun k hk => List.mem_cons_of_mem _ (hf.1 k hk), hf.2⟩

theorem nodes_visitsItems : ∀ items : List Layout, (idsItems items).Nodup →
    (∀ k ∈ keysItems items, k.1 ∈ idsItems items) ∧ ((keysItems items).map (·.1)).Nodup
  | [], _ => by simp
  | x :: rest, h => by
      obtain ⟨hx, hrest, hd⟩ := List.nodup_append.mp h
      rw [keysItems_cons]
      exact nodes_append (nodes_visits x hx) (nodes_visitsItems rest hrest) hd

theorem nodes_visitsFields : ∀ fields : List (String × Layout), (idsFields fields).Nodup →
    (∀ k ∈ keysFields fields, k.1 ∈ idsFields fields) ∧ ((keysFields fields).map (·.1)).Nodup
  | [], _ => by simp
  | (key, x) :: rest, h => by
      obtain ⟨hx, hrest, hd⟩ := List.nodup_append.mp h
      have h' := nodes_visitsFields rest hrest
      rw [keysFields_cons]
      split
      · exact ⟨fun k hk => List.mem_append_right _ (h'.1 k hk), h'.2⟩
      · exact nodes_append (nodes_visits x hx) h' hd
end

/-! ### What is left when items are gone -/

variable {gone other : List Nat}

theorem fieldOf?_withoutFields (gone : List Nat) (key : String) :
    ∀ fields : List (String × Layout),
      fieldOf? (withoutFields gone fields) key = (fieldOf? fields key).map (without gone)
  | [] => rfl
  | (k, x) :: rest => by
      rw [withoutFields, fieldOf?_cons, fieldOf?_cons, fieldOf?_withoutFields gone key rest]
      split <;> rfl

/-- A scalar in a field of what is left was there before. -/
theorem fieldOf?_withoutFields_scalar {fields : List (String × Layout)} {key : String}
    {value : Scalar} :
    (fieldOf? (withoutFields gone fields) key).map tree = some (.scalar value) ↔
      (fieldOf? fields key).map tree = some (.scalar value) := by
  rw [fieldOf?_withoutFields]
  cases fieldOf? fields key with
  | none => simp
  | some x => cases x <;> simp [without, tree]

theorem isOneOf_iff {x : Layout} : x.isOneOf gone = true ↔ ∃ i ∈ gone, x.id? = some i := by
  cases h : x.id? <;> simp [isOneOf, h]

theorem isOneOf_congr {x : Layout} (h : ∀ i ∈ x.ids, i ∈ gone ↔ i ∈ other) :
    x.isOneOf gone = x.isOneOf other := by
  rw [Bool.eq_iff_iff, isOneOf_iff, isOneOf_iff]
  refine exists_congr fun i => and_congr_left fun hi => h i (mem_ids_of_id? hi)

mutual
/-- Only what is gone from the layout itself matters. -/
theorem without_congr : ∀ {x : Layout}, (∀ i ∈ x.ids, i ∈ gone ↔ i ∈ other) →
    x.without gone = x.without other
  | .scalar _, _ => rfl
  | .list id items, h => by
      rw [without, without, withoutItems_congr fun i hi => h i (List.mem_cons_of_mem _ hi)]
  | .record id fields, h => by
      rw [without, without, withoutFields_congr fun i hi => h i (List.mem_cons_of_mem _ hi)]

theorem withoutItems_congr : ∀ {items : List Layout},
    (∀ i ∈ idsItems items, i ∈ gone ↔ i ∈ other) →
      withoutItems gone items = withoutItems other items
  | [], _ => rfl
  | x :: rest, h => by
      have hx : ∀ i ∈ x.ids, i ∈ gone ↔ i ∈ other := fun i hi => h i (List.mem_append_left _ hi)
      rw [withoutItems, withoutItems, isOneOf_congr hx, without_congr hx,
        withoutItems_congr fun i hi => h i (List.mem_append_right _ hi)]

theorem withoutFields_congr : ∀ {fields : List (String × Layout)},
    (∀ i ∈ idsFields fields, i ∈ gone ↔ i ∈ other) →
    withoutFields gone fields = withoutFields other fields
  | [], _ => rfl
  | (key, x) :: rest, h => by
      rw [withoutFields, withoutFields, without_congr fun i hi => h i (List.mem_append_left _ hi),
        withoutFields_congr fun i hi => h i (List.mem_append_right _ hi)]
end

mutual
/-- What is left has no other objects. -/
theorem ids_without (gone : List Nat) : ∀ x : Layout, (x.without gone).ids.Sublist x.ids
  | .scalar _ => .slnil
  | .list _ items => (idsItems_without gone items).cons_cons _
  | .record _ fields => (idsFields_without gone fields).cons_cons _

theorem idsItems_without (gone : List Nat) : ∀ items : List Layout,
    (idsItems (withoutItems gone items)).Sublist (idsItems items)
  | [] => .slnil
  | x :: rest => by
      rw [withoutItems]
      split
      · exact (idsItems_without gone rest).trans (List.sublist_append_right _ _)
      · exact (ids_without gone x).append (idsItems_without gone rest)

theorem idsFields_without (gone : List Nat) : ∀ fields : List (String × Layout),
    (idsFields (withoutFields gone fields)).Sublist (idsFields fields)
  | [] => .slnil
  | (_, x) :: rest => (ids_without gone x).append (idsFields_without gone rest)
end

theorem field?_without (gone : List Nat) (id : Nat) (fields : List (String × Layout))
    (key : String) (value : Scalar) :
    (Layout.record id (withoutFields gone fields)).tree.field? key = some (.scalar value) ↔
      (Layout.record id fields).tree.field? key = some (.scalar value) := by
  simp only [tree, Tree.field?, fieldOf?_treeFields]
  exact fieldOf?_withoutFields_scalar

/-- A record stays the node it was. -/
theorem isNode_without (gone : List Nat) (id : Nat) (fields : List (String × Layout)) :
    (Layout.record id (withoutFields gone fields)).isNode = (Layout.record id fields).isNode :=
  congrArg Option.isSome (nodeType?_congr (field?_without gone id fields))

/-- A text leaf keeps its text. -/
theorem ownText_without (gone : List Nat) (fields : List (String × Layout)) :
    ownText (withoutFields gone fields) = ownText fields :=
  congrArg (Option.getD · "") (leafText?_congr (field?_without gone 0 fields))

end Layout

end DocLint
