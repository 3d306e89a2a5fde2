import DocLint.Proofs.Frame

/-!
# DocLint.Proofs.Layout

**Layouts.** A walk works on objects in a store, while what it does is easiest to
say of a tree. A `Layout` is the link between the two: a tree whose lists and
records carry the numbers of their objects. `Layout.Holds` says that a store
holds a layout; it looks at the cells of the layout's own objects only, so an
edit elsewhere leaves it alone (`holds_of_agree`).

Everything said about whole documents is said of a layout that a store
`Lays` out: its objects are different from each other, so none of them is in two
places, and the fields of a record have different names.

* `lays_add`: adding a tree to a store lays it out.
* `tree_of_holds`: reading a layout back gives its tree.
-/

namespace DocLint

namespace Tree

mutual
/-- The fields of every record have different names. -/
def Keyed : Tree → Prop
  | .scalar _ => True
  | .list items => KeyedItems items
  | .record fields => (fields.map (·.1)).Nodup ∧ KeyedFields fields

/-- `Keyed` for each item of a list. -/
def KeyedItems : List Tree → Prop
  | [] => True
  | t :: rest => t.Keyed ∧ KeyedItems rest

/-- `Keyed` for each field of a record. -/
def KeyedFields : List (String × Tree) → Prop
  | [] => True
  | (_, t) :: rest => t.Keyed ∧ KeyedFields rest
end

theorem keyedItems_iff {items : List Tree} : KeyedItems items ↔ ∀ t ∈ items, t.Keyed := by
  induction items with
  | nil => simp [KeyedItems]
  | cons t rest ih => simp [KeyedItems, ih]

theorem keyedFields_iff {fields : List (String × Tree)} :
    KeyedFields fields ↔ ∀ f ∈ fields, f.2.Keyed := by
  induction fields with
  | nil => simp [KeyedFields]
  | cons f rest ih => simp [KeyedFields, ih]

theorem keyedItems_append {front back : List Tree} :
    KeyedItems (front ++ back) ↔ KeyedItems front ∧ KeyedItems back := by
  simp [keyedItems_iff, or_imp, forall_and]

end Tree

/-- A tree whose lists and records carry the numbers of their objects. -/
inductive Layout
  | scalar (value : Scalar)
  | list (id : Nat) (items : List Layout)
  | record (id : Nat) (fields : List (String × Layout))

namespace Layout

/-- What stands in the place of the layout. -/
def ref : Layout → Ref
  | .scalar value => .scalar value
  | .list id _ | .record id _ => .object id

/-- What stands in the fields of a record. -/
def fieldRefs (fields : List (String × Layout)) : List (String × Ref) :=
  fields.map fun f => (f.1, f.2.ref)

mutual
/-- The tree without the numbers. -/
def tree : Layout → Tree
  | .scalar value => .scalar value
  | .list _ items => .list (treeItems items)
  | .record _ fields => .record (treeFields fields)

/-- The items of a list without the numbers. -/
def treeItems : List Layout → List Tree
  | [] => []
  | x :: rest => x.tree :: treeItems rest

/-- The fields of a record without the numbers. -/
def treeFields : List (String × Layout) → List (String × Tree)
  | [] => []
  | (key, x) :: rest => (key, x.tree) :: treeFields rest
end

mutual
/-- The objects of a layout, the whole before its parts. -/
def ids : Layout → List Nat
  | .scalar _ => []
  | .list id items => id :: idsItems items
  | .record id fields => id :: idsFields fields

/-- The objects in the items of a list. -/
def idsItems : List Layout → List Nat
  | [] => []
  | x :: rest => x.ids ++ idsItems rest

/-- The objects in the fields of a record. -/
def idsFields : List (String × Layout) → List Nat
  | [] => []
  | (_, x) :: rest => x.ids ++ idsFields rest
end

mutual
/-- How many places the objects of a layout have, each object itself included. -/
def extent : Layout → Nat
  | .scalar _ => 0
  | .list _ items => items.length + 1 + extentItems items
  | .record _ fields => fields.length + 1 + extentFields fields

/-- How many places the objects in the items of a list have. -/
def extentItems : List Layout → Nat
  | [] => 0
  | x :: rest => x.extent + extentItems rest

/-- How many places the objects in the fields of a record have. -/
def extentFields : List (String × Layout) → Nat
  | [] => 0
  | (_, x) :: rest => x.extent + extentFields rest
end

mutual
/-- The store holds the layout: each object is in its cell. -/
def Holds (s : Store) : Layout → Prop
  | .scalar _ => True
  | .list id items => s.cell? id = some (.list (items.map ref)) ∧ HoldsItems s items
  | .record id fields => s.cell? id = some (.record (fieldRefs fields)) ∧ HoldsFields s fields

/-- `Holds` for each item of a list. -/
def HoldsItems (s : Store) : List Layout → Prop
  | [] => True
  | x :: rest => x.Holds s ∧ HoldsItems s rest

/-- `Holds` for each field of a record. -/
def HoldsFields (s : Store) : List (String × Layout) → Prop
  | [] => True
  | (_, x) :: rest => x.Holds s ∧ HoldsFields s rest
end

/-- Is the layout a node? -/
def isNode (x : Layout) : Bool := x.tree.isNode

theorem isNode_of_type {x : Layout} {name : String} (h : x.tree.nodeType? = some name) :
    x.isNode = true :=
  Option.isSome_iff_exists.mpr ⟨name, h⟩

end Layout

/-- The store holds the layout, no object of it is in two places, and the fields
of its records have different names. -/
structure Store.Lays (s : Store) (x : Layout) : Prop where
  holds : x.Holds s
  unshared : x.ids.Nodup
  keyed : x.tree.Keyed

namespace Layout

/-! ### Induction over layouts -/

/-- Induction over layouts: the parts of a list or a record come before the
whole. -/
theorem induct {motive : Layout → Prop} (scalar : ∀ value, motive (.scalar value))
    (list : ∀ id items, (∀ x ∈ items, motive x) → motive (.list id items))
    (record : ∀ id fields, (∀ f ∈ fields, motive f.2) → motive (.record id fields)) (x : Layout) :
    motive x := by
  refine @Layout.rec motive (fun items => ∀ x ∈ items, motive x)
    (fun fields => ∀ f ∈ fields, motive f.2) (fun f => motive f.2) scalar list record
    ?_ ?_ ?_ ?_ ?_ x
  · simp
  · intro y rest hy hrest z hz
    rcases List.mem_cons.mp hz with rfl | hz
    · exact hy
    · exact hrest z hz
  · simp
  · intro f rest hf hrest g hg
    rcases List.mem_cons.mp hg with rfl | hg
    · exact hf
    · exact hrest g hg
  · exact fun _ _ h => h

/-! ### What a layout looks like to the store -/

@[simp] theorem length_fieldRefs (fields : List (String × Layout)) :
    (fieldRefs fields).length = fields.length := by simp [fieldRefs]

@[simp] theorem keys_fieldRefs (fields : List (String × Layout)) :
    (fieldRefs fields).map (·.1) = fields.map (·.1) := by
  simp [fieldRefs, Function.comp_def]

theorem holdsItems_iff {s : Store} {items : List Layout} :
    HoldsItems s items ↔ ∀ x ∈ items, x.Holds s := by
  induction items with
  | nil => simp [HoldsItems]
  | cons x rest ih => simp [HoldsItems, ih]

theorem holdsFields_iff {s : Store} {fields : List (String × Layout)} :
    HoldsFields s fields ↔ ∀ f ∈ fields, f.2.Holds s := by
  induction fields with
  | nil => simp [HoldsFields]
  | cons f rest ih => simp [HoldsFields, ih]

mutual
/-- A store that agrees on the objects of a layout holds it, too. -/
theorem holds_of_agree {s s' : Store} : ∀ {x : Layout}, x.Holds s →
    (∀ id ∈ x.ids, s'.cell? id = s.cell? id) → x.Holds s'
  | .scalar _, _, _ => trivial
  | .list id items, h, same => by
      refine ⟨(same id (by simp [ids])).trans h.1, holdsItems_of_agree h.2 ?_⟩
      intro i hi
      exact same i (by simp [ids, hi])
  | .record id fields, h, same => by
      refine ⟨(same id (by simp [ids])).trans h.1, holdsFields_of_agree h.2 ?_⟩
      intro i hi
      exact same i (by simp [ids, hi])

theorem holdsItems_of_agree {s s' : Store} : ∀ {items : List Layout}, HoldsItems s items →
    (∀ id ∈ idsItems items, s'.cell? id = s.cell? id) → HoldsItems s' items
  | [], _, _ => trivial
  | x :: rest, h, same =>
      ⟨holds_of_agree h.1 fun i hi => same i (by simp [idsItems, hi]),
        holdsItems_of_agree h.2 fun i hi => same i (by simp [idsItems, hi])⟩

theorem holdsFields_of_agree {s s' : Store} : ∀ {fields : List (String × Layout)},
    HoldsFields s fields → (∀ id ∈ idsFields fields, s'.cell? id = s.cell? id) →
    HoldsFields s' fields
  | [], _, _ => trivial
  | (_, x) :: rest, h, same =>
      ⟨holds_of_agree h.1 fun i hi => same i (by simp [idsFields, hi]),
        holdsFields_of_agree h.2 fun i hi => same i (by simp [idsFields, hi])⟩
end

/-! ### Fields and types -/

theorem fieldOf?_map {α β : Type} (f : String × α → β) (fields : List (String × α))
    (key : String) :
    fieldOf? (fields.map fun p => (p.1, f p)) key =
      (fieldOf? fields key).map fun a => f (key, a) := by
  induction fields with
  | nil => rfl
  | cons p rest ih =>
      rw [List.map_cons, fieldOf?_cons, fieldOf?_cons, ih]
      by_cases hkey : p.1 = key
      · simp [← hkey]
      · simp [hkey]

theorem keys_map {α β : Type} (f : String × α → β) (fields : List (String × α)) :
    (fields.map fun p => (p.1, f p)).map (·.1) = fields.map (·.1) := by
  rw [List.map_map]
  rfl

/-- Two changes of fields leave the same scalars, if they leave the same in each field. -/
theorem fieldOf?_map_scalar {α : Type} {f g : String × α → Tree} {key : String} {value : Scalar}
    (h : ∀ a, f (key, a) = .scalar value ↔ g (key, a) = .scalar value)
    (fields : List (String × α)) :
    fieldOf? (fields.map fun p => (p.1, f p)) key = some (.scalar value) ↔
      fieldOf? (fields.map fun p => (p.1, g p)) key = some (.scalar value) := by
  rw [fieldOf?_map, fieldOf?_map]
  cases fieldOf? fields key with
  | none => rfl
  | some a => simp [h a]

theorem treeItems_eq_map (items : List Layout) : treeItems items = items.map tree := by
  induction items with
  | nil => rfl
  | cons x rest ih => simp [treeItems, ih]

theorem treeItems_append (front back : List Layout) :
    treeItems (front ++ back) = treeItems front ++ treeItems back := by
  simp [treeItems_eq_map]

theorem treeFields_eq_map (fields : List (String × Layout)) :
    treeFields fields = fields.map fun f => (f.1, f.2.tree) := by
  induction fields with
  | nil => rfl
  | cons f rest ih => simp [treeFields, ih]

@[simp] theorem fieldOf?_treeFields (fields : List (String × Layout)) (key : String) :
    fieldOf? (treeFields fields) key = (fieldOf? fields key).map tree := by
  rw [treeFields_eq_map, fieldOf?_map]

@[simp] theorem fieldOf?_fieldRefs (fields : List (String × Layout)) (key : String) :
    fieldOf? (fieldRefs fields) key = (fieldOf? fields key).map ref :=
  fieldOf?_map (fun p : String × Layout => p.2.ref) fields key

/-- Only a scalar looks like one. -/
theorem eq_scalar_of_tree {value : Scalar} : ∀ {y : Layout}, y.tree = .scalar value →
    y = .scalar value
  | .scalar _, h => congrArg Layout.scalar (Tree.scalar.inj h)
  | .list _ _, h => by simp [tree] at h
  | .record _ _, h => by simp [tree] at h

theorem keys_treeFields (fields : List (String × Layout)) :
    (treeFields fields).map (·.1) = fields.map (·.1) := by
  rw [treeFields_eq_map, keys_map]

/-- What is found under a key is one of the fields. -/
theorem mem_of_fieldOf? {α : Type} {fields : List (String × α)} {key : String} {value : α}
    (h : fieldOf? fields key = some value) : (key, value) ∈ fields := by
  obtain ⟨⟨key', value'⟩, hf, rfl⟩ := Option.map_eq_some_iff.mp h
  obtain rfl : key' = key := by simpa using List.find?_some hf
  exact List.mem_of_find?_eq_some hf

/-- Of fields with different keys each is found under its key. -/
theorem fieldOf?_of_mem {α : Type} {f : String × α} : ∀ {fields : List (String × α)},
    (fields.map (·.1)).Nodup → f ∈ fields → fieldOf? fields f.1 = some f.2
  | (key, value) :: rest, hn, hf => by
      obtain ⟨hkey, hn⟩ := List.nodup_cons.mp hn
      rw [fieldOf?_cons]
      rcases List.mem_cons.mp hf with rfl | hf
      · simp
      · have hne : key ≠ f.1 := fun h => hkey (List.mem_map.mpr ⟨f, hf, h.symm⟩)
        rw [if_neg (by simpa using hne), fieldOf?_of_mem hn hf]

/-- The fields of a laid-out record hold their layouts. -/
theorem fieldOf?_refs_of_keyed {id : Nat} {fields : List (String × Layout)}
    (h : (Layout.record id fields).tree.Keyed) :
    ∀ f ∈ fields, fieldOf? (fieldRefs fields) f.1 = some f.2.ref := by
  intro f hf
  have hdiff : (fields.map (·.1)).Nodup := keys_treeFields fields ▸ h.1
  rw [fieldOf?_fieldRefs, fieldOf?_of_mem hdiff hf]
  rfl

/-- What stands in a field of a held record. -/
theorem field?_record {s : Store} {id : Nat} {fields : List (String × Layout)}
    (h : s.cell? id = some (.record (fieldRefs fields))) (key : String) :
    s.field? (.object id) key = (fieldOf? fields key).map ref := by
  rw [Store.field?_record h, fieldOf?_fieldRefs]

/-- The store sees the type of a node as the tree does. -/
theorem nodeType?_of_holds {s : Store} {x : Layout} (h : x.Holds s) :
    s.nodeType? x.ref = x.tree.nodeType? := by
  cases x with
  | scalar value => rfl
  | list id items => simp [ref, tree, Store.nodeType?, Store.field?, Store.fields?, h.1,
      Tree.nodeType?, Tree.field?]
  | record id fields =>
      simp only [Store.nodeType?, Tree.nodeType?, ref, tree, field?_record h.1, Tree.field?,
        fieldOf?_treeFields]
      cases fieldOf? fields "type" with
      | none => rfl
      | some y => cases y with
        | scalar value => cases value <;> rfl
        | list _ _ => rfl
        | record _ _ => rfl

/-- The type of a held node, as a run asks for it. -/
theorem field_type_of_holds {s : Store} {x : Layout} (h : x.Holds s) {type : String}
    (ht : x.tree.nodeType? = some type) : s.field x.ref "type" = .ok (.scalar (.str type)) := by
  cases x with
  | scalar value => simp [tree, Tree.nodeType?, Tree.field?] at ht
  | list id items => simp [tree, Tree.nodeType?, Tree.field?] at ht
  | record id fields =>
      rw [Tree.nodeType?_eq_some, tree, Tree.field?, fieldOf?_treeFields] at ht
      obtain ⟨y, hy, htree⟩ := Option.map_eq_some_iff.mp ht
      have hfield : fieldOf? (fieldRefs fields) "type" = some (.scalar (.str type)) := by
        rw [fieldOf?_fieldRefs, hy]
        cases y <;> simp_all [tree, ref]
      rw [ref, Store.field, h.1]
      dsimp only
      rw [hfield]
      rfl

theorem isNode_of_holds {s : Store} {x : Layout} (h : x.Holds s) : s.isNode x.ref = x.isNode := by
  simp only [Store.isNode, isNode, Tree.isNode, nodeType?_of_holds h]

/-- A leaf is a node of type `text` with text in its field `content`. -/
theorem leafText?_store {s : Store} {ref : Ref} {text : String} :
    s.leafText? ref = some text ↔
      s.nodeType? ref = some "text" ∧ s.field? ref "content" = some (.scalar (.str text)) := by
  unfold Store.leafText?
  split
  · next h₁ h₂ => simp [h₁, h₂]
  · next h => simpa using h text

theorem leafText?_tree {t : Tree} {text : String} :
    t.leafText? = some text ↔
      t.nodeType? = some "text" ∧ t.field? "content" = some (.str text) := by
  unfold Tree.leafText?
  split
  · next h₁ h₂ => simp [h₁, h₂]
  · next h => simpa using h text

/-- Records with the same scalars in their fields are nodes of the same type. -/
theorem nodeType?_congr {t u : Tree}
    (h : ∀ key value, t.field? key = some (.scalar value) ↔ u.field? key = some (.scalar value)) :
    t.nodeType? = u.nodeType? := by
  refine Option.ext ?_
  intro type
  rw [Tree.nodeType?_eq_some, Tree.nodeType?_eq_some]
  exact h "type" (.str type)

/-- Records with the same scalars in their fields are leaves of the same text. -/
theorem leafText?_congr {t u : Tree}
    (h : ∀ key value, t.field? key = some (.scalar value) ↔ u.field? key = some (.scalar value)) :
    t.leafText? = u.leafText? := by
  refine Option.ext ?_
  intro text
  rw [leafText?_tree, leafText?_tree, nodeType?_congr h]
  exact and_congr_right fun _ => h "content" (.str text)

/-- The store sees the text of a leaf as the tree does. -/
theorem leafText?_of_holds {s : Store} {x : Layout} (h : x.Holds s) :
    s.leafText? x.ref = x.tree.leafText? := by
  refine Option.ext ?_
  intro text
  rw [leafText?_store, leafText?_tree, nodeType?_of_holds h]
  refine and_congr_right ?_
  intro _
  cases x with
  | scalar value => simp [ref, tree, Store.field?, Store.fields?, Tree.field?]
  | list id items =>
      simp [ref, tree, Store.field?, Store.fields?, h.1, Tree.field?]
  | record id fields =>
      simp only [ref, tree, field?_record h.1, Tree.field?, fieldOf?_treeFields]
      cases fieldOf? fields "content" with
      | none => simp
      | some y => cases y <;> simp [ref, tree]

/-! ### The numbers of the objects -/

theorem mem_idsItems {i : Nat} {items : List Layout} :
    i ∈ idsItems items ↔ ∃ x ∈ items, i ∈ x.ids := by
  induction items with
  | nil => simp [idsItems]
  | cons x rest ih => simp [idsItems, ih]

theorem mem_idsFields {i : Nat} {fields : List (String × Layout)} :
    i ∈ idsFields fields ↔ ∃ f ∈ fields, i ∈ f.2.ids := by
  induction fields with
  | nil => simp [idsFields]
  | cons f rest ih => simp [idsFields, ih]

/-- The objects of a held layout are in the store. -/
theorem lt_size_of_mem_ids {s : Store} {x : Layout} (h : x.Holds s) :
    ∀ i ∈ x.ids, i < s.cells.size := by
  have lt_size : ∀ {i : Nat} {cell : Cell}, s.cell? i = some cell → i < s.cells.size :=
    fun h => (Array.getElem?_eq_some_iff.mp h).1
  induction x using induct with
  | scalar value => simp [ids]
  | list id items ih =>
      intro i hi
      rcases List.mem_cons.mp hi with rfl | hi
      · exact lt_size h.1
      · obtain ⟨x, hx, hi⟩ := mem_idsItems.mp hi
        exact ih x hx (holdsItems_iff.mp h.2 x hx) i hi
  | record id fields ih =>
      intro i hi
      rcases List.mem_cons.mp hi with rfl | hi
      · exact lt_size h.1
      · obtain ⟨f, hf, hi⟩ := mem_idsFields.mp hi
        exact ih f hf (holdsFields_iff.mp h.2 f hf) i hi

theorem length_ids_le_size {s : Store} {x : Layout} (h : x.Holds s) (hn : x.ids.Nodup) :
    x.ids.length ≤ s.cells.size := by
  have hsub : x.ids ⊆ List.range s.cells.size :=
    fun i hi => List.mem_range.mpr (lt_size_of_mem_ids h i hi)
  simpa using hn.length_le_of_subset hsub

/-! ### Reading a layout back -/

theorem ids_sublist_items {y : Layout} {items : List Layout} (h : y ∈ items) :
    y.ids.Sublist (idsItems items) := by
  induction items with
  | nil => simp at h
  | cons x rest ih =>
      rcases List.mem_cons.mp h with rfl | h
      · exact List.sublist_append_left _ _
      · exact (ih h).trans (List.sublist_append_right _ _)

theorem ids_sublist_fields {f : String × Layout} {fields : List (String × Layout)}
    (h : f ∈ fields) : f.2.ids.Sublist (idsFields fields) := by
  induction fields with
  | nil => simp at h
  | cons g rest ih =>
      rcases List.mem_cons.mp h with rfl | h
      · exact List.sublist_append_left _ _
      · exact (ih h).trans (List.sublist_append_right _ _)

/-- A list takes up a level, and what is left of a depth is enough for its items. -/
theorem depth_list {id depth : Nat} {items : List Layout}
    (h : (Layout.list id items).ids.length ≤ depth) :
    ∃ below, depth = below + 1 ∧ ∀ x ∈ items, x.ids.length ≤ below := by
  rw [ids, List.length_cons] at h
  obtain ⟨below, rfl⟩ := Nat.exists_eq_add_one.mpr (Nat.zero_lt_of_lt h)
  exact ⟨below, rfl, fun x hx =>
    Nat.le_trans (ids_sublist_items hx).length_le (Nat.le_of_succ_le_succ h)⟩

/-- A record takes up a level, and what is left of a depth is enough for its fields. -/
theorem depth_record {id depth : Nat} {fields : List (String × Layout)}
    (h : (Layout.record id fields).ids.length ≤ depth) :
    ∃ below, depth = below + 1 ∧ ∀ f ∈ fields, f.2.ids.length ≤ below := by
  rw [ids, List.length_cons] at h
  obtain ⟨below, rfl⟩ := Nat.exists_eq_add_one.mpr (Nat.zero_lt_of_lt h)
  exact ⟨below, rfl, fun f hf =>
    Nat.le_trans (ids_sublist_fields hf).length_le (Nat.le_of_succ_le_succ h)⟩

/-- As many levels as there are objects show all of a layout. -/
theorem treeWithin_of_holds {s : Store} {x : Layout} (h : x.Holds s) :
    ∀ {depth : Nat}, x.ids.length ≤ depth → s.treeWithin depth x.ref = x.tree := by
  induction x using induct with
  | scalar value => intro depth _; cases depth <;> rfl
  | list id items ih =>
      intro depth hdepth
      obtain ⟨below, rfl, hbelow⟩ := depth_list hdepth
      simp only [ref, Store.treeWithin, h.1, tree, treeItems_eq_map, List.map_map, Tree.list.injEq]
      refine List.map_congr_left ?_
      intro x hx
      exact ih x hx (holdsItems_iff.mp h.2 x hx) (hbelow x hx)
  | record id fields ih =>
      intro depth hdepth
      obtain ⟨below, rfl, hbelow⟩ := depth_record hdepth
      simp only [ref, Store.treeWithin, h.1, tree, treeFields_eq_map, fieldRefs, List.map_map,
        Tree.record.injEq]
      refine List.map_congr_left ?_
      intro f hf
      exact congrArg (Prod.mk f.1) (ih f hf (holdsFields_iff.mp h.2 f hf) (hbelow f hf))

/-- A store shows the tree of a layout that it holds. -/
theorem tree_of_holds {s : Store} {x : Layout} (h : x.Holds s) (hn : x.ids.Nodup) :
    s.tree x.ref = x.tree :=
  treeWithin_of_holds h (length_ids_le_size h hn)

/-- Every way down a layout ends, after as many objects as there are. -/
theorem endsWithin_of_holds {s : Store} {x : Layout} (h : x.Holds s) :
    ∀ {depth : Nat}, x.ids.length ≤ depth → s.endsWithin depth x.ref = true := by
  induction x using induct with
  | scalar value => intro depth _; cases depth <;> rfl
  | list id items ih =>
      intro depth hdepth
      obtain ⟨below, rfl, hbelow⟩ := depth_list hdepth
      simp only [ref, Store.endsWithin, h.1, List.all_map, List.all_eq_true]
      intro x hx
      exact ih x hx (holdsItems_iff.mp h.2 x hx) (hbelow x hx)
  | record id fields ih =>
      intro depth hdepth
      obtain ⟨below, rfl, hbelow⟩ := depth_record hdepth
      simp only [ref, Store.endsWithin, h.1, fieldRefs, List.all_map, List.all_eq_true]
      intro f hf
      exact ih f hf (holdsFields_iff.mp h.2 f hf) (hbelow f hf)

theorem isCircular_of_holds {s : Store} {x : Layout} (h : x.Holds s) (hn : x.ids.Nodup) :
    s.isCircular x.ref = false := by
  rw [Store.isCircular, endsWithin_of_holds h (length_ids_le_size h hn)]
  rfl

/-! ### The parts of a laid-out document -/

theorem keyedItems_iff {items : List Layout} :
    Tree.KeyedItems (treeItems items) ↔ ∀ x ∈ items, x.tree.Keyed := by
  rw [treeItems_eq_map, Tree.keyedItems_iff, List.forall_mem_map]

theorem keyedFields_iff {fields : List (String × Layout)} :
    Tree.KeyedFields (treeFields fields) ↔ ∀ f ∈ fields, f.2.tree.Keyed := by
  rw [treeFields_eq_map, Tree.keyedFields_iff, List.forall_mem_map]

/-! ### The size of a layout -/

/-- The sum of some numbers. -/
def total : List Nat → Nat
  | [] => 0
  | n :: rest => n + total rest

theorem total_append (some more : List Nat) : total (some ++ more) = total some + total more := by
  induction some with
  | nil => simp [total]
  | cons n rest ih => simp only [List.cons_append, total, ih, Nat.add_assoc]

theorem total_map_erase {f : Nat → Nat} {a : Nat} : ∀ {all : List Nat}, a ∈ all →
    total (all.map f) = f a + total ((all.erase a).map f)
  | b :: rest, h => by
      by_cases hb : b = a
      · rw [hb, List.erase_cons_head]
        rfl
      · have ha : a ∈ rest := (List.mem_cons.mp h).resolve_left fun h => hb h.symm
        have ih := total_map_erase (f := f) ha
        rw [List.erase_cons_tail (by simpa using hb), List.map_cons, List.map_cons, total, total]
        omega

/-- Different numbers among some have no larger sum than all. -/
theorem total_map_le_of_subset {f : Nat → Nat} {some all : List Nat} (hn : some.Nodup)
    (hsub : some ⊆ all) : total (some.map f) ≤ total (all.map f) := by
  induction some generalizing all with
  | nil => exact Nat.zero_le _
  | cons a rest ih =>
      obtain ⟨ha, hrest⟩ := List.nodup_cons.mp hn
      have hsub' : rest ⊆ all.erase a := fun i hi =>
        (List.mem_erase_of_ne (ne_of_mem_of_not_mem hi ha)).mpr (hsub (List.mem_cons_of_mem _ hi))
      rw [total_map_erase (hsub List.mem_cons_self)]
      exact Nat.add_le_add_left (ih hrest hsub') (f a)

theorem foldl_eq_total {α : Type} (f : α → Nat) (start : Nat) (xs : List α) :
    xs.foldl (fun n x => n + f x) start = start + total (xs.map f) := by
  induction xs generalizing start with
  | nil => rfl
  | cons x rest ih => rw [List.foldl_cons, ih, List.map_cons, total, Nat.add_assoc]

/-- The number of places of an object; none has no places. -/
def extentAt (s : Store) (id : Nat) : Nat := ((s.cell? id).map Cell.extent).getD 0

theorem extent_store_eq (s : Store) :
    s.extent = total ((List.range s.cells.size).map (extentAt s)) := by
  have hmap : (List.range s.cells.size).map (extentAt s) = s.cells.toList.map Cell.extent := by
    refine List.ext_getElem (by simp) ?_
    intro i h _
    simp only [List.length_map, List.length_range] at h
    simp [extentAt, Store.cell?, h]
  rw [hmap, Store.extent, ← Array.foldl_toList, foldl_eq_total, Nat.zero_add]

theorem extent_of_holds {s : Store} {x : Layout} (h : x.Holds s) :
    x.extent = total (x.ids.map (extentAt s)) := by
  induction x using induct with
  | scalar value => rfl
  | list id items ih =>
      have hitems : extentItems items = total ((idsItems items).map (extentAt s)) := by
        have hall := holdsItems_iff.mp h.2
        clear h
        induction items with
        | nil => rfl
        | cons x rest ihr =>
            simp only [extentItems, idsItems, List.map_append, total_append]
            rw [ih x (by simp) (hall x (by simp)), ihr (fun y hy => ih y (by simp [hy]))
              (fun y hy => hall y (by simp [hy]))]
      simp [extent, ids, total, extentAt, h.1, Cell.extent, hitems]
  | record id fields ih =>
      have hfields : extentFields fields = total ((idsFields fields).map (extentAt s)) := by
        have hall := holdsFields_iff.mp h.2
        clear h
        induction fields with
        | nil => rfl
        | cons f rest ihr =>
            simp only [extentFields, idsFields, List.map_append, total_append]
            rw [ih f (by simp) (hall f (by simp)), ihr (fun g hg => ih g (by simp [hg]))
              (fun g hg => hall g (by simp [hg]))]
      simp [extent, ids, total, extentAt, h.1, Cell.extent, hfields]

/-- A store has at least the places of a layout that it lays out. -/
theorem extent_le_of_lays {s : Store} {x : Layout} (h : s.Lays x) : x.extent ≤ s.extent := by
  rw [extent_of_holds h.holds, extent_store_eq]
  exact total_map_le_of_subset h.unshared fun i hi =>
    List.mem_range.mpr (lt_size_of_mem_ids h.holds i hi)

/-! ### Items one behind the other -/

theorem idsItems_append (front back : List Layout) :
    idsItems (front ++ back) = idsItems front ++ idsItems back := by
  induction front with
  | nil => rfl
  | cons x rest ih => simp [idsItems, ih]

theorem extentItems_append (front back : List Layout) :
    extentItems (front ++ back) = extentItems front + extentItems back := by
  induction front with
  | nil => simp [extentItems]
  | cons x rest ih => simp [extentItems, ih, Nat.add_assoc]

theorem holdsItems_append {s : Store} {front back : List Layout} :
    HoldsItems s (front ++ back) ↔ HoldsItems s front ∧ HoldsItems s back := by
  simp [holdsItems_iff, or_imp, forall_and]

/-! ### How far an allowance goes

A walk takes one off its allowance for every object, item and field that it enters. -/

section

variable {id allowance : Nat} {key : String} {x : Layout} {items : List Layout}
  {fields : List (String × Layout)}

/-- What is enough for a list is enough for its items. -/
theorem allowance_list (h : (Layout.list id items).extent < allowance) :
    ∃ left, allowance = left + 1 ∧ items.length + extentItems items < left := by
  obtain ⟨left, rfl⟩ := Nat.exists_eq_add_one.mpr (Nat.zero_lt_of_lt h)
  rw [extent] at h
  exact ⟨left, rfl, by omega⟩

/-- What is enough for a record is enough for its fields. -/
theorem allowance_record (h : (Layout.record id fields).extent < allowance) :
    ∃ left, allowance = left + 1 ∧ fields.length + extentFields fields < left := by
  obtain ⟨left, rfl⟩ := Nat.exists_eq_add_one.mpr (Nat.zero_lt_of_lt h)
  rw [extent] at h
  exact ⟨left, rfl, by omega⟩

/-- What is enough for some items is enough for the first one, and for the others. -/
theorem allowance_item (h : (x :: items).length + extentItems (x :: items) < allowance) :
    ∃ left, allowance = left + 1 ∧ x.extent < left ∧
      items.length + extentItems items < left := by
  obtain ⟨left, rfl⟩ := Nat.exists_eq_add_one.mpr (Nat.zero_lt_of_lt h)
  rw [List.length_cons, extentItems] at h
  exact ⟨left, rfl, by omega, by omega⟩

/-- What is enough for some fields is enough for the first one, and for the others. -/
theorem allowance_field
    (h : ((key, x) :: fields).length + extentFields ((key, x) :: fields) < allowance) :
    ∃ left, allowance = left + 1 ∧ x.extent < left ∧
      fields.length + extentFields fields < left := by
  obtain ⟨left, rfl⟩ := Nat.exists_eq_add_one.mpr (Nat.zero_lt_of_lt h)
  rw [List.length_cons, extentFields] at h
  exact ⟨left, rfl, by omega, by omega⟩

end

/-! ### Trees added to a store -/

/-- A held layout stays if what is written lies outside of it. -/
theorem Holds.keep {s t : Store} {x : Layout} {written : List Nat} (h : x.Holds s)
    (hk : s.Keeps t written) (hd : ∀ i ∈ x.ids, i ∉ written) : x.Holds t :=
  holds_of_agree h fun i hi => hk.cell? i (lt_size_of_mem_ids h i hi) (hd i hi)

theorem HoldsItems.keep {s t : Store} {items : List Layout} {written : List Nat}
    (h : HoldsItems s items) (hk : s.Keeps t written) (hd : ∀ i ∈ idsItems items, i ∉ written) :
    HoldsItems t items :=
  holdsItems_iff.mpr fun x hx => (holdsItems_iff.mp h x hx).keep hk fun i hi =>
    hd i (mem_idsItems.mpr ⟨x, hx, hi⟩)

theorem HoldsFields.keep {s t : Store} {fields : List (String × Layout)} {written : List Nat}
    (h : HoldsFields s fields) (hk : s.Keeps t written)
    (hd : ∀ i ∈ idsFields fields, i ∉ written) : HoldsFields t fields :=
  holdsFields_iff.mpr fun f hf => (holdsFields_iff.mp h f hf).keep hk fun i hi =>
    hd i (mem_idsFields.mpr ⟨f, hf, hi⟩)

/-- The objects `ids` are different from each other and were not there in `s`. -/
def New (s : Store) (ids : List Nat) : Prop := ids.Nodup ∧ ∀ i ∈ ids, s.cells.size ≤ i

theorem New.sublist {s : Store} {ids some : List Nat} (h : New s ids) (hsub : some.Sublist ids) :
    New s some :=
  ⟨h.1.sublist hsub, fun i hi => h.2 i (hsub.subset hi)⟩

/-- One more object behind new ones is new. -/
theorem New.cons {s t : Store} {ids : List Nat} (h : New s ids)
    (hlt : ∀ i ∈ ids, i < t.cells.size) (hle : s.cells.size ≤ t.cells.size) :
    New s (t.cells.size :: ids) := by
  refine ⟨List.nodup_cons.mpr ⟨?_, h.1⟩, ?_⟩
  · intro hi
    exact Nat.lt_irrefl _ (hlt _ hi)
  · intro i hi
    rcases List.mem_cons.mp hi with rfl | hi
    · exact hle
    · exact h.2 i hi

/-- Objects that are new one after the other are new together. -/
theorem New.append {s t : Store} {ids more : List Nat} (h : New s ids) (h' : New t more)
    (hlt : ∀ i ∈ ids, i < t.cells.size) (hle : s.cells.size ≤ t.cells.size) :
    New s (ids ++ more) := by
  refine ⟨List.nodup_append.mpr ⟨h.1, h'.1, ?_⟩, ?_⟩
  · intro i hi j hj
    have := hlt i hi
    have := h'.2 j hj
    omega
  · intro i hi
    rcases List.mem_append.mp hi with hi | hi
    · exact h.2 i hi
    · exact Nat.le_trans hle (h'.2 i hi)

theorem lt_size_of_mem_idsItems {s : Store} {items : List Layout} (h : HoldsItems s items) :
    ∀ i ∈ idsItems items, i < s.cells.size := by
  intro i hi
  obtain ⟨x, hx, hi⟩ := mem_idsItems.mp hi
  exact lt_size_of_mem_ids (holdsItems_iff.mp h x hx) i hi

theorem lt_size_of_mem_idsFields {s : Store} {fields : List (String × Layout)}
    (h : HoldsFields s fields) : ∀ i ∈ idsFields fields, i < s.cells.size := by
  intro i hi
  obtain ⟨f, hf, hi⟩ := mem_idsFields.mp hi
  exact lt_size_of_mem_ids (holdsFields_iff.mp h f hf) i hi

mutual
/-- Adding a tree lays it out in new objects, and the old ones stay. -/
theorem add_spec : ∀ (t : Tree) (s : Store), ∃ (x : Layout) (u : Store),
    (Store.add t).run s = (x.ref, u) ∧ x.tree = t ∧ s.Keeps u [] ∧ x.Holds u ∧ New s x.ids
  | .scalar value, s =>
      ⟨.scalar value, s, rfl, rfl, Store.Keeps.refl s [], trivial, by simp [New, ids]⟩
  | .list items, s => by
      obtain ⟨xs, u, hrun, htree, hk, hh, hn⟩ := addItems_spec items s
      have hi := Store.keeps_insert u (.list (xs.map ref))
      refine ⟨.list u.cells.size xs, (u.insert (.list (xs.map ref))).2, ?_, ?_, ?_, ?_, ?_⟩
      · simp only [Store.add, StateT.run_bind, hrun]
        rfl
      · rw [tree, htree]
      · exact hk.trans hi
      · exact ⟨Store.cell?_insert u _, hh.keep hi (by simp)⟩
      · exact hn.cons (lt_size_of_mem_idsItems hh) hk.size_le
  | .record fields, s => by
      obtain ⟨fs, u, hrun, htree, hk, hh, hn⟩ := addFields_spec fields s
      have hi := Store.keeps_insert u (.record (fieldRefs fs))
      refine ⟨.record u.cells.size fs, (u.insert (.record (fieldRefs fs))).2, ?_, ?_, ?_, ?_, ?_⟩
      · simp only [Store.add, StateT.run_bind, hrun]
        rfl
      · rw [tree, htree]
      · exact hk.trans hi
      · exact ⟨Store.cell?_insert u _, hh.keep hi (by simp)⟩
      · exact hn.cons (lt_size_of_mem_idsFields hh) hk.size_le

theorem addItems_spec : ∀ (items : List Tree) (s : Store), ∃ (xs : List Layout) (u : Store),
    (Store.addItems items).run s = (xs.map ref, u) ∧ treeItems xs = items ∧ s.Keeps u [] ∧
      HoldsItems u xs ∧ New s (idsItems xs)
  | [], s => ⟨[], s, rfl, rfl, Store.Keeps.refl s [], trivial, by simp [New, idsItems]⟩
  | t :: rest, s => by
      obtain ⟨x, u, hrun, htree, hk, hh, hn⟩ := add_spec t s
      obtain ⟨xs, v, hrun', htree', hk', hh', hn'⟩ := addItems_spec rest u
      refine ⟨x :: xs, v, ?_, ?_, hk.trans hk', ⟨hh.keep hk' (by simp), hh'⟩, ?_⟩
      · rw [Store.addItems, StateT.run_bind, hrun]
        exact congrArg (fun p => (x.ref :: p.1, p.2)) hrun'
      · rw [treeItems, htree, htree']
      · exact hn.append hn' (lt_size_of_mem_ids hh) hk.size_le

theorem addFields_spec : ∀ (fields : List (String × Tree)) (s : Store),
    ∃ (fs : List (String × Layout)) (u : Store),
    (Store.addFields fields).run s = (fieldRefs fs, u) ∧ treeFields fs = fields ∧ s.Keeps u [] ∧
      HoldsFields u fs ∧ New s (idsFields fs)
  | [], s => ⟨[], s, rfl, rfl, Store.Keeps.refl s [], trivial, by simp [New, idsFields]⟩
  | (key, t) :: rest, s => by
      obtain ⟨x, u, hrun, htree, hk, hh, hn⟩ := add_spec t s
      obtain ⟨fs, v, hrun', htree', hk', hh', hn'⟩ := addFields_spec rest u
      refine ⟨(key, x) :: fs, v, ?_, ?_, hk.trans hk', ⟨hh.keep hk' (by simp), hh'⟩, ?_⟩
      · rw [Store.addFields, StateT.run_bind, hrun]
        exact congrArg (fun p => ((key, x.ref) :: p.1, p.2)) hrun'
      · rw [treeFields, htree, htree']
      · exact hn.append hn' (lt_size_of_mem_ids hh) hk.size_le
end

/-- Adding a tree whose records have different keys lays it out. -/
theorem lays_add (t : Tree) (s : Store) (h : t.Keyed) : ∃ (x : Layout) (u : Store),
    (Store.add t).run s = (x.ref, u) ∧ x.tree = t ∧ u.Lays x := by
  obtain ⟨x, u, hrun, htree, -, hh, hn⟩ := add_spec t s
  exact ⟨x, u, hrun, htree, hh, hn.1, htree ▸ h⟩

end Layout

/-- A document with two paragraphs. -/
def twoParagraphs : Layout :=
  .record 0 [("type", .scalar (.str "doc")), ("children", .list 1
    [.record 2 [("type", .scalar (.str "p"))], .record 3 [("type", .scalar (.str "p"))]])]

/-- A store that holds `twoParagraphs`. -/
def twoParagraphsStore : Store :=
  ⟨#[.record [("type", .scalar (.str "doc")), ("children", .object 1)],
    .list [.object 2, .object 3],
    .record [("type", .scalar (.str "p"))],
    .record [("type", .scalar (.str "p"))]]⟩

theorem lays_twoParagraphs : twoParagraphsStore.Lays twoParagraphs := by
  refine ⟨?_, by decide, ?_⟩
  · simp [twoParagraphs, Layout.Holds, Layout.HoldsFields, Layout.HoldsItems, twoParagraphsStore,
      Store.cell?, Layout.fieldRefs, Layout.ref]
  · simp [twoParagraphs, Layout.tree, Layout.treeItems, Layout.treeFields, Tree.Keyed,
      Tree.KeyedItems, Tree.KeyedFields]

end DocLint
