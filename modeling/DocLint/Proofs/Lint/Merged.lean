import DocLint.Proofs.Cursor.Edit
import DocLint.Proofs.Walk.Visits
import Mathlib.Data.List.SplitBy
import Mathlib.Data.List.TakeWhile

/-!
# DocLint.Proofs.Lint.Merged

**The merged document.** The items of a list fall into runs of text leaves and other items
that stand alone. `Layout.merged` puts in the place of each run its first leaf, with the
text of the whole run (`mergeRuns`); this is what is meant by merging, and it says which
objects are left. What is known of a list of runs is shown run by run (`runs_induct`).

`Tree.merged` is a recursion that looks no further than the next item: each item is put in
front of what the items behind it have become, and a leaf takes up the leaf that it then
finds behind itself (`Tree.attach`). The two agree (`tree_merged`).
-/

namespace DocLint

namespace Tree

/-- The leaf with another text. -/
def withText (text : String) : Tree → Tree
  | .record fields => .record (putField fields "content" (.str text))
  | t => t

/-- Put a tree in front of others; a text leaf takes up a leaf right behind it. -/
def attach (t : Tree) : List Tree → List Tree
  | [] => [t]
  | u :: rest =>
    match t.leafText?, u.leafText? with
    | some text, some more => t.withText (text ++ more) :: rest
    | _, _ => t :: u :: rest

/-- The texts of a run, one after the other. -/
def runText (run : List Tree) : String := String.join (run.map fun t => t.leafText?.getD "")

mutual
/-- The tree with every run of text leaves merged into its first leaf. -/
def merged : Tree → Tree
  | .scalar value => .scalar value
  | .list items => .list (mergedItems items)
  | .record fields => .record (mergedFields fields)

/-- The items of a list, merged. -/
def mergedItems : List Tree → List Tree
  | [] => []
  | t :: rest => t.merged.attach (mergedItems rest)

/-- The fields of a record, merged inside; the type stays. -/
def mergedFields : List (String × Tree) → List (String × Tree)
  | [] => []
  | (key, t) :: rest => (key, if key = "type" then t else t.merged) :: mergedFields rest
end

mutual
/-- Text leaves have scalars in all of their fields. -/
def Bare : Tree → Prop
  | .scalar _ => True
  | .list items => BareItems items
  | .record fields =>
    ((Tree.record fields).isTextLeaf = true → ∀ f ∈ fields, ∃ value, f.2 = .scalar value) ∧
      BareFields fields

/-- `Bare` for each item of a list. -/
def BareItems : List Tree → Prop
  | [] => True
  | t :: rest => t.Bare ∧ BareItems rest

/-- `Bare` for each field of a record. -/
def BareFields : List (String × Tree) → Prop
  | [] => True
  | (_, t) :: rest => t.Bare ∧ BareFields rest
end

theorem bareItems_iff {items : List Tree} : BareItems items ↔ ∀ t ∈ items, t.Bare := by
  induction items with
  | nil => simp [BareItems]
  | cons t rest ih => simp [BareItems, ih]

theorem bareFields_iff {fields : List (String × Tree)} :
    BareFields fields ↔ ∀ f ∈ fields, f.2.Bare := by
  induction fields with
  | nil => simp [BareFields]
  | cons f rest ih => simp [BareFields, ih]

theorem bareItems_append {front back : List Tree} :
    BareItems (front ++ back) ↔ BareItems front ∧ BareItems back := by
  simp [bareItems_iff, or_imp, forall_and]

/-! ### Leaves and what they take up -/

variable {t u : Tree} {text more : String} {rest : List Tree}

theorem mergedFields_eq_map (fields : List (String × Tree)) :
    mergedFields fields = fields.map fun f => (f.1, if f.1 = "type" then f.2 else f.2.merged) := by
  induction fields with
  | nil => rfl
  | cons f rest ih => exact congrArg (_ :: ·) ih

/-- The scalars in the fields are as they were. -/
theorem field?_merged (t : Tree) (key : String) (value : Scalar) :
    t.merged.field? key = some (.scalar value) ↔ t.field? key = some (.scalar value) := by
  cases t with
  | scalar old => rfl
  | list items => rfl
  | record fields =>
      rw [merged, field?, field?, mergedFields_eq_map, Layout.fieldOf?_map]
      cases fieldOf? fields key with
      | none => rfl
      | some u =>
          by_cases htype : key = "type"
          · rw [Option.map_some, if_pos htype]
          · rw [Option.map_some, if_neg htype]
            cases u <;> simp [merged]

theorem leafText?_merged (t : Tree) : t.merged.leafText? = t.leafText? :=
  Layout.leafText?_congr (field?_merged t)

theorem attach_of_not_leaf (h : t.leafText? = none) (rest : List Tree) :
    t.attach rest = t :: rest := by
  cases rest with
  | nil => rfl
  | cons u rest => rw [attach, h]

theorem attach_leaf (ht : t.leafText? = some text) (hu : u.leafText? = some more)
    (rest : List Tree) : t.attach (u :: rest) = t.withText (text ++ more) :: rest := by
  rw [attach, ht, hu]

theorem attach_before_other (hu : u.leafText? = none) (t : Tree) (rest : List Tree) :
    t.attach (u :: rest) = t :: u :: rest := by
  rw [attach, hu]
  cases t.leafText? <;> rfl

theorem putField_putField {α : Type} (key : String) (old new : α) (fields : List (String × α)) :
    putField (putField fields key old) key new = putField fields key new := by
  induction fields with
  | nil => simp [putField]
  | cons f rest ih =>
      by_cases hkey : f.1 = key
      · simp [putField, hkey]
      · simp [putField, hkey, ih]

theorem withText_withText (t : Tree) (old new : String) :
    (t.withText old).withText new = t.withText new := by
  cases t with
  | scalar value => rfl
  | list items => rfl
  | record fields => exact congrArg Tree.record (putField_putField _ _ _ fields)

theorem leafText?_withText (h : t.leafText? = some text) (new : String) :
    (t.withText new).leafText? = some new := by
  obtain ⟨htype, hcontent⟩ := Layout.leafText?_tree.mp h
  cases t with
  | scalar value => simp [field?] at hcontent
  | list items => simp [field?] at hcontent
  | record fields =>
      rw [nodeType?_eq_some, field?] at htype
      rw [Layout.leafText?_tree, nodeType?_eq_some, withText, field?, field?,
        fieldOf?_putField_of_ne _ (by decide), fieldOf?_putField_self]
      exact ⟨htype, rfl⟩

theorem putField_self {α : Type} {key : String} {value : α} {fields : List (String × α)}
    (h : fieldOf? fields key = some value) : putField fields key value = fields := by
  induction fields with
  | nil => cases h
  | cons f rest ih =>
      rw [fieldOf?_cons] at h
      by_cases hkey : f.1 = key
      · rw [if_pos (by simpa using hkey)] at h
        simp [putField, ← hkey, ← Option.some.inj h]
      · rw [if_neg (by simpa using hkey)] at h
        simp [putField, hkey, ih h]

/-- Its own text changes nothing in a leaf. -/
theorem withText_self (h : t.leafText? = some text) : t.withText text = t := by
  obtain ⟨-, hcontent⟩ := Layout.leafText?_tree.mp h
  cases t with
  | scalar value => rfl
  | list items => rfl
  | record fields => exact congrArg Tree.record (putField_self hcontent)

/-- Two leaves one after the other take up what is behind them as one leaf does. -/
theorem attach_attach (ht : t.leafText? = some text) (hu : u.leafText? = some more)
    (rest : List Tree) : t.attach (u.attach rest) = (t.withText (text ++ more)).attach rest := by
  cases rest with
  | nil => exact attach_leaf ht hu []
  | cons v rest =>
      cases hv : v.leafText? with
      | none =>
          rw [attach_before_other hv, attach_leaf ht hu, attach_before_other hv]
      | some last =>
          have hone := leafText?_withText hu (more ++ last)
          have hboth := leafText?_withText ht (text ++ more)
          rw [attach_leaf hu hv, attach_leaf ht hone, attach_leaf hboth hv, withText_withText,
            String.append_assoc]

theorem runText_cons (ht : t.leafText? = some text) (run : List Tree) :
    runText (t :: run) = text ++ runText run := by
  rw [runText, List.map_cons, String.join_cons, ht]
  rfl

/-- A run of leaves in front of others. -/
theorem attach_run (ht : t.leafText? = some text) {run : List Tree}
    (hrun : ∀ u ∈ run, u.isTextLeaf = true) (hrest : ∀ u ∈ rest.head?, u.isTextLeaf = false) :
    t.attach (run.foldr attach rest) =
      t.withText (runText (t :: run)) :: rest := by
  induction run generalizing t text with
  | nil =>
      have hown : runText [t] = text := by
        rw [runText_cons ht]
        exact String.append_empty
      rw [List.foldr_nil, hown, withText_self ht]
      cases rest with
      | nil => rfl
      | cons u rest =>
          have hu : u.isTextLeaf = false := hrest u rfl
          exact attach_before_other (by simpa [isTextLeaf] using hu) t rest
  | cons u run ih =>
      obtain ⟨hu, hmore⟩ := List.forall_mem_cons.mp hrun
      obtain ⟨more, hu⟩ := Option.isSome_iff_exists.mp hu
      rw [List.foldr_cons, ih hu hmore, attach_leaf ht (leafText?_withText hu _), runText_cons ht]

theorem mergedItems_eq_foldr (items : List Tree) :
    mergedItems items = (items.map merged).foldr attach [] := by
  induction items with
  | nil => rfl
  | cons t rest ih => rw [mergedItems, ih, List.map_cons, List.foldr_cons]

end Tree

namespace Layout

/-! ### Leaves in a store -/

theorem bareItems_iff {items : List Layout} :
    Tree.BareItems (treeItems items) ↔ ∀ x ∈ items, x.tree.Bare := by
  rw [treeItems_eq_map, Tree.bareItems_iff, List.forall_mem_map]

theorem bareFields_iff {fields : List (String × Layout)} :
    Tree.BareFields (treeFields fields) ↔ ∀ f ∈ fields, f.2.tree.Bare := by
  rw [treeFields_eq_map, Tree.bareFields_iff, List.forall_mem_map]

/-- All of the fields hold scalars. -/
def Flat (fields : List (String × Layout)) : Prop := ∀ f ∈ fields, ∃ value, f.2 = .scalar value

variable {fields : List (String × Layout)} {s : Store}

theorem putField_map {α β : Type} (f : α → β) (key : String) (value : α)
    (fields : List (String × α)) :
    putField (fields.map fun p => (p.1, f p.2)) key (f value) =
      (putField fields key value).map fun p => (p.1, f p.2) := by
  induction fields with
  | nil => rfl
  | cons p rest ih =>
      by_cases hkey : p.1 = key
      · simp [putField, hkey]
      · simp [putField, hkey, ih]

theorem fieldRefs_putField (fields : List (String × Layout)) (key : String) (x : Layout) :
    fieldRefs (putField fields key x) = putField (fieldRefs fields) key x.ref :=
  (putField_map ref key x fields).symm

theorem treeFields_putField (fields : List (String × Layout)) (key : String) (x : Layout) :
    treeFields (putField fields key x) = putField (treeFields fields) key x.tree := by
  rw [treeFields_eq_map, treeFields_eq_map]
  exact (putField_map tree key x fields).symm

/-- The text of a leaf is in its field. -/
theorem fieldOf?_content_of_leaf {id : Nat} {text : String}
    (h : (Layout.record id fields).tree.leafText? = some text) :
    fieldOf? fields "content" = some (.scalar (.str text)) := by
  obtain ⟨-, hcontent⟩ := leafText?_tree.mp h
  rw [tree, Tree.field?, fieldOf?_treeFields] at hcontent
  obtain ⟨y, hy, htree⟩ := Option.map_eq_some_iff.mp hcontent
  rw [hy, eq_scalar_of_tree htree]

/-- Flat fields are scalars, one behind the other. -/
@[elab_as_elim]
theorem Flat.induct {motive : (fields : List (String × Layout)) → Flat fields → Prop}
    (nil : motive [] (List.forall_mem_nil _))
    (cons : ∀ {key : String} {value : Scalar} {rest : List (String × Layout)} (hrest : Flat rest),
      motive rest hrest →
        motive ((key, .scalar value) :: rest) (List.forall_mem_cons.mpr ⟨⟨value, rfl⟩, hrest⟩))
    {fields : List (String × Layout)} (h : Flat fields) : motive fields h := by
  induction fields with
  | nil => exact nil
  | cons f rest ih =>
      obtain ⟨⟨value, hvalue⟩, hrest⟩ := List.forall_mem_cons.mp h
      obtain ⟨key, x⟩ := f
      obtain rfl : x = .scalar value := hvalue
      exact cons hrest (ih hrest)

theorem Flat.holds (h : Flat fields) (s : Store) : HoldsFields s fields := by
  refine holdsFields_iff.mpr ?_
  intro f hf
  obtain ⟨value, hvalue⟩ := h f hf
  rw [hvalue]
  trivial

theorem Flat.ids (h : Flat fields) : idsFields fields = [] := by
  refine List.eq_nil_iff_forall_not_mem.mpr ?_
  intro i hi
  obtain ⟨f, hf, hi⟩ := mem_idsFields.mp hi
  obtain ⟨value, hvalue⟩ := h f hf
  rw [hvalue] at hi
  cases hi

theorem Flat.putField (h : Flat fields) (key : String) (value : Scalar) :
    Flat (putField fields key (.scalar value)) := by
  induction fields with
  | nil =>
      intro f hf
      obtain rfl := List.mem_singleton.mp hf
      exact ⟨value, rfl⟩
  | cons f rest ih =>
      obtain ⟨hfirst, hrest⟩ := List.forall_mem_cons.mp h
      rw [DocLint.putField]
      by_cases hkey : f.1 = key
      · rw [if_pos (by simpa using hkey)]
        exact List.forall_mem_cons.mpr ⟨⟨value, rfl⟩, hrest⟩
      · rw [if_neg (by simpa using hkey)]
        exact List.forall_mem_cons.mpr ⟨hfirst, ih hrest⟩

theorem textFields_flat (hflat : Flat fields) : textFields fields = "" := by
  induction hflat using Flat.induct with
  | nil => rfl
  | cons _ ih =>
      rw [textFields, ih, text, ite_self]
      rfl

/-- The text of a flat leaf is its content. -/
theorem text_of_leaf {id : Nat} {content : String} (hflat : Flat fields)
    (htext : (Layout.record id fields).tree.leafText? = some content) :
    (Layout.record id fields).text = content := by
  rw [tree] at htext
  rw [text, ownText, htext, textFields_flat hflat]
  exact String.append_empty

/-- A leaf with nothing inside is a record. -/
theorem record_of_leaf {x : Layout} {text : String} (htext : x.tree.leafText? = some text)
    (hbare : x.tree.Bare) :
    ∃ n fields, x = .record n fields ∧ Flat fields := by
  cases x with
  | scalar value => simp [tree, Tree.leafText?, Tree.nodeType?, Tree.field?] at htext
  | list id items => simp [tree, Tree.leafText?, Tree.nodeType?, Tree.field?] at htext
  | record n fields =>
      refine ⟨n, fields, rfl, ?_⟩
      intro f hf
      have hscalars := hbare.1 (congrArg Option.isSome htext)
      rw [treeFields_eq_map] at hscalars
      obtain ⟨value, hvalue⟩ := hscalars _ (List.mem_map_of_mem hf)
      exact ⟨value, eq_scalar_of_tree hvalue⟩

/-! ### Runs of leaves -/

/-- The leaf with another text. -/
def withText (text : String) : Layout → Layout
  | .record id fields => .record id (putField fields "content" (.scalar (.str text)))
  | x => x

/-- Are both of them text leaves? -/
def bothLeaves (x y : Layout) : Bool := x.tree.isTextLeaf && y.tree.isTextLeaf

/-- What is left of a run: the first leaf, with all of the text. -/
def leader : List Layout → List Layout
  | [] => []
  | x :: rest =>
    if x.tree.isTextLeaf then [x.withText (Tree.runText (treeItems (x :: rest)))] else x :: rest

/-- The items of a list with every run of leaves merged. -/
def mergeRuns (items : List Layout) : List Layout := (items.splitBy bothLeaves).flatMap leader

mutual
/-- The layout with every run of text leaves merged into its first leaf. -/
def merged : Layout → Layout
  | .scalar value => .scalar value
  | .list id items => .list id (mergeRuns (mergedParts items))
  | .record id fields => .record id (mergedFields fields)

/-- The items of a list, merged inside. -/
def mergedParts : List Layout → List Layout
  | [] => []
  | x :: rest => x.merged :: mergedParts rest

/-- The fields of a record, merged inside; the type stays. -/
def mergedFields : List (String × Layout) → List (String × Layout)
  | [] => []
  | (key, x) :: rest => (key, if key = "type" then x else x.merged) :: mergedFields rest
end

variable {x : Layout} {text : String} {run rest items : List Layout}

theorem mergeRuns_other (hx : x.tree.isTextLeaf = false) (rest : List Layout) :
    mergeRuns (x :: rest) = x :: mergeRuns rest := by
  have hsplit : (x :: rest).splitBy bothLeaves = [x] :: rest.splitBy bothLeaves := by
    refine List.splitBy_append (l := [x]) ?_
    intro y hy z _
    obtain rfl : x = y := by simpa using hy
    rw [bothLeaves, hx, Bool.false_and]
  rw [mergeRuns, hsplit, List.flatMap_cons, leader, if_neg (by simp [hx])]
  rfl

theorem mergeRuns_run (hrun : ∀ y ∈ x :: run, y.tree.isTextLeaf = true)
    (hrest : ∀ y ∈ rest.head?, y.tree.isTextLeaf = false) :
    mergeRuns (x :: run ++ rest) =
      x.withText (Tree.runText (treeItems (x :: run))) :: mergeRuns rest := by
  have hchain : (x :: run).IsChain fun y z => bothLeaves y z = true := by
    refine (List.pairwise_of_forall_mem_list ?_).isChain
    intro y hy z hz
    rw [bothLeaves, hrun y hy, hrun z hz]
    rfl
  have hsplit : (x :: run ++ rest).splitBy bothLeaves =
      (x :: run) :: rest.splitBy bothLeaves := by
    rw [List.splitBy_append, List.splitBy_of_isChain (List.cons_ne_nil x run) hchain]
    · rfl
    · intro y _ z hz
      rw [bothLeaves, hrest z hz, Bool.and_false]
  rw [mergeRuns, hsplit, List.flatMap_cons, leader, if_pos (hrun x List.mem_cons_self)]
  rfl

/-- Leaves, and then items that do not begin with one. -/
theorem exists_run (items : List Layout) : ∃ run rest, items = run ++ rest ∧
    (∀ y ∈ run, y.tree.isTextLeaf = true) ∧ ∀ y ∈ rest.head?, y.tree.isTextLeaf = false := by
  induction items with
  | nil => exact ⟨[], [], rfl, by simp, by simp⟩
  | cons x items ih =>
      cases hx : x.tree.isTextLeaf with
      | false => exact ⟨[], x :: items, rfl, by simp, by simp [hx]⟩
      | true =>
          obtain ⟨run, rest, rfl, hrun, hrest⟩ := ih
          exact ⟨x :: run, rest, rfl, List.forall_mem_cons.mpr ⟨hx, hrun⟩, hrest⟩

/-- Induction over the runs of a list. -/
theorem runs_induct {motive : List Layout → Prop} (nil : motive [])
    (other : ∀ x rest, x.tree.isTextLeaf = false → motive rest → motive (x :: rest))
    (run : ∀ x run rest, (∀ y ∈ x :: run, y.tree.isTextLeaf = true) →
      (∀ y ∈ rest.head?, y.tree.isTextLeaf = false) → motive rest → motive (x :: run ++ rest))
    (items : List Layout) : motive items := by
  induction hsize : items.length using Nat.strongRecOn generalizing items with
  | ind size ih =>
      cases items with
      | nil => exact nil
      | cons x items =>
          rw [List.length_cons] at hsize
          cases hx : x.tree.isTextLeaf with
          | false => exact other x items hx (ih items.length (by omega) items rfl)
          | true =>
              obtain ⟨more, rest, rfl, hmore, hrest⟩ := exists_run items
              rw [List.length_append] at hsize
              exact run x more rest (List.forall_mem_cons.mpr ⟨hx, hmore⟩) hrest
                (ih rest.length (by omega) rest rfl)

/-! ### The tree of the merged layout -/

theorem tree_withText (text : String) (x : Layout) :
    (x.withText text).tree = x.tree.withText text := by
  cases x with
  | scalar value => rfl
  | list id items => rfl
  | record id fields => exact congrArg Tree.record (treeFields_putField fields _ _)

theorem treeItems_mergeRuns (items : List Layout) :
    treeItems (mergeRuns items) = (treeItems items).foldr Tree.attach [] := by
  induction items using runs_induct with
  | nil => rfl
  | other x rest hx ih =>
      rw [mergeRuns_other hx, treeItems, treeItems, ih, List.foldr_cons,
        Tree.attach_of_not_leaf (by simpa [Tree.isTextLeaf] using hx)]
  | run x run rest hrun hrest ih =>
      obtain ⟨hx, hmore⟩ := List.forall_mem_cons.mp hrun
      obtain ⟨text, hx⟩ := Option.isSome_iff_exists.mp hx
      have htrees : ∀ u ∈ treeItems run, u.isTextLeaf = true := by
        intro u hu
        rw [treeItems_eq_map] at hu
        obtain ⟨y, hy, rfl⟩ := List.mem_map.mp hu
        exact hmore y hy
      have hother : ∀ u ∈ ((treeItems rest).foldr Tree.attach []).head?, u.isTextLeaf = false := by
        intro u hu
        cases rest with
        | nil => cases hu
        | cons y rest =>
            have hy : y.tree.isTextLeaf = false := hrest y rfl
            rw [treeItems, List.foldr_cons,
              Tree.attach_of_not_leaf (by simpa [Tree.isTextLeaf] using hy)] at hu
            exact Option.some.inj hu ▸ hy
      rw [mergeRuns_run hrun hrest, treeItems, ih, tree_withText, treeItems,
        ← Tree.attach_run hx htrees hother, treeItems_append, treeItems, List.cons_append,
        List.foldr_cons, List.foldr_append]

mutual
/-- **The two agree.** -/
theorem tree_merged : ∀ x : Layout, x.merged.tree = x.tree.merged
  | .scalar _ => rfl
  | .list _ items => by
      rw [merged, tree, tree, Tree.merged, treeItems_mergeRuns, treeItems_mergedParts items,
        Tree.mergedItems_eq_foldr]
  | .record _ fields => congrArg Tree.record (treeFields_merged fields)

theorem treeItems_mergedParts : ∀ items : List Layout,
    treeItems (mergedParts items) = (treeItems items).map Tree.merged
  | [] => rfl
  | x :: rest => congrArg₂ List.cons (tree_merged x) (treeItems_mergedParts rest)

theorem treeFields_merged : ∀ fields : List (String × Layout),
    treeFields (mergedFields fields) = Tree.mergedFields (treeFields fields)
  | [] => rfl
  | (key, x) :: rest => by
      rw [mergedFields, treeFields, treeFields, Tree.mergedFields, treeFields_merged rest,
        apply_ite tree, tree_merged x]
end

theorem leafText?_merged (x : Layout) : x.merged.tree.leafText? = x.tree.leafText? := by
  rw [tree_merged, Tree.leafText?_merged]

theorem isTextLeaf_merged (x : Layout) : x.merged.tree.isTextLeaf = x.tree.isTextLeaf :=
  congrArg Option.isSome (leafText?_merged x)

theorem mergedParts_eq_map (items : List Layout) : mergedParts items = items.map merged := by
  induction items with
  | nil => rfl
  | cons x rest ih => rw [mergedParts, ih, List.map_cons]

theorem mergedFields_eq_map (fields : List (String × Layout)) :
    mergedFields fields =
      fields.map fun f => (f.1, if f.1 = "type" then f.2 else f.2.merged) := by
  induction fields with
  | nil => rfl
  | cons f rest ih => rw [mergedFields, ih, List.map_cons]

/-- An item that is no leaf, after the items have been merged inside. -/
theorem mergeRuns_parts_other (hx : x.tree.isTextLeaf = false) (rest : List Layout) :
    mergeRuns (mergedParts (x :: rest)) = x.merged :: mergeRuns (mergedParts rest) :=
  mergeRuns_other ((isTextLeaf_merged x).trans hx) (mergedParts rest)

/-- A run of leaves, after the items have been merged inside. -/
theorem mergeRuns_parts_run (hrun : ∀ y ∈ x :: run, y.tree.isTextLeaf = true)
    (hrest : ∀ y ∈ rest.head?, y.tree.isTextLeaf = false) :
    mergeRuns (mergedParts (x :: run ++ rest)) =
      x.merged.withText (Tree.runText (treeItems (x :: run))) :: mergeRuns (mergedParts rest) := by
  have hleaves : ∀ y ∈ x.merged :: run.map merged, y.tree.isTextLeaf = true := by
    rw [← List.map_cons]
    intro y hy
    obtain ⟨z, hz, rfl⟩ := List.mem_map.mp hy
    rw [isTextLeaf_merged, hrun z hz]
  have hother : ∀ y ∈ (rest.map merged).head?, y.tree.isTextLeaf = false := by
    rw [List.head?_map]
    intro y hy
    obtain ⟨z, hz, rfl⟩ := Option.map_eq_some_iff.mp hy
    rw [isTextLeaf_merged, hrest z hz]
  have htexts : Tree.runText (treeItems (x.merged :: run.map merged)) =
      Tree.runText (treeItems (x :: run)) := by
    rw [Tree.runText, Tree.runText, treeItems_eq_map, treeItems_eq_map, ← List.map_cons,
      List.map_map, List.map_map, List.map_map]
    refine congrArg String.join (List.map_congr_left ?_)
    intro y _
    show (y.merged.tree.leafText?).getD "" = (y.tree.leafText?).getD ""
    rw [leafText?_merged]
  rw [mergedParts_eq_map, mergedParts_eq_map, List.map_append, List.map_cons,
    mergeRuns_run hleaves hother, htexts]

theorem Flat.merged {fields : List (String × Layout)} (h : Flat fields) :
    mergedFields fields = fields := by
  induction h using Flat.induct with
  | nil => rfl
  | cons _ ih =>
      rw [mergedFields, ih]
      exact congrArg (· :: _) (congrArg (Prod.mk _) (ite_self _))

/-! ### The objects that are left -/

theorem ref_merged (x : Layout) : x.merged.ref = x.ref := by
  cases x <;> rfl

theorem idsFields_putField (fields : List (String × Layout)) (key : String) (value : Scalar) :
    (idsFields (putField fields key (.scalar value))).Sublist (idsFields fields) := by
  induction fields with
  | nil => exact List.Sublist.refl _
  | cons f rest ih =>
      rw [putField]
      split
      · exact List.sublist_append_right _ _
      · exact (List.Sublist.refl _).append ih

theorem ids_withText (text : String) (x : Layout) : (x.withText text).ids.Sublist x.ids := by
  cases x with
  | scalar value => exact List.Sublist.refl _
  | list id items => exact List.Sublist.refl _
  | record id fields => exact (idsFields_putField fields _ _).cons_cons id

theorem ids_mergeRuns (items : List Layout) :
    (idsItems (mergeRuns items)).Sublist (idsItems items) := by
  induction items using runs_induct with
  | nil => exact List.Sublist.refl _
  | other x rest hx ih =>
      rw [mergeRuns_other hx]
      exact (List.Sublist.refl _).append ih
  | run x run rest hrun hrest ih =>
      rw [mergeRuns_run hrun hrest, idsItems_append]
      exact ((ids_withText _ x).trans (List.sublist_append_left _ _)).append ih

mutual
theorem ids_merged : ∀ x : Layout, x.merged.ids.Sublist x.ids
  | .scalar _ => List.Sublist.refl _
  | .list id items => ((ids_mergeRuns _).trans (ids_mergedParts items)).cons_cons id
  | .record id fields => (ids_mergedFields fields).cons_cons id

theorem ids_mergedParts : ∀ items : List Layout,
    (idsItems (mergedParts items)).Sublist (idsItems items)
  | [] => List.Sublist.refl _
  | x :: rest => (ids_merged x).append (ids_mergedParts rest)

theorem ids_mergedFields : ∀ fields : List (String × Layout),
    (idsFields (mergedFields fields)).Sublist (idsFields fields)
  | [] => List.Sublist.refl _
  | (key, x) :: rest => by
      refine List.Sublist.append ?_ (ids_mergedFields rest)
      split
      · exact List.Sublist.refl _
      · exact ids_merged x
end

end Layout

end DocLint
