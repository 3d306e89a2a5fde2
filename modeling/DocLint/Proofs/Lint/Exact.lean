import DocLint.Proofs.Lint.Content
import DocLint.Proofs.Lint.Merge

/-!
# DocLint.Proofs.Lint.Exact

**Merging text leaves is exact** (`mergeText_exact`). It leaves the merged layout, in which
each run of leaves has become its first leaf, and nothing else is different: the other
items stay in their order (`others_mergeRuns`), the text of the document stays
(`text_merged`), and so do all objects of the store that are not in the document.

In the merged document no two leaves stand next to each other (`parted_merged`), and where
that is so there is nothing to merge (`merged_of_parted`). As the store then has to hold
what it holds already, a second time leaves the very same store (`Fused.still`).
-/

namespace DocLint

namespace Tree

/-- Of two items next to each other, not both are text leaves. -/
def Apart (t u : Tree) : Prop := t.isTextLeaf = true → u.isTextLeaf = false

mutual
/-- In the lists that a walk comes to, no two text leaves stand next to each other. -/
def Parted : Tree → Prop
  | .scalar _ => True
  | .list items => items.IsChain Apart ∧ PartedItems items
  | .record fields => PartedFields fields

/-- `Parted` for each item of a list. -/
def PartedItems : List Tree → Prop
  | [] => True
  | t :: rest => t.Parted ∧ PartedItems rest

/-- `Parted` for each field of a record that a walk comes to. -/
def PartedFields : List (String × Tree) → Prop
  | [] => True
  | (key, t) :: rest => (key ≠ "type" → t.Parted) ∧ PartedFields rest
end

end Tree

namespace Layout

variable {x y : Layout} {text : String} {items : List Layout} {fields : List (String × Layout)}

theorem partedItems_iff : Tree.PartedItems (treeItems items) ↔ ∀ x ∈ items, x.tree.Parted := by
  induction items with
  | nil => simp [treeItems, Tree.PartedItems]
  | cons x rest ih => simp [treeItems, Tree.PartedItems, ih]

theorem partedFields_iff : Tree.PartedFields (treeFields fields) ↔
    ∀ f ∈ fields, f.1 ≠ "type" → f.2.tree.Parted := by
  induction fields with
  | nil => simp [treeFields, Tree.PartedFields]
  | cons f rest ih => simp [treeFields, Tree.PartedFields, ih]

/-! ### Leaves with another text -/

theorem Flat.bare (h : Flat fields) (id : Nat) : (Layout.record id fields).tree.Bare := by
  refine ⟨?_, bareFields_iff.mpr ?_⟩
  · intro _ f hf
    rw [treeFields_eq_map] at hf
    obtain ⟨g, hg, rfl⟩ := List.mem_map.mp hf
    obtain ⟨value, hvalue⟩ := h g hg
    exact ⟨value, congrArg tree hvalue⟩
  · intro f hf
    obtain ⟨value, hvalue⟩ := h f hf
    rw [hvalue]
    trivial

theorem Flat.parted (h : Flat fields) (id : Nat) : (Layout.record id fields).tree.Parted := by
  refine partedFields_iff.mpr ?_
  intro f hf _
  obtain ⟨value, hvalue⟩ := h f hf
  rw [hvalue]
  trivial

theorem Flat.keyed (h : Flat fields) (id : Nat) (hkeys : (fields.map (·.1)).Nodup) :
    (Layout.record id fields).tree.Keyed := by
  refine ⟨keys_treeFields fields ▸ hkeys, keyedFields_iff.mpr ?_⟩
  intro f hf
  obtain ⟨value, hvalue⟩ := h f hf
  rw [hvalue]
  trivial

theorem keys_putField {α : Type} {key : String} {value : α} {fields : List (String × α)}
    (h : (fieldOf? fields key).isSome = true) :
    (putField fields key value).map (·.1) = fields.map (·.1) := by
  induction fields with
  | nil => cases h
  | cons f rest ih =>
      rw [fieldOf?_cons] at h
      by_cases hkey : f.1 = key
      · simp [putField, hkey]
      · rw [if_neg (by simpa using hkey)] at h
        simp [putField, hkey, ih h]

theorem withText_self (h : x.tree.leafText? = some text) : x.withText text = x := by
  cases x with
  | scalar value => rfl
  | list id items => rfl
  | record id fields =>
      exact congrArg (Layout.record id) (Tree.putField_self (fieldOf?_content_of_leaf h))

/-- A leaf with another text is a flat leaf again. -/
theorem flat_withText (hleaf : x.tree.isTextLeaf = true) (hbare : x.tree.Bare) (more : String) :
    ∃ id fields, x.withText more = .record id fields ∧ Flat fields ∧
      (x.tree.Keyed → (fields.map (·.1)).Nodup) := by
  obtain ⟨text, htext⟩ := Option.isSome_iff_exists.mp hleaf
  obtain ⟨id, fields, rfl, hflat⟩ := record_of_leaf htext hbare
  refine ⟨id, _, rfl, hflat.putField "content" _, ?_⟩
  intro hkeyed
  rw [keys_putField (by simp [fieldOf?_content_of_leaf htext]), ← keys_treeFields]
  exact hkeyed.1

theorem bare_withText (hleaf : x.tree.isTextLeaf = true) (hbare : x.tree.Bare) (more : String) :
    (x.withText more).tree.Bare := by
  obtain ⟨id, fields, hwith, hflat, -⟩ := flat_withText hleaf hbare more
  rw [hwith]
  exact hflat.bare id

theorem keyed_withText (hleaf : x.tree.isTextLeaf = true) (hbare : x.tree.Bare)
    (hkeyed : x.tree.Keyed) (more : String) : (x.withText more).tree.Keyed := by
  obtain ⟨id, fields, hwith, hflat, hkeys⟩ := flat_withText hleaf hbare more
  rw [hwith]
  exact hflat.keyed id (hkeys hkeyed)

theorem isTextLeaf_withText (hleaf : x.tree.isTextLeaf = true) (more : String) :
    (x.withText more).tree.isTextLeaf = true := by
  obtain ⟨text, htext⟩ := Option.isSome_iff_exists.mp hleaf
  rw [tree_withText, Tree.isTextLeaf, Tree.leafText?_withText htext]
  rfl

/-! ### What is kept -/

/-- What all of the items have, and leaves with another text, the merged list has. -/
theorem mergeRuns_forall {P : Layout → Prop} (h : ∀ x ∈ items, P x)
    (hleaf : ∀ x ∈ items, x.tree.isTextLeaf = true → ∀ text, P (x.withText text)) :
    ∀ y ∈ mergeRuns items, P y := by
  induction items using runs_induct with
  | nil => exact h
  | other x rest hx ih =>
      obtain ⟨hfirst, hrest⟩ := List.forall_mem_cons.mp h
      rw [mergeRuns_other hx]
      refine List.forall_mem_cons.mpr ⟨hfirst, ih hrest ?_⟩
      intro y hy
      exact hleaf y (List.mem_cons_of_mem x hy)
  | run x run rest hrun hstop ih =>
      rw [mergeRuns_run hrun hstop]
      have hsub : ∀ {y}, y ∈ rest → y ∈ x :: run ++ rest := fun hy => List.mem_append_right _ hy
      refine List.forall_mem_cons.mpr ⟨?_, ih (fun y hy => h y (hsub hy)) ?_⟩
      · exact hleaf x List.mem_cons_self (hrun x List.mem_cons_self) _
      · intro y hy
        exact hleaf y (hsub hy)

theorem forall_mergedParts {P : Layout → Prop} (h : ∀ x ∈ items, P x.merged) :
    ∀ y ∈ mergedParts items, P y := by
  rw [mergedParts_eq_map]
  intro y hy
  obtain ⟨x, hx, rfl⟩ := List.mem_map.mp hy
  exact h x hx

theorem forall_mergedFields {P : String × Layout → Prop}
    (h : ∀ f ∈ fields, P (f.1, if f.1 = "type" then f.2 else f.2.merged)) :
    ∀ f ∈ mergedFields fields, P f := by
  rw [mergedFields_eq_map]
  intro f hf
  obtain ⟨g, hg, rfl⟩ := List.mem_map.mp hf
  exact h g hg

theorem merged_of_leaf (hleaf : x.tree.isTextLeaf = true) (hbare : x.tree.Bare) :
    x.merged = x := by
  obtain ⟨text, htext⟩ := Option.isSome_iff_exists.mp hleaf
  obtain ⟨id, fields, rfl, hflat⟩ := record_of_leaf htext hbare
  rw [merged, hflat.merged]

theorem bare_merged (hbare : x.tree.Bare) : x.merged.tree.Bare := by
  induction x using Layout.induct with
  | scalar value => trivial
  | list id items ih =>
      have hitems := bareItems_iff.mp hbare
      have hparts := forall_mergedParts (P := (·.tree.Bare)) fun x hx => ih x hx (hitems x hx)
      refine bareItems_iff.mpr (mergeRuns_forall hparts ?_)
      intro x hx hleaf text
      exact bare_withText hleaf (hparts x hx) text
  | record id fields ih =>
      cases hleaf : (Layout.record id fields).tree.isTextLeaf with
      | true =>
          rw [merged_of_leaf hleaf hbare]
          exact hbare
      | false =>
          rw [← isTextLeaf_merged] at hleaf
          refine ⟨fun h => absurd (hleaf.symm.trans h) Bool.false_ne_true, ?_⟩
          refine bareFields_iff.mpr (forall_mergedFields ?_)
          intro f hf
          have hbefore := bareFields_iff.mp hbare.2 f hf
          show (if f.1 = "type" then f.2 else f.2.merged).tree.Bare
          split
          · exact hbefore
          · exact ih f hf hbefore

theorem keyed_merged (hbare : x.tree.Bare) (hkeyed : x.tree.Keyed) : x.merged.tree.Keyed := by
  induction x using Layout.induct with
  | scalar value => trivial
  | list id items ih =>
      have hbares := bareItems_iff.mp hbare
      have hkeyeds := keyedItems_iff.mp hkeyed
      have hparts := forall_mergedParts (P := fun y => y.tree.Bare ∧ y.tree.Keyed)
        fun x hx => ⟨bare_merged (hbares x hx), ih x hx (hbares x hx) (hkeyeds x hx)⟩
      refine keyedItems_iff.mpr (mergeRuns_forall (fun y hy => (hparts y hy).2) ?_)
      intro x hx hleaf text
      exact keyed_withText hleaf (hparts x hx).1 (hparts x hx).2 text
  | record id fields ih =>
      refine ⟨?_, keyedFields_iff.mpr (forall_mergedFields ?_)⟩
      · rw [keys_treeFields, mergedFields_eq_map, keys_map, ← keys_treeFields]
        exact hkeyed.1
      · intro f hf
        have hbefore := keyedFields_iff.mp hkeyed.2 f hf
        show (if f.1 = "type" then f.2 else f.2.merged).tree.Keyed
        split
        · exact hbefore
        · exact ih f hf (bareFields_iff.mp hbare.2 f hf) hbefore

/-- The items that are no leaves stay, in their order. -/
theorem others_mergeRuns (items : List Layout) :
    (mergeRuns (mergedParts items)).filter (fun y => !y.tree.isTextLeaf) =
      (items.filter fun x => !x.tree.isTextLeaf).map merged := by
  induction items using runs_induct with
  | nil => rfl
  | other x rest hx ih =>
      have hmerged : x.merged.tree.isTextLeaf = false := (isTextLeaf_merged x).trans hx
      rw [mergeRuns_parts_other hx, List.filter_cons_of_pos (by simp [hmerged]),
        List.filter_cons_of_pos (by simp [hx]), ih, List.map_cons]
  | run x run rest hrun hrest ih =>
      have hx : x.merged.tree.isTextLeaf = true :=
        (isTextLeaf_merged x).trans (hrun x List.mem_cons_self)
      have hnone : (x :: run).filter (fun x => !x.tree.isTextLeaf) = [] := by
        rw [List.filter_eq_nil_iff]
        intro y hy
        simp [hrun y hy]
      rw [mergeRuns_parts_run hrun hrest, List.filter_append, hnone, List.nil_append,
        List.filter_cons_of_neg (by simp [isTextLeaf_withText hx]), ih]

/-! ### The text -/

theorem textItems_append (front back : List Layout) :
    textItems (front ++ back) = textItems front ++ textItems back := by
  rw [← contentItems_tree, ← contentItems_tree, ← contentItems_tree, treeItems_append,
    Tree.contentItems_append]

/-- The text of a leaf with nothing inside. -/
theorem text_of_bare (htext : x.tree.leafText? = some text) (hbare : x.tree.Bare) :
    x.text = text := by
  obtain ⟨id, fields, rfl, hflat⟩ := record_of_leaf htext hbare
  exact text_of_leaf hflat htext

theorem textItems_run (hrun : ∀ x ∈ items, x.tree.isTextLeaf = true)
    (hbare : ∀ x ∈ items, x.tree.Bare) : textItems items = Tree.runText (treeItems items) := by
  induction items with
  | nil => rfl
  | cons x rest ih =>
      obtain ⟨hleaf, hleaves⟩ := List.forall_mem_cons.mp hrun
      obtain ⟨hx, hrest⟩ := List.forall_mem_cons.mp hbare
      obtain ⟨text, htext⟩ := Option.isSome_iff_exists.mp hleaf
      rw [textItems, treeItems, Tree.runText_cons htext, ih hleaves hrest, text_of_bare htext hx]

/-- The first leaf of a run has the text of the run. -/
theorem textItems_mergeRuns (hbare : ∀ x ∈ items, x.tree.Bare) :
    textItems (mergeRuns items) = textItems items := by
  induction items using runs_induct with
  | nil => rfl
  | other x rest hx ih =>
      rw [mergeRuns_other hx, textItems, textItems, ih (List.forall_mem_cons.mp hbare).2]
  | run x run rest hrun hrest ih =>
      obtain ⟨hfront, hback⟩ := List.forall_mem_append.mp hbare
      have hx := hrun x List.mem_cons_self
      obtain ⟨text, htext⟩ := Option.isSome_iff_exists.mp hx
      have hown (more : String) : (x.withText more).text = more := by
        refine text_of_bare ?_ (bare_withText hx (hfront x List.mem_cons_self) more)
        rw [tree_withText, Tree.leafText?_withText htext]
      rw [mergeRuns_run hrun hrest, textItems, hown, ih hback, textItems_append,
        textItems_run hrun hfront]

mutual
/-- **Merging keeps the text** of a document. -/
theorem text_merged : ∀ x : Layout, x.tree.Bare → x.merged.text = x.text
  | .scalar _, _ => rfl
  | .list _ items, hbare => by
      have hitems := bareItems_iff.mp hbare
      have hparts := forall_mergedParts (P := (·.tree.Bare)) fun x hx => bare_merged (hitems x hx)
      rw [merged, text, text, textItems_mergeRuns hparts, textItems_mergedParts items hbare]
  | .record id fields, hbare => by
      have hown : ownText (mergedFields fields) = ownText fields :=
        congrArg (Option.getD · "") (leafText?_merged (.record id fields))
      rw [merged, text, text, hown, textFields_mergedFields fields hbare.2]

theorem textItems_mergedParts : ∀ items : List Layout, Tree.BareItems (treeItems items) →
    textItems (mergedParts items) = textItems items
  | [], _ => rfl
  | x :: rest, hbare =>
      congrArg₂ (· ++ ·) (text_merged x hbare.1) (textItems_mergedParts rest hbare.2)

theorem textFields_mergedFields : ∀ fields : List (String × Layout),
    Tree.BareFields (treeFields fields) → textFields (mergedFields fields) = textFields fields
  | [], _ => rfl
  | (key, x) :: rest, hbare => by
      rw [mergedFields, textFields, textFields, textFields_mergedFields rest hbare.2]
      split
      · rfl
      · rw [text_merged x hbare.1]
end

/-! ### Nothing more to merge -/

/-- In a merged list no two leaves stand next to each other. -/
theorem isChain_mergeRuns (items : List Layout) :
    (treeItems (mergeRuns items)).IsChain Tree.Apart := by
  have hfirst (rest : List Layout) (hstop : ∀ y ∈ rest.head?, y.tree.isTextLeaf = false) :
      ∀ t ∈ (treeItems (mergeRuns rest)).head?, t.isTextLeaf = false := by
    cases rest with
    | nil => simp [mergeRuns, treeItems]
    | cons y rest =>
        have hy : y.tree.isTextLeaf = false := hstop y rfl
        rw [mergeRuns_other hy]
        intro t ht
        exact Option.some.inj ht ▸ hy
  induction items using runs_induct with
  | nil => exact .nil
  | other x rest hx ih =>
      rw [mergeRuns_other hx]
      refine List.isChain_cons.mpr ⟨?_, ih⟩
      intro t _ h
      exact absurd (hx.symm.trans h) Bool.false_ne_true
  | run x run rest hrun hstop ih =>
      rw [mergeRuns_run hrun hstop]
      refine List.isChain_cons.mpr ⟨?_, ih⟩
      intro t ht _
      exact hfirst rest hstop t ht

theorem parted_merged (hbare : x.tree.Bare) : x.merged.tree.Parted := by
  induction x using Layout.induct with
  | scalar value => trivial
  | list id items ih =>
      have hitems := bareItems_iff.mp hbare
      have hparts := forall_mergedParts (P := fun y => y.tree.Bare ∧ y.tree.Parted)
        fun x hx => ⟨bare_merged (hitems x hx), ih x hx (hitems x hx)⟩
      refine ⟨isChain_mergeRuns _, partedItems_iff.mpr ?_⟩
      refine mergeRuns_forall (fun y hy => (hparts y hy).2) ?_
      intro x hx hleaf text
      obtain ⟨id, fields, hwith, hflat, -⟩ := flat_withText hleaf (hparts x hx).1 text
      rw [hwith]
      exact hflat.parted id
  | record id fields ih =>
      refine partedFields_iff.mpr (forall_mergedFields ?_)
      intro f hf (htype : f.1 ≠ "type")
      show (if f.1 = "type" then f.2 else f.2.merged).tree.Parted
      rw [if_neg htype]
      exact ih f hf (bareFields_iff.mp hbare.2 f hf)

theorem mergeRuns_of_isChain (h : (treeItems items).IsChain Tree.Apart) :
    mergeRuns items = items := by
  induction items using runs_induct with
  | nil => rfl
  | other x rest hx ih =>
      rw [mergeRuns_other hx, ih (List.isChain_cons.mp h).2]
  | run x run rest hrun hstop ih =>
      obtain ⟨hx, hmore⟩ := List.forall_mem_cons.mp hrun
      cases run with
      | nil =>
          obtain ⟨text, htext⟩ := Option.isSome_iff_exists.mp hx
          have hown : Tree.runText (treeItems [x]) = text := by
            rw [treeItems, Tree.runText_cons htext]
            exact String.append_empty
          rw [mergeRuns_run hrun hstop, hown, withText_self htext, ih (List.isChain_cons.mp h).2]
          rfl
      | cons y run =>
          -- The first two leaves of the run stand next to each other.
          have hy : y.tree.isTextLeaf = false := (List.isChain_cons.mp h).1 y.tree rfl hx
          exact absurd (hy.symm.trans (hmore y List.mem_cons_self)) Bool.false_ne_true

mutual
/-- Where no two leaves stand next to each other, there is nothing to merge. -/
theorem merged_of_parted : ∀ x : Layout, x.tree.Parted → x.merged = x
  | .scalar _, _ => rfl
  | .list id items, h => by
      rw [merged, mergedParts_of_parted items h.2, mergeRuns_of_isChain h.1]
  | .record id fields, h => congrArg (Layout.record id) (mergedFields_of_parted fields h)

theorem mergedParts_of_parted : ∀ items : List Layout, Tree.PartedItems (treeItems items) →
    mergedParts items = items
  | [], _ => rfl
  | x :: rest, h => congrArg₂ List.cons (merged_of_parted x h.1) (mergedParts_of_parted rest h.2)

theorem mergedFields_of_parted : ∀ fields : List (String × Layout),
    Tree.PartedFields (treeFields fields) → mergedFields fields = fields
  | [], _ => rfl
  | (key, x) :: rest, h => by
      rw [mergedFields, mergedFields_of_parted rest h.2]
      split
      · rfl
      · next htype => rw [merged_of_parted x (h.1 htype)]
end

mutual
/-- Two stores that hold the same layout have the same objects in it. -/
theorem Holds.agree {s t : Store} : ∀ {x : Layout}, x.Holds s → x.Holds t →
    ∀ id ∈ x.ids, t.cell? id = s.cell? id
  | .scalar _, _, _, id, hid => by cases hid
  | .list _ _, hs, ht, id, hid => by
      rcases List.mem_cons.mp hid with rfl | hid
      · exact ht.1.trans hs.1.symm
      · exact HoldsItems.agree hs.2 ht.2 id hid
  | .record _ _, hs, ht, id, hid => by
      rcases List.mem_cons.mp hid with rfl | hid
      · exact ht.1.trans hs.1.symm
      · exact HoldsFields.agree hs.2 ht.2 id hid

theorem HoldsItems.agree {s t : Store} : ∀ {items : List Layout}, HoldsItems s items →
    HoldsItems t items → ∀ id ∈ idsItems items, t.cell? id = s.cell? id
  | [], _, _, id, hid => by cases hid
  | _ :: _, hs, ht, id, hid => by
      rcases List.mem_append.mp hid with hid | hid
      · exact Holds.agree hs.1 ht.1 id hid
      · exact HoldsItems.agree hs.2 ht.2 id hid

theorem HoldsFields.agree {s t : Store} : ∀ {fields : List (String × Layout)},
    HoldsFields s fields → HoldsFields t fields →
    ∀ id ∈ idsFields fields, t.cell? id = s.cell? id
  | [], _, _, id, hid => by cases hid
  | (_, _) :: _, hs, ht, id, hid => by
      rcases List.mem_append.mp hid with hid | hid
      · exact Holds.agree hs.1 ht.1 id hid
      · exact HoldsFields.agree hs.2 ht.2 id hid
end

end Layout

/-! ### Runs -/

namespace Lint

open Layout

variable {s t : Store} {x y : Layout}

theorem Fused.lays (h : Fused s t x y) (hlays : s.Lays x) (hbare : x.tree.Bare) :
    t.Lays x.merged := by
  refine ⟨h.eq ▸ h.holds, hlays.unshared.sublist (ids_merged x), keyed_merged hbare hlays.keyed⟩

/-- Where there is nothing to merge, nothing is written. -/
theorem Fused.still (h : Fused s t x y) (hx : x.Holds s) (hparted : x.tree.Parted) : t = s := by
  have hy : x.Holds t := by
    rw [← merged_of_parted x hparted, ← h.eq]
    exact h.holds
  exact h.keeps.eq (hx.agree hy)

/-- **Merging text leaves is exact.** If the leaves of a document have nothing inside them, a run
ends and leaves the merged layout, writing no other objects; a walk finds the same text before
and after, and a second run leaves the same store. In the merged document no two leaves stand next
to each other, and the items that are no leaves stand in their order. -/
theorem mergeText_exact (hlays : s.Lays x) (hbare : x.tree.Bare) :
    (∃ t, mergeText s x.ref = (.ok (), t) ∧ t.Lays x.merged ∧ x.merged.ref = x.ref ∧
      s.Rewrites t x.ids ∧
      (walk idle s x.ref ()).1 = .ok x.tree.content ∧
      (walk idle t x.ref ()).1 = .ok x.tree.content ∧
      mergeText t x.ref = (.ok (), t)) ∧
    x.merged.tree.Parted ∧
    ∀ items : List Layout,
      (mergeRuns (mergedParts items)).filter (fun y => !y.tree.isTextLeaf) =
        (items.filter fun y => !y.tree.isTextLeaf).map merged := by
  have hparted : x.merged.tree.Parted := parted_merged hbare
  refine ⟨?_, hparted, others_mergeRuns⟩
  obtain ⟨_, t, hmerge, hfused⟩ := mergeText_merged hlays hbare
  have hleft : t.Lays x.merged := hfused.lays hlays hbare
  have hcontent : x.merged.tree.content = x.tree.content := by
    rw [content_tree, text_merged x hbare, content_tree]
  have hafter : (walk idle t x.ref ()).1 = .ok x.tree.content := by
    rw [← ref_merged x, walk_idle hleft, hcontent]
  obtain ⟨_, u, hagain, hsame⟩ := mergeText_merged hleft (bare_merged hbare)
  rw [hsame.still hleft.holds hparted, ref_merged] at hagain
  exact ⟨t, hmerge, hleft, ref_merged x, hfused.keeps, walk_idle hlays, hafter, hagain⟩

/-- A paragraph in which a text is broken in three, with a picture behind it. -/
def brokenText : Layout :=
  .record 0 [("type", .scalar (.str "paragraph")), ("children", .list 1
    [.record 2 [("type", .scalar (.str "text")), ("content", .scalar (.str "a"))],
      .record 3 [("type", .scalar (.str "text")), ("content", .scalar (.str "b"))],
      .record 4 [("content", .scalar (.str "c")), ("type", .scalar (.str "text"))],
      .record 5 [("type", .scalar (.str "image"))],
      .record 6 [("type", .scalar (.str "text")), ("content", .scalar (.str "d"))]])]

/-- A store that holds `brokenText`. -/
def brokenTextStore : Store :=
  ⟨#[.record [("type", .scalar (.str "paragraph")), ("children", .object 1)],
    .list [.object 2, .object 3, .object 4, .object 5, .object 6],
    .record [("type", .scalar (.str "text")), ("content", .scalar (.str "a"))],
    .record [("type", .scalar (.str "text")), ("content", .scalar (.str "b"))],
    .record [("content", .scalar (.str "c")), ("type", .scalar (.str "text"))],
    .record [("type", .scalar (.str "image"))],
    .record [("type", .scalar (.str "text")), ("content", .scalar (.str "d"))]]⟩

theorem lays_brokenText : brokenTextStore.Lays brokenText := by
  refine ⟨?_, by decide, ?_⟩
  · simp [brokenText, Holds, HoldsFields, HoldsItems, brokenTextStore, Store.cell?, fieldRefs, ref]
  · simp [brokenText, tree, treeItems, treeFields, Tree.Keyed, Tree.KeyedItems, Tree.KeyedFields]

/-- The three parts are one text again, and the text behind the picture stays. -/
theorem mergeText_exact_brokenText :
    (brokenTextStore.Lays brokenText ∧ brokenText.tree.Bare) ∧
    ∃ t, mergeText brokenTextStore (.object 0) = (.ok (), t) ∧
      t.cell? 1 = some (.list [.object 2, .object 5, .object 6]) ∧
      t.cell? 2 = some (.record [("type", .scalar (.str "text")),
        ("content", .scalar (.str "abc"))]) ∧
      mergeText t (.object 0) = (.ok (), t) := by
  have hbare : brokenText.tree.Bare := by
    have hother : brokenText.tree.isTextLeaf = false := by decide
    refine ⟨fun h => absurd (hother.symm.trans h) Bool.false_ne_true, ?_⟩
    simp [treeItems, treeFields, tree, Tree.Bare, Tree.BareItems, Tree.BareFields]
  obtain ⟨⟨t, hmerge, hlays, -, -, -, -, hagain⟩, -⟩ := mergeText_exact lays_brokenText hbare
  have hmerged : brokenText.merged = .record 0 [("type", .scalar (.str "paragraph")),
      ("children", .list 1 [.record 2 [("type", .scalar (.str "text")),
          ("content", .scalar (.str "abc"))],
        .record 5 [("type", .scalar (.str "image"))],
        .record 6 [("type", .scalar (.str "text")), ("content", .scalar (.str "d"))]])] := by
    rfl
  have hholds := hlays.holds
  rw [hmerged] at hholds
  exact ⟨⟨lays_brokenText, hbare⟩, t, hmerge, hholds.2.2.1.1, hholds.2.2.1.2.1.1, hagain⟩

end Lint

end DocLint
