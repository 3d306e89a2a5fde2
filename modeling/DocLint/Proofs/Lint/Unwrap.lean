import Mathlib.Data.List.Forall2
import DocLint.Proofs.Lint.Content
import DocLint.Proofs.Lint.Merge

/-!
# DocLint.Proofs.Lint.Unwrap

**Highlighting is undone** by taking the lint nodes out again and merging text leaves
(`run_unwrapped`), for documents that had no lint nodes and whose leaves are texts in lists
and nothing more (`Tree.LintFree`, `Tree.Tidy`).

What is between the two steps can be said without any lint node: it is the document with
some of its texts cut (`Layout.snipped`). So the proof has two halves. To unwrap the
rebuilt document gives the cut one (`unwrapped_rebuilt`), and to merge the cut one gives
what merging gives anyway (`merged_snipped`), because the pieces of a text take each other up
to be the text again (`mergedItems_texts`) and go on with what stands behind them as the
text itself does (`Alike.attach`). Only the order of fields may differ, as a leaf that was cut
has its type in front; so the two results are compared as data (`Tree.Alike`).
-/

namespace DocLint

namespace Tree

/-- Equality as data: lists by their items, records by what is in their fields, in any order. -/
inductive Alike : Tree → Tree → Prop
  | scalar (value : Scalar) : Alike (.scalar value) (.scalar value)
  | list {ts us : List Tree} (items : List.Forall₂ Alike ts us) : Alike (.list ts) (.list us)
  | record {ts us : List (String × Tree)}
      (fields : ∀ key, Option.Rel Alike (fieldOf? ts key) (fieldOf? us key)) :
      Alike (.record ts) (.record us)

/-- The content of a lint node; any other value as it is. -/
def loosened (t : Tree) : List Tree :=
  match t.nodeType?, t.field? "content" with
  | some "lint", some (.list items) => items
  | _, _ => [t]

/-- The only item in the content of a lint node; any other value as it is. -/
def freed (t : Tree) : Tree :=
  match t.loosened with
  | [only] => only
  | _ => t

mutual
/-- The tree without the lint nodes inside it. In a list the content of a lint node takes its
place, in a field the only item of the content does. -/
def unwrapped : Tree → Tree
  | .scalar value => .scalar value
  | .list items => .list (unwrappedItems items)
  | .record fields => .record (unwrappedFields fields)

/-- The items of a list without lint nodes. -/
def unwrappedItems : List Tree → List Tree
  | [] => []
  | t :: rest => t.unwrapped.loosened ++ unwrappedItems rest

/-- The fields of a record without lint nodes. -/
def unwrappedFields : List (String × Tree) → List (String × Tree)
  | [] => []
  | (key, t) :: rest => (key, t.unwrapped.freed) :: unwrappedFields rest
end

mutual
/-- There is no node of the type `lint`. -/
def LintFree : Tree → Prop
  | .scalar _ => True
  | .list items => LintFreeItems items
  | .record fields => (Tree.record fields).nodeType? ≠ some "lint" ∧ LintFreeFields fields

/-- `LintFree` for each item of a list. -/
def LintFreeItems : List Tree → Prop
  | [] => True
  | t :: rest => t.LintFree ∧ LintFreeItems rest

/-- `LintFree` for each field of a record. -/
def LintFreeFields : List (String × Tree) → Prop
  | [] => True
  | (_, t) :: rest => t.LintFree ∧ LintFreeFields rest
end

mutual
/-- Text leaves have a type and a content and nothing else, and none stands in a field. -/
def Tidy : Tree → Prop
  | .scalar _ => True
  | .list items => TidyItems items
  | .record fields =>
    ((Tree.record fields).isTextLeaf = true → ∀ f ∈ fields, f.1 = "type" ∨ f.1 = "content") ∧
      TidyFields fields

/-- `Tidy` for each item of a list. -/
def TidyItems : List Tree → Prop
  | [] => True
  | t :: rest => t.Tidy ∧ TidyItems rest

/-- `Tidy` for each field of a record. -/
def TidyFields : List (String × Tree) → Prop
  | [] => True
  | (_, t) :: rest => t.isTextLeaf = false ∧ t.Tidy ∧ TidyFields rest
end

/-! ### Equality as data -/

mutual
theorem Alike.refl : ∀ t : Tree, Alike t t
  | .scalar value => .scalar value
  | .list items => .list (reflItems items)
  | .record fields => .record (reflFields fields)

theorem reflItems : ∀ items : List Tree, List.Forall₂ Alike items items
  | [] => .nil
  | t :: rest => .cons (Alike.refl t) (reflItems rest)

theorem reflFields : ∀ (fields : List (String × Tree)) (key : String),
    Option.Rel Alike (fieldOf? fields key) (fieldOf? fields key)
  | [], _ => .none
  | (k, t) :: rest, key => by
      rw [fieldOf?_cons]
      by_cases hkey : k = key
      · rw [if_pos (by simpa using hkey)]
        exact .some (Alike.refl t)
      · rw [if_neg (by simpa using hkey)]
        exact reflFields rest key
end

variable {t u : Tree} {text : String}

/-- Records are alike if one finds the same in them. -/
theorem Alike.of_fieldOf? {ts us : List (String × Tree)}
    (h : ∀ key, fieldOf? ts key = fieldOf? us key) : Alike (.record ts) (.record us) := by
  refine .record ?_
  intro key
  rw [← h]
  exact reflFields ts key

theorem Alike.scalar_iff (h : Alike t u) (value : Scalar) :
    t = .scalar value ↔ u = .scalar value := by
  cases h with
  | scalar _ => rfl
  | list _ => simp
  | record _ => simp

theorem rel_scalar_iff {found other : Option Tree} (h : Option.Rel Alike found other)
    (value : Scalar) : found = some (.scalar value) ↔ other = some (.scalar value) := by
  cases h with
  | none => rfl
  | some h => rw [Option.some.injEq, Option.some.injEq, h.scalar_iff]

theorem Alike.field? (h : Alike t u) (key : String) (value : Scalar) :
    t.field? key = some (.scalar value) ↔ u.field? key = some (.scalar value) := by
  cases h with
  | scalar _ => rfl
  | list _ => rfl
  | record fields => exact rel_scalar_iff (fields key) value

theorem Alike.leafText? (h : Alike t u) : t.leafText? = u.leafText? :=
  Layout.leafText?_congr h.field?

theorem Alike.withText (h : Alike t u) (text : String) :
    Alike (t.withText text) (u.withText text) := by
  cases h with
  | scalar value => exact .scalar value
  | list items => exact .list items
  | record fields =>
      refine .record ?_
      intro key
      by_cases hkey : key = "content"
      · subst hkey
        rw [fieldOf?_putField_self, fieldOf?_putField_self]
        exact .some (.scalar _)
      · rw [fieldOf?_putField_of_ne _ hkey, fieldOf?_putField_of_ne _ hkey]
        exact fields key

/-- Trees that are alike do the same to what is behind them. -/
theorem Alike.attach (h : Alike t u) {ts us : List Tree} (hs : List.Forall₂ Alike ts us) :
    List.Forall₂ Alike (t.attach ts) (u.attach us) := by
  cases hs with
  | nil => exact .cons h .nil
  | cons hnext hrest =>
      have hleaf := h.leafText?
      have hmore := hnext.leafText?
      rw [Tree.attach, Tree.attach, ← hleaf, ← hmore]
      split
      · exact .cons (h.withText _) hrest
      · exact .cons h (.cons hnext hrest)

/-! ### Lint nodes taken out -/

theorem loosened_of_ne (h : t.nodeType? ≠ some "lint") : t.loosened = [t] := by
  unfold loosened
  split
  · next htype _ => exact absurd htype h
  · rfl

theorem freed_of_ne (h : t.nodeType? ≠ some "lint") : t.freed = t := by
  rw [freed, loosened_of_ne h]

theorem unwrappedItems_append (front back : List Tree) :
    unwrappedItems (front ++ back) = unwrappedItems front ++ unwrappedItems back := by
  induction front with
  | nil => rfl
  | cons t rest ih => rw [List.cons_append, unwrappedItems, ih, unwrappedItems, List.append_assoc]

theorem nodeType?_ne_lint (h : t.LintFree) : t.nodeType? ≠ some "lint" := by
  cases t with
  | scalar value => exact (Option.some_ne_none _).symm
  | list items => exact (Option.some_ne_none _).symm
  | record fields => exact h.1

mutual
/-- There is nothing to take out of a tree without lint nodes. -/
theorem unwrapped_of_lintFree : ∀ t : Tree, t.LintFree → t.unwrapped = t
  | .scalar _, _ => rfl
  | .list items, h => congrArg Tree.list (unwrappedItems_of_lintFree items h)
  | .record fields, h => congrArg Tree.record (unwrappedFields_of_lintFree fields h.2)

theorem unwrappedItems_of_lintFree : ∀ items : List Tree, LintFreeItems items →
    unwrappedItems items = items
  | [], _ => rfl
  | t :: rest, h => by
      rw [unwrappedItems, unwrapped_of_lintFree t h.1, loosened_of_ne (nodeType?_ne_lint h.1),
        unwrappedItems_of_lintFree rest h.2]
      rfl

theorem unwrappedFields_of_lintFree : ∀ fields : List (String × Tree), LintFreeFields fields →
    unwrappedFields fields = fields
  | [], _ => rfl
  | (key, t) :: rest, h => by
      rw [unwrappedFields, unwrapped_of_lintFree t h.1, freed_of_ne (nodeType?_ne_lint h.1),
        unwrappedFields_of_lintFree rest h.2]
end

end Tree

namespace Highlight

open Layout

variable {remarks : List Remark} {now : Tree}

theorem snips_textLeaf (text : String) (remarks : List Remark) :
    ∀ t ∈ snips text remarks, ∃ piece, t = textLeaf piece := by
  intro t ht
  simp only [snips, List.mem_append, List.mem_ite_nil_right, List.mem_singleton] at ht
  rcases ht with (⟨-, rfl⟩ | rfl) | ⟨-, rfl⟩ <;> exact ⟨_, rfl⟩

theorem snips_ne_nil (text : String) (remarks : List Remark) : snips text remarks ≠ [] := by
  simp [snips]

/-- Pieces of text take each other up. -/
theorem mergedItems_texts {pieces : List Tree} (hpieces : ∀ t ∈ pieces, ∃ text, t = textLeaf text)
    (hsome : pieces ≠ []) (rest : List Tree) :
    Tree.mergedItems (pieces ++ rest) =
      (textLeaf (Tree.contentItems pieces)).attach (Tree.mergedItems rest) := by
  induction pieces with
  | nil => exact absurd rfl hsome
  | cons t more ih =>
      obtain ⟨⟨text, rfl⟩, hmore⟩ := List.forall_mem_cons.mp hpieces
      have hmerged : (textLeaf text).merged = textLeaf text := rfl
      have hleaf (text : String) : (textLeaf text).leafText? = some text := rfl
      have hjoined (added : String) : (textLeaf text).withText added = textLeaf added := rfl
      rw [List.cons_append, Tree.mergedItems, hmerged, Tree.contentItems, content_textLeaf]
      cases more with
      | nil => rw [List.nil_append, Tree.contentItems, String.append_empty]
      | cons u more =>
          rw [ih hmore (List.cons_ne_nil u more), Tree.attach_attach (hleaf _) (hleaf _), hjoined]

/-- The content of a lint node is found in it, unwrapped. -/
theorem loosened_lintTree (items : List Tree) (remarks : List Remark) (inside : Bool) :
    (lintTree items remarks inside).unwrapped.loosened = Tree.unwrappedItems items := rfl

theorem unwrappedItems_singleton (h : now.unwrapped.nodeType? ≠ some "lint") :
    Tree.unwrappedItems [now] = [now.unwrapped] := by
  rw [Tree.unwrappedItems, Tree.loosened_of_ne h]
  rfl

theorem unwrappedItems_texts {pieces : List Tree}
    (hpieces : ∀ t ∈ pieces, ∃ text, t = textLeaf text) : Tree.unwrappedItems pieces = pieces := by
  induction pieces with
  | nil => rfl
  | cons t rest ih =>
      obtain ⟨⟨text, rfl⟩, hrest⟩ := List.forall_mem_cons.mp hpieces
      rw [Tree.unwrappedItems, ih hrest]
      rfl

theorem unwrappedItems_splitTree (text : String) (remarks : List Remark) (inside : Bool) :
    Tree.unwrappedItems (splitTree text remarks inside) = snips text remarks := by
  have hsame : Tree.unwrappedItems (splitTree text remarks inside) =
      Tree.unwrappedItems (snips text remarks) := by
    have hlint (items : List Tree) :
        Tree.unwrappedItems [lintTree items remarks inside] = Tree.unwrappedItems items :=
      List.append_nil _
    rw [splitTree, snips, Tree.unwrappedItems_append, Tree.unwrappedItems_append, hlint,
      Tree.unwrappedItems_append, Tree.unwrappedItems_append]
  rw [hsame, unwrappedItems_texts (snips_textLeaf text remarks)]

/-- A marked item, unwrapped. -/
theorem unwrappedItems_mark (hlint : now.unwrapped.nodeType? ≠ some "lint") (isLeaf : Bool)
    (text : String) (inside : Bool) :
    Tree.unwrappedItems (mark remarks isLeaf text inside now).items =
      if remarks ≠ [] ∧ isLeaf = true ∧ IsPartial remarks text.length then snips text remarks
      else [now.unwrapped] := by
  rw [mark]
  by_cases hnone : remarks = []
  · rw [if_pos hnone, if_neg (fun h => h.1 hnone)]
    exact unwrappedItems_singleton hlint
  · rw [if_neg hnone]
    by_cases hcut : isLeaf = true ∧ IsPartial remarks text.length
    · rw [if_pos hcut, if_pos ⟨hnone, hcut⟩]
      exact unwrappedItems_splitTree text remarks inside
    · rw [if_neg hcut, if_neg (fun h => hcut h.2)]
      refine (List.append_nil _).trans ?_
      exact unwrappedItems_singleton hlint

/-- A marked field, unwrapped, if it is no leaf. -/
theorem freed_mark (hlint : now.unwrapped.nodeType? ≠ some "lint") (text : String) (inside : Bool) :
    (mark remarks false text inside now).value.unwrapped.freed = now.unwrapped := by
  have huncut : ¬(false = true ∧ IsPartial remarks text.length) := fun h => Bool.false_ne_true h.1
  rw [mark]
  by_cases hnone : remarks = []
  · rw [if_pos hnone]
    exact Tree.freed_of_ne hlint
  · have hcontent : (lintTree [now] remarks inside).unwrapped.loosened = [now.unwrapped] :=
      (loosened_lintTree _ _ _).trans (unwrappedItems_singleton hlint)
    rw [if_neg hnone, if_neg huncut, Marked.value, Tree.freed, hcontent]

end Highlight

namespace Layout

open Highlight

/-! ### The document with its texts cut -/

/-- Is the layout a text leaf with remarks about a part of its text? -/
def IsCut (found : Nat → List Remark) (x : Layout) : Prop :=
  x.remarks found ≠ [] ∧ x.tree.isTextLeaf = true ∧ IsPartial (x.remarks found) x.text.length

instance (found : Nat → List Remark) (x : Layout) : Decidable (x.IsCut found) :=
  inferInstanceAs (Decidable (_ ∧ _))

mutual
/-- The layout with its texts cut around the parts that remarks are about. -/
def snipped (found : Nat → List Remark) : Layout → Tree
  | .scalar value => .scalar value
  | .list _ items => .list (snippedItems found items)
  | .record _ fields => .record (snippedFields found fields)

/-- The items of a list, with the pieces of a text as items of their own. -/
def snippedItems (found : Nat → List Remark) : List Layout → List Tree
  | [] => []
  | x :: rest =>
    (if x.IsCut found then snips x.text (x.remarks found) else [x.snipped found]) ++
      snippedItems found rest

/-- The fields of a record, with the texts inside them cut. -/
def snippedFields (found : Nat → List Remark) : List (String × Layout) → List (String × Tree)
  | [] => []
  | (key, x) :: rest =>
    (key, if key = "type" then x.tree else x.snipped found) :: snippedFields found rest
end

variable {found : Nat → List Remark}

theorem snippedFields_eq_map (fields : List (String × Layout)) :
    snippedFields found fields =
      fields.map fun f => (f.1, if f.1 = "type" then f.2.tree else f.2.snipped found) := by
  induction fields with
  | nil => rfl
  | cons f rest ih => exact congrArg (_ :: ·) ih

/-- The scalars in the fields are as they were. -/
theorem field?_snipped (x : Layout) (key : String) (value : Scalar) :
    (x.snipped found).field? key = some (.scalar value) ↔
      x.tree.field? key = some (.scalar value) := by
  cases x with
  | scalar old => rfl
  | list id items => rfl
  | record id fields =>
      rw [snipped, tree, Tree.field?, Tree.field?, snippedFields_eq_map, treeFields_eq_map]
      refine fieldOf?_map_scalar ?_ fields
      intro x
      dsimp only
      by_cases htype : key = "type"
      · rw [if_pos htype]
      · rw [if_neg htype]
        cases x <;> simp [snipped, tree]

theorem nodeType?_snipped (x : Layout) : (x.snipped found).nodeType? = x.tree.nodeType? :=
  nodeType?_congr (field?_snipped x)

mutual
/-- **Unwrapping** the rebuilt document leaves the document with its texts cut. -/
theorem unwrapped_rebuilt (found : Nat → List Remark) (inside : Bool) : ∀ x : Layout,
    x.tree.LintFree → x.tree.Tidy → (x.rebuilt found inside).unwrapped = x.snipped found
  | .scalar _, _, _ => rfl
  | .list _ items, hfree, htidy =>
      congrArg Tree.list (unwrappedItems_rebuilt found inside items hfree htidy)
  | .record _ fields, hfree, htidy =>
      congrArg Tree.record (unwrappedFields_rebuilt found _ fields hfree.2 htidy.2)

theorem unwrappedItems_rebuilt (found : Nat → List Remark) (inside : Bool) :
    ∀ items : List Layout, Tree.LintFreeItems (treeItems items) → Tree.TidyItems (treeItems items) →
      Tree.unwrappedItems (rebuiltItems found inside items) = snippedItems found items
  | [], _, _ => rfl
  | x :: rest, hfree, htidy => by
      have hx := unwrapped_rebuilt found inside x hfree.1 htidy.1
      have hlint : (x.rebuilt found inside).unwrapped.nodeType? ≠ some "lint" :=
        hx ▸ nodeType?_snipped x ▸ Tree.nodeType?_ne_lint hfree.1
      rw [rebuiltItems, Tree.unwrappedItems_append, unwrappedItems_mark hlint, hx,
        unwrappedItems_rebuilt found inside rest hfree.2 htidy.2]
      rfl

theorem unwrappedFields_rebuilt (found : Nat → List Remark) (inside : Bool) :
    ∀ fields : List (String × Layout), Tree.LintFreeFields (treeFields fields) →
      Tree.TidyFields (treeFields fields) →
      Tree.unwrappedFields (rebuiltFields found inside fields) = snippedFields found fields
  | [], _, _ => rfl
  | (key, x) :: rest, hfree, htidy => by
      have hx := unwrapped_rebuilt found inside x hfree.1 htidy.2.1
      have hlint : (x.rebuilt found inside).unwrapped.nodeType? ≠ some "lint" :=
        hx ▸ nodeType?_snipped x ▸ Tree.nodeType?_ne_lint hfree.1
      rw [rebuiltFields, Tree.unwrappedFields, htidy.1, snippedFields,
        unwrappedFields_rebuilt found inside rest hfree.2 htidy.2.2]
      by_cases htype : key = "type"
      · -- The walk has not gone into the type, and there was no lint node in it.
        rw [if_pos htype, if_pos htype, Tree.unwrapped_of_lintFree x.tree hfree.1,
          Tree.freed_of_ne (Tree.nodeType?_ne_lint hfree.1)]
      · rw [if_neg htype, if_neg htype, freed_mark hlint, hx]
end

/-! ### Leaves of a tidy document -/

/-- A leaf of a tidy document has its type and its content, and nothing else. -/
theorem fieldOf?_tidy {fields : List (String × Tree)} {content : String}
    (htidy : (Tree.record fields).Tidy) (htext : (Tree.record fields).leafText? = some content)
    (key : String) : fieldOf? fields key =
      fieldOf? [("type", Tree.str "text"), ("content", Tree.str content)] key := by
  obtain ⟨htype, hcontent⟩ := leafText?_tree.mp htext
  rw [Tree.nodeType?_eq_some] at htype
  rw [fieldOf?_cons, fieldOf?_cons]
  by_cases hkeytype : "type" = key
  · rw [if_pos (by simpa using hkeytype), ← hkeytype]
    exact htype
  · rw [if_neg (by simpa using hkeytype)]
    by_cases hkeycontent : "content" = key
    · rw [if_pos (by simpa using hkeycontent), ← hkeycontent]
      exact hcontent
    · rw [if_neg (by simpa using hkeycontent)]
      refine Option.eq_none_iff_forall_ne_some.mpr ?_
      intro t ht
      rcases htidy.1 (congrArg Option.isSome htext) _ (mem_of_fieldOf? ht) with h | h
      · exact hkeytype h.symm
      · exact hkeycontent h.symm

/-- A leaf of a tidy document is flat. -/
theorem flat_of_tidy {id : Nat} {fields : List (String × Layout)} {text : String}
    (htidy : (Layout.record id fields).tree.Tidy) (hkeyed : (Layout.record id fields).tree.Keyed)
    (htext : (Layout.record id fields).tree.leafText? = some text) : Flat fields := by
  have hkeys : (fields.map (·.1)).Nodup := keys_treeFields fields ▸ hkeyed.1
  intro f hf
  have hfound : fieldOf? [("type", Tree.str "text"), ("content", Tree.str text)] f.1 =
      some f.2.tree := by
    rw [← fieldOf?_tidy htidy htext, fieldOf?_treeFields, fieldOf?_of_mem hkeys hf]
    rfl
  rcases List.mem_cons.mp (mem_of_fieldOf? hfound) with h | h
  · exact ⟨.str "text", eq_scalar_of_tree (congrArg Prod.snd h)⟩
  · exact ⟨.str text, eq_scalar_of_tree (congrArg Prod.snd (List.mem_singleton.mp h))⟩

/-- A leaf of a tidy document is its text, as data. -/
theorem alike_textLeaf {x : Layout} (htidy : x.tree.Tidy) (hkeyed : x.tree.Keyed)
    (hleaf : x.tree.isTextLeaf = true) : Tree.Alike (textLeaf x.text) x.tree.merged := by
  obtain ⟨content, htext⟩ := Option.isSome_iff_exists.mp hleaf
  cases x with
  | scalar value => simp [tree, Tree.leafText?, Tree.nodeType?, Tree.field?] at htext
  | list id items => simp [tree, Tree.leafText?, Tree.nodeType?, Tree.field?] at htext
  | record id fields =>
      have hflat := flat_of_tidy htidy hkeyed htext
      rw [text_of_leaf hflat htext, tree, Tree.merged, ← treeFields_merged, hflat.merged]
      refine .of_fieldOf? ?_
      intro key
      exact (fieldOf?_tidy htidy htext key).symm

/-! ### The cut document, merged -/

mutual
/-- **Merging** the document with its texts cut gives what merging the document gives. -/
theorem merged_snipped (found : Nat → List Remark) : ∀ x : Layout, x.tree.Tidy → x.tree.Keyed →
    Tree.Alike (x.snipped found).merged x.tree.merged
  | .scalar value, _, _ => .scalar value
  | .list _ items, htidy, hkeyed => .list (mergedItems_snipped found items htidy hkeyed)
  | .record _ fields, htidy, hkeyed => .record (mergedFields_snipped found fields htidy.2 hkeyed.2)

theorem mergedItems_snipped (found : Nat → List Remark) : ∀ items : List Layout,
    Tree.TidyItems (treeItems items) → Tree.KeyedItems (treeItems items) →
      List.Forall₂ Tree.Alike (Tree.mergedItems (snippedItems found items))
        (Tree.mergedItems (treeItems items))
  | [], _, _ => .nil
  | x :: rest, htidy, hkeyed => by
      have hrest := mergedItems_snipped found rest htidy.2 hkeyed.2
      rw [snippedItems, treeItems, Tree.mergedItems]
      by_cases hcut : x.IsCut found
      · rw [if_pos hcut, mergedItems_texts (snips_textLeaf _ _) (snips_ne_nil _ _),
          contentItems_snips]
        exact (alike_textLeaf htidy.1 hkeyed.1 hcut.2.1).attach hrest
      · rw [if_neg hcut]
        exact (merged_snipped found x htidy.1 hkeyed.1).attach hrest

theorem mergedFields_snipped (found : Nat → List Remark) : ∀ fields : List (String × Layout),
    Tree.TidyFields (treeFields fields) → Tree.KeyedFields (treeFields fields) → ∀ key,
      Option.Rel Tree.Alike (fieldOf? (Tree.mergedFields (snippedFields found fields)) key)
        (fieldOf? (Tree.mergedFields (treeFields fields)) key)
  | [], _, _, _ => .none
  | (k, x) :: rest, htidy, hkeyed, key => by
      let part : Tree := if k = "type" then x.tree else x.snipped found
      have hvalue : Tree.Alike (if k = "type" then part else part.merged)
          (if k = "type" then x.tree else x.tree.merged) := by
        dsimp only [part]
        by_cases htype : k = "type"
        · rw [if_pos htype, if_pos htype, if_pos htype]
          exact .refl x.tree
        · rw [if_neg htype, if_neg htype, if_neg htype]
          exact merged_snipped found x htidy.2.1 hkeyed.1
      rw [snippedFields, treeFields, Tree.mergedFields, Tree.mergedFields, fieldOf?_cons,
        fieldOf?_cons]
      by_cases hkey : (k == key) = true
      · rw [if_pos hkey, if_pos hkey]
        exact .some hvalue
      · rw [if_neg hkey, if_neg hkey]
        exact mergedFields_snipped found rest htidy.2.2 hkeyed.2 key
end

/-! ### The cut document can be merged -/

theorem keys_snippedFields (fields : List (String × Layout)) :
    (snippedFields found fields).map (·.1) = fields.map (·.1) := by
  rw [snippedFields_eq_map, keys_map]

theorem bare_textLeaf (text : String) : (textLeaf text).Bare := by
  refine ⟨?_, trivial, trivial, trivial⟩
  intro _ f hf
  rcases List.mem_cons.mp hf with rfl | hf
  · exact ⟨_, rfl⟩
  · obtain rfl := List.mem_singleton.mp hf
    exact ⟨_, rfl⟩

theorem bare_snips (text : String) (remarks : List Remark) : ∀ t ∈ snips text remarks, t.Bare := by
  intro t ht
  obtain ⟨piece, rfl⟩ := snips_textLeaf text remarks t ht
  exact bare_textLeaf piece

theorem keyed_snips (text : String) (remarks : List Remark) :
    ∀ t ∈ snips text remarks, t.Keyed := by
  intro t ht
  obtain ⟨piece, rfl⟩ := snips_textLeaf text remarks t ht
  exact keyed_textLeaf piece

/-- The fields of a flat leaf are scalars after cutting, too. -/
theorem scalars_snippedFields {fields : List (String × Layout)} (hflat : Flat fields) :
    ∀ f ∈ snippedFields found fields, ∃ value, f.2 = .scalar value := by
  induction hflat using Flat.induct with
  | nil => exact List.forall_mem_nil _
  | cons _ ih => exact List.forall_mem_cons.mpr ⟨⟨_, ite_self _⟩, ih⟩

mutual
theorem bare_tree : ∀ x : Layout, x.tree.Tidy → x.tree.Keyed → x.tree.Bare
  | .scalar _, _, _ => trivial
  | .list _ items, htidy, hkeyed => bareItems_tree items htidy hkeyed
  | .record id fields, htidy, hkeyed => by
      refine ⟨?_, bareFields_tree fields htidy.2 hkeyed.2⟩
      intro hleaf f hf
      obtain ⟨text, htext⟩ := Option.isSome_iff_exists.mp hleaf
      rw [treeFields_eq_map] at hf
      obtain ⟨g, hg, rfl⟩ := List.mem_map.mp hf
      obtain ⟨value, hvalue⟩ := flat_of_tidy htidy hkeyed htext g hg
      exact ⟨value, congrArg tree hvalue⟩

theorem bareItems_tree : ∀ items : List Layout, Tree.TidyItems (treeItems items) →
    Tree.KeyedItems (treeItems items) → Tree.BareItems (treeItems items)
  | [], _, _ => trivial
  | x :: rest, htidy, hkeyed =>
      ⟨bare_tree x htidy.1 hkeyed.1, bareItems_tree rest htidy.2 hkeyed.2⟩

theorem bareFields_tree : ∀ fields : List (String × Layout), Tree.TidyFields (treeFields fields) →
    Tree.KeyedFields (treeFields fields) → Tree.BareFields (treeFields fields)
  | [], _, _ => trivial
  | (_, x) :: rest, htidy, hkeyed =>
      ⟨bare_tree x htidy.2.1 hkeyed.1, bareFields_tree rest htidy.2.2 hkeyed.2⟩
end

mutual
theorem bare_snipped (found : Nat → List Remark) : ∀ x : Layout, x.tree.Tidy → x.tree.Keyed →
    (x.snipped found).Bare
  | .scalar _, _, _ => trivial
  | .list _ items, htidy, hkeyed => bareItems_snipped found items htidy hkeyed
  | .record id fields, htidy, hkeyed => by
      refine ⟨?_, bareFields_snipped found fields htidy.2 hkeyed.2⟩
      intro hleaf
      obtain ⟨text, htext⟩ := Option.isSome_iff_exists.mp hleaf
      have hsame : ((Layout.record id fields).snipped found).leafText? =
          (Layout.record id fields).tree.leafText? := leafText?_congr (field?_snipped _)
      exact scalars_snippedFields (flat_of_tidy htidy hkeyed (hsame ▸ htext))

theorem bareItems_snipped (found : Nat → List Remark) : ∀ items : List Layout,
    Tree.TidyItems (treeItems items) → Tree.KeyedItems (treeItems items) →
      Tree.BareItems (snippedItems found items)
  | [], _, _ => trivial
  | x :: rest, htidy, hkeyed => by
      have hrest := bareItems_snipped found rest htidy.2 hkeyed.2
      rw [snippedItems, Tree.bareItems_append]
      refine ⟨?_, hrest⟩
      by_cases hcut : x.IsCut found
      · rw [if_pos hcut]
        exact Tree.bareItems_iff.mpr (bare_snips _ _)
      · rw [if_neg hcut]
        exact ⟨bare_snipped found x htidy.1 hkeyed.1, trivial⟩

theorem bareFields_snipped (found : Nat → List Remark) : ∀ fields : List (String × Layout),
    Tree.TidyFields (treeFields fields) → Tree.KeyedFields (treeFields fields) →
      Tree.BareFields (snippedFields found fields)
  | [], _, _ => trivial
  | (key, x) :: rest, htidy, hkeyed => by
      refine ⟨?_, bareFields_snipped found rest htidy.2.2 hkeyed.2⟩
      by_cases htype : key = "type"
      · rw [if_pos htype]
        exact bare_tree x htidy.2.1 hkeyed.1
      · rw [if_neg htype]
        exact bare_snipped found x htidy.2.1 hkeyed.1
end

mutual
theorem keyed_snipped (found : Nat → List Remark) : ∀ x : Layout, x.tree.Keyed →
    (x.snipped found).Keyed
  | .scalar _, _ => trivial
  | .list _ items, hkeyed => keyedItems_snipped found items hkeyed
  | .record _ fields, hkeyed => by
      refine ⟨?_, keyedFields_snipped found fields hkeyed.2⟩
      rw [keys_snippedFields, ← keys_treeFields]
      exact hkeyed.1

theorem keyedItems_snipped (found : Nat → List Remark) : ∀ items : List Layout,
    Tree.KeyedItems (treeItems items) → Tree.KeyedItems (snippedItems found items)
  | [], _ => trivial
  | x :: rest, hkeyed => by
      have hrest := keyedItems_snipped found rest hkeyed.2
      rw [snippedItems, Tree.keyedItems_append]
      refine ⟨?_, hrest⟩
      by_cases hcut : x.IsCut found
      · rw [if_pos hcut]
        exact Tree.keyedItems_iff.mpr (keyed_snips _ _)
      · rw [if_neg hcut]
        exact ⟨keyed_snipped found x hkeyed.1, trivial⟩

theorem keyedFields_snipped (found : Nat → List Remark) : ∀ fields : List (String × Layout),
    Tree.KeyedFields (treeFields fields) → Tree.KeyedFields (snippedFields found fields)
  | [], _ => trivial
  | (key, x) :: rest, hkeyed => by
      refine ⟨?_, keyedFields_snipped found rest hkeyed.2⟩
      by_cases htype : key = "type"
      · rw [if_pos htype]
        exact hkeyed.1
      · rw [if_neg htype]
        exact keyed_snipped found x hkeyed.1
end

/-! ### Nothing found -/

theorem remarks_nothing (x : Layout) : x.remarks (fun _ => []) = [] := by
  rw [remarks]
  cases x.isNode with
  | false => rfl
  | true => cases x.id? <;> rfl

mutual
/-- Where nothing is found the rebuilt document is the document. -/
theorem rebuilt_nothing (inside : Bool) : ∀ x : Layout, x.rebuilt (fun _ => []) inside = x.tree
  | .scalar _ => rfl
  | .list _ items => congrArg Tree.list (rebuiltItems_nothing inside items)
  | .record _ fields => congrArg Tree.record (rebuiltFields_nothing _ fields)

theorem rebuiltItems_nothing (inside : Bool) : ∀ items : List Layout,
    rebuiltItems (fun _ => []) inside items = treeItems items
  | [] => rfl
  | x :: rest => by
      rw [rebuiltItems, remarks_nothing, mark, if_pos rfl, rebuilt_nothing inside x,
        rebuiltItems_nothing inside rest]
      rfl

theorem rebuiltFields_nothing (inside : Bool) : ∀ fields : List (String × Layout),
    rebuiltFields (fun _ => []) inside fields = treeFields fields
  | [] => rfl
  | (key, x) :: rest => by
      rw [rebuiltFields, remarks_nothing, mark, if_pos rfl, rebuilt_nothing inside x,
        rebuiltFields_nothing inside rest, Marked.value, ite_self]
      rfl
end

end Layout

/-! ### Runs -/

namespace Lint

open Layout Highlight

variable {s t : Store} {x y : Layout} {rules : List Rule} {session : Session}
  {found : Nat → List Remark}

theorem Fused.read (h : Fused s t x y) (hn : x.ids.Nodup) : t.tree x.ref = x.tree.merged := by
  rw [← h.ref, tree_of_holds h.holds (hn.sublist h.ids), h.tree]

/-- The rebuilt document, unwrapped and merged. -/
theorem merge_rebuilt (hlays : s.Lays x) (hfree : x.tree.LintFree) (htidy : x.tree.Tidy)
    (hrebuilt : Rebuilt found x t) (u : Store) : ∃ ref v w m,
    (Store.add (t.tree x.ref).unwrapped).run u = (ref, v) ∧
      mergeText v ref = (.ok (), w) ∧ mergeText s x.ref = (.ok (), m) ∧
      (w.tree ref).Alike (m.tree x.ref) := by
  have hsnipped : (t.tree x.ref).unwrapped = x.snipped found := by
    rw [hrebuilt.tree, unwrapped_rebuilt found false x hfree htidy]
  obtain ⟨z, v, hadd, htree, hz⟩ := lays_add (x.snipped found) u (keyed_snipped found x hlays.keyed)
  have hbare : z.tree.Bare := htree ▸ bare_snipped found x htidy hlays.keyed
  obtain ⟨_, w, hmerge, hw⟩ := mergeText_merged hz hbare
  obtain ⟨_, m, hmerge', hm⟩ := mergeText_merged hlays (bare_tree x htidy hlays.keyed)
  refine ⟨z.ref, v, w, m, hsnipped ▸ hadd, hmerge, hmerge', ?_⟩
  rw [hw.read hz.unshared, hm.read hlays.unshared, htree]
  exact merged_snipped found x htidy hlays.keyed

/-- **Highlighting is undone** by taking the lint nodes out of the document that a run leaves, and
merging its text leaves: it is then what merging the text leaves makes of the document as it was. -/
theorem run_unwrapped (hrules : ∀ r ∈ rules, r.Stateless) (hlays : session.store.Lays x)
    (hfree : x.tree.LintFree) (htidy : x.tree.Tidy) (listen : Bool) : ∃ outcome after,
    (run { highlight := true, listen := listen } rules x.ref).run session = (outcome, after) ∧
      ∀ u, ∃ ref v w m, (Store.add (after.store.tree x.ref).unwrapped).run u = (ref, v) ∧
        mergeText v ref = (.ok (), w) ∧ mergeText session.store x.ref = (.ok (), m) ∧
        (w.tree ref).Alike (m.tree x.ref) := by
  obtain ⟨outcome, after, hrun, hleft⟩ := run_rebuilt hrules hlays listen
  refine ⟨outcome, after, hrun, ?_⟩
  rcases hleft with ⟨found, -, -, -, hrebuilt⟩ | ⟨-, -, -, -, -, -, -, -, hstore⟩
  · exact merge_rebuilt hlays hfree htidy hrebuilt
  · -- A run that failed has left the document as it was, as one that found nothing does.
    have hrebuilt : Rebuilt (fun _ => []) x after.store :=
      ⟨x, rfl, hstore ▸ hlays.holds, hlays.unshared, (rebuilt_nothing false x).symm⟩
    exact merge_rebuilt hlays hfree htidy hrebuilt

/-- A text that is split becomes one again. -/
theorem run_unwrapped_oneText :
    ((∀ r ∈ [second], r.Stateless) ∧ oneTextStore.Lays oneText ∧ oneText.tree.LintFree ∧
      oneText.tree.Tidy) ∧
    ∃ outcome after, (run { highlight := true } [second] (.object 0)).run ⟨oneTextStore, none⟩ =
        (outcome, after) ∧
      ∃ ref v w, (Store.add (after.store.tree (.object 0)).unwrapped).run .empty = (ref, v) ∧
        mergeText v ref = (.ok (), w) ∧ (w.tree ref).Alike oneText.tree := by
  have hlays : (Session.mk oneTextStore none).store.Lays oneText := lays_oneText
  have hfree : oneText.tree.LintFree :=
    ⟨by decide, trivial, ⟨⟨by decide, trivial, trivial, trivial⟩, trivial⟩, trivial⟩
  have htidy : oneText.tree.Tidy := by
    refine ⟨fun h => absurd h (by decide), by decide, trivial, by decide, ⟨?_, trivial⟩, trivial⟩
    exact ⟨by decide, by decide, trivial, by decide, trivial, trivial⟩
  obtain ⟨outcome, after, hrun, hall⟩ := run_unwrapped stateless_second hlays hfree htidy false
  obtain ⟨ref, v, w, m, hadd, hmerge, hmerge', halike⟩ := hall .empty
  obtain ⟨_, m', hmerged, hfused⟩ := mergeText_merged hlays (bare_tree oneText htidy hlays.keyed)
  have hm : m' = m := congrArg Prod.snd (hmerged.symm.trans hmerge')
  have hread : m.tree oneText.ref = oneText.tree := by
    rw [← hm, hfused.read hlays.unshared]
    decide
  exact ⟨⟨stateless_second, hlays, hfree, htidy⟩, outcome, after, hrun, ref, v, w, hadd, hmerge,
    hread ▸ halike⟩

end Lint

end DocLint
