import DocLint.Generate.Document
import DocLint.Proofs.Generate.Always
import DocLint.Proofs.Lint.Content
import DocLint.Proofs.Lint.Merged
import DocLint.Proofs.Selector.Related

/-!
# DocLint.Proofs.Generate.Document

**Random documents are regular** (`always_document`): no list has both nodes and other values in
it, records have different keys, text leaves have nothing inside them, numbers can be written out,
and nodes do not stand inside one another beyond a given level.

`Regular` is kept by lists and by nodes (`regular_list`, `regular_node`), so each generator is
followed down to what it makes. The levels are counted on the way: whatever may not nest makes
only text, or paragraphs with text, and everything else adds one level to what is made inside it.
-/

namespace DocLint

namespace Tree

mutual
/-- No list has both nodes and other values in it. -/
def Unmixed : Tree → Prop
  | .scalar _ => True
  | .list items =>
    ((∀ t ∈ items, t.isNode = true) ∨ ∀ t ∈ items, t.isNode = false) ∧ UnmixedItems items
  | .record fields => UnmixedFields fields

/-- `Unmixed` for each item of a list. -/
def UnmixedItems : List Tree → Prop
  | [] => True
  | t :: rest => t.Unmixed ∧ UnmixedItems rest

/-- `Unmixed` for each field of a record. -/
def UnmixedFields : List (String × Tree) → Prop
  | [] => True
  | (_, t) :: rest => t.Unmixed ∧ UnmixedFields rest
end

mutual
/-- How many nodes stand inside one another, at most. -/
def nesting : Tree → Nat
  | .scalar _ => 0
  | .list items => nestingItems items
  | .record fields => nestingFields fields + if (Tree.record fields).isNode then 1 else 0

/-- The nesting in the items of a list. -/
def nestingItems : List Tree → Nat
  | [] => 0
  | t :: rest => max t.nesting (nestingItems rest)

/-- The nesting in the fields of a record. -/
def nestingFields : List (String × Tree) → Nat
  | [] => 0
  | (_, t) :: rest => max t.nesting (nestingFields rest)
end

variable {items : List Tree} {fields : List (String × Tree)} {levels more : Nat} {t : Tree}

theorem unmixedItems_iff : UnmixedItems items ↔ ∀ t ∈ items, t.Unmixed := by
  induction items with
  | nil => simp [UnmixedItems]
  | cons t rest ih => simp [UnmixedItems, ih]

theorem unmixedFields_iff : UnmixedFields fields ↔ ∀ f ∈ fields, f.2.Unmixed := by
  induction fields with
  | nil => simp [UnmixedFields]
  | cons f rest ih => simp [UnmixedFields, ih]

theorem nestingItems_le : nestingItems items ≤ levels ↔ ∀ t ∈ items, t.nesting ≤ levels := by
  induction items with
  | nil => simp [nestingItems]
  | cons t rest ih => rw [nestingItems, Nat.max_le, ih, List.forall_mem_cons]

theorem nestingFields_le : nestingFields fields ≤ levels ↔ ∀ f ∈ fields, f.2.nesting ≤ levels := by
  induction fields with
  | nil => simp [nestingFields]
  | cons f rest ih => rw [nestingFields, Nat.max_le, ih, List.forall_mem_cons]

/-- Documents as they are made by programs, with so many levels of nodes at most. -/
structure Regular (levels : Nat) (t : Tree) : Prop where
  keyed : t.Keyed
  unmixed : t.Unmixed
  bare : t.Bare
  writable : t.isWritable = true
  shallow : t.nesting ≤ levels

/-- A regular node. -/
structure RegularNode (levels : Nat) (t : Tree) : Prop extends Regular levels t where
  isNode : t.isNode = true

theorem Regular.mono (h : t.Regular levels) (hle : levels ≤ more) : t.Regular more :=
  { h with shallow := h.shallow.trans hle }

theorem RegularNode.mono (h : t.RegularNode levels) (hle : levels ≤ more) : t.RegularNode more :=
  { h with shallow := h.shallow.trans hle }

theorem regular_scalar {value : Scalar} (h : value.isWritable = true) (levels : Nat) :
    (Tree.scalar value).Regular levels :=
  ⟨trivial, trivial, trivial, h, Nat.zero_le _⟩

theorem regular_list (hmixed : (∀ t ∈ items, t.isNode = true) ∨ ∀ t ∈ items, t.isNode = false)
    (h : ∀ t ∈ items, t.Regular levels) : (Tree.list items).Regular levels where
  keyed := keyedItems_iff.mpr fun t ht => (h t ht).keyed
  unmixed := ⟨hmixed, unmixedItems_iff.mpr fun t ht => (h t ht).unmixed⟩
  bare := bareItems_iff.mpr fun t ht => (h t ht).bare
  writable := isWritableItems_iff.mpr fun t ht => (h t ht).writable
  shallow := nestingItems_le.mpr fun t ht => (h t ht).shallow

theorem regular_nodes (h : ∀ t ∈ items, t.RegularNode levels) : (Tree.list items).Regular levels :=
  regular_list (.inl fun t ht => (h t ht).isNode) fun t ht => (h t ht).toRegular

end Tree

/-- A layout has mixed lists if its tree has. -/
theorem Layout.unmixed_iff {x : Layout} : x.Unmixed ↔ x.tree.Unmixed := by
  induction x using Layout.induct with
  | scalar value => exact Iff.rfl
  | list id items ih =>
      rw [Unmixed, tree, Tree.Unmixed, unmixedItems_iff, Tree.unmixedItems_iff, treeItems_eq_map]
      simp only [List.forall_mem_map, isNode]
      exact and_congr_right fun _ => forall₂_congr ih
  | record id fields ih =>
      rw [Unmixed, tree, Tree.Unmixed, unmixedFields_iff, Tree.unmixedFields_iff,
        treeFields_eq_map]
      simp only [List.forall_mem_map]
      exact forall₂_congr ih

namespace Generate

open DocLint.Tree

variable {σ : Type} [Source σ] {levels : Nat} {type : String} {fields : List (String × Tree)}

/-- A node around regular values. -/
theorem regular_node (hkeys : ("type" :: fields.map (·.1)).Nodup)
    (hleaf : type = "text" → ∀ f ∈ fields, ∃ value, f.2 = .scalar value)
    (h : ∀ f ∈ fields, f.2.Regular levels) : (node type fields).RegularNode (levels + 1) := by
  have htype : (node type fields).nodeType? = some type := rfl
  have hnode : (Tree.record (("type", .str type) :: fields)).isNode = true := rfl
  have hwritable := isWritableFields_iff.mpr fun f hf => (h f hf).writable
  refine ⟨⟨⟨hkeys, trivial, ?_⟩, ⟨trivial, ?_⟩, ⟨fun hisLeaf => ?_, trivial, ?_⟩, ?_, ?_⟩, hnode⟩
  · exact keyedFields_iff.mpr fun f hf => (h f hf).keyed
  · exact unmixedFields_iff.mpr fun f hf => (h f hf).unmixed
  · obtain ⟨text, htext⟩ := Option.isSome_iff_exists.mp hisLeaf
    obtain rfl := Option.some.inj (htype.symm.trans (Layout.leafText?_tree.mp htext).1)
    exact List.forall_mem_cons.mpr ⟨⟨.str "text", rfl⟩, hleaf rfl⟩
  · exact bareFields_iff.mpr fun f hf => (h f hf).bare
  · simpa [node, isWritable, isWritableFields, Scalar.isWritable, Tree.str] using hwritable
  · have hinside := nestingFields_le.mpr fun f hf => (h f hf).shallow
    rw [node, nesting, if_pos hnode, nestingFields]
    exact Nat.add_le_add_right (Nat.max_le.mpr ⟨Nat.zero_le _, hinside⟩) 1

/-! ### Inline nodes -/

/-- A node whose other fields are texts, such as a text leaf. -/
theorem regular_flat (hkeys : ("type" :: fields.map (·.1)).Nodup)
    (h : ∀ f ∈ fields, ∃ text, f.2 = .str text) : (node type fields).RegularNode 1 := by
  refine regular_node hkeys (fun _ f hf => (h f hf).imp' Scalar.str fun _ => id) fun f hf => ?_
  obtain ⟨text, htext⟩ := h f hf
  exact htext ▸ regular_scalar rfl 0

theorem always_textLeaf : Always (textLeaf : Gen σ Tree) (RegularNode 1) := by
  have hleaf : ∀ content : String, Always (pure (node "text" [("content", .str content)]) : Gen σ _)
      (RegularNode 1) := fun content =>
    always_pure (regular_flat (by simp) (by simp [Tree.str]))
  exact always_any.bind fun _ _ => Always.ite (always_any.bind fun content _ => hleaf content)
    (always_any.bind fun content _ => hleaf content)

theorem always_image : Always (image : Gen σ Tree) (RegularNode 1) := by
  refine always_any.bind fun target _ => always_any.bind fun _ _ => ?_
  refine Always.ite ?_ (always_pure (regular_flat (by simp) (by simp [Tree.str])))
  exact (always_any.bind fun text _ => always_pure ⟨text, rfl⟩).bind
    (P := fun alt => ∃ text : String, alt = [("alt", Tree.str text)]) fun alt halt => by
      obtain ⟨text, rfl⟩ := halt
      exact always_pure (regular_flat (by simp) (by simp [Tree.str]))

theorem always_formula : Always (formula : Gen σ Tree) (RegularNode 1) :=
  always_any.bind fun _ _ => always_any.bind fun _ _ =>
    always_pure (regular_flat (by simp) (by simp [Tree.str]))

/-- A node with a list of nodes in one field and a scalar in another. -/
theorem regular_around {key other : String} {value : Scalar} {items : List Tree}
    (hkeys : ["type", other, key].Nodup) (htype : type ≠ "text")
    (hvalue : value.isWritable = true) (h : ∀ t ∈ items, t.RegularNode levels) :
    (node type [(other, .scalar value), (key, .list items)]).RegularNode (levels + 1) := by
  refine regular_node (by simpa using hkeys) (fun h => absurd h htype) ?_
  exact List.forall_mem_cons.mpr ⟨regular_scalar hvalue levels,
    List.forall_mem_singleton.mpr (regular_nodes h)⟩

/-- A node with a list of nodes in its content. -/
theorem regular_content {items : List Tree} (htype : type ≠ "text")
    (h : ∀ t ∈ items, t.RegularNode levels) :
    (node type [("content", .list items)]).RegularNode (levels + 1) :=
  regular_node (by simp) (fun h => absurd h htype)
    (List.forall_mem_singleton.mpr (regular_nodes h))

theorem always_inlineWith {inner : Gen σ Tree} {mayNest : Bool}
    (h : mayNest = true → Always inner (RegularNode levels)) :
    Always (inlineWith inner mayNest) (RegularNode (levels + 1)) := by
  have hone : ∀ t : Tree, t.RegularNode 1 → t.RegularNode (levels + 1) := fun t ht =>
    ht.mono (Nat.le_add_left 1 levels)
  refine always_any.bind fun type _ => ?_
  cases mayNest with
  | false => exact always_textLeaf.mono hone
  | true =>
      have hinner := h rfl
      cases type with
      | text => exact always_textLeaf.mono hone
      | em => exact (hinner.upTo 3).bind fun _ h => always_pure (regular_content (by decide) h)
      | strong => exact (hinner.upTo 3).bind fun _ h => always_pure (regular_content (by decide) h)
      | link =>
          refine always_any.bind fun target _ => (hinner.upTo 2).bind fun _ h => always_pure ?_
          exact regular_around (by decide) (by decide) rfl h
      | image => exact always_image.mono hone
      | math => exact always_formula.mono hone
      | widget => exact always_pure (hone _ (regular_flat (by decide) (by simp [Tree.str])))
      | unescapedDollar => exact always_pure (hone _ (regular_flat (by decide) (by simp)))

/-- Inline nodes nest as far as they may. -/
theorem always_inlineNode : ∀ levels : Nat,
    Always (inlineNode levels : Gen σ Tree) (RegularNode (levels + 1))
  | 0 => always_inlineWith fun h => absurd h Bool.false_ne_true
  | levels + 1 => always_inlineWith fun _ => always_inlineNode levels

/-! ### Blocks -/

theorem always_cell : Always (cell : Gen σ Tree) fun t => t.Regular 1 ∧ t.isNode = false :=
  always_textLeaf.bind fun _ ht => always_pure
    ⟨regular_nodes (List.forall_mem_singleton.mpr ht), rfl⟩

theorem always_row (width : Nat) :
    Always (row width : Gen σ Tree) fun t => t.Regular 1 ∧ t.isNode = false := by
  have hcells : ∀ count, Always (do return .list (← times cell count) : Gen σ Tree) fun t =>
      t.Regular 1 ∧ t.isNode = false := by
    refine fun count => (always_cell.times count).bind fun cells h => always_pure ⟨?_, rfl⟩
    exact regular_list (.inr fun t ht => (h.2 t ht).2) fun t ht => (h.2 t ht).1
  exact always_any.bind fun _ _ => Always.ite (hcells width)
    (always_any.bind fun count _ => hcells count)

theorem always_table : Always (table : Gen σ Tree) (RegularNode 2) := by
  refine always_any.bind fun width _ => always_any.bind fun _ _ => Always.ite ?_ ?_
  · refine always_pure (regular_node (by decide) (fun h => absurd h (by decide)) ?_)
    exact List.forall_mem_singleton.mpr (regular_list (.inl nofun) nofun)
  · refine (always_cell.times width).bind fun header hheader => ?_
    refine ((always_row width).upTo 3).bind fun cells hcells => always_pure ?_
    have halign : ∀ t ∈ List.replicate width Tree.null, t = .null :=
      fun t ht => List.eq_of_mem_replicate ht
    refine regular_node (by simp) (fun h => absurd h (by decide)) ?_
    refine List.forall_mem_cons.mpr ⟨?_, List.forall_mem_cons.mpr
      ⟨?_, List.forall_mem_singleton.mpr ?_⟩⟩
    · exact regular_list (.inr fun t ht => (hheader.2 t ht).2) fun t ht => (hheader.2 t ht).1
    · refine regular_list (.inr fun t ht => ?_) fun t ht => ?_
      · rw [halign t ht]
        rfl
      · rw [halign t ht]
        exact regular_scalar rfl 1
    · exact regular_list (.inr fun t ht => (hcells t ht).2) fun t ht => (hcells t ht).1

theorem always_blockWith {inline block : Gen σ Tree} {mayNest : Bool} (hlevels : 1 ≤ levels)
    (hinline : Always inline (RegularNode levels))
    (hblock : mayNest = true → Always block (RegularNode levels)) :
    Always (blockWith inline block mayNest) (RegularNode (levels + 1)) := by
  have hparagraph : Always (do return node "paragraph" [("content", .list (← upTo 5 inline))])
      (RegularNode (levels + 1)) :=
    (hinline.upTo 5).bind fun _ h => always_pure (regular_content (by decide) h)
  refine always_any.bind fun type _ => ?_
  cases mayNest with
  | false => exact hparagraph
  | true =>
      have hinner := hblock rfl
      cases type with
      | paragraph => exact hparagraph
      | heading =>
          refine (always_between (by decide)).bind fun level hlevel => ?_
          refine (hinline.upTo 3).bind fun _ h => always_pure ?_
          have hfew : ∀ level ≤ 6, Literal.isWritable (level : Nat) = true := by decide
          exact regular_around (by decide) (by decide) (hfew level hlevel.2) h
      | list =>
          refine always_any.bind fun ordered _ => ?_
          have hitem : Always (do return .list (← upTo 2 block)) fun t : Tree =>
              t.Regular levels ∧ t.isNode = false :=
            (hinner.upTo 2).bind fun _ h => always_pure ⟨regular_nodes h, rfl⟩
          refine (hitem.upTo 3).bind fun items h => always_pure ?_
          refine regular_node (by simp) (fun h => absurd h (by decide)) ?_
          refine List.forall_mem_cons.mpr ⟨regular_scalar rfl levels, ?_⟩
          refine List.forall_mem_singleton.mpr ?_
          exact regular_list (.inr fun t ht => (h t ht).2) fun t ht => (h t ht).1
      | blockQuote =>
          exact (hinner.upTo 3).bind fun _ h => always_pure (regular_content (by decide) h)
      | table => exact always_table.mono fun t ht => ht.mono (Nat.succ_le_succ hlevels)
      | codeBlock =>
          refine always_any.bind fun _ _ => always_pure ?_
          exact (regular_flat (by simp) (by simp [Tree.str])).mono (Nat.le_add_left 1 levels)

/-- Blocks nest as far as they may, and around what nests there. -/
theorem always_block : ∀ levels : Nat,
    Always (block levels : Gen σ Tree) (RegularNode (levels + 2))
  | 0 => always_blockWith (Nat.le_refl 1) (always_inlineNode 0)
      fun h => absurd h Bool.false_ne_true
  | levels + 1 => always_blockWith (Nat.le_add_left 1 (levels + 1))
      ((always_inlineNode levels).mono fun _ h => h.mono (Nat.le_succ _))
      fun _ => always_block levels

/-- **Random documents are regular**, and seven nodes at most stand inside one another. -/
theorem always_document : Always (document : Gen σ Tree) (Regular 7) := by
  refine ((always_block deepest).upTo 12).bind fun blocks h => always_any.bind fun _ _ => ?_
  refine Always.ite (always_pure ?_) (always_pure ?_)
  · exact (regular_node (by simp) (fun h => absurd h (by decide))
      (List.forall_mem_singleton.mpr (regular_nodes h))).toRegular
  · exact (regular_nodes h).mono (Nat.le_succ 6)

end Generate

end DocLint
