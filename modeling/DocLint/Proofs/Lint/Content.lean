import DocLint.Proofs.Lint.Run

/-!
# DocLint.Proofs.Lint.Content

**Highlighting keeps the text** of a document (`run_content`). `Tree.content` is the text
that a walk collects, by plain recursion over the tree.

Everything rests on one fact about a single mark: in the place of a node stands
something of the same text (`content_mark`). Where a leaf is cut, the cuts lie next to
each other and cover all of its text (`contentItems_snips`), and what a lint node says
about its content is no text of the document, as long as the names of the rules are no
documents themselves (`Rule.Named`).
-/

namespace DocLint

namespace Tree

mutual
/-- The text of the leaves of a tree, as a walk collects it. -/
def content : Tree → String
  | .scalar _ => ""
  | .list items => contentItems items
  | .record fields => (Tree.record fields).leafText?.getD "" ++ contentFields fields

/-- The text of the items of a list. -/
def contentItems : List Tree → String
  | [] => ""
  | t :: rest => t.content ++ contentItems rest

/-- The text of the fields of a record; the type has none. -/
def contentFields : List (String × Tree) → String
  | [] => ""
  | (key, t) :: rest => (if key = "type" then "" else t.content) ++ contentFields rest
end

theorem contentItems_append (front back : List Tree) :
    contentItems (front ++ back) = contentItems front ++ contentItems back := by
  induction front with
  | nil => exact String.empty_append.symm
  | cons t rest ih => rw [List.cons_append, contentItems, contentItems, ih, String.append_assoc]

theorem contentItems_of_scalars {items : List Tree} (h : ∀ t ∈ items, ∃ value, t = .scalar value) :
    contentItems items = "" := by
  induction items with
  | nil => rfl
  | cons t rest ih =>
      obtain ⟨⟨value, rfl⟩, hrest⟩ := List.forall_mem_cons.mp h
      rw [contentItems, ih hrest]
      rfl

end Tree

namespace Layout

mutual
theorem content_tree : ∀ x : Layout, x.tree.content = x.text
  | .scalar _ => rfl
  | .list _ items => contentItems_tree items
  | .record _ fields => congrArg (ownText fields ++ ·) (contentFields_tree fields)

theorem contentItems_tree : ∀ items : List Layout,
    Tree.contentItems (treeItems items) = textItems items
  | [] => rfl
  | x :: rest => by
      rw [treeItems, Tree.contentItems, content_tree x, contentItems_tree rest, textItems]

theorem contentFields_tree : ∀ fields : List (String × Layout),
    Tree.contentFields (treeFields fields) = textFields fields
  | [] => rfl
  | (key, x) :: rest => by
      rw [treeFields, Tree.contentFields, content_tree x, contentFields_tree rest, textFields]
end

end Layout

/-- The name of the rule is text, or there is none. -/
def Rule.Named (r : Rule) : Prop := ∃ value, r.name = .scalar value

/-- The remark is made in such a name. -/
def Remark.Named (m : Remark) : Prop := ∃ value, m.rule = .scalar value

namespace Highlight

variable {remarks : List Remark} {text : String}

/-! ### The text of a mark -/

theorem cut_append (text : String) {first middle last : Nat} (hfirst : first ≤ middle)
    (hlast : middle ≤ last) :
    cut text first middle ++ cut text middle last = cut text first last := by
  have hsize : last - first = (middle - first) + (last - middle) := by omega
  have hmiddle : text.toList.drop middle = (text.toList.drop first).drop (middle - first) := by
    rw [List.drop_drop, Nat.add_sub_cancel' hfirst]
  rw [cut, cut, cut, ← String.ofList_append, List.drop_take, List.drop_take, List.drop_take, hsize,
    List.take_add, hmiddle]

theorem cut_nothing (text : String) (n : Nat) : cut text n n = "" := by
  rw [cut, List.drop_eq_nil_of_le (List.length_take_le n _), String.ofList_nil]

theorem cut_everything (text : String) : cut text 0 text.length = text := by
  rw [cut, List.drop_zero, ← String.length_toList, List.take_length, String.ofList_toList]

theorem content_textLeaf (text : String) : (textLeaf text).content = text := by
  have hleaf : (textLeaf text).leafText? = some text := rfl
  rw [textLeaf] at hleaf ⊢
  rw [Tree.content, hleaf]
  exact String.append_empty

/-- The text of a lint node is the text of its content. -/
theorem content_lintTree (items : List Tree) (hnamed : ∀ m ∈ remarks, m.Named) (inside : Bool) :
    (lintTree items remarks inside).content = Tree.contentItems items := by
  have hrules : Tree.contentItems (remarks.map (·.rule)) = "" :=
    Tree.contentItems_of_scalars (List.forall_mem_map.mpr hnamed)
  have hleaf : (lintTree items remarks inside).leafText? = none := rfl
  rw [lintTree] at hleaf ⊢
  rw [Tree.content, hleaf]
  simp [Tree.content, Tree.contentFields, lintDetails, hrules]

/-- The pieces of a text, cut around the part that remarks are about, before any is wrapped. -/
def snips (text : String) (remarks : List Remark) : List Tree :=
  let start := (spanStart remarks text.length).toNat
  let stop := (spanStop remarks text.length).toNat
  (if 0 < start then [textLeaf (cut text 0 start)] else []) ++ [textLeaf (cut text start stop)] ++
    if stop < text.length then [textLeaf (cut text stop text.length)] else []

/-- The pieces of a text have the text. -/
theorem contentItems_snips (text : String) (remarks : List Remark) :
    Tree.contentItems (snips text remarks) = text := by
  obtain ⟨hstart, horder, hstop⟩ := span_bounds remarks text.length
  rw [snips]
  generalize spanStart remarks text.length = a at hstart horder ⊢
  generalize spanStop remarks text.length = b at horder hstop ⊢
  have hfirst : a.toNat ≤ b.toNat := by omega
  have hlast : b.toNat ≤ text.length := by omega
  have hone (text : String) : Tree.contentItems [textLeaf text] = text := by
    rw [Tree.contentItems, content_textLeaf]
    exact String.append_empty
  have hbefore : Tree.contentItems (if 0 < a.toNat then [textLeaf (cut text 0 a.toNat)] else []) =
      cut text 0 a.toNat := by
    by_cases h : 0 < a.toNat
    · rw [if_pos h, hone]
    · rw [if_neg h, Nat.eq_zero_of_not_pos h, cut_nothing]
      rfl
  have hbehind : Tree.contentItems (if b.toNat < text.length then
      [textLeaf (cut text b.toNat text.length)] else []) = cut text b.toNat text.length := by
    by_cases h : b.toNat < text.length
    · rw [if_pos h, hone]
    · rw [if_neg h, Nat.le_antisymm hlast (Nat.le_of_not_lt h), cut_nothing]
      rfl
  calc Tree.contentItems _
    _ = cut text 0 a.toNat ++ cut text a.toNat b.toNat ++ cut text b.toNat text.length := by
      rw [Tree.contentItems_append, Tree.contentItems_append, hbefore, hone, hbehind]
    _ = text := by
      rw [cut_append text (Nat.zero_le _) hfirst, cut_append text (Nat.zero_le _) hlast,
        cut_everything]

/-- Wrapping one of the pieces does not change their text. -/
theorem contentItems_splitTree (hnamed : ∀ m ∈ remarks, m.Named) (inside : Bool) :
    Tree.contentItems (splitTree text remarks inside) = text := by
  have hlint (items : List Tree) :
      Tree.contentItems [lintTree items remarks inside] = Tree.contentItems items := by
    rw [Tree.contentItems, content_lintTree items hnamed]
    exact String.append_empty
  have hsnips : Tree.contentItems (splitTree text remarks inside) =
      Tree.contentItems (snips text remarks) := by
    rw [splitTree, snips, Tree.contentItems_append, Tree.contentItems_append, hlint,
      Tree.contentItems_append, Tree.contentItems_append]
  rw [hsnips, contentItems_snips]

/-- What stands in the place of a node after it has been marked has its text. -/
theorem content_mark (hnamed : ∀ m ∈ remarks, m.Named) (isLeaf inside : Bool) {now : Tree}
    (hnow : now.content = text) :
    Tree.contentItems (mark remarks isLeaf text inside now).items = text := by
  have hwhole (t : Tree) : Tree.contentItems (Marked.whole t).items = t.content :=
    String.append_empty
  rw [mark]
  by_cases hnone : remarks = []
  · rw [if_pos hnone, hwhole, hnow]
  · rw [if_neg hnone]
    by_cases hsplit : isLeaf = true ∧ IsPartial remarks text.length
    · rw [if_pos hsplit]
      exact contentItems_splitTree hnamed inside
    · rw [if_neg hsplit, hwhole, content_lintTree _ hnamed]
      exact (hwhole now).trans hnow

theorem content_value (m : Marked) : m.value.content = Tree.contentItems m.items := by
  cases m with
  | whole t => exact String.append_empty.symm
  | split pieces => rfl

/-! ### What passes to a mark -/

/-- What holds of a value, of all texts, and then of the lint nodes around them, holds of
everything that stands in the place of the value. -/
theorem forall_mem_mark {P : Tree → Prop} {inside : Bool} (htext : ∀ text, P (textLeaf text))
    (hlint : ∀ t, P t → P (lintTree [t] remarks inside)) (isLeaf : Bool) (text : String)
    {now : Tree} (hnow : P now) : ∀ t ∈ (mark remarks isLeaf text inside now).items, P t := by
  rw [mark]
  by_cases hnone : remarks = []
  · rw [if_pos hnone]
    exact List.forall_mem_singleton.mpr hnow
  · rw [if_neg hnone]
    by_cases hsplit : isLeaf = true ∧ IsPartial remarks text.length
    · rw [if_pos hsplit]
      intro t ht
      simp only [Marked.items, splitTree, List.mem_append, List.mem_ite_nil_right,
        List.mem_singleton] at ht
      rcases ht with (⟨-, rfl⟩ | rfl) | ⟨-, rfl⟩
      · exact htext _
      · exact hlint _ (htext _)
      · exact htext _
    · rw [if_neg hsplit]
      exact List.forall_mem_singleton.mpr (hlint now hnow)

/-- In a field the pieces are a list, so what passes to lists holds there, too. -/
theorem Marked.value_of_items {P : Tree → Prop}
    (hlist : ∀ pieces, (∀ t ∈ pieces, P t) → P (.list pieces)) {m : Marked}
    (h : ∀ t ∈ m.items, P t) : P m.value := by
  cases m with
  | whole t => exact h t List.mem_cons_self
  | split pieces => exact hlist pieces h

end Highlight

namespace Layout

open Highlight

/-! ### The text of the rebuilt document -/

variable {found : Nat → List Remark}

theorem remarks_named (hnamed : ∀ n, ∀ m ∈ found n, m.Named) (x : Layout) :
    ∀ m ∈ x.remarks found, m.Named := by
  rw [remarks]
  cases x.isNode with
  | false => exact List.forall_mem_nil _
  | true =>
      cases x.id? with
      | none => exact List.forall_mem_nil _
      | some id => exact hnamed id

mutual
/-- **The rebuilt document has the text** of the document. -/
theorem content_rebuilt (hnamed : ∀ n, ∀ m ∈ found n, m.Named) (inside : Bool) :
    ∀ x : Layout, (x.rebuilt found inside).content = x.text
  | .scalar _ => rfl
  | .list _ items => contentItems_rebuilt hnamed inside items
  | .record id fields => by
      have hleaf : ((Layout.record id fields).rebuilt found inside).leafText? =
          (Layout.record id fields).tree.leafText? := leafText?_rebuilt _
      rw [rebuilt, tree] at hleaf
      rw [rebuilt, Tree.content, hleaf, contentFields_rebuilt hnamed _ fields]
      rfl

theorem contentItems_rebuilt (hnamed : ∀ n, ∀ m ∈ found n, m.Named) (inside : Bool) :
    ∀ items : List Layout, Tree.contentItems (rebuiltItems found inside items) = textItems items
  | [] => rfl
  | x :: rest => by
      have hmark := content_mark (remarks_named hnamed x) x.tree.isTextLeaf inside
        (content_rebuilt hnamed inside x)
      rw [rebuiltItems, Tree.contentItems_append, hmark, contentItems_rebuilt hnamed inside rest,
        textItems]

theorem contentFields_rebuilt (hnamed : ∀ n, ∀ m ∈ found n, m.Named) (inside : Bool) :
    ∀ fields : List (String × Layout),
      Tree.contentFields (rebuiltFields found inside fields) = textFields fields
  | [] => rfl
  | (key, x) :: rest => by
      have hmark := content_mark (remarks_named hnamed x) x.tree.isTextLeaf inside
        (content_rebuilt hnamed inside x)
      rw [rebuiltFields, Tree.contentFields, contentFields_rebuilt hnamed inside rest, textFields]
      by_cases htype : key = "type"
      · rw [if_pos htype, if_pos htype]
      · rw [if_neg htype, if_neg htype, if_neg htype, content_value, hmark]
end

/-! ### The fields of the rebuilt document -/

/-- Lint nodes have fields of different names, too. -/
theorem keyed_lintTree {items : List Tree} {remarks : List Remark} (hitems : Tree.KeyedItems items)
    (hnamed : ∀ m ∈ remarks, m.Named) (inside : Bool) : (lintTree items remarks inside).Keyed := by
  have hrules : Tree.KeyedItems (remarks.map (·.rule)) := by
    refine Tree.keyedItems_iff.mpr (List.forall_mem_map.mpr ?_)
    intro m hm
    obtain ⟨value, hvalue⟩ := hnamed m hm
    rw [hvalue]
    trivial
  exact ⟨by simp [lintDetails], trivial, hitems, trivial, hrules, trivial, trivial⟩

theorem keyed_textLeaf (text : String) : (textLeaf text).Keyed :=
  ⟨by simp, trivial, trivial, trivial⟩

theorem keyed_mark {remarks : List Remark} (hnamed : ∀ m ∈ remarks, m.Named)
    (isLeaf inside : Bool) (text : String) {now : Tree} (hnow : now.Keyed) :
    Tree.KeyedItems (mark remarks isLeaf text inside now).items ∧
      (mark remarks isLeaf text inside now).value.Keyed := by
  have hlint (t : Tree) (ht : t.Keyed) : (lintTree [t] remarks inside).Keyed := by
    have hone : Tree.KeyedItems [t] := ⟨ht, trivial⟩
    exact keyed_lintTree hone hnamed inside
  have hitems := forall_mem_mark keyed_textLeaf hlint isLeaf text hnow
  exact ⟨Tree.keyedItems_iff.mpr hitems,
    Marked.value_of_items (fun _ => Tree.keyedItems_iff.mpr) hitems⟩

mutual
theorem keyed_rebuilt (hnamed : ∀ n, ∀ m ∈ found n, m.Named) (inside : Bool) :
    ∀ x : Layout, x.tree.Keyed → (x.rebuilt found inside).Keyed
  | .scalar _, _ => trivial
  | .list _ items, h => keyedItems_rebuilt hnamed inside items h
  | .record id fields, h => by
      refine ⟨?_, keyedFields_rebuilt hnamed _ fields h.2⟩
      rw [keys_rebuiltFields, ← keys_treeFields]
      exact h.1

theorem keyedItems_rebuilt (hnamed : ∀ n, ∀ m ∈ found n, m.Named) (inside : Bool) :
    ∀ items : List Layout, Tree.KeyedItems (treeItems items) →
      Tree.KeyedItems (rebuiltItems found inside items)
  | [], _ => trivial
  | x :: rest, h => by
      have hmark := keyed_mark (remarks_named hnamed x) x.tree.isTextLeaf inside x.text
        (keyed_rebuilt hnamed inside x h.1)
      have hrest := keyedItems_rebuilt hnamed inside rest h.2
      rw [rebuiltItems, Tree.keyedItems_append]
      exact ⟨hmark.1, hrest⟩

theorem keyedFields_rebuilt (hnamed : ∀ n, ∀ m ∈ found n, m.Named) (inside : Bool) :
    ∀ fields : List (String × Layout), Tree.KeyedFields (treeFields fields) →
      Tree.KeyedFields (rebuiltFields found inside fields)
  | [], _ => trivial
  | (key, x) :: rest, h => by
      have hmark := keyed_mark (remarks_named hnamed x) x.tree.isTextLeaf inside x.text
        (keyed_rebuilt hnamed inside x h.1)
      refine ⟨?_, keyedFields_rebuilt hnamed inside rest h.2⟩
      by_cases htype : key = "type"
      · rw [if_pos htype]
        exact h.1
      · rw [if_neg htype]
        exact hmark.2
end

end Layout

/-! ### Runs -/

namespace Lint

open Layout Highlight

/-- Does nothing at a node. -/
def idle : Visitor Unit := fun _ _ => return

variable {s : Store} {x : Layout} {rules : List Rule} {session : Session}

theorem visitAll_idle (vs : List Visit) (w : Scene Unit) :
    ∃ c, Walk.visitAll idle vs w = .ok () { w with cursor := c } := by
  induction vs generalizing w with
  | nil => exact ⟨w.cursor, rfl⟩
  | cons v rest ih => exact ih { w with cursor := v.cursor }

theorem steady_idle : Walk.Steady idle := by
  intro node content w w' h
  obtain rfl : w = w' := (EStateM.Result.ok.inj h).2
  exact ⟨rfl, rfl⟩

/-- A walk finds the text of the document. -/
theorem walk_idle (hlays : s.Lays x) : (walk idle s x.ref ()).1 = .ok x.tree.content := by
  obtain ⟨_, hvisits⟩ := visitAll_idle (x.visits .fresh) ⟨s, .fresh, ()⟩
  obtain ⟨_, hwalk⟩ := Walk.walk_plain steady_idle () hlays hvisits
  rw [hwalk, content_tree]

/-- The highlighted document is laid out, and has the text of the document. -/
theorem walk_idle_rebuilt {found : Nat → List Remark} {t : Store} (h : Rebuilt found x t)
    (hkeyed : x.tree.Keyed) (hnamed : ∀ n, ∀ m ∈ found n, m.Named) :
    (walk idle t x.ref ()).1 = .ok x.tree.content := by
  obtain ⟨y, href, hy, hn, htree⟩ := h
  have hlays : t.Lays y := ⟨hy, hn, htree ▸ keyed_rebuilt hnamed false x hkeyed⟩
  rw [← href, walk_idle hlays, htree, content_rebuilt hnamed, content_tree]

/-- **Highlighting keeps the text.** A walk finds the same text in a document before a run with
stateless rules and after it. What the rules say about a part of a text leaf is about a
part that lies in the text, and the pieces of the leaf have all of its text. -/
theorem run_content (hrules : ∀ r ∈ rules, r.Stateless) (hnames : ∀ r ∈ rules, r.Named)
    (hlays : session.store.Lays x) (listen : Bool) :
    (∃ outcome after,
      (run { highlight := true, listen := listen } rules x.ref).run session = (outcome, after) ∧
        (walk idle session.store x.ref ()).1 = .ok x.tree.content ∧
        (walk idle after.store x.ref ()).1 = .ok x.tree.content) ∧
    ∀ (remarks : List Remark) (content : String) (inside : Bool), remarks ≠ [] →
      ∃ (start stop : Int) (found : List Tree),
        part (remarks.map Remark.finding) content.length = .ok (.int start, .int stop) ∧
        0 ≤ start ∧ start ≤ stop ∧ stop ≤ content.length ∧
        pieces content (.int start) (.int stop) (remarks.map Remark.finding) inside = .ok found ∧
        ((∀ m ∈ remarks, m.Named) → Tree.contentItems found = content) := by
  refine ⟨?_, ?_⟩
  · obtain ⟨outcome, after, hrun, hleft⟩ := run_rebuilt hrules hlays listen
    refine ⟨outcome, after, hrun, walk_idle hlays, ?_⟩
    rcases hleft with ⟨found, hsigned, -, -, hrebuilt⟩ | ⟨-, -, -, -, -, -, -, -, hstore⟩
    · refine walk_idle_rebuilt hrebuilt hlays.keyed ?_
      intro n m hm
      obtain ⟨r, hr, hname⟩ := hsigned n m hm
      obtain ⟨value, hvalue⟩ := hnames r hr
      exact ⟨value, hname.trans hvalue⟩
    · rw [hstore]
      exact walk_idle hlays
  · intro remarks content inside hsome
    obtain ⟨hstart, horder, hstop⟩ := span_bounds remarks content.length
    exact ⟨_, _, _, part_remarks hsome _, hstart, horder, hstop,
      pieces_remarks content remarks inside, fun hnamed => contentItems_splitTree hnamed inside⟩

/-- A text that is split keeps its three letters. -/
theorem run_content_oneText :
    ((∀ r ∈ [second], r.Stateless) ∧ (∀ r ∈ [second], r.Named) ∧ oneTextStore.Lays oneText) ∧
    ∃ outcome after, (run { highlight := true } [second] (.object 0)).run ⟨oneTextStore, none⟩ =
        (outcome, after) ∧
      (walk idle oneTextStore (.object 0) ()).1 = .ok "abc" ∧
      (walk idle after.store (.object 0) ()).1 = .ok "abc" := by
  have hnamed : ∀ r ∈ [second], r.Named := by
    intro r hr
    obtain rfl := List.mem_singleton.mp hr
    exact ⟨.str "second", rfl⟩
  have hlays : (Session.mk oneTextStore none).store.Lays oneText := lays_oneText
  have htext : oneText.tree.content = "abc" := by decide
  obtain ⟨⟨outcome, after, hrun, hbefore, hafter⟩, -⟩ :=
    run_content stateless_second hnamed hlays false
  rw [htext] at hbefore hafter
  exact ⟨⟨stateless_second, hnamed, hlays⟩, outcome, after, hrun, hbefore, hafter⟩

end Lint

end DocLint
