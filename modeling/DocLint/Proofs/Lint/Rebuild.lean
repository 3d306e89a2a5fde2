import DocLint.Lint.Highlight
import DocLint.Proofs.Walk.Visits

/-!
# DocLint.Proofs.Lint.Rebuild

**The highlighted document**, by plain recursion: every node is built again from what
its parts have become, and a node with remarks is marked while its place is filled
(`Layout.rebuilt`). No store is involved, no position moves, and nothing is edited.

A `Remark` is a finding whose message is text and whose bounds are whole numbers. For
findings of that kind highlighting does not fail, and its functions agree with the
pure ones here: `part_remarks`, `isProper_span`, `lintFields_remarks`,
`pieces_remarks`.
-/

namespace DocLint

/-- A finding with text as its message and whole numbers as its bounds. -/
structure Remark where
  rule : Tree
  message : String
  start : Int
  stop : Int

/-- The remark as a finding. -/
def Remark.finding (r : Remark) : Finding := ⟨r.rule, .str r.message, .int r.start, .int r.stop⟩

namespace Highlight

/-! ### Marked nodes -/

/-- Where the part of a text of `size` characters starts that remarks are about. -/
def spanStart (remarks : List Remark) (size : Nat) : Int :=
  min (max ((remarks.map (·.start)).min?.getD 0) 0) size

/-- Where that part stops; where the stop comes first, the part is empty. -/
def spanStop (remarks : List Remark) (size : Nat) : Int :=
  max (spanStart remarks size) (min ((remarks.map (·.stop)).max?.getD 0) size)

/-- The characters of a text from one position to another. -/
def cut (text : String) (first last : Nat) : String :=
  String.ofList ((text.toList.take last).drop first)

/-- What a lint node says about its content. -/
def lintDetails (remarks : List Remark) (insideTable : Bool) : List (String × Tree) :=
  [("message", .str ("\n\n".intercalate (remarks.map (·.message)))),
    ("rules", .list (remarks.map (·.rule))), ("insideTable", .bool insideTable)]

/-- The lint node around some content. -/
def lintTree (content : List Tree) (remarks : List Remark) (insideTable : Bool) : Tree :=
  .record (("type", .str "lint") :: ("content", .list content) ::
    lintDetails remarks insideTable)

/-- The pieces of a text, cut around the part that remarks are about. -/
def splitTree (content : String) (remarks : List Remark) (insideTable : Bool) : List Tree :=
  let start := (spanStart remarks content.length).toNat
  let stop := (spanStop remarks content.length).toNat
  (if 0 < start then [textLeaf (cut content 0 start)] else []) ++
    [lintTree [textLeaf (cut content start stop)] remarks insideTable] ++
    if stop < content.length then [textLeaf (cut content stop content.length)] else []

/-- Is the part that remarks are about less than all of a text? -/
def IsPartial (remarks : List Remark) (size : Nat) : Prop :=
  0 < spanStart remarks size ∨ spanStop remarks size < size

instance (remarks : List Remark) (size : Nat) : Decidable (IsPartial remarks size) :=
  inferInstanceAs (Decidable (_ ∨ _))

/-- What takes the place of a value: one value, or the pieces of a text. -/
inductive Marked
  | whole (tree : Tree)
  | split (pieces : List Tree)

namespace Marked

/-- In a list, pieces are items of their own. -/
def items : Marked → List Tree
  | whole tree => [tree]
  | split pieces => pieces

/-- In a field, pieces are a list. -/
def value : Marked → Tree
  | whole tree => tree
  | split pieces => .list pieces

end Marked

/-- Mark a node with its remarks. `content` is the text of the leaves under it, and `now`
what it has become. A text leaf of which only a part is meant is cut, and whatever
else it holds is dropped. -/
def mark (remarks : List Remark) (isLeaf : Bool) (content : String) (insideTable : Bool)
    (now : Tree) : Marked :=
  if remarks = [] then .whole now
  else if isLeaf ∧ IsPartial remarks content.length then
    .split (splitTree content remarks insideTable)
  else .whole (lintTree [now] remarks insideTable)

end Highlight

namespace Layout

open Highlight

/-- The remarks about a layout; there are some about nodes only. -/
def remarks (found : Nat → List Remark) (x : Layout) : List Remark :=
  if x.isNode then (x.id?.map found).getD [] else []

/-- Is it a node of the type `table`? -/
def isTable (x : Layout) : Bool := x.tree.nodeType? == some "table"

mutual
/-- What a layout becomes, apart from the mark that it gets itself. `inside` says
whether a table is around it. -/
def rebuilt (found : Nat → List Remark) (inside : Bool) : Layout → Tree
  | .scalar value => .scalar value
  | .list _ items => .list (rebuiltItems found inside items)
  | .record id fields =>
    .record (rebuiltFields found (inside || (Layout.record id fields).isTable) fields)

/-- What the items of a list become. -/
def rebuiltItems (found : Nat → List Remark) (inside : Bool) : List Layout → List Tree
  | [] => []
  | x :: rest =>
    (mark (x.remarks found) x.tree.isTextLeaf x.text inside (x.rebuilt found inside)).items ++
      rebuiltItems found inside rest

/-- What the fields of a record become; the type stays. -/
def rebuiltFields (found : Nat → List Remark) (inside : Bool) :
    List (String × Layout) → List (String × Tree)
  | [] => []
  | (key, x) :: rest =>
    (key, if key = "type" then x.tree
      else
        (mark (x.remarks found) x.tree.isTextLeaf x.text inside (x.rebuilt found inside)).value) ::
      rebuiltFields found inside rest
end

/-! ### What rebuilding keeps -/

variable {found : Nat → List Remark} {inside : Bool}

/-- A scalar is not marked, and marks are no scalars. -/
theorem value_mark_eq_scalar {x : Layout} {value : Scalar} :
    (mark (x.remarks found) x.tree.isTextLeaf x.text inside (x.rebuilt found inside)).value =
      .scalar value ↔ x.tree = .scalar value := by
  cases x with
  | scalar old => rfl
  | list id items =>
      have hnode : (Layout.list id items).remarks found = [] := rfl
      rw [hnode, mark, if_pos rfl]
      simp [Marked.value, rebuilt, tree]
  | record id fields =>
      rw [mark]
      split
      · simp [Marked.value, rebuilt, tree]
      · split <;> simp [Marked.value, lintTree, tree]

theorem rebuiltFields_eq_map (fields : List (String × Layout)) :
    rebuiltFields found inside fields = fields.map fun f => (f.1,
      if f.1 = "type" then f.2.tree
      else (mark (f.2.remarks found) f.2.tree.isTextLeaf f.2.text inside
        (f.2.rebuilt found inside)).value) := by
  induction fields with
  | nil => rfl
  | cons f rest ih => exact congrArg (_ :: ·) ih

theorem keys_rebuiltFields (fields : List (String × Layout)) :
    (rebuiltFields found inside fields).map (·.1) = fields.map (·.1) := by
  rw [rebuiltFields_eq_map, keys_map]

/-- The scalars in the fields are as they were. -/
theorem field?_rebuilt (x : Layout) (key : String) (value : Scalar) :
    (x.rebuilt found inside).field? key = some (.scalar value) ↔
      x.tree.field? key = some (.scalar value) := by
  cases x with
  | scalar old => rfl
  | list id items => simp [rebuilt, tree, Tree.field?]
  | record id fields =>
      rw [rebuilt, tree, Tree.field?, Tree.field?, rebuiltFields_eq_map, treeFields_eq_map]
      refine fieldOf?_map_scalar ?_ fields
      intro x
      dsimp only
      by_cases htype : key = "type"
      · rw [if_pos htype]
      · rw [if_neg htype]
        exact value_mark_eq_scalar

theorem leafText?_rebuilt (x : Layout) : (x.rebuilt found inside).leafText? = x.tree.leafText? :=
  leafText?_congr (field?_rebuilt x)

end Layout

namespace Highlight

/-! ### Highlighting with remarks does not fail -/

/-- The number that a comparison picks, the first if there is a choice. -/
def pick : Comparison → Int → Int → Int
  | .less => min
  | .greater => max

theorem compare_pick (how : Comparison) (a b : Int) :
    (do return if ← Tree.compare how (.int b) (.int a) then Tree.int b else Tree.int a) =
      (.ok (.int (pick how a b)) : Except Fault Tree) := by
  have hpick : pick how a b = if how.holds (fun x y => decide (x < y)) b a then b else a := by
    cases how with
    | less =>
        show min a b = if decide (b < a) = true then b else a
        by_cases h : b < a
        · rw [if_pos (decide_eq_true h)]
          omega
        · rw [if_neg (by simpa using h)]
          omega
    | greater =>
        show max a b = if decide (a < b) = true then b else a
        by_cases h : a < b
        · rw [if_pos (decide_eq_true h)]
          omega
        · rw [if_neg (by simpa using h)]
          omega
  rw [Tree.compare_int, hpick]
  exact congrArg Except.ok (apply_ite Tree.int _ b a).symm

theorem foldlM_pick (how : Comparison) (first : Int) (rest : List Int) :
    (rest.map Tree.int).foldlM (fun best t => do
      return if ← Tree.compare how t best then t else best) (Tree.int first) =
      (.ok (.int (rest.foldl (pick how) first)) : Except Fault Tree) := by
  induction rest generalizing first with
  | nil => rfl
  | cons i rest ih =>
      rw [List.map_cons, List.foldlM_cons, compare_pick, List.foldl_cons, ← ih]
      rfl

/-- The part that remarks are about. -/
theorem part_remarks {remarks : List Remark} (h : remarks ≠ []) (size : Nat) :
    part (remarks.map Remark.finding) size =
      .ok (.int (spanStart remarks size), .int (spanStop remarks size)) := by
  obtain ⟨r, rest, rfl⟩ := List.exists_cons_of_ne_nil h
  have hstarts : ((r :: rest).map Remark.finding).map (·.start) =
      .int r.start :: (rest.map (·.start)).map .int := by simp [Remark.finding]
  have hstops : ((r :: rest).map Remark.finding).map (·.stop) =
      .int r.stop :: (rest.map (·.stop)).map .int := by simp [Remark.finding]
  have hstart : leastOf (((r :: rest).map Remark.finding).map (·.start)) =
      .ok (.int ((((r :: rest).map (·.start)).min?).getD 0)) := by
    rw [hstarts, List.map_cons, List.min?_cons']
    exact foldlM_pick .less _ _
  have hstop : greatestOf (((r :: rest).map Remark.finding).map (·.stop)) =
      .ok (.int ((((r :: rest).map (·.stop)).max?).getD 0)) := by
    rw [hstops, List.map_cons, List.max?_cons']
    exact foldlM_pick .greater _ _
  have hleast (a b : Int) : (Tree.int a).least (.int b) = .ok (.int (min a b)) :=
    compare_pick .less a b
  have hgreatest (a b : Int) : (Tree.int a).greatest (.int b) = .ok (.int (max a b)) :=
    compare_pick .greater a b
  rw [part, hstart, hstop]
  simp [bind, Except.bind, pure, Except.pure, hleast, hgreatest, spanStart, spanStop]

theorem isProper_span (remarks : List Remark) (size : Nat) :
    isProper (.int (spanStart remarks size)) (.int (spanStop remarks size)) size =
      .ok (decide (IsPartial remarks size)) := by
  rw [isProper, Tree.compare_int, Tree.compare_int]
  by_cases h : 0 < spanStart remarks size
  · simp [Comparison.holds, bind, Except.bind, pure, Except.pure, IsPartial, h]
  · simp [Comparison.holds, bind, Except.bind, IsPartial, h]

theorem messages_remarks (index : Nat) (remarks : List Remark) :
    messages index (remarks.map Remark.finding) = .ok (remarks.map (·.message)) := by
  induction remarks generalizing index with
  | nil => rfl
  | cons r rest ih =>
      rw [List.map_cons, messages, ih]
      rfl

theorem lintFields_remarks (content : List Tree) (remarks : List Remark) (inside : Bool) :
    lintFields content (remarks.map Remark.finding) (.bool inside) =
      .ok (("type", .str "lint") :: ("content", .list content) :: lintDetails remarks inside) := by
  rw [lintFields, messages_remarks, List.map_map]
  rfl

/-- The bounds of the part are within the text, and in order. -/
theorem span_bounds (remarks : List Remark) (size : Nat) :
    0 ≤ spanStart remarks size ∧ spanStart remarks size ≤ spanStop remarks size ∧
      spanStop remarks size ≤ size := by
  unfold spanStop spanStart
  omega

theorem slice_eq_cut (text : String) {first last : Int} (hfirst : 0 ≤ first)
    (hlast : 0 ≤ last ∧ last ≤ text.length) (horder : first ≤ last) :
    Text.slice text first last = cut text first.toNat last.toNat := by
  have hlength : text.length = text.toList.length := String.length_toList.symm
  rw [Text.slice, cut]
  dsimp only
  rw [if_neg (by omega), if_neg (by omega), Nat.min_eq_left (by omega), Nat.min_eq_left (by omega)]

/-- The pieces around the part. -/
theorem pieces_remarks (content : String) (remarks : List Remark) (inside : Bool) :
    pieces content (.int (spanStart remarks content.length))
      (.int (spanStop remarks content.length)) (remarks.map Remark.finding) inside =
      .ok (splitTree content remarks inside) := by
  obtain ⟨hstart, horder, hstop⟩ := span_bounds remarks content.length
  have hlint (text : String) :
      lintNode [textLeaf text] (remarks.map Remark.finding) (.bool inside) =
      .ok (lintTree [textLeaf text] remarks inside) := by
    rw [lintNode, lintFields_remarks]
    rfl
  rw [splitTree]
  generalize spanStart remarks content.length = a at hstart horder ⊢
  generalize spanStop remarks content.length = b at horder hstop ⊢
  have hbefore : Text.slice content 0 a = cut content 0 a.toNat :=
    slice_eq_cut content (Int.le_refl 0) (by omega) hstart
  have hmiddle : Text.slice content a b = cut content a.toNat b.toNat :=
    slice_eq_cut content hstart (by omega) horder
  have hbehind : Text.slice content b content.length = cut content b.toNat content.length :=
    slice_eq_cut content (by omega) (by omega) hstop
  have ha : 0 < a.toNat ↔ 0 < a := by omega
  have hb : b.toNat < content.length ↔ b < content.length := by omega
  simp only [pieces, Tree.compare_int, Comparison.holds, bound, hlint, hbefore, hmiddle, hbehind,
    ha, hb, decide_eq_true_eq, bind, Except.bind, pure, Except.pure]
  by_cases ha' : 0 < a
  · by_cases hb' : b < content.length <;> simp [ha', hb']
  · by_cases hb' : b < content.length <;> simp [ha', hb']

end Highlight

end DocLint
