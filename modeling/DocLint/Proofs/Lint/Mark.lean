import DocLint.Proofs.Cursor.Edit
import DocLint.Proofs.Lint.Rebuild
import DocLint.Proofs.Walk.Step

/-!
# DocLint.Proofs.Lint.Mark

**Marking one node.** `Highlight.apply` first adds new objects to the store and then
puts one of them in the place of the node (`apply_place`). What it puts there is a
`Wrapping`: the lint node with the node itself inside it, or the pieces of a text.

A wrapping is said without saying what the node inside it looks like. The node is
marked before its own parts are, and they are edited where it stands by then.
-/

namespace DocLint.Highlight

open Layout

/-- What is around a node, or in its place. -/
inductive Wrapping
  | bare
  | lint (id content : Nat) (rest : List (String × Layout))
  | split (id : Nat) (pieces : List Layout)

namespace Wrapping

/-- The fields of a lint node around `y`. -/
def lintFields (content : Nat) (rest : List (String × Layout)) (y : Layout) :
    List (String × Layout) :=
  ("type", .scalar (.str "lint")) :: ("content", .list content [y]) :: rest

/-- The wrapping with `y` inside it, in the place of an item. -/
def items (y : Layout) : Wrapping → List Layout
  | bare => [y]
  | lint id content rest => [.record id (lintFields content rest y)]
  | split _ pieces => pieces

/-- The wrapping with `y` inside it, in the place of a field. -/
def value (y : Layout) : Wrapping → Layout
  | bare => y
  | lint id content rest => .record id (lintFields content rest y)
  | split id pieces => .list id pieces

/-- The wrapping as a tree. -/
def marked (t : Tree) : Wrapping → Marked
  | bare => .whole t
  | lint _ _ rest =>
    .whole (.record (("type", .str "lint") :: ("content", .list [t]) :: treeFields rest))
  | split _ pieces => .split (treeItems pieces)

/-- The objects of the wrapping itself. -/
def ids : Wrapping → List Nat
  | bare => []
  | lint id content rest => id :: content :: idsFields rest
  | split id pieces => id :: idsItems pieces

/-- The store holds the wrapping, with `r` where the node is. -/
def Holds (s : Store) (r : Ref) : Wrapping → Prop
  | bare => True
  | lint id content rest =>
    s.cell? id = some (.record
      (("type", .scalar (.str "lint")) :: ("content", .object content) :: fieldRefs rest)) ∧
      s.cell? content = some (.list [r]) ∧ HoldsFields s rest
  | split id pieces => s.cell? id = some (.list (pieces.map ref)) ∧ HoldsItems s pieces

variable {s t : Store} {w : Wrapping} {x y : Layout}

theorem treeItems_items (y : Layout) (w : Wrapping) :
    treeItems (w.items y) = (w.marked y.tree).items := by
  cases w <;> simp [items, marked, Marked.items, treeItems, tree, lintFields, treeFields]

theorem tree_value (y : Layout) (w : Wrapping) : (w.value y).tree = (w.marked y.tree).value := by
  cases w <;> simp [value, marked, Marked.value, tree, treeItems, lintFields, treeFields]

theorem refs_items (h : x.ref = y.ref) (w : Wrapping) :
    (w.items x).map ref = (w.items y).map ref := by
  cases w with
  | bare => exact congrArg (fun r => [r]) h
  | lint id content rest => rfl
  | split id pieces => rfl

theorem ref_value (h : x.ref = y.ref) (w : Wrapping) : (w.value x).ref = (w.value y).ref := by
  cases w with
  | bare => exact h
  | lint id content rest => rfl
  | split id pieces => rfl

theorem Holds.keep {r : Ref} {written : List Nat} (h : w.Holds s r) (hk : s.Keeps t written)
    (hd : ∀ i ∈ w.ids, i ∉ written) : w.Holds t r := by
  cases w with
  | bare => trivial
  | lint id content rest =>
      obtain ⟨hid, hcontent, hrest⟩ := h
      exact ⟨hk.cell?_eq hid (hd id (by simp [ids])),
        hk.cell?_eq hcontent (hd content (by simp [ids])),
        HoldsFields.keep hrest hk fun i hi => hd i (by simp [ids, hi])⟩
  | split id pieces =>
      exact ⟨hk.cell?_eq h.1 (hd id (by simp [ids])),
        HoldsItems.keep h.2 hk fun i hi => hd i (by simp [ids, hi])⟩

theorem Holds.lt_size {r : Ref} (h : w.Holds s r) : ∀ i ∈ w.ids, i < s.cells.size := by
  cases w with
  | bare => simp [ids]
  | lint id content rest =>
      obtain ⟨hid, hcontent, hrest⟩ := h
      exact List.forall_mem_cons.mpr ⟨Store.cell?_eq_some_lt hid, List.forall_mem_cons.mpr
        ⟨Store.cell?_eq_some_lt hcontent, lt_size_of_mem_idsFields hrest⟩⟩
  | split id pieces =>
      exact List.forall_mem_cons.mpr ⟨Store.cell?_eq_some_lt h.1, lt_size_of_mem_idsItems h.2⟩

theorem Holds.items (h : w.Holds s y.ref) (hy : y.Holds s) : HoldsItems s (w.items y) := by
  cases w with
  | bare => exact ⟨hy, trivial⟩
  | lint id content rest => exact ⟨⟨h.1, trivial, ⟨h.2.1, hy, trivial⟩, h.2.2⟩, trivial⟩
  | split id pieces => exact h.2

theorem Holds.value (h : w.Holds s y.ref) (hy : y.Holds s) : (w.value y).Holds s := by
  cases w with
  | bare => exact hy
  | lint id content rest => exact ⟨h.1, trivial, ⟨h.2.1, hy, trivial⟩, h.2.2⟩
  | split id pieces => exact h

/-- The objects of a wrapping with `y` inside it. -/
theorem ids_sublist (y : Layout) (w : Wrapping) : ∃ all, (w.ids ++ y.ids).Perm all ∧
    (idsItems (w.items y)).Sublist all ∧ (w.value y).ids.Sublist all := by
  cases w with
  | bare => exact ⟨y.ids, .refl _, by simp [items, idsItems], .refl _⟩
  | lint id content rest =>
      refine ⟨id :: content :: (y.ids ++ idsFields rest), ?_, ?_, ?_⟩
      · exact (List.perm_append_comm.cons content).cons id
      · simp [items, idsItems, Layout.ids, lintFields, idsFields]
      · simp [value, idsItems, Layout.ids, lintFields, idsFields]
  | split id pieces =>
      refine ⟨id :: idsItems pieces ++ y.ids, .refl _, ?_, List.sublist_append_left _ _⟩
      exact (List.sublist_cons_self id _).trans (List.sublist_append_left _ _)

end Wrapping

/-! ### Marking -/

variable {s : Store} {x : Layout} {remarks : List Remark} {inside : Bool} {f : Flagged}

/-- What `apply` needs to know of the node. -/
structure Marks (s : Store) (x : Layout) (remarks : List Remark) (inside : Bool) (f : Flagged) :
    Prop where
  findings : f.findings = remarks.map Remark.finding
  some : remarks ≠ []
  node : x.ref = .object f.node
  holds : x.Holds s
  placed : f.cursor.isRoot = false
  inside : insideTable s f.cursor.ancestors.toList = .ok inside

theorem treeFields_eq_cons {fields : List (String × Layout)} {key : String} {t : Tree}
    {more : List (String × Tree)} (h : treeFields fields = (key, t) :: more) :
    ∃ y rest, fields = (key, y) :: rest ∧ y.tree = t ∧ treeFields rest = more := by
  match fields with
  | [] => simp [treeFields] at h
  | (k, y) :: rest =>
      obtain ⟨hfirst, hrest⟩ := List.cons.inj h
      obtain ⟨rfl, rfl⟩ := Prod.mk.inj hfirst
      exact ⟨y, rest, rfl, rfl, hrest⟩

theorem except_map_bind {α β : Type} (m : Except Fault (α × β)) :
    (m >>= fun p => pure p.1) = m.map (·.1) := by
  cases m <;> rfl

/-- From `s` to `t` a wrapping for `x` was added. Around a tree it is what `marked` says. -/
structure Wrapping.Added (s t : Store) (x : Layout) (marked : Tree → Marked) (w : Wrapping) :
    Prop where
  keeps : s.Keeps t []
  new : New s w.ids
  holds : w.Holds t x.ref
  marked : ∀ tree, w.marked tree = marked tree
  inserted : t.inserted (w.value x).ref = (w.items x).map ref
  fresh : ∀ id < s.cells.size, (w.value x).ref ≠ .object id

/-- One more object in front of new ones is new. -/
theorem new_before {t : Store} {ids : List Nat} (h : New t ids)
    (hsize : t.cells.size = s.cells.size + 1) : New s (s.cells.size :: ids) := by
  refine ⟨List.nodup_cons.mpr ⟨?_, h.1⟩, ?_⟩
  · intro hi
    have := h.2 _ hi
    omega
  · intro i hi
    rcases List.mem_cons.mp hi with rfl | hi
    · exact Nat.le_refl _
    · have := h.2 i hi
      omega

/-- A lint node whose content was added first, then its other fields, and then the node. -/
theorem added_lint {u : Store} {rest : List (String × Layout)}
    (hkeeps : (s.insert (.list [x.ref])).2.Keeps u [])
    (hnew : New (s.insert (.list [x.ref])).2 (idsFields rest)) (hrest : HoldsFields u rest)
    (htree : treeFields rest = lintDetails remarks inside) :
    (Wrapping.lint u.cells.size s.cells.size rest).Added s
      (u.insert (.record (("type", .scalar (.str "lint")) ::
        ("content", .object s.cells.size) :: fieldRefs rest))).2 x
      (fun t => .whole (lintTree [t] remarks inside)) := by
  let cell : Cell := .record (("type", .scalar (.str "lint")) ::
    ("content", .object s.cells.size) :: fieldRefs rest)
  have hsize : (s.insert (.list [x.ref])).2.cells.size = s.cells.size + 1 := Store.size_insert s _
  have hkeeps₀ : s.Keeps (s.insert (.list [x.ref])).2 [] := Store.keeps_insert s _
  have hkeeps₁ : u.Keeps (u.insert cell).2 [] := Store.keeps_insert u cell
  have hcell : (u.insert cell).2.cell? u.cells.size = some cell := Store.cell?_insert u cell
  have hcontent := Store.cell?_insert s (.list [x.ref])
  refine ⟨(hkeeps₀.trans hkeeps).trans hkeeps₁, ?_, ⟨hcell, ?_, ?_⟩, ?_, ?_, ?_⟩
  · refine (new_before hnew hsize).cons ?_ (Nat.le_trans hkeeps₀.size_le hkeeps.size_le)
    intro i hi
    rcases List.mem_cons.mp hi with rfl | hi
    · exact Nat.lt_of_lt_of_le (hsize ▸ Nat.lt_succ_self _) hkeeps.size_le
    · exact lt_size_of_mem_idsFields hrest i hi
  · exact hkeeps₁.cell?_eq (hkeeps.cell?_eq hcontent (by simp)) (by simp)
  · exact HoldsFields.keep hrest hkeeps₁ (by simp)
  · intro t
    rw [Wrapping.marked, htree]
    rfl
  · simp [Store.inserted, Wrapping.value, Wrapping.items, ref, Store.items?, hcell, cell]
  · intro id hid heq
    obtain rfl := Ref.object.inj heq
    exact Nat.not_le_of_lt hid (hkeeps₀.trans hkeeps).size_le

/-- The lint node around a node. -/
theorem wrap_place (h : Marks s x remarks inside f) : ∃ (w : Wrapping) (s₁ : Store),
    w.Added s s₁ x (fun t => .whole (lintTree [t] remarks inside)) ∧
      wrap f inside s = (f.cursor.replace s₁ (w.value x).ref).map (·.1) := by
  have hfields := lintFields_remarks [] remarks inside
  obtain ⟨fs, u, hrun, htree, hkeeps, hholds, hnew⟩ := addFields_spec
    (("type", .str "lint") :: ("content", .list []) :: lintDetails remarks inside)
    (s.insert (.list [x.ref])).2
  obtain ⟨type, fs, rfl, htype, htree'⟩ := treeFields_eq_cons htree
  obtain ⟨empty, rest, rfl, -, hrest⟩ := treeFields_eq_cons htree'
  obtain rfl := eq_scalar_of_tree htype
  have hnew' : New (s.insert (.list [x.ref])).2 (idsFields rest) :=
    hnew.sublist ((List.sublist_append_right empty.ids _).trans (List.sublist_append_right [] _))
  have hput : putField (fieldRefs (("type", .scalar (.str "lint")) :: ("content", empty) :: rest))
      "content" (.object s.cells.size) = ("type", .scalar (.str "lint")) ::
        ("content", .object s.cells.size) :: fieldRefs rest := by
    simp [fieldRefs, putField, ref]
  refine ⟨_, _, added_lint hkeeps hnew' hholds.2.2 hrest, ?_⟩
  rw [wrap, h.findings, hfields, ← h.node]
  have hrun' : (Store.addFields _).run (s.insert (.list [x.ref])).2 = (_, u) := hrun
  have hok {α : Type} (a : α) (g : α → Except Fault Store) : (Except.ok a >>= g) = g a := rfl
  rw [hok]
  dsimp only
  rw [hrun', Store.insert_fst]
  dsimp only
  rw [hput]
  exact except_map_bind _

/-- The pieces of a text. -/
theorem split_place (s : Store) (content : String) (remarks : List Remark) (inside : Bool)
    (x : Layout) : ∃ (w : Wrapping) (s₁ : Store),
    w.Added s s₁ x (fun _ => .split (splitTree content remarks inside)) ∧
      (Store.add (.list (splitTree content remarks inside))).run s = ((w.value x).ref, s₁) := by
  obtain ⟨y, s₁, hrun, htree, hkeeps, hholds, hnew⟩ :=
    add_spec (.list (splitTree content remarks inside)) s
  cases y with
  | scalar value => simp [tree] at htree
  | record id fields => simp [tree] at htree
  | list id pieces =>
      refine ⟨.split id pieces, s₁, ⟨hkeeps, hnew, hholds, ?_, ?_, ?_⟩, hrun⟩
      · intro t
        exact congrArg Marked.split (Tree.list.inj htree)
      · simp [Store.inserted, Wrapping.value, Wrapping.items, ref, Store.items?, hholds.1]
      · intro other hlt heq
        obtain rfl := Ref.object.inj heq
        exact Nat.not_le_of_lt hlt (hnew.2 _ List.mem_cons_self)

/-- **Marking a node** adds a wrapping to the store, and then replaces the node by it. -/
theorem apply_place (h : Marks s x remarks inside f) : ∃ (w : Wrapping) (s₁ : Store),
    w.Added s s₁ x (mark remarks x.tree.isTextLeaf f.content inside) ∧
      ∀ heard s₂ c, f.cursor.replace s₁ (w.value x).ref = .ok (s₂, c) →
        apply f ⟨s, heard⟩ = .ok () ⟨s₂, heard⟩ := by
  have hleaf : s.isTextLeaf (.object f.node) = x.tree.isTextLeaf := by
    rw [← h.node, Store.isTextLeaf, leafText?_of_holds h.holds]
    rfl
  by_cases hsplit : x.tree.isTextLeaf = true ∧ IsPartial remarks f.content.length
  · obtain ⟨w, s₁, hadded, hrun⟩ := split_place s f.content remarks inside x
    refine ⟨w, s₁, { hadded with marked := ?_ }, ?_⟩
    · intro t
      rw [hadded.marked, mark, if_neg h.some, if_pos hsplit]
    · intro heard s₂ c hreplace
      rw [apply, if_neg (by simp [h.placed]), get_bind]
      dsimp only
      rw [h.inside, bind_lift_ok, hleaf, if_pos hsplit.1, h.findings, part_remarks h.some,
        bind_lift_ok, isProper_span, bind_lift_ok, if_pos (decide_eq_true hsplit.2),
        pieces_remarks, bind_lift_ok, hrun]
      dsimp only
      rw [hreplace, bind_lift_ok]
      rfl
  · obtain ⟨w, s₁, hadded, hwrap⟩ := wrap_place h
    refine ⟨w, s₁, { hadded with marked := ?_ }, ?_⟩
    · intro t
      rw [hadded.marked, mark, if_neg h.some, if_neg hsplit]
    · intro heard s₂ c hreplace
      rw [hreplace] at hwrap
      have hrest : (do
          let store ← wrap f inside s
          set ({ store := store, heard := heard } : Session) : Callback.M Unit) ⟨s, heard⟩ =
          .ok () ⟨s₂, heard⟩ := by
        rw [hwrap]
        rfl
      rw [apply, if_neg (by simp [h.placed]), get_bind]
      dsimp only
      rw [h.inside, bind_lift_ok, hleaf]
      by_cases hl : x.tree.isTextLeaf = true
      · have hpartial : ¬ IsPartial remarks f.content.length := fun hp => hsplit ⟨hl, hp⟩
        rw [if_pos hl, h.findings, part_remarks h.some, bind_lift_ok, isProper_span, bind_lift_ok,
          if_neg (by simp [hpartial])]
        exact hrest
      · rw [if_neg hl]
        exact hrest

end DocLint.Highlight
