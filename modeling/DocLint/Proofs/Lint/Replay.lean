import DocLint.Lint.Run
import DocLint.Proofs.Lint.Mark

/-!
# DocLint.Proofs.Lint.Replay

**Marking all nodes** with remarks, from the last visit to the first (`replay`). The
cursors are those of the visits, from before anything was edited. They stay good, since
at any time only two things have changed: what is behind the position in its list, and
the store outside of the objects that are still to come.

So a node is marked before the nodes inside it, and behind it in its list is what the
later items have become. `replay_part` is this step for one item or field, whatever
contains it (`Slot`). The rest is an induction over the layout (`rebuilds`), from
the last item or field to the first (`replay_items`, `replay_fields`).
-/

namespace DocLint

/-! ### Types of records -/

/-- The types of all records are what they were. -/
def Store.TypesKept (s t : Store) : Prop :=
  ∀ id r, s.field (.object id) "type" = .ok r → t.field (.object id) "type" = .ok r

namespace Store

variable {s t u : Store} {id : Nat}

theorem field_congr (h : t.cell? id = s.cell? id) (key : String) :
    t.field (.object id) key = s.field (.object id) key := by
  simp [field, h]

theorem lt_size_of_field {key : String} {r : Ref} (h : s.field (.object id) key = .ok r) :
    id < s.cells.size := by
  cases hcell : s.cell? id with
  | none => simp [field, hcell, throw, throwThe, MonadExceptOf.throw] at h
  | some cell => exact cell?_eq_some_lt hcell

theorem TypesKept.trans (h : s.TypesKept t) (h' : t.TypesKept u) : s.TypesKept u :=
  fun id r hr => h' id r (h id r hr)

/-- New objects keep the types. -/
theorem Keeps.types (h : s.Keeps t []) : s.TypesKept t := by
  intro id r hr
  have hlt : id < s.cells.size := lt_size_of_field hr
  rw [field_congr (h.cell? id hlt (by simp)), hr]

theorem types_put {cell : Cell} (h : ∀ r, s.field (.object id) "type" = .ok r →
    (s.put id cell).field (.object id) "type" = .ok r) : s.TypesKept (s.put id cell) := by
  intro other r hr
  by_cases hid : other = id
  · subst hid
    exact h r hr
  · rw [field_congr (cell?_put_of_ne cell hid), hr]

end Store

namespace Highlight

open Layout

variable {s t u : Store}

/-! ### Tables around a node -/

theorem insideTable_cons {id : Nat} {r : Ref} (h : s.field (.object id) "type" = .ok r)
    (rest : List Nat) : insideTable s (id :: rest) =
      if r = .scalar (.str "table") then .ok true else insideTable s rest := by
  rw [insideTable, h]
  by_cases hr : r = .scalar (.str "table")
  · simp [hr, bind, Except.bind, pure, Except.pure]
  · simp [hr, bind, Except.bind]

/-- Every node that was looked at has a type. -/
theorem field_of_insideTable {id : Nat} {rest : List Nat} {b : Bool}
    (h : insideTable s (id :: rest) = .ok b) : ∃ r, s.field (.object id) "type" = .ok r := by
  cases hr : s.field (.object id) "type" with
  | ok r => exact ⟨r, rfl⟩
  | error fault => simp [insideTable, hr, bind, Except.bind] at h

theorem insideTable_mono (hst : s.TypesKept t) {ids : List Nat} {b : Bool}
    (h : insideTable s ids = .ok b) : insideTable t ids = .ok b := by
  induction ids with
  | nil => exact h
  | cons id rest ih =>
      obtain ⟨r, hr⟩ := field_of_insideTable h
      rw [insideTable_cons hr] at h
      rw [insideTable_cons (hst id r hr)]
      split
      · next heq => rwa [if_pos heq] at h
      · next hne =>
          rw [if_neg hne] at h
          exact ih h

/-- One more node further inside. -/
theorem insideTable_snoc {id : Nat} {r : Ref} (hr : s.field (.object id) "type" = .ok r)
    {ids : List Nat} {b : Bool} (h : insideTable s ids = .ok b) :
    insideTable s (ids ++ [id]) = .ok (b || decide (r = .scalar (.str "table"))) := by
  induction ids with
  | nil =>
      obtain rfl : false = b := Except.ok.inj h
      rw [List.nil_append, insideTable_cons hr]
      by_cases heq : r = .scalar (.str "table") <;> simp [heq, insideTable, pure, Except.pure]
  | cons first rest ih =>
      obtain ⟨q, hq⟩ := field_of_insideTable h
      rw [insideTable_cons hq] at h
      rw [List.cons_append, insideTable_cons hq]
      by_cases heq : q = .scalar (.str "table")
      · rw [if_pos heq] at h ⊢
        obtain rfl : true = b := Except.ok.inj h
        rfl
      · rw [if_neg heq] at h ⊢
        exact ih h

/-! ### The order of marking -/

/-- The visits with remarks, as a run keeps them. -/
def flags (found : Nat → List Remark) (vs : List Visit) : List Flagged :=
  (vs.filter fun v => !(found v.node).isEmpty).map fun v =>
    ⟨v.cursor, v.node, v.content, (found v.node).map Remark.finding⟩

/-- Mark the nodes of the visits, the last ones first. -/
def replay (found : Nat → List Remark) (vs : List Visit) : Callback.M Unit :=
  Lint.highlightAll (flags found vs).reverse

variable {found : Nat → List Remark}

theorem highlightAll_append (first more : List Flagged) :
    Lint.highlightAll (first ++ more) =
      Lint.highlightAll first >>= fun _ => Lint.highlightAll more := by
  induction first with
  | nil => rfl
  | cons f rest ih => simp only [List.cons_append, Lint.highlightAll, ih, bind_assoc]

theorem flags_append (found : Nat → List Remark) (vs us : List Visit) :
    flags found (vs ++ us) = flags found vs ++ flags found us := by
  rw [flags, List.filter_append, List.map_append]
  rfl

theorem replay_append (vs us : List Visit) :
    replay found (vs ++ us) = replay found us >>= fun _ => replay found vs := by
  rw [replay, flags_append, List.reverse_append, highlightAll_append]
  rfl

theorem replay_of_none {v : Visit} (h : found v.node = []) : replay found [v] = pure () := by
  simp [replay, flags, h, Lint.highlightAll]

theorem replay_of_some {v : Visit} (h : found v.node ≠ []) : replay found [v] =
    apply ⟨v.cursor, v.node, v.content, (found v.node).map Remark.finding⟩ := by
  have hflags : flags found [v] =
      [⟨v.cursor, v.node, v.content, (found v.node).map Remark.finding⟩] := by
    simp [flags, h]
  rw [replay, hflags, List.reverse_singleton, Lint.highlightAll, Lint.highlightAll]
  exact bind_pure_unit

/-! ### One place -/

/-- The cursor `c` is in a place of the object `id`, and replacing what stands there
makes the object `fill items value`: a list takes up the items, a record the value. -/
structure Slot (s : Store) (c : Cursor) (id : Nat) (fill : List Ref → Ref → Cell) : Prop where
  placed : c.isRoot = false
  lt_size : id < s.cells.size
  replace : ∀ (t : Store) (node : Nat) (value : Ref), t.cell? id = s.cell? id →
    t.inserted value ≠ [] → value ≠ .object id → ∃ c', (c.facing node).replace t value =
      .ok (t.put id (fill (t.inserted value) value), c')
  types : ∀ (t : Store) (items : List Ref) (value : Ref), t.cell? id = s.cell? id →
    t.TypesKept (t.put id (fill items value))

/-- The nodes inside a layout. -/
def inner (c : Cursor) : Layout → List Visit
  | .scalar _ => []
  | .list id items => visitsItems (c.inside id false) 0 items
  | .record id fields => visitsFields (c.inside id (Layout.record id fields).isNode) fields

/-- The layout itself, if it is a node. -/
def own (c : Cursor) (x : Layout) : List Visit :=
  match x.id? with
  | some id => if x.isNode then [⟨id, x.text, c.facing id⟩] else []
  | none => []

theorem visits_eq_inner (c : Cursor) (x : Layout) : x.visits c = inner c x ++ own c x := by
  cases x with
  | scalar value => rfl
  | list id items => exact (List.append_nil _).symm
  | record id fields => rfl

theorem mark_items_ne_nil {remarks : List Remark} {isLeaf : Bool} {content : String}
    {inside : Bool} {now : Tree} : (mark remarks isLeaf content inside now).items ≠ [] := by
  unfold mark
  split
  · simp [Marked.items]
  · split <;> simp [Marked.items, splitTree]

variable {x : Layout} {c : Cursor} {id : Nat} {fill : List Ref → Ref → Cell} {inside : Bool}

/-- The wrapping of a layout was put in its place. -/
structure Put (found : Nat → List Remark) (inside : Bool) (x : Layout) (id : Nat)
    (fill : List Ref → Ref → Cell) (s s₁ : Store) (w : Wrapping) : Prop where
  cell : s₁.cell? id = some (fill ((w.items x).map ref) (w.value x).ref)
  keeps : s.Keeps s₁ [id]
  types : s.TypesKept s₁
  new : New s w.ids
  holds : w.Holds s₁ x.ref
  marked : ∀ t, w.marked t = mark (x.remarks found) x.tree.isTextLeaf x.text inside t

theorem put_bare (hcell : s.cell? id = some (fill [x.ref] x.ref)) (h : x.remarks found = []) :
    Put found inside x id fill s s .bare where
  cell := hcell
  keeps := Store.Keeps.refl s _
  types := fun _ _ h => h
  new := ⟨.nil, by simp [Wrapping.ids]⟩
  holds := trivial
  marked := fun t => by
    rw [h, mark, if_pos rfl]
    rfl

/-- Replacing a node by its wrapping. -/
theorem put_replaced {s₁ : Store} {w : Wrapping} (hslot : Slot s c id fill)
    (h : w.Added s s₁ x (mark (x.remarks found) x.tree.isTextLeaf x.text inside)) :
    Put found inside x id fill s
      (s₁.put id (fill ((w.items x).map ref) (w.value x).ref)) w := by
  have hlt : id < s₁.cells.size := Nat.lt_of_lt_of_le hslot.lt_size h.keeps.size_le
  have hsame : s₁.cell? id = s.cell? id := h.keeps.cell? id hslot.lt_size (by simp)
  have hput := Store.keeps_put s₁ id (fill ((w.items x).map ref) (w.value x).ref)
  refine ⟨Store.cell?_put_self _ hlt, (h.keeps.mono (by simp)).trans hput,
    h.keeps.types.trans (hslot.types s₁ _ _ hsame), h.new, h.holds.keep hput ?_, h.marked⟩
  intro i hi
  have := h.new.2 i hi
  have := hslot.lt_size
  simp only [List.mem_singleton]
  omega

/-- The mark of a layout itself is put around it, or in its place. -/
theorem replay_own (found : Nat → List Remark) (heard : Option (List Diagnostic))
    (hslot : Slot s c id fill) (hcell : s.cell? id = some (fill [x.ref] x.ref))
    (hx : x.Holds s) (hinside : insideTable s c.ancestors.toList = .ok inside) :
    ∃ (w : Wrapping) (s₁ : Store), replay found (own c x) ⟨s, heard⟩ = .ok () ⟨s₁, heard⟩ ∧
      Put found inside x id fill s s₁ w := by
  cases hid : x.id? with
  | none =>
      have hown : own c x = [] := by simp [own, hid]
      exact ⟨.bare, s, by rw [hown]; rfl, put_bare hcell (by simp [remarks, hid])⟩
  | some n =>
      by_cases hnode : x.isNode = true
      · have hown : own c x = [⟨n, x.text, c.facing n⟩] := by simp [own, hid, hnode]
        have hremarks : x.remarks found = found n := by simp [remarks, hid, hnode]
        rw [hown]
        by_cases hnone : found n = []
        · exact ⟨.bare, s, by rw [replay_of_none hnone]; rfl, put_bare hcell (hremarks.trans hnone)⟩
        · have hmarks : Marks s x (found n) inside
              ⟨c.facing n, n, x.text, (found n).map Remark.finding⟩ :=
            ⟨rfl, hnone, Layout.id?_eq_some.mp hid, hx, hslot.placed, hinside⟩
          obtain ⟨w, s₁, hadded, happly⟩ := apply_place hmarks
          have hsome : s₁.inserted (w.value x).ref ≠ [] := by
            intro hempty
            rw [hadded.inserted, List.map_eq_nil_iff] at hempty
            have hitems := Wrapping.treeItems_items x w
            rw [hempty, hadded.marked] at hitems
            exact mark_items_ne_nil hitems.symm
          have hsame : s₁.cell? id = s.cell? id := hadded.keeps.cell? id hslot.lt_size (by simp)
          obtain ⟨c', hreplace⟩ := hslot.replace s₁ n _ hsame hsome
            (hadded.fresh id hslot.lt_size)
          rw [hadded.inserted] at hreplace
          refine ⟨w, _, ?_, put_replaced hslot (hremarks ▸ hadded)⟩
          rw [replay_of_some hnone]
          exact happly heard _ c' hreplace
      · have hown : own c x = [] := by simp [own, hid, hnode]
        exact ⟨.bare, s, by rw [hown]; rfl, put_bare hcell (by simp [remarks, hnode])⟩

/-! ### What a layout has become -/

/-- From `s` to `t`, the objects of `place` and of `before` are written, and what has
become of the latter has the objects `after`. -/
structure Redone (s t : Store) (place before after : List Nat) : Prop where
  keeps : s.Keeps t (place ++ before)
  types : s.TypesKept t
  nodup : after.Nodup
  old_or_new : ∀ i ∈ after, i ∈ before ∨ s.cells.size ≤ i

/-- Marking the nodes inside `x` leaves what the pure rebuild gives. -/
def Rebuilds (found : Nat → List Remark) (x : Layout) : Prop :=
  ∀ (c : Cursor) (s : Store) (heard : Option (List Diagnostic)) (inside : Bool), x.Holds s →
    x.ids.Nodup → insideTable s c.ancestors.toList = .ok inside →
      ∃ (y : Layout) (t : Store), replay found (inner c x) ⟨s, heard⟩ = .ok () ⟨t, heard⟩ ∧
        y.ref = x.ref ∧ y.Holds t ∧ y.tree = x.rebuilt found inside ∧ Redone s t [] x.ids y.ids

/-- **One part.** Marking a layout and the nodes inside it. -/
theorem replay_part (heard : Option (List Diagnostic)) (hslot : Slot s c id fill)
    (hcell : s.cell? id = some (fill [x.ref] x.ref)) (hx : x.Holds s) (hn : x.ids.Nodup)
    (hid : id ∉ x.ids)
    (hinside : insideTable s c.ancestors.toList = .ok inside) (hparts : Rebuilds found x) :
    ∃ (w : Wrapping) (y : Layout) (t : Store),
      replay found (x.visits c) ⟨s, heard⟩ = .ok () ⟨t, heard⟩ ∧
      t.cell? id = some (fill ((w.items y).map ref) (w.value y).ref) ∧ w.Holds t y.ref ∧
      y.Holds t ∧ Redone s t [id] x.ids (w.ids ++ y.ids) ∧
      w.marked y.tree = mark (x.remarks found) x.tree.isTextLeaf x.text inside
        (x.rebuilt found inside) := by
  obtain ⟨w, s₁, hown, hput⟩ := replay_own found heard hslot hcell hx hinside
  have hlt : ∀ i ∈ x.ids, i < s.cells.size := lt_size_of_mem_ids hx
  have hx₁ : x.Holds s₁ := hx.keep hput.keeps fun i hi => by
    simpa using ne_of_mem_of_not_mem hi hid
  obtain ⟨y, t, hinner, href, hy, htree, hredone⟩ :=
    hparts c s₁ heard inside hx₁ hn (insideTable_mono hput.types hinside)
  have hnew : ∀ i ∈ w.ids, i ∉ x.ids := by
    intro i hi hx
    have := hput.new.2 i hi
    have := hlt i hx
    omega
  refine ⟨w, y, t, ?_, ?_, ?_, hy, ⟨?_, hput.types.trans hredone.types, ?_, ?_⟩, ?_⟩
  · rw [visits_eq_inner, replay_append, bind_ok hown]
    exact hinner
  · rw [Wrapping.refs_items href, Wrapping.ref_value href]
    exact hredone.keeps.cell?_eq hput.cell hid
  · rw [href]
    exact hput.holds.keep hredone.keeps hnew
  · exact (hput.keeps.mono (by simp)).trans (hredone.keeps.mono (by simp))
  · refine List.nodup_append.mpr ⟨hput.new.1, hredone.nodup, ?_⟩
    intro i hi j hj heq
    subst heq
    rcases hredone.old_or_new i hj with hj | hj
    · exact hnew i hi hj
    · exact absurd (hput.holds.lt_size i hi) (Nat.not_lt.mpr hj)
  · intro i hi
    rcases List.mem_append.mp hi with hi | hi
    · exact .inr (hput.new.2 i hi)
    · exact (hredone.old_or_new i hi).imp_right (Nat.le_trans hput.keeps.size_le)
  · rw [hput.marked, htree]

/-! ### Items and fields -/

namespace Redone

variable {place before after others : List Nat}

/-- Nothing happens to objects that stay as they are. -/
theorem refl (h : before.Nodup) : Redone s s place before before :=
  ⟨Store.Keeps.refl s _, fun _ _ h => h, h, fun _ hi => .inl hi⟩

/-- Some of the objects may be left out. -/
theorem restrict {all : List Nat} (h : Redone s t place before after) (hperm : after.Perm all)
    (hsub : others.Sublist all) : Redone s t place before others :=
  ⟨h.keeps, h.types, (hperm.nodup_iff.mp h.nodup).sublist hsub, fun i hi =>
    h.old_or_new i (hperm.mem_iff.mpr (hsub.subset hi))⟩

/-- What has become of objects is apart from all other objects. -/
theorem apart (h : Redone s t place before after)
    (hothers : ∀ i ∈ others, i < s.cells.size ∧ i ∉ before) : ∀ i ∈ after, i ∉ others := by
  intro i hi hother
  obtain ⟨hlt, hnot⟩ := hothers i hother
  rcases h.old_or_new i hi with hold | hnew
  · exact hnot hold
  · omega

/-- One after the other, with different objects. -/
theorem append {before' after' : List Nat} (h : Redone s t place before after)
    (h' : Redone t u place before' after') (hafter : ∀ i ∈ after, i < t.cells.size)
    (hbefore : ∀ i ∈ before', i < s.cells.size ∧ i ∉ before) :
    Redone s u place (before' ++ before) (after' ++ after) := by
  have hapart := h.apart hbefore
  refine ⟨?_, h.types.trans h'.types, ?_, ?_⟩
  · refine (h.keeps.mono ?_).trans (h'.keeps.mono ?_) <;> simp +contextual
  · refine List.nodup_append.mpr ⟨h'.nodup, h.nodup, ?_⟩
    intro i hi j hj heq
    subst heq
    rcases h'.old_or_new i hi with hold | hnew
    · exact hapart i hj hold
    · exact absurd (hafter i hj) (Nat.not_lt.mpr hnew)
  · intro i hi
    rcases List.mem_append.mp hi with hi | hi
    · exact (h'.old_or_new i hi).imp (List.mem_append_left _) (Nat.le_trans h.keeps.size_le)
    · exact (h.old_or_new i hi).imp_left (List.mem_append_right _)

/-- The object around the parts, too. -/
theorem whole (h : Redone s t [id] before after) (hlt : id < s.cells.size) (hid : id ∉ before) :
    Redone s t [] (id :: before) (id :: after) := by
  refine ⟨h.keeps, h.types, List.nodup_cons.mpr ⟨?_, h.nodup⟩, ?_⟩
  · have hapart : ∀ i ∈ after, i ∉ [id] := h.apart (by simpa using ⟨hlt, hid⟩)
    exact fun hi => hapart id hi List.mem_cons_self
  · intro i hi
    rcases List.mem_cons.mp hi with rfl | hi
    · exact .inl List.mem_cons_self
    · exact (h.old_or_new i hi).imp_left (List.mem_cons_of_mem _)

end Redone

/-- The parts behind `x` in the object `id` had the objects `rest`, and what has become
of them by now has the objects `after`. -/
structure Behind (s t : Store) (id : Nat) (x : Layout) (rest after : List Nat) : Prop where
  lt_size : id < s.cells.size
  holds : x.Holds s
  unshared : (id :: (x.ids ++ rest)).Nodup
  redone : Redone s t [id] rest after

namespace Behind

variable {rest after : List Nat}

theorem not_mem (h : Behind s t id x rest after) : id ∉ x.ids ∧ id ∉ rest :=
  not_or.mp (mt List.mem_append.mpr (List.nodup_cons.mp h.unshared).1)

theorem nodup (h : Behind s t id x rest after) : x.ids.Nodup :=
  (List.nodup_append.mp (List.nodup_cons.mp h.unshared).2).1

theorem disjoint (h : Behind s t id x rest after) :
    ∀ i ∈ x.ids, i < s.cells.size ∧ i ∉ rest := by
  intro i hi
  obtain ⟨-, -, hdisjoint⟩ := List.nodup_append.mp (List.nodup_cons.mp h.unshared).2
  exact ⟨lt_size_of_mem_ids h.holds i hi, fun hrest => hdisjoint i hi i hrest rfl⟩

/-- The part itself is as it was. -/
theorem still (h : Behind s t id x rest after) : x.Holds t := by
  refine h.holds.keep h.redone.keeps ?_
  intro i hi
  simpa [ne_of_mem_of_not_mem hi h.not_mem.1] using (h.disjoint i hi).2

/-- What the parts behind have become is apart from what is still to be done. -/
theorem apart (h : Behind s t id x rest after) : ∀ i ∈ after, i ∉ [id] ++ x.ids := by
  refine h.redone.apart ?_
  intro i hi
  rcases List.mem_append.mp hi with hi | hi
  · obtain rfl := List.mem_singleton.mp hi
    exact ⟨h.lt_size, h.not_mem.2⟩
  · exact h.disjoint i hi

end Behind

theorem isRoot_of_top? (hc : c.containers.top? = some id) : c.isRoot = false := by
  rw [Stack.top?] at hc
  obtain ⟨rest, hrest⟩ := List.head?_eq_some_iff.mp hc
  simp [Cursor.isRoot, Stack.size, hrest]

/-- An item of a list is a place. -/
theorem slot_item {front behind : List Ref} {r : Ref} {outer : Stack Step}
    (hcell : s.cell? id = some (.list (front ++ r :: behind))) (hc : c.containers.top? = some id)
    (hs : c.steps = outer.push (.index front.length)) :
    Slot s c id fun items _ => .list (front ++ items ++ behind) where
  placed := isRoot_of_top? hc
  lt_size := Store.cell?_eq_some_lt hcell
  replace := fun t node value ht _ hvalue => by
    have hc' : (c.facing node).containers.top? = some id := hc
    exact ⟨_, Cursor.replace_in_list hc' hs (ht.trans hcell) hvalue⟩
  types := fun t items value ht => Store.types_put fun r hr => by
    simp [Store.field, ht.trans hcell, throw, throwThe, MonadExceptOf.throw] at hr

theorem replay_items (heard : Option (List Diagnostic)) {rest : List Layout} (front : List Ref)
    (hc : c.containers.top? = some id)
    (hcell : s.cell? id = some (.list (front ++ rest.map ref))) (hh : HoldsItems s rest)
    (hn : (id :: idsItems rest).Nodup) (hinside : insideTable s c.ancestors.toList = .ok inside)
    (hparts : ∀ x ∈ rest, Rebuilds found x) : ∃ (ys : List Layout) (t : Store),
      replay found (visitsItems c front.length rest) ⟨s, heard⟩ = .ok () ⟨t, heard⟩ ∧
      t.cell? id = some (.list (front ++ ys.map ref)) ∧ HoldsItems t ys ∧
      treeItems ys = rebuiltItems found inside rest ∧
      Redone s t [id] (idsItems rest) (idsItems ys) := by
  induction rest generalizing front with
  | nil =>
      exact ⟨[], s, rfl, hcell, trivial, rfl, Redone.refl .nil⟩
  | cons x tail ih =>
      have hntail : (id :: idsItems tail).Nodup :=
        hn.sublist ((List.sublist_append_right x.ids _).cons_cons id)
      -- The items behind come first, with the item itself among those in front.
      have hcell' : s.cell? id = some (.list ((front ++ [x.ref]) ++ tail.map ref)) := by
        simpa using hcell
      obtain ⟨ys, s₁, hrest, hcell₁, hys, htrees, hredone⟩ := ih _ hcell' hh.2 hntail
        fun y hy => hparts y (List.mem_cons_of_mem _ hy)
      have hbehind : Behind s s₁ id x (idsItems tail) (idsItems ys) :=
        ⟨Store.cell?_eq_some_lt hcell, hh.1, hn, hredone⟩
      rw [List.length_append, List.length_singleton] at hrest
      rw [List.append_assoc, List.singleton_append] at hcell₁
      -- Its index is still good, since what is in front of it is as it was.
      have hslot : Slot s₁ (c.down (.index front.length)) id
          fun items _ => .list (front ++ items ++ ys.map ref) := slot_item hcell₁ hc rfl
      obtain ⟨w, y, t, hvisits, hcell₂, hw, hy, hredone', hmarked⟩ :=
        replay_part heard hslot (by simpa using hcell₁) hbehind.still hbehind.nodup
          hbehind.not_mem.1 (insideTable_mono hredone.types hinside) (hparts x List.mem_cons_self)
      have hys' : HoldsItems t ys := HoldsItems.keep hys hredone'.keeps hbehind.apart
      obtain ⟨all, hperm, hsub, -⟩ := Wrapping.ids_sublist y w
      refine ⟨w.items y ++ ys, t, ?_, ?_, ?_, ?_, ?_⟩
      · rw [visitsItems, replay_append, bind_ok hrest]
        exact hvisits
      · rw [hcell₂, List.map_append, List.append_assoc]
      · exact holdsItems_append.mpr ⟨hw.items hy, hys'⟩
      · rw [treeItems_append, Wrapping.treeItems_items, hmarked, htrees, rebuiltItems]
      · rw [idsItems_append]
        exact hredone.append (hredone'.restrict hperm hsub) (lt_size_of_mem_idsItems hys)
          hbehind.disjoint

theorem putField_append {α : Type} {key : String} {front behind : List (String × α)}
    (old new : α) (hkey : key ∉ front.map (·.1)) :
    putField (front ++ (key, old) :: behind) key new = front ++ (key, new) :: behind := by
  induction front with
  | nil => simp [putField]
  | cons f front ih =>
      obtain ⟨hne, hrest⟩ := not_or.mp (mt List.mem_cons.mpr hkey)
      rw [List.cons_append, putField, if_neg (by simpa using Ne.symm hne), ih hrest,
        List.cons_append]

/-- A field of a record is a place, unless it is the type. -/
theorem slot_field {front behind : List (String × Ref)} {key : String} {r : Ref}
    {outer : Stack Step} (hcell : s.cell? id = some (.record (front ++ (key, r) :: behind)))
    (hkey : key ∉ front.map (·.1)) (htype : key ≠ "type") (hc : c.containers.top? = some id)
    (hs : c.steps = outer.push (.key key)) :
    Slot s c id fun _ value => .record (front ++ (key, value) :: behind) where
  placed := isRoot_of_top? hc
  lt_size := Store.cell?_eq_some_lt hcell
  replace := fun t node value ht hsome _ => by
    have hc' : (c.facing node).containers.top? = some id := hc
    have hfield : (fieldOf? (front ++ (key, r) :: behind) key).isSome := by
      rw [← putField_append r r hkey, fieldOf?_putField_self]
      rfl
    have hreplace := Cursor.replace_in_record hc' hs (ht.trans hcell) hfield value
    rw [if_neg hsome, putField_append r value hkey] at hreplace
    exact ⟨_, hreplace⟩
  types := fun t items value ht => Store.types_put fun q hq => by
    have hlt : id < t.cells.size := Store.cell?_eq_some_lt (ht.trans hcell)
    rw [← putField_append r value hkey]
    rw [Store.field, ht.trans hcell] at hq
    rw [Store.field, Store.cell?_put_self _ hlt]
    dsimp only at hq ⊢
    rw [fieldOf?_putField_of_ne value (Ne.symm htype)]
    exact hq

theorem replay_fields (heard : Option (List Diagnostic)) {rest : List (String × Layout)}
    (front : List (String × Ref)) (hc : c.containers.top? = some id)
    (hcell : s.cell? id = some (.record (front ++ fieldRefs rest))) (hh : HoldsFields s rest)
    (hn : (id :: idsFields rest).Nodup) (hkeys : (front.map (·.1) ++ rest.map (·.1)).Nodup)
    (hinside : insideTable s c.ancestors.toList = .ok inside)
    (hparts : ∀ f ∈ rest, Rebuilds found f.2) : ∃ (ys : List (String × Layout)) (t : Store),
      replay found (visitsFields c rest) ⟨s, heard⟩ = .ok () ⟨t, heard⟩ ∧
      t.cell? id = some (.record (front ++ fieldRefs ys)) ∧ HoldsFields t ys ∧
      treeFields ys = rebuiltFields found inside rest ∧
      Redone s t [id] (idsFields rest) (idsFields ys) := by
  induction rest generalizing front with
  | nil =>
      exact ⟨[], s, rfl, hcell, trivial, rfl, Redone.refl .nil⟩
  | cons f tail ih =>
      obtain ⟨key, x⟩ := f
      have hntail : (id :: idsFields tail).Nodup :=
        hn.sublist ((List.sublist_append_right x.ids _).cons_cons id)
      have hkey : key ∉ front.map (·.1) := fun h =>
        (List.nodup_append.mp hkeys).2.2 key h key List.mem_cons_self rfl
      have hcell' : s.cell? id = some (.record ((front ++ [(key, x.ref)]) ++ fieldRefs tail)) := by
        simpa [fieldRefs] using hcell
      obtain ⟨ys, s₁, hrest, hcell₁, hys, htrees, hredone⟩ := ih _ hcell' hh.2 hntail
        (by simpa using hkeys) fun y hy => hparts y (List.mem_cons_of_mem _ hy)
      have hbehind : Behind s s₁ id x (idsFields tail) (idsFields ys) :=
        ⟨Store.cell?_eq_some_lt hcell, hh.1, hn, hredone⟩
      rw [List.append_assoc, List.singleton_append] at hcell₁
      by_cases htype : key = "type"
      · -- The type is not walked, and stays.
        refine ⟨(key, x) :: ys, s₁, ?_, hcell₁, ⟨hbehind.still, hys⟩, ?_, ?_⟩
        · rw [visitsFields, if_pos htype]
          exact hrest
        · rw [treeFields, htrees, rebuiltFields, if_pos htype]
        · exact hredone.append (Redone.refl hbehind.nodup) (lt_size_of_mem_idsFields hys)
            hbehind.disjoint
      · have hslot : Slot s₁ (c.down (.key key)) id
            fun _ value => .record (front ++ (key, value) :: fieldRefs ys) :=
          slot_field hcell₁ hkey htype hc rfl
        obtain ⟨w, y, t, hvisits, hcell₂, hw, hy, hredone', hmarked⟩ :=
          replay_part heard hslot hcell₁ hbehind.still hbehind.nodup hbehind.not_mem.1
            (insideTable_mono hredone.types hinside) (hparts (key, x) List.mem_cons_self)
        have hys' : HoldsFields t ys := HoldsFields.keep hys hredone'.keeps hbehind.apart
        obtain ⟨all, hperm, -, hsub⟩ := Wrapping.ids_sublist y w
        refine ⟨(key, w.value y) :: ys, t, ?_, hcell₂, ⟨hw.value hy, hys'⟩, ?_, ?_⟩
        · rw [visitsFields, if_neg htype, replay_append, bind_ok hrest]
          exact hvisits
        · rw [treeFields, Wrapping.tree_value, hmarked, htrees, rebuiltFields, if_neg htype]
        · exact hredone.append (hredone'.restrict hperm hsub) (lt_size_of_mem_idsFields hys)
            hbehind.disjoint

/-- A node inside a table says so of what is inside it. -/
theorem insideTable_inside {fields : List (String × Layout)}
    (hx : (Layout.record id fields).Holds s)
    (hinside : insideTable s c.ancestors.toList = .ok inside) :
    insideTable s (c.inside id (Layout.record id fields).isNode).ancestors.toList =
      .ok (inside || (Layout.record id fields).isTable) := by
  rw [isNode, isTable, Tree.isNode]
  cases htype : (Layout.record id fields).tree.nodeType? with
  | none => simpa [Cursor.inside] using hinside
  | some type =>
      have hfield := insideTable_snoc (field_type_of_holds hx htype) hinside
      have htable : (some type == some "table") = decide (type = "table") := by
        rw [Option.some_beq_some]
        exact Bool.beq_eq_decide_eq _ _
      rw [htable]
      simpa [Cursor.inside] using hfield

/-- **All nodes.** Marking the nodes inside a layout leaves what the pure rebuild
gives. -/
theorem rebuilds (found : Nat → List Remark) (hkeyed : x.tree.Keyed) : Rebuilds found x := by
  induction x using Layout.induct with
  | scalar value =>
      intro c s heard inside hx hn _
      exact ⟨.scalar value, s, rfl, rfl, hx, rfl, Redone.refl hn⟩
  | list id items ih =>
      intro c s heard inside hx hn hinside
      have hlt : id < s.cells.size := Store.cell?_eq_some_lt hx.1
      have hid : id ∉ idsItems items := (List.nodup_cons.mp hn).1
      obtain ⟨ys, t, hitems, hcell, hys, htrees, hredone⟩ :=
        replay_items (c := c.inside id false) heard [] rfl hx.1 hx.2 hn hinside
          fun y hy => ih y hy (keyedItems_iff.mp hkeyed y hy)
      refine ⟨.list id ys, t, hitems, rfl, ⟨hcell, hys⟩, ?_, hredone.whole hlt hid⟩
      rw [tree, htrees, rebuilt]
  | record id fields ih =>
      intro c s heard inside hx hn hinside
      have hlt : id < s.cells.size := Store.cell?_eq_some_lt hx.1
      have hid : id ∉ idsFields fields := (List.nodup_cons.mp hn).1
      have hkeys : (fields.map (·.1)).Nodup := keys_treeFields fields ▸ hkeyed.1
      obtain ⟨ys, t, hfields, hcell, hys, htrees, hredone⟩ :=
        replay_fields (c := c.inside id (Layout.record id fields).isNode) heard [] rfl hx.1 hx.2 hn
          hkeys (insideTable_inside hx hinside)
          fun f hf => ih f hf (keyedFields_iff.mp hkeyed.2 f hf)
      refine ⟨.record id ys, t, hfields, rfl, ⟨hcell, hys⟩, ?_, hredone.whole hlt hid⟩
      rw [tree, htrees, rebuilt]

/-! ### The whole document -/

/-- What is reported of a root with remarks, in the place of its mark. -/
def rootReport (found : Nat → List Remark) (x : Layout) (session : Session) : Session :=
  if x.remarks found = [] then session
  else session.report "unhighlighted-root" (session.typeOf x.ref)
    (.str "The root node can't be wrapped in a lint node")

/-- The root is not marked; there is a diagnostic instead. -/
theorem replay_root (found : Nat → List Remark) (x : Layout) (session : Session) :
    replay found (own .fresh x) session = .ok () (rootReport found x session) := by
  cases hid : x.id? with
  | none =>
      have hown : own .fresh x = [] := by simp [own, hid]
      have hremarks : x.remarks found = [] := by simp [remarks, hid]
      rw [hown, rootReport, if_pos hremarks]
      rfl
  | some n =>
      by_cases hnode : x.isNode = true
      · have hown : own .fresh x = [⟨n, x.text, Cursor.fresh.facing n⟩] := by
          simp [own, hid, hnode]
        have hremarks : x.remarks found = found n := by simp [remarks, hid, hnode]
        rw [hown, rootReport, hremarks]
        by_cases hnone : found n = []
        · rw [replay_of_none hnone, if_pos hnone]
          rfl
        · rw [replay_of_some hnone, if_neg hnone, Layout.id?_eq_some.mp hid]
          rfl
      · have hown : own .fresh x = [] := by simp [own, hid, hnode]
        have hremarks : x.remarks found = [] := by simp [remarks, hnode]
        rw [hown, rootReport, if_pos hremarks]
        rfl

/-- The store holds the rebuilt document in the place of `x`. -/
def Rebuilt (found : Nat → List Remark) (x : Layout) (t : Store) : Prop :=
  ∃ y : Layout, y.ref = x.ref ∧ y.Holds t ∧ y.ids.Nodup ∧ y.tree = x.rebuilt found false

theorem Rebuilt.tree (h : Rebuilt found x t) : t.tree x.ref = x.rebuilt found false := by
  obtain ⟨y, href, hy, hn, htree⟩ := h
  rw [← href, tree_of_holds hy hn, htree]

/-- **Highlighting is the pure rebuild**, for the visits of a whole document. Nothing is
reported but a root with remarks. -/
theorem replay_document (found : Nat → List Remark) (hlays : s.Lays x)
    (heard : Option (List Diagnostic)) : ∃ t,
      replay found (x.visits .fresh) ⟨s, heard⟩ =
        .ok () ⟨t, (rootReport found x ⟨s, heard⟩).heard⟩ ∧
      Rebuilt found x t := by
  have hstore : (rootReport found x ⟨s, heard⟩).store = s := by
    unfold rootReport
    split <;> rfl
  obtain ⟨y, t, hinner, href, hy, htree, hredone⟩ :=
    rebuilds found hlays.keyed .fresh s (rootReport found x ⟨s, heard⟩).heard false hlays.holds
      hlays.unshared rfl
  refine ⟨t, ?_, y, href, hy, hredone.nodup, htree⟩
  rw [visits_eq_inner, replay_append, bind_ok (replay_root found x ⟨s, heard⟩)]
  generalize rootReport found x ⟨s, heard⟩ = session at hstore hinner ⊢
  cases session
  subst hstore
  exact hinner

end Highlight

end DocLint
