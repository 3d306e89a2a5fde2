import DocLint.Lint.Text
import DocLint.Proofs.Lint.Merged
import DocLint.Proofs.Walk.Step

/-!
# DocLint.Proofs.Lint.Merge

**Merging text leaves** in place leaves the merged document (`mergeText_merged`), if the leaves
have nothing inside them (`Tree.Bare`).

The walk changes the very list that it goes through. A leaf takes up the whole run behind it
before the walk comes to any of that run (`absorb_run`), and so the list is a shorter one
whenever the walk asks for its next item. `Took` says what is left to be done then: the items
behind the run, merged, are the rest of the merged list. `items_merges` and `fields_merges`
are the loops, by induction on the allowance and on the fields.
-/

namespace DocLint

namespace Lint

open Layout

/-! ### What a leaf takes up -/

variable {s : Store} {c : Cursor} {id n : Nat} {fields : List (String × Layout)}
  {front : List Ref} {outer : Stack Step} {text more : String}

/-- A leaf takes up the text of the leaf right behind it, which goes. -/
theorem absorb_step {behind : List Ref} {r : Ref} (count : Nat)
    (hc : c.containers.top? = some id) (hs : c.steps = outer.push (.index front.length))
    (hne : n ≠ id) (hleaf : s.cell? n = some (.record (fieldRefs fields)))
    (htext : s.leafText? (.object n) = some text)
    (hcell : s.cell? id = some (.list (front ++ .object n :: r :: behind)))
    (hmore : s.leafText? r = some more) : ∃ t : Store,
    absorb n (count + 1) (⟨s, c, ()⟩ : Scene Unit) = absorb n count ⟨t, c, ()⟩ ∧
      t.cell? n = some (.record
        (fieldRefs (putField fields "content" (.scalar (.str (text ++ more)))))) ∧
      t.cell? id = some (.list (front ++ .object n :: behind)) ∧ s.Rewrites t [id, n] := by
  have hlength : (front.length : Int) + 1 = (front ++ [Ref.object n]).length := by simp
  have hsplit : front ++ .object n :: r :: behind = (front ++ [Ref.object n]) ++ r :: behind := by
    simp
  have hnext : c.nextSibling s = .ok r :=
    Cursor.nextSibling_in_list hc hs hlength (hsplit ▸ hcell)
  -- First the text is put into the leaf, then the other leaf is taken out.
  let leaf : Cell := .record (fieldRefs (putField fields "content" (.scalar (.str (text ++ more)))))
  let s₁ := s.put n leaf
  have hset : s.setField (.object n) "content" (.scalar (.str (text ++ more))) = .ok s₁ := by
    rw [Store.setField, hleaf]
    dsimp only [s₁, leaf]
    rw [fieldRefs_putField]
    rfl
  have hcell₁ : s₁.cell? id = some (.list ((front ++ [Ref.object n]) ++ r :: behind)) := by
    rw [Store.cell?_put_of_ne leaf hne.symm, hcell, hsplit]
  have hremove := Cursor.removeNext_in_list hc hs hlength hcell₁
  rw [List.append_assoc, List.singleton_append] at hremove
  refine ⟨s₁.put id (.list (front ++ .object n :: behind)), ?_, ?_, ?_, ?_⟩
  · rw [absorb, get_bind]
    dsimp only
    rw [hnext, bind_lift_ok, hmore]
    dsimp only
    rw [htext, Option.getD_some, hset, bind_lift_ok, hremove, bind_lift_ok]
    rfl
  · rw [Store.cell?_put_of_ne _ hne, Store.cell?_put_self _ (Store.cell?_eq_some_lt hleaf)]
  · exact Store.cell?_put_self _ (Store.cell?_eq_some_lt hcell₁)
  · exact ((Store.rewrites_put s n _).mono (by simp)).trans
      ((Store.rewrites_put s₁ id _).mono (by simp))

/-- Nothing is taken up where no leaf comes next. -/
theorem absorb_stop {r : Ref} (hnext : c.nextSibling s = .ok r) (hother : s.leafText? r = none)
    (count : Nat) : absorb n count (⟨s, c, ()⟩ : Scene Unit) = .ok () ⟨s, c, ()⟩ := by
  cases count with
  | zero => rfl
  | succ count =>
      rw [absorb, get_bind]
      dsimp only
      rw [hnext, bind_lift_ok, hother]
      rfl

/-- A leaf of a list takes up the run of leaves behind it, and no more. -/
theorem absorb_run {run left : List Layout} {count : Nat} (hc : c.containers.top? = some id)
    (hs : c.steps = outer.push (.index front.length)) (hne : n ≠ id) (hcount : run.length ≤ count)
    (hflat : Flat fields) (hleaf : s.cell? n = some (.record (fieldRefs fields)))
    (htext : (Layout.record n fields).tree.leafText? = some text)
    (hcell : s.cell? id = some (.list (front ++ .object n :: (run ++ left).map ref)))
    (hholds : HoldsItems s (run ++ left)) (hrun : ∀ y ∈ run, y.tree.isTextLeaf = true)
    (hleft : ∀ y ∈ left.head?, y.tree.isTextLeaf = false)
    (hapart : ∀ i ∈ idsItems (run ++ left), i ∉ [id, n]) : ∃ t : Store,
    absorb n count (⟨s, c, ()⟩ : Scene Unit) = .ok () ⟨t, c, ()⟩ ∧
      t.cell? n = some (.record (fieldRefs (putField fields "content"
        (.scalar (.str (text ++ Tree.runText (treeItems run))))))) ∧
      t.cell? id = some (.list (front ++ .object n :: left.map ref)) ∧ s.Rewrites t [id, n] := by
  have hlength : (front.length : Int) + 1 = (front ++ [Ref.object n]).length := by simp
  induction run generalizing s fields text count with
  | nil =>
      have hsame : putField fields "content" (.scalar (.str text)) = fields :=
        Tree.putField_self (fieldOf?_content_of_leaf htext)
      have hstop : absorb n count (⟨s, c, ()⟩ : Scene Unit) = .ok () ⟨s, c, ()⟩ := by
        cases left with
        | nil => exact absorb_stop (Cursor.nextSibling_at_end hc hs hlength hcell) rfl count
        | cons y left =>
            have hnext : c.nextSibling s = .ok y.ref :=
              Cursor.nextSibling_in_list hc hs hlength (by simpa using hcell)
            have hother : y.tree.leafText? = none := by
              simpa [Tree.isTextLeaf] using hleft y rfl
            exact absorb_stop hnext ((leafText?_of_holds hholds.1).trans hother) count
      refine ⟨s, hstop, ?_, hcell, .refl s _⟩
      rw [show text ++ Tree.runText (treeItems []) = text from String.append_empty, hsame, hleaf]
  | cons y run ih =>
      obtain ⟨hy, hmore⟩ := List.forall_mem_cons.mp hrun
      obtain ⟨added, hy⟩ := Option.isSome_iff_exists.mp hy
      obtain ⟨count, rfl⟩ : ∃ k, count = k + 1 := by
        rw [List.length_cons] at hcount
        exact ⟨count - 1, by omega⟩
      have hown : s.leafText? (.object n) = some text := by
        have hleafHolds : (Layout.record n fields).Holds s := ⟨hleaf, hflat.holds s⟩
        exact (leafText?_of_holds hleafHolds).trans htext
      obtain ⟨s₁, hstep, hleaf₁, hcell₁, hkeeps⟩ :=
        absorb_step count hc hs hne hleaf hown hcell ((leafText?_of_holds hholds.1).trans hy)
      have hapart₁ : ∀ i ∈ idsItems (run ++ left), i ∉ [id, n] := fun i hi =>
        hapart i (List.mem_append_right _ hi)
      have htext₁ : ((Layout.record n fields).withText (text ++ added)).tree.leafText? =
          some (text ++ added) := by
        rw [tree_withText, Tree.leafText?_withText htext]
      obtain ⟨t, habsorb, hleaf', hcell', hkeeps'⟩ :=
        ih (Nat.le_of_succ_le_succ hcount) (hflat.putField "content" _) hleaf₁ htext₁ hcell₁
          (HoldsItems.keep hholds.2 hkeeps.keeps hapart₁) hmore hapart₁
      refine ⟨t, hstep.trans habsorb, ?_, hcell', hkeeps.trans hkeeps'⟩
      rw [hleaf', Tree.putField_putField, treeItems, Tree.runText_cons hy, String.append_assoc]

/-! ### Leaves on the way -/

theorem fields_flat {σ : Type} {visit : Visitor σ} {rest : List (String × Layout)}
    {allowance : Nat} {w : Scene σ} {now : List (String × Ref)} (content : String)
    (hflat : Flat rest) (hfuel : rest.length < allowance)
    (hcell : w.store.cell? n = some (.record now))
    (hnow : ∀ f ∈ rest, fieldOf? now f.1 = some f.2.ref) :
    Walk.fields visit allowance n (rest.map (·.1)) content w = .ok content w := by
  induction hflat using Flat.induct generalizing allowance with
  | nil => exact Walk.fields_nil _ _ _ _
  | cons _ ih =>
      obtain ⟨hfield, hlater⟩ := List.forall_mem_cons.mp hnow
      obtain ⟨allowance, rfl⟩ := Nat.exists_eq_add_one.mpr (Nat.zero_lt_of_lt hfuel)
      rw [← Store.field?_record hcell] at hfield
      rcases Walk.field_cases hfield with ⟨-, hnone⟩ | ⟨-, child, href, -⟩
      · rw [List.map_cons, Walk.fields_skip hnone]
        exact ih (Nat.lt_of_succ_lt_succ hfuel) hlater
      · cases href

/-- To walk a leaf with nothing inside is to visit it. -/
theorem value_leaf {σ : Type} {visit : Visitor σ} {allowance : Nat} {w : Scene σ}
    (hflat : Flat fields) (hfuel : (Layout.record n fields).extent < allowance)
    (hx : (Layout.record n fields).Holds w.store) (hkeyed : (Layout.record n fields).tree.Keyed)
    (htext : (Layout.record n fields).tree.leafText? = some text) :
    Walk.value visit allowance (.object n) w =
      (visit n text >>= fun _ => pure text) { w with cursor := w.cursor.facing n } := by
  obtain ⟨allowance, rfl, hfuel₁⟩ := allowance_record hfuel
  have hnode : w.store.isNode (.object n) = true := by
    have htype := (leafText?_tree.mp htext).1
    rw [← nodeType?_of_holds hx] at htype
    exact congrArg Option.isSome htype
  have hown : (w.store.leafText? (.object n)).getD "" = text := by
    have hstore := (leafText?_of_holds hx).trans htext
    exact congrArg (Option.getD · "") hstore
  have hrest : fields.length < allowance := Nat.lt_of_le_of_lt (Nat.le_add_right _ _) hfuel₁
  let w₁ : Scene σ := { w with cursor := w.cursor.inside n true }
  have hfields : Walk.fields visit allowance n (fields.map (·.1)) text w₁ = .ok text w₁ :=
    fields_flat text hflat hrest hx.1 (fieldOf?_refs_of_keyed hkeyed)
  rw [Walk.value_node hx.1 hnode, keys_fieldRefs, hown, bind_ok hfields,
    bind_ok (Walk.leaveNode_apply rfl rfl)]
  rfl

theorem merging_other {content : String} {w : Scene Unit}
    (h : w.store.leafText? (.object n) = none) : merging n content w = .ok () w := by
  have hother : w.store.isTextLeaf (.object n) = false := congrArg Option.isSome h
  rw [merging, get_bind, hother]
  rfl

theorem merging_leaf {content : String} {w : Scene Unit}
    (h : w.store.leafText? (.object n) = some text) :
    merging n content w =
      absorb n (((w.cursor.siblings? w.store).map (·.2)).getD []).length w := by
  have hleaf : w.store.isTextLeaf (.object n) = true := congrArg Option.isSome h
  rw [merging, get_bind, if_pos hleaf]

/-! ### The walk -/

/-- In `t`, the layout `x` of `s` has become `y`: it is merged, and nothing else is written. -/
structure Fused (s t : Store) (x y : Layout) : Prop where
  eq : y = x.merged
  holds : y.Holds t
  keeps : s.Rewrites t x.ids

namespace Fused

variable {t : Store} {x y : Layout}

theorem ref (h : Fused s t x y) : y.ref = x.ref := by rw [h.eq, ref_merged]

theorem tree (h : Fused s t x y) : y.tree = x.tree.merged := by rw [h.eq, tree_merged]

theorem ids (h : Fused s t x y) : y.ids.Sublist x.ids := h.eq ▸ ids_merged x

end Fused

/-- A walk that merges makes of `x` what the recursion gives, unless `x` is a leaf in a list. -/
def Merges (x : Layout) : Prop :=
  ∀ {allowance : Nat} {w : Scene Unit}, x.extent < allowance → x.Holds w.store → x.ids.Nodup →
    (x.tree.isTextLeaf = true → w.cursor.siblings? w.store = none) →
      ∃ (content : String) (y : Layout) (t : Store) (r : Ref),
        Walk.value merging allowance x.ref w = .ok content ⟨t, { w.cursor with current := r }, ()⟩ ∧
        Fused w.store t x y

/-- In `t`, the item `x` of the list `id` has become `y`, and of the items `tail` behind it `left`
are left; to merge these is all that remains to be done. -/
structure Took (s t : Store) (id : Nat) (front : List Ref) (x y : Layout)
    (tail left : List Layout) : Prop where
  eq : mergeRuns (mergedParts (x :: tail)) = y :: mergeRuns (mergedParts left)
  suffix : left <:+ tail
  ref : y.ref = x.ref
  ids : y.ids.Sublist x.ids
  holds : y.Holds t
  cell : t.cell? id = some (.list (front ++ x.ref :: left.map Layout.ref))
  keeps : s.Rewrites t (id :: x.ids)

/-- In `t`, the items `rest` of the list `id`, behind `front`, have become `ys`. -/
structure FusedItems (s t : Store) (id : Nat) (front : List Ref) (rest ys : List Layout) :
    Prop where
  eq : ys = mergeRuns (mergedParts rest)
  cell : t.cell? id = some (.list (front ++ ys.map ref))
  holds : HoldsItems t ys
  keeps : s.Rewrites t (id :: idsItems rest)

theorem apart_of_nodup {one two : List Nat} (hn : (id :: (one ++ two)).Nodup) :
    (∀ i ∈ one, i ∉ id :: two) ∧ ∀ i ∈ two, i ∉ id :: one := by
  obtain ⟨hid, hids⟩ := List.nodup_cons.mp hn
  obtain ⟨-, -, hdisjoint⟩ := List.nodup_append.mp hids
  refine ⟨?_, ?_⟩
  · intro i hi hmem
    rcases List.mem_cons.mp hmem with rfl | hmem
    · exact hid (List.mem_append_left _ hi)
    · exact hdisjoint i hi i hmem rfl
  · intro i hi hmem
    rcases List.mem_cons.mp hmem with rfl | hmem
    · exact hid (List.mem_append_right _ hi)
    · exact hdisjoint i hmem i hi rfl

section

variable {t : Store} {x y : Layout} {tail left ys : List Layout}

theorem idsItems_suffix (h : left <:+ tail) : (idsItems left).Sublist (idsItems tail) := by
  obtain ⟨taken, rfl⟩ := h
  rw [idsItems_append]
  exact List.sublist_append_right _ _

theorem extentItems_suffix (h : left <:+ tail) :
    left.length + extentItems left ≤ tail.length + extentItems tail := by
  obtain ⟨taken, rfl⟩ := h
  rw [extentItems_append, List.length_append]
  omega

/-- What is left behind an item is as it was. -/
theorem Took.holds_left (h : Took s t id front x y tail left) (htail : HoldsItems s tail)
    (hn : (id :: (x.ids ++ idsItems tail)).Nodup) : HoldsItems t left := by
  obtain ⟨taken, rfl⟩ := h.suffix
  refine HoldsItems.keep (holdsItems_append.mp htail).2 h.keeps.keeps ?_
  intro i hi
  exact (apart_of_nodup hn).2 i ((idsItems_suffix h.suffix).subset hi)

/-- An item, and then the items left behind it. -/
theorem Took.cons {u : Store} (h : Took s t id front x y tail left)
    (hrest : FusedItems t u id (front ++ [x.ref]) left ys)
    (hn : (id :: (x.ids ++ idsItems tail)).Nodup) :
    FusedItems s u id front (x :: tail) (y :: ys) := by
  have hleft : (idsItems left).Sublist (idsItems tail) := idsItems_suffix h.suffix
  have hapart : ∀ i ∈ y.ids, i ∉ id :: idsItems left := by
    intro i hi hmem
    refine (apart_of_nodup hn).1 i (h.ids.subset hi) ?_
    exact List.cons_subset_cons id hleft.subset hmem
  refine ⟨?_, ?_, ⟨h.holds.keep hrest.keeps.keeps hapart, hrest.holds⟩, ?_⟩
  · rw [h.eq, hrest.eq]
  · rw [hrest.cell, List.append_assoc, List.singleton_append, List.map_cons, h.ref]
  · refine (h.keeps.mono ?_).trans (hrest.keeps.mono ?_)
    · exact List.cons_subset_cons _ (List.subset_append_left _ _)
    · refine List.cons_subset_cons _ ?_
      exact List.Subset.trans hleft.subset (List.subset_append_right _ _)

end

/-- An item that is no leaf leaves what is behind it. -/
theorem Fused.took {t : Store} {x y : Layout} {tail : List Layout} (h : Fused s t x y)
    (hother : x.tree.leafText? = none)
    (hcell : s.cell? id = some (.list (front ++ x.ref :: tail.map Layout.ref))) (hid : id ∉ x.ids) :
    Took s t id front x y tail tail := by
  have hx : x.tree.isTextLeaf = false := congrArg Option.isSome hother
  refine ⟨?_, List.suffix_refl _, h.ref, h.ids, h.holds, h.keeps.keeps.cell?_eq hcell hid, ?_⟩
  · rw [mergeRuns_parts_other hx, h.eq]
  · exact h.keeps.mono (List.subset_cons_self _ _)

/-- To visit a leaf in a list is to take up the run of leaves behind it. -/
theorem merging_spec {tail : List Layout} {content : String} {w : Scene Unit}
    (hc : w.cursor.containers.top? = some id)
    (hs : w.cursor.steps = outer.push (.index front.length)) (hne : n ≠ id) (hflat : Flat fields)
    (hleaf : w.store.cell? n = some (.record (fieldRefs fields)))
    (htext : (Layout.record n fields).tree.leafText? = some text)
    (hcell : w.store.cell? id = some (.list (front ++ .object n :: tail.map ref)))
    (htail : HoldsItems w.store tail) (hapart : ∀ i ∈ idsItems tail, i ∉ [id, n]) :
    ∃ (y : Layout) (left : List Layout) (t : Store),
      merging n content w = .ok () ⟨t, w.cursor, ()⟩ ∧
        Took w.store t id front (.record n fields) y tail left := by
  have hsiblings : w.cursor.siblings? w.store = some (id, front ++ .object n :: tail.map ref) :=
    Cursor.siblings?_list hc hcell
  obtain ⟨run, left, rfl, hrun, hleft⟩ := exists_run tail
  have hcount : run.length ≤ (((w.cursor.siblings? w.store).map (·.2)).getD []).length := by
    rw [hsiblings, Option.map_some, Option.getD_some, List.length_append, List.length_cons,
      List.length_map, List.length_append]
    omega
  obtain ⟨t, habsorb, hcell', hlist, hkeeps⟩ :=
    absorb_run hc hs hne hcount hflat hleaf htext hcell htail hrun hleft hapart
  have hholds : (Layout.record n fields).Holds w.store := ⟨hleaf, hflat.holds w.store⟩
  have hown : w.store.leafText? (.object n) = some text := (leafText?_of_holds hholds).trans htext
  have hids : (Layout.record n fields).ids = [n] := congrArg (n :: ·) hflat.ids
  let y := (Layout.record n fields).withText (text ++ Tree.runText (treeItems run))
  have hrun' : ∀ z ∈ Layout.record n fields :: run, z.tree.isTextLeaf = true :=
    List.forall_mem_cons.mpr ⟨congrArg Option.isSome htext, hrun⟩
  refine ⟨y, left, t, (merging_leaf hown).trans habsorb, ?_, List.suffix_append _ _, rfl,
    ids_withText _ _, ⟨hcell', (hflat.putField _ _).holds t⟩, hlist, ?_⟩
  · rw [← List.cons_append, mergeRuns_parts_run hrun' hleft, treeItems, Tree.runText_cons htext,
      merged, hflat.merged]
  · rw [hids]
    exact hkeeps

/-- One item of a list, and what is left behind it. -/
theorem item_merges {x : Layout} {tail : List Layout} {allowance : Nat} {w : Scene Unit}
    (hparts : Merges x) (hbare : x.tree.Bare) (hkeyed : x.tree.Keyed)
    (hfuel : x.extent < allowance) (hc : w.cursor.containers.top? = some id)
    (hcell : w.store.cell? id = some (.list (front ++ x.ref :: tail.map ref)))
    (hx : x.Holds w.store) (htail : HoldsItems w.store tail)
    (hn : (id :: (x.ids ++ idsItems tail)).Nodup) :
    ∃ (content : String) (y : Layout) (left : List Layout) (t : Store) (r : Ref),
      Walk.value merging allowance x.ref
          { w with cursor := w.cursor.down (.index front.length) } =
        .ok content ⟨t, { w.cursor.down (.index front.length) with current := r }, ()⟩ ∧
      Took w.store t id front x y tail left := by
  obtain ⟨hid, hids⟩ := List.nodup_cons.mp hn
  have hidx : id ∉ x.ids := fun h => hid (List.mem_append_left _ h)
  let w₁ : Scene Unit := { w with cursor := w.cursor.down (.index front.length) }
  cases htext : x.tree.leafText? with
  | none =>
      have hnot : x.tree.isTextLeaf ≠ true := by simp [Tree.isTextLeaf, htext]
      obtain ⟨content, y, t, r, hvalue, hy⟩ :=
        hparts (w := w₁) hfuel hx (List.nodup_append.mp hids).1 fun h => absurd h hnot
      exact ⟨content, y, tail, t, r, hvalue, hy.took htext hcell hidx⟩
  | some text =>
      obtain ⟨n, fields, rfl, hflat⟩ := record_of_leaf htext hbare
      have hne : n ≠ id := fun h => hidx (h ▸ List.mem_cons_self)
      have hapart : ∀ i ∈ idsItems tail, i ∉ [id, n] := by
        intro i hi hmem
        refine (apart_of_nodup hn).2 i hi (List.cons_subset_cons id ?_ hmem)
        exact List.cons_subset.mpr ⟨List.mem_cons_self, List.nil_subset _⟩
      let w₂ : Scene Unit := { w₁ with cursor := w₁.cursor.facing n }
      obtain ⟨y, left, t, hvisit, htook⟩ :=
        merging_spec (w := w₂) hc rfl hne hflat hx.1 htext hcell htail hapart
      refine ⟨text, y, left, t, .object n, ?_, htook⟩
      have hvalue : Walk.value merging allowance (.object n) w₁ =
          (merging n text >>= fun _ => pure text) w₂ := value_leaf hflat hfuel hx hkeyed htext
      exact hvalue.trans (bind_ok hvisit)

/-- The items of a list from one index on. -/
theorem items_merges {allowance : Nat} {rest : List Layout} {w : Scene Unit} {index : Int}
    (content : String) (hindex : index = front.length) (hparts : ∀ x ∈ rest, Merges x)
    (hbare : ∀ x ∈ rest, x.tree.Bare) (hkeyed : ∀ x ∈ rest, x.tree.Keyed)
    (hfuel : rest.length + extentItems rest < allowance) (hc : w.cursor.containers.top? = some id)
    (hcell : w.store.cell? id = some (.list (front ++ rest.map ref)))
    (hholds : HoldsItems w.store rest) (hn : (id :: idsItems rest).Nodup) :
    ∃ (content' : String) (ys : List Layout) (t : Store) (r : Ref),
      Walk.items merging allowance id index content w =
        .ok content' ⟨t, { w.cursor with current := r }, ()⟩ ∧
      FusedItems w.store t id front rest ys := by
  subst hindex
  -- Fewer items may be left behind a leaf than stood there, so the induction is on the allowance.
  induction allowance generalizing rest front w content with
  | zero => omega
  | succ allowance ih =>
      cases rest with
      | nil =>
          exact ⟨content, [], w.store, w.cursor.current, Walk.items_end hcell (by simp), rfl, hcell,
            trivial, .refl _ _⟩
      | cons x tail =>
          rw [List.length_cons, extentItems] at hfuel
          have hx : x.extent < allowance := by omega
          obtain ⟨more, y, left, s₁, r, hvalue, htook⟩ :=
            item_merges (hparts x List.mem_cons_self) (hbare x List.mem_cons_self)
              (hkeyed x List.mem_cons_self) hx hc hcell hholds.1 hholds.2 hn
          have hsub : ∀ {z}, z ∈ left → z ∈ x :: tail := fun hz =>
            List.mem_cons_of_mem _ (htook.suffix.subset hz)
          have hfuel₁ := extentItems_suffix htook.suffix
          have hn₁ : (id :: idsItems left).Nodup := by
            refine hn.sublist (List.Sublist.cons_cons id ?_)
            exact (idsItems_suffix htook.suffix).trans (List.sublist_append_right _ _)
          have hcell₁ : s₁.cell? id = some (.list ((front ++ [x.ref]) ++ left.map ref)) := by
            rw [htook.cell, List.append_assoc, List.singleton_append]
          let w₁ : Scene Unit := ⟨s₁, { w.cursor with current := r }, ()⟩
          obtain ⟨content', ys, t, r', hitems, hys⟩ :=
            ih (w := w₁) (content ++ more) (fun z hz => hparts z (hsub hz))
              (fun z hz => hbare z (hsub hz)) (fun z hz => hkeyed z (hsub hz)) (by omega) hc hcell₁
              (htook.holds_left hholds.2 hn) hn₁
          refine ⟨content', y :: ys, t, r', ?_, htook.cons hys hn⟩
          have hindex : (front.length : Int) + 1 = (front ++ [x.ref]).length := by simp
          rw [Walk.items_step (r := x.ref) hcell (by simp), bind_ok hvalue,
            bind_ok (Walk.nextIndex_apply rfl), hindex]
          exact hitems

/-- In `t`, the fields have become `ys`, and the record still has them. -/
structure FusedFields (s t : Store) (fields ys : List (String × Layout)) : Prop where
  eq : ys = mergedFields fields
  refs : fieldRefs ys = fieldRefs fields
  holds : HoldsFields t ys
  keeps : s.Rewrites t (idsFields fields)

section

variable {t u : Store} {key : String} {x y : Layout} {rest ys : List (String × Layout)}

/-- A field that the walk skips stays. -/
theorem FusedFields.skip (h : FusedFields s t rest ys)
    (hskip : key = "type" ∨ ∃ value, x = .scalar value) (hx : x.Holds s)
    (hn : (idsFields ((key, x) :: rest)).Nodup) :
    FusedFields s t ((key, x) :: rest) ((key, x) :: ys) := by
  obtain ⟨-, -, hdisjoint⟩ := List.nodup_append.mp hn
  have hstays : (if key = "type" then x else x.merged) = x := by
    rcases hskip with rfl | ⟨value, rfl⟩
    · exact if_pos rfl
    · exact ite_self _
  refine ⟨?_, congrArg ((key, x.ref) :: ·) h.refs, ⟨?_, h.holds⟩, ?_⟩
  · rw [mergedFields, hstays, h.eq]
  · exact hx.keep h.keeps.keeps fun i hi hmem => hdisjoint i hi i hmem rfl
  · exact h.keeps.mono (List.subset_append_right _ _)

/-- A field, and then the fields behind it. -/
theorem FusedFields.cons (hy : Fused s t x y) (h : FusedFields t u rest ys) (htype : key ≠ "type")
    (hn : (idsFields ((key, x) :: rest)).Nodup) :
    FusedFields s u ((key, x) :: rest) ((key, y) :: ys) := by
  obtain ⟨-, -, hdisjoint⟩ := List.nodup_append.mp hn
  refine ⟨?_, ?_, ⟨?_, h.holds⟩, ?_⟩
  · rw [mergedFields, if_neg htype, hy.eq, h.eq]
  · rw [fieldRefs, List.map_cons, hy.ref]
    exact congrArg ((key, x.ref) :: ·) h.refs
  · exact hy.holds.keep h.keeps.keeps fun i hi hmem => hdisjoint i (hy.ids.subset hi) i hmem rfl
  · exact (hy.keeps.mono (List.subset_append_left _ _)).trans
      (h.keeps.mono (List.subset_append_right _ _))

theorem FusedFields.record (h : FusedFields s t rest ys)
    (hcell : s.cell? n = some (.record (fieldRefs rest))) (hnot : n ∉ idsFields rest) :
    Fused s t (.record n rest) (.record n ys) where
  eq := congrArg (Layout.record n) h.eq
  holds := ⟨h.refs ▸ h.keeps.keeps.cell?_eq hcell hnot, h.holds⟩
  keeps := h.keeps.mono (List.subset_cons_self _ _)

end

/-- The fields of a record from one key on. -/
theorem fields_merges {rest : List (String × Layout)} {allowance : Nat} {w : Scene Unit}
    {now : List (String × Ref)} (content : String) (hparts : ∀ f ∈ rest, Merges f.2)
    (hfuel : rest.length + extentFields rest < allowance) (hc : w.cursor.containers.top? = some n)
    (hcell : w.store.cell? n = some (.record now))
    (hnow : ∀ f ∈ rest, fieldOf? now f.1 = some f.2.ref) (hholds : HoldsFields w.store rest)
    (hn : (n :: idsFields rest).Nodup) :
    ∃ (content' : String) (ys : List (String × Layout)) (t : Store) (r : Ref),
      Walk.fields merging allowance n (rest.map (·.1)) content w =
        .ok content' ⟨t, { w.cursor with current := r }, ()⟩ ∧
      FusedFields w.store t rest ys := by
  induction rest generalizing allowance w content with
  | nil =>
      exact ⟨content, [], w.store, w.cursor.current, Walk.fields_nil _ _ _ _, rfl, rfl, trivial,
        .refl _ _⟩
  | cons f tail ih =>
      obtain ⟨key, x⟩ := f
      obtain ⟨hx, htail⟩ := List.forall_mem_cons.mp hparts
      obtain ⟨hfield, hlater⟩ := List.forall_mem_cons.mp hnow
      obtain ⟨allowance, rfl, hxfuel, hfuel₁⟩ := allowance_field hfuel
      obtain ⟨hid, hids⟩ := List.nodup_cons.mp hn
      obtain ⟨hnot, hnottail⟩ := not_or.mp (mt List.mem_append.mpr hid)
      obtain ⟨hnx, hntail, hdisjoint⟩ := List.nodup_append.mp hids
      have hn₁ : (n :: idsFields tail).Nodup := List.nodup_cons.mpr ⟨hnottail, hntail⟩
      rw [← Store.field?_record hcell] at hfield
      rw [List.map_cons]
      rcases Walk.field_cases hfield with ⟨hskip, hnone⟩ | ⟨htype, child, href, hsome⟩
      · obtain ⟨content', ys, t, r, hfields, hys⟩ := ih content htail hfuel₁ hc hcell hlater
          hholds.2 hn₁
        refine ⟨content', (key, x) :: ys, t, r, ?_, hys.skip hskip hholds.1 hids⟩
        rw [Walk.fields_skip hnone, hfields]
      · obtain ⟨more, y, s₁, r, hvalue, hy⟩ :=
          hx (w := { w with cursor := w.cursor.down (.key key) }) hxfuel hholds.1 hnx
            fun _ => Cursor.siblings?_record hc hcell
        let w₁ : Scene Unit := ⟨s₁, { w.cursor with current := r }, ()⟩
        have hholds₁ : HoldsFields s₁ tail := HoldsFields.keep hholds.2 hy.keeps.keeps
          fun i hi hmem => hdisjoint i hmem i hi rfl
        obtain ⟨content', ys, t, r', hfields, hys⟩ :=
          ih (w := w₁) (content ++ more) htail hfuel₁ hc (hy.keeps.keeps.cell?_eq hcell hnot) hlater
            hholds₁ hn₁
        refine ⟨content', (key, y) :: ys, t, r', ?_, .cons hy hys htype hids⟩
        rw [Walk.fields_step htype hsome, ← href, bind_ok hvalue, bind_ok (Walk.stepUp_apply rfl)]
        exact hfields

/-- A leaf that nothing stands beside stays as it is. -/
theorem leaf_merges {allowance : Nat} {w : Scene Unit} (hflat : Flat fields)
    (hfuel : (Layout.record n fields).extent < allowance)
    (hx : (Layout.record n fields).Holds w.store) (hkeyed : (Layout.record n fields).tree.Keyed)
    (htext : (Layout.record n fields).tree.leafText? = some text)
    (halone : w.cursor.siblings? w.store = none) :
    Walk.value merging allowance (.object n) w =
      .ok text { w with cursor := w.cursor.facing n } := by
  let w₁ : Scene Unit := { w with cursor := w.cursor.facing n }
  have hown : w₁.store.leafText? (.object n) = some text := (leafText?_of_holds hx).trans htext
  have hnone : w₁.cursor.siblings? w₁.store = none := halone
  have hvisit : merging n text w₁ = .ok () w₁ := by
    rw [merging_leaf hown, hnone]
    rfl
  rw [value_leaf hflat hfuel hx hkeyed htext]
  exact bind_ok hvisit

/-- A record that is no leaf. -/
theorem record_merges (hother : (Layout.record n fields).tree.leafText? = none)
    (hkeyed : (Layout.record n fields).tree.Keyed) (hparts : ∀ f ∈ fields, Merges f.2) :
    Merges (.record n fields) := by
  intro allowance w hfuel hholds hn _
  obtain ⟨allowance, rfl, hfuel₁⟩ := allowance_record hfuel
  have hfields (node : Bool) :=
    fields_merges (w := { w with cursor := w.cursor.inside n node }) "" hparts hfuel₁ rfl hholds.1
      (fieldOf?_refs_of_keyed hkeyed) hholds.2 hn
  have hnot : n ∉ idsFields fields := (List.nodup_cons.mp hn).1
  have hnode := isNode_of_holds hholds
  rw [ref] at hnode ⊢
  cases hkind : (Layout.record n fields).isNode with
  | false =>
      obtain ⟨content, ys, t, r, hwalk, hys⟩ := hfields false
      refine ⟨content, .record n ys, t, r, ?_, hys.record hholds.1 hnot⟩
      rw [Walk.value_record hholds.1 (hnode.trans hkind), keys_fieldRefs]
      refine Eq.trans (bind_ok hwalk) ?_
      rw [bind_ok (Walk.leave_apply rfl)]
      rfl
  | true =>
      obtain ⟨content, ys, t, r, hwalk, hys⟩ := hfields true
      have hy := hys.record hholds.1 hnot
      have hstart : (w.store.leafText? (.object n)).getD "" = "" := by
        have hstore := (leafText?_of_holds hholds).trans hother
        exact congrArg (Option.getD · "") hstore
      have hafter : t.leafText? (.object n) = none := by
        have hstore := leafText?_of_holds hy.holds
        rw [hy.eq, leafText?_merged] at hstore
        exact hstore.trans hother
      have hvisit : merging n content ⟨t, w.cursor.facing n, ()⟩ =
          .ok () ⟨t, w.cursor.facing n, ()⟩ := merging_other hafter
      refine ⟨content, .record n ys, t, .object n, ?_, hy⟩
      rw [Walk.value_node hholds.1 (hnode.trans hkind), keys_fieldRefs, hstart]
      refine Eq.trans (bind_ok hwalk) ?_
      rw [bind_ok (Walk.leaveNode_apply rfl rfl)]
      exact bind_ok hvisit

/-- **The walk** makes of a layout what the recursion gives. -/
theorem value_merges {x : Layout} (hbare : x.tree.Bare) (hkeyed : x.tree.Keyed) : Merges x := by
  induction x using Layout.induct with
  | scalar value =>
      intro allowance w _ _ _ _
      exact ⟨"", .scalar value, w.store, w.cursor.current, Walk.value_scalar _ _ _, rfl, trivial,
        .refl _ _⟩
  | list id items ih =>
      intro allowance w hfuel hholds hn _
      obtain ⟨allowance, rfl, hfuel₁⟩ := allowance_list hfuel
      have hbares := Layout.bareItems_iff.mp hbare
      have hkeyeds := keyedItems_iff.mp hkeyed
      let w₁ : Scene Unit := { w with cursor := w.cursor.inside id false }
      have hcell : w₁.store.cell? id = some (.list ([] ++ items.map ref)) := hholds.1
      obtain ⟨content, ys, t, r, hitems, hys⟩ :=
        items_merges (w := w₁) "" rfl (fun x hx => ih x hx (hbares x hx) (hkeyeds x hx)) hbares
          hkeyeds hfuel₁ rfl hcell hholds.2 hn
      refine ⟨content, .list id ys, t, r, ?_, congrArg (Layout.list id) hys.eq,
        ⟨hys.cell, hys.holds⟩, hys.keeps⟩
      rw [ref, Walk.value_list hholds.1]
      refine Eq.trans (bind_ok hitems) ?_
      rw [bind_ok (Walk.leave_apply rfl)]
      rfl
  | record id fields ih =>
      have hparts : ∀ f ∈ fields, Merges f.2 := fun f hf =>
        ih f hf (bareFields_iff.mp hbare.2 f hf) (keyedFields_iff.mp hkeyed.2 f hf)
      cases htext : (Layout.record id fields).tree.leafText? with
      | none =>
          intro allowance w
          exact record_merges htext hkeyed hparts
      | some text =>
          intro allowance w hfuel hholds _ halone
          obtain ⟨_, _, hrecord, hflat⟩ := record_of_leaf htext hbare
          obtain ⟨rfl, rfl⟩ := Layout.record.inj hrecord
          have hleaf := halone (congrArg Option.isSome htext)
          refine ⟨text, .record id fields, w.store, .object id,
            leaf_merges hflat hfuel hholds hkeyed htext hleaf, ?_, hholds, .refl _ _⟩
          rw [merged, hflat.merged]

/-- **Merging text leaves** in place leaves the document that the recursion gives, if its leaves
have nothing inside them. -/
theorem mergeText_merged {x : Layout} (hlays : s.Lays x) (hbare : x.tree.Bare) :
    ∃ (y : Layout) (t : Store), mergeText s x.ref = (.ok (), t) ∧ Fused s t x y := by
  obtain ⟨content, y, t, r, hvalue, hy⟩ := value_merges hbare hlays.keyed
    (w := ⟨s, .fresh, ()⟩) (Walk.extent_lt_allowance hlays) hlays.holds hlays.unshared fun _ => rfl
  have hdocument := (Walk.document_apply merging x.ref ⟨s, .fresh, ()⟩).trans hvalue
  refine ⟨y, t, ?_, hy⟩
  rw [mergeText, Walk.walk_ok hdocument]
  rfl

end Lint

end DocLint
