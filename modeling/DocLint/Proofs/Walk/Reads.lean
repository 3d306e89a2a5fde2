import DocLint.Proofs.Cursor.Moves
import DocLint.Proofs.Walk.Edits

/-!
# DocLint.Proofs.Walk.Reads

**What a cursor says of its neighbours after removals.** A visitor of an item may delete it
and take out what stands behind it, as often as it likes. Every deletion moves the pending
step one item back and nothing else marks the place of the visit, so after `gone` deletions
the cursor speaks of the place `gone` items before that of the visit (`Shrunk`).

* What stands behind is told rightly as long as the pending step is no farther back than right
  before the front of the list. Beyond that the step counts from the end of the list, and
  where the list is too short for that, the question for the next sibling fails
  (`Shrunk.nextSibling`).
* What stands before is told rightly as long as nothing is deleted (`Shrunk.previousSibling`).

`reads_after_removals` puts this together for every visit of an item in a walk. Two
deletions of the first of two items are enough for a question that fails
(`reads_after_removals_fail`).
-/

namespace DocLint

/-- What a visitor takes out. -/
inductive Removal
  /-- The current value. -/
  | here
  /-- What stands behind it. -/
  | behind
  deriving DecidableEq

/-- The edit that takes it out. -/
def Removal.edit : Removal → Edit
  | here => .replace .null
  | behind => .removeNext

namespace Cursor

/-- The list `id` that holds the position had the items `front` up to the position. After
`gone` deletions the last ones of these are missing, `left` is what stands behind them, and
the pending step is on the last one that is not missing, or as far before the list as there
were deletions too many. -/
structure Shrunk (s : Store) (id : Nat) (outer : Stack Step) (front : List Ref) (gone : Nat)
    (left : List Ref) (c : Cursor) : Prop where
  top : c.containers.top? = some id
  cell : s.cell? id = some (.list (front.take (front.length - gone) ++ left))
  steps : c.steps = outer.push (.index (front.length - gone - 1))

variable {s t : Store} {c c' : Cursor} {id gone : Nat} {outer : Stack Step}
  {front left items : List Ref}

/-! ### Places in what is left -/

theorem length_take_front (front left : List Ref) (gone : Nat) :
    (front.take (front.length - gone) ++ left).length = front.length - gone + left.length := by
  simp

/-- The pending index means the last item that is not missing, or counts from the end. -/
theorem place?_pending (n gone size : Nat) :
    place? (n - gone + size) ((n : Int) - gone - 1) =
      if gone < n then some (n - gone - 1)
      else if gone - n < size then some (size - (gone - n) - 1) else none := by
  unfold place?
  by_cases h : gone < n
  · rw [if_pos (by omega), if_pos (by omega), if_pos h]
    congr 1
    omega
  · rw [if_neg (by omega), if_neg h]
    by_cases h' : gone - n < size
    · rw [if_pos (by omega), if_pos h']
      congr 1
      omega
    · rw [if_neg (by omega), if_neg h']

/-- The index behind the pending one means the first item that is left, or counts from the
end. -/
theorem place?_behind (n gone size : Nat) :
    place? (n - gone + size) ((n : Int) - gone) =
      if gone ≤ n then if 0 < size then some (n - gone) else none
      else if gone - n ≤ size then some (size - (gone - n)) else none := by
  unfold place?
  by_cases h : gone ≤ n
  · rw [if_pos (by omega), if_pos h]
    by_cases h' : 0 < size
    · rw [if_pos (by omega), if_pos h']
      congr 1
      omega
    · rw [if_neg (by omega), if_neg h']
  · rw [if_neg (by omega), if_neg h]
    by_cases h' : gone - n ≤ size
    · rw [if_pos (by omega), if_pos h']
      congr 1
      omega
    · rw [if_neg (by omega), if_neg h']

/-- Without its last item, the front is shorter by one. -/
theorem eraseIdx_front (h : gone < front.length) :
    (front.take (front.length - gone) ++ left).eraseIdx (front.length - gone - 1) =
      front.take (front.length - (gone + 1)) ++ left := by
  obtain ⟨k, hk⟩ : ∃ k, front.length - gone = k + 1 := ⟨front.length - gone - 1, by omega⟩
  have hlt : k < front.length := by omega
  have hless : front.length - (gone + 1) = k := by omega
  rw [hk, hless, Nat.add_sub_cancel, List.eraseIdx_append_of_lt_length (by simp; omega),
    List.eraseIdx_eq_take_drop_succ, List.take_take]
  simp

/-- Beyond the front there is only what is left. -/
theorem take_front (h : front.length ≤ gone) :
    front.take (front.length - gone) ++ left = left := by
  rw [Nat.sub_eq_zero_of_le h, List.take_zero, List.nil_append]

/-! ### One removal -/

theorem delete_inv {i : Int} (hs : c.steps = outer.push (.index i))
    (h : c.delete s id (.list items) = .ok (t, c')) : ∃ k, place? items.length i = some k ∧
      t = s.put id (.list (items.eraseIdx k)) ∧
      c' = { c with steps := outer.push (.index (i - 1)) } := by
  simp only [delete, writePlace, top?_steps hs, bind, Except.bind] at h
  cases hplace : place? items.length i with
  | none =>
      rw [hplace] at h
      contradiction
  | some k =>
      simp only [hplace, pure, Except.pure, withIndex_push hs] at h
      obtain ⟨rfl, rfl⟩ := Prod.mk.inj (Except.ok.inj h)
      exact ⟨k, rfl, rfl, rfl⟩

theorem removeNext_inv {i : Int} {r : Ref} (hc : c.containers.top? = some id)
    (hs : c.steps = outer.push (.index i)) (hcell : s.cell? id = some (.list items))
    (h : c.removeNext s = .ok (r, t)) :
    ((items.length : Int) ≤ i + 1 ∧ t = s) ∨ (i + 1 < items.length ∧
      ∃ k, place? items.length (i + 1) = some k ∧ t = s.put id (.list (items.eraseIdx k))) := by
  simp only [removeNext, siblings?_list hc hcell, nextIndex_item hs, bind, Except.bind] at h
  by_cases hlt : i + 1 < items.length
  · rw [if_pos hlt, takeItem] at h
    by_cases hempty : items.isEmpty = true
    · rw [if_pos hempty] at h
      contradiction
    · rw [if_neg hempty] at h
      cases hplace : place? items.length (i + 1) with
      | none =>
          rw [hplace] at h
          contradiction
      | some k =>
          rw [hplace] at h
          exact .inr ⟨hlt, k, rfl, (Prod.mk.inj (Except.ok.inj h)).2.symm⟩
  · rw [if_neg hlt] at h
    exact .inl ⟨by omega, (Prod.mk.inj (Except.ok.inj h)).2.symm⟩

/-- What is left after a removal that took nothing from the front: some of what was left, and
all but its first items unless the pending step is beyond the list. -/
def LeftOf (front : List Ref) (gone : Nat) (left left' : List Ref) : Prop :=
  left'.Sublist left ∧ (gone ≤ front.length → left' <:+ left)

theorem LeftOf.refl (front : List Ref) (gone : Nat) (left : List Ref) :
    LeftOf front gone left left :=
  ⟨.refl left, fun _ => List.suffix_refl left⟩

theorem LeftOf.trans {gone' : Nat} {left' left'' : List Ref} (h : LeftOf front gone left left')
    (h' : LeftOf front gone' left' left'') (hle : gone ≤ gone') :
    LeftOf front gone' left left'' :=
  ⟨h'.1.trans h.1, fun hgone => (h'.2 hgone).trans (h.2 (Nat.le_trans hle hgone))⟩

/-- A deletion that comes to its end. -/
theorem Shrunk.delete (h : c.Shrunk s id outer front gone left)
    (hrun : c.replace s .null = .ok (t, c')) :
    ∃ left', c'.Shrunk t id outer front (gone + 1) left' ∧
      LeftOf front (gone + 1) left left' ∧ c' = { c with steps := c'.steps } := by
  have hdelete : c.replace s .null =
      c.delete s id (.list (front.take (front.length - gone) ++ left)) := by
    simp [replace, h.top, h.cell]
  obtain ⟨k, hk, rfl, rfl⟩ := delete_inv h.steps (hdelete ▸ hrun)
  have hlt := Store.cell?_eq_some_lt h.cell
  have hindex : (front.length : Int) - gone - 1 - 1 = front.length - (gone + 1 : Nat) - 1 := by omega
  rw [length_take_front, place?_pending] at hk
  by_cases hfront : gone < front.length
  -- The last item of the front goes, or the item before it if that one has gone already.
  · rw [if_pos hfront] at hk
    obtain rfl := Option.some.inj hk
    refine ⟨left, ⟨h.top, ?_, by rw [← hindex]⟩, .refl _ _ _, rfl⟩
    rw [Store.cell?_put_self _ hlt, eraseIdx_front hfront]
  -- All of the front has gone: the step counts from the end of what is left.
  · rw [if_neg hfront] at hk
    refine ⟨left.eraseIdx k, ⟨h.top, ?_, by rw [← hindex]⟩, ⟨List.eraseIdx_sublist left k,
      fun hgone => by omega⟩, rfl⟩
    rw [Store.cell?_put_self _ hlt, take_front (by omega), take_front (by omega)]

/-- A removal of the next sibling that comes to its end. -/
theorem Shrunk.removeNext {r : Ref} (h : c.Shrunk s id outer front gone left)
    (hrun : c.removeNext s = .ok (r, t)) : ∃ left', c.Shrunk t id outer front gone left' ∧
      LeftOf front gone left left' := by
  have hlt := Store.cell?_eq_some_lt h.cell
  have hindex : (front.length : Int) - gone - 1 + 1 = front.length - gone := by omega
  rcases removeNext_inv h.top h.steps h.cell hrun with ⟨-, rfl⟩ | ⟨-, k, hk, rfl⟩
  · exact ⟨left, h, .refl _ _ _⟩
  rw [length_take_front, hindex, place?_behind] at hk
  by_cases hfront : gone ≤ front.length
  · rw [if_pos hfront] at hk
    split at hk
    · obtain rfl := Option.some.inj hk
      refine ⟨left.drop 1, ⟨h.top, ?_, h.steps⟩, List.drop_sublist 1 left,
        fun _ => List.drop_suffix 1 left⟩
      rw [Store.cell?_put_self _ hlt, List.eraseIdx_append_of_length_le (by simp)]
      simp
    · contradiction
  · refine ⟨left.eraseIdx k, ⟨h.top, ?_, h.steps⟩, List.eraseIdx_sublist left k,
      fun hgone => absurd hgone hfront⟩
    rw [Store.cell?_put_self _ hlt, take_front (by omega), take_front (by omega)]

/-! ### What the cursor says -/

/-- What stands before the place `gone` items before that of the visit. -/
theorem Shrunk.previousIndex? (h : c.Shrunk s id outer front gone left) :
    c.previousIndex? (front.take (front.length - gone) ++ left).length =
      .ok (if gone + 1 < front.length then some (front.length - gone - 2) else none) := by
  rw [Cursor.previousIndex?, top?_steps h.steps, length_take_front]
  by_cases hfront : gone + 1 < front.length
  · have hindex : ((front.length : Int) - gone - 1 - 1).toNat = front.length - gone - 2 := by omega
    rw [if_pos hfront, ← hindex]
    exact congrArg Except.ok (if_pos (by omega))
  · rw [if_neg hfront]
    exact congrArg Except.ok (if_neg (by omega))

theorem Shrunk.hasPreviousSibling (h : c.Shrunk s id outer front gone left) :
    c.hasPreviousSibling s = .ok (decide (gone + 1 < front.length)) := by
  rw [Cursor.hasPreviousSibling, siblings?_list h.top h.cell]
  dsimp only
  rw [h.previousIndex?]
  by_cases hfront : gone + 1 < front.length <;>
    simp [hfront, bind, Except.bind, pure, Except.pure]

theorem Shrunk.previousSibling (h : c.Shrunk s id outer front gone left) :
    c.previousSibling s =
      .ok (if gone + 1 < front.length then front[front.length - gone - 2]?.getD .null
        else .null) := by
  rw [Cursor.previousSibling, siblings?_list h.top h.cell]
  dsimp only
  rw [h.previousIndex?]
  by_cases hfront : gone + 1 < front.length
  · have hitem : (front.take (front.length - gone) ++ left)[front.length - gone - 2]? =
        front[front.length - gone - 2]? := by
      rw [List.getElem?_append_left (by simp; omega), List.getElem?_take_of_lt (by omega)]
    rw [if_pos hfront, if_pos hfront]
    show Except.ok _ = _
    rw [hitem]
  · rw [if_neg hfront, if_neg hfront]
    rfl

theorem Shrunk.nextSibling (h : c.Shrunk s id outer front gone left) :
    c.nextSibling s =
      if gone ≤ front.length then .ok (left.head?.getD .null)
      else if gone - front.length ≤ left.length then
        .ok (left[left.length - (gone - front.length)]?.getD .null)
      else .error (.range .read) := by
  have hindex : (front.length : Int) - gone - 1 + 1 = front.length - gone := by omega
  simp only [Cursor.nextSibling, siblings?_list h.top h.cell, nextIndex_item h.steps, bind,
    Except.bind]
  rw [length_take_front, hindex, place?_behind]
  by_cases hfront : gone ≤ front.length
  · rw [if_pos hfront, if_pos hfront]
    cases left with
    | nil =>
        rw [if_neg (by simp; omega)]
        rfl
    | cons r rest =>
        rw [if_pos (by simp; omega), if_pos (by simp)]
        simp [pure, Except.pure]
  · rw [if_neg hfront, if_neg hfront, if_pos (by omega), take_front (by omega)]
    by_cases hleft : gone - front.length ≤ left.length
    · rw [if_pos hleft, if_pos hleft]
      rfl
    · rw [if_neg hleft, if_neg hleft]
      rfl

/-- What the cursor says, where `gone` items were deleted in the visit of item `i`, to which
the walk had come with the cursor `start`, and `left` is left of the items behind. -/
structure Tells (s : Store) (items : List Ref) (i gone : Nat) (left : List Ref)
    (start c : Cursor) : Prop where
  /-- The list is what is left. -/
  siblings : ∃ id, c.siblings? s = some (id, items.take (i + 1 - gone) ++ left)
  /-- The current value and what is around the list are told as at first. -/
  around : c.current = start.current ∧ c.parent? = start.parent? ∧ c.ancestors = start.ancestors ∧
    c.depth = start.depth ∧ c.isRoot = false ∧ c.hasParent = start.hasParent
  hasPrevious : c.hasPreviousSibling s = .ok (decide (gone < i))
  previous : c.previousSibling s =
    .ok (if gone < i then items[i - gone - 1]?.getD .null else .null)
  next : c.nextSibling s =
    if gone ≤ i + 1 then .ok (left.head?.getD .null)
    else if gone - (i + 1) ≤ left.length then
      .ok (left[left.length - (gone - (i + 1))]?.getD .null)
    else .error (.range .read)

theorem Shrunk.tells {i : Nat} {start : Cursor}
    (h : c.Shrunk s id outer (items.take (i + 1)) gone left) (hi : i < items.length)
    (hc : c = { start with steps := c.steps }) : Tells s items i gone left start c := by
  have hlength : (items.take (i + 1)).length = i + 1 := by simp; omega
  have hlist := h.cell
  have hhas := h.hasPreviousSibling
  have hprevious := h.previousSibling
  have hnext := h.nextSibling
  rw [hlength] at hlist hhas hprevious hnext
  rw [List.take_take, Nat.min_eq_left (by omega)] at hlist
  refine ⟨⟨id, siblings?_list h.top hlist⟩, ?_, by simpa using hhas, ?_, hnext⟩
  · have hroot : c.isRoot = false := by
      have htop := h.top
      unfold Stack.top? at htop
      cases hcontainers : c.containers.topFirst with
      | nil => simp [hcontainers] at htop
      | cons _ _ => simp [isRoot, Stack.size, hcontainers]
    refine ⟨?_, ?_, ?_, ?_, hroot, ?_⟩ <;> rw [hc] <;> rfl
  · rw [hprevious]
    by_cases hgone : gone < i
    · rw [if_pos (by omega), if_pos hgone, List.getElem?_take_of_lt (by omega)]
      congr 3
      omega
    · rw [if_neg (by omega), if_neg hgone]

/-- At an item nothing is missing yet. -/
theorem IsItem.shrunk {i : Nat} (h : c.IsItem s items i) : ∃ id outer,
    c.Shrunk s id outer (items.take (i + 1)) 0 (items.drop (i + 1)) := by
  obtain ⟨⟨id, htop, hitems⟩, hstep, hcurrent⟩ := h
  obtain ⟨hi, -⟩ := List.getElem?_eq_some_iff.mp hcurrent
  have hcell : s.cell? id = some (.list items) := by
    unfold Store.items? at hitems
    dsimp only at hitems
    split at hitems
    · next hcell => rw [hcell, Option.some.inj hitems]
    · contradiction
  obtain ⟨current, containers, ⟨steps⟩, ancestors⟩ := c
  cases steps with
  | nil => contradiction
  | cons step outer =>
      obtain rfl : step = .index i := Option.some.inj hstep
      refine ⟨id, ⟨outer⟩, htop, ?_, ?_⟩
      · rw [hcell, Nat.sub_zero, List.take_length, List.take_append_drop]
      · have hindex : (((items.take (i + 1)).length : Int) - (0 : Nat) - 1) = i := by
          simp
          omega
        rw [hindex]
        rfl

end Cursor

namespace Walk

open Cursor

variable {σ : Type} {w w₁ w' : Scene σ} {id gone : Nat} {outer : Stack Step}
  {front left : List Ref}

/-! ### All removals of a visit -/

theorem bind_inv {ε ρ α β : Type} {m : EStateM ε ρ α} {f : α → EStateM ε ρ β} {b : β} {s s' : ρ}
    (h : (m >>= f) s = .ok b s') : ∃ a t, m s = .ok a t ∧ f a t = .ok b s' := by
  cases hm : m s with
  | ok a t => exact ⟨a, t, rfl, (bind_ok hm).symm.trans h⟩
  | error fault t => exact absurd ((bind_error hm).symm.trans h) (by simp)

theorem edits_inv {e : Edit} {es : List Edit} {taken : List Ref}
    (h : edits (e :: es) w = .ok taken w') : ∃ first w₁ more,
      edit e w = .ok first w₁ ∧ edits es w₁ = .ok more w' := by
  obtain ⟨first, w₁, hfirst, h⟩ := bind_inv h
  obtain ⟨more, w₂, hmore, h⟩ := bind_inv h
  obtain ⟨-, rfl⟩ := EStateM.Result.ok.inj h
  exact ⟨first, w₁, more, hfirst, hmore⟩

theorem replace_inv {new : Ref} (h : (replace new : Walk σ Unit) w = .ok () w') :
    ∃ t c, w.cursor.replace w.store new = .ok (t, c) ∧
      w' = { w with store := t, cursor := c } := by
  cases hreplace : w.cursor.replace w.store new with
  | error fault =>
      unfold replace at h
      rw [get_bind, hreplace] at h
      contradiction
  | ok edited =>
      obtain ⟨t, c⟩ := edited
      obtain ⟨-, rfl⟩ := EStateM.Result.ok.inj ((replace_apply hreplace).symm.trans h)
      exact ⟨t, c, rfl, rfl⟩

theorem removeNext_inv {r : Ref} (h : (removeNext : Walk σ Ref) w = .ok r w') :
    ∃ t, w.cursor.removeNext w.store = .ok (r, t) ∧ w' = { w with store := t } := by
  cases hremove : w.cursor.removeNext w.store with
  | error fault =>
      unfold removeNext at h
      rw [get_bind, hremove] at h
      contradiction
  | ok removed =>
      obtain ⟨r', t⟩ := removed
      obtain ⟨rfl, rfl⟩ := EStateM.Result.ok.inj ((removeNext_apply hremove).symm.trans h)
      exact ⟨t, rfl, rfl⟩

/-- A removal that comes to its end. -/
theorem removal_inv {r : Removal} {taken : List Ref} (h : edit r.edit w = .ok taken w₁)
    (hw : w.cursor.Shrunk w.store id outer front gone left) : ∃ left',
      w₁.cursor.Shrunk w₁.store id outer front (gone + [r].count .here) left' ∧
      LeftOf front (gone + [r].count .here) left left' ∧
      w₁.cursor = { w.cursor with steps := w₁.cursor.steps } := by
  cases r with
  | here =>
      obtain ⟨_, w₂, hrun, hdone⟩ := bind_inv h
      obtain ⟨-, rfl⟩ := EStateM.Result.ok.inj hdone
      obtain ⟨t, c, hreplace, rfl⟩ := replace_inv hrun
      exact hw.delete hreplace
  | behind =>
      obtain ⟨_, w₂, hrun, hdone⟩ := bind_inv h
      obtain ⟨-, rfl⟩ := EStateM.Result.ok.inj hdone
      obtain ⟨t, hremove, rfl⟩ := removeNext_inv hrun
      obtain ⟨left', hshrunk, hleft⟩ := hw.removeNext hremove
      exact ⟨left', hshrunk, hleft, rfl⟩

/-- Removals that all come to their end. -/
theorem removals_inv {rs : List Removal} {taken : List Ref}
    (h : edits (rs.map Removal.edit) w = .ok taken w')
    (hw : w.cursor.Shrunk w.store id outer front gone left) : ∃ left',
      w'.cursor.Shrunk w'.store id outer front (gone + rs.count .here) left' ∧
      LeftOf front (gone + rs.count .here) left left' ∧
      w'.cursor = { w.cursor with steps := w'.cursor.steps } := by
  induction rs generalizing w gone left taken with
  | nil =>
      obtain ⟨-, rfl⟩ := EStateM.Result.ok.inj h
      exact ⟨left, hw, .refl _ _ _, rfl⟩
  | cons r rs ih =>
      obtain ⟨first, w₁, more, hfirst, hmore⟩ := edits_inv h
      obtain ⟨left₁, hshrunk, hleft, hc⟩ := removal_inv hfirst hw
      obtain ⟨left', hshrunk', hleft', hc'⟩ := ih hmore hshrunk
      have hcount : gone + [r].count .here + rs.count .here = gone + (r :: rs).count .here := by
        rw [Nat.add_assoc, ← List.count_append, List.singleton_append]
      rw [hcount] at hshrunk' hleft'
      exact ⟨left', hshrunk', hleft.trans hleft' (by omega), by rw [hc', hc]⟩

/-- **What is read after removals.** In the visit of item `i` of a list, in a walk that changes
nothing else, the visitor may delete the current value and take out what stands behind it, in
any order and as often as each of these comes to its end. The cursor then speaks of the place
as many items before that of the visit as there were deletions: up to `i + 1` of them it tells
what is left behind the item, without any of them it tells what is before it, and beyond
`i + 1` it may not find anything to tell. -/
theorem reads_after_removals {s : Store} {x : Layout} (hlays : s.Lays x) :
    ∃ content w, walk (collecting fun _ c => c) s x.ref [] = (.ok content, w) ∧ w.store = s ∧
      w.data.map (·.1) = (x.visits .fresh).map Visit.node ∧
      ∀ node start, (node, start) ∈ w.data → ∀ items i, start.IsItem s items i →
        ∀ (rs : List Removal) taken w',
          edits (rs.map Removal.edit) (⟨s, start, ()⟩ : Scene Unit) = .ok taken w' →
          ∃ left, LeftOf (items.take (i + 1)) (rs.count .here) (items.drop (i + 1)) left ∧
            Tells w'.store items i (rs.count .here) left start w'.cursor := by
  obtain ⟨c, hwalk⟩ := walk_collecting (fun _ c => c) hlays
  refine ⟨x.text, _, hwalk, rfl, by simp [Function.comp_def], ?_⟩
  intro node start _ items i hitem rs taken w' hrun
  obtain ⟨hi, -⟩ := List.getElem?_eq_some_iff.mp hitem.2.2
  obtain ⟨id, outer, hshrunk⟩ := hitem.shrunk
  obtain ⟨left, hshrunk', hleft, hc⟩ := removals_inv hrun hshrunk
  rw [Nat.zero_add] at hshrunk' hleft
  exact ⟨left, hleft, hshrunk'.tells hi hc⟩

/-! ### Two items -/

/-- A document that is a list of two nodes. -/
def twoItems : Layout :=
  .list 2 [.record 0 [("type", .scalar (.str "a"))], .record 1 [("type", .scalar (.str "b"))]]

/-- A store that holds `twoItems`. -/
def twoItemsStore : Store :=
  ⟨#[.record [("type", .scalar (.str "a"))], .record [("type", .scalar (.str "b"))],
    .list [.object 0, .object 1]]⟩

/-- The cursor in the visit of the item of a number. -/
def visitOfTwo (i : Nat) : Cursor := ⟨.object i, .ofList [2], .ofList [.index i], .empty⟩

theorem lays_twoItems : twoItemsStore.Lays twoItems := by
  refine ⟨?_, by decide, ?_⟩
  · simp [twoItems, twoItemsStore, Layout.Holds, Layout.HoldsItems, Layout.HoldsFields,
      Store.cell?, Layout.fieldRefs, Layout.ref]
  · simp [twoItems, Layout.tree, Layout.treeItems, Layout.treeFields, Tree.Keyed, Tree.KeyedItems,
      Tree.KeyedFields]

/-- In the visit of the first item, the item and the next sibling are taken out. -/
theorem reads_after_removals_twoItems :
    (twoItemsStore.Lays twoItems ∧ (visitOfTwo 0).IsItem twoItemsStore [.object 0, .object 1] 0) ∧
    ∃ content w w', walk (collecting fun _ c => c) twoItemsStore (.object 2) [] =
        (.ok content, w) ∧ (0, visitOfTwo 0) ∈ w.data ∧
      edits ([.here, .behind].map Removal.edit) (⟨twoItemsStore, visitOfTwo 0, ()⟩ : Scene Unit) =
        .ok [.object 1] w' ∧
      Tells w'.store [.object 0, .object 1] 0 1 [] (visitOfTwo 0) w'.cursor := by
  have hitem : (visitOfTwo 0).IsItem twoItemsStore [.object 0, .object 1] 0 :=
    ⟨⟨2, rfl, rfl⟩, rfl, rfl⟩
  obtain ⟨content, w, hwalk, -, -, hreads⟩ := reads_after_removals lays_twoItems
  have hdata : (walk (collecting fun _ c => c) twoItemsStore (.object 2) []).2.data =
      [(0, visitOfTwo 0), (1, visitOfTwo 1)] := by decide +kernel
  have hmem : (0, visitOfTwo 0) ∈ w.data := by
    rw [show walk _ _ (.object 2) [] = (.ok content, w) from hwalk] at hdata
    exact hdata ▸ List.mem_cons_self
  have hrun : edits ([.here, .behind].map Removal.edit)
      (⟨twoItemsStore, visitOfTwo 0, ()⟩ : Scene Unit) = .ok [.object 1] _ := rfl
  obtain ⟨left, -, htells⟩ := hreads 0 _ hmem _ 0 hitem _ _ _ hrun
  obtain ⟨id, hsiblings⟩ := htells.siblings
  -- What is left can be read off the list.
  obtain rfl : [] = left := (Prod.mk.inj (Option.some.inj hsiblings)).2
  exact ⟨⟨lays_twoItems, hitem⟩, content, w, _, hwalk, hmem, hrun, htells⟩

/-- Both deletions of the first item come to their end, and then the question for the next sibling
fails. After the deletion of the second item the first one is still there, and the cursor says
that nothing stands before. -/
theorem reads_after_removals_fail :
    (walk (collecting fun _ c => c) twoItemsStore (.object 2) []).2.data =
      [(0, visitOfTwo 0), (1, visitOfTwo 1)] ∧
    (∃ w, edits ([.here, .here].map Removal.edit)
        (⟨twoItemsStore, visitOfTwo 0, ()⟩ : Scene Unit) = .ok [] w ∧
      w.cursor.nextSibling w.store = .error (.range .read)) ∧
    ∃ w, edits ([.here].map Removal.edit) (⟨twoItemsStore, visitOfTwo 1, ()⟩ : Scene Unit) =
        .ok [] w ∧
      w.cursor.siblings? w.store = some (2, [.object 0]) ∧
      w.cursor.previousSibling w.store = .ok .null ∧
      w.cursor.hasPreviousSibling w.store = .ok false := by
  exact ⟨by decide +kernel, ⟨_, rfl, rfl⟩, _, rfl, rfl, rfl, rfl⟩

end Walk

end DocLint
