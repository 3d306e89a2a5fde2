import DocLint.Proofs.Walk.Plan

/-!
# DocLint.Proofs.Walk.Edits

**Several edits in one visit.** A visitor of an item may replace it and take out what
stands behind it more than once, in any order. Every edit leaves the pending step on the
last item that stands here (`Cursor.Splits`), so edits can follow each other: what is
before the item stays, what is taken out is the front of what is behind it, and the walk
goes on with the rest (`edits_in_list`).

This holds as long as every replacement finds something here, and what it puts there is not
the list itself (`OnTarget`). Once the item is deleted, the pending step is on the item before
it (`Splits.emptied`), and another replacement replaces that one (`delete_twice`). A list that
is put in the place of one of its items ends the walk of the list (`holder_ends`).
-/

namespace DocLint

/-- What a visitor does to the document in the visit of an item. -/
inductive Edit
  /-- Put a value in the place of the current one. -/
  | replace (new : Ref)
  /-- Take out what stands behind. -/
  | removeNext
  /-- Make an object that may be put somewhere later. -/
  | make (cell : Cell)

/-- Every replacement among the edits finds something to replace, where `here` items stand
in the place at first, and none puts the list that holds the place into itself. -/
def OnTarget : List Edit → (here : Nat) → Store → Cursor → Prop
  | [], _, _, _ => True
  | .replace new :: rest, here, s, c => 0 < here ∧ c.Foreign s new ∧
      ∀ t c', c.replace s new = .ok (t, c') →
        OnTarget rest (here - 1 + (s.inserted new).length) t c'
  | .removeNext :: rest, here, s, c => ∀ r t, c.removeNext s = .ok (r, t) → OnTarget rest here t c
  | .make cell :: rest, here, s, c => OnTarget rest here (s.insert cell).2 c

namespace Walk

variable {σ : Type}

/-- Make an edit, and say what it hands to the visitor. -/
def edit : Edit → Walk σ (List Ref)
  | .replace new => do
    replace new
    return []
  | .removeNext => do
    let r ← removeNext
    return [r]
  | .make cell => do
    let _ ← make cell
    return []

/-- Make edits one after the other. -/
def edits : List Edit → Walk σ (List Ref)
  | [] => return []
  | e :: rest => do
    let taken ← edit e
    return taken ++ (← edits rest)

/-- From `w` on, edits of an item between `before` and `behind` have come to `w'`: the items
`here` stand in its place, those of `rest` are still behind it, and the others from behind it
were taken out one by one, with nulls once there were none left. The rest of the store, the
rest of the cursor and what the visitor keeps are as they were. -/
structure Edited (id : Nat) (outer : Stack Step) (before behind : List Ref) (w : Scene σ)
    (taken here rest : List Ref) (w' : Scene σ) : Prop where
  taken : ∃ dropped k, behind = dropped ++ rest ∧ taken = dropped ++ List.replicate k .null ∧
    (0 < k → rest = [])
  place : w'.cursor.Splits w'.store id outer before here rest
  keeps : w.store.Keeps w'.store [id]
  cursor : w'.cursor = { w.cursor with steps := w'.cursor.steps }
  data : w'.data = w.data

variable {id : Nat} {outer : Stack Step} {before behind here rest : List Ref}
  {w w₁ w₂ : Scene σ}

/-! ### One edit -/

theorem Edited.refl (h : w.cursor.Splits w.store id outer before here behind) :
    Edited id outer before behind w [] here behind w :=
  ⟨⟨[], 0, rfl, rfl, by simp⟩, h, .refl _ _, rfl, rfl⟩

theorem Edited.trans {taken more now left : List Ref}
    (h : Edited id outer before behind w taken here rest w₁)
    (h' : Edited id outer before rest w₁ more now left w₂) :
    Edited id outer before behind w (taken ++ more) now left w₂ := by
  refine ⟨?_, h'.place, h.keeps.trans h'.keeps, ?_, h'.data.trans h.data⟩
  · obtain ⟨dropped, k, rfl, rfl, hk⟩ := h.taken
    obtain ⟨gone, l, rfl, rfl, hl⟩ := h'.taken
    rcases Nat.eq_zero_or_pos k with rfl | hpos
    · exact ⟨dropped ++ gone, l, by simp, by simp, hl⟩
    -- Nothing was left to take out, so nothing was taken out later either.
    · obtain ⟨rfl, rfl⟩ := List.append_eq_nil_iff.mp (hk hpos)
      exact ⟨dropped, k + l, by simp, by simp [List.replicate_append_replicate], fun _ => rfl⟩
  · rw [h'.cursor, h.cursor]

theorem edit_make (h : w.cursor.Splits w.store id outer before here behind) (cell : Cell) :
    ∃ w', edit (.make cell) w = .ok [] w' ∧ w'.store = (w.store.insert cell).2 ∧
      w'.cursor = w.cursor ∧ Edited id outer before behind w [] here behind w' := by
  have hk := Store.keeps_insert w.store cell
  refine ⟨{ w with store := (w.store.insert cell).2 }, rfl, rfl, rfl, ?_⟩
  exact ⟨⟨[], 0, rfl, rfl, by simp⟩, h.keep hk (by simp), hk.mono (by simp), rfl, rfl⟩

theorem edit_removeNext (h : w.cursor.Splits w.store id outer before here behind) :
    ∃ r t rest, w.cursor.removeNext w.store = .ok (r, t) ∧
      edit .removeNext w = .ok [r] { w with store := t } ∧
      Edited id outer before behind w [r] here rest { w with store := t } := by
  rcases h.removeNext with ⟨rfl, hremove⟩ | ⟨r, rest, t, rfl, hremove, hk, hsplits⟩
  · refine ⟨.null, w.store, [], hremove, ?_, ⟨⟨[], 1, rfl, rfl, fun _ => rfl⟩, h, .refl _ _, rfl,
      rfl⟩⟩
    rw [edit, bind_ok (removeNext_apply hremove)]
    rfl
  · refine ⟨r, t, rest, hremove, ?_, ⟨⟨[r], 0, rfl, rfl, by simp⟩, hsplits, hk, rfl, rfl⟩⟩
    rw [edit, bind_ok (removeNext_apply hremove)]
    rfl

theorem edit_of_replace {new : Ref} {t : Store} {c : Cursor}
    (h : w.cursor.replace w.store new = .ok (t, c)) :
    edit (.replace new) w = .ok [] { w with store := t, cursor := c } := by
  rw [edit, bind_ok (replace_apply h)]
  rfl

theorem edit_replace {r : Ref}
    (h : w.cursor.Splits w.store id outer before (here ++ [r]) behind) {new : Ref}
    (hnew : w.cursor.Foreign w.store new) :
    ∃ t c, w.cursor.replace w.store new = .ok (t, c) ∧
      edit (.replace new) w = .ok [] { w with store := t, cursor := c } ∧
      Edited id outer before behind w [] (here ++ w.store.inserted new) behind
        { w with store := t, cursor := c } := by
  obtain ⟨t, c, hreplace, hk, hsplits, hc⟩ := h.replace (hnew.ne h.top h.cell)
  exact ⟨t, c, hreplace, edit_of_replace hreplace,
    ⟨⟨[], 0, rfl, rfl, by simp⟩, hsplits, hk, hc, rfl⟩⟩

/-! ### All edits of a visit -/

theorem edits_cons {e : Edit} {es : List Edit} {taken more : List Ref}
    (h : edit e w = .ok taken w₁) (h' : edits es w₁ = .ok more w₂) :
    edits (e :: es) w = .ok (taken ++ more) w₂ := by
  rw [edits, bind_ok h, bind_ok h']
  rfl

/-- Edits that are on target come to their end. -/
theorem edits_run (es : List Edit) (h : w.cursor.Splits w.store id outer before here behind)
    (hes : OnTarget es here.length w.store w.cursor) :
    ∃ taken now left w', edits es w = .ok taken w' ∧
      Edited id outer before behind w taken now left w' := by
  induction es generalizing w here behind with
  | nil => exact ⟨[], here, behind, w, rfl, .refl h⟩
  | cons e es ih =>
      cases e with
      | make cell =>
          obtain ⟨w₁, hrun, hstore, hcursor, hedited⟩ := edit_make h cell
          have htarget : OnTarget es here.length w₁.store w₁.cursor := by
            rw [hstore, hcursor]
            exact hes
          obtain ⟨taken, now, left, w₂, hrest, hedited'⟩ := ih hedited.place htarget
          exact ⟨_, now, left, w₂, edits_cons hrun hrest, hedited.trans hedited'⟩
      | removeNext =>
          obtain ⟨r, t, rest, hremove, hrun, hedited⟩ := edit_removeNext h
          obtain ⟨taken, now, left, w₂, hrest, hedited'⟩ := ih hedited.place (hes r t hremove)
          exact ⟨_, now, left, w₂, edits_cons hrun hrest, hedited.trans hedited'⟩
      | replace new =>
          obtain ⟨hpos, hnew, hes⟩ := hes
          obtain ⟨front, r, rfl⟩ :=
            (List.eq_nil_or_concat here).resolve_left (List.ne_nil_of_length_pos hpos)
          rw [List.concat_eq_append] at h
          obtain ⟨t, c, hreplace, hrun, hedited⟩ := edit_replace h hnew
          have htarget := hes t c hreplace
          rw [List.length_concat, Nat.add_sub_cancel, ← List.length_append] at htarget
          obtain ⟨taken, now, left, w₂, hrest, hedited'⟩ := ih hedited.place htarget
          exact ⟨_, now, left, w₂, edits_cons hrun hrest, hedited.trans hedited'⟩

/-! ### How the walk goes on -/

/-- The walk of the list goes on with the first item behind, as an item of its own, and ends
if there is none. -/
theorem items_after (h : w.cursor.Splits w.store id outer before here behind) (visit : Visitor σ)
    (allowance : Nat) (content : String) :
    (behind = [] ∧ (nextIndex >>= fun next => items visit (allowance + 1) id next content) w =
      .ok content { w with cursor := { w.cursor with steps := outer } }) ∨
    ∃ r rest w', behind = r :: rest ∧
      w' = { w with cursor := { w.cursor with
        steps := outer.push (.index (before ++ here).length) } } ∧
      w'.cursor.Splits w'.store id outer (before ++ here) [r] rest ∧
      (nextIndex >>= fun next => items visit (allowance + 1) id next content) w =
        (do
          let more ← value visit allowance r
          let next ← nextIndex
          items visit allowance id next (content ++ more) : Walk σ String) w' := by
  have hnext := nextIndex_apply h.steps
  rw [h.index] at hnext
  cases behind with
  | nil =>
      refine .inl ⟨rfl, ?_⟩
      rw [bind_ok hnext]
      exact items_end (w := { w with cursor := { w.cursor with steps := outer } }) h.cell (by simp)
  | cons r rest =>
      refine .inr ⟨r, rest, _, rfl, rfl, ⟨h.top, ?_, ?_⟩, ?_⟩
      · exact h.cell.trans (by simp)
      · simp
      · rw [bind_ok hnext]
        exact items_step (w := { w with cursor := { w.cursor with steps := outer } }) h.cell
          (by simp)

/-- **Edits in one visit.** However many edits a visit of an item makes, they come to their
end, as long as every replacement finds something here and does not put the list into itself.
What is before the item stays in place, what is taken out of the list is handed to the visitor
and is the front of what is behind the item, and then the walk of the list goes on with the
first item that is left behind, in a place where the same holds again, or ends if there is
none. -/
theorem edits_in_list {r : Ref} (h : w.cursor.Splits w.store id outer before [r] behind)
    {es : List Edit} (hes : OnTarget es 1 w.store w.cursor) :
    ∃ taken here rest w', edits es w = .ok taken w' ∧
      Edited id outer before behind w taken here rest w' ∧
      ∀ (visit : Visitor σ) (allowance : Nat) (content : String),
        (rest = [] ∧ (nextIndex >>= fun next => items visit (allowance + 1) id next content) w' =
          .ok content { w' with cursor := { w'.cursor with steps := outer } }) ∨
        ∃ q more v, rest = q :: more ∧
          v = { w' with cursor := { w'.cursor with
            steps := outer.push (.index (before ++ here).length) } } ∧
          v.cursor.Splits v.store id outer (before ++ here) [q] more ∧
          (nextIndex >>= fun next => items visit (allowance + 1) id next content) w' =
            (do
              let text ← value visit allowance q
              let next ← nextIndex
              items visit allowance id next (content ++ text) : Walk σ String) v := by
  obtain ⟨taken, here, rest, w', hrun, hedited⟩ := edits_run es h hes
  exact ⟨taken, here, rest, w', hrun, hedited, items_after hedited.place⟩

end Walk

/-! ### A replacement that finds nothing -/

/-- A document with three items. -/
def threeItemsStore : Store :=
  ⟨#[.record [("type", .scalar (.str "a"))], .record [("type", .scalar (.str "b"))],
    .record [("type", .scalar (.str "c"))], .list [.object 0, .object 1, .object 2]]⟩

/-- The scene in the visit of the second of three items. -/
def secondOfThree : Scene Unit :=
  ⟨threeItemsStore, ⟨.object 1, .ofList [3], .ofList [.index 1], .empty⟩, ()⟩

theorem splits_secondOfThree : secondOfThree.cursor.Splits secondOfThree.store 3 .empty
    [.object 0] [.object 1] [.object 2] := ⟨rfl, rfl, rfl⟩

namespace Walk

/-- The second item is replaced by a new one, the third is taken out, and the new one is
deleted: the first item is left. -/
theorem edits_in_list_secondOfThree :
    (secondOfThree.cursor.Splits secondOfThree.store 3 .empty [.object 0] [.object 1]
        [.object 2] ∧
      OnTarget [.make (.record []), .replace (.object 4), .removeNext, .replace .null] 1
        secondOfThree.store secondOfThree.cursor) ∧
    ∃ here rest w', edits [.make (.record []), .replace (.object 4), .removeNext, .replace .null]
        secondOfThree = .ok [.object 2] w' ∧
      Edited 3 .empty [.object 0] [.object 2] secondOfThree [.object 2] here rest w' ∧
      w'.store.cell? 3 = some (.list [.object 0]) := by
  have htarget : OnTarget [.make (.record []), .replace (.object 4), .removeNext,
      .replace .null] 1 secondOfThree.store secondOfThree.cursor := by
    refine ⟨by decide, fun _ _ h => ?_, fun t c h => ?_⟩
    · obtain ⟨rfl, -⟩ := Prod.mk.inj (Option.some.inj h)
      decide
    obtain ⟨rfl, rfl⟩ := Prod.mk.inj (Except.ok.inj h)
    intro r t h
    obtain ⟨rfl, rfl⟩ := Prod.mk.inj (Except.ok.inj h)
    exact ⟨by decide, Cursor.foreign_scalar _ _ .null, fun _ _ _ => trivial⟩
  obtain ⟨taken, here, rest, w', hrun, hedited, -⟩ := edits_in_list splits_secondOfThree htarget
  obtain ⟨rfl, hw⟩ := EStateM.Result.ok.inj hrun
  exact ⟨⟨splits_secondOfThree, htarget⟩, here, rest, w', hrun, hedited, hw ▸ rfl⟩

end Walk

/-- Once the item is deleted, the place is that of the item before it. -/
theorem Cursor.Splits.emptied {s : Store} {c : Cursor} {id : Nat} {outer : Stack Step}
    {before behind : List Ref} {q : Ref} (h : c.Splits s id outer (before ++ [q]) [] behind) :
    c.Splits s id outer before [q] behind := by
  refine ⟨h.top, by simpa using h.cell, ?_⟩
  rw [h.steps]
  simp

namespace Walk

variable {σ : Type} {id : Nat} {outer : Stack Step} {before behind : List Ref} {w : Scene σ}

/-- An item that is deleted twice takes the item before it along. -/
theorem delete_twice {q r : Ref}
    (h : w.cursor.Splits w.store id outer (before ++ [q]) [r] behind) :
    ∃ w', edits [.replace .null, .replace .null] w = .ok [] w' ∧
      w'.cursor.Splits w'.store id outer before [] behind := by
  have h : w.cursor.Splits w.store id outer (before ++ [q]) ([] ++ [r]) behind := h
  obtain ⟨t, c, -, hrun, hedited⟩ := edit_replace h (Cursor.foreign_scalar _ _ .null)
  have h' : c.Splits t id outer before ([] ++ [q]) behind := hedited.place.emptied
  obtain ⟨t', c', -, hrun', hedited'⟩ :=
    edit_replace (w := { w with store := t, cursor := c }) h'
      (Cursor.foreign_scalar _ _ .null)
  exact ⟨_, edits_cons hrun (edits_cons hrun' rfl), hedited'.place⟩

/-- In the place of one of its items, a list ends its own walk: what stands behind the item is
passed over. -/
theorem holder_ends {r : Ref} (h : w.cursor.Splits w.store id outer before [r] behind)
    (visit : Visitor σ) (allowance : Nat) (content : String) :
    ∃ w', edits [.replace (.object id)] w = .ok [] w' ∧
      (nextIndex >>= fun next => items visit (allowance + 1) id next content) w' =
        .ok content { w' with cursor := { w'.cursor with steps := outer } } := by
  have hsteps : w.cursor.steps = outer.push (.index before.length) := by simpa using h.steps
  have hcell : w.store.cell? id = some (.list (before ++ r :: behind)) := by simpa using h.cell
  obtain ⟨items, -, hreplace⟩ := Cursor.replace_by_holder h.top hsteps hcell
  refine ⟨_, edits_cons (edit_of_replace hreplace) rfl, ?_⟩
  rw [bind_ok (nextIndex_apply rfl)]
  refine items_end (Store.cell?_put_self _ (Store.cell?_eq_some_lt hcell)) ?_
  omega

/-- Writes down the nodes that it comes to, and deletes the second one twice. -/
def deletingTwice : Visitor (List Nat) := fun node _ => do
  modifyData (· ++ [node])
  if node = 1 then
    let _ ← edits [.replace .null, .replace .null]

/-- Of three items the first is gone, too, although it stood before the one that was
deleted. -/
theorem delete_twice_threeItems :
    (walk deletingTwice threeItemsStore (.object 3) []).2.data = [0, 1, 2] ∧
      (walk deletingTwice threeItemsStore (.object 3) []).2.store.cell? 3 =
        some (.list [.object 2]) := by
  decide +kernel

end Walk

end DocLint
