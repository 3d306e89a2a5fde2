import DocLint.Proofs.Frame

/-!
# DocLint.Proofs.Cursor.Edit

**Edits at a position**, as equations. A position in a list splits its items into
those before it and those behind it: `replace_in_list` and `removeNext_in_list`
say what the two parts and the pending step are afterwards. After an edit some items
stand here, or none (`Splits`); edits go on from there (`Splits.replace`,
`Splits.removeNext`). All this is about values that are `Foreign` to the place: a list that
is put into itself makes the pending step jump to its end (`replace_by_holder`). In a record,
`replace_in_record` touches the field of the position and no other
(`fieldOf?_dropField_of_ne`, `fieldOf?_putField_of_ne`).
-/

namespace DocLint

/-! ### Fields that an edit does not mean -/

theorem fieldOf?_dropField_of_ne {α : Type} {key other : String} (h : other ≠ key) :
    ∀ fields : List (String × α), fieldOf? (dropField fields key) other = fieldOf? fields other
  | [] => rfl
  | (k, v) :: rest => by
      simp only [dropField]
      by_cases hk : k = key
      · subst hk
        simp [fieldOf?_cons, h.symm]
      · simp only [beq_iff_eq, hk, if_false, fieldOf?_cons,
          fieldOf?_dropField_of_ne h rest]

theorem fieldOf?_putField_of_ne {α : Type} {key other : String} (value : α) (h : other ≠ key) :
    ∀ fields : List (String × α),
      fieldOf? (putField fields key value) other = fieldOf? fields other
  | [] => by simp [putField, fieldOf?_cons, h.symm]
  | (k, v) :: rest => by
      simp only [putField]
      by_cases hk : k = key
      · subst hk
        simp [fieldOf?_cons, h.symm]
      · simp only [beq_iff_eq, hk, if_false, fieldOf?_cons,
          fieldOf?_putField_of_ne value h rest]

theorem fieldOf?_putField_self {α : Type} (key : String) (value : α) :
    ∀ fields : List (String × α), fieldOf? (putField fields key value) key = some value
  | [] => by simp [putField, fieldOf?_cons]
  | (k, v) :: rest => by
      simp only [putField]
      by_cases hk : k = key
      · simp [hk, fieldOf?_cons]
      · simp only [beq_iff_eq, hk, if_false, fieldOf?_cons,
          fieldOf?_putField_self key value rest]

/-- What a value puts in the place of an item: the items of a list, nothing for
null, else itself. -/
def Store.inserted (s : Store) (new : Ref) : List Ref :=
  if new = .null then [] else (s.items? new).getD [new]

namespace Cursor

variable {s : Store} {c : Cursor} {id : Nat} {outer : Stack Step}

theorem replaceTop_push {α : Type} (stack : Stack α) (old new : α) :
    (stack.push old).replaceTop new = .ok (stack.push new) := rfl

theorem withIndex_push {old : Step} (h : c.steps = outer.push old) (i : Int) :
    c.withIndex i = .ok { c with steps := outer.push (.index i) } := by
  simp only [withIndex, h, replaceTop_push]
  rfl

theorem top?_steps {step : Step} (h : c.steps = outer.push step) : c.steps.top? = some step := by
  rw [h, Stack.top?_push]

theorem place?_of_lt {size k : Nat} (h : k < size) : place? size k = some k := by
  simp [place?, h]

theorem bound_of_le {size k : Nat} (h : k ≤ size) : bound size k = k := by
  rw [bound, if_neg (by omega), Int.toNat_natCast, Nat.min_eq_left h]

/-- Replacing deletes, splices or overwrites, as what is inserted says. -/
theorem replace_cases (new : Ref) (hc : c.containers.top? = some id) :
    (s.inserted new = [] ∧ c.replace s new = c.delete s id ((s.cell? id).getD (.list []))) ∨
    (∃ items, s.items? new = some items ∧ s.inserted new = items ∧ items ≠ [] ∧
      c.replace s new = c.splice s id new items ((s.cell? id).getD (.list []))) ∨
    (s.items? new = none ∧ s.inserted new = [new] ∧
      c.replace s new = c.overwrite s id new ((s.cell? id).getD (.list []))) := by
  unfold replace Store.inserted
  simp only [hc]
  by_cases hnull : new = .null
  · subst hnull
    exact .inl ⟨rfl, rfl⟩
  · cases hitems : s.items? new with
    | none => exact .inr (.inr ⟨rfl, by simp [hnull], by split <;> simp_all⟩)
    | some items =>
        cases items with
        | nil => exact .inl ⟨by simp [hnull], by split <;> simp_all⟩
        | cons first rest =>
            exact .inr (.inl ⟨first :: rest, rfl, by simp [hnull], by simp, by split <;> simp_all⟩)

/-! ### In a list -/

section List

variable {before behind : List Ref} {r : Ref}

theorem writePlace_item (hs : c.steps = outer.push (.index before.length)) :
    writePlace (before ++ r :: behind).length c.steps.top? =
      .ok (before.length, (before.length : Int)) := by
  have hp : place? (before ++ r :: behind).length before.length = some before.length :=
    place?_of_lt (by simp)
  simp only [writePlace, top?_steps hs, hp]
  rfl

theorem nextIndex_item {i : Int} (hs : c.steps = outer.push (.index i)) :
    c.nextIndex = .ok (i + 1) := by
  simp only [nextIndex, top?_steps hs]
  rfl

theorem delete_in_list (hs : c.steps = outer.push (.index before.length)) :
    c.delete s id (.list (before ++ r :: behind)) = .ok
      (s.put id (.list (before ++ behind)),
        { c with steps := outer.push (.index (before.length - 1)) }) := by
  simp only [delete, writePlace_item hs, bind, Except.bind, withIndex_push hs]
  simp [List.eraseIdx_append_of_length_le, pure, Except.pure]

theorem overwrite_in_list (hs : c.steps = outer.push (.index before.length)) (value : Ref) :
    c.overwrite s id value (.list (before ++ r :: behind)) = .ok
      (s.put id (.list (before ++ value :: behind)), c) := by
  simp only [overwrite, writePlace_item hs, bind, Except.bind]
  simp [pure, Except.pure]

/-- The new items take the place of the current one. How many they are is counted in the
store after that. -/
theorem splice_in_list (hs : c.steps = outer.push (.index before.length)) (list : Ref)
    {new counted : List Ref}
    (hcounted : (s.put id (.list (before ++ new ++ behind))).items? list = some counted) :
    c.splice s id list new (.list (before ++ r :: behind)) = .ok
      (s.put id (.list (before ++ new ++ behind)),
        { c with steps := outer.push (.index (before.length + counted.length - 1)) }) := by
  -- The slice that is replaced is the current item alone.
  have hstart : bound (before ++ r :: behind).length (before.length + 1 - 1) = before.length := by
    rw [Int.add_sub_cancel]
    exact bound_of_le (by simp)
  have hstop : bound (before ++ r :: behind).length (before.length + 1) = before.length + 1 :=
    bound_of_le (k := before.length + 1) (by simp)
  have hdrop : (before ++ r :: behind).drop (before.length + 1) = behind := by simp
  have htake : (before ++ r :: behind).take before.length = before := by simp
  simp only [splice, nextIndex_item hs, bind, Except.bind, hstart, hstop,
    withIndex_push hs, pure, Except.pure]
  rw [Nat.max_eq_right (by omega), hdrop, htake, hcounted, Option.getD_some, Int.add_sub_cancel]

/-- In a list the new items take the place of the current one, and the pending step
is the last of them. -/
theorem replace_in_list (hc : c.containers.top? = some id)
    (hs : c.steps = outer.push (.index before.length))
    (hcell : s.cell? id = some (.list (before ++ r :: behind))) {new : Ref}
    (hnew : new ≠ .object id) :
    c.replace s new = .ok
      (s.put id (.list (before ++ s.inserted new ++ behind)),
        { c with steps := outer.push (.index (before.length + (s.inserted new).length - 1)) }) := by
  rcases replace_cases (s := s) new hc with ⟨hins, h⟩ | ⟨items, hitems, hins, -, h⟩ | ⟨-, hins, h⟩
  · simp [h, hcell, hins, delete_in_list hs]
  · rw [h, hcell, Option.getD_some, hins]
    exact splice_in_list hs new ((Store.items?_put_of_ne _ hnew).trans hitems)
  -- One item for one item: the pending step is where it was.
  · have hkeep : { c with steps := outer.push (.index before.length) } = c := by rw [← hs]
    simp [h, hcell, hins, overwrite_in_list hs, hkeep]

/-- A list that is put in the place of one of its own items: it is there twice with this item
gone once, and the pending step is at the end or behind it. -/
theorem replace_by_holder (hc : c.containers.top? = some id)
    (hs : c.steps = outer.push (.index before.length))
    (hcell : s.cell? id = some (.list (before ++ r :: behind))) :
    ∃ items, items = before ++ (before ++ r :: behind) ++ behind ∧
      c.replace s (.object id) = .ok (s.put id (.list items),
        { c with steps := outer.push (.index (before.length + items.length - 1)) }) := by
  have hitems : s.items? (.object id) = some (before ++ r :: behind) := by
    simp [Store.items?, hcell]
  have hins : s.inserted (.object id) = before ++ r :: behind := by
    simp [Store.inserted, hitems]
  have hgrown : (s.put id (.list (before ++ (before ++ r :: behind) ++ behind))).items?
      (.object id) = some (before ++ (before ++ r :: behind) ++ behind) := by
    simp [Store.items?, Store.cell?_put_self _ (Store.cell?_eq_some_lt hcell)]
  refine ⟨_, rfl, ?_⟩
  rcases replace_cases (s := s) (.object id) hc with ⟨h, -⟩ | ⟨_, h, -, -, hrun⟩ | ⟨h, -⟩
  · simp [hins] at h
  · obtain rfl := Option.some.inj (hitems.symm.trans h)
    rw [hrun, hcell, Option.getD_some]
    exact splice_in_list hs (.object id) hgrown
  · simp [hitems] at h

theorem siblings?_list {items : List Ref} (hc : c.containers.top? = some id)
    (hcell : s.cell? id = some (.list items)) : c.siblings? s = some (id, items) := by
  simp [siblings?, hc, Store.items?, hcell]

/-- The value is not the list that holds the position. -/
def Foreign (s : Store) (c : Cursor) (new : Ref) : Prop :=
  ∀ id items, c.siblings? s = some (id, items) → new ≠ .object id

theorem foreign_scalar (s : Store) (c : Cursor) (value : Scalar) : c.Foreign s (.scalar value) :=
  fun _ _ _ => nofun

theorem Foreign.ne {items : List Ref} {new : Ref} (h : c.Foreign s new)
    (hc : c.containers.top? = some id) (hcell : s.cell? id = some (.list items)) :
    new ≠ .object id :=
  h id items (siblings?_list hc hcell)

/-- The step behind the pending one leads to what stands behind it. -/
theorem place?_next {i : Int} (hi : i + 1 = before.length) (r : Ref) (behind : List Ref) :
    i + 1 < (before ++ r :: behind).length ∧
      place? (before ++ r :: behind).length (i + 1) = some before.length := by
  rw [hi]
  have hlt : before.length < (before ++ r :: behind).length := by simp
  exact ⟨Int.ofNat_lt.mpr hlt, place?_of_lt hlt⟩

/-- What stands behind the pending step comes next. -/
theorem nextSibling_in_list {i : Int} (hc : c.containers.top? = some id)
    (hs : c.steps = outer.push (.index i)) (hi : i + 1 = before.length)
    (hcell : s.cell? id = some (.list (before ++ r :: behind))) : c.nextSibling s = .ok r := by
  obtain ⟨hlt, hp⟩ := place?_next hi r behind
  simp only [nextSibling, siblings?_list hc hcell, nextIndex_item hs, bind, Except.bind, hlt,
    if_true]
  rw [hp]
  simp [pure, Except.pure]

/-- At the end of a list nothing comes next. -/
theorem nextSibling_at_end {i : Int} (hc : c.containers.top? = some id)
    (hs : c.steps = outer.push (.index i)) (hi : i + 1 = before.length)
    (hcell : s.cell? id = some (.list before)) : c.nextSibling s = .ok .null := by
  simp only [nextSibling, siblings?_list hc hcell, nextIndex_item hs, bind, Except.bind]
  rw [if_neg (by omega)]
  rfl

/-- What stands behind the pending step is taken out first. -/
theorem removeNext_in_list {i : Int} (hc : c.containers.top? = some id)
    (hs : c.steps = outer.push (.index i)) (hi : i + 1 = before.length)
    (hcell : s.cell? id = some (.list (before ++ r :: behind))) :
    c.removeNext s = .ok (r, s.put id (.list (before ++ behind))) := by
  obtain ⟨hlt, hp⟩ := place?_next hi r behind
  simp only [removeNext, siblings?_list hc hcell, nextIndex_item hs, bind, Except.bind, hlt,
    if_true, takeItem]
  rw [if_neg (by simp), hp]
  simp [List.eraseIdx_append_of_length_le, pure, Except.pure]

/-- At the end of a list there is nothing to take out. -/
theorem removeNext_at_end {i : Int} (hc : c.containers.top? = some id)
    (hs : c.steps = outer.push (.index i)) (hi : i + 1 = before.length)
    (hcell : s.cell? id = some (.list before)) : c.removeNext s = .ok (.null, s) := by
  simp only [removeNext, siblings?_list hc hcell, nextIndex_item hs, bind, Except.bind]
  rw [if_neg (by omega)]
  rfl

end List

/-- The list `id` that holds the position has the items `before`, `here` and `behind`, and
the last of the items here is the pending one. -/
structure Splits (s : Store) (id : Nat) (outer : Stack Step) (before here behind : List Ref)
    (c : Cursor) : Prop where
  top : c.containers.top? = some id
  cell : s.cell? id = some (.list (before ++ here ++ behind))
  steps : c.steps = outer.push (.index (before.length + here.length - 1))

section Splits

variable {t : Store} {before here behind : List Ref} {r : Ref}

theorem Splits.keep {written : List Nat} (h : c.Splits s id outer before here behind)
    (hk : s.Keeps t written) (hw : id ∉ written) : c.Splits t id outer before here behind :=
  ⟨h.top, hk.cell?_eq h.cell hw, h.steps⟩

/-- Behind the pending index stands the first item behind. -/
theorem Splits.index (_ : c.Splits s id outer before here behind) :
    (before.length + here.length - 1 : Int) + 1 = (before ++ here).length := by
  rw [List.length_append]
  omega

/-- The first item behind is taken out, if there is one. -/
theorem Splits.removeNext (h : c.Splits s id outer before here behind) :
    (behind = [] ∧ c.removeNext s = .ok (.null, s)) ∨
    ∃ r rest t, behind = r :: rest ∧ c.removeNext s = .ok (r, t) ∧ s.Keeps t [id] ∧
      c.Splits t id outer before here rest := by
  cases behind with
  | nil =>
      have hcell : s.cell? id = some (.list (before ++ here)) := by simpa using h.cell
      exact .inl ⟨rfl, removeNext_at_end h.top h.steps h.index hcell⟩
  | cons r rest =>
      refine .inr ⟨r, rest, _, rfl, removeNext_in_list h.top h.steps h.index h.cell,
        Store.keeps_put s id _, h.top, ?_, h.steps⟩
      exact Store.cell?_put_self _ (Store.cell?_eq_some_lt h.cell)

/-- The last of the items here is replaced. -/
theorem Splits.replace (h : c.Splits s id outer before (here ++ [r]) behind) {new : Ref}
    (hnew : new ≠ .object id) :
    ∃ t c', c.replace s new = .ok (t, c') ∧ s.Keeps t [id] ∧
      c'.Splits t id outer before (here ++ s.inserted new) behind ∧
      c' = { c with steps := c'.steps } := by
  have hsteps : c.steps = outer.push (.index (before ++ here).length) := by
    rw [h.steps]
    simp only [List.length_append, List.length_singleton]
    congr 2
    omega
  have hcell : s.cell? id = some (.list ((before ++ here) ++ r :: behind)) := by
    rw [h.cell]
    simp
  refine ⟨_, _, replace_in_list h.top hsteps hcell hnew, Store.keeps_put s id _, ⟨h.top, ?_, ?_⟩,
    rfl⟩
  · rw [Store.cell?_put_self _ (Store.cell?_eq_some_lt hcell)]
    simp
  · simp only [List.length_append]
    congr 2
    omega

end Splits

/-! ### In a record, and at the root -/

/-- In a record the field of the position goes, or is set to the new value as it
is; the pending step stays. -/
theorem replace_in_record {fields : List (String × Ref)} {key : String}
    (hc : c.containers.top? = some id) (hs : c.steps = outer.push (.key key))
    (hcell : s.cell? id = some (.record fields)) (hkey : (fieldOf? fields key).isSome)
    (new : Ref) :
    c.replace s new = .ok
      (s.put id (.record (if s.inserted new = [] then dropField fields key
        else putField fields key new)), c) := by
  rcases replace_cases (s := s) new hc with ⟨hins, h⟩ | ⟨items, -, hins, hne, h⟩ | ⟨-, hins, h⟩
  · simp [h, hcell, hins, delete, fieldName, top?_steps hs, Step.toScalar, hkey, pure, Except.pure]
  · simp [h, hcell, hins, hne, splice, overwrite, fieldName, top?_steps hs, Step.toScalar, pure,
      Except.pure]
  · simp [h, hcell, hins, overwrite, fieldName, top?_steps hs, Step.toScalar, pure, Except.pure]

/-- In a record nothing stands beside the position. -/
theorem siblings?_record {fields : List (String × Ref)} (hc : c.containers.top? = some id)
    (hcell : s.cell? id = some (.record fields)) : c.siblings? s = none := by
  simp [siblings?, hc, Store.items?, hcell]

theorem removeNext_in_record {fields : List (String × Ref)} (hc : c.containers.top? = some id)
    (hcell : s.cell? id = some (.record fields)) : c.removeNext s = .ok (.null, s) := by
  simp [removeNext, siblings?_record hc hcell, pure, Except.pure]

theorem removeNext_at_root (hc : c.containers = .empty) : c.removeNext s = .ok (.null, s) := by
  simp [removeNext, siblings?, hc, Stack.empty, Stack.top?, pure, Except.pure]

end Cursor

end DocLint
