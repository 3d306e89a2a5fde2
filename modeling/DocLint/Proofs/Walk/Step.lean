import DocLint.Proofs.Walk.Visits

/-!
# DocLint.Proofs.Walk.Step

**One step of a walk.** The equations here say what `Walk.value`, `Walk.items` and
`Walk.fields` do next, given the object that stands there. The proofs about whole
walks rest on them and never look into the definitions again. Where a stack is
popped, the equation asks for the stack in the form `push`.
-/

namespace DocLint

/-! ### Sequences -/

section Sequences

variable {ε σ α β : Type} {m : EStateM ε σ α} {f : α → EStateM ε σ β} {s s' : σ}

theorem bind_ok {a : α} (h : m s = .ok a s') : (m >>= f) s = f a s' := by
  simp only [bind, EStateM.bind, h]

theorem bind_error {fault : ε} (h : m s = .error fault s') : (m >>= f) s = .error fault s' := by
  simp only [bind, EStateM.bind, h]

theorem get_bind (f : σ → EStateM ε σ α) (s : σ) : (get >>= f) s = f s s := rfl

/-- A computation without a state that succeeded, in the course of one with a state. -/
theorem bind_lift_ok (a : α) (f : α → EStateM Fault σ β) :
    ((liftM (Except.ok a : Except Fault α) : EStateM Fault σ α) >>= f) = f a := rfl

end Sequences

namespace Walk

variable {σ : Type}

/-! ### Stacks of the cursor -/

theorem leave_apply {w : Scene σ} {stack : Stack Nat} {id : Nat}
    (h : w.cursor.containers = stack.push id) :
    (leave : Walk σ Unit) w =
      .ok () { w with cursor := { w.cursor with containers := stack } } := by
  obtain ⟨store, ⟨current, containers, steps, ancestors⟩, data⟩ := w
  simp only at h
  subst h
  rfl

theorem leaveNode_apply {w : Scene σ} {containers ancestors : Stack Nat} {id i j : Nat}
    (hc : w.cursor.containers = containers.push i) (ha : w.cursor.ancestors = ancestors.push j) :
    (leaveNode id : Walk σ Unit) w = .ok ()
      { w with
        cursor := { w.cursor with
          containers := containers, ancestors := ancestors, current := .object id } } := by
  obtain ⟨store, ⟨current, _, steps, _⟩, data⟩ := w
  simp only at hc ha
  subst hc ha
  rfl

theorem stepUp_apply {w : Scene σ} {stack : Stack Step} {step : Step}
    (h : w.cursor.steps = stack.push step) :
    (stepUp : Walk σ Step) w = .ok step { w with cursor := { w.cursor with steps := stack } } := by
  obtain ⟨store, ⟨current, containers, steps, ancestors⟩, data⟩ := w
  simp only at h
  subst h
  rfl

theorem nextIndex_apply {w : Scene σ} {stack : Stack Step} {index : Int}
    (h : w.cursor.steps = stack.push (.index index)) :
    (nextIndex : Walk σ Int) w =
      .ok (index + 1) { w with cursor := { w.cursor with steps := stack } } := by
  unfold nextIndex
  rw [bind_ok (stepUp_apply h)]
  rfl

/-! ### What stands in a place -/

variable {visit : Visitor σ} {allowance id : Nat} {w : Scene σ}

@[simp] theorem value_scalar (allowance : Nat) (value : Scalar) (w : Scene σ) :
    Walk.value visit allowance (.scalar value) w = .ok "" w := by
  cases allowance <;> rfl

theorem value_list {refs : List Ref} (h : w.store.cell? id = some (.list refs)) :
    value visit (allowance + 1) (.object id) w =
      (do
        let content ← items visit allowance id 0 ""
        leave
        return content : Walk σ String) { w with cursor := w.cursor.inside id false } := by
  rw [value, get_bind]
  dsimp only
  rw [h]
  rfl

theorem value_node {fields : List (String × Ref)} (h : w.store.cell? id = some (.record fields))
    (hn : w.store.isNode (.object id) = true) :
    value visit (allowance + 1) (.object id) w =
      (do
        let content ← Walk.fields visit allowance id (fields.map (·.1))
          ((w.store.leafText? (.object id)).getD "")
        leaveNode id
        visit id content
        return content : Walk σ String) { w with cursor := w.cursor.inside id true } := by
  rw [value, get_bind]
  dsimp only
  rw [h]
  simp only [hn, if_true]
  rfl

theorem value_record {fields : List (String × Ref)} (h : w.store.cell? id = some (.record fields))
    (hn : w.store.isNode (.object id) = false) :
    value visit (allowance + 1) (.object id) w =
      (do
        let content ← Walk.fields visit allowance id (fields.map (·.1)) ""
        leave
        return content : Walk σ String) { w with cursor := w.cursor.inside id false } := by
  rw [value, get_bind]
  dsimp only
  rw [h]
  simp only [hn, Bool.false_eq_true, if_false]
  rfl

/-! ### Items of a list -/

theorem items_end {refs : List Ref} {index : Int} {content : String}
    (h : w.store.cell? id = some (.list refs)) (hi : refs.length ≤ index) :
    items visit (allowance + 1) id index content w = .ok content w := by
  have hs : w.store.items? (.object id) = some refs := by simp [Store.items?, h]
  rw [items, get_bind, hs, Option.getD_some, if_neg (by omega)]
  rfl

theorem items_step {refs : List Ref} {k : Nat} {r : Ref} {content : String}
    (h : w.store.cell? id = some (.list refs)) (hr : refs[k]? = some r) :
    items visit (allowance + 1) id k content w =
      (do
        let more ← value visit allowance r
        let next ← nextIndex
        items visit allowance id next (content ++ more) : Walk σ String)
        { w with cursor := w.cursor.down (.index k) } := by
  have hs : w.store.items? (.object id) = some refs := by simp [Store.items?, h]
  obtain ⟨hk, -⟩ := List.getElem?_eq_some_iff.mp hr
  have hp : Cursor.place? refs.length k = some k := by simp [Cursor.place?, hk]
  rw [items, get_bind, hs, Option.getD_some, if_pos (by omega), hp]
  dsimp only
  rw [hr]
  rfl

/-! ### Fields of a record -/

@[simp] theorem fields_nil (allowance id : Nat) (content : String) (w : Scene σ) :
    fields visit allowance id [] content w = .ok content w := by
  cases allowance <;> rfl

theorem fields_skip {key : String} {keys : List String} {content : String}
    (h : (if key = "type" then none else objectIn? w.store id key) = none) :
    fields visit (allowance + 1) id (key :: keys) content w =
      fields visit allowance id keys content w := by
  rw [fields, get_bind, h]

/-- A field is walked unless it is the type or holds a scalar. -/
theorem field_cases {s : Store} {key : String} {x : Layout}
    (h : s.field? (.object id) key = some x.ref) :
    ((key = "type" ∨ ∃ value, x = .scalar value) ∧
      (if key = "type" then none else objectIn? s id key) = none) ∨
    (key ≠ "type" ∧ ∃ child, x.ref = .object child ∧ objectIn? s id key = some child) := by
  by_cases hkey : key = "type"
  · exact .inl ⟨.inl hkey, if_pos hkey⟩
  · rw [if_neg hkey]
    cases x with
    | scalar value => exact .inl ⟨.inr ⟨value, rfl⟩, by simp [objectIn?, h, Layout.ref]⟩
    | list child items => exact .inr ⟨hkey, child, rfl, by simp [objectIn?, h, Layout.ref]⟩
    | record child fields => exact .inr ⟨hkey, child, rfl, by simp [objectIn?, h, Layout.ref]⟩

theorem fields_step {key : String} {keys : List String} {content : String} {child : Nat}
    (ht : key ≠ "type") (h : objectIn? w.store id key = some child) :
    fields visit (allowance + 1) id (key :: keys) content w =
      (do
        let more ← value visit allowance (.object child)
        let _ ← stepUp
        fields visit allowance id keys (content ++ more) : Walk σ String)
        { w with cursor := w.cursor.down (.key key) } := by
  rw [fields, get_bind, if_neg ht, h]
  rfl

/-! ### The whole document -/

theorem document_apply (visit : Visitor σ) (root : Ref) (w : Scene σ) :
    document visit root w = value visit (w.store.extent + patience) root w := by
  rw [document, get_bind]

/-- The allowance of a walk is enough for every document of the store. -/
theorem extent_lt_allowance {s : Store} {x : Layout} (h : s.Lays x) :
    x.extent < s.extent + patience := by
  have := Layout.extent_le_of_lays h
  rw [patience]
  omega

/-- A walk that ends well. -/
theorem walk_ok {visit : Visitor σ} {s : Store} {root : Ref} {data : σ} {content : String}
    {w : Scene σ} (h : document visit root ⟨s, .fresh, data⟩ = .ok content w) :
    walk visit s root data = (.ok content, w) := by
  rw [walk, EStateM.run, h]

/-- A walk that fails. -/
theorem walk_error {visit : Visitor σ} {s : Store} {root : Ref} {data : σ} {fault : Fault}
    {w : Scene σ} (h : document visit root ⟨s, .fresh, data⟩ = .error fault w) :
    walk visit s root data = (.error fault, w) := by
  rw [walk, EStateM.run, h]

end Walk

end DocLint
