import DocLint.Proofs.Frame

/-!
# DocLint.Proofs.Cursor.Way

**Ways through a document.** `Store.Way s root ids path r` says that in the store
`s` the steps of `path` lead from `root` to `r`, and that `ids` are the objects
that are passed, `root` first. A cursor is right about where it is if its
containers and steps are the way to its current value.
-/

namespace DocLint

namespace Store

/-- What a step leads to: an item of a list or a field of a record. -/
def child? (s : Store) (r : Ref) : Step → Option Ref
  | .index i => if 0 ≤ i then (s.items? r).bind (·[i.toNat]?) else none
  | .key key => s.field? r key

/-- The steps of a path lead from one place to another, through some objects. -/
inductive Way (s : Store) : Ref → List Nat → Path → Ref → Prop
  | here (r : Ref) : Way s r [] [] r
  | step {id : Nat} {step : Step} {child r : Ref} {ids : List Nat} {path : Path}
      (head : s.child? (.object id) step = some child) (tail : Way s child ids path r) :
      Way s (.object id) (id :: ids) (step :: path) r

variable {s t : Store} {root r : Ref} {ids written : List Nat} {path : Path} {id : Nat}

theorem child?_item {items : List Ref} {k : Nat} (h : s.cell? id = some (.list items)) :
    s.child? (.object id) (.index k) = items[k]? := by
  simp [child?, items?, h]

theorem child?_field {fields : List (String × Ref)} {key : String}
    (h : s.cell? id = some (.record fields)) :
    s.child? (.object id) (.key key) = fieldOf? fields key := by
  simp [child?, field?, fields?, h]

/-- Only objects have parts, and only those of the store. -/
theorem lt_size_of_child? {step : Step} (h : s.child? (.object id) step = some r) :
    id < s.cells.size := by
  cases hc : s.cell? id with
  | none => cases step <;> simp [child?, items?, field?, fields?, hc] at h
  | some cell => exact cell?_eq_some_lt hc

theorem child?_congr {step : Step} (h : t.cell? id = s.cell? id) :
    t.child? (.object id) step = s.child? (.object id) step := by
  cases step <;> simp [child?, items?, field?, fields?, h]

/-- One step more at the end of a way. -/
theorem Way.snoc (h : s.Way root ids path (.object id)) {step : Step}
    (hs : s.child? (.object id) step = some r) :
    s.Way root (ids ++ [id]) (path ++ [step]) r := by
  -- The end of the way is an index of the relation, so it must be a variable.
  generalize hend : Ref.object id = last at h
  induction h with
  | here => subst hend; exact .step hs (.here r)
  | step head tail ih => exact .step head (ih hend)

/-- The last step of a way leads from the last object to the end. -/
theorem Way.last {step : Step} (h : s.Way root (ids ++ [id]) (path ++ [step]) r) :
    s.child? (.object id) step = some r := by
  induction ids generalizing root path with
  | nil =>
      -- A way through one object has one step.
      cases path with
      | nil =>
          cases h with
          | step head tail => cases tail; exact head
      | cons _ rest =>
          cases h with
          | step _ tail => cases rest <;> cases tail
  | cons _ _ ih =>
      cases path with
      | nil =>
          rename_i more
          cases h with
          | step _ tail => cases more <;> cases tail
      | cons _ _ =>
          cases h with
          | step _ tail => exact ih tail

/-- A way stays if none of its objects is written. -/
theorem Way.keep (h : s.Way root ids path r) (hk : s.Keeps t written)
    (hw : ∀ i ∈ ids, i ∉ written) : t.Way root ids path r := by
  induction h with
  | here => exact .here _
  | step head tail ih =>
      refine .step ?_ (ih fun i hi => hw i (List.mem_cons_of_mem _ hi))
      rw [child?_congr (hk.cell? _ (lt_size_of_child? head) (hw _ List.mem_cons_self)), head]

end Store

/-- The containers and the steps of the cursor are the way from `root` to its
current value. -/
def Cursor.Leads (s : Store) (root : Ref) (c : Cursor) : Prop :=
  s.Way root c.containers.toList c.steps.toList c.current

/-- Where something contains the position, the last step leads from there to the
current value. -/
theorem Cursor.Leads.top {s : Store} {root : Ref} {c : Cursor} {id : Nat} (h : c.Leads s root)
    (hc : c.containers.top? = some id) :
    ∃ step, c.steps.top? = some step ∧ s.child? (.object id) step = some c.current := by
  obtain ⟨current, ⟨containers⟩, ⟨steps⟩, ancestors⟩ := c
  cases containers with
  | nil => simp [Stack.top?] at hc
  | cons top outer =>
      obtain rfl : top = id := by simpa [Stack.top?] using hc
      cases steps with
      | nil =>
          -- Containers without steps are no way: the number of both is the same.
          generalize hids : Stack.toList (Stack.mk (top :: outer)) = ids
          unfold Leads at h
          simp only [hids] at h
          cases h
          simp [Stack.toList] at hids
      | cons step steps =>
          refine ⟨step, rfl, ?_⟩
          unfold Leads Stack.toList at h
          simp only [List.reverse_cons] at h
          exact h.last

end DocLint
