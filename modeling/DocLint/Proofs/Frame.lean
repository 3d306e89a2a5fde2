import DocLint.Walk

/-!
# DocLint.Proofs.Frame

**Frames.** What an operation does to a store is said in two parts: which cells it
writes, and that all others stay as they are. `Store.Keeps s t written` is the
second part: no object of `s` is gone in `t`, and those outside the list
`written` are unchanged. New objects are free to be anything.

The lemmas follow the ways in which stores change: `keeps_put`, `keeps_insert`,
and one after the other (`Keeps.trans`).
-/

namespace DocLint.Store

/-! ### Cells -/

theorem cell?_eq_some_lt {s : Store} {id : Nat} {cell : Cell} (h : s.cell? id = some cell) :
    id < s.cells.size :=
  (Array.getElem?_eq_some_iff.mp h).1

@[simp] theorem size_put (s : Store) (id : Nat) (cell : Cell) :
    (s.put id cell).cells.size = s.cells.size := by simp [put]

theorem cell?_put_self {s : Store} {id : Nat} (cell : Cell) (h : id < s.cells.size) :
    (s.put id cell).cell? id = some cell := by simp [put, cell?, h]

theorem cell?_put_of_ne {s : Store} {id other : Nat} (cell : Cell) (h : other ≠ id) :
    (s.put id cell).cell? other = s.cell? other := by
  simp [put, cell?, h.symm]

theorem items?_put_of_ne {s : Store} {id : Nat} {ref : Ref} (cell : Cell)
    (h : ref ≠ .object id) : (s.put id cell).items? ref = s.items? ref := by
  cases ref with
  | scalar value => rfl
  | object other =>
      have hne : other ≠ id := fun heq => h (congrArg Ref.object heq)
      rw [items?, items?, cell?_put_of_ne cell hne]

/-- What stands in a field of a record. -/
theorem field?_record {s : Store} {id : Nat} {fields : List (String × Ref)}
    (h : s.cell? id = some (.record fields)) (key : String) :
    s.field? (.object id) key = fieldOf? fields key := by
  simp [field?, fields?, h]

@[simp] theorem insert_fst (s : Store) (cell : Cell) : (s.insert cell).1 = s.cells.size := rfl

@[simp] theorem size_insert (s : Store) (cell : Cell) :
    (s.insert cell).2.cells.size = s.cells.size + 1 := by simp [insert]

theorem cell?_insert_of_lt {s : Store} {id : Nat} (cell : Cell) (h : id < s.cells.size) :
    (s.insert cell).2.cell? id = s.cell? id := by
  simp [insert, cell?, Array.getElem?_push, Nat.ne_of_lt h]

/-! ### What stays -/

/-- No object of `s` is gone in `t`, and those outside `written` are unchanged. -/
structure Keeps (s t : Store) (written : List Nat) : Prop where
  size_le : s.cells.size ≤ t.cells.size
  cell? : ∀ id < s.cells.size, id ∉ written → t.cell? id = s.cell? id

variable {s t u : Store} {written more : List Nat}

@[simp] theorem Keeps.refl (s : Store) (written : List Nat) : s.Keeps s written :=
  ⟨Nat.le_refl _, fun _ _ _ => rfl⟩

/-- More may be written than is. -/
theorem Keeps.mono (h : s.Keeps t written) (hsub : written ⊆ more) : s.Keeps t more :=
  ⟨h.size_le, fun id hid hm => h.cell? id hid fun hw => hm (hsub hw)⟩

theorem Keeps.trans (h : s.Keeps t written) (h' : t.Keeps u written) : s.Keeps u written :=
  ⟨Nat.le_trans h.size_le h'.size_le, fun id hid hw =>
    (h'.cell? id (Nat.lt_of_lt_of_le hid h.size_le) hw).trans (h.cell? id hid hw)⟩

/-- A known object outside what is written is still there. -/
theorem Keeps.cell?_eq {id : Nat} {cell : Cell} (h : s.Keeps t written)
    (hc : s.cell? id = some cell) (hw : id ∉ written) : t.cell? id = some cell :=
  (h.cell? id (cell?_eq_some_lt hc) hw).trans hc

theorem keeps_put (s : Store) (id : Nat) (cell : Cell) : s.Keeps (s.put id cell) [id] :=
  ⟨by simp, fun other _ hw => cell?_put_of_ne cell (by simpa using hw)⟩

theorem keeps_insert (s : Store) (cell : Cell) : s.Keeps (s.insert cell).2 [] :=
  ⟨by simp, fun _ h _ => cell?_insert_of_lt cell h⟩

/-! ### No new objects -/

/-- The store `t` has the objects of `s`, and those outside `written` are unchanged. -/
structure Rewrites (s t : Store) (written : List Nat) : Prop where
  size : t.cells.size = s.cells.size
  keeps : s.Keeps t written

@[simp] theorem Rewrites.refl (s : Store) (written : List Nat) : s.Rewrites s written :=
  ⟨rfl, .refl s written⟩

theorem Rewrites.mono (h : s.Rewrites t written) (hsub : written ⊆ more) : s.Rewrites t more :=
  ⟨h.size, h.keeps.mono hsub⟩

theorem Rewrites.trans (h : s.Rewrites t written) (h' : t.Rewrites u written) :
    s.Rewrites u written :=
  ⟨h'.size.trans h.size, h.keeps.trans h'.keeps⟩

theorem rewrites_put (s : Store) (id : Nat) (cell : Cell) : s.Rewrites (s.put id cell) [id] :=
  ⟨by simp, keeps_put s id cell⟩

/-- Where what is written is as it was, nothing has changed. -/
theorem Rewrites.eq (h : s.Rewrites t written) (hsame : ∀ id ∈ written, t.cell? id = s.cell? id) :
    t = s := by
  have hcells : ∀ id < s.cells.size, t.cell? id = s.cell? id := by
    intro id hid
    by_cases hw : id ∈ written
    · exact hsame id hw
    · exact h.keeps.cell? id hid hw
  obtain ⟨cells⟩ := s
  obtain ⟨cells'⟩ := t
  refine congrArg Store.mk (Array.ext h.size ?_)
  intro id hid hid'
  simpa [Store.cell?, hid, hid'] using hcells id hid'

end DocLint.Store
