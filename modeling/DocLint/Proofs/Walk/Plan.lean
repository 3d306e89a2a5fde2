import DocLint.Proofs.Cursor.Edit
import DocLint.Proofs.Walk.Step

/-!
# DocLint.Proofs.Walk.Plan

**What a visitor may do in one visit.** A `Plan` is a visit written out step by
step: it looks around, makes objects, takes out what stands behind the position as
often as it likes, and replaces the current value at most once, in any order. What
it does next may hang on everything it has seen.

`Plan.run_spec` says what any plan leaves behind at the place of the visit
(`Place.Now`): the items before the position are untouched, of those behind it some
front part is gone, and the pending step is right before the rest. So the steps of
a plan never fail, with one exception: the root cannot be replaced.

A list that is put into itself would make the walk pass over what stands behind the
position. `Plan.Foreign` says that a plan does not do this. What the visit itself has made
or taken out is never that list (`Now.foreign_own`).
-/

namespace DocLint

/-- The number of an object. -/
def Ref.id? : Ref → Option Nat
  | .scalar _ => none
  | .object id => some id

/-- The objects among some values. -/
def objects (refs : List Ref) : List Nat := refs.filterMap Ref.id?

@[simp] theorem objects_nil : objects [] = [] := rfl

@[simp] theorem objects_append (a b : List Ref) : objects (a ++ b) = objects a ++ objects b := by
  simp [objects]

namespace Walk

variable {σ : Type}

/-- Put a value in the place of the current one. -/
def replace (new : Ref) : Walk σ Unit := do
  let w ← get
  let (store, cursor) ← w.cursor.replace w.store new
  set { w with store := store, cursor := cursor }

/-- Take out what stands behind the position. -/
def removeNext : Walk σ Ref := do
  let w ← get
  let (ref, store) ← w.cursor.removeNext w.store
  set { w with store := store }
  return ref

/-- Add an object to the store. -/
def make (cell : Cell) : Walk σ Nat := do
  let w ← get
  set { w with store := (w.store.insert cell).2 }
  return (w.store.insert cell).1

theorem replace_apply {w : Scene σ} {new : Ref} {store : Store} {cursor : Cursor}
    (h : w.cursor.replace w.store new = .ok (store, cursor)) :
    (replace new : Walk σ Unit) w = .ok () { w with store := store, cursor := cursor } := by
  rw [replace, get_bind, h]
  rfl

theorem removeNext_apply {w : Scene σ} {ref : Ref} {store : Store}
    (h : w.cursor.removeNext w.store = .ok (ref, store)) :
    (removeNext : Walk σ Ref) w = .ok ref { w with store := store } := by
  rw [removeNext, get_bind, h]
  rfl

end Walk

/-- What a visitor does in one visit; `mayReplace` says whether the current value
may still be replaced. -/
inductive Plan (σ : Type) : (mayReplace : Bool) → Type
  /-- Nothing more; the visitor keeps `data`. -/
  | done {b : Bool} (data : σ) : Plan σ b
  /-- Go on as the document and the position suggest. -/
  | look {b : Bool} (next : Store → Cursor → Plan σ b) : Plan σ b
  /-- Make an object and go on with its number. -/
  | make {b : Bool} (cell : Cell) (next : Nat → Plan σ b) : Plan σ b
  /-- Take out what stands behind the position and go on with it. -/
  | takeNext {b : Bool} (next : Ref → Plan σ b) : Plan σ b
  /-- Replace the current value. -/
  | replace (new : Ref) (next : Plan σ false) : Plan σ true

namespace Plan

variable {σ : Type}

/-- Carry a plan out, and say what was taken out. -/
def run {b : Bool} : Plan σ b → Walk σ (List Ref)
  | .done data => do
    Walk.modifyData fun _ => data
    return []
  | .look next => do
    let w ← get
    (next w.store w.cursor).run
  | .make cell next => do
    let id ← Walk.make cell
    (next id).run
  | .takeNext next => do
    let ref ← Walk.removeNext
    return ref :: (← (next ref).run)
  | .replace new next => do
    Walk.replace new
    next.run

/-- Carried out on this document and at this position, the plan replaces nothing. -/
def InPlace {b : Bool} : Plan σ b → Store → Cursor → Prop
  | .done _, _, _ => True
  | .look next, s, c => (next s c).InPlace s c
  | .make cell next, s, c => (next (s.insert cell).1).InPlace (s.insert cell).2 c
  | .takeNext next, s, c => ∀ ref t, c.removeNext s = .ok (ref, t) → (next ref).InPlace t c
  | .replace _ _, _, _ => False

/-- Carried out on this document and at this position, the plan does not put the list that
holds the position into itself. What is the visit's own may be put there in any case: the
values of `own`, and what the visit makes or takes out. -/
def Foreign {b : Bool} : Plan σ b → (own : List Ref) → Store → Cursor → Prop
  | .done _, _, _, _ => True
  | .look next, own, s, c => (next s c).Foreign own s c
  | .make cell next, own, s, c =>
    (next (s.insert cell).1).Foreign (.object (s.insert cell).1 :: own) (s.insert cell).2 c
  | .takeNext next, own, s, c =>
    ∀ ref t, c.removeNext s = .ok (ref, t) → (next ref).Foreign (ref :: own) t c
  | .replace new _, own, s, c => new ∈ own ∨ c.Foreign s new

/-- The visitor that follows a plan, which may hang on the node, its content and
what the visitor has kept. -/
def visitor (plan : Nat → String → σ → Plan σ true) : Visitor σ := fun node content => do
  let w ← get
  let _ ← (plan node content w.data).run

end Plan

/-- Where the value of a visit stands. -/
inductive Place
  /-- Nothing contains it. -/
  | root
  /-- It stands in list `id` between the items `before` and `behind`. -/
  | item (id : Nat) (before behind : List Ref) (outer : Stack Step)
  /-- It stands in the field `key` of record `id`, whose fields are `fields`. -/
  | field (id : Nat) (fields : List (String × Ref)) (key : String) (outer : Stack Step)

namespace Place

/-- The object that holds the place. -/
def holder : Place → List Nat
  | .root => []
  | .item id _ _ _ | .field id _ _ _ => [id]

/-- The items that stand behind a place. -/
def behind : Place → List Ref
  | .item _ _ behind _ => behind
  | .root | .field .. => []

/-- What has become of a place in the course of a visit. Of the items behind it those
of `dropped` are gone. `whole` says that the place itself has not been replaced. -/
def Now (whole : Bool) (dropped : List Ref) (s : Store) (c : Cursor) : Place → Prop
  | .root => c.containers = .empty ∧ dropped = []
  | .item id before behind outer => ∃ new rest,
      c.containers.top? = some id ∧ behind = dropped ++ rest ∧
      s.cell? id = some (.list (before ++ new ++ rest)) ∧
      c.steps = outer.push (.index (before.length + new.length - 1)) ∧
      (whole = true → ∃ r, new = [r])
  | .field id fields key outer => ∃ now,
      c.containers.top? = some id ∧ dropped = [] ∧ s.cell? id = some (.record now) ∧
      c.steps = outer.push (.key key) ∧
      (∀ other, other ≠ key → fieldOf? now other = fieldOf? fields other) ∧
      (whole = true → (fieldOf? now key).isSome)

variable {whole : Bool} {dropped : List Ref} {s t : Store} {c : Cursor}

/-- Writing elsewhere leaves a place alone. -/
theorem Now.keep {p : Place} {written : List Nat} (h : p.Now whole dropped s c)
    (hk : s.Keeps t written) (hw : ∀ i ∈ p.holder, i ∉ written) : p.Now whole dropped t c := by
  cases p with
  | root => exact h
  | item id before behind outer =>
      obtain ⟨new, rest, hc, hb, hcell, hs, hr⟩ := h
      exact ⟨new, rest, hc, hb, hk.cell?_eq hcell (hw id (by simp [holder])), hs, hr⟩
  | field id fields key outer =>
      obtain ⟨now, hc, hd, hcell, hs, hf, hr⟩ := h
      exact ⟨now, hc, hd, hk.cell?_eq hcell (hw id (by simp [holder])), hs, hf, hr⟩

/-- A place that may have been replaced is one that has not. -/
theorem Now.weaken {p : Place} (h : p.Now whole dropped s c) : p.Now false dropped s c := by
  cases p with
  | root => exact h
  | item id before behind outer =>
      obtain ⟨new, rest, hc, hb, hcell, hs, -⟩ := h
      exact ⟨new, rest, hc, hb, hcell, hs, by simp⟩
  | field id fields key outer =>
      obtain ⟨now, hc, hd, hcell, hs, hf, -⟩ := h
      exact ⟨now, hc, hd, hcell, hs, hf, by simp⟩

/-- A place does not look at the current value or the ancestors of the cursor. -/
theorem Now.congr {p : Place} {c' : Cursor} (h : p.Now whole dropped s c)
    (hc : c'.containers = c.containers) (hs : c'.steps = c.steps) : p.Now whole dropped s c' := by
  cases p <;> simpa only [Now, hc, hs] using h

/-- The object that holds a place is there. -/
theorem Now.holder_lt {p : Place} (h : p.Now whole dropped s c) :
    ∀ i ∈ p.holder, i < s.cells.size := by
  cases p with
  | root => simp [holder]
  | item id before behind outer =>
      obtain ⟨_, _, -, -, hcell, -⟩ := h
      simpa [holder] using Store.cell?_eq_some_lt hcell
  | field id fields key outer =>
      obtain ⟨_, -, -, hcell, -⟩ := h
      simpa [holder] using Store.cell?_eq_some_lt hcell

/-- What is gone from behind a place stood there. -/
theorem Now.dropped_subset {p : Place} (h : p.Now whole dropped s c) :
    objects dropped ⊆ objects p.behind := by
  cases p with
  | root => simp [h.2]
  | item id before behind outer =>
      obtain ⟨new, rest, -, hb, -⟩ := h
      simp [Place.behind, hb]
  | field id fields key outer =>
      obtain ⟨now, -, hd, -⟩ := h
      simp [hd]

/-- Only the holder of a place can be the list that holds the position. -/
theorem Now.foreign_own {p : Place} {r : Ref} (h : p.Now whole dropped s c)
    (hr : ∀ i ∈ p.holder, r ≠ .object i) : c.Foreign s r := by
  intro i items hsiblings
  have htop : c.containers.top? = some i := by
    simp only [Cursor.siblings?, Option.bind_eq_bind, Option.bind_eq_some_iff] at hsiblings
    obtain ⟨j, hj, _, -, heq⟩ := hsiblings
    rw [hj, ← (Prod.mk.inj (Option.some.inj heq)).1]
  refine hr i ?_
  cases p with
  | root =>
      rw [h.1] at htop
      cases htop
  | item id before behind outer =>
      obtain ⟨_, _, hc, -⟩ := h
      exact List.mem_singleton.mpr (Option.some.inj (htop.symm.trans hc))
  | field id fields key outer =>
      obtain ⟨_, hc, -⟩ := h
      exact List.mem_singleton.mpr (Option.some.inj (htop.symm.trans hc))

/-! ### The two edits at a place -/

/-- Taking out what stands behind moves the front of it to `dropped`. -/
theorem Now.removeNext {p : Place} (h : p.Now whole dropped s c) : ∃ ref more t,
    c.removeNext s = .ok (ref, t) ∧ objects [ref] = objects more ∧
      p.Now whole (dropped ++ more) t c ∧ s.Keeps t p.holder := by
  cases p with
  | root =>
      obtain ⟨hc, hd⟩ := h
      exact ⟨.null, [], s, Cursor.removeNext_at_root hc, rfl, ⟨hc, by simp [hd]⟩, .refl s _⟩
  | item id before behind outer =>
      obtain ⟨new, rest, hc, hb, hcell, hs, hr⟩ := h
      have hsplits : c.Splits s id outer before new rest := ⟨hc, hcell, hs⟩
      rcases hsplits.removeNext with ⟨rfl, hremove⟩ | ⟨ref, rest, t, rfl, hremove, hk, hsplits⟩
      · exact ⟨.null, [], s, hremove, rfl, ⟨new, [], hc, by simpa using hb, hcell, hs, hr⟩,
          .refl s _⟩
      · exact ⟨ref, [ref], t, hremove, rfl,
          ⟨new, rest, hc, by simp [hb], hsplits.cell, hs, hr⟩, hk⟩
  | field id fields key outer =>
      obtain ⟨now, hc, hd, hcell, hrest⟩ := h
      exact ⟨.null, [], s, Cursor.removeNext_in_record hc hcell, rfl,
        ⟨now, hc, by simp [hd], hcell, hrest⟩, .refl s _⟩

/-- What has not been replaced can be, unless it is the root. -/
theorem Now.replace {p : Place} (h : p.Now true dropped s c) (hp : p ≠ .root) {new : Ref}
    (hnew : c.Foreign s new) :
    ∃ t c', c.replace s new = .ok (t, c') ∧ p.Now false dropped t c' ∧ s.Keeps t p.holder ∧
      c'.containers = c.containers ∧ c'.ancestors = c.ancestors := by
  cases p with
  | root => exact absurd rfl hp
  | item id before behind outer =>
      obtain ⟨old, rest, hc, hb, hcell, hs, hr⟩ := h
      -- The place has not been replaced: exactly one item stands there.
      obtain ⟨r, rfl⟩ := hr rfl
      have hsplits : c.Splits s id outer before ([] ++ [r]) rest := ⟨hc, hcell, hs⟩
      obtain ⟨t, c', hreplace, hk, hnow, hc'⟩ := hsplits.replace (hnew.ne hc hsplits.cell)
      refine ⟨t, c', hreplace, ⟨s.inserted new, rest, hnow.top, hb, hnow.cell, hnow.steps, by simp⟩,
        hk, ?_, ?_⟩ <;> rw [hc']
  | field id fields key outer =>
      obtain ⟨now, hc, hd, hcell, hs, hf, hr⟩ := h
      refine ⟨_, _, Cursor.replace_in_record hc hs hcell (hr rfl) new, ?_, Store.keeps_put _ _ _,
        rfl, rfl⟩
      refine ⟨_, hc, hd, Store.cell?_put_self _ (Store.cell?_eq_some_lt hcell), hs, ?_, by simp⟩
      -- Whether the field is dropped or set, the other fields stay.
      intro other hne
      split
      · exact (fieldOf?_dropField_of_ne hne now).trans (hf other hne)
      · exact (fieldOf?_putField_of_ne new hne now).trans (hf other hne)

end Place

/-- **A visit.** Carried out at a place, a plan comes to its end; it has written to
the object that holds the place only, and to new ones. What it took out are the
objects among the items that are gone from behind the place. -/
theorem Plan.run_spec {σ : Type} {b : Bool} (plan : Plan σ b) {p : Place}
    (hbehind : ∀ i ∈ p.holder, i ∉ objects p.behind) :
    ∀ {w : Scene σ} {dropped own : List Ref}, p.Now b dropped w.store w.cursor →
      (p = .root → plan.InPlace w.store w.cursor) → (b = true → plan.Foreign own w.store w.cursor) →
      (∀ r ∈ own, ∀ i ∈ p.holder, r ≠ .object i) →
      ∃ taken more w', plan.run w = .ok taken w' ∧ objects taken = objects more ∧
        p.Now false (dropped ++ more) w'.store w'.cursor ∧ w.store.Keeps w'.store p.holder ∧
        w'.cursor.containers = w.cursor.containers ∧ w'.cursor.ancestors = w.cursor.ancestors := by
  induction plan with
  | done data =>
      intro w dropped own h _ _ _
      exact ⟨[], [], { w with data := data }, rfl, rfl, by simpa using h.weaken, .refl _ _, rfl,
        rfl⟩
  | look next ih =>
      intro w dropped own h hr hf ho
      exact ih w.store w.cursor h hr hf ho
  | make cell next ih =>
      intro w dropped own h hr hf ho
      have hk := Store.keeps_insert w.store cell
      -- What is made now is not the object that holds the place, for that was there before.
      have hmade : ∀ r ∈ Ref.object w.store.cells.size :: own, ∀ i ∈ p.holder, r ≠ .object i := by
        intro r hr i hi
        rcases List.mem_cons.mp hr with rfl | hr
        · intro heq
          exact absurd (Ref.object.inj heq) (Nat.ne_of_gt (h.holder_lt i hi))
        · exact ho r hr i hi
      obtain ⟨taken, more, w', hrun, rest⟩ := ih w.store.cells.size
        (w := { w with store := (w.store.insert cell).2 }) (h.keep hk (by simp)) hr hf hmade
      obtain ⟨ht, hn, hkeep, hsame⟩ := rest
      exact ⟨taken, more, w', hrun, ht, hn, (hk.mono (by simp)).trans hkeep, hsame⟩
  | takeNext next ih =>
      intro w dropped own h hr hf ho
      obtain ⟨ref, first, t, hremove, href, hnow, hk⟩ := h.removeNext
      -- What is taken out stood behind the place.
      have htaken : ∀ r ∈ ref :: own, ∀ i ∈ p.holder, r ≠ .object i := by
        intro r hr i hi
        rcases List.mem_cons.mp hr with rfl | hr
        · intro heq
          have hmore : i ∈ objects first := by
            rw [← href, heq]
            exact List.mem_singleton_self i
          refine hbehind i hi (hnow.dropped_subset ?_)
          rw [objects_append]
          exact List.mem_append_right _ hmore
        · exact ho r hr i hi
      obtain ⟨taken, more, w', hrun, ht, hn, hkeep, hsame⟩ :=
        ih ref (w := { w with store := t }) hnow (fun hp => hr hp ref t hremove)
          (fun hb => hf hb ref t hremove) htaken
      refine ⟨ref :: taken, first ++ more, w', ?_, ?_, ?_, hk.trans hkeep, hsame⟩
      · unfold Plan.run
        rw [bind_ok (Walk.removeNext_apply hremove), bind_ok hrun]
        rfl
      · rw [objects_append, ← href, ← ht, ← objects_append]
        rfl
      · rwa [← List.append_assoc]
  | replace new next ih =>
      intro w dropped own h hr hf ho
      -- A plan that replaces is not for the root, and afterwards it replaces nothing.
      have hp : p ≠ .root := hr
      have hnew : w.cursor.Foreign w.store new :=
        (hf rfl).elim (fun hmem => h.foreign_own (ho new hmem)) id
      obtain ⟨t, c, hreplace, hnow, hk, hc, ha⟩ := h.replace hp hnew
      obtain ⟨taken, more, w', hrun, ht, hn, hkeep, hc', ha'⟩ :=
        ih (w := { w with store := t, cursor := c }) hnow (fun h => absurd h hp) nofun ho
      refine ⟨taken, more, w', ?_, ht, hn, hk.trans hkeep, hc'.trans hc, ha'.trans ha⟩
      unfold Plan.run
      rw [bind_ok (Walk.replace_apply hreplace), hrun]

end DocLint
