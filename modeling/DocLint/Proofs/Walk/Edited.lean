import DocLint.Proofs.Cursor.Way
import DocLint.Proofs.Walk.Plan

/-!
# DocLint.Proofs.Walk.Edited

**Walks whose visits edit the document.** However the visits of a walk follow a
`Plan`, the walk comes to its end and calls the visitor once for each node that is
not taken out, in the order of the document as it was before the walk.

The proof goes along the layout. `Before` is what holds when the walk comes to a
part of the document and `After` what holds when it is done with the part; inside
an object the same is said of the parts that are still to come (`Inside`,
`PartsAfter`). What ties the two together is that everything still to come is as it
was in the beginning, since visits write to the object that holds their place
(`Plan.run_spec`) and in it leave what is to come alone (`Place.Now`).
-/

namespace DocLint

variable {σ : Type}

/-- A visit that took place: the node and its content, the scenes before and after
it, and what was taken out. -/
structure Call (σ : Type) where
  node : Nat
  content : String
  before : Scene σ
  taken : List Ref
  after : Scene σ

/-- The node of a call and its content. -/
def Call.key (call : Call σ) : Nat × String := (call.node, call.content)

/-- The objects that were taken out. -/
def takenBy (calls : List (Call σ)) : List Nat := calls.flatMap fun call => objects call.taken

@[simp] theorem takenBy_nil : takenBy ([] : List (Call σ)) = [] := rfl

@[simp] theorem takenBy_append (first more : List (Call σ)) :
    takenBy (first ++ more) = takenBy first ++ takenBy more := by simp [takenBy]

/-- Calls that follow a plan, one after the other: what the next one finds is what the
last one left. -/
inductive Calls (plan : Nat → String → σ → Plan σ true) :
    Store → σ → List (Call σ) → Store → σ → Prop
  | nil (s : Store) (data : σ) : Calls plan s data [] s data
  | cons (call : Call σ) {calls : List (Call σ)} {t : Store} {last : σ}
      (run : (plan call.node call.content call.before.data).run call.before =
        .ok call.taken call.after)
      (tail : Calls plan call.after.store call.after.data calls t last) :
      Calls plan call.before.store call.before.data (call :: calls) t last

theorem Calls.append {plan : Nat → String → σ → Plan σ true} {s t u : Store} {d e f : σ}
    {first more : List (Call σ)} (h : Calls plan s d first t e) (h' : Calls plan t e more u f) :
    Calls plan s d (first ++ more) u f := by
  induction h with
  | nil => exact h'
  | cons call run _ ih => exact .cons call run (ih h')

/-! ### What holds between two moments of a walk -/

variable {plan : Nat → String → σ → Plan σ true} {root : Ref} {w w₁ w₂ : Scene σ}
  {calls first more : List (Call σ)} {written ids : List Nat} {stack : Stack Nat} {id : Nat}

/-- Between two moments a walk makes `calls` and writes to `written`. Each call finds
the cursor where its node is. -/
structure Trace (plan : Nat → String → σ → Plan σ true) (root : Ref) (written : List Nat)
    (w : Scene σ) (calls : List (Call σ)) (w' : Scene σ) : Prop where
  run : Calls plan w.store w.data calls w'.store w'.data
  keeps : w.store.Keeps w'.store written
  placed : ∀ call ∈ calls, call.before.cursor.current = .object call.node ∧
    call.before.cursor.Leads call.before.store root
  containers : w'.cursor.containers = w.cursor.containers
  ancestors : w'.cursor.ancestors = w.cursor.ancestors

theorem Trace.refl (plan : Nat → String → σ → Plan σ true) (root : Ref) (written : List Nat)
    (w : Scene σ) : Trace plan root written w [] w where
  run := .nil _ _
  keeps := .refl _ _
  placed := by simp
  containers := rfl
  ancestors := rfl

theorem Trace.trans (h : Trace plan root written w first w₁)
    (h' : Trace plan root written w₁ more w₂) : Trace plan root written w (first ++ more) w₂ where
  run := h.run.append h'.run
  keeps := h.keeps.trans h'.keeps
  placed call hcall := (List.mem_append.mp hcall).elim (h.placed call) (h'.placed call)
  containers := h'.containers.trans h.containers
  ancestors := h'.ancestors.trans h.ancestors

theorem Trace.mono {wide : List Nat} (h : Trace plan root written w calls w₁)
    (hsub : written ⊆ wide) : Trace plan root wide w calls w₁ :=
  { h with keeps := h.keeps.mono hsub }

/-- The steps and the current value of the cursor may change on either side. -/
theorem Trace.moved {v v₁ : Scene σ} (h : Trace plan root written w calls w₁)
    (hs : w.store = v.store) (hd : w.data = v.data) (hs₁ : w₁.store = v₁.store)
    (hd₁ : w₁.data = v₁.data)
    (hc : w₁.cursor.containers = w.cursor.containers → v₁.cursor.containers = v.cursor.containers)
    (ha : w₁.cursor.ancestors = w.cursor.ancestors → v₁.cursor.ancestors = v.cursor.ancestors) :
    Trace plan root written v calls v₁ where
  run := hs ▸ hd ▸ hs₁ ▸ hd₁ ▸ h.run
  keeps := hs ▸ hs₁ ▸ h.keeps
  placed := h.placed
  containers := hc h.containers
  ancestors := ha h.ancestors

/-! ### Before and after a part of the document -/

/-- The walk has come to the layout `x` at the place `p`. -/
structure Before (root : Ref) (x : Layout) (p : Place) (w : Scene σ) : Prop where
  lays : w.store.Lays x
  place : p.Now true [] w.store w.cursor
  way : w.store.Way root w.cursor.containers.toList w.cursor.steps.toList x.ref
  outside : ∀ i ∈ w.cursor.containers.toList, i ∉ x.ids
  behind : ∀ i ∈ objects p.behind, i ∉ x.ids
  beside : ∀ i ∈ p.holder, i ∉ objects p.behind

/-- The walk is done with the layout `x` at the place `p`; the items of `dropped` are
gone from behind the place. -/
structure After (plan : Nat → String → σ → Plan σ true) (root : Ref) (x : Layout) (p : Place)
    (w : Scene σ) (calls : List (Call σ)) (dropped : List Ref) (w' : Scene σ) : Prop where
  trace : Trace plan root (p.holder ++ x.ids) w calls w'
  place : p.Now false dropped w'.store w'.cursor
  taken : ∀ i ∈ takenBy calls, (i ∈ x.ids ∧ x.id? ≠ some i) ∨ i ∈ objects dropped
  dropped : ∀ i ∈ objects dropped, i ∈ takenBy calls
  keys : calls.map Call.key = (x.without (takenBy calls)).keys

/-- The walk of `x`, begun in the scene `w`, has made `calls` for what is inside of `x`
and is back for the visit of `x` itself, in the scene `v`. The scalars of `x` are as
they were. -/
structure Back (plan : Nat → String → σ → Plan σ true) (root : Ref) (x : Layout) (w : Scene σ)
    (calls : List (Call σ)) (id : Nat) (content : String) (v : Scene σ) : Prop where
  node : x.id? = some id
  run : Calls plan w.store w.data calls v.store v.data
  placed : ∀ call ∈ calls, call.before.cursor.current = .object call.node ∧
    call.before.cursor.Leads call.before.store root
  keys : calls.map Call.key ++ [(id, content)] = (x.without (takenBy calls)).keys
  cursor : v.cursor = { w.cursor with current := .object id }
  own : ∀ key value, w.store.field? (.object id) key = some (.scalar value) →
    v.store.field? (.object id) key = some (.scalar value)

/-- The walk is inside the object `id`, and the parts still to come have the objects
`ids`. -/
structure Inside (root : Ref) (stack : Stack Nat) (id : Nat) (ids : List Nat) (w : Scene σ) :
    Prop where
  containers : w.cursor.containers = stack.push id
  way : w.store.Way root stack.toList w.cursor.steps.toList (.object id)
  outside : ∀ i ∈ stack.toList, i ∉ id :: ids
  unshared : (id :: ids).Nodup

/-- The walk is done with parts of the object `id` that have the objects `ids`. `left`
says what is left of the parts when some objects are gone. -/
structure PartsAfter (plan : Nat → String → σ → Plan σ true) (root : Ref) (id : Nat)
    (ids : List Nat) (left : List Nat → List (Nat × String)) (w : Scene σ)
    (calls : List (Call σ)) (w' : Scene σ) : Prop where
  trace : Trace plan root (id :: ids) w calls w'
  steps : w'.cursor.steps = w.cursor.steps
  taken : ∀ i ∈ takenBy calls, i ∈ ids
  keys : calls.map Call.key = left (takenBy calls)

/-- What is still to come is nothing that the walk is inside of. -/
theorem Inside.apart (h : Inside root stack id ids w) :
    ∀ i ∈ w.cursor.containers.toList, i ∉ ids := by
  intro i hi hmem
  have hi : i ∈ stack.toList ∨ i = id := by simpa [h.containers] using hi
  rcases hi with hi | rfl
  · exact h.outside i hi (List.mem_cons_of_mem _ hmem)
  · exact (List.nodup_cons.mp h.unshared).1 hmem

/-- What is written inside an object does not move the object. -/
theorem Inside.trans {rest : List Nat} (h : Inside root stack id ids w)
    (ht : Trace plan root (id :: ids) w calls w₁) (hs : w₁.cursor.steps = w.cursor.steps)
    (hsub : rest ⊆ ids) (hn : rest.Nodup) : Inside root stack id rest w₁ where
  containers := ht.containers.trans h.containers
  way := hs ▸ h.way.keep ht.keeps h.outside
  outside i hi hmem := h.outside i hi (List.cons_subset_cons id hsub hmem)
  unshared := List.nodup_cons.mpr ⟨fun hi => (List.nodup_cons.mp h.unshared).1 (hsub hi), hn⟩

/-! ### What is left of a list -/

namespace Layout

@[simp] theorem ref_id? (x : Layout) : x.ref.id? = x.id? := by cases x <;> rfl

theorem mem_objects_refs {i : Nat} {items : List Layout} :
    i ∈ objects (items.map ref) ↔ ∃ x ∈ items, x.id? = some i := by
  simp [objects]

/-- The objects that are items are among all objects. -/
theorem objects_refs_subset (items : List Layout) : objects (items.map ref) ⊆ idsItems items := by
  intro i hi
  obtain ⟨x, hx, hid⟩ := mem_objects_refs.mp hi
  exact mem_idsItems.mpr ⟨x, hx, mem_ids_of_id? hid⟩

/-- Of items whose objects are gone no text and no nodes are left. -/
theorem nothing_left {gone : List Nat} (back : List Layout) : ∀ {front : List Layout},
    (∀ i ∈ objects (front.map ref), i ∈ gone) →
      textItems (withoutItems gone (front ++ back)) = textItems (withoutItems gone back) ∧
        keysItems (withoutItems gone (front ++ back)) = keysItems (withoutItems gone back)
  | [], _ => ⟨rfl, rfl⟩
  | x :: rest, h => by
      have hrest : ∀ i ∈ objects (rest.map ref), i ∈ gone := by
        intro i hi
        obtain ⟨y, hy, hid⟩ := mem_objects_refs.mp hi
        exact h i (mem_objects_refs.mpr ⟨y, List.mem_cons_of_mem _ hy, hid⟩)
      have ih := nothing_left back hrest
      rw [List.cons_append, withoutItems]
      cases x with
      | scalar value =>
          -- A scalar stays, but it has no text and no nodes.
          simpa [isOneOf, id?, without, textItems, text] using ih
      | list id items | record id fields =>
          have hid : id ∈ gone := h id (mem_objects_refs.mpr ⟨_, List.mem_cons_self, rfl⟩)
          rw [if_pos (isOneOf_iff.mpr ⟨id, hid, rfl⟩)]
          exact ih

/-- **One item.** What is gone behind the first item and inside of it is one thing,
what is gone from the rest is another. -/
theorem left_of_cons {x : Layout} {front back : List Layout} {gone later : List Nat}
    (hn : (idsItems (x :: (front ++ back))).Nodup)
    (hgone : ∀ i ∈ gone, (i ∈ x.ids ∧ x.id? ≠ some i) ∨ i ∈ objects (front.map ref))
    (hfront : ∀ i ∈ objects (front.map ref), i ∈ gone) (hlater : ∀ i ∈ later, i ∈ idsItems back) :
    textItems (withoutItems (gone ++ later) (x :: (front ++ back))) =
        (x.without gone).text ++ textItems (withoutItems later back) ∧
      keysItems (withoutItems (gone ++ later) (x :: (front ++ back))) =
        (x.without gone).keys ++ keysItems (withoutItems later back) := by
  rw [idsItems, idsItems_append, List.nodup_append, List.nodup_append] at hn
  obtain ⟨-, ⟨-, -, hfb⟩, hx⟩ := hn
  have hxf : ∀ i ∈ x.ids, i ∉ objects (front.map ref) := fun i hi h =>
    hx i hi i (List.mem_append_left _ (objects_refs_subset front h)) rfl
  have hxb : ∀ i ∈ x.ids, i ∉ idsItems back := fun i hi h =>
    hx i hi i (List.mem_append_right _ h) rfl
  -- The first item stays: what is gone is inside of it, or behind it.
  have hstays : x.isOneOf (gone ++ later) = false := by
    refine Bool.eq_false_iff.mpr ?_
    intro h
    obtain ⟨i, hi, hid⟩ := isOneOf_iff.mp h
    have hmem := mem_ids_of_id? hid
    rcases List.mem_append.mp hi with hi | hi
    · rcases hgone i hi with h | h
      · exact h.2 hid
      · exact hxf i hmem h
    · exact hxb i hmem (hlater i hi)
  -- Inside it nothing goes later, and behind the gap nothing has gone yet.
  have hinside : x.without (gone ++ later) = x.without gone := without_congr fun i hi => by
    have hli : i ∉ later := fun h => hxb i hi (hlater i h)
    simp [hli]
  have hbehind : withoutItems (gone ++ later) back = withoutItems later back :=
    withoutItems_congr fun i hi => by
      have hgi : i ∉ gone := by
        intro h
        rcases hgone i h with h | h
        · exact hxb i h.1 hi
        · exact hfb i (objects_refs_subset front h) i hi rfl
      simp [hgi]
  have hfront' : ∀ i ∈ objects (front.map ref), i ∈ gone ++ later := fun i hi =>
    List.mem_append_left _ (hfront i hi)
  obtain ⟨htext, hkeys⟩ := nothing_left back hfront'
  rw [withoutItems, hstays, if_neg Bool.false_ne_true, textItems, keysItems_cons, hinside, htext,
    hkeys, hbehind]
  exact ⟨rfl, rfl⟩

/-- **One field.** What is gone from the first field is one thing, what is gone from
the others is another. -/
theorem left_of_field (key : String) {x : Layout} {rest : List (String × Layout)}
    {gone later : List Nat} (hn : (idsFields ((key, x) :: rest)).Nodup)
    (hgone : ∀ i ∈ gone, i ∈ x.ids) (hlater : ∀ i ∈ later, i ∈ idsFields rest) :
    withoutFields (gone ++ later) ((key, x) :: rest) =
      (key, x.without gone) :: withoutFields later rest := by
  obtain ⟨-, -, hd⟩ := List.nodup_append.mp hn
  have hx : x.without (gone ++ later) = x.without gone := without_congr fun i hi => by
    have hli : i ∉ later := fun h => hd i hi i (hlater i h) rfl
    simp [hli]
  have hrest : withoutFields (gone ++ later) rest = withoutFields later rest :=
    withoutFields_congr fun i hi => by
      have hgi : i ∉ gone := fun h => hd i (hgone i h) i hi rfl
      simp [hgi]
  rw [withoutFields, hx, hrest]

end Layout

/-! ### The walk of a part, of items and of fields -/

/-- The walk of `x` ends well, wherever `x` stands; only when it is back at the root, the
visit must not replace it. -/
def Layout.Walked (plan : Nat → String → σ → Plan σ true) (root : Ref) (x : Layout) : Prop :=
  ∀ {allowance : Nat} {w : Scene σ} {p : Place}, x.extent < allowance → Before root x p w →
    (p = .root → ∀ calls id content v, Back plan root x w calls id content v →
      (plan id content v.data).InPlace v.store v.cursor) →
    ∃ calls dropped w', Walk.value (Plan.visitor plan) allowance x.ref w =
        .ok (x.without (takenBy calls)).text w' ∧ After plan root x p w calls dropped w'

open Walk Layout

/-- The first of the items that are still to come. -/
theorem Inside.before_item {x : Layout} {tail : List Layout} {front : List Ref}
    (h : Inside root stack id (idsItems (x :: tail)) w)
    (hcell : w.store.cell? id = some (.list (front ++ (x :: tail).map ref)))
    (hholds : x.Holds w.store) (hkeyed : x.tree.Keyed) :
    Before root x (.item id front (tail.map ref) w.cursor.steps)
      { w with cursor := w.cursor.down (.index front.length) } := by
  obtain ⟨hid, hn⟩ := List.nodup_cons.mp h.unshared
  obtain ⟨hx, -, hd⟩ := List.nodup_append.mp hn
  have htop : w.cursor.containers.top? = some id := by rw [h.containers, Stack.top?_push]
  refine ⟨⟨hholds, hx, hkeyed⟩, ?_, ?_, ?_, fun i hi hmem => ?_, fun i hi hmem => ?_⟩
  · refine ⟨[x.ref], tail.map ref, htop, rfl, by simpa using hcell, ?_, fun _ => ⟨_, rfl⟩⟩
    simp [Cursor.down]
  · have hchild : w.store.child? (.object id) (.index front.length) = some x.ref := by
      simp [Store.child?_item hcell]
    simpa [Cursor.down, h.containers] using h.way.snoc hchild
  · exact fun i hi hmem => h.apart i hi (List.mem_append_left _ hmem)
  · exact hd i hmem i (objects_refs_subset tail hi) rfl
  · obtain rfl := List.mem_singleton.mp hi
    exact hid (List.mem_append_right _ (objects_refs_subset tail hmem))

/-- The first of the fields that are still to come. -/
theorem Inside.before_field {x : Layout} {key : String} {tail : List (String × Layout)}
    {now : List (String × Ref)} (h : Inside root stack id (idsFields ((key, x) :: tail)) w)
    (hcell : w.store.cell? id = some (.record now)) (hnow : fieldOf? now key = some x.ref)
    (hholds : x.Holds w.store) (hkeyed : x.tree.Keyed) :
    Before root x (.field id now key w.cursor.steps)
      { w with cursor := w.cursor.down (.key key) } := by
  obtain ⟨-, hn⟩ := List.nodup_cons.mp h.unshared
  obtain ⟨hx, -, -⟩ := List.nodup_append.mp hn
  have htop : w.cursor.containers.top? = some id := by rw [h.containers, Stack.top?_push]
  refine ⟨⟨hholds, hx, hkeyed⟩, ?_, ?_, ?_, fun i hi => by simp [Place.behind] at hi,
    fun i _ => List.not_mem_nil⟩
  · exact ⟨now, htop, rfl, hcell, rfl, fun _ _ => rfl, fun _ => by simp [hnow]⟩
  · have hchild : w.store.child? (.object id) (.key key) = some x.ref := by
      rw [Store.child?_field hcell, hnow]
    simpa [Cursor.down, h.containers] using h.way.snoc hchild
  · exact fun i hi hmem => h.apart i hi (List.mem_append_left _ hmem)

/-- The first item, and then what its visits have left of the items behind it. -/
theorem After.items {x : Layout} {gone back : List Layout} {front : List Ref}
    {outer : Stack Step} {v w₃ : Scene σ}
    (h : After plan root x (.item id front ((gone ++ back).map ref) outer) v calls
      (gone.map ref) w₁)
    (hn : (idsItems (x :: (gone ++ back))).Nodup)
    (ht : Trace plan root (id :: idsItems (x :: (gone ++ back))) w calls w₂)
    (hs : w₂.cursor.steps = w.cursor.steps)
    (hrest : PartsAfter plan root id (idsItems back)
      (fun taken => keysItems (withoutItems taken back)) w₂ more w₃) :
    PartsAfter plan root id (idsItems (x :: (gone ++ back)))
      (fun taken => keysItems (withoutItems taken (x :: (gone ++ back)))) w (calls ++ more) w₃ := by
  have hsub : idsItems back ⊆ idsItems (x :: (gone ++ back)) := by simp [idsItems, idsItems_append]
  obtain ⟨-, hkeys⟩ := left_of_cons hn h.taken h.dropped hrest.taken
  refine ⟨?_, hrest.steps.trans hs, ?_, ?_⟩
  · exact ht.trans (hrest.trace.mono (List.cons_subset_cons id hsub))
  · intro i hi
    rw [takenBy_append] at hi
    -- Taken were parts of `x`, items right behind it, or something later on.
    rcases List.mem_append.mp hi with hi | hi
    · rcases h.taken i hi with h | h
      · exact List.mem_append_left _ h.1
      · refine List.mem_append_right _ ?_
        rw [idsItems_append]
        exact List.mem_append_left _ (objects_refs_subset gone h)
    · exact hsub (hrest.taken i hi)
  · rw [List.map_append, h.keys, hrest.keys, takenBy_append]
    exact hkeys.symm

/-- **Items.** Behind any items that have been dealt with, the rest of a list is
walked. -/
theorem items_edited {rest : List Layout} {allowance : Nat} {w : Scene σ} {front : List Ref}
    {index : Int} (content : String) (hindex : index = front.length)
    (hwalked : ∀ x ∈ rest, x.Walked plan root)
    (hfuel : rest.length + extentItems rest < allowance)
    (hcell : w.store.cell? id = some (.list (front ++ rest.map ref)))
    (hholds : HoldsItems w.store rest) (hkeyed : ∀ x ∈ rest, x.tree.Keyed)
    (hin : Inside root stack id (idsItems rest) w) :
    ∃ calls w', items (Plan.visitor plan) allowance id index content w =
        .ok (content ++ textItems (withoutItems (takenBy calls) rest)) w' ∧
      PartsAfter plan root id (idsItems rest)
        (fun gone => keysItems (withoutItems gone rest)) w calls w' := by
  -- The induction is on how many items are to come: a visit may take some of them away.
  induction hlen : rest.length using Nat.strongRecOn
    generalizing rest allowance w front index content with
  | ind n ih =>
      subst hindex
      obtain ⟨allowance, rfl⟩ := Nat.exists_eq_add_one.mpr (Nat.zero_lt_of_lt hfuel)
      cases rest with
      | nil =>
          refine ⟨[], w, ?_, .refl _ _ _ _, rfl, by simp, rfl⟩
          rw [items_end hcell (by simp)]
          simp [withoutItems, textItems]
      | cons x tail =>
          simp only [List.length_cons, extentItems] at hfuel hlen
          have hx : x.extent < allowance := by omega
          obtain ⟨calls, dropped, w₁, hvalue, hafter⟩ := hwalked x List.mem_cons_self hx
            (hin.before_item hcell hholds.1 (hkeyed x List.mem_cons_self)) (by simp)
          -- `new` stands where `x` was, and the items of `gone` are missing behind it.
          obtain ⟨new, refs, -, hbehind, hcell₁, hsteps, -⟩ := hafter.place
          obtain ⟨gone, back, rfl, rfl, rfl⟩ := List.map_eq_append_iff.mp hbehind
          rw [extentItems_append, List.length_append] at hfuel
          rw [List.length_append] at hlen
          -- The walk goes on behind what the visits left in the place of `x`.
          let w₂ : Scene σ := { w₁ with cursor := { w₁.cursor with steps := w.cursor.steps } }
          have hnext : nextIndex w₁ = .ok ((front ++ new).length : Int) w₂ := by
            rw [nextIndex_apply hsteps, List.length_append]
            congr 1
            omega
          have htrace : Trace plan root (id :: idsItems (x :: (gone ++ back))) w calls w₂ := by
            refine (hafter.trace.mono ?_).moved rfl rfl rfl rfl (fun h => h) (fun h => h)
            simp [Place.holder, idsItems]
          have hsub : idsItems back ⊆ idsItems (x :: (gone ++ back)) := by
            simp [idsItems, idsItems_append]
          obtain ⟨hid, hn⟩ := List.nodup_cons.mp hin.unshared
          obtain ⟨-, htail, hd⟩ := List.nodup_append.mp hn
          have hback : (idsItems back).Nodup := by
            rw [idsItems_append] at htail
            exact (List.nodup_append.mp htail).2.1
          have hin₂ : Inside root stack id (idsItems back) w₂ := hin.trans htrace rfl hsub hback
          have hcell₂ : w₂.store.cell? id = some (.list (front ++ new ++ back.map ref)) := hcell₁
          -- Only the list itself and what is inside `x` has been written to.
          have hholds₂ : HoldsItems w₂.store back := by
            refine (holdsItems_append.mp hholds.2).2.keep hafter.trace.keeps ?_
            intro i hi h
            rcases List.mem_cons.mp h with rfl | h
            · exact hid (hsub hi)
            · exact hd i h i (by simp [idsItems_append, hi]) rfl
          have hfuel₂ : back.length + extentItems back < allowance := by omega
          obtain ⟨later, w₃, hitems, hparts⟩ := ih back.length (by omega)
            (content ++ (x.without (takenBy calls)).text) rfl (fun y hy => hwalked y (by simp [hy]))
            hfuel₂ hcell₂ hholds₂ (fun y hy => hkeyed y (by simp [hy])) hin₂ rfl
          obtain ⟨htext, -⟩ := left_of_cons hn hafter.taken hafter.dropped hparts.taken
          refine ⟨calls ++ later, w₃, ?_, hafter.items hn htrace rfl hparts⟩
          rw [items_step (r := x.ref) hcell (by simp), bind_ok hvalue, bind_ok hnext, hitems,
            takenBy_append, htext, String.append_assoc]

/-- **A field** is walked if it holds an object; the walk goes on with the next key
however the visits have changed the field. -/
theorem field_edited {key : String} {x : Layout} {tail : List (String × Layout)}
    {allowance : Nat} {w : Scene σ} {now : List (String × Ref)} (keys : List String)
    (content : String) (hwalked : x.Walked plan root) (hfuel : x.extent < allowance)
    (hcell : w.store.cell? id = some (.record now)) (hnow : fieldOf? now key = some x.ref)
    (hholds : x.Holds w.store) (hkeyed : x.tree.Keyed)
    (hin : Inside root stack id (idsFields ((key, x) :: tail)) w) :
    ∃ calls now₁ w₁, fields (Plan.visitor plan) (allowance + 1) id (key :: keys) content w =
        fields (Plan.visitor plan) allowance id keys
          (content ++ textFields [(key, x.without (takenBy calls))]) w₁ ∧
      w₁.store.cell? id = some (.record now₁) ∧
      (∀ other, other ≠ key → fieldOf? now₁ other = fieldOf? now other) ∧
      (∀ other value, fieldOf? now other = some (.scalar value) →
        fieldOf? now₁ other = some (.scalar value)) ∧
      PartsAfter plan root id x.ids (fun gone => keysFields [(key, x.without gone)]) w calls
        w₁ := by
  have hfield : w.store.field? (.object id) key = some x.ref := by
    simpa [Store.field?, Store.fields?, hcell] using hnow
  rcases Walk.field_cases hfield with ⟨hskip, hnone⟩ | ⟨htype, child, href, hsome⟩
  -- A type or a scalar is passed over, and adds no text.
  · have hleft : textFields [(key, x.without [])] = "" ∧ keysFields [(key, x.without [])] = [] := by
      rcases hskip with rfl | ⟨value, rfl⟩
      · simp [textFields]
      · simp [textFields, without, text]
    refine ⟨[], now, w, ?_, hcell, fun _ _ => rfl, fun _ _ h => h, .refl _ _ _ _, rfl, by simp,
      hleft.2.symm⟩
    rw [fields_skip hnone, takenBy_nil, hleft.1, String.append_empty]
  · obtain ⟨calls, dropped, w₁, hvalue, hafter⟩ := hwalked hfuel
      (hin.before_field hcell hnow hholds hkeyed) (by simp)
    obtain ⟨now₁, -, rfl, hcell₁, hsteps, hother, -⟩ := hafter.place
    refine ⟨calls, now₁, { w₁ with cursor := { w₁.cursor with steps := w.cursor.steps } }, ?_,
      hcell₁, hother, ?_, ?_, rfl, ?_, ?_⟩
    · rw [fields_step htype hsome, ← href, bind_ok hvalue, bind_ok (stepUp_apply hsteps)]
      simp [textFields, htype]
    · intro other value hscalar
      -- The field that was walked holds an object, so it is another one.
      have hne : other ≠ key := by
        rintro rfl
        simp [hnow, href] at hscalar
      rwa [hother other hne]
    · exact hafter.trace.moved rfl rfl rfl rfl (fun h => h) (fun h => h)
    · intro i hi
      rcases hafter.taken i hi with h | h
      · exact h.1
      · simp at h
    · rw [hafter.keys]
      simp [htype]

/-- **Fields.** Whatever the visits have done to the fields before, the rest of a
record is walked. -/
theorem fields_edited {rest : List (String × Layout)} {allowance : Nat} {w : Scene σ}
    {now : List (String × Ref)} (content : String) (hwalked : ∀ f ∈ rest, f.2.Walked plan root)
    (hfuel : rest.length + extentFields rest < allowance)
    (hcell : w.store.cell? id = some (.record now))
    (hnow : ∀ f ∈ rest, fieldOf? now f.1 = some f.2.ref) (hdiff : (rest.map (·.1)).Nodup)
    (hholds : HoldsFields w.store rest) (hkeyed : ∀ f ∈ rest, f.2.tree.Keyed)
    (hin : Inside root stack id (idsFields rest) w) :
    ∃ calls w', fields (Plan.visitor plan) allowance id (rest.map (·.1)) content w =
        .ok (content ++ textFields (withoutFields (takenBy calls) rest)) w' ∧
      (∀ key value, fieldOf? now key = some (.scalar value) →
        w'.store.field? (.object id) key = some (.scalar value)) ∧
      PartsAfter plan root id (idsFields rest)
        (fun gone => keysFields (withoutFields gone rest)) w calls w' := by
  induction rest generalizing allowance w now content with
  | nil =>
      refine ⟨[], w, ?_, fun key value hscalar => ?_, .refl _ _ _ _, rfl, by simp, rfl⟩
      · simp [withoutFields, textFields]
      · rwa [Store.field?_record hcell]
  | cons f tail ih =>
      obtain ⟨key, x⟩ := f
      obtain ⟨allowance, rfl, hx, hfuel₁⟩ := allowance_field hfuel
      obtain ⟨calls, now₁, w₁, hrun, hcell₁, hother, hown₁, hparts⟩ := field_edited (tail.map (·.1))
        content (hwalked _ List.mem_cons_self) hx hcell (hnow _ List.mem_cons_self) hholds.1
        (hkeyed _ List.mem_cons_self) hin
      have hsub : idsFields tail ⊆ idsFields ((key, x) :: tail) := by simp [idsFields]
      have htrace : Trace plan root (id :: idsFields ((key, x) :: tail)) w calls w₁ :=
        hparts.trace.mono (List.cons_subset_cons id (by simp [idsFields]))
      obtain ⟨hid, hn⟩ := List.nodup_cons.mp hin.unshared
      obtain ⟨-, htail, hd⟩ := List.nodup_append.mp hn
      obtain ⟨hkey, hdiff₁⟩ := List.nodup_cons.mp hdiff
      -- Visits inside one field leave the other fields as they were.
      have hnow₁ : ∀ f ∈ tail, fieldOf? now₁ f.1 = some f.2.ref := by
        intro f hf
        have hne : f.1 ≠ key := fun h => hkey (List.mem_map.mpr ⟨f, hf, h⟩)
        rw [hother f.1 hne]
        exact hnow f (List.mem_cons_of_mem _ hf)
      have hholds₁ : HoldsFields w₁.store tail := hholds.2.keep hparts.trace.keeps fun i hi h => by
        rcases List.mem_cons.mp h with rfl | h
        · exact hid (hsub hi)
        · exact hd i h i hi rfl
      obtain ⟨later, w₂, hfields, hown₂, hrest⟩ := ih
        (content ++ textFields [(key, x.without (takenBy calls))])
        (fun f hf => hwalked f (List.mem_cons_of_mem _ hf)) hfuel₁ hcell₁ hnow₁ hdiff₁ hholds₁
        (fun f hf => hkeyed f (List.mem_cons_of_mem _ hf))
        (hin.trans htrace hparts.steps hsub htail)
      have hleft := left_of_field key hn hparts.taken hrest.taken
      refine ⟨calls ++ later, w₂, ?_, ?_, ?_, hrest.steps.trans hparts.steps, ?_, ?_⟩
      · rw [List.map_cons, hrun, hfields, takenBy_append, hleft]
        simp [textFields, String.append_assoc]
      · exact fun other value hscalar => hown₂ other value (hown₁ other value hscalar)
      · exact htrace.trans (hrest.trace.mono (List.cons_subset_cons id hsub))
      · intro i hi
        rw [takenBy_append] at hi
        rcases List.mem_append.mp hi with hi | hi
        · exact List.mem_append_left _ (hparts.taken i hi)
        · exact hsub (hrest.taken i hi)
      · rw [List.map_append, hparts.keys, hrest.keys, takenBy_append, hleft]
        simp

/-- Entering an object, with the parts that it has. -/
theorem Before.inside {x : Layout} {p : Place} {rest : List Nat} (h : Before root x p w)
    (hx : x.ids = id :: rest) (hr : x.ref = .object id) (node : Bool) :
    Inside root w.cursor.containers id rest { w with cursor := w.cursor.inside id node } where
  containers := rfl
  way := hr ▸ h.way
  outside i hi := hx ▸ h.outside i hi
  unshared := hx ▸ h.lays.unshared

/-- The object that holds the place of a layout is not in the layout. -/
theorem Before.holder {x : Layout} {p : Place} (h : Before root x p w) :
    ∀ i ∈ p.holder, i ∉ x.ids := by
  intro i hi
  have mem_of_top : ∀ {stack : Stack Nat}, stack.top? = some i → i ∈ stack.toList := by
    intro stack htop
    simpa [Stack.toList] using List.mem_of_mem_head? htop
  have hplace := h.place
  cases p with
  | root => simp [Place.holder] at hi
  | item j before behind outer =>
      obtain ⟨new, rest, htop, -⟩ := hplace
      obtain rfl := List.mem_singleton.mp hi
      exact h.outside i (mem_of_top htop)
  | field j fields key outer =>
      obtain ⟨now, htop, -⟩ := hplace
      obtain rfl := List.mem_singleton.mp hi
      exact h.outside i (mem_of_top htop)

/-- While a layout is walked, its place stays. -/
theorem Before.stays {x : Layout} {p : Place} {v : Scene σ} (h : Before root x p w)
    (ht : Trace plan root x.ids w calls v) (hs : v.cursor.steps = w.cursor.steps) :
    p.Now true [] v.store v.cursor :=
  (h.place.keep ht.keeps h.holder).congr ht.containers hs

/-- What is inside a layout is not the layout itself. -/
theorem Before.inner {x : Layout} {p : Place} (h : Before root x p w) (hx : x.ids = id :: ids)
    (hid : x.id? = some id) : ∀ i ∈ ids, i ∈ x.ids ∧ x.id? ≠ some i := by
  refine fun i hi => ⟨hx ▸ List.mem_cons_of_mem _ hi, fun hi' => ?_⟩
  have hn : (id :: ids).Nodup := hx ▸ h.lays.unshared
  obtain rfl : id = i := Option.some.inj (hid.symm.trans hi')
  exact (List.nodup_cons.mp hn).1 hi

/-- If no visit follows, a layout is done with when its parts are. -/
theorem Before.after {x : Layout} {p : Place} {v : Scene σ} (h : Before root x p w)
    (hx : x.ids = id :: ids) (ht : Trace plan root x.ids w calls v)
    (hs : v.cursor.steps = w.cursor.steps) (htaken : ∀ i ∈ takenBy calls, i ∈ ids)
    (hkeys : calls.map Call.key = (x.without (takenBy calls)).keys) (hid : x.id? = some id) :
    After plan root x p w calls [] v where
  trace := ht.mono (by simp)
  place := (h.stays ht hs).weaken
  taken i hi := .inl (h.inner hx hid i (htaken i hi))
  dropped := by simp
  keys := hkeys

theorem visitor_apply {node : Nat} {content : String} {v w' : Scene σ} {taken : List Ref}
    (h : (plan node content v.data).run v = .ok taken w') :
    Plan.visitor plan node content v = .ok () w' := by
  show ((plan node content v.data).run >>= fun _ => pure ()) v = _
  rw [bind_ok h]
  rfl

/-- **A visit** at the end of a node. -/
theorem Before.visit {fields : List (String × Layout)} {p : Place} {v : Scene σ}
    (h : Before root (.record id fields) p w)
    (ht : Trace plan root (Layout.record id fields).ids w calls v)
    (hs : v.cursor.steps = w.cursor.steps) (hv : v.cursor.current = .object id)
    (htaken : ∀ i ∈ takenBy calls, i ∈ idsFields fields)
    (hkeys : calls.map Call.key = keysFields (withoutFields (takenBy calls) fields))
    (hnode : (Layout.record id fields).isNode)
    (hscalars : ∀ key value, w.store.field? (.object id) key = some (.scalar value) →
      v.store.field? (.object id) key = some (.scalar value))
    (hroot : p = .root → ∀ calls node content v,
      Back plan root (.record id fields) w calls node content v →
        (plan node content v.data).InPlace v.store v.cursor)
    (hforeign : ∀ content (v : Scene σ),
      (plan id content v.data).Foreign [.object id] v.store v.cursor) :
    ∃ calls₁ dropped w', Plan.visitor plan id
        ((Layout.record id fields).without (takenBy calls)).text v = .ok () w' ∧
      (Layout.record id fields).without (takenBy calls₁) =
        (Layout.record id fields).without (takenBy calls) ∧
      After plan root (.record id fields) p w calls₁ dropped w' := by
  let text := ((Layout.record id fields).without (takenBy calls)).text
  have hplace := h.stays ht hs
  have hback : Back plan root (.record id fields) w calls id text v := by
    refine ⟨rfl, ht.run, ht.placed, ?_, ?_, hscalars⟩
    · rw [hkeys, without, keys_record, isNode_without, if_pos hnode]
      rfl
    · show Cursor.mk v.cursor.current v.cursor.containers v.cursor.steps v.cursor.ancestors = _
      rw [hv, hs, ht.containers, ht.ancestors]
  have hown : ∀ r ∈ [Ref.object id], ∀ i ∈ p.holder, r ≠ .object i := by
    intro r hr i hi heq
    obtain rfl := Ref.object.inj ((List.mem_singleton.mp hr).symm.trans heq)
    exact h.holder id hi (List.mem_cons_self)
  obtain ⟨taken, more, w', hrun, hobjects, hnow, hkeeps, hcontainers, hancestors⟩ :=
    (plan id text v.data).run_spec h.beside hplace (fun hp => hroot hp calls id text v hback)
      (fun _ => hforeign text v) hown
  rw [List.nil_append] at hnow
  let call : Call σ := ⟨id, text, v, taken, w'⟩
  have htakenBy : takenBy (calls ++ [call]) = takenBy calls ++ objects more := by
    simp [takenBy, call, hobjects]
  -- What stood behind is not in the record, so for the record nothing more is gone.
  have houter : ∀ i ∈ objects more, i ∉ (Layout.record id fields).ids := fun i hi =>
    h.behind i (hnow.dropped_subset hi)
  have hsame : (Layout.record id fields).without (takenBy (calls ++ [call])) =
      (Layout.record id fields).without (takenBy calls) := by
    rw [htakenBy]
    refine without_congr ?_
    intro i hi
    have hmi : i ∉ objects more := fun hm => houter i hm hi
    simp [hmi]
  refine ⟨calls ++ [call], more, w', ?_, hsame, ?_⟩
  · exact visitor_apply hrun
  · have hcall : Trace plan root (p.holder ++ (Layout.record id fields).ids) v [call] w' := by
      refine ⟨.cons call hrun (.nil _ _), hkeeps.mono (by simp), ?_, hcontainers, hancestors⟩
      intro c hc
      obtain rfl := List.mem_singleton.mp hc
      refine ⟨hv, ?_⟩
      -- The way to the node is outside of what its parts have changed.
      have hway := h.way.keep ht.keeps h.outside
      rwa [← ht.containers, ← hs, ref, ← hv] at hway
    refine ⟨(ht.mono (by simp)).trans hcall, hnow, ?_, fun i hi => ?_, ?_⟩
    · intro i hi
      rw [htakenBy] at hi
      rcases List.mem_append.mp hi with hi | hi
      · exact .inl (h.inner rfl rfl i (htaken i hi))
      · exact .inr hi
    · rw [htakenBy]
      exact List.mem_append_right _ hi
    · rw [List.map_append, hkeys, hsame, without, keys_record, isNode_without, if_pos hnode]
      rfl

/-- A list is walked by its items. -/
theorem list_edited {items : List Layout} (hwalked : ∀ x ∈ items, x.Walked plan root) :
    (Layout.list id items).Walked plan root := by
  intro allowance w p hfuel hb _
  obtain ⟨allowance, rfl, hfuel₁⟩ := allowance_list hfuel
  have hcell : w.store.cell? id = some (.list ([] ++ items.map ref)) := hb.lays.holds.1
  have hin : Inside root w.cursor.containers id (idsItems items)
      { w with cursor := w.cursor.inside id false } := hb.inside rfl rfl false
  have hzero : (0 : Int) = ([] : List Ref).length := rfl
  obtain ⟨calls, w₁, hitems, hparts⟩ := items_edited "" hzero hwalked hfuel₁
    (w := { w with cursor := w.cursor.inside id false }) hcell hb.lays.holds.2
    (keyedItems_iff.mp hb.lays.keyed) hin
  let w₂ : Scene σ :=
    { w₁ with cursor := { w₁.cursor with containers := w.cursor.containers } }
  have htrace : Trace plan root (id :: idsItems items) w calls w₂ :=
    hparts.trace.moved rfl rfl rfl rfl (fun _ => rfl) (fun h => h)
  refine ⟨calls, [], w₂, ?_, hb.after rfl htrace hparts.steps hparts.taken ?_ rfl⟩
  · rw [ref, value_list hb.lays.holds.1, bind_ok hitems,
      bind_ok (leave_apply hparts.trace.containers)]
    exact congrArg (EStateM.Result.ok · w₂) String.empty_append
  · rw [hparts.keys, without, keys_list]

section

variable {fields : List (String × Layout)}

/-- The fields of a record that the walk has gone into. -/
theorem inside_edited {allowance : Nat} {p : Place} (hwalked : ∀ f ∈ fields, f.2.Walked plan root)
    (hfuel : fields.length + extentFields fields < allowance)
    (hb : Before root (.record id fields) p w) (node : Bool) (content : String) :
    ∃ calls w', Walk.fields (Plan.visitor plan) allowance id (fields.map (·.1)) content
          { w with cursor := w.cursor.inside id node } =
        .ok (content ++ textFields (withoutFields (takenBy calls) fields)) w' ∧
      (∀ key value, w.store.field? (.object id) key = some (.scalar value) →
        w'.store.field? (.object id) key = some (.scalar value)) ∧
      PartsAfter plan root id (idsFields fields)
        (fun gone => keysFields (withoutFields gone fields))
        { w with cursor := w.cursor.inside id node } calls w' := by
  have hdiff : (fields.map (·.1)).Nodup := keys_treeFields fields ▸ hb.lays.keyed.1
  obtain ⟨calls, w₁, hfields, hscalars, hparts⟩ := fields_edited content hwalked hfuel
    (w := { w with cursor := w.cursor.inside id node }) hb.lays.holds.1
    (fieldOf?_refs_of_keyed hb.lays.keyed) hdiff hb.lays.holds.2
    (keyedFields_iff.mp hb.lays.keyed.2) (hb.inside rfl rfl node)
  refine ⟨calls, w₁, hfields, ?_, hparts⟩
  intro key value hscalar
  rw [Store.field?_record hb.lays.holds.1] at hscalar
  exact hscalars key value hscalar

/-- A record that is no node is walked by its fields. -/
theorem record_edited (hwalked : ∀ f ∈ fields, f.2.Walked plan root)
    (hnode : (Layout.record id fields).isNode = false) :
    (Layout.record id fields).Walked plan root := by
  intro allowance w p hfuel hb _
  obtain ⟨allowance, rfl, hfuel₁⟩ := allowance_record hfuel
  have hn := (isNode_of_holds hb.lays.holds).trans hnode
  obtain ⟨calls, w₁, hfields, -, hparts⟩ := inside_edited hwalked hfuel₁ hb false ""
  let w₂ : Scene σ :=
    { w₁ with cursor := { w₁.cursor with containers := w.cursor.containers } }
  have htrace : Trace plan root (id :: idsFields fields) w calls w₂ :=
    hparts.trace.moved rfl rfl rfl rfl (fun _ => rfl) (fun h => h)
  refine ⟨calls, [], w₂, ?_, hb.after rfl htrace hparts.steps hparts.taken ?_ rfl⟩
  · rw [ref, value_record hb.lays.holds.1 hn, keys_fieldRefs, bind_ok hfields,
      bind_ok (leave_apply hparts.trace.containers), without, text, ownText_without,
      ownText_of_not_node hnode]
    rfl
  · rw [hparts.keys, without, keys_record, isNode_without, hnode]
    simp

/-- A node is walked by its fields. Then the cursor is back at it for the visit. -/
theorem node_edited (hwalked : ∀ f ∈ fields, f.2.Walked plan root)
    (hforeign : ∀ content (v : Scene σ),
      (plan id content v.data).Foreign [.object id] v.store v.cursor)
    (hnode : (Layout.record id fields).isNode = true) :
    (Layout.record id fields).Walked plan root := by
  intro allowance w p hfuel hb hroot
  obtain ⟨allowance, rfl, hfuel₁⟩ := allowance_record hfuel
  have hn := (isNode_of_holds hb.lays.holds).trans hnode
  have hstart : (w.store.leafText? (.object id)).getD "" = ownText fields :=
    congrArg (Option.getD · "") (leafText?_of_holds hb.lays.holds)
  obtain ⟨calls, w₁, hfields, hscalars, hparts⟩ :=
    inside_edited hwalked hfuel₁ hb true (ownText fields)
  let w₂ : Scene σ :=
    { w₁ with cursor := { w₁.cursor with
        containers := w.cursor.containers, ancestors := w.cursor.ancestors
        current := .object id } }
  have htrace : Trace plan root (id :: idsFields fields) w calls w₂ :=
    hparts.trace.moved rfl rfl rfl rfl (fun _ => rfl) (fun _ => rfl)
  obtain ⟨all, dropped, w₃, hvisit, hsame, hafter⟩ := hb.visit htrace hparts.steps rfl
    hparts.taken hparts.keys hnode hscalars hroot hforeign
  refine ⟨all, dropped, w₃, ?_, hafter⟩
  -- The visit is told the text of what is left by now.
  have htext : (Layout.record id (withoutFields (takenBy calls) fields)).text =
      ownText fields ++ textFields (withoutFields (takenBy calls) fields) := by
    rw [text, ownText_without]
  rw [without, htext] at hvisit
  rw [hsame, without, htext, ref, value_node hb.lays.holds.1 hn, keys_fieldRefs, hstart,
    bind_ok hfields, bind_ok (leaveNode_apply hparts.trace.containers hparts.trace.ancestors),
    bind_ok hvisit]
  rfl

end

/-- **The walk of a layout.** Wherever it stands, the walk ends well. -/
theorem value_edited (plan : Nat → String → σ → Plan σ true) (root : Ref) (x : Layout)
    (hforeign : ∀ node content (v : Scene σ),
      (plan node content v.data).Foreign [.object node] v.store v.cursor) :
    x.Walked plan root := by
  induction x using Layout.induct with
  | scalar value =>
      intro allowance w p hfuel hb hroot
      refine ⟨[], [], w, value_scalar _ _ _, .refl _ _ _ _, hb.place.weaken, by simp, by simp, rfl⟩
  | list id items ih => exact list_edited ih
  | record id fields ih =>
      intro allowance w p
      cases hnode : (Layout.record id fields).isNode with
      | false => exact record_edited ih hnode
      | true => exact node_edited ih (hforeign id) hnode

/-- **A walk whose visits edit the document.** If the visits follow a plan, the visit of the
root does not replace it, and none puts the list that holds its node into itself, the walk
ends well. For the latter it is enough that a value is replaced by what the visit has made or
taken out, by the node itself, by a scalar, or by nothing. The walk calls the visitor for the
nodes of what is left of the document when all that was taken out is left away, in their
order, each with its content there; so it comes to no node twice. Each call finds the cursor
at its node, and the containers and steps are the way to it in the document as edited so
far. -/
theorem walk_edited (plan : Nat → String → σ → Plan σ true) {s : Store} {x : Layout} (data : σ)
    (hlays : s.Lays x)
    (hroot : ∀ calls id content v, Back plan x.ref x ⟨s, .fresh, data⟩ calls id content v →
      (plan id content v.data).InPlace v.store v.cursor)
    (hforeign : ∀ node content (v : Scene σ),
      (plan node content v.data).Foreign [.object node] v.store v.cursor) :
    ∃ calls content w, walk (Plan.visitor plan) s x.ref data = (.ok content, w) ∧
      Calls plan s data calls w.store w.data ∧
      calls.map Call.key = ((x.without (takenBy calls)).visits .fresh).map Visit.key ∧
      (calls.map Call.node).Nodup ∧
      (∀ call ∈ calls, call.before.cursor.current = .object call.node ∧
        call.before.cursor.Leads call.before.store x.ref ∧
        ∀ id, call.before.cursor.containers.top? = some id →
          ∃ step, call.before.cursor.steps.top? = some step ∧
            call.before.store.child? (.object id) step = some (.object call.node)) := by
  have hbefore : Before x.ref x .root (⟨s, .fresh, data⟩ : Scene σ) :=
    ⟨hlays, ⟨rfl, rfl⟩, .here _, by simp [Cursor.fresh], by simp [Place.behind],
      by simp [Place.holder]⟩
  obtain ⟨calls, dropped, w, hvalue, hafter⟩ := value_edited plan x.ref x hforeign
    (extent_lt_allowance hlays) hbefore fun _ => hroot
  refine ⟨calls, (x.without (takenBy calls)).text, w, ?_, hafter.trace.run, hafter.keys, ?_, ?_⟩
  · exact walk_ok ((document_apply _ _ _).trans hvalue)
  · have hnodup := (nodes_visits _ (hlays.unshared.sublist (ids_without (takenBy calls) x))).2
    rw [← hafter.keys, List.map_map] at hnodup
    exact hnodup
  · intro call hcall
    obtain ⟨hcurrent, hleads⟩ := hafter.trace.placed call hcall
    exact ⟨hcurrent, hleads, fun id hid => hcurrent ▸ hleads.top hid⟩

/-- At the first paragraph, take out the second and put both in the place of the first,
the second in front. -/
def swapParagraphs (node : Nat) (_ : String) (_ : Unit) : Plan Unit true :=
  if node = 2 then
    .takeNext fun next => .make (.list [next, .object node]) fun both =>
      .replace (.object both) (.done ())
  else .done ()

/-- The two paragraphs change places, and the second is not walked any more. -/
theorem walk_edited_swap :
    (twoParagraphsStore.Lays twoParagraphs ∧ ∀ calls id content v,
      Back swapParagraphs (.object 0) twoParagraphs ⟨twoParagraphsStore, .fresh, ()⟩
        calls id content v → (swapParagraphs id content v.data).InPlace v.store v.cursor) ∧
    (∀ node content (v : Scene Unit),
      (swapParagraphs node content v.data).Foreign [.object node] v.store v.cursor) ∧
    ∃ (calls : List (Call Unit)) (content : String) (w : Scene Unit),
      walk (Plan.visitor swapParagraphs) twoParagraphsStore (.object 0) () = (.ok content, w) ∧
        calls.map Call.key =
          ((twoParagraphs.without (takenBy calls)).visits .fresh).map Visit.key := by
  have hroot : ∀ calls id content v,
      Back swapParagraphs (.object 0) twoParagraphs ⟨twoParagraphsStore, .fresh, ()⟩
        calls id content v → (swapParagraphs id content v.data).InPlace v.store v.cursor := by
    intro calls id content v hback
    obtain rfl : 0 = id := Option.some.inj hback.node
    exact trivial
  have hforeign : ∀ node content (v : Scene Unit),
      (swapParagraphs node content v.data).Foreign [.object node] v.store v.cursor := by
    intro node content v
    unfold swapParagraphs
    split
    · exact fun ref t _ => .inl List.mem_cons_self
    · trivial
  obtain ⟨calls, content, w, hwalk, -, hkeys, -⟩ :=
    walk_edited swapParagraphs () lays_twoParagraphs hroot hforeign
  exact ⟨⟨lays_twoParagraphs, hroot⟩, hforeign, calls, content, w, hwalk, hkeys⟩

end DocLint
