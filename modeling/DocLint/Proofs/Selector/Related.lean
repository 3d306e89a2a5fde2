import DocLint.Proofs.Cursor.Spot
import DocLint.Proofs.Selector.Shape
import DocLint.Selector.Match

/-!
# DocLint.Proofs.Selector.Related

**What combinators relate**, and where the search looks for it. `Combinator.Relates`
says which spots stand to a spot as a combinator says, and `Combinator.Nearer` which of
two such spots is the nearer one.

The search goes through cursors. It needs to be known that these are the cursors of the
related spots, all of them, and sorted (`candidates_cursor`, `mem_spots`,
`spots_sorted`), and that it never leaves the nodes of the document (`Relates.spot_in`,
`Relates.isNode`). The last one is where lists that have both nodes and other values in
them are excluded (`Layout.Unmixed`).
-/

namespace DocLint

/-- The number of an item in its list. -/
def Spot.index (p : Spot) : Int :=
  match p.around with
  | (_, .index i) :: _ => i
  | _ => 0

namespace Combinator

/-- The spot `q` stands to the spot `p` as the combinator says. -/
def Relates : Combinator → Spot → Spot → Prop
  | ancestor, q, p =>
    q.here.isNode = true ∧ ∃ inner step, p.around = inner ++ (q.here, step) :: q.around
  | parent, q, p =>
    q.here.isNode = true ∧ ∃ inner step, p.around = inner ++ (q.here, step) :: q.around ∧
      ∀ f ∈ inner, f.1.isNode = false
  | previous, q, p => ∃ (id : Nat) (items : List Layout) (outer : List (Layout × Step)) (k : Nat),
    p.around = (.list id items, .index (k + 1 : Nat)) :: outer ∧
      q.around = (.list id items, .index k) :: outer ∧ items[k]? = some q.here
  | sibling, q, p => ∃ (id : Nat) (items : List Layout) (outer : List (Layout × Step)) (j k : Nat),
    j < k ∧ p.around = (.list id items, .index k) :: outer ∧
      q.around = (.list id items, .index j) :: outer ∧ items[j]? = some q.here
  | unknown _, _, _ => False

/-- Of two spots that are related to the same one, `q` is the nearer. -/
def Nearer : Combinator → Spot → Spot → Prop
  | ancestor, q, q' | parent, q, q' => q'.around.length < q.around.length
  | previous, q, q' | sibling, q, q' => q'.index < q.index
  | unknown _, _, _ => False

theorem Nearer.asymm {kind : Combinator} {q q' : Spot} (h : kind.Nearer q q') :
    ¬ kind.Nearer q' q := by
  cases kind <;> simp only [Nearer] at h ⊢ <;> omega

end Combinator

namespace Layout

mutual
/-- No list has both nodes and other values in it. -/
def Unmixed : Layout → Prop
  | .scalar _ => True
  | .list _ items =>
    ((∀ y ∈ items, y.isNode = true) ∨ ∀ y ∈ items, y.isNode = false) ∧ UnmixedItems items
  | .record _ fields => UnmixedFields fields

/-- `Unmixed` for each item of a list. -/
def UnmixedItems : List Layout → Prop
  | [] => True
  | x :: rest => x.Unmixed ∧ UnmixedItems rest

/-- `Unmixed` for each field of a record. -/
def UnmixedFields : List (String × Layout) → Prop
  | [] => True
  | (_, x) :: rest => x.Unmixed ∧ UnmixedFields rest
end

theorem unmixedItems_iff {items : List Layout} : UnmixedItems items ↔ ∀ x ∈ items, x.Unmixed := by
  induction items with
  | nil => simp [UnmixedItems]
  | cons x rest ih => simp [UnmixedItems, ih]

theorem unmixedFields_iff {fields : List (String × Layout)} :
    UnmixedFields fields ↔ ∀ f ∈ fields, f.2.Unmixed := by
  induction fields with
  | nil => simp [UnmixedFields]
  | cons f rest ih => simp [UnmixedFields, ih]

theorem Around.unmixed {x y : Layout} {around : List (Layout × Step)} (h : x.Around around y)
    (hx : x.Unmixed) : y.Unmixed := by
  refine h.of (P := Unmixed) (fun {z y step} hchild hz => ?_) hx
  cases step with
  | index i =>
      obtain ⟨id, items, k, rfl, -, hy⟩ := child?_index hchild
      exact unmixedItems_iff.mp hz.2 y (List.mem_of_getElem? hy)
  | key key =>
      obtain ⟨id, fields, rfl, hy⟩ := child?_key hchild
      exact unmixedFields_iff.mp hz _ (mem_of_fieldOf? hy)

end Layout

/-! ### The spots that a combinator relates to a spot -/

namespace Spot

/-- The items of a list before the item with number `k`, the nearest first. -/
def earlier (id : Nat) (items : List Layout) (outer : List (Layout × Step)) : Nat → List Spot
  | 0 => []
  | k + 1 => (items[k]?.map fun y => ⟨y, (.list id items, .index k) :: outer⟩).toList ++
    earlier id items outer k

/-- The items of its list before a spot, the nearest first. -/
def before (p : Spot) : List Spot :=
  match p.around with
  | (.list id items, .index i) :: outer => earlier id items outer i.toNat
  | _ => []

variable {id : Nat} {items : List Layout} {outer : List (Layout × Step)} {q : Spot}

theorem mem_earlier {k : Nat} : q ∈ earlier id items outer k ↔
    ∃ j, j < k ∧ q.around = (.list id items, .index j) :: outer ∧ items[j]? = some q.here := by
  induction k with
  | zero => simp [earlier]
  | succ k ih =>
      rw [earlier, List.mem_append, ih]
      constructor
      · rintro (h | ⟨j, hj, h⟩)
        · obtain ⟨y, hy, rfl⟩ := Option.map_eq_some_iff.mp (Option.mem_toList.mp h)
          exact ⟨k, Nat.lt_succ_self k, rfl, hy⟩
        · exact ⟨j, Nat.lt_succ_of_lt hj, h⟩
      · rintro ⟨j, hj, haround, hhere⟩
        rcases Nat.lt_succ_iff_lt_or_eq.mp hj with hj | rfl
        · exact .inr ⟨j, hj, haround, hhere⟩
        · refine .inl (Option.mem_toList.mpr (Option.map_eq_some_iff.mpr ⟨q.here, hhere, ?_⟩))
          rw [← haround]

/-- The first of them is the item right before. -/
theorem mem_take_earlier {k : Nat} (hk : k < items.length) :
    q ∈ (earlier id items outer k).take 1 ↔
      ∃ j, k = j + 1 ∧ q.around = (.list id items, .index j) :: outer ∧
        items[j]? = some q.here := by
  cases k with
  | zero => simp [earlier]
  | succ k =>
      obtain ⟨y, hget⟩ : ∃ y, items[k]? = some y :=
        ⟨_, List.getElem?_eq_getElem (Nat.lt_of_succ_lt hk)⟩
      have htake : (earlier id items outer (k + 1)).take 1 =
          [⟨y, (.list id items, .index k) :: outer⟩] := by
        rw [earlier, hget]
        rfl
      rw [htake, List.mem_singleton]
      constructor
      · rintro rfl
        exact ⟨k, rfl, rfl, hget⟩
      · rintro ⟨j, hj, haround, hhere⟩
        obtain rfl : k = j := Nat.succ.inj hj
        obtain ⟨here, around⟩ := q
        obtain rfl : _ = here := Option.some.inj (hget.symm.trans hhere)
        rw [← haround]

theorem before_item {p : Spot} {k : Nat} (h : p.around = (.list id items, .index k) :: outer) :
    p.before = earlier id items outer k := by
  rw [before, h]
  rfl

theorem length_earlier (k : Nat) : (earlier id items outer k).length ≤ k := by
  induction k with
  | zero => exact Nat.le_refl _
  | succ k ih =>
      rw [earlier, List.length_append]
      have : ((items[k]?.map fun y =>
          (⟨y, (.list id items, .index k) :: outer⟩ : Spot)).toList).length ≤ 1 := by
        cases items[k]? <;> simp
      omega

theorem earlier_sorted (id : Nat) (items : List Layout) (outer : List (Layout × Step)) :
    ∀ k, (earlier id items outer k).Pairwise fun q q' => q'.index < q.index
  | 0 => .nil
  | k + 1 => by
      rw [earlier, List.pairwise_append]
      refine ⟨?_, earlier_sorted id items outer k, ?_⟩
      · cases items[k]? <;> simp
      · intro q hq q' hq'
        obtain ⟨y, -, rfl⟩ := Option.map_eq_some_iff.mp (Option.mem_toList.mp hq)
        obtain ⟨j, hj, haround, -⟩ := mem_earlier.mp hq'
        simp only [index, haround]
        omega

end Spot

namespace Combinator

/-- The spots that a combinator relates to a spot, the nearest first. -/
def spots (p : Spot) : Combinator → List Spot
  | ancestor => Spot.nodes p.around
  | parent => (Spot.nodes p.around).take 1
  | previous => p.before.take 1
  | sibling => p.before
  | unknown _ => []

theorem spots_sorted (kind : Combinator) (p : Spot) : (kind.spots p).Pairwise kind.Nearer := by
  have hbefore : p.before.Pairwise fun q q' => q'.index < q.index := by
    unfold Spot.before
    split
    · exact Spot.earlier_sorted _ _ _ _
    · exact .nil
  cases kind with
  | ancestor => exact Spot.nodes_sorted p.around
  | parent => exact (Spot.nodes_sorted p.around).sublist (List.take_sublist _ _)
  | previous => exact hbefore.sublist (List.take_sublist _ _)
  | sibling => exact hbefore
  | unknown name => exact .nil

theorem mem_take_nodes {q : Spot} {around : List (Layout × Step)} :
    q ∈ (Spot.nodes around).take 1 ↔ q.here.isNode = true ∧ ∃ inner step,
      around = inner ++ (q.here, step) :: q.around ∧ ∀ f ∈ inner, f.1.isNode = false := by
  induction around with
  | nil => simp [Spot.nodes]
  | cons f outer ih =>
      obtain ⟨z, step⟩ := f
      rw [Spot.nodes]
      constructor
      · intro hq
        split at hq
        · next hz =>
            obtain rfl : q = ⟨z, outer⟩ := by simpa using hq
            exact ⟨hz, [], step, rfl, by simp⟩
        · next hz =>
            obtain ⟨hn, inner, step', rfl, hinner⟩ := ih.mp hq
            exact ⟨hn, (z, step) :: inner, step', rfl,
              List.forall_mem_cons.mpr ⟨Bool.eq_false_iff.mpr hz, hinner⟩⟩
      · rintro ⟨hn, inner, step', h, hinner⟩
        cases inner with
        | nil =>
            obtain ⟨⟨rfl, rfl⟩, rfl⟩ : (z = q.here ∧ step = step') ∧ outer = q.around := by
              simpa using h
            rw [if_pos hn]
            exact List.mem_cons_self
        | cons g inner =>
            obtain ⟨rfl, rfl⟩ := List.cons.inj h
            obtain ⟨hz, hinner⟩ := List.forall_mem_cons.mp hinner
            rw [if_neg (by simpa using hz)]
            exact ih.mpr ⟨hn, inner, step', rfl, hinner⟩

/-- The spots are those that are related. -/
theorem mem_spots {x : Layout} {p q : Spot} (hp : p.In x) (kind : Combinator) :
    q ∈ kind.spots p ↔ kind.Relates q p := by
  cases kind with
  | ancestor => exact Spot.mem_nodes
  | parent => exact mem_take_nodes
  | previous =>
      rcases hp.cases with h | ⟨id, items, outer, k, h, hk⟩ | ⟨id, fields, outer, key, h⟩
      · simp [spots, Relates, Spot.before, h]
      · rw [spots, Spot.before_item h, Spot.mem_take_earlier (List.getElem?_eq_some_iff.mp hk).1]
        constructor
        · rintro ⟨j, rfl, haround, hhere⟩
          exact ⟨id, items, outer, j, h, haround, hhere⟩
        · rintro ⟨id', items', outer', j, h', haround, hhere⟩
          obtain ⟨⟨⟨rfl, rfl⟩, hkj⟩, rfl⟩ : ((id = id' ∧ items = items') ∧ (k : Int) = j + 1) ∧
              outer = outer' := by simpa using h.symm.trans h'
          exact ⟨j, by omega, haround, hhere⟩
      · simp [spots, Relates, Spot.before, h]
  | sibling =>
      rcases hp.cases with h | ⟨id, items, outer, k, h, -⟩ | ⟨id, fields, outer, key, h⟩
      · simp [spots, Relates, Spot.before, h]
      · rw [spots, Spot.before_item h, Spot.mem_earlier]
        constructor
        · rintro ⟨j, hj, haround, hhere⟩
          exact ⟨id, items, outer, j, k, hj, h, haround, hhere⟩
        · rintro ⟨id', items', outer', j, k', hj, h', haround, hhere⟩
          obtain ⟨⟨⟨rfl, rfl⟩, hkk⟩, rfl⟩ : ((id = id' ∧ items = items') ∧ (k : Int) = k') ∧
              outer = outer' := by simpa using h.symm.trans h'
          exact ⟨j, by omega, haround, hhere⟩
      · simp [spots, Relates, Spot.before, h]
  | unknown name => simp [spots, Relates]

end Combinator

/-! ### The candidates of a search -/

namespace Spot

variable {s : Store} {x : Layout} {p : Spot}

/-- Going up from a spot leads to the nodes around it. -/
theorem upward_cursor (hx : x.ids.Nodup) (hp : p.In x) (count : Nat) :
    p.cursor.upward count = ((nodes p.around).take count).map fun q => .ok q.cursor := by
  induction count generalizing p with
  | zero => rfl
  | succ count ih =>
      have hsize : p.cursor.hasParent = decide (0 < (nodes p.around).length) := by
        rw [← length_ids_nodes]
        rfl
      rw [Cursor.upward]
      cases hq : nodes p.around with
      | nil => simp [hsize, hq]
      | cons q rest =>
          have hmem : q ∈ nodes p.around := hq ▸ List.mem_cons_self
          rw [if_pos (by simp [hsize, hq]), goToParent_cursor hx hp hq, nodes_tail hq]
          dsimp only
          rw [ih (in_of_mem_nodes hp hmem), List.take_succ_cons, List.map_cons]

/-- Where there are no items, none comes before. -/
theorem backward_nothing (h : p.cursor.hasPreviousSibling s = .ok false) (count : Nat) :
    p.cursor.backward s count = [] := by
  cases count with
  | zero => rfl
  | succ count => rw [Cursor.backward, h]

/-- Going back from a spot leads to the items before it. -/
theorem backward_cursor (hx : x.Holds s) (hp : p.In x) (count : Nat) :
    p.cursor.backward s count = (p.before.take count).map fun q => .ok q.cursor := by
  induction count generalizing p with
  | zero => rfl
  | succ count ih =>
      rcases hp.cases with h | ⟨id, items, outer, k, h, hk⟩ | ⟨id, fields, outer, key, h⟩
      · rw [backward_nothing (hasPreviousSibling_eq_false (.inl h)), before, h]
        rfl
      · obtain ⟨here, around⟩ := p
        subst h
        have hcell : s.cell? id = some (.list (items.map Layout.ref)) := (hp.2.holds hx).1
        -- A spot in a list: the cursor goes back while its index is positive.
        obtain ⟨hlt, -⟩ := List.getElem?_eq_some_iff.mp hk
        rw [Cursor.backward, hasPreviousSibling_cursor hcell (Nat.le_of_lt hlt), before_item rfl]
        cases k with
        | zero => rfl
        | succ j =>
            obtain ⟨y, hj, hq⟩ := in_of_lt hp.2 (Nat.lt_of_succ_lt hlt)
            -- The item before is the first of the earlier ones, and a spot like this one.
            have hearlier : earlier id items outer (j + 1) =
                ⟨y, (.list id items, .index j) :: outer⟩ ::
                  earlier id items outer j := by
              rw [earlier, hj]
              rfl
            rw [decide_eq_true (Nat.succ_pos j), hearlier, List.take_succ_cons, List.map_cons]
            dsimp only
            rw [goToPrevious_cursor hcell hj]
            dsimp only
            rw [ih hq, before_item rfl]
      -- A field of a record has no items before it.
      · obtain ⟨here, around⟩ := p
        subst h
        have hcell := (hp.2.holds hx).1
        rw [backward_nothing (hasPreviousSibling_eq_false (.inr ⟨_, _, _, _, rfl, hcell⟩))]
        rfl

end Spot

namespace Combinator

variable {x : Layout} {p q : Spot} {kind : Combinator}

/-- What is related to a spot of a document is in the document, too. -/
theorem Relates.spot_in (h : kind.Relates q p) (hp : p.In x) : q.In x := by
  obtain ⟨here, around⟩ := p
  cases kind with
  | ancestor => exact Spot.in_of_mem_nodes hp (Spot.mem_nodes.mpr h)
  | parent =>
      obtain ⟨hn, inner, step, haround, -⟩ := h
      exact Spot.in_of_mem_nodes hp (Spot.mem_nodes.mpr ⟨hn, inner, step, haround⟩)
  | previous =>
      obtain ⟨id, items, outer, k, rfl, haround, hhere⟩ := h
      rw [Spot.In, haround]
      exact ⟨by simpa [Layout.child?] using hhere, hp.2⟩
  | sibling =>
      obtain ⟨id, items, outer, j, k, -, rfl, haround, hhere⟩ := h
      rw [Spot.In, haround]
      exact ⟨by simpa [Layout.child?] using hhere, hp.2⟩
  | unknown name => exact h.elim

/-- Of two spots that are related to the same one, one is nearer. -/
theorem Relates.eq_of_not_nearer {q' : Spot} (hp : p.In x) (h : kind.Relates q p)
    (h' : kind.Relates q' p) (hn : ¬ kind.Nearer q' q) (hn' : ¬ kind.Nearer q q') : q = q' := by
  obtain ⟨before, behind, hsplit⟩ :=
    List.append_of_mem ((mem_spots hp kind).mpr h)
  have hsorted := hsplit ▸ kind.spots_sorted p
  obtain ⟨-, hbehind, hbefore⟩ := List.pairwise_append.mp hsorted
  have hmem : q' ∈ before ++ q :: behind := hsplit ▸ (mem_spots hp kind).mpr h'
  -- `q'` is before `q` in the sorted list, or `q` itself, or behind it.
  rcases List.mem_append.mp hmem with hmem | hmem
  · exact absurd (hbefore q' hmem q List.mem_cons_self) hn
  · rcases List.mem_cons.mp hmem with rfl | hmem
    · rfl
    · exact absurd ((List.pairwise_cons.mp hbehind).1 q' hmem) hn'

/-- In a list with a node in it, all items are nodes. -/
theorem isNode_of_item {id : Nat} {items : List Layout} {outer : List (Layout × Step)}
    {k j : Nat} {y : Layout} (hx : x.Unmixed) (hp : p.In x) (hn : p.here.isNode = true)
    (h : p.around = (.list id items, .index k) :: outer) (hy : items[j]? = some y) :
    y.isNode = true := by
  obtain ⟨here, around⟩ := p
  subst h
  obtain ⟨hchild, houter⟩ := hp
  -- The list is all nodes, since it is not mixed and the spot is one of its items.
  have hmem : here ∈ items := List.mem_of_getElem? (by simpa [Layout.child?] using hchild)
  rcases (houter.unmixed hx).1 with hall | hnone
  · exact hall y (List.mem_of_getElem? hy)
  · exact absurd hn (by simp [hnone here hmem])

/-- What is related to a node is a node. -/
theorem Relates.isNode (h : kind.Relates q p) (hx : x.Unmixed) (hp : p.In x)
    (hn : p.here.isNode = true) : q.here.isNode = true := by
  cases kind with
  | ancestor => exact h.1
  | parent => exact h.1
  | previous =>
      obtain ⟨id, items, outer, k, haround, -, hhere⟩ := h
      exact isNode_of_item hx hp hn haround hhere
  | sibling =>
      obtain ⟨id, items, outer, j, k, -, haround, -, hhere⟩ := h
      exact isNode_of_item hx hp hn haround hhere
  | unknown name => exact h.elim

end Combinator

/-- **The candidates** are the cursors of the related spots, the nearest first. -/
theorem Combinator.candidates_cursor {s : Store} {x : Layout} {p : Spot} (hlays : s.Lays x)
    (hp : p.In x) {kind : Combinator} (hkind : kind.IsKnown) :
    kind.candidates s p.cursor = (kind.spots p).map fun q => .ok q.cursor := by
  cases kind with
  | ancestor =>
      have hdepth : p.cursor.depth = (Spot.nodes p.around).length := Spot.length_ids_nodes p.around
      rw [candidates, Spot.upward_cursor hlays.unshared hp, hdepth, List.take_length]
      rfl
  | parent => exact Spot.upward_cursor hlays.unshared hp 1
  | previous => exact Spot.backward_cursor hlays.holds hp 1
  | sibling =>
      -- The search may go back as often as there are items, so no candidate is cut off.
      have hlength : p.before.length ≤ p.cursor.itemsBefore := by
        rcases hp.cases with h | ⟨id, items, outer, k, h, -⟩ | ⟨id, fields, outer, key, h⟩
        · simp [Spot.before, h]
        · have hk : p.cursor.itemsBefore = k := by
            simp [Cursor.itemsBefore, Spot.cursor, h, Stack.top?]
          rw [Spot.before_item h, hk]
          exact Spot.length_earlier k
        · simp [Spot.before, h]
      rw [candidates, Spot.backward_cursor hlays.holds hp, List.take_of_length_le hlength]
      rfl
  | unknown name => exact absurd rfl (hkind name)

end DocLint
