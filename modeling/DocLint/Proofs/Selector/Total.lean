import DocLint.Proofs.Selector.Match

/-!
# DocLint.Proofs.Selector.Total

**Where matching fails.** A selector asks a value for its type without looking first what
it is, and not every value in a list has one (`Layout.Typed`). So a search that goes back
in a list fails at the first value without a type, unless it finds what it looks for
before (`find?_comb_ok_iff`).

The search for one selector may end in time, but there are selectors that look for a type
that nothing has. So all selectors can be matched at a node if and only if there is no
such value before it, nor before a node around it (`find?_ok_iff`).
-/

namespace DocLint

/-- The value can be asked for its type: it is null, or a record that has one. -/
def Layout.Typed : Layout → Prop
  | .scalar value => value = .null
  | .list _ _ => False
  | .record _ fields => (fieldOf? fields "type").isSome = true

theorem Layout.typed_of_isNode {y : Layout} (h : y.isNode = true) : y.Typed := by
  cases y with
  | scalar value => contradiction
  | list id items => contradiction
  | record id fields =>
      obtain ⟨type, htype⟩ := Option.isSome_iff_exists.mp h
      rw [Tree.nodeType?_eq_some, tree, Tree.field?, fieldOf?_treeFields] at htype
      obtain ⟨y, hy, -⟩ := Option.map_eq_some_iff.mp htype
      exact Option.isSome_iff_exists.mpr ⟨y, hy⟩

namespace Spot

/-- Everything before the spot in its list, and before a node around it, can be asked for
its type. -/
def Quiet (p : Spot) : Prop :=
  ∀ a, a = p ∨ Combinator.ancestor.Relates a p →
    ∀ q, Combinator.sibling.Relates q a → q.here.Typed

/-- Of what is before the spot in its list, all that is nearer than any node of the type
`name` can be asked for its type. -/
def Clear (name : String) (p : Spot) : Prop :=
  ∀ q, Combinator.sibling.Relates q p → ¬ q.here.Typed →
    ∃ q', Combinator.sibling.Relates q' p ∧ q'.here.tree.nodeType? = some name ∧
      Combinator.sibling.Nearer q' q

end Spot

/-! ### What is related to a quiet spot -/

namespace Combinator

variable {a p q : Spot}

theorem Relates.ancestor_trans (h : ancestor.Relates a q) (h' : ancestor.Relates q p) :
    ancestor.Relates a p := by
  obtain ⟨ha, inner, step, hq⟩ := h
  obtain ⟨-, inner', step', hp⟩ := h'
  exact ⟨ha, inner' ++ (q.here, step') :: inner, step, by rw [hp, hq]; simp⟩

/-- The nodes around an item are those around its neighbours. -/
theorem Relates.ancestor_of_sibling (h : ancestor.Relates a q) (h' : sibling.Relates q p) :
    ancestor.Relates a p := by
  obtain ⟨ha, inner, step, hq⟩ := h
  obtain ⟨id, items, outer, j, k, -, hp, hq', -⟩ := h'
  rw [hq'] at hq
  cases inner with
  | nil =>
      obtain ⟨hlist, -⟩ := List.cons.inj hq
      rw [← (Prod.mk.inj hlist).1] at ha
      contradiction
  | cons f inner =>
      obtain ⟨-, rfl⟩ := List.cons.inj hq
      exact ⟨ha, (.list id items, .index k) :: inner, step, by rw [hp]; rfl⟩

theorem Relates.sibling_trans (h : sibling.Relates a q) (h' : sibling.Relates q p) :
    sibling.Relates a p := by
  obtain ⟨id, items, outer, i, j, hij, hq, ha, hhere⟩ := h
  obtain ⟨id', items', outer', j', k, hjk, hp, hq', -⟩ := h'
  obtain ⟨⟨⟨rfl, rfl⟩, hj⟩, rfl⟩ : ((id = id' ∧ items = items') ∧ (j : Int) = j') ∧
      outer = outer' := by simpa using hq.symm.trans hq'
  exact ⟨id, items, outer, i, k, by omega, hp, ha, hhere⟩

/-- Around, or before in a list: the other relations are cases of these. -/
theorem Relates.ancestor_or_sibling {kind : Combinator} (h : kind.Relates q p) :
    ancestor.Relates q p ∨ sibling.Relates q p := by
  cases kind with
  | ancestor => exact .inl h
  | parent =>
      obtain ⟨hn, inner, step, haround, -⟩ := h
      exact .inl ⟨hn, inner, step, haround⟩
  | previous =>
      obtain ⟨id, items, outer, k, hp, hq, hhere⟩ := h
      exact .inr ⟨id, items, outer, k, k + 1, Nat.lt_succ_self k, hp, hq, hhere⟩
  | sibling => exact .inr h
  | unknown name => exact h.elim

/-- A search from a quiet spot stays among such spots. -/
theorem Relates.quiet {kind : Combinator} (h : kind.Relates q p) (hp : p.Quiet) :
    q.Quiet ∧ q.here.Typed := by
  rcases h.ancestor_or_sibling with h | h
  · refine ⟨fun a ha => hp a (.inr ?_), Layout.typed_of_isNode h.1⟩
    rcases ha with rfl | ha
    · exact h
    · exact ha.ancestor_trans h
  · refine ⟨fun a ha r hr => ?_, hp p (.inl rfl) q h⟩
    rcases ha with rfl | ha
    · exact hp p (.inl rfl) r (hr.sibling_trans h)
    · exact hp a (.inr (ha.ancestor_of_sibling h)) r hr

end Combinator

namespace Selector

variable {s : Store} {x : Layout} {p : Spot} {name : String} {found : Matched}

/-! ### One step of a search -/

/-- To ask for a type fails where there is none to ask for. -/
theorem find?_type (hlays : s.Lays x) (hp : p.In x) (name : String) :
    (p.here.Typed ∧ (type name).find? s p.cursor =
      .ok (if p.here.tree.nodeType? = some name then some [p.here.ref] else none)) ∨
    (¬ p.here.Typed ∧ ∃ fault, (type name).find? s p.cursor = .error fault) := by
  have hholds := Layout.Around.holds hp hlays.holds
  obtain ⟨here, around⟩ := p
  cases here with
  | scalar value =>
      cases value with
      | null => exact .inl ⟨rfl, rfl⟩
      | bool b => exact .inr ⟨by simp [Layout.Typed], _, rfl⟩
      | int i => exact .inr ⟨by simp [Layout.Typed], _, rfl⟩
      | float f => exact .inr ⟨by simp [Layout.Typed], _, rfl⟩
      | str text => exact .inr ⟨by simp [Layout.Typed], _, rfl⟩
  | list id items =>
      refine .inr ⟨fun h => h, .type (.listIndex .str), ?_⟩
      show (s.field (.object id) "type" >>= _) = _
      simp [Store.field, hholds.1, throw, throwThe, MonadExceptOf.throw, bind, Except.bind]
  | record id fields =>
      have hfind (result : Except Fault Ref) (h : s.field (.object id) "type" = result) :
          (type name).find? s (Spot.cursor ⟨.record id fields, around⟩) = (do
            return if (← result) = .scalar (.str name) then some [.object id] else none) := by
        subst h
        rfl
      rw [Store.field, hholds.1] at hfind
      dsimp only at hfind
      rw [Layout.fieldOf?_fieldRefs] at hfind
      cases hfield : fieldOf? fields "type" with
      | none =>
          rw [hfield] at hfind
          exact .inr ⟨by simp [Layout.Typed, hfield], _, hfind _ rfl⟩
      | some y =>
          rw [hfield] at hfind
          have htype : y.ref = .scalar (.str name) ↔
              (Layout.record id fields).tree.nodeType? = some name := by
            rw [Tree.nodeType?_eq_some, Layout.tree, Tree.field?, Layout.fieldOf?_treeFields,
              hfield]
            cases y <;> simp [Layout.ref, Layout.tree]
          refine .inl ⟨by simp [Layout.Typed, hfield], (hfind _ rfl).trans ?_⟩
          simp only [← htype]
          rfl

/-- A type that nothing has is never found. -/
theorem find?_unused (hlays : s.Lays x) (hp : p.In x)
    (hunused : p.here.tree.nodeType? ≠ some name) :
    (type name).find? s p.cursor ≠ .ok (some found) := by
  intro hfound
  obtain ⟨-, hfind⟩ | ⟨-, fault, hfind⟩ := find?_type hlays hp name
  · rw [if_neg hunused, hfound] at hfind
    simp at hfind
  · simp [hfind] at hfound

section

variable {find : Cursor → Except Fault (Option Matched)} {c : Cursor} {rest : Cursor.Candidates}

theorem firstMatch_error {fault : Fault} (h : find c = .error fault) :
    firstMatch find (.ok c :: rest) = .error fault := by
  simp [firstMatch, h, bind, Except.bind]

theorem firstMatch_found (h : find c = .ok (some found)) :
    firstMatch find (.ok c :: rest) = .ok (some found) := by
  simp [firstMatch, h, bind, Except.bind, pure, Except.pure]

theorem firstMatch_next (h : find c = .ok none) :
    firstMatch find (.ok c :: rest) = firstMatch find rest := by
  simp [firstMatch, h, bind, Except.bind]

/-- The search gets past a candidate only if it can be asked, and is not what is looked
for. -/
theorem firstMatch_ok_iff {qs : List Spot} :
    (∃ r, firstMatch find (qs.map fun q => .ok q.cursor) = .ok r) ↔
      ∀ front q behind, qs = front ++ q :: behind →
        (∃ r, find q.cursor = .ok r) ∨
          ∃ q' ∈ front, ∃ found, find q'.cursor = .ok (some found) := by
  induction qs with
  | nil => exact ⟨fun _ front q behind h => by simp at h, fun _ => ⟨none, rfl⟩⟩
  | cons q rest ih =>
      rw [List.map_cons]
      cases hq : find q.cursor with
      | error fault =>
          rw [firstMatch_error hq]
          refine iff_of_false (by simp) fun h => ?_
          obtain ⟨r, hr⟩ | ⟨q', hq', -⟩ := h [] q rest rfl
          · simp [hq] at hr
          · contradiction
      | ok r =>
          cases r with
          | some found =>
              refine iff_of_true ⟨some found, firstMatch_found hq⟩ fun front q' behind h => ?_
              cases front with
              | nil =>
                  obtain ⟨rfl, -⟩ := List.cons.inj h
                  exact .inl ⟨_, hq⟩
              | cons f front =>
                  obtain ⟨rfl, -⟩ := List.cons.inj h
                  exact .inr ⟨q, List.mem_cons_self, found, hq⟩
          | none =>
              rw [firstMatch_next hq, ih]
              constructor
              · intro h front q' behind hsplit
                cases front with
                | nil =>
                    obtain ⟨rfl, -⟩ := List.cons.inj hsplit
                    exact .inl ⟨_, hq⟩
                | cons f front =>
                    obtain ⟨rfl, hrest⟩ := List.cons.inj hsplit
                    obtain hok | ⟨q'', hmem, hfound⟩ := h front q' behind hrest
                    · exact .inl hok
                    · exact .inr ⟨q'', List.mem_cons_of_mem _ hmem, hfound⟩
              · intro h front q' behind hrest
                obtain hok | ⟨q'', hmem, found, hfound⟩ :=
                  h (q :: front) q' behind (congrArg (q :: ·) hrest)
                · exact .inl hok
                · rcases List.mem_cons.mp hmem with rfl | hmem
                  · simp [hq] at hfound
                  · exact .inr ⟨q'', hmem, found, hfound⟩

theorem firstMatch_some {qs : List Spot}
    (h : firstMatch find (qs.map fun q => .ok q.cursor) = .ok (some found)) :
    ∃ q ∈ qs, find q.cursor = .ok (some found) := by
  induction qs with
  | nil => simp [firstMatch, pure, Except.pure] at h
  | cons q rest ih =>
      rw [List.map_cons] at h
      cases hq : find q.cursor with
      | error fault => simp [firstMatch_error hq] at h
      | ok r =>
          cases r with
          | some outer =>
              rw [firstMatch_found hq] at h
              exact ⟨q, List.mem_cons_self, hq.trans h⟩
          | none =>
              rw [firstMatch_next hq] at h
              obtain ⟨q', hmem, hfound⟩ := ih h
              exact ⟨q', List.mem_cons_of_mem _ hmem, hfound⟩

end

/-- What has to hold for a combinator to be matched where its right side is. -/
theorem find?_comb_ok_iff (hlays : s.Lays x) (hp : p.In x) {kind : Combinator}
    (hkind : kind.IsKnown) {left right : Selector}
    (hright : right.find? s p.cursor = .ok (some found)) :
    (∃ r, (comb kind left right).find? s p.cursor = .ok r) ↔
      ∀ front q behind, kind.spots p = front ++ q :: behind →
        (∃ r, left.find? s q.cursor = .ok r) ∨
          ∃ q' ∈ front, ∃ outer, left.find? s q'.cursor = .ok (some outer) := by
  rw [← firstMatch_ok_iff, ← Combinator.candidates_cursor hlays hp hkind]
  constructor
  · rintro ⟨r, hr⟩
    rw [find?, hright] at hr
    cases hfirst : firstMatch (left.find? s) (kind.candidates s p.cursor) with
    | ok outer => exact ⟨outer, rfl⟩
    | error fault =>
        replace hr : (firstMatch (left.find? s) (kind.candidates s p.cursor) >>= _) = _ := hr
        rw [hfirst] at hr
        contradiction
  · rintro ⟨outer, hfirst⟩
    exact ⟨_, find?_comb hright hfirst⟩

/-- A combinator is matched from what its left side is matched at. -/
theorem find?_comb_some (hlays : s.Lays x) (hp : p.In x) {kind : Combinator}
    (hkind : kind.IsKnown) {left right : Selector}
    (h : (comb kind left right).find? s p.cursor = .ok (some found)) :
    ∃ q, kind.Relates q p ∧ ∃ outer, left.find? s q.cursor = .ok (some outer) := by
  rw [find?, Combinator.candidates_cursor hlays hp hkind] at h
  cases hright : right.find? s p.cursor with
  | error fault => simp [hright, bind, Except.bind] at h
  | ok r =>
      cases r with
      | none => simp [hright, bind, Except.bind, pure, Except.pure] at h
      | some inner =>
          cases hfirst : firstMatch (left.find? s) ((kind.spots p).map fun q => .ok q.cursor) with
          | error fault => simp [hright, hfirst, bind, Except.bind] at h
          | ok outer =>
              cases outer with
              | none => simp [hright, hfirst, bind, Except.bind, pure, Except.pure] at h
              | some outer =>
                  obtain ⟨q, hq, hfound⟩ := firstMatch_some hfirst
                  exact ⟨q, (Combinator.mem_spots hp kind).mp hq, outer, hfound⟩

/-! ### Selectors at a quiet spot -/

theorem find?_type_ok (hlays : s.Lays x) (hp : p.In x) (htyped : p.here.Typed) (name : String) :
    ∃ r, (type name).find? s p.cursor = .ok r := by
  obtain ⟨-, hfind⟩ | ⟨huntyped, -⟩ := find?_type hlays hp name
  · exact ⟨_, hfind⟩
  · exact absurd htyped huntyped

theorem find?_node_ok (hlays : s.Lays x) (hp : p.In x) (htyped : p.here.Typed) {sel : Selector}
    (hsel : sel.IsNode) : ∃ r, sel.find? s p.cursor = .ok r := by
  cases sel with
  | any => exact ⟨_, rfl⟩
  | type name => exact find?_type_ok hlays hp htyped name
  | comb _ _ _ | filtered _ _ | list _ | foreign _ => exact hsel.elim

theorem find?_chain_ok (hlays : s.Lays x) (hp : p.In x) (hquiet : p.Quiet)
    (htyped : p.here.Typed) {sel : Selector} (hsel : sel.IsChain) :
    ∃ r, sel.find? s p.cursor = .ok r := by
  induction hsel using IsChain.induction generalizing p with
  | node sel hsel => exact find?_node_ok hlays hp htyped hsel
  | comb kind left right hkind hleft hright ih =>
      obtain ⟨r, hr⟩ := find?_node_ok hlays hp htyped hright
      cases r with
      | none => exact ⟨none, by rw [find?, hr]; rfl⟩
      | some found =>
          refine (find?_comb_ok_iff hlays hp hkind hr).mpr fun front q behind hspots => .inl ?_
          have hrel : kind.Relates q p := (Combinator.mem_spots hp kind).mp (by simp [hspots])
          obtain ⟨hq, htyped⟩ := hrel.quiet hquiet
          exact ih (hrel.spot_in hp) hq htyped

theorem find?_tree_ok [CharacterNames] (hlays : s.Lays x) (hp : p.In x) (hquiet : p.Quiet)
    (htyped : p.here.Typed) {sel : Selector} (hsel : sel.IsTree) :
    ∃ r, sel.find? s p.cursor = .ok r := by
  rcases hsel.cases with hchain | ⟨inner, filter, rfl, hchain, -⟩
  · exact find?_chain_ok hlays hp hquiet htyped hchain
  · rw [find?]
    exact find?_chain_ok hlays hp hquiet htyped hchain

theorem findFirst?_ok {c : Cursor} {alternatives : List Selector}
    (h : ∀ sel ∈ alternatives, ∃ r, sel.find? s c = .ok r) :
    ∃ r, findFirst? s alternatives c = .ok r := by
  induction alternatives with
  | nil => exact ⟨none, rfl⟩
  | cons sel rest ih =>
      obtain ⟨⟨r, hr⟩, hrest⟩ := List.forall_mem_cons.mp h
      rw [findFirst?, hr]
      cases r with
      | none => exact ih hrest
      | some found => exact ⟨some found, rfl⟩

/-- At a quiet spot, every selector that can be written is matched without failing. -/
theorem find?_written_ok [CharacterNames] (hlays : s.Lays x) (hp : p.In x) (hquiet : p.Quiet)
    (htyped : p.here.Typed) {sel : Selector} (hsel : sel.Written) :
    ∃ r, sel.find? s p.cursor = .ok r := by
  rcases hsel.cases with htree | ⟨alternatives, rfl, -, htrees⟩
  · exact find?_tree_ok hlays hp hquiet htyped htree
  · rw [find?]
    exact findFirst?_ok fun sel hmem => find?_tree_ok hlays hp hquiet htyped (htrees sel hmem)

/-! ### The nearest of a type -/

/-- The search for the nearest node of a type before a spot does not fail if and only if
everything between can be asked for its type. -/
theorem find?_sibling_ok_iff (hlays : s.Lays x) (hp : p.In x) {right : Selector}
    (hright : right.find? s p.cursor = .ok (some found)) :
    (∃ r, (comb .sibling (.type name) right).find? s p.cursor = .ok r) ↔ p.Clear name := by
  rw [find?_comb_ok_iff hlays hp (by simp [Combinator.IsKnown]) hright]
  have hmem {q : Spot} := Combinator.mem_spots (q := q) hp .sibling
  have hsorted := Combinator.sibling.spots_sorted p
  constructor
  · intro h q hq huntyped
    obtain ⟨front, behind, hspots⟩ := List.append_of_mem (hmem.mpr hq)
    rw [hspots] at hsorted
    obtain ⟨r, hr⟩ | ⟨q', hfront, outer, hfound⟩ := h front q behind hspots
    · obtain ⟨htyped, -⟩ | ⟨-, fault, hfind⟩ := find?_type hlays (hq.spot_in hp) name
      · exact absurd htyped huntyped
      · simp [hfind] at hr
    · have hq' : Combinator.sibling.Relates q' p :=
        hmem.mp (hspots ▸ List.mem_append_left _ hfront)
      refine ⟨q', hq', ?_, (List.pairwise_append.mp hsorted).2.2 q' hfront q List.mem_cons_self⟩
      exact Classical.not_not.mp fun hother =>
        find?_unused hlays (hq'.spot_in hp) hother hfound
  · intro hclear front q behind hspots
    rw [hspots] at hsorted
    have hq : Combinator.sibling.Relates q p := hmem.mp (by simp [hspots])
    obtain ⟨-, hfind⟩ | ⟨huntyped, -⟩ := find?_type hlays (hq.spot_in hp) name
    · exact .inl ⟨_, hfind⟩
    · obtain ⟨q', hq', htype, hnearer⟩ := hclear q hq huntyped
      refine .inr ⟨q', ?_, [q'.here.ref], ?_⟩
      · -- What is nearer than `q` is in front of it, as the spots are sorted.
        rcases List.mem_append.mp (hspots ▸ hmem.mpr hq') with hfront | hbehind
        · exact hfront
        · rcases List.mem_cons.mp hbehind with rfl | hbehind
          · exact absurd hnearer hnearer.asymm
          · have hsorted' := (List.pairwise_append.mp hsorted).2.1
            exact absurd ((List.pairwise_cons.mp hsorted').1 q' hbehind) hnearer.asymm
      · obtain ⟨-, hfind⟩ | ⟨huntyped', -⟩ := find?_type hlays (hq'.spot_in hp) name
        · rw [hfind, if_pos htype]
        · exact absurd (Layout.typed_of_isNode (Layout.isNode_of_type htype)) huntyped'

/-! ### Selectors that look for nothing -/

/-- The search for a type that no candidate has goes through all of them. -/
theorem find?_comb_all (hlays : s.Lays x) (hp : p.In x) {kind : Combinator}
    (hkind : kind.IsKnown) {left right : Selector}
    (hright : right.find? s p.cursor = .ok (some found))
    (hnone : ∀ q, kind.Relates q p → ∀ outer, left.find? s q.cursor ≠ .ok (some outer)) {r}
    (h : (comb kind left right).find? s p.cursor = .ok r) :
    ∀ q, kind.Relates q p → ∃ r, left.find? s q.cursor = .ok r := by
  intro q hq
  obtain ⟨front, behind, hspots⟩ := List.append_of_mem ((Combinator.mem_spots hp kind).mpr hq)
  obtain hok | ⟨q', hmem, outer, hfound⟩ :=
    (find?_comb_ok_iff hlays hp hkind hright).mp ⟨r, h⟩ front q behind hspots
  · exact hok
  · have hrel : kind.Relates q' p :=
      (Combinator.mem_spots hp kind).mp (hspots ▸ List.mem_append_left _ hmem)
    exact absurd hfound (hnone q' hrel outer)

/-- There are names for types that are none of the given ones. -/
theorem exists_typeName (names : List String) : ∃ name, IsTypeName name ∧ name ∉ names := by
  have hlong : ∃ size, ∀ name ∈ names, name.length ≤ size := by
    induction names with
    | nil => exact ⟨0, by simp⟩
    | cons name rest ih =>
        obtain ⟨size, hsize⟩ := ih
        exact ⟨max name.length size, List.forall_mem_cons.mpr ⟨Nat.le_max_left _ _,
          fun other hother => Nat.le_trans (hsize other hother) (Nat.le_max_right _ _)⟩⟩
  obtain ⟨size, hsize⟩ := hlong
  refine ⟨String.ofList (List.replicate (size + 1) 'a'), ⟨'a', List.replicate size 'a', ?_, ?_, ?_⟩,
    fun hmem => ?_⟩
  · simp [List.replicate_succ]
  · decide
  · intro d hd
    obtain rfl := List.eq_of_mem_replicate hd
    decide
  · have hle := hsize _ hmem
    simp only [String.length_ofList, List.length_replicate] at hle
    omega

/-- A name for types that nothing has which stands before the spot in its list, or before a
node around it. -/
theorem exists_unused (x : Layout) (hp : p.In x) : ∃ name, IsTypeName name ∧
    ∀ a, a = p ∨ Combinator.ancestor.Relates a p →
      ∀ q, Combinator.sibling.Relates q a → q.here.tree.nodeType? ≠ some name := by
  obtain ⟨name, hname, hunused⟩ := exists_typeName
    ((p :: Combinator.ancestor.spots p).flatMap fun a =>
      a.before.filterMap (·.here.tree.nodeType?))
  refine ⟨name, hname, fun a ha q hq htype => hunused ?_⟩
  have hin : a.In x := by
    rcases ha with rfl | ha
    · exact hp
    · exact ha.spot_in hp
  refine List.mem_flatMap.mpr ⟨a, ?_, List.mem_filterMap.mpr ⟨q, ?_, htype⟩⟩
  · rcases ha with rfl | ha
    · exact List.mem_cons_self
    · exact List.mem_cons_of_mem _ ((Combinator.mem_spots hp .ancestor).mpr ha)
  · exact (Combinator.mem_spots hin .sibling).mpr hq

/-- To look for it before a spot in its list is to ask everything there for its type. -/
theorem typed_of_find?_sibling (hlays : s.Lays x) (hp : p.In x)
    (hunused : ∀ q, Combinator.sibling.Relates q p → q.here.tree.nodeType? ≠ some name) {r}
    (h : (comb .sibling (.type name) .any).find? s p.cursor = .ok r) :
    ∀ q, Combinator.sibling.Relates q p → q.here.Typed := by
  intro q hq
  obtain ⟨r, hr⟩ := find?_comb_all hlays hp (by simp [Combinator.IsKnown]) rfl
    (fun q hq outer => find?_unused hlays (hq.spot_in hp) (hunused q hq)) h q hq
  obtain ⟨htyped, -⟩ | ⟨-, fault, hfind⟩ := find?_type hlays (hq.spot_in hp) name
  · exact htyped
  · simp [hfind] at hr

/-- **Selectors are matched without failing** at a node if and only if everything before it
and before the nodes around it can be asked for its type. -/
theorem find?_ok_iff [CharacterNames] (hlays : s.Lays x) (hp : p.In x) (hn : p.here.isNode = true) :
    (∀ text sel, parse text = .ok sel → ∃ r, sel.find? s p.cursor = .ok r) ↔ p.Quiet := by
  constructor
  · intro h a ha
    obtain ⟨name, hname, hunused⟩ := exists_unused x hp
    have hbeside : (comb .sibling (.type name) .any).Written :=
      ⟨by simp [Combinator.IsKnown], hname, trivial⟩
    have hinside : (comb .ancestor (comb .sibling (.type name) .any) .any).Written :=
      ⟨by simp [Combinator.IsKnown], ⟨by simp [Combinator.IsKnown], hname, trivial⟩, trivial⟩
    rcases ha with rfl | ha
    · obtain ⟨text, -, hparse⟩ := parse_format hbeside
      obtain ⟨r, hr⟩ := h text _ hparse
      exact typed_of_find?_sibling hlays hp (hunused a (.inl rfl)) hr
    · obtain ⟨text, -, hparse⟩ := parse_format hinside
      obtain ⟨r, hr⟩ := h text _ hparse
      have hnone (q : Spot) (hq : Combinator.ancestor.Relates q p) (outer : Matched) :
          (comb .sibling (.type name) .any).find? s q.cursor ≠ .ok (some outer) := by
        intro hfound
        obtain ⟨q', hq', outer', hfound'⟩ :=
          find?_comb_some hlays (hq.spot_in hp) (by simp [Combinator.IsKnown]) hfound
        exact find?_unused hlays (hq'.spot_in (hq.spot_in hp)) (hunused q (.inr hq) q' hq') hfound'
      obtain ⟨r, hr⟩ := find?_comb_all hlays hp (by simp [Combinator.IsKnown]) rfl hnone hr a ha
      exact typed_of_find?_sibling hlays (ha.spot_in hp) (hunused a (.inr ha)) hr
  · intro hquiet text sel hparse
    exact find?_written_ok hlays hp hquiet (Layout.typed_of_isNode hn) (parse_written hparse)

end Selector

end DocLint
