import DocLint.Proofs.Cursor.Spot
import DocLint.Proofs.Walk.Plain

/-!
# DocLint.Proofs.Walk.Reference

**What a walk shows a visitor** that edits nothing, said of the document alone
(`walk_reference`): at which paths it comes to a node (`Layout.NodeAt`), in which order
(`Layout.Earlier`), and what the content and the cursor are there (`Visit.IsRight`).

The visits are already listed by recursion over the layout (`Layout.visits`), from a
cursor `c` that points at it. `Layout.Shows` says how a visit in that list continues `c`
along a path. One step down a layout is one step more at the front of the path
(`Shows.child`), which carries the three inductions: every visit shows the node at some
path, every such path has its visit, and the visits come in order.
-/

namespace DocLint

/-- The steps from the root to a visit. -/
def Visit.path (v : Visit) : Path := v.cursor.steps.toList

namespace Layout

/-- What the steps of a path lead to. -/
def at? : Layout → Path → Option Layout
  | x, [] => some x
  | x, step :: rest => (x.child? step).bind fun y => y.at? rest

/-- What the steps of a path go through, the whole first and the end left out. -/
def passed : Layout → Path → List Layout
  | _, [] => []
  | x, step :: rest => x :: ((x.child? step).map fun y => y.passed rest).getD []

/-- A node stands at the path, and no field of the name `type` is on the way. -/
def NodeAt (x : Layout) (path : Path) : Prop :=
  Step.key "type" ∉ path ∧ ∃ y, x.at? path = some y ∧ y.isNode = true

/-- The order of a walk: the parts before the whole, items in the order of their indexes,
and fields in the order in which the record has them. -/
inductive Earlier : Layout → Path → Path → Prop
  | part (x : Layout) (step : Step) (rest : Path) : Earlier x (step :: rest) []
  | items (id : Nat) (items : List Layout) {i j : Nat} (h : i < j) (p q : Path) :
      Earlier (.list id items) (.index i :: p) (.index j :: q)
  | fields (id : Nat) {fields : List (String × Layout)} {key other : String}
      (h : (fields.map (·.1)).idxOf key < (fields.map (·.1)).idxOf other) (p q : Path) :
      Earlier (.record id fields) (.key key :: p) (.key other :: q)
  | inside {x y : Layout} {step : Step} {p q : Path} (child : x.child? step = some y)
      (h : Earlier y p q) : Earlier x (step :: p) (step :: q)

end Layout

/-- The visit is right about the document `x`: what stands at its path is the node that is
visited and the current value, its text is the content, the containers and the ancestors
are what the path goes through and the nodes among them, and the visit is at the root only
if the path has no steps. -/
structure Visit.IsRight (x : Layout) (v : Visit) : Prop where
  here : ∃ y, x.at? v.path = some y ∧ y.isNode = true ∧ y.ref = .object v.node ∧
    v.cursor.current = y.ref ∧ v.content = y.text
  containers : v.cursor.containers.toList = (x.passed v.path).filterMap Layout.id?
  ancestors : v.cursor.ancestors.toList =
    ((x.passed v.path).filter Layout.isNode).filterMap Layout.id?
  isRoot : v.cursor.isRoot = true ↔ v.path = []

namespace Layout

variable {c : Cursor} {x y : Layout} {v v' : Visit} {path p q : Path} {step : Step} {id : Nat}

/-! ### The order of a walk -/

/-- No path is earlier than one that is earlier than it. -/
theorem Earlier.asymm (h : x.Earlier p q) : ¬ x.Earlier q p := by
  induction h with
  | part x step rest =>
      intro h
      cases h
  | items id items hlt p q =>
      intro h
      cases h <;> omega
  | fields id hlt p q =>
      intro h
      cases h <;> omega
  | inside child h ih =>
      intro h
      cases h with
      | items _ _ hlt => omega
      | fields _ hlt => omega
      | inside child' h' =>
          obtain rfl := Option.some.inj (child.symm.trans child')
          exact ih h'

/-- Of two fields the one that the record has first is the earlier one. -/
theorem Earlier.of_fields {front rest : List (String × Layout)} {f g : String × Layout}
    (hn : ((front ++ f :: rest).map (·.1)).Nodup) (hg : g ∈ rest) (p q : Path) :
    (Layout.record id (front ++ f :: rest)).Earlier (.key f.1 :: p) (.key g.1 :: q) := by
  rw [List.map_append, List.map_cons] at hn
  obtain ⟨-, hrest, hne⟩ := List.nodup_append.mp hn
  have hg' : g.1 ∈ rest.map (·.1) := List.mem_map_of_mem hg
  have hf : f.1 ∉ front.map (·.1) := fun h => hne _ h _ List.mem_cons_self rfl
  have hgf : g.1 ∉ front.map (·.1) := fun h => hne _ h _ (List.mem_cons_of_mem _ hg') rfl
  have hfg : f.1 ≠ g.1 := fun h => (List.nodup_cons.mp hrest).1 (h ▸ hg')
  refine .fields id ?_ p q
  rw [List.map_append, List.map_cons, List.idxOf_append, if_neg hf, List.idxOf_append, if_neg hgf,
    List.idxOf_cons_self, List.idxOf_cons, beq_false_of_ne hfg, cond_false]
  omega

/-! ### What a visit shows -/

theorem child?_item (id : Nat) (items : List Layout) (k : Nat) :
    (Layout.list id items).child? (.index k) = items[k]? := by
  rw [child?, if_pos (Int.natCast_nonneg k)]
  rfl

theorem child?_field (id : Nat) {fields : List (String × Layout)} {f : String × Layout}
    (hn : (fields.map (·.1)).Nodup) (hf : f ∈ fields) :
    (Layout.record id fields).child? (.key f.1) = some f.2 :=
  fieldOf?_of_mem hn hf

/-- The visit continues the cursor `c` along a path in `x`, to the node that stands there. -/
structure Shows (c : Cursor) (x : Layout) (path : Path) (v : Visit) : Prop where
  steps : v.cursor.steps.toList = c.steps.toList ++ path
  here : ∃ y, x.at? path = some y ∧ y.isNode = true ∧ y.ref = .object v.node ∧
    v.cursor.current = y.ref ∧ v.content = y.text
  containers : v.cursor.containers.toList =
    c.containers.toList ++ (x.passed path).filterMap id?
  ancestors : v.cursor.ancestors.toList =
    c.ancestors.toList ++ ((x.passed path).filter isNode).filterMap id?

/-- The cursor from which a walk goes one step down in `x`. -/
def under (c : Cursor) (x : Layout) (id : Nat) (step : Step) : Cursor :=
  (c.inside id x.isNode).down step

/-- One step down is one step more at the front of the path. -/
theorem Shows.child (hid : x.id? = some id) (hchild : x.child? step = some y)
    (h : Shows (under c x id step) y path v) : Shows c x (step :: path) v := by
  have hpassed : x.passed (step :: path) = x :: y.passed path := by
    rw [passed, hchild]
    rfl
  refine ⟨?_, ?_, ?_, ?_⟩
  · rw [h.steps]
    simp [under, Cursor.down, Cursor.inside]
  · obtain ⟨z, hz, hshown⟩ := h.here
    refine ⟨z, ?_, hshown⟩
    rw [at?, hchild]
    exact hz
  · rw [h.containers, hpassed, List.filterMap_cons_some hid]
    simp [under, Cursor.down, Cursor.inside]
  · rw [h.ancestors, hpassed, List.filter_cons]
    cases hnode : x.isNode
    · simp [under, Cursor.down, Cursor.inside, hnode]
    · simp [under, Cursor.down, Cursor.inside, hnode, hid]

/-- The visit of a node itself. -/
theorem Shows.own {fields : List (String × Layout)}
    (hnode : (Layout.record id fields).isNode = true) :
    Shows c (.record id fields) []
      ⟨id, (Layout.record id fields).text, c.facing id⟩ where
  steps := (List.append_nil _).symm
  here := ⟨_, rfl, hnode, rfl, rfl, rfl⟩
  containers := (List.append_nil _).symm
  ancestors := (List.append_nil _).symm

theorem NodeAt.child (hstep : step ≠ .key "type") (hchild : x.child? step = some y)
    (h : y.NodeAt path) : x.NodeAt (step :: path) := by
  obtain ⟨htype, z, hz, hnode⟩ := h
  refine ⟨?_, z, ?_, hnode⟩
  · rw [List.mem_cons, not_or]
    exact ⟨hstep.symm, htype⟩
  · rw [at?, hchild]
    exact hz

/-- Every visit shows the node at some path. -/
theorem visits_show (hkeyed : x.tree.Keyed) (hv : v ∈ x.visits c) :
    ∃ path, x.NodeAt path ∧ Shows c x path v := by
  induction x using induct generalizing c with
  | scalar value => simp [visits] at hv
  | list id items ih =>
      obtain ⟨k, y, hy, hv⟩ := mem_visitsItems hv
      rw [Nat.zero_add] at hv
      have hmem := List.mem_of_getElem? hy
      have hchild := (child?_item id items k).trans hy
      obtain ⟨path, hat, hshows⟩ := ih y hmem (keyedItems_iff.mp hkeyed y hmem) hv
      exact ⟨_, hat.child (by simp) hchild, hshows.child rfl hchild⟩
  | record id fields ih =>
      rw [visits] at hv
      rcases List.mem_append.mp hv with hv | hv
      · obtain ⟨f, hf, htype, hv⟩ := mem_visitsFields hv
        have hn : (fields.map (·.1)).Nodup := keys_treeFields fields ▸ hkeyed.1
        have hchild := child?_field id hn hf
        obtain ⟨path, hat, hshows⟩ := ih f hf (keyedFields_iff.mp hkeyed.2 f hf) hv
        exact ⟨_, hat.child (by simpa using htype) hchild, hshows.child rfl hchild⟩
      · split at hv
        · next hnode =>
            obtain rfl := List.mem_singleton.mp hv
            exact ⟨[], ⟨by simp, _, rfl, hnode⟩, .own hnode⟩
        · simp at hv

/-- The node at every path is shown by a visit. -/
theorem shown_visit (h : x.NodeAt path) : ∃ v ∈ x.visits c, Shows c x path v := by
  induction path generalizing x c with
  | nil =>
      obtain ⟨-, y, hy, hnode⟩ := h
      obtain rfl : x = y := Option.some.inj hy
      cases x with
      -- Only records are nodes.
      | scalar value => contradiction
      | list id items => contradiction
      | record id fields =>
          refine ⟨_, ?_, .own hnode⟩
          rw [visits, if_pos hnode]
          exact List.mem_append_right _ List.mem_cons_self
  | cons step rest ih =>
      obtain ⟨htype, z, hz, hnode⟩ := h
      rw [List.mem_cons, not_or] at htype
      obtain ⟨y, hchild, hz⟩ := Option.bind_eq_some_iff.mp hz
      have hat : y.NodeAt rest := ⟨htype.2, z, hz, hnode⟩
      cases step with
      | index i =>
          obtain ⟨id, items, k, rfl, rfl, hy⟩ := child?_index hchild
          obtain ⟨v, hv, hshows⟩ := ih (c := under c (.list id items) id (.index k)) hat
          have hsub := visits_subset_visitsItems (c.inside id false) 0 hy
          rw [Nat.zero_add] at hsub
          exact ⟨v, hsub hv, hshows.child rfl hchild⟩
      | key key =>
          obtain ⟨id, fields, rfl, hy⟩ := child?_key hchild
          obtain ⟨v, hv, hshows⟩ := ih (c := under c (.record id fields) id (.key key)) hat
          have hsub := visits_subset_visitsFields (c.inside id (Layout.record id fields).isNode)
            (mem_of_fieldOf? hy) fun hkey => htype.1 (congrArg Step.key hkey.symm)
          rw [visits]
          exact ⟨v, List.mem_append_left _ (hsub hv), hshows.child rfl hchild⟩

/-! ### The order of the visits -/

/-- Seen from the cursor `c` at `x`, the first visit is at an earlier path. -/
def Precedes (c : Cursor) (x : Layout) (v v' : Visit) : Prop :=
  ∃ p q, Shows c x p v ∧ Shows c x q v' ∧ x.Earlier p q

theorem Precedes.child (hid : x.id? = some id) (hchild : x.child? step = some y)
    (h : Precedes (under c x id step) y v v') : Precedes c x v v' := by
  obtain ⟨p, q, hp, hq, hearlier⟩ := h
  exact ⟨_, _, hp.child hid hchild, hq.child hid hchild, .inside hchild hearlier⟩

/-- The visits of the items come in order, if those of each item do. -/
theorem visitsItems_sorted (front : List Layout) {rest : List Layout}
    (hkeyed : ∀ y ∈ rest, y.tree.Keyed)
    (hsorted : ∀ y ∈ rest, ∀ c, (y.visits c).Pairwise (Precedes c y)) :
    (visitsItems (c.inside id false) front.length rest).Pairwise
      (Precedes c (.list id (front ++ rest))) := by
  induction rest generalizing front with
  | nil => exact .nil
  | cons x tail ih =>
      obtain ⟨hkeyedx, hkeyed⟩ := List.forall_mem_cons.mp hkeyed
      obtain ⟨hsortedx, hsorted⟩ := List.forall_mem_cons.mp hsorted
      have hchild : (Layout.list id (front ++ x :: tail)).child? (.index front.length) = some x :=
        (child?_item _ _ _).trans (by simp)
      have htail := ih (front ++ [x]) hkeyed hsorted
      rw [List.length_append, List.length_singleton, List.append_assoc] at htail
      rw [visitsItems]
      refine List.pairwise_append.mpr ⟨?_, htail, ?_⟩
      · exact (hsortedx _).imp fun h => h.child rfl hchild
      · intro v hv v' hv'
        obtain ⟨k, y, hy, hv'⟩ := mem_visitsItems hv'
        have hkeyedy := hkeyed y (List.mem_of_getElem? hy)
        have hitem : (front ++ x :: tail)[front.length + 1 + k]? = some y := by
          rw [List.getElem?_append_right (by omega),
            show front.length + 1 + k - front.length = k + 1 by omega]
          exact hy
        have hchild' := (child?_item id (front ++ x :: tail) _).trans hitem
        obtain ⟨p, -, hp⟩ := visits_show hkeyedx hv
        obtain ⟨q, -, hq⟩ := visits_show hkeyedy hv'
        exact ⟨_, _, hp.child rfl hchild, hq.child rfl hchild', .items id _ (by omega) p q⟩

/-- The visits of the fields come in order, if those of each field do. -/
theorem visitsFields_sorted (front : List (String × Layout)) {rest : List (String × Layout)}
    (hn : ((front ++ rest).map (·.1)).Nodup) (hkeyed : ∀ f ∈ rest, f.2.tree.Keyed)
    (hsorted : ∀ f ∈ rest, ∀ c, (f.2.visits c).Pairwise (Precedes c f.2)) :
    (visitsFields (c.inside id (Layout.record id (front ++ rest)).isNode) rest).Pairwise
      (Precedes c (.record id (front ++ rest))) := by
  induction rest generalizing front with
  | nil => exact .nil
  | cons f tail ih =>
      obtain ⟨key, x⟩ := f
      obtain ⟨hkeyedx, hkeyed⟩ := List.forall_mem_cons.mp hkeyed
      obtain ⟨hsortedx, hsorted⟩ := List.forall_mem_cons.mp hsorted
      have hchild (f) (hf : f ∈ (key, x) :: tail) :
          (Layout.record id (front ++ (key, x) :: tail)).child? (.key f.1) = some f.2 :=
        child?_field id hn (List.mem_append_right _ hf)
      have hsplit : (front ++ [(key, x)]) ++ tail = front ++ (key, x) :: tail :=
        List.append_assoc _ _ _
      have htail := ih (front ++ [(key, x)]) (hsplit ▸ hn) hkeyed hsorted
      rw [hsplit] at htail
      rw [visitsFields]
      refine List.pairwise_append.mpr ⟨?_, htail, ?_⟩
      · split
        · exact .nil
        · exact (hsortedx _).imp fun h => h.child rfl (hchild (key, x) List.mem_cons_self)
      · intro v hv v' hv'
        split at hv
        · contradiction
        · obtain ⟨g, hg, -, hv'⟩ := mem_visitsFields hv'
          obtain ⟨p, -, hp⟩ := visits_show hkeyedx hv
          obtain ⟨q, -, hq⟩ := visits_show (hkeyed g hg) hv'
          exact ⟨_, _, hp.child rfl (hchild (key, x) List.mem_cons_self),
            hq.child rfl (hchild g (List.mem_cons_of_mem _ hg)),
            .of_fields (f := (key, x)) hn hg p q⟩

/-- The visits come in the order of a walk. -/
theorem visits_sorted (hkeyed : x.tree.Keyed) (c : Cursor) :
    (x.visits c).Pairwise (Precedes c x) := by
  induction x using induct generalizing c with
  | scalar value => exact .nil
  | list id items ih =>
      have hitems := keyedItems_iff.mp hkeyed
      exact visitsItems_sorted [] hitems fun y hy => ih y hy (hitems y hy)
  | record id fields ih =>
      have hfields := keyedFields_iff.mp hkeyed.2
      have hn : (fields.map (·.1)).Nodup := keys_treeFields fields ▸ hkeyed.1
      rw [visits]
      refine List.pairwise_append.mpr ⟨?_, ?_, ?_⟩
      · exact visitsFields_sorted [] hn hfields fun f hf => ih f hf (hfields f hf)
      · split
        · exact List.pairwise_singleton _ _
        · exact .nil
      · intro v hv v' hv'
        split at hv'
        · next hnode =>
            obtain rfl := List.mem_singleton.mp hv'
            obtain ⟨f, hf, -, hv⟩ := mem_visitsFields hv
            obtain ⟨p, -, hp⟩ := visits_show (hfields f hf) hv
            exact ⟨_, [], hp.child rfl (child?_field id hn hf), .own hnode, .part _ _ _⟩
        · contradiction

/-! ### From the start of the walk -/

/-- What a step leads to is inside an object. -/
theorem id?_of_child? (h : x.child? step = some y) : ∃ id, x.id? = some id := by
  obtain ⟨⟨id, -, hid, -⟩, -⟩ := of_child? h
  exact ⟨id, hid⟩

theorem Shows.isRight (h : Shows .fresh x path v) : v.path = path ∧ v.IsRight x := by
  have hpath : v.path = path := h.steps
  subst hpath
  have hcontainers : v.cursor.containers.toList = (x.passed v.path).filterMap id? := h.containers
  refine ⟨rfl, h.here, hcontainers, h.ancestors, ?_⟩
  have hroot : v.cursor.isRoot = true ↔ (x.passed v.path).filterMap id? = [] := by
    rw [Cursor.isRoot, ← Stack.length_toList, hcontainers, beq_iff_eq, List.length_eq_zero_iff]
  rw [hroot]
  obtain ⟨y, hy, -⟩ := h.here
  cases hcases : v.path with
  | nil => simp [passed]
  | cons step rest =>
      rw [hcases] at hy
      obtain ⟨z, hchild, -⟩ := Option.bind_eq_some_iff.mp hy
      obtain ⟨id, hid⟩ := id?_of_child? hchild
      simp [passed, List.filterMap_cons_some hid]

end Layout

open Layout

/-- **What a walk shows** a visitor that edits nothing. Its visits are at the paths where a
node stands that no field `type` is on the way to, once each and in the order of a walk,
and each is right about the document. The walk is these visits and says the text of the
document; at its end all stacks are empty again. A visit that fails ends it. -/
theorem walk_reference {σ : Type} {visit : Visitor σ} {s : Store} {x : Layout}
    (hv : Walk.Careful x visit) (hlays : s.Lays x) (data : σ) :
    ∃ vs : List Visit,
      (∀ path, path ∈ vs.map Visit.path ↔ x.NodeAt path) ∧ (vs.map Visit.path).Nodup ∧
      (vs.map Visit.path).Pairwise x.Earlier ∧ (∀ v ∈ vs, v.IsRight x) ∧
      (∀ w, Walk.visitAll visit vs ⟨s, .fresh, data⟩ = .ok () w →
        walk visit s x.ref data =
          (.ok x.text, { w with cursor := { Cursor.fresh with current := w.cursor.current } })) ∧
      ∀ fault w, Walk.visitAll visit vs ⟨s, .fresh, data⟩ = .error fault w →
        walk visit s x.ref data = (.error fault, w) := by
  have hsorted : ((x.visits .fresh).map Visit.path).Pairwise x.Earlier := by
    refine List.pairwise_map.mpr ((visits_sorted hlays.keyed .fresh).imp ?_)
    rintro v v' ⟨p, q, hp, hq, hearlier⟩
    rw [hp.isRight.1, hq.isRight.1]
    exact hearlier
  refine ⟨x.visits .fresh, fun path => ⟨?_, fun hat => ?_⟩, ?_, hsorted, ?_,
    Walk.walk_careful hv data hlays⟩
  · rintro hmem
    obtain ⟨v, hvisit, rfl⟩ := List.mem_map.mp hmem
    obtain ⟨path, hat, hshows⟩ := visits_show hlays.keyed hvisit
    rwa [hshows.isRight.1]
  · obtain ⟨v, hvisit, hshows⟩ := shown_visit (c := .fresh) hat
    exact List.mem_map.mpr ⟨v, hvisit, hshows.isRight.1⟩
  · refine hsorted.imp ?_
    rintro p q hearlier rfl
    exact hearlier.asymm hearlier
  · intro v hvisit
    obtain ⟨path, -, hshows⟩ := visits_show hlays.keyed hvisit
    exact hshows.isRight.2

/-- A walk that notes where it is comes to the second of two paragraphs. -/
theorem walk_reference_twoParagraphs :
    (Walk.Careful twoParagraphs (Walk.collecting fun _ c => c.steps.toList) ∧
      twoParagraphsStore.Lays twoParagraphs) ∧
    ∃ vs : List Visit, [.key "children", .index 1] ∈ vs.map Visit.path ∧
      (∀ v ∈ vs, v.IsRight twoParagraphs) ∧
      ∃ c, walk (Walk.collecting fun _ c => c.steps.toList) twoParagraphsStore (.object 0) [] =
        (.ok "", ⟨twoParagraphsStore, c, vs.map fun v => (v.node, v.path)⟩) ∧
        c.containers = .empty ∧ c.steps = .empty ∧ c.ancestors = .empty := by
  have hcareful := (Walk.steady_collecting fun _ (c : Cursor) => c.steps.toList).careful
    twoParagraphs
  refine ⟨⟨hcareful, lays_twoParagraphs⟩, ?_⟩
  obtain ⟨vs, hpaths, -, -, hright, hwalk, -⟩ := walk_reference hcareful lays_twoParagraphs []
  obtain ⟨c, hall⟩ := Walk.visitAll_collecting (fun _ (c : Cursor) => c.steps.toList) vs
    ⟨twoParagraphsStore, .fresh, []⟩
  refine ⟨vs, (hpaths _).mpr ⟨by decide, _, rfl, by decide⟩, hright, _, hwalk _ hall, rfl, rfl, rfl⟩

end DocLint
