import DocLint.Proofs.Selector.Related

/-!
# DocLint.Proofs.Selector.Meaning

**What selectors mean**, apart from how they are searched for. A *witness* of a chain
of node selectors is a sequence of spots, one for each, where neighbours stand to each
other as the combinators say (`Selector.Witness`). Among the witnesses with the same
end there is a nearest one, where each spot is the nearest from which the chain can be
completed (`Selector.Nearest`).

There is at most one (`Nearest.unique`), so a selector means one thing at a spot
(`Means.unique`).
-/

namespace DocLint.Selector

/-- The spots of the document `x` that the parts of a chain may mean, from the left to
the right. A text filter does not matter. -/
def Witness (x : Layout) : Selector → List Spot → Prop
  | .any, ps => ∃ p, ps = [p] ∧ p.In x ∧ p.here.isNode = true
  | .type name, ps => ∃ p, ps = [p] ∧ p.In x ∧ p.here.tree.nodeType? = some name
  | .comb kind left right, ps => ∃ front q p, ps = front ++ [p] ∧ left.Witness x front ∧
    front.getLast? = some q ∧ right.Witness x [p] ∧ kind.Relates q p
  | .filtered inner _, ps => inner.Witness x ps
  | .list _, _ | .foreign _, _ => False

/-- The witness that is nearest when it is chosen from right to left: no nearer spot
belongs to a witness of the left side. -/
def Nearest (x : Layout) : Selector → List Spot → Prop
  | .comb kind left right, ps => ∃ front q p, ps = front ++ [p] ∧ left.Nearest x front ∧
    front.getLast? = some q ∧ right.Witness x [p] ∧ kind.Relates q p ∧
    ∀ q' front', kind.Relates q' p → left.Witness x front' → front'.getLast? = some q' →
      ¬ kind.Nearer q' q
  | .filtered inner _, ps => inner.Nearest x ps
  | s, ps => s.Witness x ps

/-- What a chain answers at a spot: nothing if no witness ends there, else the nearest. -/
def Answers (x : Layout) (s : Selector) (p : Spot) : Option Matched → Prop
  | none => ∀ ps, s.Witness x ps → ps.getLast? ≠ some p
  | some found => ∃ ps, s.Nearest x ps ∧ ps.getLast? = some p ∧ found = ps.map (·.here.ref)

/-- What a selector answers at a spot: of several alternatives, the first that has a
witness decides. -/
def Means (x : Layout) (p : Spot) : Selector → Option Matched → Prop
  | .list alternatives, none => ∀ s ∈ alternatives, s.Answers x p none
  | .list alternatives, some found => ∃ before s behind, alternatives = before ++ s :: behind ∧
    (∀ t ∈ before, t.Answers x p none) ∧ s.Answers x p (some found)
  | s, answer => s.Answers x p answer

variable {x : Layout} {p : Spot}

/-- A text filter does not take part. -/
theorem answers_filtered {inner : Selector} {filter : TextFilter} {r : Option Matched} :
    (filtered inner filter).Answers x p r ↔ inner.Answers x p r := by
  cases r <;> exact Iff.rfl

/-- Without alternatives, the answer is the meaning. -/
theorem IsTree.means [CharacterNames] {sel : Selector} (hsel : sel.IsTree) {r : Option Matched} :
    sel.Means x p r ↔ sel.Answers x p r := by
  cases sel with
  | list alternatives => exact hsel.elim
  | _ => exact Iff.rfl

/-! ### A selector means one thing -/

/-- What is nearest is a witness. -/
theorem Nearest.witness : ∀ {sel : Selector} {ps : List Spot}, sel.Nearest x ps → sel.Witness x ps
  | .comb _ _ _, _, h => by
      obtain ⟨front, q, p, hps, hfront, hlast, hright, hrel, -⟩ := h
      exact ⟨front, q, p, hps, hfront.witness, hlast, hright, hrel⟩
  | .filtered inner _, ps, h => by
      change inner.Nearest x ps at h
      exact h.witness
  | .any, _, h | .type _, _, h | .list _, _, h | .foreign _, _, h => h

/-- A node selector means single spots of the document. -/
theorem IsNode.witness {sel : Selector} (hsel : sel.IsNode) {ps : List Spot}
    (h : sel.Witness x ps) : ∃ p, ps = [p] ∧ p.In x := by
  cases sel with
  | any =>
      obtain ⟨p, hps, hp, -⟩ := h
      exact ⟨p, hps, hp⟩
  | type name =>
      obtain ⟨p, hps, hp, -⟩ := h
      exact ⟨p, hps, hp⟩
  | comb _ _ _ | filtered _ _ | list _ | foreign _ => exact hsel.elim

/-- A witness of a single spot is nearest. -/
theorem IsNode.nearest {sel : Selector} (hsel : sel.IsNode) {ps : List Spot}
    (h : sel.Witness x ps) : sel.Nearest x ps := by
  cases sel with
  | any => exact h
  | type name => exact h
  | comb _ _ _ | filtered _ _ | list _ | foreign _ => exact hsel.elim

/-- No two witnesses of a chain with the same end are nearest. -/
theorem Nearest.unique {sel : Selector} (hsel : sel.IsChain) {ps ps' : List Spot}
    (h : sel.Nearest x ps) (h' : sel.Nearest x ps') (hend : ps.getLast? = ps'.getLast?) :
    ps = ps' := by
  induction hsel using IsChain.induction generalizing ps ps' with
  | node sel hsel =>
      obtain ⟨p, rfl, -⟩ := hsel.witness h.witness
      obtain ⟨p', rfl, -⟩ := hsel.witness h'.witness
      simpa using hend
  | comb kind left right hkind hleft hright ih =>
      obtain ⟨front, q, p, rfl, hfront, hlast, hp, hrel, hnear⟩ := h
      obtain ⟨front', q', p', rfl, hfront', hlast', -, hrel', hnear'⟩ := h'
      obtain rfl : p = p' := by simpa using hend
      obtain ⟨p', heq, hin⟩ := hright.witness hp
      obtain rfl : p = p' := by simpa using heq
      obtain rfl : q = q' := hrel.eq_of_not_nearer hin hrel'
        (hnear q' front' hrel' hfront'.witness hlast')
        (hnear' q front hrel hfront.witness hlast)
      rw [ih hfront hfront' (hlast.trans hlast'.symm)]

theorem Answers.not_none {sel : Selector} {found : Matched} (h : sel.Answers x p (some found)) :
    ¬ sel.Answers x p none := by
  obtain ⟨ps, hnearest, hlast, -⟩ := h
  exact fun hnone => hnone ps hnearest.witness hlast

theorem Answers.unique [CharacterNames] {sel : Selector} (hsel : sel.IsTree)
    {r r' : Option Matched}
    (h : sel.Answers x p r) (h' : sel.Answers x p r') : r = r' := by
  have hchain : ∀ {chain : Selector}, chain.IsChain → ∀ {r r' : Option Matched},
      chain.Answers x p r → chain.Answers x p r' → r = r'
    | chain, hchain, none, none, h, h' => rfl
    | chain, hchain, none, some found, h, h' => absurd h h'.not_none
    | chain, hchain, some found, none, h, h' => absurd h' h.not_none
    | chain, hchain, some _, some _, ⟨ps, hps, hlast, hfound⟩, ⟨ps', hps', hlast', hfound'⟩ => by
        rw [hfound, hfound', hps.unique hchain hps' (hlast.trans hlast'.symm)]
  rcases hsel.cases with hsel | ⟨inner, filter, rfl, hsel, -⟩
  · exact hchain hsel h h'
  · exact hchain hsel (answers_filtered.mp h) (answers_filtered.mp h')

/-- The first alternative with a witness is the only one that decides. -/
theorem first_unique : ∀ {before before' behind behind' : List Selector} {sel sel' : Selector}
    {found found' : Matched}, before ++ sel :: behind = before' ++ sel' :: behind' →
    (∀ t ∈ before, t.Answers x p none) → (∀ t ∈ before', t.Answers x p none) →
    sel.Answers x p (some found) → sel'.Answers x p (some found') → sel = sel'
  | [], [], _, _, _, _, _, _, heq, _, _, _, _ => (List.cons.inj heq).1
  | [], t :: before', _, _, _, _, _, _, heq, _, hbefore', h, _ => by
      obtain ⟨rfl, -⟩ := List.cons.inj heq
      exact absurd (hbefore' _ List.mem_cons_self) h.not_none
  | t :: before, [], _, _, _, _, _, _, heq, hbefore, _, _, h' => by
      obtain ⟨rfl, -⟩ := List.cons.inj heq
      exact absurd (hbefore _ List.mem_cons_self) h'.not_none
  | t :: before, t' :: before', _, _, _, _, _, _, heq, hbefore, hbefore', h, h' =>
      first_unique (List.cons.inj heq).2 (List.forall_mem_cons.mp hbefore).2
        (List.forall_mem_cons.mp hbefore').2 h h'

theorem Means.unique [CharacterNames] {sel : Selector} (hsel : sel.Written)
    {r r' : Option Matched}
    (h : sel.Means x p r) (h' : sel.Means x p r') : r = r' := by
  rcases hsel.cases with htree | ⟨alternatives, rfl, -, htrees⟩
  · exact (htree.means.mp h).unique htree (htree.means.mp h')
  · match r, r', h, h' with
    | none, none, _, _ => rfl
    | none, some _, h, ⟨_, _, _, hsplit, _, hfound⟩ =>
        exact absurd (h _ (by simp [hsplit])) hfound.not_none
    | some _, none, ⟨_, _, _, hsplit, _, hfound⟩, h =>
        exact absurd (h _ (by simp [hsplit])) hfound.not_none
    | some _, some _, ⟨_, sel, _, hsplit, hbefore, hfound⟩,
        ⟨_, sel', _, hsplit', hbefore', hfound'⟩ =>
        obtain rfl : sel = sel' :=
          first_unique (hsplit.symm.trans hsplit') hbefore hbefore' hfound hfound'
        exact hfound.unique (htrees sel (by simp [hsplit])) hfound'

/-! ### A match ends where it was asked for -/

theorem Answers.getLast? {sel : Selector} (h : sel.Answers x p (some found)) :
    found.getLast? = some p.here.ref := by
  obtain ⟨ps, -, hlast, rfl⟩ := h
  rw [List.getLast?_map, hlast]
  rfl

theorem Means.getLast? {sel : Selector} (h : sel.Means x p (some found)) :
    found.getLast? = some p.here.ref := by
  cases sel with
  | list alternatives =>
      obtain ⟨_, _, _, -, -, hanswer⟩ := h
      exact hanswer.getLast?
  | _ => exact Answers.getLast? h

end DocLint.Selector
