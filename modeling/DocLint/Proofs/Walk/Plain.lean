import DocLint.Proofs.Walk.Step

/-!
# DocLint.Proofs.Walk.Plain

**Walks that change nothing.** A visitor that leaves the document and the cursor as
they are is called for the `visits` of the layout, one after the other, and for
nothing else. `visitAll` is that sequence; `walk_careful` says that the walk is the
sequence, also where a visit fails.

Such a visitor may do what it likes outside of the document (`Careful`); one that is
`Steady` leaves the whole store alone. Between two visits the cursor differs, and each
visit sets it. So it is enough to say what the walk leaves as cursor (`back`): the one
it had, except that the current value is the last node visited.
-/

namespace DocLint

/-- Whatever holds the document has a node there. -/
def Layout.HasNode (x : Layout) (node : Nat) : Prop :=
  ∀ s : Store, x.Holds s → s.isNode (.object node) = true

/-- Whatever holds the document `x` holds `y`. -/
def Layout.Part (x y : Layout) : Prop := ∀ s : Store, x.Holds s → y.Holds s

theorem Layout.Part.items {x : Layout} {id : Nat} {items : List Layout}
    (h : x.Part (.list id items)) : ∀ y ∈ items, x.Part y := fun y hy s hs =>
  holdsItems_iff.mp (h s hs).2 y hy

theorem Layout.Part.fields {x : Layout} {id : Nat} {fields : List (String × Layout)}
    (h : x.Part (.record id fields)) : ∀ f ∈ fields, x.Part f.2 := fun f hf s hs =>
  holdsFields_iff.mp (h s hs).2 f hf

/-- What is visited are nodes. -/
theorem Layout.Part.hasNode {whole x : Layout} (h : whole.Part x) {c : Cursor} {v : Visit}
    (hv : v ∈ x.visits c) : whole.HasNode v.node := by
  obtain ⟨y, hy, hnode, href, -⟩ := visit_part Layout.Part.items Layout.Part.fields h hv
  intro s hs
  rw [← href]
  exact (isNode_of_holds (hy s hs)).trans hnode

namespace Walk

open Layout

variable {σ : Type} {whole : Layout} {visit : Visitor σ}

/-- The visitor leaves the store and the cursor alone, if it does not fail. -/
def Steady (visit : Visitor σ) : Prop :=
  ∀ (node : Nat) (content : String) (w w' : Scene σ), visit node content w = .ok () w' →
    w'.store = w.store ∧ w'.cursor = w.cursor

/-- At the nodes of the document `whole`, the visitor leaves the document and the cursor
alone, if it does not fail. -/
def Careful (whole : Layout) (visit : Visitor σ) : Prop :=
  ∀ (node : Nat) (content : String) (w w' : Scene σ), whole.HasNode node → whole.Holds w.store →
    visit node content w = .ok () w' → whole.Holds w'.store ∧ w'.cursor = w.cursor

theorem Steady.careful (hv : Steady visit) (whole : Layout) : Careful whole visit := by
  intro node content w w' _ hwhole hvisit
  obtain ⟨hstore, hcursor⟩ := hv node content w w' hvisit
  exact ⟨hstore ▸ hwhole, hcursor⟩

/-- Visits one after the other. -/
def visitAll (visit : Visitor σ) : List Visit → Walk σ Unit
  | [] => pure ()
  | v :: rest => do
    modify fun w => { w with cursor := v.cursor }
    visit v.node v.content
    visitAll visit rest

/-- The answer of a walk that came back to the cursor `c`, given the answer of its
visits. -/
def back (c : Cursor) (content : String) :
    EStateM.Result Fault (Scene σ) Unit → EStateM.Result Fault (Scene σ) String
  | .ok _ w => .ok content { w with cursor := { c with current := w.cursor.current } }
  | .error fault w => .error fault w

/-! ### Visits one after the other -/

theorem visitAll_cons (v : Visit) (rest : List Visit) (w : Scene σ) :
    visitAll visit (v :: rest) w =
      (visit v.node v.content >>= fun _ => visitAll visit rest) { w with cursor := v.cursor } :=
  rfl

theorem visitAll_append (first more : List Visit) :
    visitAll visit (first ++ more) = visitAll visit first >>= fun _ => visitAll visit more := by
  induction first with
  | nil => rfl
  | cons v rest ih => simp only [List.cons_append, visitAll, ih, bind_assoc]

theorem Careful.visitAll_holds (hv : Careful whole visit) :
    ∀ {vs : List Visit} {w w' : Scene σ}, (∀ v ∈ vs, whole.HasNode v.node) →
      whole.Holds w.store → visitAll visit vs w = .ok () w' → whole.Holds w'.store
  | [], w, w', _, hwhole, h => by
      obtain rfl : w = w' := by injection h
      exact hwhole
  | v :: rest, w, w', hvs, hwhole, h => by
      obtain ⟨hnode, hrest⟩ := List.forall_mem_cons.mp hvs
      rw [visitAll_cons] at h
      cases hvisit : visit v.node v.content { w with cursor := v.cursor } with
      | error fault w₁ =>
          rw [bind_error hvisit] at h
          contradiction
      | ok a w₁ =>
          rw [bind_ok hvisit] at h
          have hwhole₁ : whole.Holds w₁.store :=
            (hv _ _ { w with cursor := v.cursor } w₁ hnode hwhole hvisit).1
          exact hv.visitAll_holds hrest hwhole₁ h

/-- Where visits start from does not matter, up to the current value if there are
none. -/
theorem back_visitAll (c c' : Cursor) (content : String) (vs : List Visit) (w : Scene σ)
    (h : c'.current = w.cursor.current) :
    back c content (visitAll visit vs { w with cursor := c' }) =
      back c content (visitAll visit vs w) := by
  cases vs with
  | nil =>
      show EStateM.Result.ok _ _ = EStateM.Result.ok _ _
      simp only [h]
  | cons v rest => rfl

theorem back_current (c : Cursor) (r : Ref) (content : String) :
    back (σ := σ) { c with current := r } content = back c content := by
  funext result
  cases result <;> rfl

/-! ### The walk is its visits -/

/-- In the document `whole`, the walk of the part `x` is its visits. -/
structure Plain (whole : Layout) (visit : Visitor σ) (x : Layout) : Prop where
  part : whole.Part x
  walk : ∀ {allowance : Nat} {w : Scene σ}, x.extent < allowance → whole.Holds w.store →
    value visit allowance x.ref w = back w.cursor x.text (visitAll visit (x.visits w.cursor) w)

theorem Plain.visitAll_holds {x : Layout} (h : Plain whole visit x) (hv : Careful whole visit)
    {c : Cursor} {w w' : Scene σ} (hwhole : whole.Holds w.store)
    (hvisits : visitAll visit (x.visits c) w = .ok () w') : whole.Holds w'.store :=
  hv.visitAll_holds (fun _ hmem => h.part.hasNode hmem) hwhole hvisits

/-- The walk of `x` one step further down. -/
theorem value_down {x : Layout} {allowance : Nat} {w : Scene σ} (h : Plain whole visit x)
    (hfuel : x.extent < allowance) (hwhole : whole.Holds w.store) (step : Step) :
    value visit allowance x.ref { w with cursor := w.cursor.down step } =
      back (w.cursor.down step) x.text
        (visitAll visit (x.visits (w.cursor.down step)) w) := by
  rw [h.walk (w := { w with cursor := w.cursor.down step }) hfuel hwhole]
  exact back_visitAll _ _ _ _ _ rfl

/-- What comes behind a part of a walk may start from the cursor that the walk came
back to. -/
theorem back_rest {c : Cursor} {w₁ : Scene σ} (content : String) (vs : List Visit) :
    back { c with current := w₁.cursor.current } content
        (visitAll visit vs { w₁ with cursor := { c with current := w₁.cursor.current } }) =
      back c content (visitAll visit vs w₁) := by
  rw [back_visitAll _ { c with current := w₁.cursor.current } _ _ _ rfl, back_current]

theorem items_plain (hv : Careful whole visit) {id : Nat} {rest : List Layout} {allowance : Nat}
    {w : Scene σ} {front : List Ref} {index : Int} (content : String)
    (hindex : index = front.length) (hplain : ∀ x ∈ rest, Plain whole visit x)
    (hfuel : rest.length + extentItems rest < allowance) (hwhole : whole.Holds w.store)
    (hcell : ∀ s : Store, whole.Holds s → s.cell? id = some (.list (front ++ rest.map ref))) :
    items visit allowance id index content w =
      back w.cursor (content ++ textItems rest)
        (visitAll visit (visitsItems w.cursor front.length rest) w) := by
  induction rest generalizing allowance w front index content with
  | nil =>
      subst hindex
      obtain ⟨allowance, rfl⟩ := Nat.exists_eq_add_one.mpr (Nat.zero_lt_of_lt hfuel)
      rw [items_end (hcell _ hwhole) (by simp), textItems, String.append_empty]
      rfl
  | cons x tail ih =>
      subst hindex
      obtain ⟨allowance, rfl, hx, hfuel₁⟩ := allowance_item hfuel
      have hvalue := value_down (hplain x List.mem_cons_self) hx hwhole (.index front.length)
      rw [items_step (r := x.ref) (hcell _ hwhole) (by simp), visitsItems, visitAll_append]
      cases hvisits : visitAll visit (x.visits (w.cursor.down (.index front.length))) w with
      | error fault w₁ =>
          rw [hvisits] at hvalue
          rw [bind_error hvalue, bind_error hvisits]
          rfl
      | ok a w₁ =>
          rw [hvisits] at hvalue
          have hwhole₁ := (hplain x List.mem_cons_self).visitAll_holds hv hwhole hvisits
          have hcell₁ (s : Store) (hs : whole.Holds s) :
              s.cell? id = some (.list ((front ++ [x.ref]) ++ tail.map ref)) := by
            simpa using hcell s hs
          have hindex₂ : (front.length : Int) + 1 = (front ++ [x.ref]).length := by simp
          have hrest := ih
            (w := { w₁ with cursor := { w.cursor with current := w₁.cursor.current } })
            (content ++ x.text) hindex₂ (fun y hy => hplain y (List.mem_cons_of_mem _ hy)) hfuel₁
            hwhole₁ hcell₁
          rw [bind_ok hvalue, bind_ok hvisits, bind_ok (nextIndex_apply rfl)]
          rw [List.length_append, List.length_singleton, visitsItems_current, back_rest] at hrest
          rw [textItems, ← String.append_assoc]
          exact hrest

theorem fields_plain (hv : Careful whole visit) {id : Nat} {rest : List (String × Layout)}
    {allowance : Nat} {w : Scene σ} {now : List (String × Ref)} (content : String)
    (hplain : ∀ f ∈ rest, Plain whole visit f.2)
    (hfuel : rest.length + extentFields rest < allowance) (hwhole : whole.Holds w.store)
    (hcell : ∀ s : Store, whole.Holds s → s.cell? id = some (.record now))
    (hnow : ∀ f ∈ rest, fieldOf? now f.1 = some f.2.ref) :
    fields visit allowance id (rest.map (·.1)) content w =
      back w.cursor (content ++ textFields rest)
        (visitAll visit (visitsFields w.cursor rest) w) := by
  induction rest generalizing allowance w content with
  | nil =>
      rw [List.map_nil, fields_nil, textFields, String.append_empty]
      rfl
  | cons f tail ih =>
      obtain ⟨key, x⟩ := f
      obtain ⟨allowance, rfl, hx, hfuel₁⟩ := allowance_field hfuel
      have hplain₁ : ∀ f ∈ tail, Plain whole visit f.2 := fun f hf =>
        hplain f (List.mem_cons_of_mem _ hf)
      have hnow₁ : ∀ f ∈ tail, fieldOf? now f.1 = some f.2.ref := fun f hf =>
        hnow f (List.mem_cons_of_mem _ hf)
      have hfield : w.store.field? (.object id) key = some x.ref := by
        simpa [Store.field?, Store.fields?, hcell _ hwhole] using hnow _ List.mem_cons_self
      rw [List.map_cons]
      rcases field_cases hfield with ⟨hskip, hnone⟩ | ⟨htype, child, href, hsome⟩
      · have hnothing : textFields ((key, x) :: tail) = textFields tail ∧
            visitsFields w.cursor ((key, x) :: tail) = visitsFields w.cursor tail := by
          rcases hskip with rfl | ⟨value, rfl⟩
          · simp [textFields, visitsFields]
          · simp [textFields, visitsFields, text, visits]
        rw [fields_skip hnone, hnothing.1, hnothing.2]
        exact ih content hplain₁ hfuel₁ hwhole hnow₁
      · have hvalue := value_down (hplain _ List.mem_cons_self) hx hwhole (.key key)
        rw [fields_step htype hsome, ← href, visitsFields, if_neg htype, visitAll_append]
        cases hvisits : visitAll visit (x.visits (w.cursor.down (.key key))) w with
        | error fault w₁ =>
            rw [hvisits] at hvalue
            rw [bind_error hvalue, bind_error hvisits]
            rfl
        | ok a w₁ =>
            rw [hvisits] at hvalue
            have hwhole₁ := (hplain _ List.mem_cons_self).visitAll_holds hv hwhole hvisits
            have hrest := ih
              (w := { w₁ with cursor := { w.cursor with current := w₁.cursor.current } })
              (content ++ x.text) hplain₁ hfuel₁ hwhole₁ hnow₁
            rw [bind_ok hvalue, bind_ok hvisits, bind_ok (stepUp_apply rfl)]
            rw [visitsFields_current, back_rest] at hrest
            rw [textFields, if_neg htype, ← String.append_assoc]
            exact hrest

/-- A list is walked by its items. -/
theorem list_plain (hv : Careful whole visit) {id : Nat} {items : List Layout}
    (hpart : whole.Part (.list id items)) (hplain : ∀ x ∈ items, Plain whole visit x) :
    Plain whole visit (.list id items) := by
  refine ⟨hpart, fun {allowance w} hfuel hwhole => ?_⟩
  obtain ⟨allowance, rfl, hfuel₁⟩ := allowance_list hfuel
  have hcell (s : Store) (hs : whole.Holds s) :
      s.cell? id = some (.list ([] ++ items.map ref)) := (hpart s hs).1
  have hzero : (0 : Int) = ([] : List Ref).length := rfl
  have hitems :
      Walk.items visit allowance id 0 "" { w with cursor := w.cursor.inside id false } =
      back (w.cursor.inside id false) (textItems items)
        (visitAll visit (visitsItems (w.cursor.inside id false) 0 items) w) := by
    rw [← String.empty_append (s := textItems items),
      ← back_visitAll _ (w.cursor.inside id false) _ _ w rfl]
    exact items_plain hv (w := { w with cursor := w.cursor.inside id false }) "" hzero hplain hfuel₁
      hwhole hcell
  rw [ref, value_list (hpart _ hwhole).1, visits, text]
  cases hvisits : visitAll visit (visitsItems (w.cursor.inside id false) 0 items) w with
  | error fault w₁ =>
      rw [hvisits] at hitems
      exact bind_error hitems
  | ok a w₁ =>
      rw [hvisits] at hitems
      rw [bind_ok hitems, bind_ok (leave_apply rfl)]
      rfl

section

variable {id : Nat} {fields : List (String × Layout)}

/-- The fields of a record that the walk has gone into. -/
theorem inside_plain (hv : Careful whole visit) (hpart : whole.Part (.record id fields))
    (hplain : ∀ f ∈ fields, Plain whole visit f.2) (hkeyed : (Layout.record id fields).tree.Keyed)
    {allowance : Nat} {w : Scene σ}
    (hfuel : fields.length + extentFields fields < allowance)
    (hwhole : whole.Holds w.store) (node : Bool) (content : String) :
    Walk.fields visit allowance id (fields.map (·.1)) content
        { w with cursor := w.cursor.inside id node } =
      back (w.cursor.inside id node) (content ++ textFields fields)
        (visitAll visit (visitsFields (w.cursor.inside id node) fields) w) := by
  rw [← back_visitAll _ (w.cursor.inside id node) _ _ w rfl]
  exact fields_plain hv (w := { w with cursor := w.cursor.inside id node }) content hplain hfuel
    hwhole (fun s hs => (hpart s hs).1) (fieldOf?_refs_of_keyed hkeyed)

/-- A record that is no node is walked by its fields. -/
theorem record_plain (hv : Careful whole visit) (hpart : whole.Part (.record id fields))
    (hplain : ∀ f ∈ fields, Plain whole visit f.2) (hkeyed : (Layout.record id fields).tree.Keyed)
    (hnode : (Layout.record id fields).isNode = false) :
    Plain whole visit (.record id fields) := by
  refine ⟨hpart, fun {allowance w} hfuel hwhole => ?_⟩
  obtain ⟨allowance, rfl, hfuel₁⟩ := allowance_record hfuel
  have hholds := hpart _ hwhole
  have hn := (isNode_of_holds hholds).trans hnode
  have hfields := inside_plain hv hpart hplain hkeyed hfuel₁ hwhole false ""
  rw [ref, value_record hholds.1 hn, keys_fieldRefs, visits, hnode, if_neg Bool.false_ne_true,
    List.append_nil, text, ownText_of_not_node hnode]
  cases hvisits : visitAll visit (visitsFields (w.cursor.inside id false) fields) w with
  | error fault w₁ =>
      rw [hvisits] at hfields
      exact bind_error hfields
  | ok a w₁ =>
      rw [hvisits] at hfields
      rw [bind_ok hfields, bind_ok (leave_apply rfl)]
      rfl

/-- A node is walked by its fields, and then it is visited. -/
theorem node_plain (hv : Careful whole visit) (hpart : whole.Part (.record id fields))
    (hplain : ∀ f ∈ fields, Plain whole visit f.2) (hkeyed : (Layout.record id fields).tree.Keyed)
    (hnode : (Layout.record id fields).isNode = true) :
    Plain whole visit (.record id fields) := by
  refine ⟨hpart, fun {allowance w} hfuel hwhole => ?_⟩
  obtain ⟨allowance, rfl, hfuel₁⟩ := allowance_record hfuel
  have hholds := hpart _ hwhole
  have hn := (isNode_of_holds hholds).trans hnode
  have hstart : (w.store.leafText? (.object id)).getD "" = ownText fields :=
    congrArg (Option.getD · "") (leafText?_of_holds hholds)
  have hfields := inside_plain hv hpart hplain hkeyed hfuel₁ hwhole true (ownText fields)
  rw [ref, value_node hholds.1 hn, keys_fieldRefs, hstart, visits, hnode, if_pos rfl,
    visitAll_append, text]
  cases hvisits : visitAll visit (visitsFields (w.cursor.inside id true) fields) w with
  | error fault w₁ =>
      rw [hvisits] at hfields
      rw [bind_error hfields, bind_error hvisits]
      rfl
  | ok a w₁ =>
      rw [hvisits] at hfields
      rw [bind_ok hfields, bind_ok (leaveNode_apply rfl rfl), bind_ok hvisits, visitAll_cons]
      show (visit id _ >>= fun _ => pure _) { w₁ with cursor := w.cursor.facing id } = _
      cases hvisit : visit id (ownText fields ++ textFields fields)
          { w₁ with cursor := w.cursor.facing id } with
      | error fault w₂ =>
          rw [bind_error hvisit, bind_error hvisit]
          rfl
      | ok a w₂ =>
          have hall : ∀ v ∈ visitsFields (w.cursor.inside id true) fields,
              whole.HasNode v.node := fun v hmem => by
            obtain ⟨f, hf, -, hmem⟩ := mem_visitsFields hmem
            exact (hplain f hf).part.hasNode hmem
          have hwhole₁ : whole.Holds w₁.store := hv.visitAll_holds hall hwhole hvisits
          have hself : whole.HasNode id := fun s hs => (isNode_of_holds (hpart s hs)).trans hnode
          have hcursor : w₂.cursor = w.cursor.facing id :=
            (hv id _ { w₁ with cursor := w.cursor.facing id } w₂ hself hwhole₁ hvisit).2
          rw [bind_ok hvisit, bind_ok hvisit]
          obtain ⟨store, cursor, data⟩ := w₂
          subst hcursor
          rfl

end

/-- **The walk of a layout** is its visits. -/
theorem value_plain (hv : Careful whole visit) {x : Layout} (hkeyed : x.tree.Keyed)
    (hpart : whole.Part x) : Plain whole visit x := by
  induction x using Layout.induct with
  | scalar value => exact ⟨hpart, fun _ _ => value_scalar _ _ _⟩
  | list id items ih =>
      refine list_plain hv hpart fun x hx => ?_
      exact ih x hx (keyedItems_iff.mp hkeyed x hx) (hpart.items x hx)
  | record id fields ih =>
      have hplain : ∀ f ∈ fields, Plain whole visit f.2 := fun f hf =>
        ih f hf (keyedFields_iff.mp hkeyed.2 f hf) (hpart.fields f hf)
      cases hnode : (Layout.record id fields).isNode with
      | false => exact record_plain hv hpart hplain hkeyed hnode
      | true => exact node_plain hv hpart hplain hkeyed hnode

/-- **Walks that change nothing.** The walk of a document is its visits, one after the
other, up to the cursor that is left. -/
theorem document_careful {s : Store} {x : Layout} (hv : Careful x visit) (data : σ)
    (hlays : s.Lays x) : document visit x.ref ⟨s, .fresh, data⟩ =
      back .fresh x.text (visitAll visit (x.visits .fresh) ⟨s, .fresh, data⟩) := by
  rw [document_apply]
  exact (value_plain hv hlays.keyed fun _ hs => hs).walk (extent_lt_allowance hlays) hlays.holds

/-- The same for a visitor that leaves all other documents alone, too. -/
theorem document_plain (hv : Steady visit) {s : Store} {x : Layout} (data : σ)
    (hlays : s.Lays x) : document visit x.ref ⟨s, .fresh, data⟩ =
      back .fresh x.text (visitAll visit (x.visits .fresh) ⟨s, .fresh, data⟩) :=
  document_careful (hv.careful x) data hlays

/-- The same for `walk`, where the visits do not fail and where one does. -/
theorem walk_careful {s : Store} {x : Layout} (hv : Careful x visit) (data : σ)
    (hlays : s.Lays x) :
    (∀ w, visitAll visit (x.visits .fresh) ⟨s, .fresh, data⟩ = .ok () w →
      walk visit s x.ref data =
        (.ok x.text, { w with cursor := { Cursor.fresh with current := w.cursor.current } })) ∧
    (∀ fault w, visitAll visit (x.visits .fresh) ⟨s, .fresh, data⟩ = .error fault w →
      walk visit s x.ref data = (.error fault, w)) := by
  have hdocument := document_careful hv data hlays
  refine ⟨?_, fun fault w h => ?_⟩
  · intro w h
    rw [h] at hdocument
    exact walk_ok hdocument
  · rw [h] at hdocument
    exact walk_error hdocument

/-- A walk that leaves the store alone and does not fail says the text. -/
theorem walk_plain (hv : Steady visit) {s : Store} {x : Layout} (data : σ) (hlays : s.Lays x)
    {w : Scene σ} (h : visitAll visit (x.visits .fresh) ⟨s, .fresh, data⟩ = .ok () w) :
    ∃ c, walk visit s x.ref data = (.ok x.text, { w with cursor := c }) :=
  ⟨_, (walk_careful (hv.careful x) data hlays).1 w h⟩

/-! ### Walks that take notes -/

/-- A visitor that changes what it keeps and nothing else is steady. -/
theorem steady_of_eq {note : Nat → String → Scene σ → σ}
    (h : ∀ node content w, visit node content w = .ok () { w with data := note node content w }) :
    Steady visit := by
  intro node content w w' hvisit
  rw [h] at hvisit
  obtain rfl := (EStateM.Result.ok.inj hvisit).2
  exact ⟨rfl, rfl⟩

section

variable {note : Visit → σ → σ} {s : Store}

/-- Visits that never fail and only change what is kept. -/
theorem visitAll_noted {vs : List Visit} (c : Cursor) (data : σ)
    (h : ∀ v ∈ vs, ∀ data, visit v.node v.content ⟨s, v.cursor, data⟩ =
      .ok () ⟨s, v.cursor, note v data⟩) :
    ∃ c', visitAll visit vs ⟨s, c, data⟩ =
      .ok () ⟨s, c', vs.foldl (fun data v => note v data) data⟩ := by
  induction vs generalizing c data with
  | nil => exact ⟨c, rfl⟩
  | cons v rest ih =>
      obtain ⟨hvisit, hrest⟩ := List.forall_mem_cons.mp h
      obtain ⟨c', hall⟩ := ih v.cursor (note v data) hrest
      exact ⟨c', (visitAll_cons v rest _).trans ((bind_ok (hvisit data)).trans hall)⟩

/-- A walk of such visits. -/
theorem walk_noted {x : Layout} (hv : Steady visit) (hlays : s.Lays x) (data : σ)
    (h : ∀ v ∈ x.visits .fresh, ∀ data, visit v.node v.content ⟨s, v.cursor, data⟩ =
      .ok () ⟨s, v.cursor, note v data⟩) :
    ∃ c, walk visit s x.ref data =
      (.ok x.text, ⟨s, c, (x.visits .fresh).foldl (fun data v => note v data) data⟩) := by
  obtain ⟨_, hall⟩ := visitAll_noted .fresh data h
  exact walk_plain hv data hlays hall

end

/-- Notes for every node what `note` says of the document and the cursor there. -/
def collecting {α : Type} (note : Store → Cursor → α) : Visitor (List (Nat × α)) :=
  fun node _ => do
    let scene ← get
    modifyData (· ++ [(node, note scene.store scene.cursor)])

variable {α : Type} (note : Store → Cursor → α)

theorem steady_collecting : Steady (collecting note) := steady_of_eq fun _ _ _ => rfl

theorem visitAll_collecting (vs : List Visit) (w : Scene (List (Nat × α))) :
    ∃ c, visitAll (collecting note) vs w =
      .ok () ⟨w.store, c, w.data ++ vs.map fun v => (v.node, note w.store v.cursor)⟩ := by
  induction vs generalizing w with
  | nil => exact ⟨w.cursor, by rw [List.map_nil, List.append_nil]; rfl⟩
  | cons v rest ih =>
      obtain ⟨c, hrest⟩ := ih ⟨w.store, v.cursor, w.data ++ [(v.node, note w.store v.cursor)]⟩
      refine ⟨c, Eq.trans hrest ?_⟩
      rw [List.append_assoc]
      rfl

/-- A walk that takes notes has one for every visit. -/
theorem walk_collecting {s : Store} {x : Layout} (hlays : s.Lays x) :
    ∃ c, walk (collecting note) s x.ref [] =
      (.ok x.text, ⟨s, c, (x.visits .fresh).map fun v => (v.node, note s v.cursor)⟩) := by
  obtain ⟨_, hall⟩ := visitAll_collecting note (x.visits .fresh) ⟨s, .fresh, []⟩
  exact walk_plain (steady_collecting note) [] hlays hall

end Walk

end DocLint
