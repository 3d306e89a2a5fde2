import DocLint.Proofs.Rule.Stateless
import DocLint.Proofs.Selector.Total

/-!
# DocLint.Proofs.Rule.Consistent

**Consistent rules** answer the same wherever the document is held. A store has more in it
than the document, and callbacks may add to it; the callback of such a rule goes by the
document alone, and leaves it as it is (`Callback.Consistent`).

What a selector matches is part of the document and hangs on nothing else
(`Selector.find?_elsewhere`), so the answer of a rule in one store that holds the document
is its answer in all of them (`Rule.Consistent.tells`). Between two questions other rules may
have been asked; that makes no difference then. The built-in rules are consistent, as they
look at no more than fields of what is matched and the lists that stand in them
(`consistent_rules`).
-/

namespace DocLint

/-- The values stand in the document. -/
def Layout.Has (x : Layout) (refs : List Ref) : Prop :=
  ∀ ref ∈ refs, ∃ p : Spot, p.In x ∧ p.here.ref = ref

/-- Everywhere in the document, what is found in one way is found in the other, and is part
of the document. -/
def Layout.Transfers (x : Layout) (find find' : Cursor → Except Fault (Option Matched)) : Prop :=
  ∀ (p : Spot) (r : Option Matched), p.In x → find p.cursor = .ok r →
    find' p.cursor = .ok r ∧ ∀ refs ∈ r, x.Has refs

/-! ### Matching -/

namespace Selector

variable {s t : Store} {x : Layout} {p : Spot} {r : Option Matched}

theorem has_singleton (hp : p.In x) : ∀ refs ∈ some [p.here.ref], x.Has refs := by
  intro refs hrefs ref href
  obtain rfl := Option.some.inj hrefs
  exact ⟨p, hp, (List.mem_singleton.mp href).symm⟩

/-- A search among spots goes by what is found at the spots. -/
theorem firstMatch_elsewhere {find find' : Cursor → Except Fault (Option Matched)}
    (hfind : x.Transfers find find') {qs : List Spot} (hqs : ∀ q ∈ qs, q.In x)
    (h : firstMatch find (qs.map fun q => .ok q.cursor) = .ok r) :
    firstMatch find' (qs.map fun q => .ok q.cursor) = .ok r ∧ ∀ refs ∈ r, x.Has refs := by
  induction qs with
  | nil =>
      obtain rfl : none = r := Except.ok.inj h
      exact ⟨rfl, by simp⟩
  | cons q rest ih =>
      obtain ⟨hq, hrest⟩ := List.forall_mem_cons.mp hqs
      rw [List.map_cons] at h ⊢
      cases hfound : find q.cursor with
      | error fault =>
          rw [firstMatch_error hfound] at h
          contradiction
      | ok found =>
          obtain ⟨hsame, hhas⟩ := hfind q found hq hfound
          cases found with
          | none =>
              rw [firstMatch_next hfound] at h
              rw [firstMatch_next hsame]
              exact ih hrest h
          | some refs =>
              rw [firstMatch_found hfound] at h
              obtain rfl : some refs = r := Except.ok.inj h
              exact ⟨firstMatch_found hsame, hhas⟩

theorem find?_type_elsewhere (hs : s.Lays x) (ht : t.Lays x) (name : String) :
    x.Transfers ((type name).find? s) ((type name).find? t) := by
  intro p r hp h
  rcases find?_type hs hp name with ⟨htyped, hfind⟩ | ⟨-, fault, hfind⟩
  · obtain rfl := Except.ok.inj (hfind.symm.trans h)
    obtain ⟨-, hsame⟩ | ⟨huntyped, -⟩ := find?_type ht hp name
    · refine ⟨hsame, ?_⟩
      split
      · exact has_singleton hp
      · simp
    · exact absurd htyped huntyped
  · rw [hfind] at h
    contradiction

/-- Both sides of a combinator are matched in the document. -/
theorem find?_comb_elsewhere (hs : s.Lays x) (ht : t.Lays x) {kind : Combinator}
    {left right : Selector} (hleft : x.Transfers (left.find? s) (left.find? t))
    (hright : x.Transfers (right.find? s) (right.find? t)) :
    x.Transfers ((comb kind left right).find? s) ((comb kind left right).find? t) := by
  intro p r hp h
  rw [find?] at h
  obtain ⟨found, hinner, h⟩ := except_bind_eq_ok h
  obtain ⟨hsame, hhas⟩ := hright p found hp hinner
  cases found with
  | none =>
      obtain rfl : none = r := Except.ok.inj h
      refine ⟨?_, by simp⟩
      rw [find?, hsame]
      rfl
  | some inner =>
      obtain ⟨outer, houter, h⟩ := except_bind_eq_ok h
      obtain rfl : outer.map (· ++ inner) = r := Except.ok.inj h
      -- An unknown combinator has no candidate that can be tried.
      have hknown : kind.IsKnown := by
        rintro name rfl
        contradiction
      rw [Combinator.candidates_cursor hs hp hknown] at houter
      obtain ⟨hsame', hhas'⟩ := firstMatch_elsewhere hleft
        (fun q hq => ((Combinator.mem_spots hp kind).mp hq).spot_in hp) houter
      rw [← Combinator.candidates_cursor ht hp hknown] at hsame'
      refine ⟨find?_comb hsame hsame', ?_⟩
      intro refs hrefs ref href
      obtain ⟨outer, rfl, rfl⟩ := Option.map_eq_some_iff.mp hrefs
      rcases List.mem_append.mp href with href | href
      · exact hhas' outer rfl ref href
      · exact hhas inner rfl ref href

mutual
/-- **What a selector matches** is part of the document, and the same wherever the document
is held. -/
theorem find?_elsewhere (hs : s.Lays x) (ht : t.Lays x) : ∀ sel : Selector,
    x.Transfers (sel.find? s) (sel.find? t)
  | .any => by
      intro p r hp h
      obtain rfl := Except.ok.inj h
      exact ⟨rfl, has_singleton hp⟩
  | .type name => find?_type_elsewhere hs ht name
  | .comb _ left right =>
      find?_comb_elsewhere hs ht (find?_elsewhere hs ht left) (find?_elsewhere hs ht right)
  | .filtered inner _ => by
      intro p r hp h
      rw [find?] at h ⊢
      exact find?_elsewhere hs ht inner p r hp h
  | .list alternatives => by
      intro p r hp h
      rw [find?] at h ⊢
      exact findFirst?_elsewhere hs ht alternatives p r hp h
  | .foreign value => by
      intro p r hp h
      rw [find?] at h
      contradiction

theorem findFirst?_elsewhere (hs : s.Lays x) (ht : t.Lays x) : ∀ alternatives : List Selector,
    x.Transfers (findFirst? s alternatives) (findFirst? t alternatives)
  | [] => by
      intro p r hp h
      obtain rfl := Except.ok.inj h
      exact ⟨rfl, by simp⟩
  | sel :: rest => by
      intro p r hp h
      rw [findFirst?] at h ⊢
      obtain ⟨found, hfound, h⟩ := except_bind_eq_ok h
      obtain ⟨hsame, hhas⟩ := find?_elsewhere hs ht sel p found hp hfound
      rw [hsame]
      cases found with
      | none => exact findFirst?_elsewhere hs ht rest p r hp h
      | some refs =>
          obtain rfl : some refs = r := Except.ok.inj h
          exact ⟨rfl, hhas⟩
end

end Selector

open Callback

/-! ### Rules -/

/-- The callback leaves the document, and about the same values of the document and the same
place it comes to the same wherever the document is held. -/
structure Callback.Consistent (x : Layout) (callback : Callback) : Prop where
  spares : ∀ nodes found, Callback.Spares x.Holds (callback nodes found) fun _ => True
  same : ∀ nodes found, x.Has nodes → ∀ s t, x.Holds s → x.Holds t →
    quietly (callback nodes found) s = quietly (callback nodes found) t

namespace Rule

variable {r : Rule} {s t : Store} {x : Layout} {v : Visit}

/-- A rule with a message is consistent, and one with a consistent callback. -/
def Consistent (x : Layout) (r : Rule) : Prop :=
  ∀ callback, r.action = .ask callback → callback.Consistent x

/-- Wherever the document is held, this is what the rule finds at the visit, and it leaves
the document. -/
def Tells (x : Layout) (r : Rule) (v : Visit) (found : Option Finding) : Prop :=
  ∀ s, x.Holds s → ∃ t emitted,
    ComesTo (r.check v.cursor v.content) s (.ok found) t emitted ∧ x.Holds t

/-- The alternative that a rule goes by is the same wherever the document is held. -/
theorem target?_elsewhere (hs : s.Lays x) (ht : t.Lays x) {p : Spot} (hp : p.In x)
    {content : String} {alternatives : List (Selector × Option Pattern)}
    {target : Option (Matched × TextMatch)}
    (h : target? s p.cursor content alternatives = .ok target) :
    target? t p.cursor content alternatives = .ok target ∧ ∀ m ∈ target, x.Has m.1 := by
  induction alternatives with
  | nil =>
      obtain rfl : none = target := Except.ok.inj h
      exact ⟨rfl, by simp⟩
  | cons alternative rest ih =>
      obtain ⟨sel, pattern⟩ := alternative
      rw [target?] at h ⊢
      obtain ⟨nodes, hnodes, h⟩ := except_bind_eq_ok h
      obtain ⟨hsame, hhas⟩ := Selector.find?_elsewhere hs ht sel p nodes hp hnodes
      rw [hsame]
      cases nodes with
      | none => exact ih h
      | some nodes =>
          simp only [bind, Except.bind]
          dsimp only at h
          cases hsearch : Pattern.search? pattern content with
          | none =>
              rw [hsearch] at h
              exact ih h
          | some found =>
              rw [hsearch] at h
              obtain rfl : some (nodes, found) = target := Except.ok.inj h
              exact ⟨rfl, by simpa using hhas nodes rfl⟩

/-- What a rule answers is what its action answers about what is matched. -/
theorem asked_eq (r : Rule) (s : Store) (c : Cursor) (content : String) :
    r.asked s c content = (do
      match ← target? s c content r.alternatives with
      | none => return none
      | some (nodes, found) =>
        (← quietly (Action.answer nodes found r.action) s).finding? r.name content.length) := by
  have hcheck : r.asked s c content =
      quietly (liftM (target? s c content r.alternatives) >>= r.react content) s := rfl
  rw [hcheck]
  cases target? s c content r.alternatives with
  | error fault => rfl
  | ok target =>
      cases target with
      | none => rfl
      | some target => exact quietly_bind_lift _ _ s

theorem Consistent.check (hr : r.Consistent x) (c : Cursor) (content : String) :
    Callback.Spares x.Holds (r.check c content) fun _ => True := by
  refine spares_check (P := fun _ => True) (fun nodes found => ?_) trivial
    (fun _ _ _ _ => trivial) c
  cases haction : r.action with
  | message text => exact spares_pure trivial
  | ask callback => exact (hr callback haction).spares nodes found

theorem Consistent.same_answer (hr : r.Consistent x) {nodes : Matched} (hnodes : x.Has nodes)
    (found : TextMatch) (hs : x.Holds s) (ht : x.Holds t) :
    quietly (Action.answer nodes found r.action) s =
      quietly (Action.answer nodes found r.action) t := by
  cases haction : r.action with
  | message text => rfl
  | ask callback => exact (hr callback haction).same nodes found hnodes s t hs ht

/-- What a consistent rule finds in one store, it finds in all that hold the document. -/
theorem Consistent.tells (hr : r.Consistent x) (hs : s.Lays x) (hv : v ∈ x.visits .fresh)
    {found : Option Finding} (h : r.asked s v.cursor v.content = .ok found) :
    r.Tells x v found := by
  intro t ht
  have hsame : r.asked t v.cursor v.content = .ok found := by
    obtain ⟨p, hp, -, -, -, hcursor⟩ := Spot.visits_document hs.keyed hv
    rw [asked_eq, ← hcursor] at h ⊢
    obtain ⟨target, htarget, h⟩ := except_bind_eq_ok h
    obtain ⟨htarget', hhas⟩ := target?_elsewhere hs ⟨ht, hs.unshared, hs.keyed⟩ hp htarget
    rw [htarget']
    cases target with
    | none => exact h
    | some target =>
        obtain ⟨nodes, place⟩ := target
        dsimp only at h
        rw [hr.same_answer (hhas _ rfl) place hs.holds ht] at h
        exact h
  obtain ⟨result, u, emitted, hrun, hu, -⟩ := hr.check v.cursor v.content t ht
  obtain rfl : result = .ok found := (quietly_eq (hrun none)).symm.trans hsame
  exact ⟨u, emitted, hrun, hu⟩

end Rule

/-! ### The built-in rules -/

/-- Wherever the document is held, the value stands for the same layout. -/
def Layout.Carries (x : Layout) (ref : Ref) : Prop :=
  ∃ y : Layout, y.ref = ref ∧ ∀ s, x.Holds s → y.Holds s

namespace Layout

variable {s t : Store} {x : Layout} {ref : Ref}

theorem carries_scalar (x : Layout) (value : Scalar) : x.Carries (.scalar value) :=
  ⟨.scalar value, rfl, fun _ _ => trivial⟩

/-- The items of a list are seen wherever the document is held. -/
theorem Carries.items (h : x.Carries ref) (hs : x.Holds s) (ht : x.Holds t) :
    s.items? ref = t.items? ref ∧ ∀ items ∈ s.items? ref, ∀ item ∈ items, x.Carries item := by
  obtain ⟨y, rfl, hy⟩ := h
  cases y with
  | scalar value => simp [Store.items?, Layout.ref]
  | record id fields => simp [Store.items?, Layout.ref, (hy s hs).1, (hy t ht).1]
  | list id items =>
      have hitems {u : Store} (hu : x.Holds u) :
          u.items? (Layout.list id items).ref = some (items.map Layout.ref) := by
        simp [Store.items?, Layout.ref, (hy u hu).1]
      refine ⟨(hitems hs).trans (hitems ht).symm, ?_⟩
      rw [hitems hs]
      intro refs hrefs item hitem
      obtain rfl := Option.some.inj hrefs
      obtain ⟨z, hz, rfl⟩ := List.mem_map.mp hitem
      exact ⟨z, rfl, fun u hu => holdsItems_iff.mp (hy u hu).2 z hz⟩

end Layout

/-- The callback of the rule comes to the same wherever the document is held. -/
def Rule.Steady (x : Layout) (r : Rule) : Prop :=
  ∀ callback, r.action = .ask callback → ∀ nodes found, x.Has nodes → ∀ s t, x.Holds s →
    x.Holds t → quietly (callback nodes found) s = quietly (callback nodes found) t

namespace Catalogue

variable {s t : Store} {x : Layout} {nodes : Matched}

/-- What a callback finds in a field of the matched nodes. -/
def fieldIn (s : Store) (nodes : Matched) (index : Nat) (key : String) : Ref :=
  (nodes[index]?.bind (s.field? · key)).getD .null

theorem quietly_get {α : Type} (f : Session → M α) (s : Store) :
    quietly (get >>= f) s = quietly (f ⟨s, none⟩) s :=
  rfl

theorem quietly_field {α : Type} (nodes : Matched) (index : Nat) (key : String) (f : Ref → M α)
    (s : Store) :
    quietly (field nodes index key >>= f) s = quietly (f (fieldIn s nodes index key)) s :=
  rfl

theorem fieldIn_elsewhere (hnodes : x.Has nodes) (hs : x.Holds s) (ht : x.Holds t) (index : Nat)
    (key : String) : fieldIn s nodes index key = fieldIn t nodes index key ∧
      x.Carries (fieldIn s nodes index key) := by
  unfold fieldIn
  cases hnode : nodes[index]? with
  | none => exact ⟨rfl, x.carries_scalar .null⟩
  | some ref =>
      obtain ⟨⟨y, around⟩, hp, rfl⟩ := hnodes ref (List.mem_of_getElem? hnode)
      have hy {u : Store} (hu : x.Holds u) : y.Holds u := Layout.Around.holds hp hu
      cases y with
      | scalar value => exact ⟨rfl, x.carries_scalar .null⟩
      | list id items =>
          have hnone {u : Store} (hu : x.Holds u) : u.field? (.object id) key = none := by
            simp [Store.field?, Store.fields?, (hy hu).1]
          simp only [Layout.ref, Option.bind_some, hnone hs, hnone ht, true_and]
          exact x.carries_scalar .null
      | record id fields =>
          simp only [Layout.ref, Option.bind_some, Layout.field?_record (hy hs).1,
            Layout.field?_record (hy ht).1, true_and]
          cases hfield : fieldOf? fields key with
          | none => exact x.carries_scalar .null
          | some z =>
              have hmem := Layout.mem_of_fieldOf? hfield
              exact ⟨z, rfl, fun u hu => Layout.holdsFields_iff.mp (hy hu).2 _ hmem⟩

/-- A callback that only reads a field, and then answers by what it finds. -/
theorem same_field {index : Nat} {key : String} {f : Ref → M Answer} (hnodes : x.Has nodes)
    (hs : x.Holds s) (ht : x.Holds t)
    (h : ∀ r, x.Carries r → quietly (f r) s = quietly (f r) t) :
    quietly (field nodes index key >>= f) s = quietly (field nodes index key >>= f) t := by
  obtain ⟨hsame, hshown⟩ := fieldIn_elsewhere hnodes hs ht index key
  rw [quietly_field, quietly_field, ← hsame]
  exact h _ hshown

section

variable {name : String} {selector : Selector} {pattern : Option Regex}

theorem steady_message {text : String} : (rule name selector (.message text) pattern).Steady x := by
  intro callback haction
  contradiction

theorem steady_ask {callback : Callback}
    (h : ∀ nodes found, x.Has nodes → ∀ s t, x.Holds s → x.Holds t →
      quietly (callback nodes found) s = quietly (callback nodes found) t) :
    (rule name selector (.ask callback) pattern).Steady x := by
  intro other haction
  obtain rfl := Action.ask.inj haction
  exact h

end

theorem steady_longParagraph (config : Config) : (longParagraph config).Steady x := by
  refine steady_ask ?_
  intro _ _ _ s t _ _
  dsimp only
  split <;> rfl

theorem steady_linkClickHere (config : Config) : (linkClickHere config).Steady x := by
  refine steady_ask ?_
  intro _ _ _ s t _ _
  dsimp only
  split <;> rfl

theorem steady_imageAltText (config : Config) : (imageAltText config).Steady x := by
  refine steady_ask ?_
  intro _ _ hnodes s t hs ht
  refine same_field hnodes hs ht ?_
  intro _ _
  split
  · rfl
  · split <;> rfl

theorem steady_absoluteUrl (config : Config) : (absoluteUrl config).Steady x := by
  refine steady_ask ?_
  intro _ _ hnodes s t hs ht
  refine same_field hnodes hs ht ?_
  intro _ _
  split
  · rfl
  · split <;> rfl

theorem steady_mathEmpty : mathEmpty.Steady x := by
  refine steady_ask ?_
  intro _ _ hnodes s t hs ht
  refine same_field hnodes hs ht ?_
  intro _ _
  split <;> rfl

theorem steady_headingLevel (config : Config) : (headingLevel config).Steady x := by
  refine steady_ask ?_
  intro _ _ hnodes s t hs ht
  refine same_field hnodes hs ht ?_
  intro _ _
  split
  · rfl
  · split
    · cases tooHigh config.minHeadingLevel.value _ <;> rfl
    · rfl

theorem steady_headingLevelSkip : headingLevelSkip.Steady x := by
  refine steady_ask ?_
  intro _ _ hnodes s t hs ht
  refine same_field hnodes hs ht fun previous _ => same_field hnodes hs ht fun current _ => ?_
  split
  · split
    · cases tooLow previous current <;> rfl
    · rfl
  · rfl

/-- It looks into two lists and into the rows of one of them. -/
theorem steady_tableMissingCells : tableMissingCells.Steady x := by
  refine steady_ask ?_
  intro _ _ hnodes s t hs ht
  refine same_field hnodes hs ht fun header hheader => same_field hnodes hs ht fun cells hcells => ?_
  obtain ⟨hcolumns, -⟩ := hheader.items hs ht
  obtain ⟨hrows, hshown⟩ := hcells.items hs ht
  rw [quietly_get, quietly_get]
  dsimp only
  rw [← hcolumns, ← hrows]
  cases s.items? header with
  | none => rfl
  | some columns =>
      cases hfound : s.items? cells with
      | none => rfl
      | some rows =>
          have hfits : (rows.all fun row => (s.items? row).any (·.length == columns.length)) =
              rows.all fun row => (t.items? row).any (·.length == columns.length) := by
            rw [Bool.eq_iff_iff, List.all_eq_true, List.all_eq_true]
            refine forall₂_congr fun row hrow => ?_
            rw [((hshown rows hfound row hrow).items hs ht).1]
          dsimp only
          rw [hfits]
          split <;> rfl

/-- **The built-in rules** are consistent. -/
theorem consistent_rules (config : Config) (x : Layout) : ∀ r ∈ rules config, r.Consistent x := by
  have hsteady : ∀ r ∈ rules config, r.Steady x := by
    simp only [rules, List.forall_mem_cons]
    exact ⟨steady_longParagraph config, steady_headingLevel config, steady_headingLevelSkip,
      steady_message, steady_message, steady_imageAltText config, steady_linkClickHere config,
      steady_absoluteUrl config, steady_tableMissingCells, steady_message, steady_message,
      steady_message, steady_message, steady_mathEmpty, steady_message, by simp⟩
  intro r hr callback haction
  refine ⟨?_, hsteady r hr callback haction⟩
  intro nodes found s hs
  obtain ⟨result, t, emitted, hrun, ht, -⟩ :=
    spares_rules config x.Holds r hr callback haction nodes found s hs
  exact ⟨result, t, emitted, hrun, ht, fun _ _ => trivial⟩

end Catalogue

end DocLint
