import DocLint.Proofs.Lint.Unwrap
import DocLint.Proofs.Rule.FirstMatch
import DocLint.Proofs.Selector.Match

/-!
# DocLint.Proofs.Lint.Occurrences

**Rules for phrases mark the first place of each phrase** in every text of a document
(`run_occurrences`), if all nodes of the type `text` are texts in lists and nothing more.
What is expected is said of the tree alone: a finding for each text and each phrase that
occurs in it (`Tree.texts`, `occurrences`), and in the place of a text with findings the part
from the first start to the last stop in a lint node, between what is left of the text
(`Tree.marked`).

A run is already known to leave the pure rebuild of the document, with the remarks that the
rules answer (`run_rebuilt`). So three things remain. The rules answer the occurrences at a
text and nothing at another node (`answers_said`), which decides the remarks about each part of
the document (`remarks_eq_said`). The part of a text that these are about starts with the first
occurrence and stops with the last one (`span_remarks`). The rebuild with them is then the marked
tree (`rebuilt_eq_marked`), and the visits have the findings of the texts (`findings_eq_texts`).
-/

namespace DocLint

/-- A phrase to look for, with the name and the message of its rule. It is not empty, and it
does not begin like an expression. -/
structure Phrase where
  name : Tree
  text : String
  message : String
  nonempty : text ≠ ""
  unslashed : text.toList.head? ≠ some '/'

/-- The first place of a phrase in a text. -/
structure Occurrence where
  phrase : Phrase
  start : Nat

namespace Occurrence

/-- Where the phrase stops. -/
def stop (o : Occurrence) : Nat := o.start + o.phrase.text.length

/-- What is said about the place. -/
def remark (o : Occurrence) : Remark := ⟨o.phrase.name, o.phrase.message, o.start, o.stop⟩

end Occurrence

namespace Phrase

/-- Make the rule for a phrase, without a selector. -/
def make [CharacterNames] (p : Phrase) : Except Fault Rule :=
  Rule.make p.name (.foreign .null) (.str p.text) (.value (.str p.message))

/-- The rule for a phrase. -/
def rule (p : Phrase) : Rule :=
  ⟨p.name, Rule.defaultSelector, some (.fixed p.text), .message p.message⟩

/-- The first place in a text, if there is one. -/
def occurrence? (p : Phrase) (text : String) : Option Occurrence :=
  (Text.find? p.text text).map (⟨p, ·⟩)

end Phrase

/-- The phrases that occur in a text, in their order, each with its first place. -/
def occurrences (phrases : List Phrase) (text : String) : List Occurrence :=
  phrases.filterMap (·.occurrence? text)

/-- What is reported of a text, in the order of the phrases. -/
def findingsIn (phrases : List Phrase) (text : String) : List Finding :=
  (occurrences phrases text).map (·.remark.finding)

namespace Highlight

/-- Where the first of several occurrences starts. -/
def firstStart (found : List Occurrence) : Nat := (found.map (·.start)).min?.getD 0

/-- Where the last of several occurrences stops. -/
def lastStop (found : List Occurrence) : Nat := (found.map (·.stop)).max?.getD 0

/-- What a text leaf becomes: the part with the occurrences stands in a lint node, between the
text before and the text behind it. The leaf is wrapped as it is, if that part is all of it. -/
def markedText (found : List Occurrence) (inside : Bool) (leaf : Tree) (text : String) :
    List Tree :=
  let first := firstStart found
  let last := lastStop found
  if found = [] then [leaf]
  else
    (if 0 < first then [textLeaf (cut text 0 first)] else []) ++
      [lintTree [if first = 0 ∧ last = text.length then leaf else textLeaf (cut text first last)]
        (found.map (·.remark)) inside] ++
      if last < text.length then [textLeaf (cut text last text.length)] else []

end Highlight

open Highlight

namespace Tree

mutual
/-- The texts of the leaves that a walk comes to, in the order of the walk. -/
def texts : Tree → List String
  | .scalar _ => []
  | .list items => textsItems items
  | .record fields => textsFields fields ++ (Tree.record fields).leafText?.toList

/-- The texts in the items of a list. -/
def textsItems : List Tree → List String
  | [] => []
  | t :: rest => t.texts ++ textsItems rest

/-- The texts in the fields of a record; there are none in the type. -/
def textsFields : List (String × Tree) → List String
  | [] => []
  | (key, t) :: rest => (if key = "type" then [] else t.texts) ++ textsFields rest
end

mutual
/-- The tree with the occurrences of phrases marked in the texts of its lists. `inside` says
whether a table is around it. -/
def marked (phrases : List Phrase) (inside : Bool) : Tree → Tree
  | .scalar value => .scalar value
  | .list items => .list (markedItems phrases inside items)
  | .record fields =>
    .record (markedFields phrases (inside || (Tree.record fields).nodeType? == some "table") fields)

/-- The items of a list, with the texts among them and inside them marked. -/
def markedItems (phrases : List Phrase) (inside : Bool) : List Tree → List Tree
  | [] => []
  | t :: rest =>
    (match t.leafText? with
      | some text => markedText (occurrences phrases text) inside t text
      | none => [t.marked phrases inside]) ++ markedItems phrases inside rest

/-- The fields of a record, with the texts inside them marked; the type stays. -/
def markedFields (phrases : List Phrase) (inside : Bool) :
    List (String × Tree) → List (String × Tree)
  | [] => []
  | (key, t) :: rest =>
    (key, if key = "type" then t else t.marked phrases inside) :: markedFields phrases inside rest
end

mutual
/-- Every node of the type `text` has text as its content. -/
def Worded : Tree → Prop
  | .scalar _ => True
  | .list items => WordedItems items
  | .record fields =>
    ((Tree.record fields).nodeType? = some "text" → (Tree.record fields).isTextLeaf = true) ∧
      WordedFields fields

/-- `Worded` for each item of a list. -/
def WordedItems : List Tree → Prop
  | [] => True
  | t :: rest => t.Worded ∧ WordedItems rest

/-- `Worded` for each field of a record. -/
def WordedFields : List (String × Tree) → Prop
  | [] => True
  | (_, t) :: rest => t.Worded ∧ WordedFields rest
end

end Tree

/-! ### The occurrences of phrases -/

/-- Phrases occur at their first places. -/
theorem mem_occurrences {phrases : List Phrase} {text : String} {o : Occurrence} :
    o ∈ occurrences phrases text ↔
      o.phrase ∈ phrases ∧ Text.FirstAt o.phrase.text text o.start := by
  obtain ⟨p, k⟩ := o
  rw [occurrences, List.mem_filterMap, ← Text.find?_eq_some_iff]
  constructor
  · rintro ⟨q, hq, hfound⟩
    obtain ⟨k, hfind, h⟩ := Option.map_eq_some_iff.mp hfound
    obtain ⟨rfl, rfl⟩ := Occurrence.mk.inj h
    exact ⟨hq, hfind⟩
  · rintro ⟨hp, hfind⟩
    exact ⟨p, hp, Option.map_eq_some_iff.mpr ⟨k, hfind, rfl⟩⟩

theorem occurrences_cons (p : Phrase) (phrases : List Phrase) (text : String) :
    occurrences (p :: phrases) text =
      (p.occurrence? text).toList ++ occurrences phrases text := by
  rw [occurrences, List.filterMap_cons, occurrences]
  cases p.occurrence? text <;> rfl

/-- An occurrence stops where the text does, or before. -/
theorem occurrences_within {phrases : List Phrase} {text : String} :
    ∀ o ∈ occurrences phrases text, o.stop ≤ text.length :=
  fun o ho => (mem_occurrences.mp ho).2.1.within o.phrase.nonempty

namespace Highlight

variable {found : List Occurrence} {size : Nat}

/-- The first start is the start of an occurrence, and none starts before it. -/
theorem firstStart_spec (h : found ≠ []) :
    (∃ o ∈ found, o.start = firstStart found) ∧ ∀ o ∈ found, firstStart found ≤ o.start := by
  cases hmin : (found.map (·.start)).min? with
  | none => exact absurd (List.map_eq_nil_iff.mp (List.min?_eq_none_iff.mp hmin)) h
  | some first =>
      obtain ⟨hfirst, hall⟩ := List.min?_eq_some_iff.mp hmin
      rw [firstStart, hmin]
      exact ⟨List.mem_map.mp hfirst, fun o ho => hall o.start (List.mem_map_of_mem ho)⟩

/-- The last stop is the stop of an occurrence, and none stops behind it. -/
theorem lastStop_spec (h : found ≠ []) :
    (∃ o ∈ found, o.stop = lastStop found) ∧ ∀ o ∈ found, o.stop ≤ lastStop found := by
  cases hmax : (found.map (·.stop)).max? with
  | none => exact absurd (List.map_eq_nil_iff.mp (List.max?_eq_none_iff.mp hmax)) h
  | some last =>
      obtain ⟨hlast, hall⟩ := List.max?_eq_some_iff.mp hmax
      rw [lastStop, hmax]
      exact ⟨List.mem_map.mp hlast, fun o ho => hall o.stop (List.mem_map_of_mem ho)⟩

/-- The remarks are about the part from the first start to the last stop. -/
theorem span_remarks (hsome : found ≠ []) (hsize : ∀ o ∈ found, o.stop ≤ size) :
    spanStart (found.map (·.remark)) size = firstStart found ∧
      spanStop (found.map (·.remark)) size = lastStop found ∧ lastStop found ≤ size := by
  obtain ⟨⟨o, ho, hfirst⟩, hstarts⟩ := firstStart_spec hsome
  obtain ⟨⟨o', ho', hlast⟩, hstops⟩ := lastStop_spec hsome
  have hmin : ((found.map (·.remark)).map (·.start)).min? = some (firstStart found : Int) := by
    refine List.min?_eq_some_iff.mpr ⟨?_, ?_⟩
    · rw [← hfirst]
      exact List.mem_map_of_mem (List.mem_map_of_mem ho)
    · intro i hi
      rw [List.map_map] at hi
      obtain ⟨other, hother, rfl⟩ := List.mem_map.mp hi
      exact Int.ofNat_le.mpr (hstarts other hother)
  have hmax : ((found.map (·.remark)).map (·.stop)).max? = some (lastStop found : Int) := by
    refine List.max?_eq_some_iff.mpr ⟨?_, ?_⟩
    · rw [← hlast]
      exact List.mem_map_of_mem (List.mem_map_of_mem ho')
    · intro i hi
      rw [List.map_map] at hi
      obtain ⟨other, hother, rfl⟩ := List.mem_map.mp hi
      exact Int.ofNat_le.mpr (hstops other hother)
  have hwithin : o.start ≤ o.stop := Nat.le_add_right _ _
  have horder := hstops o ho
  have hbound := hsize o' ho'
  have hspan : spanStart (found.map (·.remark)) size = firstStart found := by
    rw [spanStart, hmin, Option.getD_some]
    omega
  refine ⟨hspan, ?_, hlast ▸ hbound⟩
  rw [spanStop, hspan, hmax, Option.getD_some]
  omega

/-- A text leaf with the remarks of its occurrences is marked as expected. -/
theorem items_mark {text : String} (hsize : ∀ o ∈ found, o.stop ≤ text.length) (inside : Bool)
    (leaf : Tree) : (mark (found.map (·.remark)) true text inside leaf).items =
      markedText found inside leaf text := by
  rw [mark, markedText]
  by_cases hnone : found = []
  · rw [if_pos (List.map_eq_nil_iff.mpr hnone), if_pos hnone]
    rfl
  · obtain ⟨hstart, hstop, hlast⟩ := span_remarks hnone hsize
    have hpart : IsPartial (found.map (·.remark)) text.length ↔
        0 < firstStart found ∨ lastStop found < text.length := by
      rw [IsPartial, hstart, hstop]
      omega
    rw [if_neg (fun h => hnone (List.map_eq_nil_iff.mp h)), if_neg hnone]
    by_cases hcut : 0 < firstStart found ∨ lastStop found < text.length
    · have hsome : ¬ (firstStart found = 0 ∧ lastStop found = text.length) := by omega
      rw [if_pos ⟨rfl, hpart.mpr hcut⟩, if_neg hsome, Marked.items, splitTree, hstart, hstop]
      rfl
    · have hall : firstStart found = 0 ∧ lastStop found = text.length := by omega
      rw [if_neg (fun h => hcut (hpart.mp h.2)), if_pos hall, if_neg (fun h => hcut (.inl h)),
        if_neg (fun h => hcut (.inr h))]
      rfl

end Highlight

/-! ### Documents of texts -/

namespace Layout

/-- The store holds the layout, and its nodes of the type `text` are texts in lists and nothing
more. -/
structure Prose (s : Store) (x : Layout) : Prop where
  holds : x.Holds s
  keyed : x.tree.Keyed
  worded : x.tree.Worded
  tidy : x.tree.Tidy

/-- What is to be said about a layout: what occurs in it, if it is a text. -/
def said (phrases : List Phrase) (x : Layout) : List Remark :=
  if x.tree.isTextLeaf then (occurrences phrases x.text).map (·.remark) else []

variable {s : Store} {x y : Layout} {id : Nat} {items : List Layout}
  {fields : List (String × Layout)} {phrases : List Phrase}

theorem proseItems (hholds : HoldsItems s items) (hkeyed : Tree.KeyedItems (treeItems items))
    (hworded : Tree.WordedItems (treeItems items)) (htidy : Tree.TidyItems (treeItems items)) :
    ∀ x ∈ items, Prose s x := by
  induction items with
  | nil => exact List.forall_mem_nil _
  | cons x rest ih =>
      exact List.forall_mem_cons.mpr ⟨⟨hholds.1, hkeyed.1, hworded.1, htidy.1⟩,
        ih hholds.2 hkeyed.2 hworded.2 htidy.2⟩

theorem proseFields (hholds : HoldsFields s fields)
    (hkeyed : Tree.KeyedFields (treeFields fields))
    (hworded : Tree.WordedFields (treeFields fields))
    (htidy : Tree.TidyFields (treeFields fields)) :
    ∀ f ∈ fields, f.2.tree.isTextLeaf = false ∧ Prose s f.2 := by
  induction fields with
  | nil => exact List.forall_mem_nil _
  | cons f rest ih =>
      exact List.forall_mem_cons.mpr ⟨⟨htidy.1, hholds.1, hkeyed.1, hworded.1, htidy.2.1⟩,
        ih hholds.2 hkeyed.2 hworded.2 htidy.2.2⟩

theorem Prose.inItems (h : Prose s (.list id items)) : ∀ x ∈ items, Prose s x :=
  proseItems h.holds.2 h.keyed h.worded h.tidy

theorem Prose.inFields (h : Prose s (.record id fields)) :
    ∀ f ∈ fields, f.2.tree.isTextLeaf = false ∧ Prose s f.2 :=
  proseFields h.holds.2 h.keyed.2 h.worded.2 h.tidy.2

theorem Prose.isTextLeaf_iff (h : Prose s x) :
    x.tree.isTextLeaf = true ↔ x.tree.nodeType? = some "text" := by
  constructor
  · intro hleaf
    obtain ⟨text, htext⟩ := Option.isSome_iff_exists.mp hleaf
    exact (leafText?_tree.mp htext).1
  · intro htype
    cases x with
    | scalar value => simp [tree, Tree.nodeType?, Tree.field?] at htype
    | list id items => simp [tree, Tree.nodeType?, Tree.field?] at htype
    | record id fields => exact h.worded.1 htype

theorem Flat.rebuilt (hflat : Flat fields) (found : Nat → List Remark) (inside : Bool) :
    rebuiltFields found inside fields = treeFields fields := by
  induction hflat using Flat.induct with
  | nil => rfl
  | cons _ ih =>
      rw [rebuiltFields, treeFields, ih]
      exact congrArg (· :: _) (congrArg (Prod.mk _) (ite_self _))

/-- A text leaf holds its text, and rebuilding has nothing to do inside it. -/
theorem Prose.leaf (h : x.Prose s) {text : String} (htext : x.tree.leafText? = some text)
    (found : Nat → List Remark) (inside : Bool) :
    x.text = text ∧ x.rebuilt found inside = x.tree := by
  obtain ⟨id, fields, rfl, hflat⟩ := record_of_leaf htext (bare_tree x h.tidy h.keyed)
  exact ⟨text_of_leaf hflat htext, congrArg Tree.record (hflat.rebuilt found _)⟩

/-- A visit is at a node of the document, with its text. -/
theorem Prose.visit (h : Prose s x) {c : Cursor} {v : Visit} (hv : v ∈ x.visits c) :
    ∃ y, Prose s y ∧ y.isNode = true ∧ v.cursor.current = y.ref ∧ v.content = y.text := by
  have hfields {id : Nat} {fields : List (String × Layout)} (h : Prose s (.record id fields)) :
      ∀ f ∈ fields, Prose s f.2 :=
    fun f hf => (h.inFields f hf).2
  obtain ⟨y, hy, hnode, -, hcurrent, htext⟩ := visit_part Prose.inItems hfields h hv
  exact ⟨y, hy, hnode, hcurrent, htext⟩

end Layout

/-! ### What the rules answer -/

theorem Remark.finding_injective : Function.Injective Remark.finding := by
  rintro ⟨rule, message, start, stop⟩ ⟨rule', message', start', stop'⟩ h
  simp only [Remark.finding, Finding.mk.injEq, Tree.scalar.injEq, Scalar.str.injEq,
    Scalar.int.injEq] at h
  obtain ⟨rfl, rfl, rfl, rfl⟩ := h
  rfl

namespace Phrase

theorem make_eq_rule [CharacterNames] (p : Phrase) : p.make = .ok p.rule := by
  have hpattern := (Rule.Takes.fixed p.nonempty p.unslashed).ofTree?
  rw [make, Rule.make, isEmpty_str p.nonempty, Bool.and_false, if_neg Bool.false_ne_true, hpattern]
  rfl

theorem stateless_rule (p : Phrase) : p.rule.Stateless := by
  intro callback haction
  contradiction

variable {s : Store} {c : Cursor} {y : Layout}

/-- The rule looks for its phrase in a text, and nowhere at another node. -/
theorem target?_rule (hy : y.Prose s) (hnode : y.isNode = true) (hc : c.current = y.ref)
    (p : Phrase) : Rule.target? s c y.text p.rule.alternatives = .ok (if y.tree.isTextLeaf then
      (Pattern.search? (some (.fixed p.text)) y.text).map fun found => ([y.ref], found)
      else none) := by
  have hfind := Selector.find?_type_node hy.holds hnode hc "text"
  have halternatives : p.rule.alternatives = [(.type "text", some (.fixed p.text))] := rfl
  rw [halternatives, Rule.target?, hfind]
  by_cases hleaf : y.tree.isTextLeaf = true
  · rw [if_pos hleaf, if_pos (hy.isTextLeaf_iff.mp hleaf)]
    simp only [bind, Except.bind]
    cases Pattern.search? (some (.fixed p.text)) y.text <;> rfl
  · rw [if_neg hleaf, if_neg fun h => hleaf (hy.isTextLeaf_iff.mpr h)]
    rfl

/-- The rule answers the first place in a text, and nothing at another node. -/
theorem asked_rule (hy : y.Prose s) (hnode : y.isNode = true) (hc : c.current = y.ref)
    (p : Phrase) : p.rule.asked s c y.text = .ok (if y.tree.isTextLeaf then
      (p.occurrence? y.text).map (·.remark.finding) else none) := by
  have hcheck := @Rule.check_message _ _ Rule.defaultSelector _ c y.text _ ⟨s, none⟩
    (target?_rule hy hnode hc p)
  refine (@Callback.quietly_eq _ _ s s (.ok _) none hcheck).trans (congrArg Except.ok ?_)
  split
  · rw [Pattern.search?, occurrence?, Option.map_map, Option.map_map, Option.map_map]
    rfl
  · rfl

end Phrase

namespace Lint

open Layout

variable {s : Store} {x y : Layout} {phrases : List Phrase} {found : Nat → List Remark} {c : Cursor}
  {us vs : List Visit}

/-- At a visit, the rules answer what is to be said. -/
theorem answers_said (hy : y.Prose s) (hnode : y.isNode = true) {v : Visit}
    (hc : v.cursor.current = y.ref) (hcontent : v.content = y.text) (phrases : List Phrase) :
    answers s v (phrases.map Phrase.rule) = .ok ((y.said phrases).map Remark.finding) := by
  induction phrases with
  | nil =>
      have hnothing : y.said [] = [] := ite_self _
      rw [hnothing]
      rfl
  | cons p rest ih =>
      rw [List.map_cons, answers, hcontent, p.asked_rule hy hnode hc, ih, said, said]
      by_cases hleaf : y.tree.isTextLeaf = true
      · rw [if_pos hleaf, if_pos hleaf, if_pos hleaf, occurrences_cons]
        cases p.occurrence? y.text <;> rfl
      · rw [if_neg hleaf, if_neg hleaf, if_neg hleaf]
        rfl

/-- The remarks are what rules answer at visits. -/
def Remarked (s : Store) (rules : List Rule) (found : Nat → List Remark) (vs : List Visit) : Prop :=
  ∀ v ∈ vs, answers s v rules = .ok ((found v.node).map Remark.finding)

/-- The remarks about a part of the document are what is to be said about it. -/
theorem remarks_eq_said (h : x.Prose s)
    (hfound : Remarked s (phrases.map Phrase.rule) found (x.visits c)) :
    x.remarks found = x.said phrases := by
  cases x with
  | scalar value => rfl
  | list id items => rfl
  | record id fields =>
      by_cases hnode : (Layout.record id fields).isNode = true
      · rw [remarks, if_pos hnode]
        have hown : (⟨id, (Layout.record id fields).text, c.facing id⟩ : Visit) ∈
            (Layout.record id fields).visits c := by
          rw [visits, if_pos hnode]
          exact List.mem_append_right _ (List.mem_singleton_self _)
        have hsaid := answers_said h hnode (v := ⟨id, _, c.facing id⟩) rfl rfl phrases
        exact List.map_injective_iff.mpr Remark.finding_injective
          (Except.ok.inj ((hfound _ hown).symm.trans hsaid))
      · have hleaf : ¬ (Layout.record id fields).tree.isTextLeaf = true := by
          intro hleaf
          refine hnode (congrArg Option.isSome (h.isTextLeaf_iff.mp hleaf))
        rw [remarks, if_neg hnode, said, if_neg hleaf]

/-! ### The marked document -/

theorem Remarked.append {rules : List Rule} (h : Remarked s rules found (us ++ vs)) :
    Remarked s rules found us ∧ Remarked s rules found vs :=
  List.forall_mem_append.mp h

mutual
/-- **The rebuilt document** is the document with its occurrences marked, if the remarks are
what the rules for phrases answer. -/
theorem rebuilt_eq_marked : ∀ (x : Layout) (inside : Bool) (c : Cursor), x.Prose s →
    Remarked s (phrases.map Phrase.rule) found (x.visits c) →
      x.rebuilt found inside = x.tree.marked phrases inside
  | .scalar _, _, _, _, _ => rfl
  | .list _ items, inside, _, h, hfound =>
      congrArg Tree.list (rebuiltItems_eq_marked items inside _ 0 h.inItems hfound)
  | .record _ fields, _, _, h, hfound =>
      congrArg Tree.record (rebuiltFields_eq_marked fields _ _ h.inFields hfound.append.1)

theorem rebuiltItems_eq_marked : ∀ (items : List Layout) (inside : Bool) (c : Cursor) (index : Nat),
    (∀ x ∈ items, x.Prose s) →
      Remarked s (phrases.map Phrase.rule) found (visitsItems c index items) →
        rebuiltItems found inside items = Tree.markedItems phrases inside (treeItems items)
  | [], _, _, _, _, _ => rfl
  | x :: rest, inside, c, index, h, hfound => by
      obtain ⟨hx, hrest⟩ := List.forall_mem_cons.mp h
      obtain ⟨hvisits, hmore⟩ := hfound.append
      rw [rebuiltItems, treeItems, Tree.markedItems, remarks_eq_said hx hvisits, said,
        rebuiltItems_eq_marked rest inside c (index + 1) hrest hmore]
      refine congrArg (· ++ _) ?_
      -- A text is marked with what occurs in it; nothing is said about any other item.
      cases htext : x.tree.leafText? with
      | some text =>
          have hleaf : x.tree.isTextLeaf = true := congrArg Option.isSome htext
          obtain ⟨hcontent, hsame⟩ := hx.leaf htext found inside
          rw [hleaf, if_pos rfl, hcontent, hsame]
          exact items_mark occurrences_within inside x.tree
      | none =>
          have hleaf : x.tree.isTextLeaf = false := congrArg Option.isSome htext
          rw [hleaf, if_neg Bool.false_ne_true, mark, if_pos rfl,
            rebuilt_eq_marked x inside _ hx hvisits]
          rfl

theorem rebuiltFields_eq_marked : ∀ (fields : List (String × Layout)) (inside : Bool) (c : Cursor),
    (∀ f ∈ fields, f.2.tree.isTextLeaf = false ∧ f.2.Prose s) →
      Remarked s (phrases.map Phrase.rule) found (visitsFields c fields) →
        rebuiltFields found inside fields = Tree.markedFields phrases inside (treeFields fields)
  | [], _, _, _, _ => rfl
  | (key, x) :: rest, inside, c, h, hfound => by
      obtain ⟨⟨hleaf, hx⟩, hrest⟩ := List.forall_mem_cons.mp h
      obtain ⟨hvisits, hmore⟩ := hfound.append
      rw [rebuiltFields, treeFields, Tree.markedFields,
        rebuiltFields_eq_marked rest inside c hrest hmore]
      -- No text stands in a field, so the value itself gets no mark.
      refine congrArg (fun t => (key, t) :: _) ?_
      by_cases htype : key = "type"
      · rw [if_pos htype, if_pos htype]
      · rw [if_neg htype] at hvisits
        rw [if_neg htype, if_neg htype, remarks_eq_said hx hvisits, said, hleaf,
          if_neg Bool.false_ne_true, mark, if_pos rfl, rebuilt_eq_marked x inside _ hx hvisits]
        rfl
end

/-! ### The findings -/

/-- What is to be said about a text is reported. -/
theorem findings_said (h : x.Prose s) (phrases : List Phrase) :
    (x.said phrases).map Remark.finding = x.tree.leafText?.toList.flatMap (findingsIn phrases) := by
  rw [said]
  cases htext : x.tree.leafText? with
  | some text =>
      have hleaf : x.tree.isTextLeaf = true := congrArg Option.isSome htext
      obtain ⟨hcontent, -⟩ := h.leaf htext (fun _ => []) false
      rw [hleaf, if_pos rfl, hcontent, List.map_map]
      exact (List.append_nil _).symm
  | none =>
      have hleaf : x.tree.isTextLeaf = false := congrArg Option.isSome htext
      rw [hleaf, if_neg Bool.false_ne_true]
      rfl

theorem findings_append (us vs : List Visit) :
    findings found (us ++ vs) = findings found us ++ findings found vs := List.flatMap_append

/-- The findings of a visit to the record itself, if it is a node. -/
theorem findings_own (id : Nat) (fields : List (String × Layout)) (own : Cursor) :
    findings found (if (Layout.record id fields).isNode then
        [⟨id, (Layout.record id fields).text, own⟩] else []) =
      ((Layout.record id fields).remarks found).map Remark.finding := by
  rw [remarks]
  split
  · exact List.append_nil _
  · rfl

mutual
/-- The findings of the visits are those of the texts, in their order. -/
theorem findings_eq_texts : ∀ (x : Layout) (c : Cursor), x.Prose s →
    Remarked s (phrases.map Phrase.rule) found (x.visits c) →
      findings found (x.visits c) = x.tree.texts.flatMap (findingsIn phrases)
  | .scalar _, _, _, _ => rfl
  | .list _ items, _, h, hfound => findingsItems_eq_texts items _ 0 h.inItems hfound
  | .record id fields, c, h, hfound => by
      rw [visits, findings_append, findings_own, remarks_eq_said h hfound, findings_said h,
        findingsFields_eq_texts fields _ h.inFields hfound.append.1, tree, Tree.texts,
        List.flatMap_append]

theorem findingsItems_eq_texts : ∀ (items : List Layout) (c : Cursor) (index : Nat),
    (∀ x ∈ items, x.Prose s) →
      Remarked s (phrases.map Phrase.rule) found (visitsItems c index items) →
        findings found (visitsItems c index items) =
          (Tree.textsItems (treeItems items)).flatMap (findingsIn phrases)
  | [], _, _, _, _ => rfl
  | x :: rest, c, index, h, hfound => by
      obtain ⟨hx, hrest⟩ := List.forall_mem_cons.mp h
      obtain ⟨hvisits, hmore⟩ := hfound.append
      rw [visitsItems, findings_append, findings_eq_texts x _ hx hvisits,
        findingsItems_eq_texts rest c (index + 1) hrest hmore, treeItems, Tree.textsItems,
        List.flatMap_append]

theorem findingsFields_eq_texts : ∀ (fields : List (String × Layout)) (c : Cursor),
    (∀ f ∈ fields, f.2.tree.isTextLeaf = false ∧ f.2.Prose s) →
      Remarked s (phrases.map Phrase.rule) found (visitsFields c fields) →
        findings found (visitsFields c fields) =
          (Tree.textsFields (treeFields fields)).flatMap (findingsIn phrases)
  | [], _, _, _ => rfl
  | (key, x) :: rest, c, h, hfound => by
      obtain ⟨⟨-, hx⟩, hrest⟩ := List.forall_mem_cons.mp h
      obtain ⟨hvisits, hmore⟩ := hfound.append
      rw [visitsFields, findings_append, findingsFields_eq_texts rest c hrest hmore, treeFields,
        Tree.textsFields, List.flatMap_append]
      refine congrArg (· ++ _) ?_
      by_cases htype : key = "type"
      · rw [if_pos htype, if_pos htype]
        rfl
      · rw [if_neg htype] at hvisits ⊢
        rw [if_neg htype]
        exact findings_eq_texts x _ hx hvisits
end

/-! ### Runs -/

/-- **Rules for phrases mark the first place of each phrase.** Rules are made of phrases, without
selectors, and a document is highlighted in which the nodes of the type `text` have text as their
content, nothing else in them, and stand in no field. The run reports, for each text that a walk
comes to and each phrase that occurs in it, the first place of the phrase. In a list, what stands
in the place of a text with findings is what comes before the first start, a lint node with the
part up to the last stop, and what comes behind it; the lint node has the names of the rules.
Nothing else is different. -/
theorem run_occurrences [CharacterNames] {session : Session} (phrases : List Phrase)
    (hlays : session.store.Lays x) (hworded : x.tree.Worded) (htidy : x.tree.Tidy) (listen : Bool) :
    ∃ rules outcome after,
      List.Forall₂ (fun p rule => Phrase.make p = .ok rule) phrases rules ∧
      (run { highlight := true, listen := listen } rules x.ref).run session = (outcome, after) ∧
      outcome.findings = .ok (x.tree.texts.flatMap (findingsIn phrases)) ∧
      after.store.tree x.ref = x.tree.marked phrases false ∧
      ∀ text o, o ∈ occurrences phrases text ↔
        o.phrase ∈ phrases ∧ Text.FirstAt o.phrase.text text o.start := by
  have hprose : x.Prose session.store := ⟨hlays.holds, hlays.keyed, hworded, htidy⟩
  have hrules : ∀ r ∈ phrases.map Phrase.rule, r.Stateless := by
    intro r hr
    obtain ⟨p, -, rfl⟩ := List.mem_map.mp hr
    exact p.stateless_rule
  have hmake : List.Forall₂ (fun p rule => Phrase.make p = .ok rule) phrases
      (phrases.map Phrase.rule) :=
    List.forall₂_map_right_iff.mpr (List.forall₂_same.mpr fun p _ => p.make_eq_rule)
  obtain ⟨outcome, after, hrun,
      ⟨found, -, hfound, hfindings, hrebuilt⟩ | ⟨before, v, behind, fault, hvs, -, hv, -⟩⟩ :=
    run_rebuilt hrules hlays listen
  · refine ⟨_, outcome, after, hmake, hrun, hfindings.trans (congrArg Except.ok ?_), ?_,
      fun _ _ => mem_occurrences⟩
    · exact findings_eq_texts x .fresh hprose hfound
    · exact hrebuilt.tree.trans (rebuilt_eq_marked x false .fresh hprose hfound)
  · -- These rules do not fail.
    have hmem : v ∈ x.visits .fresh := hvs ▸ List.mem_append_right _ List.mem_cons_self
    obtain ⟨y, hy, hnode, hcurrent, hcontent⟩ := hprose.visit hmem
    rw [answers_said hy hnode hcurrent hcontent] at hv
    contradiction

/-- Phrases that overlap in a text, and one that does not occur in it. -/
def overlapping : List Phrase :=
  [⟨.str "end", "bc", "Found bc.", by decide, by decide⟩,
    ⟨.str "none", "x", "Found x.", by decide, by decide⟩,
    ⟨.str "inner", "b", "Found b.", by decide, by decide⟩]

/-- Two of the phrases occur, and the text is cut around both of them. -/
theorem run_occurrences_oneText :
    (oneTextStore.Lays oneText ∧ oneText.tree.Worded ∧ oneText.tree.Tidy) ∧
    ∃ rules outcome after,
      List.Forall₂ (fun p rule => Phrase.make p = .ok rule) overlapping rules ∧
      (run { highlight := true } rules (.object 0)).run ⟨oneTextStore, none⟩ = (outcome, after) ∧
      outcome.findings = .ok [⟨.str "end", .str "Found bc.", .int 1, .int 3⟩,
        ⟨.str "inner", .str "Found b.", .int 1, .int 2⟩] ∧
      after.store.tree (.object 0) = .record [("type", .str "doc"), ("children", .list
        [textLeaf "a", lintTree [textLeaf "bc"] [⟨.str "end", "Found bc.", 1, 3⟩,
          ⟨.str "inner", "Found b.", 1, 2⟩] false])] := by
  have hlays : (Session.mk oneTextStore none).store.Lays oneText := lays_oneText
  have hworded : oneText.tree.Worded :=
    ⟨by decide, trivial, ⟨⟨by decide, trivial, trivial, trivial⟩, trivial⟩, trivial⟩
  have htidy : oneText.tree.Tidy :=
    ⟨by decide, rfl, trivial, rfl, ⟨⟨by decide, rfl, trivial, rfl, trivial, trivial⟩, trivial⟩,
      trivial⟩
  obtain ⟨rules, outcome, after, hrules, hrun, hfindings, htree, -⟩ :=
    run_occurrences overlapping hlays hworded htidy false
  exact ⟨⟨hlays, hworded, htidy⟩, rules, outcome, after, hrules, hrun, hfindings, htree⟩

end Lint

end DocLint
