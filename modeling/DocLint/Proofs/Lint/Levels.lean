import DocLint.Proofs.Rule.Consistent

/-!
# DocLint.Proofs.Lint.Levels

**The levels of headings**, and what the two rules about them answer. One looks at a heading
alone, the other one goes back item by item, past whatever there is, and stops at the first
heading. If the search comes to an end, that is the last heading before in the list
(`find?_sibling_last`).

Where something is to be said, levels are named. A level of too many digits cannot be, and
then the rule fails (`asked_skips`). So the rules answer at a heading if and only if the search
comes to an end and the levels that are to be named can be written (`asked_headingLevel_iff`,
`asked_headingLevelSkip_iff`).
-/

namespace DocLint

namespace Layout

/-- The items of the type `name`. -/
def ofType (name : String) (items : List Layout) : List Layout :=
  items.filter fun y => y.tree.nodeType? = some name

/-- What stands in a field; null if there is no such field. -/
def fieldRef (key : String) : Layout → Ref
  | .record _ fields => ((fieldOf? fields key).map ref).getD .null
  | _ => .null

/-- The level of a heading, if it is a whole number. -/
def level? (y : Layout) : Option Int := Catalogue.integer? (y.fieldRef "level")

/-- The level of a heading as messages show it. -/
def levelText (y : Layout) : String :=
  match y.fieldRef "level" with
  | .scalar value => value.quoted
  | .object _ => ""

/-- The level of the heading has few enough digits to be written, if it has a level. -/
def Named (y : Layout) : Prop := ∀ level ∈ y.level?, Literal.isWritable level = true

theorem fieldRef_of_holds {s : Store} {y : Layout} (h : y.Holds s) (key : String) :
    (s.field? y.ref key).getD .null = y.fieldRef key := by
  cases y with
  | scalar value => rfl
  | list id items => simp [Store.field?, Store.fields?, ref, h.1, fieldRef]
  | record id fields => exact congrArg (·.getD .null) (field?_record h.1 key)

/-- One more item counts if it is of the type. -/
theorem ofType_take_add_one (name : String) {items : List Layout} {k : Nat} {y : Layout}
    (hy : items[k]? = some y) : ofType name (items.take (k + 1)) =
      if y.tree.nodeType? = some name then ofType name (items.take k) ++ [y]
      else ofType name (items.take k) := by
  have htake : items.take (k + 1) = items.take k ++ [y] := by simp [List.take_add_one, hy]
  rw [htake]
  by_cases h : y.tree.nodeType? = some name <;> simp [ofType, h]

theorem Around.isWritable {x y : Layout} {around : List (Layout × Step)} (h : x.Around around y)
    (hx : x.tree.isWritable = true) : y.tree.isWritable = true := by
  refine h.of (P := (·.tree.isWritable = true)) (fun {z y step} hchild hz => ?_) hx
  cases step with
  | index i =>
      obtain ⟨id, items, k, rfl, -, hy⟩ := child?_index hchild
      rw [tree, treeItems_eq_map, Tree.isWritable, Tree.isWritableItems_iff] at hz
      exact hz _ (List.mem_map_of_mem (List.mem_of_getElem? hy))
  | key key =>
      obtain ⟨id, fields, rfl, hy⟩ := child?_key hchild
      rw [tree, treeFields_eq_map, Tree.isWritable, Tree.isWritableFields_iff] at hz
      exact hz _ (List.mem_map_of_mem (mem_of_fieldOf? hy))

/-- A level is a whole number, or a truth value that counts as one. -/
theorem level_cases {y : Layout} {level : Int} (h : y.level? = some level) :
    y.fieldRef "level" = .scalar (.int level) ∨
      ∃ b, y.fieldRef "level" = .scalar (.bool b) ∧ level = if b then 1 else 0 := by
  unfold level? Catalogue.integer? at h
  split at h
  · next i hfield => exact .inl (Option.some.inj h ▸ hfield)
  · next b hfield => exact .inr ⟨b, hfield, (Option.some.inj h).symm⟩
  · contradiction

theorem isWritable_truth (b : Bool) : Literal.isWritable (if b then 1 else 0) = true := by
  cases b <;> rfl

/-- A level is written out if it has few enough digits. -/
theorem shown_level {y : Layout} {level : Int} (h : y.level? = some level) :
    Catalogue.shown (y.fieldRef "level") = if Literal.isWritable level = true then
      .ok y.levelText else .error (.literal .unwritable) := by
  unfold levelText
  rcases level_cases h with hfield | ⟨b, hfield, rfl⟩
  · rw [hfield]
    rfl
  · rw [hfield, if_pos (isWritable_truth b)]
    rfl

/-- In a heading that can be written out, the level can. -/
theorem named_of_isWritable {y : Layout} (h : y.tree.isWritable = true) : y.Named := by
  intro level hlevel
  rcases level_cases hlevel with hfield | ⟨b, -, rfl⟩
  · cases y with
    | scalar value => contradiction
    | list id items => contradiction
    | record id fields =>
        rw [tree, treeFields_eq_map, Tree.isWritable, Tree.isWritableFields_iff] at h
        cases hfound : fieldOf? fields "level" with
        | none => simp [fieldRef, hfound] at hfield
        | some z =>
            have hz := h _ (List.mem_map_of_mem (mem_of_fieldOf? hfound))
            simp only [fieldRef, hfound, Option.map_some, Option.getD_some] at hfield
            cases z with
            | scalar value =>
                obtain rfl := Ref.scalar.inj hfield
                exact hz
            | list id items => contradiction
            | record id fields => contradiction
  · exact isWritable_truth b

end Layout

namespace Spot

/-- The last item of the type `name` before a spot in its list. -/
def lastBefore? (name : String) (p : Spot) : Option Layout :=
  match p.around with
  | (.list _ items, .index k) :: _ => (Layout.ofType name (items.take k.toNat)).getLast?
  | _ => none

variable {s : Store} {x : Layout} {p : Spot}

/-- What is around a spot is in the document. -/
theorem In.outer {z : Layout} {step : Step} {outer : List (Layout × Step)} (hp : p.In x)
    (h : p.around = (z, step) :: outer) : x.Around outer z := by
  rw [In, h] at hp
  exact hp.2

/-- What comes before in the list is in the document, too. -/
theorem lastBefore?_in {name : String} {y : Layout} (hp : p.In x)
    (h : p.lastBefore? name = some y) : ∃ around, x.Around around y := by
  rcases hp.cases with h' | ⟨id, items, outer, k, h', -⟩ | ⟨id, fields, outer, key, h'⟩
  · simp [lastBefore?, h'] at h
  · rw [lastBefore?, h'] at h
    have hy : y ∈ items :=
      List.mem_of_mem_take (List.mem_of_mem_filter (List.mem_of_getLast? h))
    obtain ⟨j, hj⟩ := List.getElem?_of_mem hy
    exact ⟨(.list id items, .index j) :: outer, hj, hp.outer h'⟩
  · simp [lastBefore?, h'] at h

theorem lastBefore?_holds {name : String} {y : Layout} (hlays : s.Lays x) (hp : p.In x)
    (h : p.lastBefore? name = some y) : y.Holds s := by
  obtain ⟨around, haround⟩ := lastBefore?_in hp h
  exact haround.holds hlays.holds

section Search

open Selector

/-- If the search back from an item comes to an end, it is at the last one of the type before. -/
theorem firstMatch_earlier (hlays : s.Lays x) {id : Nat} {items : List Layout}
    {outer : List (Layout × Step)} (hin : x.Around outer (.list id items)) (name : String)
    {r : Option Matched} : ∀ k ≤ items.length,
      firstMatch ((type name).find? s) ((earlier id items outer k).map fun q => .ok q.cursor) =
        .ok r →
      r = (Layout.ofType name (items.take k)).getLast?.map fun y => [y.ref]
  | 0, _, h => (Except.ok.inj h).symm
  | k + 1, hk, h => by
      have hy : items[k]? = some items[k] := List.getElem?_eq_getElem hk
      have hq : (⟨items[k], (.list id items, .index k) :: outer⟩ : Spot).In x :=
        ⟨hy, hin⟩
      rw [earlier, hy] at h
      rw [Layout.ofType_take_add_one name hy]
      simp only [Option.map_some, Option.toList_some, List.singleton_append, List.map_cons] at h
      obtain ⟨-, hfind⟩ | ⟨-, fault, hfind⟩ := find?_type hlays hq name
      · by_cases htype : items[k].tree.nodeType? = some name
        · rw [if_pos htype] at hfind
          rw [firstMatch_found hfind] at h
          rw [if_pos htype, List.getLast?_concat]
          exact (Except.ok.inj h).symm
        · rw [if_neg htype] at hfind
          rw [firstMatch_next hfind] at h
          rw [if_neg htype]
          exact firstMatch_earlier hlays hin name k (Nat.le_of_succ_le hk) h
      · rw [firstMatch_error hfind] at h
        contradiction

/-- Where the right side is matched and the left side can be searched for, it is the last one
of its type before. -/
theorem find?_sibling_last (hlays : s.Lays x) (hp : p.In x) {name : String}
    (hclear : p.Clear name) {right : Selector} {inner : Matched}
    (hright : right.find? s p.cursor = .ok (some inner)) :
    (comb .sibling (type name) right).find? s p.cursor =
      .ok ((p.lastBefore? name).map fun y => y.ref :: inner) := by
  have hkind : Combinator.sibling.IsKnown := fun _ => nofun
  obtain ⟨r, hr⟩ := (find?_sibling_ok_iff hlays hp hright).mpr hclear
  have hcomb := hr
  rw [find?, hright] at hcomb
  obtain ⟨_, hinner, hcomb⟩ := except_bind_eq_ok hcomb
  obtain rfl := Except.ok.inj hinner
  obtain ⟨found, hfirst, -⟩ := except_bind_eq_ok hcomb
  have hlast : found = (p.lastBefore? name).map fun y => [y.ref] := by
    have hsearch : firstMatch ((type name).find? s) (p.before.map fun q => .ok q.cursor) =
        .ok found := by
      rw [Combinator.candidates_cursor hlays hp hkind] at hfirst
      exact hfirst
    rcases hp.cases with h | ⟨id, items, outer, k, h, hhere⟩ | ⟨id, fields, outer, key, h⟩
    · simpa [before, lastBefore?, h, firstMatch, pure, Except.pure, eq_comm] using hsearch
    · obtain ⟨hk, -⟩ := List.getElem?_eq_some_iff.mp hhere
      rw [before_item h] at hsearch
      rw [lastBefore?, h]
      exact firstMatch_earlier hlays (hp.outer h) name k (Nat.le_of_lt hk) hsearch
    · simpa [before, lastBefore?, h, firstMatch, pure, Except.pure, eq_comm] using hsearch
  rw [find?_comb hright hfirst, hlast]
  cases p.lastBefore? name <;> rfl

end Search

end Spot

namespace Lint

open Layout Callback Catalogue

variable {s : Store} {x : Layout} {p : Spot} {above : Layout}

/-! ### What the rules go by -/

/-- What is reported of a heading `h` that skips a level behind the heading `p`. -/
def skipped (h p : Layout) : Remark where
  rule := .str "heading-level-skip"
  message := "Skipped heading level:\nthis heading is level " ++ h.levelText ++
    " but the previous heading was level " ++ p.levelText ++ "."
  start := 0
  stop := h.text.length

/-- At the spot is a heading more than one level below the heading `p`, which is the last one
before it in its list. -/
structure Skips (h : Spot) (p : Layout) : Prop where
  heading : h.here.tree.nodeType? = some "heading"
  last : h.lastBefore? "heading" = some p
  levels : ∃ above below, p.level? = some above ∧ h.here.level? = some below ∧ 1 < below - above

theorem Skips.isNode (h : Skips p above) : p.here.isNode = true := isNode_of_type h.heading

/-- At the spot is a heading of which all can be said that the rules have to say. -/
structure Legible (h : Spot) : Prop where
  clear : h.Clear "heading"
  /-- A level that is too high is named. -/
  high : ∀ level ∈ h.here.level?, level < 2 → Literal.isWritable level = true
  /-- Where a level is skipped, both levels are named. -/
  low : ∀ above, Skips h above → h.here.Named ∧ above.Named

section Unpatterned

variable {r : Rule} {c : Cursor} {sel : Selector}

/-- A rule without a pattern answers nothing where its selector is not matched. -/
theorem asked_unmatched (content : String) (hsel : r.alternatives = [(sel, none)])
    (h : sel.find? s c = .ok none) : r.asked s c content = .ok none := by
  rw [Rule.asked_eq, hsel, Rule.target?, h]
  rfl

/-- Where it is matched, the rule answers what its action does. -/
theorem asked_matched (content : String) {nodes : Matched} (hsel : r.alternatives = [(sel, none)])
    (h : sel.find? s c = .ok (some nodes)) : r.asked s c content =
      (quietly (Rule.Action.answer nodes ⟨content, 0, content.length, []⟩ r.action) s >>=
        (·.finding? r.name content.length)) := by
  rw [Rule.asked_eq, hsel, Rule.target?, h]
  rfl

end Unpatterned

/-! ### The level of a heading alone -/

/-- The callback looks at the level of the heading. -/
theorem quietly_headingLevel {h : Layout} (hh : h.Holds s) (config : Config) (found : TextMatch) :
    quietly (Rule.Action.answer [h.ref] found (headingLevel config).action) s =
      match h.level? with
      | some level =>
        if level < config.minHeadingLevel.value then
          tooHigh config.minHeadingLevel.value (h.fieldRef "level")
        else .ok nothing
      | none => .ok nothing := by
  have hlevel : fieldIn s [h.ref] 0 "level" = h.fieldRef "level" :=
    Layout.fieldRef_of_holds hh "level"
  show quietly (field [h.ref] 0 "level" >>= _) s = _
  rw [quietly_field, hlevel]
  unfold Layout.level?
  cases integer? (h.fieldRef "level") with
  | none => rfl
  | some level =>
      dsimp only
      split
      · cases tooHigh config.minHeadingLevel.value (h.fieldRef "level") <;> rfl
      · rfl

/-- A level that is too high is named. -/
theorem tooHigh_level {minimum : Nat} (hmarks : minimum < longestText) {y : Layout} {level : Int}
    (h : y.level? = some level) : tooHigh minimum (y.fieldRef "level") =
      if Literal.isWritable level = true then
        .ok (report ["Don't use level-" ++ y.levelText ++ " headings:",
          "Begin headings with " ++ "".pushn '#' minimum ++ " or more # characters."])
      else .error (.literal .unwritable) := by
  unfold tooHigh
  rw [hashes, if_pos hmarks, shown_level h]
  split <;> rfl

/-- At a node the rule answers if and only if no level is too high that cannot be named. -/
theorem asked_headingLevel_iff {config : Config}
    (hmarks : config.minHeadingLevel.value < longestText) (hlays : s.Lays x) (hp : p.In x)
    (hn : p.here.isNode = true) (content : String) :
    (∃ found, (headingLevel config).asked s p.cursor content = .ok found) ↔
      (p.here.tree.nodeType? = some "heading" → ∀ level ∈ p.here.level?,
        level < config.minHeadingLevel.value → Literal.isWritable level = true) := by
  have hholds := Layout.Around.holds hp hlays.holds
  have hfind := Selector.find?_type_node hholds hn (c := p.cursor) rfl "heading"
  by_cases hheading : p.here.tree.nodeType? = some "heading"
  · rw [if_pos hheading] at hfind
    rw [asked_matched content rfl hfind, quietly_headingLevel hholds]
    simp only [hheading, forall_const]
    cases hlevel : p.here.level? with
    | none => exact iff_of_true ⟨none, rfl⟩ (by simp)
    | some level =>
        simp only [Option.mem_some_iff, forall_eq']
        by_cases hhigh : level < config.minHeadingLevel.value
        · rw [if_pos hhigh, tooHigh_level hmarks hlevel]
          by_cases hwritable : Literal.isWritable level = true
          · rw [if_pos hwritable]
            have hplain := plain_report ["Don't use level-" ++ p.here.levelText ++ " headings:",
              "Begin headings with " ++ "".pushn '#' config.minHeadingLevel.value ++
                " or more # characters."]
            obtain ⟨r, hr⟩ := hplain (headingLevel config).name content.length
            exact iff_of_true ⟨_, hr⟩ fun _ => hwritable
          · rw [if_neg hwritable]
            exact iff_of_false (fun ⟨_, h⟩ => by contradiction) fun h => hwritable (h hhigh)
        · rw [if_neg hhigh]
          exact iff_of_true ⟨none, rfl⟩ fun h => absurd h hhigh
  · rw [if_neg hheading] at hfind
    exact iff_of_true ⟨none, asked_unmatched content rfl hfind⟩ fun h => absurd h hheading

/-! ### The level of a heading behind another one -/

/-- The callback compares the levels. -/
theorem quietly_headingLevelSkip {h p : Layout} (hh : h.Holds s) (hp : p.Holds s)
    (found : TextMatch) :
    quietly (Rule.Action.answer [p.ref, h.ref] found headingLevelSkip.action) s =
      match p.level?, h.level? with
      | some above, some below =>
        if 1 < below - above then tooLow (p.fieldRef "level") (h.fieldRef "level")
        else .ok nothing
      | _, _ => .ok nothing := by
  have hprevious : fieldIn s [p.ref, h.ref] 0 "level" = p.fieldRef "level" :=
    Layout.fieldRef_of_holds hp "level"
  have hcurrent : fieldIn s [p.ref, h.ref] 1 "level" = h.fieldRef "level" :=
    Layout.fieldRef_of_holds hh "level"
  show quietly (field [p.ref, h.ref] 0 "level" >>= _) s = _
  rw [quietly_field, quietly_field, hprevious, hcurrent]
  unfold Layout.level?
  cases integer? (p.fieldRef "level") with
  | none => rfl
  | some above =>
      cases integer? (h.fieldRef "level") with
      | none => rfl
      | some below =>
          dsimp only
          split
          · cases tooLow (p.fieldRef "level") (h.fieldRef "level") <;> rfl
          · rfl

/-- What is said of a heading that skips a level is about its whole text. -/
theorem finding?_tooLow {h p : Layout} {above below : Int} (hp : p.level? = some above)
    (hh : h.level? = some below) :
    (tooLow (p.fieldRef "level") (h.fieldRef "level") >>=
      (·.finding? headingLevelSkip.name h.text.length)) =
      if Literal.isWritable below = true ∧ Literal.isWritable above = true then
        .ok (some (skipped h p).finding)
      else .error (.literal .unwritable) := by
  have hshown := shown_level hh
  have hshown' := shown_level hp
  unfold tooLow
  by_cases hbelow : Literal.isWritable below = true
  · rw [if_pos hbelow] at hshown
    by_cases habove : Literal.isWritable above = true
    · rw [if_pos habove] at hshown'
      have hfull : (Tree.str (skipped h p).message).isEmpty = false := by
        simp [skipped, Tree.str, Tree.isEmpty, Scalar.isEmpty]
      rw [hshown, hshown', if_pos ⟨hbelow, habove⟩]
      show (Answer.value (.str (skipped h p).message)).finding? _ _ = _
      rw [Answer.finding?]
      simp only [hfull]
      rfl
    · rw [if_neg habove] at hshown'
      rw [hshown, hshown', if_neg fun h => habove h.2]
      rfl
  · rw [if_neg hbelow] at hshown
    rw [hshown, if_neg fun h => hbelow h.1]
    rfl

section Skip

variable (hlays : s.Lays x) (hp : p.In x)

include hlays hp

/-- At a node that is no heading the rule answers nothing. -/
theorem asked_headingLevelSkip_other (hn : p.here.isNode = true)
    (hother : p.here.tree.nodeType? ≠ some "heading") (content : String) :
    headingLevelSkip.asked s p.cursor content = .ok none := by
  have hright := Selector.find?_type_node (Layout.Around.holds hp hlays.holds) hn
    (c := p.cursor) rfl "heading"
  rw [if_neg hother] at hright
  have hfind : headingLevelSkip.selector.find? s p.cursor = .ok none := by
    show (Selector.comb _ _ _).find? s p.cursor = _
    rw [Selector.find?, hright]
    rfl
  exact asked_unmatched content rfl hfind

variable (hheading : p.here.tree.nodeType? = some "heading")

include hheading

theorem find?_heading : (Selector.type "heading").find? s p.cursor = .ok (some [p.here.ref]) := by
  have hn : p.here.isNode = true := isNode_of_type hheading
  have hfind := Selector.find?_type_node (Layout.Around.holds hp hlays.holds) hn
    (c := p.cursor) rfl "heading"
  rwa [if_pos hheading] at hfind

/-- Where the heading before cannot be searched for, the rule fails. -/
theorem clear_of_asked {found : Option Finding} {content : String}
    (h : headingLevelSkip.asked s p.cursor content = .ok found) : p.Clear "heading" := by
  rw [Rule.asked_eq] at h
  obtain ⟨target, htarget, -⟩ := except_bind_eq_ok h
  obtain ⟨nodes, hnodes, -⟩ := except_bind_eq_ok htarget
  have hright := find?_heading hlays hp hheading
  exact (Selector.find?_sibling_ok_iff hlays hp hright).mp ⟨nodes, hnodes⟩

variable (hclear : p.Clear "heading")

include hclear

/-- The selector of the rule looks back from a heading. -/
theorem find?_headingLevelSkip : headingLevelSkip.selector.find? s p.cursor =
    .ok ((p.lastBefore? "heading").map fun y => [y.ref, p.here.ref]) :=
  Spot.find?_sibling_last hlays hp hclear (find?_heading hlays hp hheading)

/-- Of a heading that skips no level there is nothing to say. -/
theorem asked_unskipped (h : ∀ above, ¬ Skips p above) :
    headingLevelSkip.asked s p.cursor p.here.text = .ok none := by
  have hfind := find?_headingLevelSkip hlays hp hheading hclear
  cases hlast : p.lastBefore? "heading" with
  | none =>
      rw [hlast] at hfind
      exact asked_unmatched _ rfl hfind
  | some above =>
      rw [hlast] at hfind
      rw [asked_matched _ rfl hfind, quietly_headingLevelSkip (Layout.Around.holds hp hlays.holds)
        (Spot.lastBefore?_holds hlays hp hlast)]
      cases habove : above.level? with
      | none => rfl
      | some high =>
          cases hbelow : p.here.level? with
          | none => rfl
          | some low =>
              have hnear : ¬ 1 < low - high := fun hlt =>
                h above ⟨hheading, hlast, high, low, habove, hbelow, hlt⟩
              dsimp only
              rw [if_neg hnear]
              rfl

omit hheading

/-- Of a heading that skips a level both levels are said, if they can be. -/
theorem asked_skips (h : Skips p above) :
    (p.here.Named ∧ above.Named → headingLevelSkip.asked s p.cursor p.here.text =
      .ok (some (skipped p.here above).finding)) ∧
    (¬ (p.here.Named ∧ above.Named) → headingLevelSkip.asked s p.cursor p.here.text =
      .error (.literal .unwritable)) := by
  obtain ⟨hheading, hlast, high, low, habove, hbelow, hfar⟩ := h
  have hfind := find?_headingLevelSkip hlays hp hheading hclear
  rw [hlast] at hfind
  have hasked : headingLevelSkip.asked s p.cursor p.here.text =
      (tooLow (above.fieldRef "level") (p.here.fieldRef "level") >>=
        (·.finding? headingLevelSkip.name p.here.text.length)) := by
    rw [asked_matched _ rfl hfind, quietly_headingLevelSkip (Layout.Around.holds hp hlays.holds)
      (Spot.lastBefore?_holds hlays hp hlast), habove, hbelow]
    dsimp only
    rw [if_pos hfar]
  have hnamed : p.here.Named ∧ above.Named ↔
      Literal.isWritable low = true ∧ Literal.isWritable high = true := by
    simp [Layout.Named, habove, hbelow]
  rw [hasked, finding?_tooLow habove hbelow, hnamed]
  exact ⟨fun h => if_pos h, fun h => if_neg h⟩

end Skip

/-! ### Where the rules answer -/

/-- At a heading the rule answers if and only if the search comes to an end, and the levels can
be said if one is skipped. -/
theorem asked_headingLevelSkip_iff (hlays : s.Lays x) (hp : p.In x)
    (hheading : p.here.tree.nodeType? = some "heading") :
    (∃ found, headingLevelSkip.asked s p.cursor p.here.text = .ok found) ↔
      p.Clear "heading" ∧ ∀ above, Skips p above → p.here.Named ∧ above.Named := by
  constructor
  · rintro ⟨found, hasked⟩
    have hclear := clear_of_asked hlays hp hheading hasked
    refine ⟨hclear, fun above hskips => ?_⟩
    by_contra hnamed
    rw [(asked_skips hlays hp hclear hskips).2 hnamed] at hasked
    contradiction
  · rintro ⟨hclear, hnamed⟩
    by_cases h : ∃ above, Skips p above
    · obtain ⟨above, hskips⟩ := h
      exact ⟨_, (asked_skips hlays hp hclear hskips).1 (hnamed above hskips)⟩
    · exact ⟨_, asked_unskipped hlays hp hheading hclear (not_exists.mp h)⟩

/-- In a document without mixed lists, whatever is between can be asked. -/
theorem clear_of_unmixed (hx : x.Unmixed) (hp : p.In x) (hn : p.here.isNode = true)
    (name : String) : p.Clear name :=
  fun _ hq huntyped => absurd (typed_of_isNode (hq.isNode hx hp hn)) huntyped

/-- In a document that can be written out, all headings are legible that can look back. -/
theorem legible_of_isWritable (hx : x.tree.isWritable = true) (hp : p.In x)
    (hclear : p.Clear "heading") : Legible p := by
  have hnamed {y : Layout} {around : List (Layout × Step)} (h : x.Around around y) : y.Named :=
    Layout.named_of_isWritable (h.isWritable hx)
  refine ⟨hclear, fun level hlevel _ => hnamed hp level hlevel, fun above hskips => ?_⟩
  obtain ⟨around, habove⟩ := Spot.lastBefore?_in hp hskips.last
  exact ⟨hnamed hp, hnamed habove⟩

end Lint

end DocLint
