import DocLint.Proofs.Lint.Independent
import DocLint.Proofs.Lint.Total
import Mathlib.Data.List.Chain

/-!
# DocLint.Proofs.Lint.Outline

**Skipped levels of headings.** Alone, the rule about them finds one thing at every heading
that is more than one level below the last heading before it in its list, and nothing else
(`headings_exact`). So in a list where it finds nothing, the levels go down by one from
heading to heading at most. Both levels are said where one is skipped; if that cannot be done
because a level has too many digits, the run fails.

No walk enters a field of the name `type`, so nothing is found in there
(`headings_unfound`).
-/

namespace DocLint.Lint

open Layout Callback Catalogue

variable {s : Store} {x : Layout} {p : Spot} {session : Session}

/-- What the levels are that are skipped in a document, can be said of all of them. -/
def AllNamed (x : Layout) : Prop :=
  ∀ (h : Spot) (above : Layout), h.In x → h.Walked → Skips h above → h.here.Named ∧ above.Named

theorem allNamed_of_isWritable (hx : x.Unmixed) (hwritable : x.tree.isWritable = true) :
    AllNamed x := by
  intro h above hin _ hskips
  have hclear := clear_of_unmixed hx hin hskips.isNode "heading"
  exact (legible_of_isWritable hwritable hin hclear).low above hskips

/-! ### What the rule finds at a spot -/

/-- What the rule finds at a node, if it can say it. -/
theorem asked_headingLevelSkip (hlays : s.Lays x) (hx : x.Unmixed) (hp : p.In x)
    (hn : p.here.isNode = true) (hnamed : ∀ above, Skips p above → p.here.Named ∧ above.Named) :
    ∃ found : Option Finding, headingLevelSkip.asked s p.cursor p.here.text = .ok found ∧
      ∀ f, found = some f ↔ ∃ above, Skips p above ∧ f = (skipped p.here above).finding := by
  by_cases hheading : p.here.tree.nodeType? = some "heading"
  · have hclear := clear_of_unmixed hx hp hn "heading"
    by_cases h : ∃ above, Skips p above
    · obtain ⟨above, hskips⟩ := h
      refine ⟨_, (asked_skips hlays hp hclear hskips).1 (hnamed above hskips), fun f => ?_⟩
      constructor
      · rintro ⟨⟩
        exact ⟨above, hskips, rfl⟩
      · rintro ⟨above', hskips', rfl⟩
        obtain rfl := Option.some.inj (hskips.last.symm.trans hskips'.last)
        rfl
    · refine ⟨none, asked_unskipped hlays hp hheading hclear (not_exists.mp h), fun f => ?_⟩
      simp only [reduceCtorEq, false_iff]
      exact fun ⟨above, hskips, _⟩ => h ⟨above, hskips⟩
  · refine ⟨none, asked_headingLevelSkip_other hlays hp hn hheading _, fun f => ?_⟩
    simp only [reduceCtorEq, false_iff]
    exact fun ⟨above, hskips, _⟩ => hheading hskips.heading

/-! ### What a run finds -/

theorem consistent_headingLevelSkip : ∀ r ∈ [headingLevelSkip], r.Consistent x :=
  List.forall_mem_singleton.mpr <| consistent_rules .default x _ <|
    .tail _ <| .tail _ <| .head _

/-- A run finds what the rule answers at the visits. -/
theorem returned_headingLevelSkip (hlays : session.store.Lays x) (hx : x.Unmixed)
    (hnamed : AllNamed x) (highlight listen : Bool) :
    returned highlight listen [headingLevelSkip] x session =
      .ok ((x.visits .fresh).flatMap (told (finds session.store) [headingLevelSkip])) := by
  have hasked : ∀ v ∈ x.visits .fresh, ∃ found : Option Finding,
      headingLevelSkip.asked session.store v.cursor v.content = .ok found ∧
        ∀ f ∈ found, ∃ m : Remark, f = m.finding := by
    intro v hv
    obtain ⟨p, hp, hwalked, hn, -, hvisit⟩ := Spot.of_visit_mem hlays hv
    obtain ⟨found, hfound, hiff⟩ :=
      asked_headingLevelSkip hlays hx hp hn (hnamed p · hp hwalked)
    rw [hvisit]
    refine ⟨found, hfound, fun f hf => ?_⟩
    obtain ⟨above, -, hf⟩ := (hiff f).mp hf
    exact ⟨_, hf⟩
  have hsaid : ∀ v ∈ x.visits .fresh, ∀ r ∈ [headingLevelSkip],
      r.Tells x v (finds session.store v r) := by
    intro v hv
    obtain ⟨found, hfound, -⟩ := hasked v hv
    refine List.forall_mem_singleton.mpr ?_
    rw [finds_of_asked hfound]
    exact (consistent_headingLevelSkip _ List.mem_cons_self).tells hlays hv hfound
  have hremarks : ∀ v ∈ x.visits .fresh, ∀ f ∈ told (finds session.store) [headingLevelSkip] v,
      ∃ m : Remark, f = m.finding := by
    intro v hv f hf
    obtain ⟨found, hfound, hfs⟩ := hasked v hv
    simp only [told, List.flatMap_singleton, finds_of_asked hfound, Option.mem_toList] at hf
    exact hfs f hf
  have hplain := returned_plain consistent_headingLevelSkip hlays hsaid listen
  cases highlight with
  | false => exact hplain
  | true =>
      rw [← hplain]
      exact (returned_highlight consistent_headingLevelSkip hlays hsaid listen).2 hremarks

/-- What the rule finds in a document, with the nodes. -/
def skipsIn (s : Store) (x : Layout) : List (Nat × Finding) :=
  (x.visits .fresh).flatMap fun v => (finds s v headingLevelSkip).toList.map fun f => (v.node, f)

theorem skipsIn_finding (s : Store) (x : Layout) :
    (skipsIn s x).map (·.2) = (x.visits .fresh).flatMap (told (finds s) [headingLevelSkip]) := by
  rw [skipsIn, List.map_flatMap]
  refine List.flatMap_congr fun v _ => ?_
  simp [told, Function.comp_def]

theorem nodup_skipsIn (hlays : s.Lays x) : ((skipsIn s x).map (·.1)).Nodup := by
  refine List.Nodup.sublist ?_ (nodup_visits hlays)
  unfold skipsIn
  induction x.visits .fresh with
  | nil => exact .slnil
  | cons v rest ih =>
      rw [List.flatMap_cons, List.map_append, List.map_cons]
      cases finds s v headingLevelSkip with
      | none => exact ih.cons _
      | some f => exact ih.cons_cons _

/-- What is entered for a node is what the rule finds there. -/
theorem finds_headingLevelSkip (hlays : s.Lays x) (hx : x.Unmixed) (hnamed : AllNamed x)
    (hp : p.In x) (hwalked : p.Walked) (hn : p.here.isNode = true) (n : Nat) (f : Finding) :
    finds s ⟨n, p.here.text, p.cursor⟩ headingLevelSkip = some f ↔
      ∃ above, Skips p above ∧ f = (skipped p.here above).finding := by
  obtain ⟨found, hfound, hiff⟩ := asked_headingLevelSkip hlays hx hp hn (hnamed p · hp hwalked)
  have hfinds : finds s ⟨n, p.here.text, p.cursor⟩ headingLevelSkip = found :=
    finds_of_asked hfound
  rw [hfinds]
  exact hiff f

/-- There is an entry for each heading that skips a level, and no other. -/
theorem mem_skipsIn (hlays : s.Lays x) (hx : x.Unmixed) (hnamed : AllNamed x) {n : Nat}
    {f : Finding} :
    (n, f) ∈ skipsIn s x ↔ ∃ h above, h.In x ∧ h.Walked ∧ h.here.id? = some n ∧ Skips h above ∧
      f = (skipped h.here above).finding := by
  have hmem : (n, f) ∈ skipsIn s x ↔
      ∃ v ∈ x.visits .fresh, finds s v headingLevelSkip = some f ∧ v.node = n := by
    simp [skipsIn, List.mem_flatMap]
  rw [hmem]
  constructor
  · rintro ⟨v, hv, hf, rfl⟩
    obtain ⟨h, hin, hwalked, hn, hid, hvisit⟩ := Spot.of_visit_mem hlays hv
    rw [hvisit] at hf
    obtain ⟨above, hskips, hf⟩ :=
      (finds_headingLevelSkip hlays hx hnamed hin hwalked hn v.node f).mp hf
    exact ⟨h, above, hin, hwalked, hid, hskips, hf⟩
  · rintro ⟨h, above, hin, hwalked, hid, hskips, hf⟩
    have hn := hskips.isNode
    refine ⟨_, Spot.visit_mem hin hwalked hn hid, ?_, rfl⟩
    exact (finds_headingLevelSkip hlays hx hnamed hin hwalked hn n f).mpr ⟨above, hskips, hf⟩

/-! ### The levels in a list -/

/-- If neighbours of a type are related, all of them are a chain. -/
theorem isChain_ofType {name : String} {items : List Layout} {R : Layout → Layout → Prop}
    (h : ∀ (k : Nat) (y p : Layout), items[k]? = some y → y.tree.nodeType? = some name →
      (Layout.ofType name (items.take k)).getLast? = some p → R p y) :
    ∀ k, (Layout.ofType name (items.take k)).IsChain R
  | 0 => .nil
  | k + 1 => by
      have ih := isChain_ofType h k
      cases hy : items[k]? with
      | none =>
          rw [List.take_add_one, hy]
          simpa using ih
      | some y =>
          rw [Layout.ofType_take_add_one name hy]
          split
          · next htype =>
              refine List.isChain_append.mpr ⟨ih, .singleton y, ?_⟩
              rintro p hp _ ⟨⟩
              exact h k y p hy htype hp
          · exact ih

/-- Going down by one at most, `m` steps go down by `m` at most. -/
theorem le_of_isChain : ∀ {levels : List Int} {m : Nat} {first level : Int},
    levels.IsChain (fun above below => below ≤ above + 1) → levels.head? = some first →
    levels[m]? = some level → level ≤ first + m
  | [], _, _, _, _, hfirst, _ => by contradiction
  | first :: rest, 0, _, level, _, hfirst, hlevel => by
      obtain rfl := Option.some.inj hfirst
      obtain rfl := Option.some.inj hlevel
      simp
  | first :: second :: rest, m + 1, _, level, hchain, hfirst, hlevel => by
      obtain rfl := Option.some.inj hfirst
      obtain ⟨hstep, hrest⟩ := List.isChain_cons_cons.mp hchain
      have hle := le_of_isChain hrest rfl hlevel
      push_cast
      omega

/-- In a list that a walk comes to, the level of a heading without a finding is at most one
below that of the heading before. -/
theorem isChain_levels (hlays : s.Lays x) (hx : x.Unmixed) (hnamed : AllNamed x) {id : Nat}
    {items : List Layout} {around : List (Layout × Step)} (hin : x.Around around (.list id items))
    (hwalked : Spot.Walked ⟨.list id items, around⟩) {levels : List Int}
    (hlevels : (ofType "heading" items).map Layout.level? = levels.map some)
    (hnone : ∀ y ∈ ofType "heading" items, ∀ n ∈ y.id?, n ∉ (skipsIn s x).map (·.1)) :
    levels.IsChain fun above below => below ≤ above + 1 := by
  have hchain : (ofType "heading" items).IsChain fun p y =>
      ∀ above ∈ p.level?, ∀ below ∈ y.level?, below ≤ above + 1 := by
    rw [← List.take_length (l := items)]
    refine isChain_ofType (fun k y p hy htype hlast above habove below hbelow => ?_) _
    by_contra hskip
    obtain ⟨n, hn⟩ := Spot.id?_of_isNode (isNode_of_type htype)
    have hmem : y ∈ ofType "heading" items :=
      List.mem_filter.mpr ⟨List.mem_of_getElem? hy, by simpa using htype⟩
    -- The item is at a spot where the rule finds something.
    let h : Spot := ⟨y, (.list id items, .index k) :: around⟩
    have hspot : h.In x := ⟨by simpa [Layout.child?] using hy, hin⟩
    have hcome : h.Walked := List.forall_mem_cons.mpr ⟨by simp, hwalked⟩
    have hskips : Skips h p := ⟨htype, hlast, above, below, habove, hbelow, by omega⟩
    have hentry := (mem_skipsIn hlays hx hnamed).mpr ⟨h, p, hspot, hcome, hn, hskips, rfl⟩
    exact hnone y hmem n hn (List.mem_map_of_mem (f := Prod.fst) hentry)
  have hmap : ((ofType "heading" items).map Layout.level?).IsChain fun a b =>
      ∀ above ∈ a, ∀ below ∈ b, below ≤ above + 1 :=
    (List.isChain_map _).mpr hchain
  rw [hlevels, List.isChain_map] at hmap
  exact hmap.imp fun above below h => h above rfl below rfl

/-- Where the levels that are skipped cannot all be said, the run fails. -/
theorem returned_unnamed (hlays : session.store.Lays x) (hx : x.Unmixed)
    (hunnamed : ¬ AllNamed x) (highlight listen : Bool) :
    returned highlight listen [headingLevelSkip] x session = .error (.literal .unwritable) := by
  obtain ⟨store, heard⟩ := session
  have hoptions : (quiet highlight listen).Spares x.Holds := fun report h => by simp [quiet] at h
  have hrules : ∀ r ∈ [headingLevelSkip], r.Spares x.Holds :=
    List.forall_mem_singleton.mpr spares_headingLevelSkip
  obtain ⟨outcome, u, hrun, hends⟩ := run_cases hrules hoptions hlays
  rw [returned, hrun heard]
  rcases hends with
    ⟨replies, t, hanswered, -⟩ | ⟨replies, fault, emitted, hstopped, hfindings, -⟩
  · -- The rule has answered wherever a level is skipped.
    refine absurd (fun h above hin hwalked hskips => ?_) hunnamed
    obtain ⟨u, found, hu, hasked⟩ := hanswered.asked_ok rfl hlays hin hwalked hskips.isNode
      List.mem_cons_self headingLevelSkip_mem
    exact ((asked_headingLevelSkip_iff hu hin hskips.heading).mp ⟨found, hasked⟩).2 above hskips
  · obtain ⟨t, p, r, ht, hp, hwalked, hn, hr, hasked⟩ := hstopped.asked_error rfl hlays
      (List.forall_mem_singleton.mpr headingLevelSkip_mem)
    obtain rfl := List.mem_singleton.mp hr
    by_cases hnamed : ∀ above, Skips p above → p.here.Named ∧ above.Named
    · obtain ⟨found, hfound, -⟩ := asked_headingLevelSkip ht hx hp hn hnamed
      rw [hfound] at hasked
      contradiction
    · obtain ⟨above, hskips, hsilent⟩ :
          ∃ above, Skips p above ∧ ¬ (p.here.Named ∧ above.Named) := by
        simpa using hnamed
      have hfault := (asked_skips ht hp (clear_of_unmixed hx hp hn _) hskips).2 hsilent
      obtain rfl := Except.error.inj (hasked.symm.trans hfault)
      exact hfindings

/-- **Skipped levels of headings.** In a document where no list has both nodes and other values
in it, the rule alone finds one thing at each heading that a walk comes to and that is more
than one level below the last heading before it in its list: about the whole text of the
heading, and with both levels in its message. It finds nothing else. So if all headings of a
list that a walk comes to have a level and nothing is found at them, a heading is as many
levels below the first one as there are headings from there on, at most. All this holds if the
levels to be said have no more digits than can be written; if one of them has, the run fails. -/
theorem headings_exact (hlays : session.store.Lays x) (hx : x.Unmixed)
    (highlight listen : Bool) :
    (AllNamed x → ∃ found : List (Nat × Finding),
      returned highlight listen [headingLevelSkip] x session = .ok (found.map (·.2)) ∧
      (found.map (·.1)).Nodup ∧
      (∀ n f, (n, f) ∈ found ↔ ∃ h above, h.In x ∧ h.Walked ∧ h.here.id? = some n ∧
        Skips h above ∧ f = (skipped h.here above).finding) ∧
      ∀ (l : Spot) (id : Nat) (items : List Layout) (levels : List Int), l.In x → l.Walked →
        l.here = .list id items →
        (ofType "heading" items).map Layout.level? = levels.map some →
        (∀ y ∈ ofType "heading" items, ∀ n ∈ y.id?, n ∉ found.map (·.1)) →
        ∀ (m : Nat) (first level : Int), levels.head? = some first → levels[m]? = some level →
          level ≤ first + m) ∧
    (¬ AllNamed x →
      returned highlight listen [headingLevelSkip] x session = .error (.literal .unwritable)) := by
  refine ⟨fun hnamed => ?_, fun hunnamed => returned_unnamed hlays hx hunnamed highlight listen⟩
  refine ⟨skipsIn session.store x, ?_, nodup_skipsIn hlays,
    fun n f => mem_skipsIn hlays hx hnamed, ?_⟩
  · rw [skipsIn_finding]
    exact returned_headingLevelSkip hlays hx hnamed highlight listen
  · rintro ⟨here, around⟩ id items levels hin hwalked rfl hlevels hnone m first level hfirst hlevel
    exact le_of_isChain (isChain_levels hlays hx hnamed hin hwalked hlevels hnone) hfirst hlevel

/-- A heading of a level, and what else it has. -/
def heading (id : Nat) (level : Int) (more : List (String × Layout)) : Layout :=
  .record id (("type", .scalar (.str "heading")) :: ("level", .scalar (.int level)) :: more)

/-- Headings of the levels 1 and 3, with a paragraph between them. -/
def skippingHeadings : Layout :=
  .list 0 [heading 1 1 [], .record 2 [("type", .scalar (.str "paragraph"))],
    heading 3 3 [("title",
      .record 4 [("type", .scalar (.str "text")), ("content", .scalar (.str "Deep"))])]]

/-- A store that holds `skippingHeadings`. -/
def skippingHeadingsStore : Store :=
  ⟨#[.list [.object 1, .object 2, .object 3],
    .record [("type", .scalar (.str "heading")), ("level", .scalar (.int 1))],
    .record [("type", .scalar (.str "paragraph"))],
    .record [("type", .scalar (.str "heading")), ("level", .scalar (.int 3)),
      ("title", .object 4)],
    .record [("type", .scalar (.str "text")), ("content", .scalar (.str "Deep"))]]⟩

theorem lays_skippingHeadings : skippingHeadingsStore.Lays skippingHeadings := by
  refine ⟨?_, by decide, ?_⟩
  · simp [skippingHeadings, heading, Holds, HoldsFields, HoldsItems, skippingHeadingsStore,
      Store.cell?, fieldRefs, ref]
  · simp [skippingHeadings, heading, tree, treeItems, treeFields, Tree.Keyed, Tree.KeyedItems,
      Tree.KeyedFields]

/-- The second heading is found, past the paragraph. -/
theorem headings_exact_skippingHeadings :
    (skippingHeadingsStore.Lays skippingHeadings ∧ skippingHeadings.Unmixed) ∧
    ∃ found : List (Nat × Finding),
      returned true false [headingLevelSkip] skippingHeadings ⟨skippingHeadingsStore, none⟩ =
        .ok (found.map (·.2)) ∧
      (3, ⟨.str "heading-level-skip", .str ("Skipped heading level:\n" ++
        "this heading is level 3 but the previous heading was level 1."), .int 0, .int 4⟩) ∈
          found := by
  have hlays : (Session.mk skippingHeadingsStore none).store.Lays skippingHeadings :=
    lays_skippingHeadings
  have hunmixed : skippingHeadings.Unmixed := by
    refine ⟨.inl (by decide), ?_⟩
    simp [heading, UnmixedItems, UnmixedFields, Layout.Unmixed]
  have hnamed : AllNamed skippingHeadings := allNamed_of_isWritable hunmixed (by decide +kernel)
  obtain ⟨found, hrun, -, hmem, -⟩ := (headings_exact hlays hunmixed true false).1 hnamed
  refine ⟨⟨hlays, hunmixed⟩, found, hrun, (hmem _ _).mpr ?_⟩
  refine ⟨⟨_, [(skippingHeadings, .index 2)]⟩, heading 1 1 [], ⟨rfl, rfl⟩, ?_, rfl, ?_, ?_⟩
  · simp [Spot.Walked]
  · exact ⟨rfl, rfl, 1, 3, rfl, rfl, by decide⟩
  · decide

/-- Two headings in a field of the name `type`. -/
def typedByList : Layout :=
  .list 0 [.record 1 [("type", .list 2 [heading 3 1 [], heading 4 3 []])]]

/-- A store that holds `typedByList`. -/
def typedByListStore : Store :=
  ⟨#[.list [.object 1], .record [("type", .object 2)], .list [.object 3, .object 4],
    .record [("type", .scalar (.str "heading")), ("level", .scalar (.int 1))],
    .record [("type", .scalar (.str "heading")), ("level", .scalar (.int 3))]]⟩

theorem lays_typedByList : typedByListStore.Lays typedByList := by
  refine ⟨?_, by decide, ?_⟩
  · simp [typedByList, heading, Holds, HoldsFields, HoldsItems, typedByListStore, Store.cell?,
      fieldRefs, ref]
  · simp [typedByList, heading, tree, treeItems, treeFields, Tree.Keyed, Tree.KeyedItems,
      Tree.KeyedFields]

/-- A level with one digit more than can be written. -/
def longLevel : Int := .ofNat (tenTo Literal.maxDigits)

/-- A heading of the level 1, and one of this level. -/
def longSkip : Layout := .list 0 [heading 1 1 [], heading 2 longLevel []]

/-- A store that holds `longSkip`. -/
def longSkipStore : Store :=
  ⟨#[.list [.object 1, .object 2],
    .record [("type", .scalar (.str "heading")), ("level", .scalar (.int 1))],
    .record [("type", .scalar (.str "heading")), ("level", .scalar (.int longLevel))]]⟩

theorem lays_longSkip : longSkipStore.Lays longSkip := by
  refine ⟨?_, by decide, ?_⟩
  · simp [longSkip, heading, Holds, HoldsFields, HoldsItems, longSkipStore, Store.cell?,
      fieldRefs, ref]
  · simp [longSkip, heading, tree, treeItems, treeFields, Tree.Keyed, Tree.KeyedItems,
      Tree.KeyedFields]

theorem not_allNamed_longSkip : ¬ AllNamed longSkip := by
  intro hall
  let h : Spot := ⟨heading 2 longLevel [], [(longSkip, .index 1)]⟩
  have hfar : 1 < longLevel - 1 := by decide +kernel
  have hskips : Skips h (heading 1 1 []) := ⟨rfl, rfl, 1, longLevel, rfl, rfl, hfar⟩
  obtain ⟨hnamed, -⟩ := hall h _ ⟨rfl, rfl⟩ (by simp [h, Spot.Walked]) hskips
  have hlong : Literal.isWritable longLevel = false := by decide +kernel
  exact absurd (hnamed longLevel rfl) (by simp [hlong])

/-- Nothing is found in these documents, though a level is skipped in both. To the headings in
the first one no walk comes, and in the second one the level cannot be said. -/
theorem headings_unfound :
    ((typedByListStore.Lays typedByList ∧ typedByList.Unmixed) ∧
      (∃ h above, h.In typedByList ∧ h.here.id? = some 4 ∧ Skips h above) ∧
      returned false false [headingLevelSkip] typedByList ⟨typedByListStore, none⟩ = .ok []) ∧
    (longSkipStore.Lays longSkip ∧ longSkip.Unmixed) ∧
      returned false false [headingLevelSkip] longSkip ⟨longSkipStore, none⟩ =
        .error (.literal .unwritable) := by
  have hlays : (Session.mk typedByListStore none).store.Lays typedByList := lays_typedByList
  have hunmixed : typedByList.Unmixed := by
    refine ⟨.inr (by decide), ⟨⟨.inl (by decide), ?_⟩, trivial⟩, trivial⟩
    simp [heading, UnmixedItems, UnmixedFields, Layout.Unmixed]
  have hnamed : AllNamed typedByList := allNamed_of_isWritable hunmixed (by decide +kernel)
  have hlong : (Session.mk longSkipStore none).store.Lays longSkip := lays_longSkip
  have hunmixed' : longSkip.Unmixed := by
    refine ⟨.inl (by decide), ?_⟩
    simp [heading, UnmixedItems, UnmixedFields, Layout.Unmixed]
  refine ⟨⟨⟨hlays, hunmixed⟩, ?_, returned_headingLevelSkip hlays hunmixed hnamed false false⟩,
    ⟨hlong, hunmixed'⟩, returned_unnamed hlong hunmixed' not_allNamed_longSkip false false⟩
  refine ⟨⟨_, [(.list 2 [heading 3 1 [], heading 4 3 []], .index 1), (_, .key "type"),
    (typedByList, .index 0)]⟩, heading 3 1 [], ⟨rfl, rfl, rfl, rfl⟩, rfl, ?_⟩
  exact ⟨rfl, rfl, 1, 3, rfl, rfl, by decide⟩

end DocLint.Lint
