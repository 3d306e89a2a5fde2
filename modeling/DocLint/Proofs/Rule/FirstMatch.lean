import DocLint.Proofs.Rule.Attach
import DocLint.Proofs.Rule.Search

/-!
# DocLint.Proofs.Rule.FirstMatch

**A list of selectors finds what its first selector finds that finds something.** A rule whose
selectors stand in one text with commas between them is compared with the rules that have one of
these selectors each (`check_firstMatch`). An alternative can fail for two reasons, because it
does not match and because its pattern is not found; the next one is tried in both cases.

A rule passes through its alternatives as if it asked about each of them alone
(`target?_firstMatch`). The place that is reported is where the pattern of the alternative is
found, and so lies inside the text.
-/

namespace DocLint

open Selector

namespace Rule

/-! ### Asking about alternatives -/

variable {name : Tree} {message : String} {s : Selector} {pattern : Option Pattern}
  {store : Store} {c : Cursor} {content : String}

/-- A rule with several alternatives answers as the first one does that answers alone. -/
theorem target?_firstMatch {alternatives : List (Selector × Option Pattern)}
    {hits : List (Option (Matched × TextMatch))}
    (h : List.Forall₂ (fun a hit => target? store c content [a] = .ok hit) alternatives hits) :
    target? store c content alternatives = .ok (hits.findSome? id) := by
  induction h with
  | nil => rfl
  | @cons a hit rest hits ha hrest ih =>
      obtain ⟨selector, pattern⟩ := a
      rw [target?] at ha ⊢
      cases hfind : selector.find? store c with
      | error fault =>
          rw [hfind] at ha
          contradiction
      | ok nodes =>
          rw [hfind] at ha
          cases nodes with
          | none =>
              obtain rfl := Except.ok.inj ha
              exact ih
          | some nodes =>
              simp only [bind, Except.bind] at ha ⊢
              cases hsearch : Pattern.search? pattern content with
              | none =>
                  rw [hsearch] at ha
                  obtain rfl := Except.ok.inj ha
                  exact ih
              | some found =>
                  rw [hsearch] at ha
                  obtain rfl := Except.ok.inj ha
                  rfl

/-- An alternative that is matched without a fault finds a place for its pattern, or nothing. -/
theorem target?_single (content : String) {pattern : Option Pattern}
    (hpattern : pattern ≠ some (.fixed "")) (h : ∃ nodes, s.find? store c = .ok nodes) :
    ∃ hit, target? store c content [(s, pattern)] = .ok hit ∧ ∀ t ∈ hit, ∃ start stop : Nat,
      t.2.start = start ∧ t.2.stop = stop ∧ Finds pattern content start stop := by
  obtain ⟨nodes, hfind⟩ := h
  rw [target?, hfind]
  cases nodes with
  | none => exact ⟨none, rfl, by simp⟩
  | some nodes =>
      simp only [bind, Except.bind]
      cases hsearch : Pattern.search? pattern content with
      | none => exact ⟨none, rfl, by simp⟩
      | some found =>
          refine ⟨some (nodes, found), rfl, ?_⟩
          rintro _ ⟨⟩
          exact search?_spec hpattern hsearch

/-- What a rule with a message reports. -/
def reported (name : Tree) (message : String) (t : Matched × TextMatch) : Finding :=
  ⟨name, .str message, .int t.2.start, .int t.2.stop⟩

/-- A rule with a message reports where the pattern was found. -/
theorem check_message {target : Option (Matched × TextMatch)} {session : Session}
    (h : target? session.store c content (Rule.mk name s pattern (.message message)).alternatives =
      .ok target) : (Rule.mk name s pattern (.message message)).check c content session =
        .ok (target.map (reported name message)) session := by
  show (liftM (target? session.store c content _) >>= _ : Callback.M (Option Finding)) session = _
  rw [h]
  cases target <;> rfl

theorem patternFor_ne_empty {r : Rule} (h : r.pattern ≠ some (.fixed "")) (s : Selector) :
    r.patternFor s ≠ some (.fixed "") := by
  cases s with
  | filtered => simp [patternFor]
  | _ => exact h

theorem exists_forall₂ {α β : Type} {R : α → β → Prop} {as : List α} (h : ∀ a ∈ as, ∃ b, R a b) :
    ∃ bs, List.Forall₂ R as bs := by
  induction as with
  | nil => exact ⟨[], .nil⟩
  | cons a as ih =>
      obtain ⟨⟨b, hb⟩, has⟩ := List.forall_mem_cons.mp h
      obtain ⟨bs, hbs⟩ := ih has
      exact ⟨b :: bs, .cons hb hbs⟩

end Rule

section Names

variable [CharacterNames]

/-- A text that is read as a tree is the text of a tree, up to blanks. -/
theorem stands_tree {text : String} {s : Selector} (h : parse text = .ok s ∧ s.IsTree) :
    Stands text s := by
  obtain ⟨front, core, back, htext, hfront, hback, hcore⟩ := denotes_of_parse h.1
  refine ⟨front, core, back, by rw [htext, List.append_assoc], hfront, hback, ?_⟩
  cases hcore with
  | tree htree =>
      cases htree with
      | one htree => exact htree
  | list => exact h.2.elim

theorem IsTree.ne_list {s : Selector} (h : s.IsTree) (ss : List Selector) : s ≠ .list ss := by
  rintro rfl
  exact h.elim

namespace Rule

/-! ### Making rules from texts -/

/-- What may be given as the pattern of a rule, and what becomes of it. -/
inductive Takes : Tree → Option Pattern → Prop
  | nothing : Takes .null none
  | fixed {p : String} (hne : p ≠ "") (hslash : p.toList.head? ≠ some '/') :
      Takes (.str p) (some (.fixed p))
  | expression {body flags : String} {regex : Regex} (hflags : flags = "" ∨ flags = "i")
      (hcompile : Regex.compile body (flags == "i") = .ok regex) :
      Takes (.str (slashed body flags)) (some (.regex regex))

variable {name p : Tree} {pattern : Option Pattern} {message text : String} {s : Selector}

theorem Takes.ofTree? (h : Takes p pattern) : Pattern.ofTree? p = .ok pattern := by
  cases h with
  | nothing => rfl
  | @fixed p hne hslash =>
      have hread : Pattern.ofText p = .ok (.fixed p) := by
        unfold Pattern.ofText
        split
        · next hlist => exact absurd (by rw [hlist]; rfl) hslash
        · rfl
      rw [Pattern.ofTree?, isEmpty_str hne, if_neg Bool.false_ne_true]
      show (Pattern.ofText p >>= fun pattern => pure (some pattern)) = _
      rw [hread]
      rfl
  | expression hflags hcompile => rw [ofTree?_slashed hflags, hcompile]

theorem Takes.ne_empty (h : Takes p pattern) : pattern ≠ some (.fixed "") := by
  rintro rfl
  cases h with
  | fixed hne => exact hne rfl

/-- A rule from the text of its selector, its pattern and a message. -/
def ofText (name : Tree) (text : String) (p : Tree) (message : String) : Except Fault Rule :=
  make name (.foreign (.str text)) p (.value (.str message))

theorem ofText_ok (hparse : parse text = .ok s) (hp : Takes p pattern) :
    ofText name text p message = .ok ⟨name, s, pattern, .message message⟩ := by
  rw [ofText, make, isMissing, isEmpty_of_parse hparse, Bool.false_and,
    if_neg Bool.false_ne_true, givenSelector?, hparse, hp.ofTree?]
  rfl

/-! ### Lists of selectors -/

theorem alternatives_list {first : Selector} {more : List Selector} {action : Action}
    (hfirst : first.IsTree) :
    (Rule.mk name (ofAlternatives first more) pattern action).alternatives =
      (first :: more).map fun s => (s, (Rule.mk name s pattern action).patternFor s) := by
  rw [alternatives, alternativesOf_ofAlternatives (IsTree.ne_list hfirst)]
  refine List.map_congr_left fun s _ => ?_
  cases s <;> rfl

theorem alternatives_tree {action : Action} (hs : s.IsTree) :
    (Rule.mk name s pattern action).alternatives =
      [(s, (Rule.mk name s pattern action).patternFor s)] := by
  show (Rule.mk name (ofAlternatives s []) pattern action).alternatives = _
  exact alternatives_list hs

/-- **The first selector of a list that finds something counts.** Selectors are read one by one
and together, and rules are made of them with the same pattern and the same message. Where all
of them can be matched, the rule with the list answers what the first rule answers that has a
finding, or that there is none. The finding is about a part of the text; if its selector
has no pattern of its own, this is the place for the pattern that the rules were given. -/
theorem check_firstMatch {texts : List String} {trees : List Selector} (hne : texts ≠ [])
    (htexts : List.Forall₂ (fun text s => parse text = .ok s ∧ s.IsTree) texts trees)
    (hp : Takes p pattern) (name : Tree) (message : String) :
    ∃ rule singles,
      ofText name (", ".intercalate texts) p message = .ok rule ∧
      List.Forall₂ (fun text single => ofText name text p message = .ok single) texts singles ∧
      ∀ c content session, (∀ s ∈ trees, ∃ nodes, s.find? session.store c = .ok nodes) →
        ∃ answers : List (Option Finding),
          List.Forall₂ (fun single answer => single.check c content session = .ok answer session)
            singles answers ∧
          rule.check c content session = .ok (answers.findSome? id) session ∧
          List.Forall₂ (fun s answer => ∀ finding ∈ answer, ∃ start stop : Nat,
            finding = ⟨name, .str message, .int start, .int stop⟩ ∧
            start ≤ stop ∧ stop ≤ content.length ∧
            (s.IsChain → Finds pattern content start stop)) trees answers := by
  obtain ⟨text, rest, rfl⟩ := List.exists_cons_of_ne_nil hne
  obtain ⟨first, more, hfirst, -, rfl⟩ := List.forall₂_cons_left_iff.mp htexts
  have hparse : parse (", ".intercalate (text :: rest)) = .ok (ofAlternatives first more) :=
    (denotes_join (htexts.imp fun _ _ => stands_tree)).parse
  have htrees : ∀ s ∈ first :: more, s.IsTree :=
    ((List.forall₂_and_left _ _).mp (htexts.flip.imp fun _ _ h => h.symm)).1
  let single (s : Selector) : Rule := ⟨name, s, pattern, .message message⟩
  refine ⟨single (ofAlternatives first more), (first :: more).map single, ofText_ok hparse hp, ?_,
    ?_⟩
  · rw [List.forall₂_map_right_iff]
    exact htexts.imp fun _ _ h => ofText_ok h.1 hp
  intro c content session hmatch
  -- What each alternative finds alone.
  obtain ⟨hits, hhits⟩ := exists_forall₂ fun s hs =>
    (target?_single content (patternFor_ne_empty (r := single s) hp.ne_empty s)
      (hmatch s hs)).imp fun hit h => And.intro (htrees s hs) h
  refine ⟨hits.map (Option.map (reported name message)), ?_, ?_, ?_⟩
  · rw [List.forall₂_map_left_iff, List.forall₂_map_right_iff]
    refine hhits.imp fun s hit h => check_message ?_
    rw [alternatives_tree h.1]
    exact h.2.1
  · have htarget : target? session.store c content
        (single (ofAlternatives first more)).alternatives = .ok (hits.findSome? id) := by
      rw [alternatives_list (htrees first List.mem_cons_self)]
      refine target?_firstMatch ?_
      rw [List.forall₂_map_left_iff]
      exact hhits.imp fun s hit h => h.2.1
    rw [check_message htarget, List.findSome?_map, List.map_findSome?]
    rfl
  · rw [List.forall₂_map_right_iff]
    refine hhits.imp fun s hit h finding hfinding => ?_
    obtain ⟨t, ht, rfl⟩ := Option.map_eq_some_iff.mp hfinding
    obtain ⟨start, stop, hstart, hstop, hfinds⟩ := h.2.2 t ht
    refine ⟨start, stop, by rw [reported, hstart, hstop], hfinds.within.1, hfinds.within.2, ?_⟩
    intro hchain
    rwa [patternFor_chain hchain] at hfinds

end Rule

end Names

namespace Rule

/-- Any node with something in its text, and any node. -/
def filteredThenAny (filter : TextFilter) : List Selector := [.filtered .any filter, .any]

/-- In a text without an `a`, the second selector finds the pattern of the rule. -/
theorem check_firstMatch_filteredThenAny :
    ∃ filter,
    (List.Forall₂ (fun text s => parse text = .ok s ∧ s.IsTree) ["* /a/", "*"]
        (filteredThenAny filter) ∧
      Takes (.str "b") (some (.fixed "b")) ∧
      ∀ s ∈ filteredThenAny filter, ∃ nodes, s.find? ⟨#[]⟩ .fresh = .ok nodes) ∧
    ∃ (rule : Rule) (singles : List Rule) (answers : List (Option Finding)),
      ofText (.str "b") (", ".intercalate ["* /a/", "*"]) (.str "b") "Found." = .ok rule ∧
      List.Forall₂ (fun single answer =>
        single.check .fresh "xb" ⟨⟨#[]⟩, none⟩ = .ok answer ⟨⟨#[]⟩, none⟩) singles answers ∧
      rule.check .fresh "xb" ⟨⟨#[]⟩, none⟩ = .ok (answers.findSome? id) ⟨⟨#[]⟩, none⟩ := by
  obtain ⟨filter, hsource, hflags, hcompiled⟩ :=
    TextFilter.exists_compiled "a" "" (by decide +kernel)
  obtain ⟨source, flags, regex⟩ := filter
  subst hsource hflags
  have hany : IsTree .any := trivial
  have hsource : IsPatternSource "a" := by decide
  have hfiltered : IsTree (.filtered .any ⟨"a", "", regex⟩) :=
    ⟨trivial, hsource, .inl rfl, hcompiled⟩
  obtain ⟨text, hformat, hparse⟩ := parse_format hfiltered.written
  obtain rfl : "* /a/" = text := Except.ok.inj hformat
  obtain ⟨text, hformat, hparse'⟩ := parse_format hany.written
  obtain rfl : "*" = text := Except.ok.inj hformat
  have htexts : List.Forall₂ (fun text s => parse text = .ok s ∧ s.IsTree) ["* /a/", "*"]
      (filteredThenAny ⟨"a", "", regex⟩) := .cons ⟨hparse, hfiltered⟩ (.cons ⟨hparse', hany⟩ .nil)
  have hp : Takes (.str "b") (some (.fixed "b")) := .fixed (by decide) (by decide)
  have hmatch : ∀ s ∈ filteredThenAny ⟨"a", "", regex⟩,
      ∃ nodes, s.find? ⟨#[]⟩ .fresh = .ok nodes := by
    simp [filteredThenAny, find?, pure, Except.pure]
  obtain ⟨rule, singles, hrule, -, hcheck⟩ :=
    check_firstMatch (List.cons_ne_nil _ _) htexts hp (.str "b") "Found."
  obtain ⟨answers, hsingles, hanswer, -⟩ := hcheck .fresh "xb" ⟨⟨#[]⟩, none⟩ hmatch
  exact ⟨_, ⟨htexts, hp, hmatch⟩, rule, singles, answers, hrule, hsingles, hanswer⟩

end Rule

end DocLint
