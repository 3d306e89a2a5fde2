import DocLint.Proofs.Lint.Replies
import DocLint.Proofs.Rule.Consistent

/-!
# DocLint.Proofs.Lint.Independent

**Rules do not influence one another.** A run of consistent rules that answer everywhere
finds what each of them says at each visit, whatever the others are (`returned_eq`). So the
findings can be numbered by their visit and their rule (`Entry`, `entries`): they come in
the order of these numbers, those of one rule are what a run of that rule alone returns, and
in another order of the rules only the findings of each node change their order
(`run_independent`). The built-in rules are consistent (`Catalogue.consistent_rules`).

Highlighting comes after the last question. It may fail, where a finding has no text for a
message or no number for a bound, but it does not touch the findings.
-/

namespace DocLint.Lint

open Layout Highlight Callback

/-- Highlight the document or not, and tell nobody of the findings. -/
def quiet (highlight listen : Bool) : Options := { highlight := highlight, listen := listen }

/-- What a run returns. -/
def returned (highlight listen : Bool) (rules : List Rule) (x : Layout) (session : Session) :
    Except Fault (List Finding) :=
  ((run (quiet highlight listen) rules x.ref).run session).1.findings

/-- What rules find at a visit, one after the other. -/
def told (said : Visit → Rule → Option Finding) (rules : List Rule) (v : Visit) : List Finding :=
  rules.flatMap fun r => (said v r).toList

variable {s t : Store} {x : Layout} {rules : List Rule} {vs : List Visit} {v : Visit}
  {highlight listen : Bool} {said : Visit → Rule → Option Finding}

/-! ### The visits of a quiet run -/

theorem ask_tells (h : ∀ r ∈ rules, r.Tells x v (said v r)) (hs : x.Holds s) (p : Progress) :
    ∃ t emitted p', ask (quiet highlight listen) v.node v.content rules ⟨s, v.cursor, p⟩ =
        .ok (told said rules v) ⟨t, v.cursor, p'⟩ ∧ x.Holds t ∧ Gained emitted [] [] p p' := by
  induction rules generalizing s p with
  | nil => exact ⟨s, [], p, rfl, hs, .refl p⟩
  | cons r rest ih =>
      obtain ⟨hr, hrest⟩ := List.forall_mem_cons.mp h
      obtain ⟨t, emitted, hcheck, ht⟩ := hr s hs
      have hasked := inSession_comesTo hcheck v.cursor p
      obtain ⟨u, more, p', hmore, hu, hgained⟩ :=
        ih hrest ht { p with heard := p.heard.map (· ++ emitted) }
      have hfirst : Gained emitted [] [] p { p with heard := p.heard.map (· ++ emitted) } :=
        ⟨rfl, rfl, rfl⟩
      refine ⟨u, emitted ++ more, p', (ask_cons ..).trans ((bind_ok hasked).trans ?_), hu,
        hfirst.trans hgained⟩
      unfold told at hmore ⊢
      rw [List.flatMap_cons]
      cases said v r with
      | none => exact hmore
      -- Nobody is told, so nothing happens between two questions.
      | some f => exact bind_ok hmore

theorem visit_tells (h : ∀ r ∈ rules, r.Tells x v (said v r)) (hs : x.Holds s) (p : Progress) :
    ∃ t emitted p', visit (quiet highlight listen) rules v.node v.content ⟨s, v.cursor, p⟩ =
        .ok () ⟨t, v.cursor, p'⟩ ∧ x.Holds t ∧
      Gained emitted (told said rules v) ((quiet highlight listen).mark v (told said rules v))
        p p' := by
  obtain ⟨t, emitted, p₁, hask, ht, hgained₁⟩ := ask_tells h hs p
  obtain ⟨p₂, hkeep, hgained₂⟩ := keep_apply (quiet highlight listen) (told said rules v) v t p₁
  refine ⟨t, emitted, p₂, (bind_ok hask).trans hkeep, ht, ?_⟩
  simpa using hgained₁.trans hgained₂

theorem visitAll_tells (h : ∀ v ∈ vs, ∀ r ∈ rules, r.Tells x v (said v r)) (hs : x.Holds s)
    (c : Cursor) (p : Progress) : ∃ t c' emitted p',
      Walk.visitAll (visit (quiet highlight listen) rules) vs ⟨s, c, p⟩ = .ok () ⟨t, c', p'⟩ ∧
      x.Holds t ∧ Gained emitted (vs.flatMap (told said rules))
        (vs.flatMap fun v => (quiet highlight listen).mark v (told said rules v)) p p' := by
  induction vs generalizing s c p with
  | nil => exact ⟨s, c, [], p, rfl, hs, .refl p⟩
  | cons v rest ih =>
      obtain ⟨hv, hrest⟩ := List.forall_mem_cons.mp h
      obtain ⟨t, emitted, p₁, hvisit, ht, hgained₁⟩ := visit_tells hv hs p
      obtain ⟨u, c', more, p₂, hmore, hu, hgained₂⟩ := ih hrest ht v.cursor p₁
      exact ⟨u, c', emitted ++ more, p₂, (bind_ok hvisit).trans hmore, hu, hgained₁.trans hgained₂⟩

/-- Whatever is asked, the document is left. -/
theorem ask_leaves (hrules : ∀ r ∈ rules, r.Consistent x) {node : Nat} {content : String}
    {c : Cursor} {p : Progress} {found : List Finding} {w : Scene Progress} (hs : x.Holds s)
    (h : ask (quiet highlight listen) node content rules ⟨s, c, p⟩ = .ok found w) :
    x.Holds w.store ∧ w.cursor = c := by
  induction rules generalizing s p found with
  | nil =>
      obtain rfl : _ = w := (EStateM.Result.ok.inj h).2
      exact ⟨hs, rfl⟩
  | cons r rest ih =>
      obtain ⟨hr, hrest⟩ := List.forall_mem_cons.mp hrules
      obtain ⟨result, t, emitted, hcheck, ht, -⟩ := hr.check c content s hs
      have hasked := inSession_comesTo hcheck c p
      rw [ask_cons] at h
      cases result with
      | error fault =>
          rw [bind_error hasked] at h
          contradiction
      | ok answer =>
          rw [bind_ok hasked] at h
          cases answer with
          | none => exact ih hrest ht h
          | some f =>
              replace h : (ask (quiet highlight listen) node content rest >>= fun more =>
                pure (f :: more)) _ = .ok found w := h
              cases hmore : ask (quiet highlight listen) node content rest
                  ⟨t, c, { p with heard := p.heard.map (· ++ emitted) }⟩ with
              | error fault w' =>
                  rw [bind_error hmore] at h
                  contradiction
              | ok more w' =>
                  rw [bind_ok hmore] at h
                  obtain rfl : w' = w := (EStateM.Result.ok.inj h).2
                  exact ih hrest ht hmore

theorem careful_consistent (hrules : ∀ r ∈ rules, r.Consistent x) (highlight listen : Bool) :
    Walk.Careful x (visit (quiet highlight listen) rules) := by
  intro node content w w' hnode hs h
  replace h : (ask (quiet highlight listen) node content rules >>=
    keep (quiet highlight listen) node content) w = .ok () w' := h
  cases hask : ask (quiet highlight listen) node content rules w with
  | error fault w₁ =>
      rw [bind_error hask] at h
      contradiction
  | ok found w₁ =>
      obtain ⟨hholds, hcursor⟩ := ask_leaves hrules hs hask
      obtain ⟨p, hkeep, -⟩ := keep_apply (quiet highlight listen) found
        ⟨node, content, w₁.cursor⟩ w₁.store w₁.data
      rw [bind_ok hask] at h
      obtain rfl := (EStateM.Result.ok.inj (hkeep.symm.trans h)).2
      exact ⟨hholds, hcursor⟩

/-! ### What a quiet run returns -/

/-- What comes of findings when the nodes are highlighted. -/
def afterwards (found : List Finding) :
    EStateM.Result Fault Session Unit → Except Fault (List Finding)
  | .ok _ _ => .ok found
  | .error fault _ => .error fault

variable {session : Session}

/-- A run finds what every rule says at every visit, and then highlights it. -/
theorem returned_eq (hrules : ∀ r ∈ rules, r.Consistent x) (hlays : session.store.Lays x)
    (hsaid : ∀ v ∈ x.visits .fresh, ∀ r ∈ rules, r.Tells x v (said v r))
    (highlight listen : Bool) : ∃ t heard, x.Holds t ∧
      returned highlight listen rules x session =
        afterwards ((x.visits .fresh).flatMap (told said rules))
          (highlightAll ((x.visits .fresh).flatMap fun v =>
            (quiet highlight listen).mark v (told said rules v)).reverse ⟨t, heard⟩) := by
  obtain ⟨t, c, emitted, p, hvisits, ht, hgained⟩ :=
    visitAll_tells hsaid hlays.holds .fresh (start listen)
  have hdocument := Walk.document_careful (careful_consistent hrules highlight listen)
    (start listen) hlays
  rw [hvisits] at hdocument
  have hfindings : p.findings.reverse = (x.visits .fresh).flatMap (told said rules) := by
    rw [hgained.findings]
    exact (congrArg List.reverse (List.append_nil _)).trans (List.reverse_reverse _)
  have hflagged := hgained.flagged.trans (List.append_nil _)
  refine ⟨t, p.heard, ht, ?_⟩
  rw [← hfindings, ← hflagged]
  -- The findings are not in the session that is highlighted.
  have hmark (c : Cursor) : ∃ w, (inSession (highlightAll p.flagged) >>= fun _ => do
      return (← get).data.findings.reverse : Walk Progress (List Finding)) ⟨t, c, p⟩ = w ∧
      ∀ session, (ending session w).1.findings =
        afterwards p.findings.reverse (highlightAll p.flagged ⟨t, p.heard⟩) := by
    cases hrun : highlightAll p.flagged ⟨t, p.heard⟩ with
    | ok _ u =>
        have hlift : highlightAll p.flagged ⟨t, p.heard⟩ =
            (liftM (.ok () : Except Fault Unit) : M Unit) ⟨u.store, u.heard⟩ := hrun
        exact ⟨_, bind_ok (inSession_lift hlift), fun _ => rfl⟩
    | error fault u =>
        have hlift : highlightAll p.flagged ⟨t, p.heard⟩ =
            (liftM (.error fault : Except Fault Unit) : M Unit) ⟨u.store, u.heard⟩ := hrun
        exact ⟨_, bind_error (inSession_lift hlift), fun _ => rfl⟩
  obtain ⟨w, hw, hends⟩ := hmark _
  have hwalk : walkAndHighlight (quiet highlight listen) rules x.ref
      ⟨session.store, .fresh, start (quiet highlight listen).listen⟩ = w :=
    (bind_ok hdocument).trans hw
  rw [returned, run_eq hwalk]
  exact hends session

/-- Without highlighting, these are the findings. -/
theorem returned_plain (hrules : ∀ r ∈ rules, r.Consistent x) (hlays : session.store.Lays x)
    (hsaid : ∀ v ∈ x.visits .fresh, ∀ r ∈ rules, r.Tells x v (said v r)) (listen : Bool) :
    returned false listen rules x session = .ok ((x.visits .fresh).flatMap (told said rules)) := by
  obtain ⟨t, heard, -, hreturned⟩ := returned_eq hrules hlays hsaid false listen
  have hnone : ((x.visits .fresh).flatMap fun v =>
      (quiet false listen).mark v (told said rules v)) = [] :=
    List.flatMap_eq_nil_iff.mpr fun _ _ => rfl
  rw [hreturned, hnone]
  rfl

theorem marks_remarks {found : Nat → List Remark}
    (h : ∀ v ∈ vs, told said rules v = (found v.node).map Remark.finding) (listen : Bool) :
    (vs.flatMap fun v => (quiet true listen).mark v (told said rules v)) = flags found vs := by
  induction vs with
  | nil => rfl
  | cons v rest ih =>
      obtain ⟨hv, hrest⟩ := List.forall_mem_cons.mp h
      rw [List.flatMap_cons, ih hrest, hv, mark_remarks]
      exact (flags_append found [v] rest).symm

theorem exists_remarks {fs : List Finding} (h : ∀ f ∈ fs, ∃ m : Remark, f = m.finding) :
    ∃ remarks : List Remark, fs = remarks.map Remark.finding := by
  induction fs with
  | nil => exact ⟨[], rfl⟩
  | cons f rest ih =>
      obtain ⟨⟨m, rfl⟩, hrest⟩ := List.forall_mem_cons.mp h
      obtain ⟨remarks, rfl⟩ := ih hrest
      exact ⟨m :: remarks, rfl⟩

/-- With highlighting, the run returns the same findings or fails, and it does not fail if the
findings are remarks. -/
theorem returned_highlight (hrules : ∀ r ∈ rules, r.Consistent x)
    (hlays : session.store.Lays x)
    (hsaid : ∀ v ∈ x.visits .fresh, ∀ r ∈ rules, r.Tells x v (said v r)) (listen : Bool) :
    (returned true listen rules x session = returned false listen rules x session ∨
      ∃ fault, returned true listen rules x session = .error fault) ∧
    ((∀ v ∈ x.visits .fresh, ∀ f ∈ told said rules v, ∃ m : Remark, f = m.finding) →
      returned true listen rules x session = returned false listen rules x session) := by
  obtain ⟨t, heard, ht, hreturned⟩ := returned_eq hrules hlays hsaid true listen
  rw [returned_plain hrules hlays hsaid listen, hreturned]
  constructor
  · cases highlightAll _ ⟨t, heard⟩ with
    | ok _ w => exact .inl rfl
    | error fault w => exact .inr ⟨fault, rfl⟩
  · intro hremarks
    have htold : ∀ v ∈ x.visits .fresh, ∃ remarks : List Remark,
        told said rules v = remarks.map Remark.finding ∧ True := by
      intro v hv
      obtain ⟨remarks, h⟩ := exists_remarks (hremarks v hv)
      exact ⟨remarks, h, trivial⟩
    obtain ⟨found, hfound, -⟩ :=
      exists_found trivial (nodup_visits hlays) htold
    obtain ⟨u, hreplay, -⟩ :=
      replay_document found (s := t) ⟨ht, hlays.unshared, hlays.keyed⟩ heard
    have hrun : highlightAll (flags found (x.visits .fresh)).reverse ⟨t, heard⟩ = _ := hreplay
    rw [marks_remarks hfound listen, hrun]
    rfl

/-! ### Numbered findings -/

section Numbering

variable {α β : Type} {f : α → Nat → List β}

/-- Numbers that are not used do not matter. -/
theorem flatMap_zipIdx (g : α → List β) (l : List α) (k : Nat) :
    ((l.zipIdx k).flatMap fun p => g p.1) = l.flatMap g := by
  rw [← List.flatMap_map, List.zipIdx_map_fst]

/-- What is made of items in order of their numbers is sorted by the numbers. -/
theorem pairwise_zipIdx {R : β → β → Prop} (l : List α) (k : Nat)
    (hsame : ∀ a n, (f a n).Pairwise R)
    (hbefore : ∀ a b n m, n < m → ∀ y ∈ f a n, ∀ z ∈ f b m, R y z) :
    ((l.zipIdx k).flatMap fun p => f p.1 p.2).Pairwise R := by
  have hnumbers : (l.zipIdx k).Pairwise fun p q => p.2 < q.2 := by
    rw [← List.pairwise_map (f := Prod.snd), List.zipIdx_map_snd]
    exact List.pairwise_lt_range' 1
  exact List.pairwise_flatMap.mpr ⟨fun p _ => hsame p.1 p.2,
    hnumbers.imp fun h => hbefore _ _ _ _ h⟩

/-- Of what is made of items, the part with one number is made of the item with that
number. -/
theorem filter_zipIdx (number : β → Nat) (hnumber : ∀ a n, ∀ b ∈ f a n, number b = n)
    (l : List α) (k j : Nat) :
    ((l.zipIdx k).flatMap fun p => f p.1 p.2).filter (number · = k + j) =
      l[j]?.toList.flatMap fun a => f a (k + j) := by
  induction l generalizing k j with
  | nil => rfl
  | cons a rest ih =>
      rw [List.zipIdx_cons, List.flatMap_cons, List.filter_append]
      cases j with
      | zero =>
          have hfirst : (f a k).filter (number · = k + 0) = f a k :=
            List.filter_eq_self.mpr fun b hb => by simpa using hnumber a k b hb
          have hrest : ((rest.zipIdx (k + 1)).flatMap fun p => f p.1 p.2).filter
              (number · = k + 0) = [] := by
            refine List.filter_eq_nil_iff.mpr fun b hb => ?_
            obtain ⟨p, hp, hb⟩ := List.mem_flatMap.mp hb
            have hle := List.le_snd_of_mem_zipIdx hp
            have hb := hnumber p.1 p.2 b hb
            simp only [decide_eq_true_eq]
            omega
          rw [hfirst, hrest]
          simp
      | succ j =>
          have hfirst : (f a k).filter (number · = k + (j + 1)) = [] := by
            refine List.filter_eq_nil_iff.mpr fun b hb => ?_
            have hb := hnumber a k b hb
            simp only [decide_eq_true_eq]
            omega
          have hshift : k + (j + 1) = k + 1 + j := by omega
          rw [hfirst, List.nil_append, hshift, ih]
          rfl

end Numbering

/-- A finding with the number of its visit and the number of its rule. -/
structure Entry where
  visit : Nat
  rule : Nat
  finding : Finding

/-- The numbers are in order. -/
def Entry.Before (e e' : Entry) : Prop :=
  e.visit < e'.visit ∨ e.visit = e'.visit ∧ e.rule < e'.rule

/-- What rules find at the visit with the number `i`. -/
def entriesAt (said : Visit → Rule → Option Finding) (rules : List Rule) (v : Visit) (i : Nat) :
    List Entry :=
  rules.zipIdx.flatMap fun p => (said v p.1).toList.map fun f => ⟨i, p.2, f⟩

/-- What rules find at visits. -/
def entries (said : Visit → Rule → Option Finding) (rules : List Rule) (vs : List Visit) :
    List Entry :=
  vs.zipIdx.flatMap fun p => entriesAt said rules p.1 p.2

theorem entriesAt_finding (said : Visit → Rule → Option Finding) (rules : List Rule) (v : Visit)
    (i : Nat) : (entriesAt said rules v i).map Entry.finding = told said rules v := by
  rw [entriesAt, List.map_flatMap, told, ← flatMap_zipIdx _ rules 0]
  simp [Function.comp_def]

theorem entries_finding (said : Visit → Rule → Option Finding) (rules : List Rule)
    (vs : List Visit) : (entries said rules vs).map Entry.finding = vs.flatMap (told said rules) := by
  rw [entries, List.map_flatMap, ← flatMap_zipIdx _ vs 0]
  simp only [entriesAt_finding]

theorem visit_entriesAt {e : Entry} {i : Nat} (h : e ∈ entriesAt said rules v i) : e.visit = i := by
  obtain ⟨p, -, he⟩ := List.mem_flatMap.mp h
  obtain ⟨f, -, rfl⟩ := List.mem_map.mp he
  rfl

theorem mem_entries {e : Entry} : e ∈ entries said rules vs ↔ ∃ v r,
    vs[e.visit]? = some v ∧ rules[e.rule]? = some r ∧ said v r = some e.finding := by
  constructor
  · intro h
    obtain ⟨⟨v, i⟩, hv, he⟩ := List.mem_flatMap.mp h
    obtain ⟨⟨r, j⟩, hr, he⟩ := List.mem_flatMap.mp he
    obtain ⟨f, hf, rfl⟩ := List.mem_map.mp he
    exact ⟨v, r, List.mk_mem_zipIdx_iff_getElem?.mp hv, List.mk_mem_zipIdx_iff_getElem?.mp hr,
      Option.mem_toList.mp hf⟩
  · rintro ⟨v, r, hv, hr, hsaid⟩
    refine List.mem_flatMap.mpr ⟨(v, e.visit), List.mk_mem_zipIdx_iff_getElem?.mpr hv, ?_⟩
    refine List.mem_flatMap.mpr ⟨(r, e.rule), List.mk_mem_zipIdx_iff_getElem?.mpr hr, ?_⟩
    exact List.mem_map.mpr ⟨e.finding, Option.mem_toList.mpr hsaid, rfl⟩

theorem entries_sorted (said : Visit → Rule → Option Finding) (rules : List Rule)
    (vs : List Visit) : (entries said rules vs).Pairwise Entry.Before := by
  refine pairwise_zipIdx vs 0 (fun v i => ?_) fun v u i i' hlt e he e' he' => ?_
  · refine pairwise_zipIdx (f := fun r j => (said v r).toList.map fun f => (⟨i, j, f⟩ : Entry))
      rules 0 (fun r j => ?_) fun r r' j j' hlt e he e' he' => ?_
    · cases said v r <;> simp
    · obtain ⟨f, -, rfl⟩ := List.mem_map.mp he
      obtain ⟨f', -, rfl⟩ := List.mem_map.mp he'
      exact .inr ⟨rfl, hlt⟩
  · refine .inl ?_
    rwa [visit_entriesAt he, visit_entriesAt he']

/-- The findings of one visit. -/
theorem entries_visit (said : Visit → Rule → Option Finding) (rules : List Rule)
    (vs : List Visit) (i : Nat) : ((entries said rules vs).filter (·.visit = i)).map Entry.finding =
      vs[i]?.toList.flatMap (told said rules) := by
  have h := filter_zipIdx (f := entriesAt said rules) Entry.visit
    (fun v n e he => visit_entriesAt he) vs 0 i
  rw [Nat.zero_add] at h
  rw [entries, h, List.map_flatMap]
  simp only [entriesAt_finding]

/-- The findings of one rule. -/
theorem entries_rule (said : Visit → Rule → Option Finding) (vs : List Visit) {j : Nat} {r : Rule}
    (hr : rules[j]? = some r) : ((entries said rules vs).filter (·.rule = j)).map Entry.finding =
      vs.flatMap (told said [r]) := by
  have h (v : Visit) (i : Nat) : ((entriesAt said rules v i).filter (·.rule = j)).map Entry.finding =
      told said [r] v := by
    have h := filter_zipIdx (f := fun r n => (said v r).toList.map fun f => (⟨i, n, f⟩ : Entry))
      Entry.rule (fun r n e he => by obtain ⟨f, -, rfl⟩ := List.mem_map.mp he; rfl) rules 0 j
    rw [Nat.zero_add, hr] at h
    rw [entriesAt, h]
    simp [told, Function.comp_def]
  rw [entries, List.filter_flatMap, List.map_flatMap, ← flatMap_zipIdx _ vs 0]
  simp only [h]

/-- The findings come visit by visit. -/
theorem entries_by_visit (said : Visit → Rule → Option Finding) (rules : List Rule)
    (vs : List Visit) : (entries said rules vs).Pairwise fun e e' => e.visit ≤ e'.visit := by
  refine (entries_sorted said rules vs).imp ?_
  rintro e e' (hlt | ⟨heq, -⟩)
  · exact Nat.le_of_lt hlt
  · exact Nat.le_of_eq heq

/-- In another order of the rules, the findings of one visit come in another order. -/
theorem entries_perm {rules' : List Rule} (h : rules'.Perm rules)
    (said : Visit → Rule → Option Finding) (vs : List Visit) (i : Nat) :
    (((entries said rules' vs).filter (·.visit = i)).map Entry.finding).Perm
      (((entries said rules vs).filter (·.visit = i)).map Entry.finding) := by
  rw [entries_visit, entries_visit]
  cases vs[i]? with
  | none => exact .refl _
  | some v =>
      simp only [Option.toList_some, List.flatMap_cons, List.flatMap_nil, List.append_nil]
      exact h.flatMap_right _

/-! ### Rules do not influence one another -/

/-- What a rule finds at a visit, if it answers. -/
def finds (s : Store) (v : Visit) (r : Rule) : Option Finding :=
  match r.asked s v.cursor v.content with
  | .ok found => found
  | .error _ => none

theorem finds_of_asked {r : Rule} {found : Option Finding}
    (h : r.asked s v.cursor v.content = .ok found) : finds s v r = found := by
  rw [finds, h]

/-- The findings are those with which rules answer by themselves, if all of them answer. -/
theorem mem_entries_finds {e : Entry} (hasked : ∀ v ∈ vs, ∀ r ∈ rules, ∃ found,
    r.asked s v.cursor v.content = .ok found) : e ∈ entries (finds s) rules vs ↔
      ∃ v r, vs[e.visit]? = some v ∧ rules[e.rule]? = some r ∧
        r.asked s v.cursor v.content = .ok (some e.finding) := by
  refine mem_entries.trans (exists_congr fun v => exists_congr fun r => ?_)
  refine and_congr_right fun hv => and_congr_right fun hr => ?_
  obtain ⟨answer, hanswer⟩ := hasked v (List.mem_of_getElem? hv) r (List.mem_of_getElem? hr)
  rw [finds_of_asked hanswer, hanswer, Except.ok.injEq]

/-- **Rules do not influence one another.** If consistent rules answer at all visits, the
findings of a run have different numbers of visit and rule each, and are sorted by them;
there is one wherever the rule by itself answers with a finding. Each rule finds what it finds
alone, and in another order of the rules the findings are those of the same visits, only in
another order there. With highlighting the same findings are returned, if any are; and they
are if they are all remarks. -/
theorem run_independent (hrules : ∀ r ∈ rules, r.Consistent x) (hlays : session.store.Lays x)
    (hasked : ∀ v ∈ x.visits .fresh, ∀ r ∈ rules, ∃ found,
      r.asked session.store v.cursor v.content = .ok found) (listen : Bool) :
    ∃ found : List Entry, found.Pairwise Entry.Before ∧
      (∀ e, e ∈ found ↔ ∃ v r, (x.visits .fresh)[e.visit]? = some v ∧
        rules[e.rule]? = some r ∧
        r.asked session.store v.cursor v.content = .ok (some e.finding)) ∧
      returned false listen rules x session = .ok (found.map Entry.finding) ∧
      (∀ (j : Nat) (r : Rule), rules[j]? = some r → returned false listen [r] x session =
        .ok ((found.filter (·.rule = j)).map Entry.finding)) ∧
      (∀ rules' : List Rule, rules'.Perm rules → ∃ found' : List Entry,
        returned false listen rules' x session = .ok (found'.map Entry.finding) ∧
        found'.Pairwise (fun e e' => e.visit ≤ e'.visit) ∧
        ∀ i, ((found'.filter (·.visit = i)).map Entry.finding).Perm
          ((found.filter (·.visit = i)).map Entry.finding)) ∧
      ∀ rules' : List Rule, rules' ⊆ rules →
        (returned true listen rules' x session = returned false listen rules' x session ∨
          ∃ fault, returned true listen rules' x session = .error fault) ∧
        ((∀ e ∈ found, ∃ m : Remark, e.finding = m.finding) →
          returned true listen rules' x session = returned false listen rules' x session) := by
  have hsaid {rules' : List Rule} (hsub : rules' ⊆ rules) :
      ∀ v ∈ x.visits .fresh, ∀ r ∈ rules', r.Tells x v (finds session.store v r) := by
    intro v hv r hr
    obtain ⟨answer, hanswer⟩ := hasked v hv r (hsub hr)
    rw [finds_of_asked hanswer]
    exact (hrules r (hsub hr)).tells hlays hv hanswer
  have hplain {rules' : List Rule} (hsub : rules' ⊆ rules) :=
    returned_plain (fun r hr => hrules r (hsub hr)) hlays (hsaid hsub) listen
  refine ⟨entries (finds session.store) rules (x.visits .fresh), entries_sorted ..,
    fun e => mem_entries_finds hasked, ?_, ?_, ?_, ?_⟩
  · rw [entries_finding]
    exact hplain (List.Subset.refl _)
  · intro j r hr
    rw [entries_rule _ _ hr]
    exact hplain (List.cons_subset.mpr ⟨List.mem_of_getElem? hr, List.nil_subset _⟩)
  · intro rules' hperm
    refine ⟨entries (finds session.store) rules' (x.visits .fresh), ?_, entries_by_visit ..,
      entries_perm hperm _ _⟩
    rw [entries_finding]
    exact hplain hperm.subset
  · intro rules' hsub
    obtain ⟨hsame, hremarks⟩ := returned_highlight (fun r hr => hrules r (hsub hr)) hlays
      (hsaid hsub) listen
    refine ⟨hsame, fun hall => hremarks fun v hv f hf => ?_⟩
    obtain ⟨r, hr, hf⟩ := List.mem_flatMap.mp hf
    obtain ⟨i, hi⟩ := List.getElem?_of_mem hv
    obtain ⟨j, hj⟩ := List.getElem?_of_mem (hsub hr)
    exact hall ⟨i, j, f⟩ (mem_entries.mpr ⟨v, r, hi, hj, Option.mem_toList.mp hf⟩)

/-- A rule about every node. -/
def seen : Rule := ⟨.str "seen", .any, none, .message "here"⟩

theorem consistent_oneText : ∀ r ∈ [second, seen], r.Consistent oneText := by
  intro r hr callback haction
  rcases List.mem_cons.mp hr with rfl | hr
  · obtain rfl := Action.ask.inj haction
    exact ⟨fun _ _ => spares_pure trivial, fun _ _ _ _ _ _ _ => rfl⟩
  · obtain rfl := List.mem_singleton.mp hr
    contradiction

/-- Both rules find something at the text, and one of them finds the same alone. -/
theorem run_independent_oneText :
    ((∀ r ∈ [second, seen], r.Consistent oneText) ∧ oneTextStore.Lays oneText ∧
      ∀ v ∈ oneText.visits .fresh, ∀ r ∈ [second, seen], ∃ found,
        r.asked oneTextStore v.cursor v.content = .ok found) ∧
    ∃ found : List Entry, ⟨0, 0, ⟨.str "second", .str "odd", .int 1, .int 2⟩⟩ ∈ found ∧
      ⟨0, 1, ⟨.str "seen", .str "here", .int 0, .int 3⟩⟩ ∈ found ∧
      returned false false [second, seen] oneText ⟨oneTextStore, none⟩ =
        .ok (found.map Entry.finding) ∧
      returned false false [seen] oneText ⟨oneTextStore, none⟩ =
        .ok ((found.filter (·.rule = 1)).map Entry.finding) := by
  have hlays : (Session.mk oneTextStore none).store.Lays oneText := lays_oneText
  have hasked : ∀ v ∈ oneText.visits .fresh, ∀ r ∈ [second, seen], ∃ found,
      r.asked oneTextStore v.cursor v.content = .ok found := by
    intro v hv r hr
    have hvisits : oneText.visits .fresh = [_, _] := rfl
    rw [hvisits] at hv
    simp only [List.mem_cons, List.not_mem_nil, or_false] at hv hr
    rcases hv with rfl | rfl <;> rcases hr with rfl | rfl <;> exact ⟨_, rfl⟩
  obtain ⟨found, -, hmem, hall, halone, -⟩ :=
    run_independent consistent_oneText hlays hasked false
  exact ⟨⟨consistent_oneText, hlays, hasked⟩, found, (hmem _).mpr ⟨_, second, rfl, rfl, rfl⟩,
    (hmem _).mpr ⟨_, seen, rfl, rfl, rfl⟩, hall, halone 1 seen rfl⟩

end DocLint.Lint
