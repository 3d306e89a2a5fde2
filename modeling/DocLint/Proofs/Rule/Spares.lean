import DocLint.Catalogue
import DocLint.Proofs.Lint.Rebuild
import DocLint.Proofs.Walk.Step

/-!
# DocLint.Proofs.Rule.Spares

**What callbacks may do.** A callback may look at the document, make objects, start runs
of its own over other documents, and report diagnostics; it may also fail. What matters
to the run that asks it is that the document stays and that diagnostics are only added to
what is heard (`Callback.Spares`): then it comes to the same whoever listens, and what it
emits does not hang on that either.

The property is kept by the sequence of computations (`Spares.bind`), so the question to
a rule has it if its callback does (`Rule.Spares.check`). The callbacks of the built-in
rules have it because everything they are made of does; what is more, they do not fail
(`Callback.Returns`), but for the two that name the levels of headings: a level may have too
many digits to be written, and the lowest level that is allowed too many marks.
-/

namespace DocLint

namespace Callback

variable {α β : Type} {inv : Store → Prop} {P : α → Prop} {Q : β → Prop} {m : M α}

/-- From the store `s` the computation comes to a result and to the store `t`, whoever
listens, and adds `emitted` to what is heard. -/
def ComesTo (m : M α) (s : Store) (result : Except Fault α) (t : Store)
    (emitted : List Diagnostic) : Prop :=
  ∀ heard : Option (List Diagnostic),
    m ⟨s, heard⟩ = (liftM result : M α) ⟨t, heard.map (· ++ emitted)⟩

/-- The computation keeps `inv`, it does not hang on who listens, to what is heard it only
adds, and what it returns has the property `P`. -/
def Spares (inv : Store → Prop) (m : M α) (P : α → Prop) : Prop :=
  ∀ s, inv s → ∃ result t emitted, ComesTo m s result t emitted ∧ inv t ∧
    ∀ a, result = .ok a → P a

/-! ### Sequences -/

theorem comesTo_lift (result : Except Fault α) (s : Store) :
    ComesTo (liftM result : M α) s result s [] := by
  intro heard
  cases heard <;> simp

theorem ComesTo.bind_ok {f : α → M β} {s t u : Store} {a : α} {result : Except Fault β}
    {emitted more : List Diagnostic} (h : ComesTo m s (.ok a) t emitted)
    (h' : ComesTo (f a) t result u more) : ComesTo (m >>= f) s result u (emitted ++ more) := by
  intro heard
  refine (DocLint.bind_ok (h heard)).trans ((h' _).trans ?_)
  cases heard <;> simp

theorem ComesTo.bind_error {f : α → M β} {s t : Store} {fault : Fault}
    {emitted : List Diagnostic} (h : ComesTo m s (.error fault) t emitted) :
    ComesTo (m >>= f) s (.error fault) t emitted :=
  fun heard => DocLint.bind_error (h heard)

/-- What is done with the document as it is. -/
theorem comesTo_get {f : Session → M α} {g : M α} {s t : Store} {result : Except Fault α}
    {emitted : List Diagnostic} (hf : ∀ heard, f ⟨s, heard⟩ = g)
    (h : ComesTo g s result t emitted) : ComesTo (get >>= f) s result t emitted := by
  intro heard
  rw [get_bind, hf heard]
  exact h heard

/-- A computation comes to one result only. -/
theorem ComesTo.unique {s t u : Store} {result result' : Except Fault α}
    {emitted more : List Diagnostic} (h : ComesTo m s result t emitted)
    (h' : ComesTo m s result' u more) : result = result' := by
  have heq := (h none).symm.trans (h' none)
  cases result with
  | ok a =>
      cases result' with
      | ok b => exact congrArg Except.ok (EStateM.Result.ok.inj heq).1
      | error fault => contradiction
  | error fault =>
      cases result' with
      | ok b => contradiction
      | error fault' => exact congrArg Except.error (EStateM.Result.error.inj heq).1

theorem spares_lift {result : Except Fault α} (h : ∀ a, result = .ok a → P a) :
    Spares inv (liftM result : M α) P :=
  fun s hs => ⟨result, s, [], comesTo_lift result s, hs, h⟩

theorem spares_pure {a : α} (h : P a) : Spares inv (pure a) P :=
  fun s hs => ⟨.ok a, s, [], comesTo_lift (.ok a) s, hs, fun _ heq => Except.ok.inj heq ▸ h⟩

theorem Spares.bind {f : α → M β} (hm : Spares inv m P) (hf : ∀ a, P a → Spares inv (f a) Q) :
    Spares inv (m >>= f) Q := by
  intro s hs
  obtain ⟨result, t, emitted, hrun, ht, hP⟩ := hm s hs
  cases result with
  | error fault => exact ⟨.error fault, t, emitted, hrun.bind_error, ht, by simp⟩
  | ok a =>
      obtain ⟨result, u, more, hmore, hu, hQ⟩ := hf a (hP a rfl) t ht
      exact ⟨result, u, emitted ++ more, hrun.bind_ok hmore, hu, hQ⟩

/-- To look at the document spares it. -/
theorem spares_get {f : Session → M α}
    (h : ∀ s, ∃ g : M α, (∀ heard, f ⟨s, heard⟩ = g) ∧ Spares inv g P) :
    Spares inv (get >>= f) P := by
  intro s hs
  obtain ⟨g, hf, hg⟩ := h s
  obtain ⟨result, t, emitted, hrun, hrest⟩ := hg s hs
  exact ⟨result, t, emitted, comesTo_get hf hrun, hrest⟩

/-! ### Computations that do not fail -/

/-- The computation does not fail, it leaves all documents alone, to what is heard it only
adds, and what it returns has the property `P`. -/
def Returns (m : M α) (P : α → Prop) : Prop :=
  ∀ s, ∃ a emitted, ComesTo m s (.ok a) s emitted ∧ P a

theorem Returns.spares (h : Returns m P) : Spares inv m P := by
  intro s hs
  obtain ⟨a, emitted, hrun, ha⟩ := h s
  exact ⟨.ok a, s, emitted, hrun, hs, fun _ heq => Except.ok.inj heq ▸ ha⟩

theorem returns_pure {a : α} (h : P a) : Returns (pure a) P :=
  fun s => ⟨a, [], comesTo_lift (.ok a) s, h⟩

theorem Returns.bind {f : α → M β} (hm : Returns m P) (hf : ∀ a, P a → Returns (f a) Q) :
    Returns (m >>= f) Q := by
  intro s
  obtain ⟨a, emitted, hrun, ha⟩ := hm s
  obtain ⟨b, more, hmore, hb⟩ := hf a ha s
  exact ⟨b, emitted ++ more, hrun.bind_ok hmore, hb⟩

/-- To look at the document cannot fail. -/
theorem returns_get {f : Session → M α}
    (h : ∀ s, ∃ g : M α, (∀ heard, f ⟨s, heard⟩ = g) ∧ Returns g P) : Returns (get >>= f) P := by
  intro s
  obtain ⟨g, hf, hg⟩ := h s
  obtain ⟨a, emitted, hrun, ha⟩ := hg s
  exact ⟨a, emitted, comesTo_get hf hrun, ha⟩

/-- To report a diagnostic cannot fail. -/
theorem returns_report (code : String) (message : Tree) (ref : Ref) :
    Returns (modify fun session => session.report code (session.typeOf ref) message : M Unit)
      fun _ => True :=
  fun s => ⟨(), [.make (.str code) (Session.typeOf ⟨s, none⟩ ref) message], fun _ => rfl, trivial⟩

end Callback

open Callback

/-! ### Answers -/

/-- Where the answer stands for a finding, it is a remark. -/
def Answer.Remarks (answer : Answer) : Prop :=
  ∀ rule size finding, answer.finding? rule size = .ok finding →
    ∃ r : Option Remark, finding = r.map Remark.finding

/-- The answer stands for a remark or for nothing, whoever gives it. -/
def Answer.Plain (answer : Answer) : Prop :=
  ∀ rule size, ∃ r : Option Remark, answer.finding? rule size = .ok (r.map Remark.finding)

theorem Answer.Plain.remarks {answer : Answer} (h : answer.Plain) : answer.Remarks := by
  intro rule size finding hfinding
  obtain ⟨r, hr⟩ := h rule size
  exact ⟨r, Except.ok.inj (hfinding.symm.trans hr)⟩

theorem plain_nothing : Catalogue.nothing.Plain := fun _ _ => ⟨none, rfl⟩

theorem plain_report (lines : List String) : (Catalogue.report lines).Plain := by
  intro rule size
  unfold Catalogue.report Answer.finding?
  by_cases hempty : (Tree.str ("\n".intercalate lines)).isEmpty = true
  · exact ⟨none, if_pos hempty⟩
  · exact ⟨some ⟨rule, "\n".intercalate lines, 0, size⟩, if_neg hempty⟩

theorem plain_message (text : String) (found : TextMatch) :
    (Answer.finding ⟨.null, .str text, .int found.start, .int found.stop⟩).Plain :=
  fun rule _ => ⟨some ⟨rule, text, found.start, found.stop⟩, rfl⟩

theorem remark_ofFields {rule : Tree} {size : Nat} {fields : List (String × Tree)} {f : Finding}
    (h : Answer.ofFields rule size fields = .ok f) :
    ∃ r : Remark, f = r.finding ∧ r.rule = rule := by
  unfold Answer.ofFields at h
  cases hmessage : fieldOf? fields "message" with
  | none => simp [hmessage, throw, throwThe, MonadExceptOf.throw] at h
  | some message =>
      rw [hmessage] at h
      obtain ⟨text, -, h⟩ := except_bind_eq_ok h
      obtain ⟨start, -, h⟩ := except_bind_eq_ok h
      obtain ⟨stop, -, h⟩ := except_bind_eq_ok h
      exact ⟨⟨rule, text, start, stop⟩, (Except.ok.inj h).symm, rfl⟩

/-- A value is nothing, a message about the whole text, or a record that says which part it is
about. What is found carries the name of the rule. -/
theorem finding?_value {t : Tree} {rule : Tree} {size : Nat} {finding : Option Finding}
    (h : (Answer.value t).finding? rule size = .ok finding) :
    ∃ r : Option Remark, finding = r.map Remark.finding ∧ ∀ m ∈ r, m.rule = rule := by
  unfold Answer.finding? at h
  dsimp only at h
  by_cases hempty : t.isEmpty = true
  · rw [if_pos hempty] at h
    exact ⟨none, (Except.ok.inj h).symm, nofun⟩
  · rw [if_neg hempty] at h
    cases t with
    | list items => contradiction
    | record fields =>
        cases hfields : Answer.ofFields rule size fields with
        | error fault => simp [hfields, bind, Except.bind] at h
        | ok f =>
            obtain ⟨r, rfl, hrule⟩ := remark_ofFields hfields
            simp only [hfields, bind, Except.bind, pure, Except.pure, Except.ok.injEq] at h
            exact ⟨some r, h.symm, fun m hm => Option.some.inj hm ▸ hrule⟩
    | scalar value =>
        cases value with
        | str message =>
            refine ⟨some ⟨rule, message, 0, size⟩, (Except.ok.inj h).symm, ?_⟩
            rintro _ ⟨⟩
            rfl
        | _ => contradiction

theorem remarks_value (t : Tree) : (Answer.value t).Remarks := by
  intro rule size finding h
  obtain ⟨r, hr, -⟩ := finding?_value h
  exact ⟨r, hr⟩

/-- A finding carries the name of the rule that was asked. -/
theorem rule_of_finding? {rule : Tree} {size : Nat} {answer : Answer} {f : Finding}
    (h : answer.finding? rule size = .ok (some f)) : f.rule = rule := by
  cases answer with
  | finding g =>
      obtain rfl := Option.some.inj (Except.ok.inj h)
      rfl
  | value t =>
      obtain ⟨r, hr, hrule⟩ := finding?_value h
      obtain ⟨m, hm, rfl⟩ := Option.map_eq_some_iff.mp hr.symm
      exact hrule m hm

/-! ### Rules -/

/-- What the rule does when it is asked keeps `inv`, and its answers are nothing or
remarks. -/
def Rule.Spares (inv : Store → Prop) (r : Rule) : Prop :=
  ∀ callback, r.action = .ask callback →
    ∀ nodes found, Callback.Spares inv (callback nodes found) Answer.Remarks

/-- The question to a rule spares what its action spares, and comes to what is made of the
answer. -/
theorem Rule.spares_check {inv : Store → Prop} {r : Rule} {P : Answer → Prop}
    {Q : Option Finding → Prop} {content : String}
    (hanswer : ∀ nodes found, Callback.Spares inv (Action.answer nodes found r.action) P)
    (hnone : Q none) (hfinding : ∀ answer finding, P answer →
      answer.finding? r.name content.length = .ok finding → Q finding) (c : Cursor) :
    Callback.Spares inv (r.check c content) Q := by
  refine spares_get fun s =>
    ⟨liftM (Rule.target? s c content r.alternatives) >>= _, fun heard => rfl, ?_⟩
  refine Callback.Spares.bind (spares_lift fun _ _ => trivial) ?_
  intro target _
  cases target with
  | none => exact spares_pure hnone
  | some target =>
      obtain ⟨nodes, found⟩ := target
      exact (hanswer nodes found).bind fun answer hP =>
        spares_lift fun finding hfound => hfinding answer finding hP hfound

theorem Rule.Spares.check {inv : Store → Prop} {r : Rule} (h : r.Spares inv) (c : Cursor)
    (content : String) : Callback.Spares inv (r.check c content) fun found =>
      ∃ remark : Option Remark, found = remark.map Remark.finding := by
  refine Rule.spares_check (P := Answer.Remarks) (fun nodes found => ?_) ⟨none, rfl⟩
    (fun answer finding hremarks hfinding => hremarks _ _ _ hfinding) c
  cases haction : r.action with
  | message text => exact spares_pure (plain_message text found).remarks
  | ask callback => exact h callback haction nodes found

/-- What the rule does when it is asked does not fail. -/
def Rule.Returns (r : Rule) : Prop :=
  ∀ callback, r.action = .ask callback →
    ∀ nodes found, Callback.Returns (callback nodes found) Answer.Plain

theorem Rule.Returns.spares {r : Rule} (h : r.Returns) (inv : Store → Prop) : r.Spares inv := by
  intro callback haction nodes found s hs
  obtain ⟨result, t, emitted, hrun, ht, hplain⟩ := (h callback haction nodes found).spares s hs
  exact ⟨result, t, emitted, hrun, ht, fun answer ha => (hplain answer ha).remarks⟩

/-! ### Asking a rule -/

section

variable {r : Rule} {s : Store} {c : Cursor} {content : String}

theorem target?_ok {alternatives : List (Selector × Option Pattern)}
    (h : ∀ a ∈ alternatives, ∃ nodes, a.1.find? s c = .ok nodes) :
    ∃ target, Rule.target? s c content alternatives = .ok target := by
  induction alternatives with
  | nil => exact ⟨none, rfl⟩
  | cons a rest ih =>
      obtain ⟨selector, pattern⟩ := a
      obtain ⟨⟨nodes, hnodes⟩, hrest⟩ := List.forall_mem_cons.mp h
      rw [Rule.target?, hnodes]
      cases nodes with
      | none => exact ih hrest
      | some nodes =>
          simp only [bind, Except.bind]
          cases Pattern.search? pattern content with
          | some found => exact ⟨_, rfl⟩
          | none => exact ih hrest

/-- What a rule does once its alternatives are matched. -/
def Rule.react (r : Rule) (content : String) : Option (Matched × TextMatch) → M (Option Finding)
  | none => return none
  | some (nodes, found) => do
    let answer ← Rule.Action.answer nodes found r.action
    answer.finding? r.name content.length

theorem comesTo_check {target : Except Fault (Option (Matched × TextMatch))} {t : Store}
    {result : Except Fault (Option Finding)} {emitted : List Diagnostic}
    (htarget : Rule.target? s c content r.alternatives = target)
    (h : ComesTo (liftM target >>= r.react content) s result t emitted) :
    ComesTo (r.check c content) s result t emitted := by
  subst htarget
  exact comesTo_get (fun heard => rfl) h

/-- A rule that does not fail comes to a remark or to nothing, if its alternatives are
matched without failing. -/
theorem Rule.Returns.check (h : r.Returns) (content : String)
    (hmatch : ∀ a ∈ r.alternatives, ∃ nodes, a.1.find? s c = .ok nodes) :
    ∃ (remark : Option Remark) (emitted : List Diagnostic),
      ComesTo (r.check c content) s (.ok (remark.map Remark.finding)) s emitted := by
  obtain ⟨target, htarget⟩ := target?_ok (c := c) hmatch
  cases target with
  | none =>
      exact ⟨none, _, comesTo_check htarget
        ((comesTo_lift (.ok none) s).bind_ok (comesTo_lift (.ok none) s))⟩
  | some target =>
      obtain ⟨nodes, found⟩ := target
      have hanswer : Callback.Returns (Rule.Action.answer nodes found r.action) Answer.Plain := by
        cases haction : r.action with
        | message text => exact returns_pure (plain_message text found)
        | ask callback => exact h callback haction nodes found
      obtain ⟨answer, emitted, hrun, hplain⟩ := hanswer s
      obtain ⟨remark, hfinding⟩ := hplain r.name content.length
      have hanswered : ComesTo (liftM (answer.finding? r.name content.length) : M (Option Finding))
          s (.ok (remark.map Remark.finding)) s [] := by
        rw [hfinding]
        exact comesTo_lift _ s
      exact ⟨remark, _, comesTo_check htarget
        ((comesTo_lift (.ok (some (nodes, found))) s).bind_ok (hrun.bind_ok hanswered))⟩

end

/-! ### The built-in rules -/

namespace Catalogue

variable {name : String} {selector : Selector} {pattern : Option Regex}

theorem returns_message {text : String} :
    (rule name selector (.message text) pattern).Returns := by
  intro callback haction
  contradiction

theorem returns_ask {callback : Callback}
    (h : ∀ nodes found, Callback.Returns (callback nodes found) Answer.Plain) :
    (rule name selector (.ask callback) pattern).Returns := by
  intro other haction
  obtain rfl := Action.ask.inj haction
  exact h

theorem returns_nothing : Callback.Returns (pure nothing) Answer.Plain :=
  returns_pure plain_nothing

theorem returns_lines (lines : List String) :
    Callback.Returns (pure (report lines)) Answer.Plain :=
  returns_pure (plain_report lines)

theorem returns_field (nodes : Matched) (index : Nat) (key : String) :
    Callback.Returns (field nodes index key) fun _ => True :=
  returns_get fun s => ⟨pure ((nodes[index]?.bind (s.field? · key)).getD .null), fun _ => rfl,
    returns_pure trivial⟩

/-- A field is read, and then comes the rest. -/
theorem returns_field_bind {nodes : Matched} {index : Nat} {key : String} {f : Ref → M Answer}
    (h : ∀ r, Callback.Returns (f r) Answer.Plain) :
    Callback.Returns (field nodes index key >>= f) Answer.Plain :=
  (returns_field nodes index key).bind fun r _ => h r

theorem returns_longParagraph (config : Config) : (longParagraph config).Returns :=
  returns_ask fun _ _ => by
    dsimp only
    split
    · exact returns_lines _
    · exact returns_nothing

theorem returns_linkClickHere (config : Config) : (linkClickHere config).Returns :=
  returns_ask fun _ _ => by
    dsimp only
    split
    · exact returns_lines _
    · exact returns_nothing

theorem returns_imageAltText (config : Config) : (imageAltText config).Returns :=
  returns_ask fun _ _ => returns_field_bind fun _ => by
    split
    · exact returns_lines _
    · split
      · exact returns_lines _
      · exact returns_nothing

theorem returns_absoluteUrl (config : Config) : (absoluteUrl config).Returns :=
  returns_ask fun _ _ => returns_field_bind fun _ => by
    split
    · exact returns_nothing
    · split
      · exact returns_nothing
      · exact returns_lines _

theorem returns_mathEmpty : mathEmpty.Returns :=
  returns_ask fun _ _ => returns_field_bind fun _ => by
    split
    · exact returns_lines _
    · exact returns_nothing

theorem returns_tableMissingCells : tableMissingCells.Returns :=
  returns_ask fun nodes _ => returns_field_bind fun header => returns_field_bind fun cells => by
    refine returns_get ?_
    intro s
    have hmalformed := (returns_report "malformed-table"
      (.str "Table node has no header or cells list") (nodes.headD .null)).bind fun _ _ =>
        returns_nothing
    dsimp only
    cases s.items? header with
    | none => exact ⟨_, fun _ => rfl, hmalformed⟩
    | some columns =>
        cases s.items? cells with
        | none => exact ⟨_, fun _ => rfl, hmalformed⟩
        | some rows =>
            refine ⟨_, fun _ => rfl, ?_⟩
            dsimp only
            split
            · exact returns_nothing
            · exact returns_lines _

/-- **The built-in rules** do not fail once their selector is matched, but for those that say
what the levels of headings are. -/
theorem returns_rules (config : Config) :
    ∀ r ∈ rules config, r = headingLevel config ∨ r = headingLevelSkip ∨ r.Returns := by
  simp only [rules, List.forall_mem_cons]
  exact ⟨.inr (.inr (returns_longParagraph config)), .inl trivial, .inr (.inl trivial),
    .inr (.inr returns_message), .inr (.inr returns_message),
    .inr (.inr (returns_imageAltText config)), .inr (.inr (returns_linkClickHere config)),
    .inr (.inr (returns_absoluteUrl config)), .inr (.inr returns_tableMissingCells),
    .inr (.inr returns_message), .inr (.inr returns_message), .inr (.inr returns_message),
    .inr (.inr returns_message), .inr (.inr returns_mathEmpty), .inr (.inr returns_message),
    by simp⟩

section Levels

variable {inv : Store → Prop}

theorem remarks_tooHigh {minimum : Nat} {level : Ref} {answer : Answer}
    (h : tooHigh minimum level = .ok answer) : answer.Remarks := by
  obtain ⟨_, -, h⟩ := except_bind_eq_ok h
  obtain ⟨_, -, h⟩ := except_bind_eq_ok h
  exact Except.ok.inj h ▸ (plain_report _).remarks

theorem remarks_tooLow {previous current : Ref} {answer : Answer}
    (h : tooLow previous current = .ok answer) : answer.Remarks := by
  obtain ⟨_, -, h⟩ := except_bind_eq_ok h
  obtain ⟨_, -, h⟩ := except_bind_eq_ok h
  exact Except.ok.inj h ▸ (plain_report _).remarks

/-- A heading that is not allowed may fail to say so, but spares the document. -/
theorem spares_headingLevel (config : Config) : (headingLevel config).Spares inv := by
  intro callback haction nodes found
  obtain rfl := Action.ask.inj haction
  refine (returns_field nodes 0 "level").spares.bind fun _ _ => ?_
  split
  · exact spares_pure plain_nothing.remarks
  · split
    · exact spares_lift fun _ => remarks_tooHigh
    · exact spares_pure plain_nothing.remarks

/-- So may a heading that skips a level. -/
theorem spares_headingLevelSkip : headingLevelSkip.Spares inv := by
  intro callback haction nodes found
  obtain rfl := Action.ask.inj haction
  refine (returns_field nodes 0 "level").spares.bind fun _ _ => ?_
  refine (returns_field nodes 1 "level").spares.bind fun _ _ => ?_
  split
  · split
    · exact spares_lift fun _ => remarks_tooLow
    · exact spares_pure plain_nothing.remarks
  · exact spares_pure plain_nothing.remarks

end Levels

/-- **The built-in rules** spare every document. -/
theorem spares_rules (config : Config) (inv : Store → Prop) :
    ∀ r ∈ rules config, r.Spares inv := by
  intro r hr
  rcases returns_rules config r hr with rfl | rfl | hreturns
  · exact spares_headingLevel config
  · exact spares_headingLevelSkip
  · exact hreturns.spares inv

end Catalogue

end DocLint
