import DocLint.Proofs.Selector.Accept
import DocLint.Proofs.Selector.Format
import DocLint.Rule

/-!
# DocLint.Proofs.Rule.Attach

**Attaching an expression to a rule.** An expression is written between slashes, behind
every selector of the rule (`Rule.inline`), as the pattern of the rule (`Rule.separate`), or
in a description (`Rule.described`). Rules that are made in these ways ask the same and answer
the same, or none of them can be made (`attach_agree`).

Two readers are involved. The scanner goes on to the first slash that may end an expression,
and the pattern of a rule is cut at its last slash. Where the scanner makes one token of the
whole, the two are the same slash (`pattern_of_scan`). What is found then does not hang on
where the expression is kept, with the alternatives or with the rule (`target?_filtered`).
-/

namespace DocLint

open Selector Token Text

/-- An expression as it is written. -/
def slashed (body flags : String) : String := "/" ++ body ++ "/" ++ flags

theorem toList_slashed (body flags : String) :
    (slashed body flags).toList = '/' :: (body.toList ++ '/' :: flags.toList) := by
  simp [slashed]

variable {body flags : String}

/-! ### Where an expression ends -/

theorem splitAtLastSlash_of_not_mem {cs : List Char} (h : '/' ∉ cs) :
    Pattern.splitAtLastSlash cs = none := by
  induction cs with
  | nil => rfl
  | cons c rest ih =>
      simp only [List.mem_cons, not_or] at h
      rw [Pattern.splitAtLastSlash, ih h.2]
      exact if_neg (Ne.symm h.1)

/-- The last slash is the one that no other follows. -/
theorem splitAtLastSlash_append {cs : List Char} (h : '/' ∉ cs) (front : List Char) :
    Pattern.splitAtLastSlash (front ++ '/' :: cs) = some (front, cs) := by
  induction front with
  | nil =>
      rw [List.nil_append, Pattern.splitAtLastSlash, splitAtLastSlash_of_not_mem h]
      rfl
  | cons c rest ih => rw [List.cons_append, Pattern.splitAtLastSlash, ih]

theorem not_mem_flags (hflags : IsFlags flags) : '/' ∉ flags.toList := by
  rcases hflags with rfl | rfl
  · exact List.not_mem_nil
  · decide

/-- **The two readers agree.** If the scanner makes one token of an expression between
slashes, the token ends at the last slash. -/
theorem pattern_of_scan {token finish : Token} (hflags : IsFlags flags)
    (hscan : Token.scan (slashed body flags) = .ok [token, finish])
    (hkind : token.kind = .pattern) : IsPatternSource body := by
  have hcuts := cuts_of_scan hscan
  rw [toList_slashed] at hcuts
  generalize htext : '/' :: (body.toList ++ '/' :: flags.toList) = text at hcuts
  cases hcuts with
  | gap => contradiction
  | @part ws run tail _ _ hws hrun htail =>
      obtain ⟨source, -, hsource, hlegal, rfl⟩ := hrun.pattern_inv hkind
      -- What is left behind the token is blank, and so are its front and its flags.
      have htail : Blanks tail := by
        cases htail with
        | finish h => exact h
        | part _ _ h => cases h
        | gap _ _ h => cases h
      have hws : ws = [] := by
        cases ws with
        | nil => rfl
        | cons c ws =>
            obtain ⟨rfl, -⟩ := List.cons.inj htext
            exact absurd List.mem_cons_self (not_mem_blanks hws)
      subst hws
      have hsame : body.toList ++ '/' :: flags.toList =
          source.toList ++ '/' :: (token.flags.toList ++ tail) := by simpa using htext
      have hbehind : '/' ∉ token.flags.toList ++ tail := by
        intro h
        exact (List.mem_append.mp h).elim (not_mem_flags hlegal) (not_mem_blanks htail)
      have hcut := (splitAtLastSlash_append (not_mem_flags hflags) body.toList).symm.trans
        ((congrArg _ hsame).trans (splitAtLastSlash_append hbehind source.toList))
      have hbody : body.toList = source.toList := (Prod.mk.inj (Option.some.inj hcut)).1
      rw [String.toList_inj.mp hbody]
      exact hsource

/-- The fault of a rule whose pattern cannot be compiled. -/
def patternFault (body flags : String) : Regex.Error → Fault
  | .malformed problem position =>
    .rule (.invalidPattern (slashed body flags) body (.malformed problem position))
  | limit => .regexLimit limit

theorem contains_flags (hflags : IsFlags flags) : flags.toList.contains 'i' = (flags == "i") := by
  rcases hflags with rfl | rfl <;> decide

theorem isEmpty_str {text : String} (h : text ≠ "") : (Tree.str text).isEmpty = false :=
  beq_eq_false_iff_ne.mpr h

theorem isEmpty_slashed (body flags : String) :
    (Tree.str (slashed body flags)).isEmpty = false := by
  refine isEmpty_str fun hempty => ?_
  have hslash := toList_slashed body flags
  rw [hempty] at hslash
  contradiction

/-! ### Expressions behind selectors -/

/-- The text of a selector with an expression behind it. -/
def withPattern (body flags text : String) : String := text ++ " " ++ slashed body flags

/-- Behind the first selector and its expression comes nothing, or a comma; and there is
another expression at the end then. -/
theorem join_withPattern (body flags text : String) (texts : List String) : ∃ tail,
    (", ".intercalate ((text :: texts).map (withPattern body flags))).toList =
      (withPattern body flags text).toList ++ tail ∧
    (tail = [] ∨ ∃ between, tail = ',' :: (between ++ '/' :: flags.toList)) := by
  induction texts generalizing text with
  | nil => exact ⟨[], by rw [List.map_singleton, String.intercalate_singleton, List.append_nil],
      .inl rfl⟩
  | cons next texts ih =>
      obtain ⟨tail, hjoin, htail⟩ := ih next
      refine ⟨',' :: ' ' :: ((withPattern body flags next).toList ++ tail), ?_, .inr ?_⟩
      · rw [List.map_cons, String.intercalate_cons_of_ne_nil (by simp), String.toList_append,
          String.toList_append, hjoin]
        simp
      · have hnext : (withPattern body flags next).toList =
            next.toList ++ ' ' :: '/' :: body.toList ++ '/' :: flags.toList := by
          simp [withPattern, toList_slashed]
        rcases htail with rfl | ⟨between, rfl⟩
        · exact ⟨' ' :: (next.toList ++ ' ' :: '/' :: body.toList), by simp [hnext]⟩
        · exact ⟨' ' :: ((withPattern body flags next).toList ++ ',' :: between), by simp⟩

/-- Where nothing is left or a comma follows, a tree ends. -/
theorem endsTree_of_scan {source : String} {position : Nat} {before : Option TokenKind}
    {cs : List Char} {ts : List Token} (h : scanFrom source position false before cs = .ok ts)
    (hcs : cs = [] ∨ ∃ more, cs = ',' :: more) : endsTree (nextToken ts) = true := by
  rcases hcs with rfl | ⟨more, rfl⟩
  · rw [scanFrom] at h
    exact Except.ok.inj h ▸ rfl
  · obtain ⟨t, ⟨p, rfl⟩, last, hcomma⟩ :=
      scans_symbol source position false before (c := ',') (by decide) rfl more
    rw [← List.singleton_append, hcomma] at h
    cases hmore : scanFrom source last false (some (ofSymbol ',' p).kind) more with
    | error e =>
        rw [hmore] at h
        contradiction
    | ok us =>
        rw [hmore] at h
        exact Except.ok.inj h ▸ rfl

/-! ### Asking the rules -/

namespace Rule

/-- Where alternatives are found, a text filter does not matter. -/
theorem target?_filtered (s : Store) (c : Cursor) (content : String) (filter : TextFilter)
    (alternatives : List Selector) :
    target? s c content (alternatives.map fun a =>
        (Selector.filtered a filter, some (.regex filter.regex))) =
      target? s c content (alternatives.map fun a => (a, some (.regex filter.regex))) := by
  induction alternatives with
  | nil => rfl
  | cons a rest ih =>
      rw [List.map_cons, List.map_cons, target?, target?, Selector.find?, ih]

theorem alternativesOf_ofAlternatives {first : Selector} (h : ∀ ss, first ≠ .list ss)
    (more : List Selector) : alternativesOf (ofAlternatives first more) = first :: more := by
  cases more with
  | cons s more => rfl
  | nil =>
      show alternativesOf first = [first]
      cases first with
      | list ss => exact absurd rfl (h ss)
      | _ => rfl

theorem patternFor_chain {s : Selector} (h : s.IsChain) (r : Rule) : r.patternFor s = r.pattern := by
  cases s with
  | filtered => exact h.elim
  | _ => rfl

/-- The rules ask the same. -/
theorem check_filtered {name : Tree} {filter : TextFilter} {action : Action} {first : Selector}
    {more : List Selector} (h : ∀ s ∈ first :: more, s.IsChain) (c : Cursor) (content : String) :
    (Rule.mk name (ofAlternatives (.filtered first filter) (more.map (.filtered · filter))) none
        action).check c content =
      (Rule.mk name (ofAlternatives first more) (some (.regex filter.regex)) action).check c
        content := by
  have hfirst : ∀ ss, first ≠ .list ss := by
    rintro ss rfl
    exact h _ List.mem_cons_self
  have hinline : (Rule.mk name (ofAlternatives (.filtered first filter)
      (more.map (.filtered · filter))) none action).alternatives = (first :: more).map fun s =>
        (Selector.filtered s filter, some (.regex filter.regex)) := by
    rw [alternatives, alternativesOf_ofAlternatives (by simp)]
    simp [patternFor]
  have hseparate : (Rule.mk name (ofAlternatives first more) (some (.regex filter.regex))
      action).alternatives = (first :: more).map fun s => (s, some (.regex filter.regex)) := by
    rw [alternatives, alternativesOf_ofAlternatives hfirst]
    exact List.map_congr_left fun s hs => by rw [patternFor_chain (h s hs)]
  unfold check
  refine bind_congr fun session => ?_
  rw [hinline, hseparate, target?_filtered]

end Rule

section Names

variable [CharacterNames]

/-! ### Compiling -/

/-- Nothing is read from the empty text. -/
theorem isEmpty_of_parse {text : String} {s : Selector} (h : parse text = .ok s) :
    (Tree.str text).isEmpty = false := by
  refine isEmpty_str fun hempty => ?_
  rw [hempty] at h
  contradiction

theorem ofTree?_slashed (hflags : IsFlags flags) :
    Pattern.ofTree? (.str (slashed body flags)) =
      match Regex.compile body (flags == "i") with
      | .ok regex => .ok (some (.regex regex))
      | .error fault => .error (patternFault body flags fault) := by
  have hlegal : (flags != "" && flags != "i") = false := by
    rcases hflags with rfl | rfl <;> rfl
  have hread : Pattern.ofText (slashed body flags) =
      Pattern.ofSlashed (slashed body flags) (body.toList ++ '/' :: flags.toList) := by
    rw [Pattern.ofText, toList_slashed]
    rfl
  rw [Pattern.ofTree?, isEmpty_slashed, if_neg Bool.false_ne_true]
  show (Pattern.ofText (slashed body flags) >>= fun pattern => pure (some pattern)) = _
  rw [hread, Pattern.ofSlashed, splitAtLastSlash_append (not_mem_flags hflags)]
  simp only [String.ofList_toList, hlegal]
  cases Regex.compile body (flags == "i") with
  | ok regex => rfl
  | error fault => cases fault <;> rfl

theorem exists_filter (hflags : IsFlags flags) {regex : Regex}
    (h : Regex.compile body (flags == "i") = .ok regex) : ∃ filter : TextFilter,
      filter.Compiled ∧ filter.source = body ∧ filter.flags = flags ∧ filter.regex = regex := by
  rw [← contains_flags hflags] at h
  exact ⟨⟨body, flags, regex⟩, h, rfl, rfl, rfl⟩

theorem ofSource_error (hflags : IsFlags flags) {fault : Regex.Error}
    (h : Regex.compile body (flags == "i") = .error fault) :
    TextFilter.ofSource body flags = .error (TextFilter.faultOf body fault) := by
  rw [← contains_flags hflags] at h
  rw [TextFilter.ofSource, h]

/-! ### Reading lists of selectors -/

/-- A text that is read as a chain is the text of a chain, up to blanks. -/
theorem chainText_of_parse {text : String} {s : Selector} (h : parse text = .ok s)
    (hs : s.IsChain) : ∃ front core back, text.toList = front ++ (core ++ back) ∧ Blanks front ∧
      Blanks back ∧ ChainText core s := by
  obtain ⟨front, core, back, htext, hfront, hback, hcore⟩ := denotes_of_parse h
  refine ⟨front, core, back, by rw [htext, List.append_assoc], hfront, hback, ?_⟩
  cases hcore with
  | tree h =>
      cases h with
      | one h =>
          cases h with
          | chain h => exact h
          | filtered => exact hs.elim
  | list => exact hs.elim

theorem stands_withPattern {text : String} {s : Selector} {filter : TextFilter}
    (h : parse text = .ok s ∧ s.IsChain) (hsource : IsPatternSource filter.source)
    (hflags : IsFlags filter.flags) (hcompiled : filter.Compiled) :
    Stands (withPattern filter.source filter.flags text) (.filtered s filter) := by
  obtain ⟨front, core, back, htext, hfront, hback, hcore⟩ := chainText_of_parse h.1 h.2
  refine ⟨front, _, [], ?_, hfront, blanks_nil,
    .filtered hcore (blanks_append hback blanks_space) hsource hflags hcompiled⟩
  rw [withPattern, String.toList_append, String.toList_append, toList_slashed, htext]
  simp

theorem stands_chain {text : String} {s : Selector} (h : parse text = .ok s ∧ s.IsChain) :
    Stands text s := by
  obtain ⟨front, core, back, htext, hfront, hback, hcore⟩ := chainText_of_parse h.1 h.2
  exact ⟨front, core, back, htext, hfront, hback, .chain hcore⟩

variable {texts : List String} {first : Selector} {more : List Selector}

/-- Selectors that are read one by one are read as a list. -/
theorem parse_join (h : List.Forall₂ (fun text s => parse text = .ok s ∧ s.IsChain) texts
    (first :: more)) : parse (", ".intercalate texts) = .ok (ofAlternatives first more) :=
  (denotes_join (h.imp fun _ _ => stands_chain)).parse

/-- The same with an expression behind each of them. -/
theorem parse_join_withPattern {filter : TextFilter} (hsource : IsPatternSource filter.source)
    (hflags : IsFlags filter.flags) (hcompiled : filter.Compiled)
    (h : List.Forall₂ (fun text s => parse text = .ok s ∧ s.IsChain) texts (first :: more)) :
    parse (", ".intercalate (texts.map (withPattern filter.source filter.flags))) =
      .ok (ofAlternatives (.filtered first filter) (more.map (.filtered · filter))) := by
  have hstands : List.Forall₂ Stands (texts.map (withPattern filter.source filter.flags))
      ((first :: more).map (.filtered · filter)) := by
    rw [List.forall₂_map_left_iff, List.forall₂_map_right_iff]
    exact h.imp fun _ _ h => stands_withPattern h hsource hflags hcompiled
  exact (denotes_join hstands).parse

/-- The first expression that is read is compiled before anything behind it is read. So if it
cannot be compiled, this is the fault, unless the text behind it cannot be scanned. -/
theorem parse_join_error {text : String} {s : Selector} {fault : Fault}
    (h : parse text = .ok s ∧ s.IsChain) (hbody : IsPatternSource body) (hflags : IsFlags flags)
    (hsource : TextFilter.ofSource body flags = .error fault) (texts : List String) : ∃ fault',
      parse (", ".intercalate ((text :: texts).map (withPattern body flags))) = .error fault' ∧
        (fault' = fault ∨ ∃ e, fault' = .selector e) := by
  obtain ⟨front, core, back, htext, hfront, hback, hcore⟩ := chainText_of_parse h.1 h.2
  obtain ⟨tail, hjoin, htail⟩ := join_withPattern body flags text texts
  have hws : Blanks (back ++ [' ']) := blanks_append hback blanks_space
  let inner := core ++ ((back ++ [' ']) ++ '/' :: (body.toList ++ '/' :: flags.toList))
  have hinner : (", ".intercalate ((text :: texts).map (withPattern body flags))).toList =
      front ++ (inner ++ tail) ++ [] := by
    rw [hjoin, withPattern, String.toList_append, String.toList_append, toList_slashed, htext]
    simp [inner]
  have hbare : Bare (inner ++ tail) := by
    rcases htail with rfl | ⟨between, rfl⟩
    · simpa [inner] using hcore.bare.append (back ++ ' ' :: '/' :: body.toList) (bare_flags hflags)
    · simpa [inner] using hcore.bare.append (back ++ ' ' :: '/' :: (body.toList ++
        '/' :: (flags.toList ++ ',' :: between))) (bare_flags hflags)
  have hends : Ends tail := by
    rcases htail with rfl | ⟨between, rfl⟩
    · exact fun c hc => by simp at hc
    · exact ends_cons (by decide)
  obtain ⟨ts, kind, ⟨position, hscan⟩, hparse⟩ := hcore.scan_filter
    (String.ofList (inner ++ tail)) 0 false none hws hbody hflags rfl hends
  have hstrip : strip (", ".intercalate ((text :: texts).map (withPattern body flags))) =
      String.ofList (inner ++ tail) := by
    rw [strip, hinner, stripChars_of_bare hfront hbare blanks_nil]
  unfold parse
  dsimp only
  rw [hstrip]
  split
  · exact ⟨_, rfl, .inr ⟨_, rfl⟩⟩
  · rw [Token.scan, String.toList_ofList, hscan]
    cases hmore : scanFrom (String.ofList (inner ++ tail)) position false (some kind) tail with
    | error e => exact ⟨_, rfl, .inr ⟨e, rfl⟩⟩
    | ok us =>
        have hend : endsTree (nextToken us) = true := by
          refine endsTree_of_scan hmore (htail.imp_right ?_)
          rintro ⟨between, h⟩
          exact ⟨_, h⟩
        refine ⟨fault, ?_, .inl rfl⟩
        show parseTokens (ts ++ us) = _
        rw [parseTokens, hparse us hend, hsource]
        rfl

/-! ### Making the rules -/

namespace Rule

/-- A rule with the expression behind each of its selectors. -/
def inline (name : String) (texts : List String) (body flags message : String) :
    Except Fault Rule :=
  make (.str name) (.foreign (.str (", ".intercalate (texts.map (withPattern body flags))))) .null
    (.value (.str message))

/-- A rule with the expression as its pattern. -/
def separate (name : String) (texts : List String) (body flags message : String) :
    Except Fault Rule :=
  make (.str name) (.foreign (.str (", ".intercalate texts))) (.str (slashed body flags))
    (.value (.str message))

/-- A description with the expression as its pattern. -/
def described (name : String) (texts : List String) (body flags message : String) :
    Except Fault Rule :=
  ofDescription ⟨.str name, .str (", ".intercalate texts), .str (slashed body flags),
    .str message, .value .null⟩

variable {name message : String} {s : Selector}

/-- What comes of an expression that is the pattern of a rule. -/
def withRegex (name message body flags : String) (s : Selector) : Except Fault Rule :=
  match Regex.compile body (flags == "i") with
  | .ok regex => .ok ⟨.str name, s, some (.regex regex), .message message⟩
  | .error fault => .error (patternFault body flags fault)

theorem separate_eq (hflags : IsFlags flags) (h : parse (", ".intercalate texts) = .ok s) :
    separate name texts body flags message = withRegex name message body flags s := by
  rw [separate, make, isEmpty_slashed, Bool.and_false, if_neg Bool.false_ne_true, givenSelector?,
    h, withRegex, ofTree?_slashed hflags]
  cases Regex.compile body (flags == "i") <;> rfl

theorem described_eq (hflags : IsFlags flags) (hname : name ≠ "")
    (h : parse (", ".intercalate texts) = .ok s) :
    described name texts body flags message = withRegex name message body flags s := by
  rw [described, ofDescription, isEmpty_str hname, if_neg Bool.false_ne_true, describedSelector?,
    isEmpty_of_parse h, if_neg Bool.false_ne_true, withRegex]
  show (parse (", ".intercalate texts) >>= fun s => pure (some s)) >>= _ = _
  rw [h, ofTree?_slashed hflags]
  cases Regex.compile body (flags == "i") <;> rfl

/-- The text of the selectors is not empty, so it is read. -/
theorem inline_eq (hne : texts ≠ []) : inline name texts body flags message = (do
    let s ← givenSelector? (.str name)
      (.foreign (.str (", ".intercalate (texts.map (withPattern body flags)))))
    ofParts (.str name) s none (.value (.str message))) := by
  obtain ⟨text, texts, rfl⟩ := List.exists_cons_of_ne_nil hne
  have hnonempty : (Tree.str (", ".intercalate
      ((text :: texts).map (withPattern body flags)))).isEmpty = false :=
    isEmpty_str (by simp [withPattern, slashed])
  rw [inline, make, isMissing, hnonempty, Bool.false_and, if_neg Bool.false_ne_true]
  rfl

theorem inline_ok (hne : texts ≠ [])
    (h : parse (", ".intercalate (texts.map (withPattern body flags))) = .ok s) :
    inline name texts body flags message = .ok ⟨.str name, s, none, .message message⟩ := by
  rw [inline_eq hne, givenSelector?, h]
  rfl

/-- A fault of the selectors is reported as one of the rule. -/
theorem inline_error {fault : Fault} (hne : texts ≠ [])
    (h : parse (", ".intercalate (texts.map (withPattern body flags))) = .error fault) :
    ∃ fault', inline name texts body flags message = .error fault' ∧
      ((∃ e, fault = .selector e) → ∃ e, fault' = .rule e) := by
  rw [inline_eq hne, givenSelector?, h]
  cases fault with
  | selector e => exact ⟨_, rfl, fun _ => ⟨_, rfl⟩⟩
  | _ => exact ⟨_, rfl, by simp⟩

/-- **The ways of attaching an expression agree.** Given selectors without text filters and
an expression that the scanner makes one token of, the rules are either all refused, and this
is where the expression cannot be compiled, or they can all be made and answer the same
wherever they are asked. -/
theorem attach_agree {chains : List Selector} {token finish : Token} (hne : texts ≠ [])
    (htexts : List.Forall₂ (fun text s => parse text = .ok s ∧ s.IsChain) texts chains)
    (hflags : flags = "" ∨ flags = "i")
    (hscan : Token.scan (slashed body flags) = .ok [token, finish])
    (hkind : token.kind = .pattern) (hname : name ≠ "") (message : String) :
    (∀ fault, Regex.compile body (flags == "i") = .error fault → ∃ f g h,
      inline name texts body flags message = .error f ∧
      separate name texts body flags message = .error g ∧
      described name texts body flags message = .error h ∧
      ∀ problem position, fault = .malformed problem position →
        (∃ e, f = .rule e) ∧ (∃ e, g = .rule e) ∧ ∃ e, h = .rule e) ∧
    ∀ regex, Regex.compile body (flags == "i") = .ok regex → ∃ r₁ r₂ r₃,
      inline name texts body flags message = .ok r₁ ∧
      separate name texts body flags message = .ok r₂ ∧
      described name texts body flags message = .ok r₃ ∧
      ∀ c content, r₁.check c content = r₂.check c content ∧
        r₃.check c content = r₂.check c content := by
  have hbody := pattern_of_scan hflags hscan hkind
  obtain ⟨text, rest, rfl⟩ := List.exists_cons_of_ne_nil hne
  obtain ⟨first, more, hfirst, hmore, rfl⟩ := List.forall₂_cons_left_iff.mp htexts
  have hparse := parse_join htexts
  constructor
  · intro fault hcompile
    have hregex (s : Selector) : withRegex name message body flags s =
        .error (patternFault body flags fault) := by
      rw [withRegex, hcompile]
    obtain ⟨fault', hinline, hfault⟩ :=
      parse_join_error hfirst hbody hflags (ofSource_error hflags hcompile) rest
    obtain ⟨f, hf, hrule⟩ : ∃ f, inline name (text :: rest) body flags message = .error f ∧
      ((∃ e, fault' = .selector e) → ∃ e, f = .rule e) := inline_error hne hinline
    refine ⟨f, _, _, hf, (separate_eq hflags hparse).trans (hregex _),
      (described_eq hflags hname hparse).trans (hregex _), ?_⟩
    rintro problem position rfl
    refine ⟨hrule ?_, ⟨_, rfl⟩, ⟨_, rfl⟩⟩
    exact hfault.elim (fun h => ⟨_, h⟩) id
  · intro regex hcompile
    obtain ⟨filter, hcompiled, rfl, rfl, rfl⟩ := exists_filter hflags hcompile
    have hregex (s : Selector) : withRegex name message filter.source filter.flags s =
        .ok ⟨.str name, s, some (.regex filter.regex), .message message⟩ := by
      rw [withRegex, hcompile]
    have hchains : ∀ s ∈ first :: more, s.IsChain :=
      ((List.forall₂_and_left _ _).mp (htexts.flip.imp fun _ _ h => h.symm)).1
    refine ⟨_, _, _, inline_ok hne (parse_join_withPattern hbody hflags hcompiled htexts),
      (separate_eq hflags hparse).trans (hregex _),
      (described_eq hflags hname hparse).trans (hregex _), fun c content => ⟨?_, rfl⟩⟩
    exact check_filtered hchains c content

end Rule

end Names

namespace Rule

/-- Two selectors, any node and a node right under another one. -/
theorem parse_anyAndInner :
    List.Forall₂ (fun text s => parse text = .ok s ∧ s.IsChain) ["*", "* > *"]
      [.any, .comb .parent .any .any] := by
  have hany : IsChain .any := trivial
  have hinner : IsChain (.comb .parent .any .any) := ⟨fun name => by simp, trivial, trivial⟩
  obtain ⟨text, hformat, hparse⟩ := parse_format hany.isTree.written
  obtain rfl : "*" = text := Except.ok.inj hformat
  obtain ⟨text, hformat, hparse'⟩ := parse_format hinner.isTree.written
  obtain rfl : "* > *" = text := Except.ok.inj hformat
  exact .cons ⟨hparse, hany⟩ (.cons ⟨hparse', hinner⟩ .nil)

/-- The rules can be made with a slash in brackets, and not with a lone parenthesis. -/
theorem attach_agree_anyAndInner :
    (Token.scan (slashed "a[/]" "i") =
        .ok [⟨.pattern, some "a[/]", 0, "i"⟩, ⟨.finish, none, 7, ""⟩] ∧
      Token.scan (slashed "(" "") = .ok [⟨.pattern, some "(", 0, ""⟩, ⟨.finish, none, 3, ""⟩]) ∧
    (∃ r₁ r₂ r₃, inline "path" ["*", "* > *"] "a[/]" "i" "A slash." = .ok r₁ ∧
      separate "path" ["*", "* > *"] "a[/]" "i" "A slash." = .ok r₂ ∧
      described "path" ["*", "* > *"] "a[/]" "i" "A slash." = .ok r₃ ∧
      ∀ c content, r₁.check c content = r₂.check c content ∧
        r₃.check c content = r₂.check c content) ∧
    ∃ f g h, inline "path" ["*", "* > *"] "(" "" "A slash." = .error f ∧
      separate "path" ["*", "* > *"] "(" "" "A slash." = .error g ∧
      described "path" ["*", "* > *"] "(" "" "A slash." = .error h := by
  have hslash : Token.scan (slashed "a[/]" "i") =
      .ok [⟨.pattern, some "a[/]", 0, "i"⟩, ⟨.finish, none, 7, ""⟩] := by decide +kernel
  have hopen : Token.scan (slashed "(" "") =
      .ok [⟨.pattern, some "(", 0, ""⟩, ⟨.finish, none, 3, ""⟩] := by decide +kernel
  have hcompile : (Regex.compile "a[/]" ("i" == "i")).isOk = true := by decide +kernel
  have hfault : (Regex.compile "(" ("" == "i")).isOk = false := by decide +kernel
  have hname : "path" ≠ "" := by decide
  obtain ⟨-, hmade⟩ := attach_agree (List.cons_ne_nil _ _) parse_anyAndInner (.inr rfl) hslash rfl
    hname "A slash."
  obtain ⟨hrefused, -⟩ := attach_agree (List.cons_ne_nil _ _) parse_anyAndInner (.inl rfl) hopen rfl
    hname "A slash."
  refine ⟨⟨hslash, hopen⟩, ?_, ?_⟩
  · cases hregex : Regex.compile "a[/]" ("i" == "i") with
    | ok regex => exact hmade regex hregex
    | error fault =>
        rw [hregex] at hcompile
        exact absurd hcompile Bool.false_ne_true
  · cases hregex : Regex.compile "(" ("" == "i") with
    | ok regex =>
        rw [hregex] at hfault
        exact absurd hfault.symm Bool.false_ne_true
    | error fault =>
        obtain ⟨f, g, h, hf, hg, hh, -⟩ := hrefused fault hregex
        exact ⟨f, g, h, hf, hg, hh⟩

end Rule

end DocLint
