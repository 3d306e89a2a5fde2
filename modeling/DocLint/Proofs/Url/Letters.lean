import DocLint.Text.Case
import DocLint.Url.Host

/-!
# DocLint.Proofs.Url.Letters

**Small and capital letters in a URL.** `Text.folded` writes the Latin letters of a text small
and leaves all else. Reading the host of a URL consists of steps that look at characters
without telling such letters apart, so each step commutes with folding, and texts that are
`Alike`, the same up to these letters, have hosts that are alike (`written_folded`,
`host?_alike`).

Two things do tell letters apart. What follows a percent sign in a host keeps its letters,
and of the address literals in square brackets one kind begins with a small `v`, so brackets
may be used rightly in one URL and wrongly in one that is alike. Without brackets URLs that
are alike have both a host or both none (`isSome_host?_alike`).
-/

namespace DocLint

/-! ### Characters -/

namespace Text

/-- The capital letters that have a small form in the Latin alphabet. -/
def capitals : List Char := "ABCDEFGHIJKLMNOPQRSTUVWXYZ".toList

theorem mem_capitals_of_toLower_ne {c : Char} (h : c.toLower ≠ c) : c ∈ capitals := by
  unfold Char.toLower at h
  split at h
  · next hrange =>
      obtain ⟨hfirst, hlast⟩ := hrange
      have hbounds : 65 ≤ c.toNat ∧ c.toNat ≤ 90 := ⟨hfirst, hlast⟩
      have hall : ∀ n, n < 91 → 65 ≤ n → Char.ofNat n ∈ capitals := by decide
      rw [← Char.ofNat_toNat c]
      exact hall c.toNat (by omega) hbounds.1
  · exact absurd rfl h

/-- What says the same of a capital letter and of its small form says the same of every
character and its small form. -/
theorem of_capitals {α : Type} [DecidableEq α] {f : Char → α}
    (h : (capitals.all fun c => f c.toLower == f c) = true) (c : Char) : f c.toLower = f c := by
  by_cases hc : c.toLower = c
  · rw [hc]
  · exact beq_iff_eq.mp (List.all_eq_true.mp h c (mem_capitals_of_toLower_ne hc))

/-- The characters with capital letters written small. -/
def folded (cs : List Char) : List Char := cs.map Char.toLower

theorem folded_append (front back : List Char) :
    folded (front ++ back) = folded front ++ folded back := List.map_append

section Predicates

variable {p : Char → Bool} (hp : (capitals.all fun c => p c.toLower == p c) = true)
variable (cs : List Char)

include hp

theorem comp_toLower : p ∘ Char.toLower = p := funext (of_capitals hp)

theorem dropWhile_folded : (folded cs).dropWhile p = folded (cs.dropWhile p) := by
  rw [folded, List.dropWhile_map, comp_toLower hp]
  rfl

theorem takeWhile_folded : (folded cs).takeWhile p = folded (cs.takeWhile p) := by
  rw [folded, List.takeWhile_map, comp_toLower hp]
  rfl

theorem filter_folded : (folded cs).filter p = folded (cs.filter p) := by
  rw [folded, List.filter_map, comp_toLower hp]
  rfl

theorem all_folded : (folded cs).all p = cs.all p := by
  rw [folded, List.all_map, comp_toLower hp]

end Predicates

theorem reverse_folded (cs : List Char) : (folded cs).reverse = folded cs.reverse :=
  List.map_reverse.symm

theorem head?_folded (cs : List Char) : (folded cs).head? = cs.head?.map Char.toLower :=
  List.head?_map

/-- The character is no letter of the Latin alphabet, small or capital. -/
def IsMark (mark : Char) : Prop := (capitals.all fun c => (c.toLower == mark) == (c == mark)) = true

instance (mark : Char) : Decidable (IsMark mark) := inferInstanceAs (Decidable (_ = true))

/-- The small form of a character is a mark only if the character is. -/
theorem toLower_eq_iff {mark : Char} (hmark : IsMark mark) (c : Char) :
    c.toLower = mark ↔ c = mark := by
  simpa using congrArg (· = true) (of_capitals (f := (· == mark)) hmark c)

theorem cutAt_folded {mark : Char} (hmark : IsMark mark) (cs : List Char) : cutAt mark (folded cs) =
      (folded (cutAt mark cs).1, (cutAt mark cs).2.map folded) := by
  induction cs with
  | nil => rfl
  | cons c rest ih =>
      show cutAt mark (c.toLower :: folded rest) = _
      rw [cutAt, cutAt]
      by_cases hc : c = mark
      · rw [if_pos hc, if_pos ((toLower_eq_iff hmark c).mpr hc)]
        rfl
      · rw [if_neg hc, if_neg fun h => hc ((toLower_eq_iff hmark c).mp h), ih]
        rfl

theorem mem_folded_iff {mark : Char} (hmark : IsMark mark) (cs : List Char) :
    mark ∈ folded cs ↔ mark ∈ cs := by
  rw [folded, List.mem_map]
  constructor
  · rintro ⟨c, hc, hlower⟩
    exact (toLower_eq_iff hmark c).mp hlower ▸ hc
  · intro hc
    exact ⟨mark, hc, (toLower_eq_iff hmark mark).mpr rfl⟩

/-! ### Lower case -/

theorem meetsCased_folded (cs : List Char) : meetsCased (folded cs) = meetsCased cs := by
  rw [meetsCased, meetsCased, dropWhile_folded (by decide)]
  cases cs.dropWhile _ with
  | nil => rfl
  | cons c rest => exact of_capitals (f := fun c => casedRanges.has c.toNat) (by decide) c

theorem lowerFrom_folded (before cs : List Char) :
    lowerFrom (folded before) (folded cs) = lowerFrom before cs := by
  induction cs generalizing before with
  | nil => rfl
  | cons c rest ih =>
      have hrest : lowerFrom (c.toLower :: folded before) (folded rest) =
          lowerFrom (c :: before) rest := ih (c :: before)
      have hsigma : (c.toLower == '\u03a3') = (c == '\u03a3') :=
        of_capitals (f := (· == '\u03a3')) (by decide) c
      have hdotted : (c.toLower == '\u0130') = (c == '\u0130') :=
        of_capitals (f := (· == '\u0130')) (by decide) c
      have himage : lowerChar c.toLower = lowerChar c := of_capitals (by decide) c
      show lowerFrom (folded before) (c.toLower :: folded rest) = _
      rw [lowerFrom, lowerFrom, hrest, hsigma, hdotted, himage, meetsCased_folded,
        meetsCased_folded]

/-- The texts are the same but for capital letters. -/
def Alike (s t : String) : Prop := folded s.toList = folded t.toList

instance (s t : String) : Decidable (Alike s t) := inferInstanceAs (Decidable (_ = _))

/-- Texts that are alike are the same in lower case. -/
theorem Alike.lower {s t : String} (h : Alike s t) : Text.lower s = Text.lower t := by
  have hfold (s : String) : lowerFrom [] (folded s.toList) = lowerFrom [] s.toList :=
    lowerFrom_folded [] s.toList
  rw [Text.lower, Text.lower, ← hfold s, ← hfold t, h]

end Text

/-! ### Hosts -/

namespace Url

open Text

/-- The host of a URL as it is written. -/
def written (url : List Char) : List Char :=
  (hostParts (withoutUser (authority (dropScheme (clean (String.ofList url)))))).2.1

theorem clean_folded (url : List Char) :
    clean (String.ofList (folded url)) = folded (clean (String.ofList url)) := by
  have hstrip (cs : List Char) : stripChars (folded cs) = folded (stripChars cs) := by
    have hblank : (capitals.all fun c => isBlank c.toLower == isBlank c) = true := by decide
    rw [stripChars, stripChars, dropBlanks, dropBlanks, dropWhile_folded hblank, reverse_folded,
      dropBlanks, dropBlanks, dropWhile_folded hblank, reverse_folded]
  rw [clean, clean, String.toList_ofList, String.toList_ofList, hstrip,
    dropWhile_folded (by decide), filter_folded (by decide)]

theorem dropScheme_folded (cs : List Char) : dropScheme (folded cs) = folded (dropScheme cs) := by
  have hhead (scheme : List Char) : ((folded scheme).head?.any Char.isAlpha) =
      (scheme.head?.any Char.isAlpha) := by
    rw [head?_folded]
    cases scheme.head? with
    | none => rfl
    | some c => exact of_capitals (f := Char.isAlpha) (by decide) c
  rw [dropScheme, dropScheme, cutAt_folded (by decide)]
  obtain ⟨scheme, rest⟩ := cutAt ':' cs
  cases rest with
  | none => rfl
  | some rest =>
      simp only [Option.map_some, hhead, all_folded (p := isSchemeChar) (by decide)]
      split
      · rfl
      · rfl

/-- The slashes in front of an authority are there before and after folding. -/
theorem authority_folded (cs : List Char) : authority (folded cs) = folded (authority cs) := by
  have hslash (c : Char) : c.toLower = '/' ↔ c = '/' := toLower_eq_iff (by decide) c
  have hends := takeWhile_folded (p := (!endsAuthority ·)) (by decide)
  match cs with
  | [] => rfl
  | [c] =>
      show authority [c.toLower] = _
      rw [authority, authority]
      · rfl
      · simp
      · simp
  | c :: d :: rest =>
      show authority (c.toLower :: d.toLower :: folded rest) = _
      by_cases hc : c = '/' ∧ d = '/'
      · obtain ⟨rfl, rfl⟩ := hc
        exact hends rest
      · have hlower : ¬ (c.toLower = '/' ∧ d.toLower = '/') := by rwa [hslash, hslash]
        rw [authority, authority]
        · rfl
        · rintro _ ⟨⟩
          exact hc ⟨rfl, rfl⟩
        · intro _ h
          simp only [List.cons.injEq] at h
          exact hlower ⟨h.1, h.2.1⟩

theorem withoutUser_folded (cs : List Char) :
    withoutUser (folded cs) = folded (withoutUser cs) := by
  rw [withoutUser, withoutUser, reverse_folded, takeWhile_folded (by decide), reverse_folded]

theorem hostParts_folded (cs : List Char) :
    (hostParts (folded cs)).2.1 = folded (hostParts cs).2.1 := by
  rw [hostParts, hostParts, cutAt_folded (by decide)]
  obtain ⟨before, inside⟩ := cutAt '[' cs
  cases inside with
  | none =>
      simp only [Option.map_none]
      rw [cutAt_folded (by decide)]
  | some inside =>
      simp only [Option.map_some]
      rw [cutAt_folded (by decide)]

/-- **Reading the host commutes with folding.** -/
theorem written_folded (url : List Char) : written (folded url) = folded (written url) := by
  rw [written, written, clean_folded, dropScheme_folded, authority_folded, withoutUser_folded,
    hostParts_folded]

/-- Is there nothing wrong with the authority of a URL? -/
def isSound (url : List Char) : Bool :=
  let authority := authority (dropScheme (clean (String.ofList url)))
  bracketsFit authority && staysSplit authority

theorem host?_eq (url : String) : host? url =
    if isSound url.toList = true ∧ written url.toList ≠ [] then
      some (lowerHost (written url.toList))
    else none := by
  rw [host?, isSound, written, String.ofList_toList]
  generalize authority (dropScheme (clean url)) = cs
  generalize hostParts (withoutUser cs) = parts
  obtain ⟨before, host, behind⟩ := parts
  dsimp only
  by_cases hsound : (bracketsFit cs && staysSplit cs) = true
  · rw [if_pos hsound]
    cases host with
    | nil => simp
    | cons c rest => simp [hsound]
  · rw [if_neg hsound, if_neg fun h => hsound h.1]

theorem lowerFrom_ne_nil {cs : List Char} (h : cs ≠ []) (before : List Char) :
    lowerFrom before cs ≠ [] := by
  obtain ⟨c, rest, rfl⟩ := List.exists_cons_of_ne_nil h
  rw [lowerFrom]
  split
  · exact List.cons_ne_nil _ _
  · split
    · exact List.cons_ne_nil _ _
    · exact List.cons_ne_nil _ _

/-- A host is some text. -/
theorem host?_ne_empty {url : String} : host? url ≠ some "" := by
  intro h
  rw [host?_eq, Option.ite_none_right_eq_some] at h
  obtain ⟨⟨-, hwritten⟩, hhost⟩ := h
  obtain ⟨c, rest, hcs⟩ := List.exists_cons_of_ne_nil hwritten
  have hempty := congrArg String.toList (Option.some.inj hhost)
  rw [hcs, lowerHost, cutAt, String.toList_empty] at hempty
  by_cases hzone : c = '%'
  · simp [hzone] at hempty
  · rw [if_neg hzone] at hempty
    dsimp only at hempty
    rw [String.toList_append, List.append_eq_nil_iff, Text.lower, String.toList_ofList,
      String.toList_ofList] at hempty
    exact lowerFrom_ne_nil (List.cons_ne_nil _ _) [] hempty.1

/-- Only the part behind a percent sign keeps its capital letters. -/
theorem lowerHost_alike {cs ds : List Char} (h : folded cs = folded ds) :
    Alike (lowerHost cs) (lowerHost ds) := by
  have hfold (cs : List Char) : cutAt '%' (folded cs) =
      (folded (cutAt '%' cs).1, (cutAt '%' cs).2.map folded) := cutAt_folded (by decide) cs
  have hcut := (hfold cs).symm.trans ((congrArg (cutAt '%') h).trans (hfold ds))
  rw [Alike, lowerHost, lowerHost]
  generalize cutAt '%' cs = found at hcut ⊢
  generalize cutAt '%' ds = found' at hcut ⊢
  obtain ⟨name, zone⟩ := found
  obtain ⟨name', zone'⟩ := found'
  obtain ⟨hname, hzone⟩ := Prod.mk.inj hcut
  have hlower : Text.lower (String.ofList name) = Text.lower (String.ofList name') := by
    refine Alike.lower ?_
    rw [Alike, String.toList_ofList, String.toList_ofList]
    exact hname
  have htail : (zone.map folded) = (zone'.map folded) := hzone
  cases zone with
  | none =>
      cases zone' with
      | none => simp only [hlower]
      | some zone' => cases htail
  | some zone =>
      cases zone' with
      | none => cases htail
      | some zone' =>
          simp only [hlower, String.toList_append, folded_append, String.toList_ofList,
            Option.some.inj htail]

variable {url url' host host' : String}

/-- URLs that are alike have hosts that are alike. -/
theorem host?_alike (h : Alike url url') (hhost : host? url = some host)
    (hhost' : host? url' = some host') : Alike host host' := by
  rw [host?_eq, Option.ite_none_right_eq_some] at hhost hhost'
  obtain ⟨-, hhost⟩ := hhost
  obtain ⟨-, hhost'⟩ := hhost'
  rw [← Option.some.inj hhost, ← Option.some.inj hhost']
  refine lowerHost_alike ?_
  rw [← written_folded, ← written_folded, h]

/-- What is not in a URL is not in its authority. -/
theorem not_mem_authority {mark : Char} {url : List Char} (h : mark ∉ url) :
    mark ∉ authority (dropScheme (clean (String.ofList url))) := by
  have hclean : clean (String.ofList url) ⊆ url := by
    intro c hc
    rw [clean, String.toList_ofList, stripChars] at hc
    have hc := (List.dropWhile_sublist _).subset (List.mem_filter.mp hc).1
    have hc := (List.dropWhile_sublist _).subset (List.mem_reverse.mp hc)
    exact (List.dropWhile_sublist _).subset (List.mem_reverse.mp hc)
  have hcut (cs : List Char) : ∀ rest, (cutAt ':' cs).2 = some rest → rest ⊆ cs := by
    induction cs with
    | nil => intro rest hrest; cases hrest
    | cons c cs ih =>
        intro rest hrest
        rw [cutAt] at hrest
        split at hrest
        · obtain rfl := Option.some.inj hrest
          exact List.subset_cons_self c _
        · exact List.subset_cons_of_subset c (ih rest hrest)
  have hscheme (cs : List Char) : dropScheme cs ⊆ cs := by
    have hrest := hcut cs
    rw [dropScheme]
    generalize cutAt ':' cs = found at hrest ⊢
    obtain ⟨scheme, rest⟩ := found
    cases rest with
    | none => exact List.Subset.refl cs
    | some rest =>
        dsimp only
        split
        · exact hrest rest rfl
        · exact List.Subset.refl cs
  have hauthority (cs : List Char) : authority cs ⊆ cs := by
    unfold authority
    split
    · next rest =>
        have htake : rest.takeWhile (!endsAuthority ·) ⊆ rest := (List.takeWhile_sublist _).subset
        exact List.subset_cons_of_subset _ (List.subset_cons_of_subset _ htake)
    · exact List.nil_subset cs
  exact fun hmem => h (hclean (hscheme _ (hauthority _ hmem)))

/-- Without brackets, letters do not matter for what is sound. -/
theorem isSound_folded {url : List Char} (h : '[' ∉ url) : isSound (folded url) = isSound url := by
  have hstays (cs : List Char) : staysSplit (folded cs) = staysSplit cs := all_folded (by decide) cs
  have hopen := not_mem_authority h
  have hfolded : authority (dropScheme (clean (String.ofList (folded url)))) =
      folded (authority (dropScheme (clean (String.ofList url)))) := by
    rw [clean_folded, dropScheme_folded, authority_folded]
  rw [isSound, isSound, hfolded]
  generalize authority (dropScheme (clean (String.ofList url))) = cs at hopen
  have hfits (cs : List Char) (hopen : '[' ∉ cs) : bracketsFit cs = !cs.contains ']' := by
    have hnone : cs.contains '[' = false := by simpa using hopen
    rw [bracketsFit, hnone]
    cases cs.contains ']' <;> rfl
  have hclose : (folded cs).contains ']' = cs.contains ']' := by
    rw [Bool.eq_iff_iff, List.contains_iff_mem, List.contains_iff_mem, mem_folded_iff (by decide)]
  have hopen' : '[' ∉ folded cs := fun hmem => hopen ((mem_folded_iff (by decide) cs).mp hmem)
  rw [hstays, hfits cs hopen, hfits _ hopen', hclose]

/-- Without brackets, URLs that are alike have both a host or both none. -/
theorem isSome_host?_alike (h : Alike url url') (hopen : '[' ∉ url.toList) :
    (host? url').isSome = (host? url).isSome := by
  have hopen' : '[' ∉ url'.toList := by
    rw [← mem_folded_iff (by decide), ← h, mem_folded_iff (by decide)]
    exact hopen
  have hsound : isSound url'.toList = isSound url.toList := by
    rw [← isSound_folded hopen', ← h, isSound_folded hopen]
  have hwritten : folded (written url'.toList) = folded (written url.toList) := by
    rw [← written_folded, ← written_folded, h]
  have hempty : written url'.toList = [] ↔ written url.toList = [] := by
    rw [← List.map_eq_nil_iff (f := Char.toLower), ← folded, hwritten, folded,
      List.map_eq_nil_iff]
  rw [host?_eq, host?_eq, hsound]
  by_cases hnone : written url.toList = []
  · simp [hnone, hempty.mpr hnone]
  · have hnone' : written url'.toList ≠ [] := fun h => hnone (hempty.mp h)
    by_cases hs : isSound url.toList = true <;> simp [hs, hnone, hnone']

end Url

end DocLint
