import DocLint.Proofs.Regex.Forward
import DocLint.Rule.Pattern

/-!
# DocLint.Proofs.Rule.Search

**What is found of a pattern.** A fixed text is found at its first place in the text that is
searched (`find?_eq_some_iff`), and nowhere only if it has none (`find?_eq_none_iff`). Whatever
the pattern is, the place that is found lies inside the text (`search?_spec`).
-/

namespace DocLint

namespace Text

/-- The text `needle` stands in `haystack` at a position. -/
def OccursAt (needle haystack : String) (k : Nat) : Prop :=
  needle.toList <+: haystack.toList.drop k

/-- It stands there, and nowhere before. -/
def FirstAt (needle haystack : String) (k : Nat) : Prop :=
  OccursAt needle haystack k ∧ ∀ j < k, ¬ OccursAt needle haystack j

variable {needle haystack : String} {k : Nat}

theorem FirstAt.unique {j : Nat} (h : FirstAt needle haystack k) (h' : FirstAt needle haystack j) :
    k = j :=
  Nat.le_antisymm (Nat.le_of_not_lt fun hlt => h.2 j hlt h'.1)
    (Nat.le_of_not_lt fun hlt => h'.2 k hlt h.1)

/-- A place of a text that is not empty ends inside. -/
theorem OccursAt.within (h : OccursAt needle haystack k) (hne : needle ≠ "") :
    k + needle.length ≤ haystack.length := by
  have hlength : needle.length ≤ haystack.length - k := by
    have hle := h.length_le
    rwa [List.length_drop, String.length_toList, String.length_toList] at hle
  have hpos : 0 < needle.length :=
    Nat.pos_of_ne_zero fun hzero => hne (String.length_eq_zero_iff.mp hzero)
  omega

/-- The search stops at the first place there is. -/
theorem findFrom_spec (needle : List Char) (position : Nat) (cs : List Char) :
    (∃ k, findFrom needle position cs = some (position + k) ∧ needle <+: cs.drop k ∧
      ∀ j < k, ¬ needle <+: cs.drop j) ∨
    findFrom needle position cs = none ∧ ∀ j, ¬ needle <+: cs.drop j := by
  induction cs generalizing position with
  | nil =>
      rw [findFrom]
      split
      · next hempty =>
          rw [List.isEmpty_iff.mp hempty]
          exact .inl ⟨0, rfl, List.nil_prefix, by simp⟩
      · next hne => exact .inr ⟨rfl, fun j h => hne (by simpa using h)⟩
  | cons c rest ih =>
      rw [findFrom]
      by_cases hhere : needle.isPrefixOf (c :: rest) = true
      · rw [if_pos hhere]
        exact .inl ⟨0, rfl, List.isPrefixOf_iff_prefix.mp hhere, by simp⟩
      · rw [if_neg hhere]
        have hnot : ¬ needle <+: c :: rest := fun h => hhere (List.isPrefixOf_iff_prefix.mpr h)
        rcases ih (position + 1) with ⟨k, hfind, hk, hbefore⟩ | ⟨hfind, hnone⟩
        · refine .inl ⟨k + 1, ?_, hk, ?_⟩
          · rw [hfind, Nat.add_assoc, Nat.add_comm 1]
          · rintro (_ | j) hj
            · exact hnot
            · exact hbefore j (Nat.lt_of_succ_lt_succ hj)
        · refine .inr ⟨hfind, ?_⟩
          rintro (_ | j)
          · exact hnot
          · exact hnone j

theorem find?_eq_some_iff : find? needle haystack = some k ↔ FirstAt needle haystack k := by
  rcases findFrom_spec needle.toList 0 haystack.toList with ⟨i, hfind, hfirst⟩ | ⟨hfind, hnone⟩
  · rw [find?, hfind, Nat.zero_add]
    constructor
    · intro h
      exact Option.some.inj h ▸ hfirst
    · intro h
      exact congrArg some (FirstAt.unique hfirst h)
  · rw [find?, hfind]
    exact ⟨by simp, fun h => absurd h.1 (hnone k)⟩

theorem find?_eq_none_iff : find? needle haystack = none ↔ ∀ k, ¬ OccursAt needle haystack k := by
  rcases findFrom_spec needle.toList 0 haystack.toList with ⟨i, hfind, hfirst⟩ | ⟨hfind, hnone⟩
  · rw [find?, hfind]
    exact ⟨by simp, fun h => absurd hfirst.1 (h i)⟩
  · rw [find?, hfind]
    exact ⟨fun _ => hnone, fun _ => rfl⟩

end Text

open Text

/-- The match is a place in the text for the pattern: all of the text where there is none, the
first place of a fixed text, and some place inside of the text for an expression. -/
structure Finds (pattern : Option Pattern) (text : String) (start stop : Nat) : Prop where
  within : start ≤ stop ∧ stop ≤ text.length
  all : pattern = none → start = 0 ∧ stop = text.length
  first : ∀ needle, pattern = some (.fixed needle) →
    FirstAt needle text start ∧ stop = start + needle.length

/-- What is found is a place for the pattern. -/
theorem search?_spec {pattern : Option Pattern} {text : String} {found : TextMatch}
    (hpattern : pattern ≠ some (.fixed "")) (h : Pattern.search? pattern text = some found) :
    ∃ start stop : Nat, found.start = start ∧ found.stop = stop ∧
      Finds pattern text start stop := by
  cases pattern with
  | none =>
      obtain rfl := Option.some.inj h
      exact ⟨0, text.length, rfl, rfl, ⟨Nat.zero_le _, Nat.le_refl _⟩, fun _ => ⟨rfl, rfl⟩,
        by simp⟩
  | some pattern =>
      cases pattern with
      | fixed needle =>
          obtain ⟨start, hfind, rfl⟩ := Option.map_eq_some_iff.mp h
          have hfirst := find?_eq_some_iff.mp hfind
          have hne : needle ≠ "" := by
            rintro rfl
            exact hpattern rfl
          refine ⟨start, start + needle.length, rfl, rfl, ⟨⟨?_, hfirst.1.within hne⟩, by simp, ?_⟩⟩
          · omega
          · rintro _ ⟨⟩
            exact ⟨hfirst, rfl⟩
      | regex compiled =>
          obtain ⟨found, hsearch, rfl⟩ := Option.map_eq_some_iff.mp h
          exact ⟨found.whole.1, found.whole.2, rfl, rfl, ⟨Regex.search?_within hsearch, by simp,
            by simp⟩⟩

end DocLint
