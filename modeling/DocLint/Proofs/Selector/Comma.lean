import Mathlib.Data.List.Forall2
import DocLint.Proofs.Selector.Grammar

/-!
# DocLint.Proofs.Selector.Comma

**Lists of selectors**, written with commas between them. Texts that stand for trees, up to
blanks at their ends, are joined to a text that stands for the list of the trees
(`denotes_join`). The blanks at the ends of the single texts are those around the commas, so
the grammar has a place for them.
-/

namespace DocLint.Selector

variable [CharacterNames]

/-- Up to blanks at its ends, the text is that of the tree. -/
def Stands (text : String) (s : Selector) : Prop :=
  ∃ front core back, text.toList = front ++ (core ++ back) ∧ Blanks front ∧ Blanks back ∧
    TreeText core s

theorem TreeText.stands {text : String} {s : Selector} (h : TreeText text.toList s) :
    Stands text s :=
  ⟨[], text.toList, [], by simp, blanks_nil, blanks_nil, h⟩

theorem treesText_join {texts : List String} {first : Selector} {more : List Selector}
    (h : List.Forall₂ Stands texts (first :: more)) : ∃ front core back,
      (", ".intercalate texts).toList = front ++ core ++ back ∧ Blanks front ∧ Blanks back ∧
        TreesText core first more := by
  induction more generalizing texts first with
  | nil =>
      obtain ⟨text, rest, hfirst, hrest, rfl⟩ := List.forall₂_cons_right_iff.mp h
      obtain rfl := List.forall₂_nil_right_iff.mp hrest
      obtain ⟨front, core, back, htext, hfront, hback, hcore⟩ := hfirst
      refine ⟨front, core, back, ?_, hfront, hback, .one hcore⟩
      rw [String.intercalate_singleton, htext, List.append_assoc]
  | cons s more ih =>
      obtain ⟨text, rest, hfirst, hrest, rfl⟩ := List.forall₂_cons_right_iff.mp h
      obtain ⟨front, core, back, htext, hfront, hback, hcore⟩ := hfirst
      obtain ⟨front', core', back', hjoin, hfront', hback', htrees⟩ := ih hrest
      have hne : rest ≠ [] := by
        rintro rfl
        cases hrest
      -- The blanks around the comma: some of the first text, one of the join, some of the rest.
      refine ⟨front, core ++ (back ++ ',' :: ((' ' :: front') ++ core')), back', ?_, hfront, hback',
        .more hcore hback (blanks_append blanks_space hfront') htrees⟩
      rw [String.intercalate_cons_of_ne_nil hne, String.toList_append, String.toList_append, htext,
        hjoin]
      simp

/-- **Texts joined by commas** stand for the list of what they stand for. -/
theorem denotes_join {texts : List String} {first : Selector} {more : List Selector}
    (h : List.Forall₂ Stands texts (first :: more)) :
    Denotes (", ".intercalate texts) (ofAlternatives first more) := by
  obtain ⟨front, core, back, htext, hfront, hback, htrees⟩ := treesText_join h
  exact ⟨front, core, back, htext, hfront, hback, .ofAlternatives htrees⟩

end DocLint.Selector
