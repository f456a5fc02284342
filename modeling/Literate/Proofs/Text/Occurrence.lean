import Literate.Text.Basic

/-!
# Texts inside texts

The tests for a beginning and for an occurrence find what they should. A text without some
character occurs on one side of that character or on the other.
-/

namespace Literate.Text

theorem occursIn_iff {part t : Text} : occursIn part t = true ↔ part <:+: t := by
  induction t with
  | nil => rw [occursIn, List.isEmpty_iff, List.infix_nil]
  | cons c t ih =>
      rw [occursIn, Bool.or_eq_true, List.isPrefixOf_iff_prefix, ih, List.infix_cons_iff]

theorem infix_append_cons {part s t : Text} {c : Char} (hc : c ∉ part)
    (h : part <:+: s ++ c :: t) : part <:+: s ∨ part <:+: t := by
  obtain ⟨front, back, h⟩ := h
  rw [List.append_assoc] at h
  rcases List.append_eq_append_iff.mp h with ⟨rest, rfl, hrest⟩ | ⟨rest, rfl, hrest⟩
  · rcases List.append_eq_append_iff.mp hrest with ⟨more, rfl, -⟩ | ⟨more, rfl, hmore⟩
    · exact .inl ⟨front, more, by simp⟩
    · -- The part would go on over the character that it does not have.
      cases more with
      | nil => exact .inl ⟨front, [], by simp⟩
      | cons d more =>
          obtain ⟨rfl, -⟩ := List.cons.inj hmore
          simp at hc
  · cases rest with
    | nil =>
        cases part with
        | nil => exact .inl List.nil_infix
        | cons d part =>
            obtain ⟨rfl, -⟩ := List.cons.inj hrest
            simp at hc
    | cons d rest =>
        obtain ⟨-, rfl⟩ := List.cons.inj hrest
        exact .inr ⟨rest, back, by simp⟩

end Literate.Text
