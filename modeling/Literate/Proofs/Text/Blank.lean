import Literate.Text.Blank
import Literate.Text.Letter

/-!
# What blanks are not

No blank is a letter or a number. Up to 127 this follows from the bounds of the ASCII letters and
digits, and above from the tables, of which no two ranges meet.
-/

namespace Literate

theorem inRanges_eq_false_of_disjoint {ranges others : List (Nat × Nat)} {c : Char}
    (hdisjoint : ∀ range ∈ ranges, ∀ other ∈ others, range.2 < other.1 ∨ other.2 < range.1)
    (h : inRanges ranges c = true) : inRanges others c = false := by
  obtain ⟨range, hrange, hin⟩ := List.any_eq_true.mp h
  refine List.any_eq_false.mpr ?_
  intro other hother
  have hapart := hdisjoint range hrange other hother
  simp only [Bool.and_eq_true, decide_eq_true_eq] at hin ⊢
  omega

theorem toNat_of_isAlphanum {c : Char} (h : c.isAlphanum = true) :
    48 ≤ c.toNat ∧ c.toNat ≤ 122 := by
  delta Char.isAlphanum Char.isAlpha Char.isUpper Char.isLower Char.isDigit at h
  simp [UInt32.le_iff_toNat_le] at h
  omega

theorem isAlphanum_eq_false_of_isBlank {c : Char} (h : isBlank c = true) :
    c.isAlphanum = false := by
  refine Bool.eq_false_iff.mpr ?_
  intro halphanum
  have hbounds := toNat_of_isAlphanum halphanum
  simp [isBlank, inRanges, blankRanges] at h
  omega

theorem isAlphanumeric_eq_false_of_isBlank {c : Char} (h : isBlank c = true) :
    isAlphanumeric c = false := by
  obtain ⟨halpha, hdigit⟩ := Bool.or_eq_false_iff.mp (isAlphanum_eq_false_of_isBlank h)
  have halphabetic : isAlphabetic c = false := by
    unfold isAlphabetic
    split
    · exact halpha
    · exact inRanges_eq_false_of_disjoint (by decide +kernel) h
  have hnumeric : isNumeric c = false := by
    unfold isNumeric
    split
    · exact hdigit
    · exact inRanges_eq_false_of_disjoint (by decide +kernel) h
  rw [isAlphanumeric, halphabetic, hnumeric, Bool.or_self]

end Literate
