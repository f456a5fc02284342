import Literate.Text.Blank
import Mathlib.Data.List.DropRight

/-!
# What trimming keeps

A text without blanks at its ends is what trimming makes of it with blanks around it.
-/

namespace Literate.Text

theorem trim_eq_rdropWhile (t : Text) : trim t = (trimStart t).rdropWhile isBlank := rfl

/-- Around what trimming leaves stand the blanks that it takes. -/
theorem takeWhile_append_trim_append (t : Text) :
    t.takeWhile isBlank ++ (trim t ++ (trimStart t).rtakeWhile isBlank) = t := by
  rw [trim_eq_rdropWhile, List.rdropWhile_append_rtakeWhile, trimStart,
    List.takeWhile_append_dropWhile]

theorem trimStart_of_trim_eq_nil {t : Text} (h : trim t = []) : trimStart t = [] := by
  have hblank := List.rdropWhile_eq_nil_iff.mp h
  cases hstart : trimStart t with
  | nil => rfl
  | cons c rest =>
      have hnot := List.head?_dropWhile_not isBlank t
      rw [show t.dropWhile isBlank = c :: rest from hstart, List.head?_cons] at hnot
      exact absurd (hblank c (hstart ▸ List.mem_cons_self)) (Bool.eq_false_iff.mp hnot)

/-- A text without blanks at its ends. -/
structure Trimmed (t : Text) : Prop where
  head : ∀ c ∈ t.head?, isBlank c = false
  last : ∀ c ∈ t.getLast?, isBlank c = false

theorem Trimmed.of_ends {t : Text} {first last : Char} (hfirst : t.head? = some first)
    (hlast : t.getLast? = some last) (hhead : isBlank first = false)
    (hend : isBlank last = false) : Trimmed t where
  head := by
    intro c hc
    rw [hfirst] at hc
    exact Option.mem_some.mp hc ▸ hhead
  last := by
    intro c hc
    rw [hlast] at hc
    exact Option.mem_some.mp hc ▸ hend

/-- What stands between the ends of a text does not matter. -/
theorem Trimmed.surround {s t : Text} (hs : Trimmed s) (ht : Trimmed t) (hsne : s ≠ [])
    (htne : t ≠ []) (middle : Text) : Trimmed (s ++ (middle ++ t)) where
  head := by
    obtain ⟨c, s, rfl⟩ := List.exists_cons_of_ne_nil hsne
    exact hs.head
  last := by
    rcases List.eq_nil_or_concat t with rfl | ⟨init, c, rfl⟩
    · exact absurd rfl htne
    · have hlast := ht.last
      rw [List.concat_eq_append] at hlast ⊢
      rw [← List.append_assoc, ← List.append_assoc, List.getLast?_concat]
      rwa [List.getLast?_concat] at hlast

theorem Trimmed.rdropWhile_eq {t : Text} (h : Trimmed t) : t.rdropWhile isBlank = t := by
  refine List.rdropWhile_eq_self_iff.mpr ?_
  intro hne hlast
  rw [h.last _ (List.getLast?_eq_some_getLast hne)] at hlast
  cases hlast

/-- Trimming takes the blanks around a trimmed text. -/
theorem trim_append {t : Text} (ht : Trimmed t) (lead tail : Text)
    (hlead : lead.all isBlank = true) (htail : tail.all isBlank = true) :
    trim (lead ++ (t ++ tail)) = t := by
  rw [List.all_eq_true] at hlead htail
  rw [trim_eq_rdropWhile, trimStart, List.dropWhile_append_of_pos hlead]
  cases t with
  | nil =>
      refine List.rdropWhile_eq_nil_iff.mpr ?_
      intro c hc
      exact htail c ((List.dropWhile_suffix _).subset hc)
  | cons c t =>
      have hreverse : ∀ d ∈ tail.reverse, isBlank d = true := fun d hd =>
        htail d (List.mem_reverse.mp hd)
      rw [List.cons_append, List.dropWhile_cons_of_neg (by simp [ht.head c rfl]),
        ← List.cons_append, List.rdropWhile, List.reverse_append,
        List.dropWhile_append_of_pos hreverse]
      exact ht.rdropWhile_eq

theorem trim_of_trimmed {t : Text} (ht : Trimmed t) : trim t = t := by
  have h := trim_append ht [] [] rfl rfl
  simpa using h

/-- A text is another one with blanks around it, which has no blanks at its ends itself. -/
structure TrimsTo (t core : Text) : Prop where
  trimmed : Trimmed core
  around : ∃ lead tail, t = lead ++ (core ++ tail) ∧ (∀ c ∈ lead, isBlank c = true) ∧
    ∀ c ∈ tail, isBlank c = true

theorem trimsTo_trim (t : Text) : TrimsTo t (trim t) where
  trimmed.head := by
    intro c hc
    obtain ⟨back, hback⟩ := List.rdropWhile_prefix isBlank (trimStart t)
    have hstart : (trimStart t).head? = some c := by
      rw [← hback, List.head?_append, ← trim_eq_rdropWhile, hc]
      rfl
    have hnot := List.head?_dropWhile_not isBlank t
    rw [show t.dropWhile isBlank = trimStart t from rfl, hstart] at hnot
    exact hnot
  trimmed.last := by
    intro c hc
    obtain ⟨init, hinit⟩ := List.getLast?_eq_some_iff.mp hc
    have hne : (trimStart t).rdropWhile isBlank ≠ [] := by
      rw [← trim_eq_rdropWhile, hinit]
      simp
    have hnot := List.rdropWhile_last_not isBlank (trimStart t) hne
    simp only [← trim_eq_rdropWhile, hinit, List.getLast_concat] at hnot
    exact Bool.eq_false_iff.mpr hnot
  around := by
    refine ⟨t.takeWhile isBlank, (trimStart t).rtakeWhile isBlank,
      (takeWhile_append_trim_append t).symm, ?_, ?_⟩
    · exact fun c hc => List.all_eq_true.mp List.all_takeWhile c hc
    · exact fun c hc => List.mem_rtakeWhile_imp hc

/-- Trimming finds the text between the blanks. -/
theorem trimsTo_iff {t core : Text} : TrimsTo t core ↔ trim t = core := by
  constructor
  · rintro ⟨hcore, lead, tail, rfl, hlead, htail⟩
    exact trim_append hcore lead tail (List.all_eq_true.mpr hlead) (List.all_eq_true.mpr htail)
  · rintro rfl
    exact trimsTo_trim t

end Literate.Text
