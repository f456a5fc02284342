import Literate.Proofs.Text.Break
import Literate.Proofs.Text.LowerCase

/-!
# Lower case and the characters around

Capital sigma is the one character whose lower-case form depends on the text around it. Where it
ends a word it becomes the final form, and that is all in which the lower-case form of a text
differs from the lower-case forms of its characters, one after the other.
-/

namespace Literate

/-- The characters of a text in lower case, each on its own. -/
def lowerEach (t : Text) : Text := t.flatMap lowerChar

/-- A capital sigma that ends a word, whose lower-case form stands at the given place. The text
comes after the given reversed one. -/
def FinalSigmaAfter (before t : Text) (place : Nat) : Prop :=
  ∃ front back, t = front ++ 'Σ' :: back ∧ (lowerEach front).length = place ∧
    casedFirst (front.reverse ++ before) = true ∧ casedFirst back = false

def FinalSigmaAt (t : Text) (place : Nat) : Prop := FinalSigmaAfter [] t place

theorem lowerEach_cons (c : Char) (t : Text) : lowerEach (c :: t) = lowerChar c ++ lowerEach t :=
  List.flatMap_cons

theorem lowerEach_append (s t : Text) : lowerEach (s ++ t) = lowerEach s ++ lowerEach t :=
  List.flatMap_append

theorem lowerEach_intercalate (ws : List Text) :
    lowerEach (List.intercalate [' '] ws) = List.intercalate [' '] (ws.map lowerEach) := by
  induction ws with
  | nil => rfl
  | cons w more ih =>
      by_cases hnil : more = []
      · subst hnil
        simp
      · have hspace : lowerEach [' '] = [' '] := by decide +kernel
        have hmap : more.map lowerEach ≠ [] := by simpa using hnil
        rw [List.map_cons, List.intercalate_cons_of_ne_nil hnil,
          List.intercalate_cons_of_ne_nil hmap, lowerEach_append, lowerEach_append, ih, hspace]

section FinalSigma

variable {before rest s t : Text} {c : Char} {place : Nat}

theorem FinalSigmaAfter.mem (h : FinalSigmaAfter before t place) : 'Σ' ∈ t := by
  obtain ⟨front, back, rfl, -⟩ := h
  exact List.mem_append_right front List.mem_cons_self

theorem lowerSigma_eq_final_iff :
    lowerSigma before rest = 'ς' ↔ casedFirst before = true ∧ casedFirst rest = false := by
  rw [lowerSigma]
  split <;> simp_all

theorem lowerSigma_eq_of_ne (h : lowerSigma before rest ≠ 'ς') : lowerSigma before rest = 'σ' := by
  rw [lowerSigma] at h ⊢
  split <;> simp_all

theorem lowerChar_sigma : lowerChar 'Σ' = ['σ'] := by
  decide +kernel

/-- Such a sigma is the first character, or it comes later. -/
theorem finalSigmaAfter_cons : FinalSigmaAfter before (c :: rest) place ↔
    (place = 0 ∧ c = 'Σ' ∧ lowerSigma before rest = 'ς') ∨
      ∃ later, place = (lowerChar c).length + later ∧ FinalSigmaAfter (c :: before) rest later := by
  rw [lowerSigma_eq_final_iff]
  constructor
  · rintro ⟨front, back, ht, rfl, hbefore, hback⟩
    cases front with
    | nil =>
        obtain ⟨rfl, rfl⟩ := List.cons.inj ht
        exact .inl ⟨rfl, rfl, hbefore, hback⟩
    | cons d front =>
        obtain ⟨rfl, rfl⟩ := List.cons.inj ht
        refine .inr ⟨_, ?_, front, back, rfl, rfl, by simpa using hbefore, hback⟩
        rw [lowerEach_cons, List.length_append]
  · rintro (⟨rfl, rfl, hbefore, hback⟩ | ⟨later, rfl, front, back, rfl, rfl, hbefore, hback⟩)
    · exact ⟨[], rest, rfl, rfl, hbefore, hback⟩
    · refine ⟨c :: front, back, rfl, ?_, by simpa using hbefore, hback⟩
      rw [lowerEach_cons, List.length_append]

theorem finalSigmaAfter_cons_of_lt (h : place < (lowerChar c).length) :
    FinalSigmaAfter before (c :: rest) place ↔
      place = 0 ∧ c = 'Σ' ∧ lowerSigma before rest = 'ς' := by
  rw [finalSigmaAfter_cons, or_iff_left]
  rintro ⟨later, rfl, -⟩
  omega

theorem finalSigmaAfter_cons_add :
    FinalSigmaAfter before (c :: rest) ((lowerChar c).length + place) ↔
      FinalSigmaAfter (c :: before) rest place := by
  have hpositive := List.length_pos_iff.mpr (lowerChar_cases c).1
  rw [finalSigmaAfter_cons, or_iff_right]
  · simp only [Nat.add_left_cancel_iff, exists_eq_left']
  · rintro ⟨hzero, -⟩
    omega

/-- The characters that lower-casing makes of the first one are as many as on its own. -/
theorem exists_lowerAfter_cons (before : Text) (c : Char) (rest : Text) :
    ∃ lead, lowerAfter before (c :: rest) = lead ++ lowerAfter (c :: before) rest ∧
      lead.length = (lowerChar c).length ∧ (c = 'Σ' → lead = [lowerSigma before rest]) ∧
      (c ≠ 'Σ' → lead = lowerChar c) := by
  refine ⟨_, rfl, ?_, fun hc => if_pos hc, fun hc => if_neg hc⟩
  split
  next hc =>
    rw [hc, lowerChar_sigma]
    rfl
  next => rfl

/-- Up to the final forms of sigma, a text in lower case is its characters in lower case. -/
theorem getElem?_lowerAfter (before t : Text) (place : Nat) :
    (FinalSigmaAfter before t place →
      (lowerAfter before t)[place]? = some 'ς' ∧ (lowerEach t)[place]? = some 'σ') ∧
    (¬ FinalSigmaAfter before t place →
      (lowerAfter before t)[place]? = (lowerEach t)[place]?) := by
  induction t generalizing before place with
  | nil =>
      refine ⟨?_, fun _ => rfl⟩
      intro h
      cases h.mem
  | cons c rest ih =>
      obtain ⟨lead, hlower, hlength, hsigma, hother⟩ := exists_lowerAfter_cons before c rest
      rw [hlower, lowerEach_cons]
      rcases Nat.lt_or_ge place (lowerChar c).length with hfirst | hlater
      · rw [finalSigmaAfter_cons_of_lt hfirst, List.getElem?_append_left hfirst,
          List.getElem?_append_left (hlength ▸ hfirst)]
        by_cases hc : c = 'Σ'
        · subst hc
          rw [lowerChar_sigma] at hfirst ⊢
          obtain rfl : place = 0 := Nat.lt_one_iff.mp hfirst
          rw [hsigma rfl]
          refine ⟨fun h => ⟨congrArg some h.2.2, rfl⟩, ?_⟩
          intro hsmall
          exact congrArg some (lowerSigma_eq_of_ne fun hfinal => hsmall ⟨rfl, rfl, hfinal⟩)
        · rw [hother hc]
          exact ⟨fun h => absurd h.2.1 hc, fun _ => rfl⟩
      · obtain ⟨later, rfl⟩ := Nat.exists_eq_add_of_le hlater
        rw [finalSigmaAfter_cons_add, List.getElem?_append_right hlater,
          List.getElem?_append_right (hlength ▸ hlater), hlength, Nat.add_sub_cancel_left]
        exact ih (c :: before) later

theorem getElem?_toLower_of_finalSigmaAt (h : FinalSigmaAt t place) :
    (toLower t)[place]? = some 'ς' ∧ (lowerEach t)[place]? = some 'σ' :=
  (getElem?_lowerAfter [] t place).1 h

theorem getElem?_toLower_of_not_finalSigmaAt (h : ¬ FinalSigmaAt t place) :
    (toLower t)[place]? = (lowerEach t)[place]? :=
  (getElem?_lowerAfter [] t place).2 h

theorem finalSigmaAt_of_toLower_eq (heach : lowerEach s = lowerEach t)
    (heq : toLower s = toLower t) (h : FinalSigmaAt s place) : FinalSigmaAt t place := by
  by_cases hnot : FinalSigmaAt t place
  · exact hnot
  · obtain ⟨hfinal, hsmall⟩ := getElem?_toLower_of_finalSigmaAt h
    have hother := getElem?_toLower_of_not_finalSigmaAt hnot
    rw [← heq, ← heach, hfinal, hsmall] at hother
    exact absurd hother (by decide)

/-- Texts of the same letters have one lower-case form just when their final sigmas agree. -/
theorem toLower_eq_iff (h : lowerEach s = lowerEach t) :
    toLower s = toLower t ↔ ∀ place, FinalSigmaAt s place ↔ FinalSigmaAt t place := by
  constructor
  · intro heq place
    exact ⟨finalSigmaAt_of_toLower_eq h heq, finalSigmaAt_of_toLower_eq h.symm heq.symm⟩
  · intro hsame
    apply List.ext_getElem?
    intro place
    by_cases hs : FinalSigmaAt s place
    · have ht := (hsame place).mp hs
      rw [(getElem?_toLower_of_finalSigmaAt hs).1, (getElem?_toLower_of_finalSigmaAt ht).1]
    · have ht := mt (hsame place).mpr hs
      rw [getElem?_toLower_of_not_finalSigmaAt hs, getElem?_toLower_of_not_finalSigmaAt ht, h]

end FinalSigma

end Literate
