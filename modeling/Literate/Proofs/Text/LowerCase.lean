import Literate.Text.Blank
import Literate.Text.LowerCase

/-!
# Texts in lower case

No letter of the table is the lower-case form of another one, so what lower-casing makes of a text
is its own lower-case form. Capital sigma needs no care there, because both of its small forms are
their own. Besides, lower-casing makes no blank of a character that is none.
-/

namespace Literate

/-- Whether lower-casing leaves a character as it is. -/
def isLowerForm (c : Char) : Bool := c != 'İ' && lowerRuns.all fun run => !run.covers c.toNat

theorem isLowerForm_iff {c : Char} :
    isLowerForm c = true ↔ c ≠ 'İ' ∧ ∀ run ∈ lowerRuns, run.covers c.toNat = false := by
  simp [isLowerForm]

/-! ## The images of the table -/

namespace CaseRun

/-- Where a run maps a code point. -/
def image (run : CaseRun) (n : Nat) : Nat := (n + run.shift).toNat

/-- Whether all images of a run lie on one side of a range. -/
def apart (run : CaseRun) (first last : Nat) : Bool :=
  Nat.blt (run.image run.last) first || Nat.blt last (run.image run.first)

/-- Whether a run has one image and another run does not cover it, or the images of the first run
alternate with what the other one covers. -/
def alternates (run other : CaseRun) : Bool :=
  run.first == run.last && !other.covers (run.image run.first) ||
    run.step == 2 && other.step == 2 && 0 ≤ run.first + run.shift &&
      run.image run.first % 2 != other.first % 2

variable {run other : CaseRun} {n : Nat}

theorem covers_iff : run.covers n = true ↔
    run.first ≤ n ∧ n ≤ run.last ∧ (n - run.first) % run.step = 0 := by
  simp [covers, and_assoc]

theorem image_of_apart {first last : Nat} (h : run.apart first last = true)
    (hn : run.covers n = true) : run.image n < first ∨ last < run.image n := by
  obtain ⟨hfirst, hlast, -⟩ := covers_iff.mp hn
  simp only [apart, image, Bool.or_eq_true, Nat.blt_eq] at h ⊢
  omega

theorem not_covers_image_of_alternates (h : run.alternates other = true)
    (hn : run.covers n = true) : other.covers (run.image n) = false := by
  obtain ⟨hfirst, hlast, hstep⟩ := covers_iff.mp hn
  simp only [alternates, Bool.or_eq_true, Bool.and_eq_true, beq_iff_eq, bne_iff_ne, ne_eq,
    Bool.not_eq_true', decide_eq_true_eq] at h
  rcases h with ⟨hone, hother⟩ | ⟨⟨⟨hstep', hother⟩, hnonneg⟩, hparity⟩
  · rwa [show n = run.first by omega]
  · -- Both runs have every other code point, the images of one those that the other leaves out.
    rw [Bool.eq_false_iff, ne_eq, covers_iff]
    rintro ⟨hlow, -, hcovered⟩
    rw [hstep'] at hstep
    rw [hother] at hcovered
    simp only [image] at hparity hlow hcovered
    omega

end CaseRun

/-- No run covers an image of a run. -/
theorem lowerRuns_alternate : (lowerRuns.all fun run => lowerRuns.all fun other =>
    run.apart other.first other.last || run.alternates other) = true := by
  decide +kernel

/-- The images are characters, and neither capital I with dot above nor blanks. -/
theorem lowerRuns_apart : ∀ run ∈ lowerRuns, run.image run.last < 0x110000 ∧
    ∀ range ∈ (0x130, 0x130) :: (0xD800, 0xDFFF) :: blankRanges,
      run.apart range.1 range.2 = true := by
  decide +kernel

/-- All letters up to 127 belong to one run. -/
theorem lowerRuns_ascii : ∀ run ∈ lowerRuns, 128 ≤ run.first ∨
    run.first = 0x41 ∧ run.last = 0x5A ∧ run.step = 1 := by
  decide +kernel

section Image

variable {run : CaseRun} {c : Char}

theorem toNat_image (hrun : run ∈ lowerRuns) (hc : run.covers c.toNat = true) :
    (Char.ofNat (run.image c.toNat)).toNat = run.image c.toNat := by
  obtain ⟨hlast, hapart⟩ := lowerRuns_apart run hrun
  have hsurrogate := CaseRun.image_of_apart (hapart (0xD800, 0xDFFF) (by simp)) hc
  obtain ⟨-, hle, -⟩ := CaseRun.covers_iff.mp hc
  have hbound : run.image c.toNat ≤ run.image run.last := by
    simp only [CaseRun.image]
    omega
  have hvalid : (run.image c.toNat).isValidChar := by
    rw [Nat.isValidChar]
    omega
  rw [Char.ofNat, dif_pos hvalid]
  rfl

theorem isLowerForm_image (hrun : run ∈ lowerRuns) (hc : run.covers c.toNat = true) :
    isLowerForm (Char.ofNat (run.image c.toNat)) = true := by
  have himage := toNat_image hrun hc
  rw [isLowerForm_iff]
  constructor
  · intro hdotted
    have hapart := CaseRun.image_of_apart ((lowerRuns_apart run hrun).2 (0x130, 0x130) (by simp)) hc
    rw [← himage, hdotted] at hapart
    revert hapart
    decide
  · intro other hother
    rw [himage]
    have hpairs := List.all_eq_true.mp lowerRuns_alternate run hrun
    have hpair := List.all_eq_true.mp hpairs other hother
    rcases Bool.or_eq_true_iff.mp hpair with hapart | halternates
    · have hside := CaseRun.image_of_apart hapart hc
      rw [Bool.eq_false_iff, ne_eq, CaseRun.covers_iff]
      omega
    · exact CaseRun.not_covers_image_of_alternates halternates hc

theorem isBlank_image (hrun : run ∈ lowerRuns) (hc : run.covers c.toNat = true) :
    isBlank (Char.ofNat (run.image c.toNat)) = false := by
  refine List.any_eq_false.mpr ?_
  intro range hrange
  have hapart := (lowerRuns_apart run hrun).2 range
    (List.mem_cons_of_mem _ (List.mem_cons_of_mem _ hrange))
  have hside := CaseRun.image_of_apart hapart hc
  rw [toNat_image hrun hc]
  simp only [Bool.and_eq_true, decide_eq_true_eq]
  omega

end Image

/-! ## Characters -/

/-- Up to 127 the letters that are mapped are the capital ones. -/
theorem isLowerForm_of_ascii {c : Char} (hascii : c.toNat < 128)
    (hsmall : c.toNat < 0x41 ∨ 0x5A < c.toNat) : isLowerForm c = true := by
  rw [isLowerForm_iff]
  constructor
  · rintro rfl
    revert hascii
    decide
  · intro run hrun
    have hbounds := lowerRuns_ascii run hrun
    rw [Bool.eq_false_iff, ne_eq, CaseRun.covers_iff]
    omega

/-- What lower-casing makes of the characters up to 127. -/
theorem toLower_ascii : ∀ n < 128, (Char.ofNat n).toLower.toNat < 128 ∧
    ((Char.ofNat n).toLower.toNat < 0x41 ∨ 0x5A < (Char.ofNat n).toLower.toNat) ∧
    isBlank (Char.ofNat n).toLower = isBlank (Char.ofNat n) ∧
    ((n < 0x41 ∨ 0x5A < n) → (Char.ofNat n).toLower = Char.ofNat n) := by
  decide +kernel

/-- The characters that lower-casing makes without the table. -/
theorem isLowerForm_special {c : Char} (h : c ∈ ['i', '\u0307', 'ς', 'σ']) :
    isLowerForm c = true ∧ isBlank c = false := by
  have hall : (['i', '\u0307', 'ς', 'σ'].all fun d => isLowerForm d && !isBlank d) = true := by
    decide +kernel
  simpa using List.all_eq_true.mp hall c h

theorem find?_covers_of_isLowerForm {c : Char} (h : isLowerForm c = true) :
    lowerRuns.find? (·.covers c.toNat) = none := by
  rw [List.find?_eq_none]
  intro run hrun
  rw [(isLowerForm_iff.mp h).2 run hrun]
  exact Bool.false_ne_true

/-- A character in lower case is its own lower-case form, and no capital sigma. -/
theorem lowerChar_of_isLowerForm {c : Char} (h : isLowerForm c = true) :
    c ≠ 'Σ' ∧ lowerChar c = [c] := by
  obtain ⟨hdotted, hcovers⟩ := isLowerForm_iff.mp h
  constructor
  · rintro rfl
    revert h
    decide +kernel
  · rw [lowerChar, if_neg hdotted]
    split
    next hascii =>
      have hcapital := hcovers ⟨0x41, 0x5A, 1, 32⟩ (List.mem_cons_self)
      simp only [Bool.eq_false_iff, ne_eq, CaseRun.covers_iff, Nat.mod_one, and_true] at hcapital
      have hsame := (toLower_ascii c.toNat hascii).2.2.2 (by omega)
      rw [Char.ofNat_toNat] at hsame
      rw [hsame]
    next => rw [mapCase, find?_covers_of_isLowerForm h, Char.ofNat_toNat]

/-- The lower-case form of a character is in lower case, and a blank only where the character is
one. -/
theorem lowerChar_cases (c : Char) : lowerChar c ≠ [] ∧ ∀ d ∈ lowerChar c,
    isLowerForm d = true ∧ (isBlank c = false → isBlank d = false) := by
  rw [lowerChar]
  split
  next =>
    refine ⟨List.cons_ne_nil _ _, ?_⟩
    intro d hd
    obtain ⟨hlower, hblank⟩ := isLowerForm_special (List.mem_append_left ['ς', 'σ'] hd)
    exact ⟨hlower, fun _ => hblank⟩
  next hdotted =>
    split
    next hascii =>
      obtain ⟨hlower, hsmall, hblank, -⟩ := toLower_ascii c.toNat hascii
      rw [Char.ofNat_toNat] at hlower hsmall hblank
      simp only [ne_eq, List.cons_ne_nil, not_false_eq_true, List.mem_singleton, forall_eq,
        true_and]
      exact ⟨isLowerForm_of_ascii hlower hsmall, fun hc => hblank.trans hc⟩
    next hascii =>
      simp only [ne_eq, List.cons_ne_nil, not_false_eq_true, List.mem_singleton, forall_eq,
        true_and]
      rw [mapCase]
      split
      next run hfind =>
        have hrun := List.mem_of_find?_eq_some hfind
        have hcovers := List.find?_some hfind
        exact ⟨isLowerForm_image hrun hcovers, fun _ => isBlank_image hrun hcovers⟩
      next hfind =>
        rw [Char.ofNat_toNat]
        refine ⟨isLowerForm_iff.mpr ⟨hdotted, ?_⟩, id⟩
        intro run hrun
        exact Bool.eq_false_iff.mpr (List.find?_eq_none.mp hfind run hrun)

/-! ## Texts -/

/-- Like `lowerChar_cases`, with capital sigma in its place. -/
theorem lowered_cases (before : Text) (c : Char) (after : Text) :
    (if c = 'Σ' then [lowerSigma before after] else lowerChar c) ≠ [] ∧
      ∀ d ∈ if c = 'Σ' then [lowerSigma before after] else lowerChar c,
        isLowerForm d = true ∧ (isBlank c = false → isBlank d = false) := by
  by_cases hc : c = 'Σ'
  · rw [if_pos hc]
    have hsigma : lowerSigma before after ∈ ['i', '\u0307', 'ς', 'σ'] := by
      rw [lowerSigma]
      split <;> simp
    refine ⟨List.cons_ne_nil _ _, ?_⟩
    intro d hd
    obtain ⟨hlower, hblank⟩ := isLowerForm_special (List.mem_singleton.mp hd ▸ hsigma)
    exact ⟨hlower, fun _ => hblank⟩
  · rw [if_neg hc]
    exact lowerChar_cases c

theorem isLowerForm_of_mem_lowerAfter {before t : Text} {d : Char}
    (h : d ∈ lowerAfter before t) : isLowerForm d = true := by
  induction t generalizing before with
  | nil => cases h
  | cons c rest ih =>
      rw [lowerAfter] at h
      rcases List.mem_append.mp h with h | h
      · exact ((lowered_cases before c rest).2 d h).1
      · exact ih h

theorem lowerAfter_cons_of_isLowerForm {c : Char} (h : isLowerForm c = true)
    (before rest : Text) :
    lowerAfter before (c :: rest) = c :: lowerAfter (c :: before) rest := by
  obtain ⟨hsigma, hlower⟩ := lowerChar_of_isLowerForm h
  rw [lowerAfter, if_neg hsigma, hlower]
  rfl

/-- Lower-casing leaves a text of characters in lower case as it is. -/
theorem lowerAfter_of_isLowerForm {t : Text} (before : Text)
    (h : ∀ c ∈ t, isLowerForm c = true) : lowerAfter before t = t := by
  induction t generalizing before with
  | nil => rfl
  | cons c rest ih =>
      obtain ⟨hc, hrest⟩ := List.forall_mem_cons.mp h
      rw [lowerAfter_cons_of_isLowerForm hc, ih _ hrest]

/-- A part of a text is lower-cased on its own, up to its sigmas: something is left of it, and no
blank is made. -/
theorem lowerAfter_append (before front back : Text) :
    ∃ lowered, lowerAfter before (front ++ back) =
        lowered ++ lowerAfter (front.reverse ++ before) back ∧
      (front ≠ [] → lowered ≠ []) ∧
      ((∀ c ∈ front, isBlank c = false) → ∀ d ∈ lowered, isBlank d = false) := by
  induction front generalizing before with
  | nil => exact ⟨[], rfl, id, fun _ => nofun⟩
  | cons c front ih =>
      obtain ⟨lowered, hlowered, -, hblank⟩ := ih (c :: before)
      obtain ⟨hne, hcases⟩ := lowered_cases before c (front ++ back)
      refine ⟨_ ++ lowered, ?_, fun _ => List.append_ne_nil_of_left_ne_nil hne lowered, ?_⟩
      · rw [List.cons_append, lowerAfter, hlowered, List.append_assoc, List.reverse_cons,
          List.append_assoc]
        rfl
      · intro hfront d hd
        obtain ⟨hc, hfront⟩ := List.forall_mem_cons.mp hfront
        rcases List.mem_append.mp hd with hd | hd
        · exact (hcases d hd).2 hc
        · exact hblank hfront d hd

end Literate
