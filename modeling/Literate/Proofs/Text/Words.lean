import Literate.Proofs.Text.Break
import Literate.Text.Blank

/-!
# The words of a text

Words are cut out at blanks. Words with one space between them are a text that has just these
words, so that writing the words of a text in this way collapses its blanks once and for all.
-/

namespace Literate.Text

/-- A text that is not empty and has no blanks. -/
structure IsWord (t : Text) : Prop where
  ne_nil : t ≠ []
  not_isBlank : ∀ c ∈ t, isBlank c = false

theorem isWord_of_mem_wordsFrom {word t w : Text} (hword : ∀ c ∈ word, isBlank c = false)
    (h : w ∈ wordsFrom word t) : IsWord w := by
  induction t generalizing word with
  | nil =>
      rw [wordsFrom] at h
      split at h
      next => cases h
      next hne =>
        obtain rfl := List.mem_singleton.mp h
        exact ⟨by simpa using hne, hword⟩
  | cons c rest ih =>
      rw [wordsFrom] at h
      split at h
      next =>
        split at h
        next => exact ih (List.forall_mem_nil _) h
        next hne =>
          rcases List.mem_cons.mp h with rfl | h
          · exact ⟨by simpa using hne, hword⟩
          · exact ih (List.forall_mem_nil _) h
      next hc =>
        apply ih ?_ h
        intro d hd
        rcases List.mem_append.mp hd with hd | hd
        · exact hword d hd
        · rw [List.mem_singleton.mp hd]
          exact eq_false_of_ne_true hc

theorem isWord_of_mem_words {t w : Text} (h : w ∈ words t) : IsWord w :=
  isWord_of_mem_wordsFrom (List.forall_mem_nil _) h

theorem mem_of_mem_wordsFrom {word t w : Text} {c : Char} (h : w ∈ wordsFrom word t)
    (hc : c ∈ w) : c ∈ word ∨ c ∈ t := by
  induction t generalizing word with
  | nil =>
      rw [wordsFrom] at h
      split at h
      next => cases h
      next => exact .inl (List.mem_singleton.mp h ▸ hc)
  | cons d rest ih =>
      have hnext : ∀ {read}, w ∈ wordsFrom read rest → c ∈ read ∨ c ∈ d :: rest :=
        fun h => (ih h).imp_right (List.mem_cons_of_mem d)
      rw [wordsFrom] at h
      split at h
      next =>
        split at h
        next => exact .inr ((hnext h).resolve_left List.not_mem_nil)
        next =>
          rcases List.mem_cons.mp h with rfl | h
          · exact .inl hc
          · exact .inr ((hnext h).resolve_left List.not_mem_nil)
      next =>
        rcases hnext h with hread | hrest
        · rcases List.mem_append.mp hread with hword | hd
          · exact .inl hword
          · exact .inr (List.mem_singleton.mp hd ▸ List.mem_cons_self)
        · exact .inr hrest

theorem mem_of_mem_words {t w : Text} {c : Char} (h : w ∈ words t) (hc : c ∈ w) : c ∈ t :=
  (mem_of_mem_wordsFrom h hc).resolve_left List.not_mem_nil

/-- Characters that are not blank go on with the word that is being read. -/
theorem wordsFrom_append {w : Text} (hw : ∀ c ∈ w, isBlank c = false) (word t : Text) :
    wordsFrom word (w ++ t) = wordsFrom (word ++ w) t := by
  induction w generalizing word with
  | nil => simp
  | cons c w ih =>
      obtain ⟨hc, hw⟩ := List.forall_mem_cons.mp hw
      rw [List.cons_append, wordsFrom, if_neg (by simp [hc]), ih hw, List.append_assoc,
        List.singleton_append]

theorem words_intercalate {ws : List Text} (h : ∀ w ∈ ws, IsWord w) :
    words (List.intercalate [' '] ws) = ws := by
  induction ws with
  | nil => rfl
  | cons w more ih =>
      obtain ⟨hw, hmore⟩ := List.forall_mem_cons.mp h
      have hread : ∀ t, words (w ++ t) = wordsFrom w t := wordsFrom_append hw.not_isBlank []
      have hne : w.isEmpty = false := by simpa using hw.ne_nil
      cases more with
      | nil =>
          rw [List.intercalate_singleton, ← List.append_nil w, hread, wordsFrom, List.append_nil]
          simp [hne]
      | cons v more =>
          have hblank : isBlank ' ' = true := by decide
          rw [List.intercalate_cons_of_ne_nil (List.cons_ne_nil v more), List.append_assoc, hread,
            List.singleton_append, wordsFrom, if_pos hblank, hne]
          exact congrArg (w :: ·) (ih hmore)

end Literate.Text
