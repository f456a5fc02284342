import Literate.Script.Nesting

/-!
# Scans of nested comments

A scan reads a text mark by mark: the parenthesised star, the opener, the closer, and any other
character. Where a scan closes depends on the text up to there alone, and characters that are
part of no mark separate a scan into two.
-/

namespace Literate

/-- A character that begins no mark of a comment in front of a text. -/
def BeginsNoMark (c : Char) (rest : Text) : Prop :=
  ¬ (c = '(' ∧ rest.head? = some '*') ∧ ¬ (c = '*' ∧ rest.head? = some ')')

/-- A character that occurs in no mark of a comment. -/
structure IsNoMark (c : Char) : Prop where
  ne_opening : c ≠ '('
  ne_star : c ≠ '*'
  ne_closing : c ≠ ')'

instance (c : Char) : Decidable (IsNoMark c) :=
  decidable_of_iff (c ≠ '(' ∧ c ≠ '*' ∧ c ≠ ')')
    ⟨fun h => ⟨h.1, h.2.1, h.2.2⟩, fun h => ⟨h.1, h.2, h.3⟩⟩

theorem IsNoMark.begins {c : Char} (h : IsNoMark c) (rest : Text) : BeginsNoMark c rest :=
  ⟨fun hc => h.ne_opening hc.1, fun hc => h.ne_star hc.1⟩

theorem isNoMark_feed : IsNoMark '\n' := by decide

theorem isNoMark_return : IsNoMark '\r' := by decide

theorem BeginsNoMark.append {c : Char} {rest : Text} (h : BeginsNoMark c rest)
    (hrest : rest ≠ []) (more : Text) : BeginsNoMark c (rest ++ more) := by
  obtain ⟨d, rest, rfl⟩ := List.exists_cons_of_ne_nil hrest
  exact h

theorem BeginsNoMark.append_separator {c d : Char} {rest : Text} (h : BeginsNoMark c rest)
    (hd : IsNoMark d) (more : Text) : BeginsNoMark c (rest ++ d :: more) := by
  cases rest with
  | nil =>
      exact ⟨fun hc => hd.ne_star (Option.some.inj hc.2),
        fun hc => hd.ne_closing (Option.some.inj hc.2)⟩
  | cons e rest => exact h

/-- Induction along the marks of a text. -/
theorem Text.mark_induction {motive : Text → Prop} (nil : motive [])
    (star : ∀ rest, motive rest → motive ('(' :: '*' :: ')' :: rest))
    (opener : ∀ rest, rest.head? ≠ some ')' → motive rest → motive ('(' :: '*' :: rest))
    (closer : ∀ rest, motive rest → motive ('*' :: ')' :: rest))
    (plain : ∀ c rest, BeginsNoMark c rest → motive rest → motive (c :: rest)) :
    ∀ t, motive t
  | [] => nil
  | c :: rest => by
      -- A mark is two or three characters long, so the tail alone is not enough.
      have ih : ∀ t : Text, t.length < (c :: rest).length → motive t :=
        fun t hlt => mark_induction nil star opener closer plain t
      by_cases hopening : c = '(' ∧ rest.head? = some '*'
      · obtain ⟨rfl, hhead⟩ := hopening
        obtain ⟨rest, rfl⟩ := List.head?_eq_some_iff.mp hhead
        by_cases hclosing : rest.head? = some ')'
        · obtain ⟨rest, rfl⟩ := List.head?_eq_some_iff.mp hclosing
          exact star rest (ih rest (by simp only [List.length_cons]; omega))
        · exact opener rest hclosing (ih rest (by simp only [List.length_cons]; omega))
      · by_cases hcloser : c = '*' ∧ rest.head? = some ')'
        · obtain ⟨rfl, hhead⟩ := hcloser
          obtain ⟨rest, rfl⟩ := List.head?_eq_some_iff.mp hhead
          exact closer rest (ih rest (by simp only [List.length_cons]; omega))
        · exact plain c rest ⟨hopening, hcloser⟩ (ih rest (by simp only [List.length_cons]; omega))
termination_by t => t.length
decreasing_by exact hlt

/-! ## One mark at a time -/

theorem scanComment_star (depth : Nat) (rest : Text) :
    scanComment depth ('(' :: '*' :: ')' :: rest) =
      (scanComment depth rest).prepend ['(', '*', ')'] := by
  rw [scanComment]

theorem scanComment_opener (depth : Nat) {rest : Text} (h : rest.head? ≠ some ')') :
    scanComment depth ('(' :: '*' :: rest) =
      (scanComment (depth + 1) rest).prepend ['(', '*'] := by
  rw [scanComment]
  rintro tail rfl
  exact h rfl

theorem scanComment_closer (depth : Nat) (rest : Text) :
    scanComment depth ('*' :: ')' :: rest) =
      if depth ≤ 1 then .closed ['*', ')'] rest
      else (scanComment (depth - 1) rest).prepend ['*', ')'] := by
  rw [scanComment]

theorem scanComment_plain (depth : Nat) {c : Char} {rest : Text} (h : BeginsNoMark c rest) :
    scanComment depth (c :: rest) = (scanComment depth rest).prepend [c] := by
  rw [scanComment]
  · rintro tail rfl rfl
    exact h.1 ⟨rfl, rfl⟩
  · rintro tail rfl rfl
    exact h.1 ⟨rfl, rfl⟩
  · rintro tail rfl rfl
    exact h.2 ⟨rfl, rfl⟩

/-! ## Scans of two texts in a row -/

theorem CommentScan.prepend_eq_unclosed_iff {lead : Text} {scan : CommentScan} {depth : Nat} :
    scan.prepend lead = .unclosed depth ↔ scan = .unclosed depth := by
  cases scan <;> simp [prepend]

theorem CommentScan.prepend_prepend (lead more : Text) (scan : CommentScan) :
    (scan.prepend more).prepend lead = scan.prepend (lead ++ more) := by
  cases scan <;> simp [prepend]

theorem scanComment_nil (depth : Nat) : scanComment depth [] = .unclosed depth := by
  rw [scanComment]

/-- A closed scan does not read what stands behind the closer. -/
theorem scanComment_append_of_closed {depth : Nat} {t body rest : Text}
    (h : scanComment depth t = .closed body rest) (more : Text) :
    scanComment depth (t ++ more) = .closed body (rest ++ more) := by
  induction t using Text.mark_induction generalizing depth body with
  | nil => simp [scanComment_nil] at h
  | star t ih =>
      rw [scanComment_star, CommentScan.prepend_eq_closed_iff] at h
      obtain ⟨inner, hinner, rfl⟩ := h
      simp [scanComment_star, ih hinner, CommentScan.prepend]
  | opener t ht ih =>
      rw [scanComment_opener depth ht, CommentScan.prepend_eq_closed_iff] at h
      obtain ⟨inner, hinner, rfl⟩ := h
      -- The scan closes behind the opener, so what is appended cannot make `(*)` of it.
      have hne : t ≠ [] := by rintro rfl; simp [scanComment_nil] at hinner
      have hhead : (t ++ more).head? ≠ some ')' := by
        obtain ⟨d, t, rfl⟩ := List.exists_cons_of_ne_nil hne
        exact ht
      simp [scanComment_opener depth hhead, ih hinner, CommentScan.prepend]
  | closer t ih =>
      rw [scanComment_closer] at h
      split at h
      next hdepth =>
        obtain ⟨rfl, rfl⟩ := CommentScan.closed.inj h
        simp [scanComment_closer, hdepth]
      next hdepth =>
        obtain ⟨inner, hinner, rfl⟩ := CommentScan.prepend_eq_closed_iff.mp h
        simp [scanComment_closer, hdepth, ih hinner, CommentScan.prepend]
  | plain c t hc ih =>
      rw [scanComment_plain depth hc, CommentScan.prepend_eq_closed_iff] at h
      obtain ⟨inner, hinner, rfl⟩ := h
      have hne : t ≠ [] := by rintro rfl; simp [scanComment_nil] at hinner
      simp [scanComment_plain depth (hc.append hne more), ih hinner, CommentScan.prepend]

/-- Behind a scan that does not close, a separator starts a scan from the depth reached. -/
theorem scanComment_append_of_unclosed {depth reached : Nat} {t : Text}
    (h : scanComment depth t = .unclosed reached) {c : Char} (hc : IsNoMark c) (more : Text) :
    scanComment depth (t ++ c :: more) = (scanComment reached more).prepend (t ++ [c]) := by
  induction t using Text.mark_induction generalizing depth with
  | nil =>
      obtain rfl := CommentScan.unclosed.inj ((scanComment_nil depth).symm.trans h)
      exact scanComment_plain depth (hc.begins more)
  | star t ih =>
      rw [scanComment_star, CommentScan.prepend_eq_unclosed_iff] at h
      simp [scanComment_star, ih h, CommentScan.prepend_prepend]
  | opener t ht ih =>
      rw [scanComment_opener depth ht, CommentScan.prepend_eq_unclosed_iff] at h
      have hhead : (t ++ c :: more).head? ≠ some ')' := by
        cases t with
        | nil => exact fun hhead => hc.ne_closing (Option.some.inj hhead)
        | cons d t => exact ht
      simp [scanComment_opener depth hhead, ih h, CommentScan.prepend_prepend]
  | closer t ih =>
      rw [scanComment_closer] at h
      split at h
      next => simp at h
      next hdepth =>
        rw [CommentScan.prepend_eq_unclosed_iff] at h
        simp [scanComment_closer, hdepth, ih h, CommentScan.prepend_prepend]
  | plain d t hd ih =>
      rw [scanComment_plain depth hd, CommentScan.prepend_eq_unclosed_iff] at h
      simp [scanComment_plain depth (hd.append_separator hc more), ih h,
        CommentScan.prepend_prepend]

/-- A scan that does not close stays inside the comment. -/
theorem scanComment_unclosed_pos {depth reached : Nat} {t : Text} (hdepth : 0 < depth)
    (h : scanComment depth t = .unclosed reached) : 0 < reached := by
  induction t using Text.mark_induction generalizing depth with
  | nil => exact CommentScan.unclosed.inj ((scanComment_nil depth).symm.trans h) ▸ hdepth
  | star t ih =>
      rw [scanComment_star, CommentScan.prepend_eq_unclosed_iff] at h
      exact ih hdepth h
  | opener t ht ih =>
      rw [scanComment_opener depth ht, CommentScan.prepend_eq_unclosed_iff] at h
      exact ih (Nat.succ_pos depth) h
  | closer t ih =>
      rw [scanComment_closer] at h
      split at h
      next => simp at h
      next hle =>
        rw [CommentScan.prepend_eq_unclosed_iff] at h
        exact ih (by omega) h
  | plain c t hc ih =>
      rw [scanComment_plain depth hc, CommentScan.prepend_eq_unclosed_iff] at h
      exact ih hdepth h

/-- Where a scan closes, the closer stands. -/
theorem scanComment_closed_eq {depth : Nat} {t body rest : Text}
    (h : scanComment depth t = .closed body rest) : ∃ inner, body = inner ++ ['*', ')'] := by
  fun_induction scanComment depth t generalizing body with
  | case1 => simp at h
  | case4 => exact ⟨[], (CommentScan.closed.inj h).1.symm⟩
  | _ =>
      rename_i ih
      obtain ⟨inner, hinner, rfl⟩ := CommentScan.prepend_eq_closed_iff.1 h
      obtain ⟨front, rfl⟩ := ih hinner
      exact ⟨_ ++ front, (List.append_assoc _ _ _).symm⟩

theorem scanComment_closed_ne_nil {depth : Nat} {t body rest : Text}
    (h : scanComment depth t = .closed body rest) : body ≠ [] := by
  obtain ⟨inner, rfl⟩ := scanComment_closed_eq h
  simp

theorem scanComment_closed_head? {depth : Nat} {t body rest : Text}
    (h : scanComment depth t = .closed body rest) : body.head? = t.head? := by
  obtain ⟨c, inner, rfl⟩ := List.exists_cons_of_ne_nil (scanComment_closed_ne_nil h)
  rw [scanComment_closed h]
  rfl

/-- A body that a scan closes on is closed by a scan of its own. -/
theorem scanComment_closed_self {depth : Nat} {t body rest : Text}
    (h : scanComment depth t = .closed body rest) : scanComment depth body = .closed body [] := by
  induction t using Text.mark_induction generalizing depth body with
  | nil => simp [scanComment_nil] at h
  | star t ih =>
      rw [scanComment_star, CommentScan.prepend_eq_closed_iff] at h
      obtain ⟨inner, hinner, rfl⟩ := h
      simp [scanComment_star, ih hinner, CommentScan.prepend]
  | opener t ht ih =>
      rw [scanComment_opener depth ht, CommentScan.prepend_eq_closed_iff] at h
      obtain ⟨inner, hinner, rfl⟩ := h
      -- Its body begins as the text does, so the opener is one in front of the body too.
      rw [← scanComment_closed_head? hinner] at ht
      simp [scanComment_opener depth ht, ih hinner, CommentScan.prepend]
  | closer t ih =>
      rw [scanComment_closer] at h
      split at h
      next hdepth =>
        obtain ⟨rfl, rfl⟩ := CommentScan.closed.inj h
        simp [scanComment_closer, hdepth]
      next hdepth =>
        obtain ⟨inner, hinner, rfl⟩ := CommentScan.prepend_eq_closed_iff.mp h
        simp [scanComment_closer, hdepth, ih hinner, CommentScan.prepend]
  | plain c t hc ih =>
      rw [scanComment_plain depth hc, CommentScan.prepend_eq_closed_iff] at h
      obtain ⟨inner, hinner, rfl⟩ := h
      rw [BeginsNoMark, ← scanComment_closed_head? hinner] at hc
      simp [scanComment_plain depth hc, ih hinner, CommentScan.prepend]

/-- From a smaller depth a scan closes too. -/
theorem scanComment_closed_of_le {depth less : Nat} {t body rest : Text}
    (h : scanComment depth t = .closed body rest) (hle : less ≤ depth) :
    ∃ body rest, scanComment less t = .closed body rest := by
  induction t using Text.mark_induction generalizing depth less body with
  | nil => simp [scanComment_nil] at h
  | star t ih =>
      rw [scanComment_star, CommentScan.prepend_eq_closed_iff] at h
      obtain ⟨inner, hinner, rfl⟩ := h
      obtain ⟨body, rest, hless⟩ := ih hinner hle
      exact ⟨_, rest, by rw [scanComment_star, hless]; rfl⟩
  | opener t ht ih =>
      rw [scanComment_opener depth ht, CommentScan.prepend_eq_closed_iff] at h
      obtain ⟨inner, hinner, rfl⟩ := h
      obtain ⟨body, rest, hless⟩ := ih hinner (Nat.succ_le_succ hle)
      exact ⟨_, rest, by rw [scanComment_opener less ht, hless]; rfl⟩
  | closer t ih =>
      -- The closer may end the scan from the smaller depth already.
      by_cases hless : less ≤ 1
      · exact ⟨_, t, by rw [scanComment_closer, if_pos hless]⟩
      · rw [scanComment_closer, if_neg (by omega)] at h
        obtain ⟨inner, hinner, rfl⟩ := CommentScan.prepend_eq_closed_iff.mp h
        obtain ⟨body, rest, hscan⟩ := ih hinner (Nat.sub_le_sub_right hle 1)
        exact ⟨_, rest, by rw [scanComment_closer, if_neg hless, hscan]; rfl⟩
  | plain c t hc ih =>
      rw [scanComment_plain depth hc, CommentScan.prepend_eq_closed_iff] at h
      obtain ⟨inner, hinner, rfl⟩ := h
      obtain ⟨body, rest, hless⟩ := ih hinner hle
      exact ⟨_, rest, by rw [scanComment_plain less hc, hless]; rfl⟩

/-! ## Texts without marks -/

/-- A text in which no mark of a comment begins. -/
def Unmarked : Text → Prop
  | [] => True
  | c :: rest => BeginsNoMark c rest ∧ Unmarked rest

theorem unmarked_of_not_infix {t : Text} (hopener : ¬ ['(', '*'] <:+: t)
    (hcloser : ¬ ['*', ')'] <:+: t) : Unmarked t := by
  induction t with
  | nil => trivial
  | cons c t ih =>
      refine ⟨⟨?_, ?_⟩, ih (fun h => hopener (List.infix_cons h))
        fun h => hcloser (List.infix_cons h)⟩
      · rintro ⟨rfl, hhead⟩
        obtain ⟨rest, rfl⟩ := List.head?_eq_some_iff.mp hhead
        exact hopener ⟨[], rest, rfl⟩
      · rintro ⟨rfl, hhead⟩
        obtain ⟨rest, rfl⟩ := List.head?_eq_some_iff.mp hhead
        exact hcloser ⟨[], rest, rfl⟩

theorem unmarked_of_isNoMark {t : Text} (h : ∀ c ∈ t, IsNoMark c) : Unmarked t := by
  induction t with
  | nil => trivial
  | cons c t ih =>
      exact ⟨(h c List.mem_cons_self).begins t, ih fun d hd => h d (List.mem_cons_of_mem c hd)⟩

/-- A separator between texts without marks makes no mark. -/
theorem Unmarked.append {s t : Text} (hs : Unmarked s) {c : Char} (hc : IsNoMark c)
    (ht : Unmarked t) : Unmarked (s ++ c :: t) := by
  induction s with
  | nil => exact ⟨hc.begins t, ht⟩
  | cons d s ih => exact ⟨hs.1.append_separator hc t, ih hs.2⟩

theorem Unmarked.scanComment_eq {t : Text} (h : Unmarked t) (depth : Nat) :
    scanComment depth t = .unclosed depth := by
  induction t with
  | nil => exact scanComment_nil depth
  | cons c t ih =>
      rw [scanComment_plain depth h.1, ih h.2]
      rfl

end Literate
