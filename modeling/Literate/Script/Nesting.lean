import Literate.Text.Basic

/-!
# Nested comments

A block comment opens with a parenthesis and a star and closes with a star and a parenthesis.
Comments nest. The three characters of a parenthesised star are neither an opener nor a
closer, also inside comments.
-/

namespace Literate

/-- What a scan of comment text finds. -/
inductive CommentScan where
  /-- The comment closes: the text up to and with the closer, and the text after it. -/
  | closed (body rest : Text)
  /-- The text ends inside the comment, at a nesting depth. -/
  | unclosed (depth : Nat)
deriving DecidableEq

/-- The scan of a text with more characters in front. -/
def CommentScan.prepend (lead : Text) : CommentScan → CommentScan
  | .closed body rest => .closed (lead ++ body) rest
  | .unclosed depth => .unclosed depth

/-- Scan comment text from a nesting depth to the closer that brings the depth to zero. -/
def scanComment : Nat → Text → CommentScan
  | depth, [] => .unclosed depth
  | depth, '(' :: '*' :: ')' :: rest => (scanComment depth rest).prepend ['(', '*', ')']
  | depth, '(' :: '*' :: rest => (scanComment (depth + 1) rest).prepend ['(', '*']
  | depth, '*' :: ')' :: rest =>
      if depth ≤ 1 then .closed ['*', ')'] rest
      else (scanComment (depth - 1) rest).prepend ['*', ')']
  | depth, c :: rest => (scanComment depth rest).prepend [c]

theorem CommentScan.prepend_eq_closed_iff {lead body rest : Text} {scan : CommentScan} :
    scan.prepend lead = .closed body rest ↔
      ∃ inner, scan = .closed inner rest ∧ body = lead ++ inner := by
  cases scan with
  | closed b r => grind [prepend]
  | unclosed d => simp [prepend]

/-- A closed scan splits the text at the end of the closer. -/
theorem scanComment_closed {depth : Nat} {t body rest : Text}
    (h : scanComment depth t = .closed body rest) : t = body ++ rest := by
  fun_induction scanComment depth t generalizing body with
  | case1 => simp at h
  | case4 => simp at h; simp [← h.1, h.2]
  | _ =>
      rename_i ih
      obtain ⟨inner, hinner, rfl⟩ := CommentScan.prepend_eq_closed_iff.1 h
      simp [ih hinner]

end Literate
