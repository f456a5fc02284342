import Literate.Proofs.Script.Nesting

/-!
# Openers and closers of a text

Every opener of a comment makes the nesting one deeper and every closer takes one away. A scan that
does not close has gone as much deeper as the text has more openers than closers, and a scan that
closes has used up the depth that it began with.
-/

namespace Literate

/-- By how much the marks of a text deepen a nesting of comments: its openers less its closers. -/
def deepening : Text → Int
  | [] => 0
  | '(' :: '*' :: ')' :: rest => deepening rest
  | '(' :: '*' :: rest => deepening rest + 1
  | '*' :: ')' :: rest => deepening rest - 1
  | _ :: rest => deepening rest

theorem deepening_nil : deepening [] = 0 := rfl

theorem deepening_star (rest : Text) : deepening ('(' :: '*' :: ')' :: rest) = deepening rest := by
  rw [deepening]

theorem deepening_opener {rest : Text} (h : rest.head? ≠ some ')') :
    deepening ('(' :: '*' :: rest) = deepening rest + 1 := by
  rw [deepening]
  rintro tail rfl
  exact h rfl

theorem deepening_closer (rest : Text) : deepening ('*' :: ')' :: rest) = deepening rest - 1 := by
  rw [deepening]

theorem deepening_plain {c : Char} {rest : Text} (h : BeginsNoMark c rest) :
    deepening (c :: rest) = deepening rest := by
  rw [deepening]
  · rintro tail rfl rfl
    exact h.1 ⟨rfl, rfl⟩
  · rintro tail rfl rfl
    exact h.1 ⟨rfl, rfl⟩
  · rintro tail rfl rfl
    exact h.2 ⟨rfl, rfl⟩

/-- Characters that occur in no mark do not count, whatever stands behind them. -/
theorem deepening_append_of_isNoMark {t : Text} (h : ∀ c ∈ t, IsNoMark c) (more : Text) :
    deepening (t ++ more) = deepening more := by
  induction t with
  | nil => rfl
  | cons c t ih =>
      obtain ⟨hc, ht⟩ := List.forall_mem_cons.mp h
      rw [List.cons_append, deepening_plain (hc.begins _), ih ht]

/-- A scan that does not close reaches the depth that the marks lead to. -/
theorem deepening_of_unclosed {depth reached : Nat} {t : Text}
    (h : scanComment depth t = .unclosed reached) : (reached : Int) = depth + deepening t := by
  induction t using Text.mark_induction generalizing depth with
  | nil =>
      rw [scanComment_nil] at h
      obtain rfl := CommentScan.unclosed.inj h
      rw [deepening_nil, Int.add_zero]
  | star t ih =>
      rw [scanComment_star, CommentScan.prepend_eq_unclosed_iff] at h
      rw [deepening_star, ih h]
  | opener t ht ih =>
      rw [scanComment_opener depth ht, CommentScan.prepend_eq_unclosed_iff] at h
      rw [deepening_opener ht, ih h]
      omega
  | closer t ih =>
      rw [scanComment_closer] at h
      split at h
      next => cases h
      next hdepth =>
        rw [CommentScan.prepend_eq_unclosed_iff] at h
        rw [deepening_closer, ih h]
        omega
  | plain c t hc ih =>
      rw [scanComment_plain depth hc, CommentScan.prepend_eq_unclosed_iff] at h
      rw [deepening_plain hc, ih h]

theorem CommentScan.closed_of_prepend {lead body rest : Text} {scan : CommentScan}
    (h : scan.prepend lead = .closed (lead ++ body) rest) : scan = .closed body rest := by
  obtain ⟨inner, rfl, hbody⟩ := CommentScan.prepend_eq_closed_iff.mp h
  rw [List.append_cancel_left hbody]

/-- A comment that closes takes away the depth that it was scanned from, and what stands behind it
counts on its own. -/
theorem deepening_append_of_closed {depth : Nat} {body : Text} (hdepth : 0 < depth)
    (h : scanComment depth body = .closed body []) (more : Text) :
    deepening (body ++ more) = deepening more - depth := by
  induction body using Text.mark_induction generalizing depth with
  | nil =>
      rw [scanComment_nil] at h
      cases h
  | star t ih =>
      rw [scanComment_star] at h
      have hscan := CommentScan.closed_of_prepend h
      exact (deepening_star _).trans (ih hdepth hscan)
  | opener t ht ih =>
      rw [scanComment_opener depth ht] at h
      have hscan := CommentScan.closed_of_prepend h
      -- The closer stands in the text, so what is appended cannot make `(*)` of the opener.
      have hhead : (t ++ more).head? ≠ some ')' := by
        obtain ⟨d, t, rfl⟩ := List.exists_cons_of_ne_nil (scanComment_closed_ne_nil hscan)
        exact ht
      rw [List.cons_append, List.cons_append, deepening_opener hhead,
        ih (Nat.succ_pos depth) hscan]
      omega
  | closer t ih =>
      rw [scanComment_closer] at h
      rw [List.cons_append, List.cons_append, deepening_closer]
      split at h
      next hle =>
        obtain ⟨-, rfl⟩ := CommentScan.closed.inj h
        rw [List.nil_append]
        omega
      next hle =>
        have hscan := CommentScan.closed_of_prepend h
        rw [ih (by omega) hscan]
        omega
  | plain c t hc ih =>
      rw [scanComment_plain depth hc] at h
      have hscan := CommentScan.closed_of_prepend h
      have hbegins := hc.append (scanComment_closed_ne_nil hscan) more
      exact (deepening_plain hbegins).trans (ih hdepth hscan)

end Literate
