import Literate.Proofs.Block.Content
import Literate.Proofs.Script.Cut

/-!
# Where a documentation comment opens

A line that opens a documentation comment is blank in front of the comment. Either the comment
closes on the line or it takes up the whole rest of the line.
-/

namespace Literate

/-- Pieces of which one is a comment with a text and all others are white space. -/
def SoleComment (pieces : List Piece) (text : Text) : Prop :=
  pieces.filter (·.kind != .whitespace) = [⟨.comment, text⟩]

namespace SoleComment

variable {piece : Piece} {pieces : List Piece} {text : Text}

theorem mem (h : SoleComment pieces text) : ⟨.comment, text⟩ ∈ pieces := by
  have hmem : (⟨.comment, text⟩ : Piece) ∈ pieces.filter (·.kind != .whitespace) := by
    rw [h]
    exact List.mem_singleton_self _
  exact (List.mem_filter.mp hmem).1

/-- The first piece is white space or the comment itself. -/
theorem cons_cases (h : SoleComment (piece :: pieces) text) :
    (piece.kind = .whitespace ∧ SoleComment pieces text) ∨ piece = ⟨.comment, text⟩ := by
  unfold SoleComment at h
  by_cases hkind : piece.kind = .whitespace
  · rw [List.filter_cons_of_neg (by simp [hkind])] at h
    exact .inl ⟨hkind, h⟩
  · rw [List.filter_cons_of_pos (by simp [hkind])] at h
    exact .inr (List.cons.inj h).1

end SoleComment

theorem Line.soleComment_of_docOpener? {number offset : Nat} {pieces : List Piece} {text : Text}
    (h : (ofPieces number offset pieces).docOpener? = some text) :
    SoleComment pieces text ∧ ∃ inner, text = docOpening ++ inner := by
  rw [docOpener?_eq, pieces_ofPieces] at h
  exact openerOf_eq_some h

/-- A comment on a line, from its opener on: either it closes, or it is the rest of the line. -/
structure OpensOn (t text : Text) (lead tail : Text) : Prop where
  line_eq : t = lead ++ text ++ tail
  blank : ∀ c ∈ lead, isCodeSpace c = true
  whole : tail = [] ∨ ∃ body rest, scanComment 0 text = .closed body rest

/-- A comment that a scan from inside closed is closed by a scan from its opener. -/
theorem scanComment_opener_closed {more body rest : Text} (hmore : more.head? ≠ some ')')
    (h : scanComment 1 more = .closed body rest) :
    ∃ body' rest', scanComment 0 ('(' :: '*' :: body) = .closed body' rest' := by
  rw [← scanComment_closed_head? h] at hmore
  exact ⟨'(' :: '*' :: body, [], by
    rw [scanComment_opener 0 hmore, scanComment_closed_self h]
    rfl⟩

/-- A step of code that ends on its line with a block comment ends where the comment closes. -/
theorem codeStep_comment_closed {c : Char} {rest inner : Text}
    (hopened : (codeStep c rest).opened = none)
    (hpiece : (codeStep c rest).piece = ⟨.comment, Line.docOpening ++ inner⟩) :
    ∃ body after, scanComment 0 (Line.docOpening ++ inner) = .closed body after := by
  have htext := (codeStep_covers c rest).1
  rcases codeStep_cases c rest with
    ⟨more, -, hmore, hstep⟩ | ⟨kind, quote, more, -, -, hstep⟩ | hends
  · rw [hstep, CodeStep.comment] at hopened hpiece
    split at hpiece
    next body after hscan =>
      rw [← (Piece.mk.inj hpiece).2]
      exact scanComment_opener_closed hmore hscan
    next hscan => simp [hscan] at hopened
  · rw [hstep, CodeStep.string] at hpiece
    split at hpiece <;> simp [CodeStep.ofSplit] at hpiece
  · obtain rfl := hends.slash_of_comment (by rw [hpiece])
    rw [hpiece] at htext
    simp [Line.docOpening] at htext

theorem codePieces_opensOn {offset : Nat} {t inner : Text}
    (h : SoleComment (codePieces offset t).1 (Line.docOpening ++ inner)) :
    ∃ lead tail, OpensOn t (Line.docOpening ++ inner) lead tail := by
  fun_induction codePieces offset t with
  | case1 => simp [SoleComment] at h
  | case2 offset c rest step opened hopened =>
      -- The step leaves a construct open, so its piece is the whole text.
      have htext := (codeStep_covers c rest).1
      rw [codeStep_rest_of_opened hopened, List.append_nil] at htext
      have hmem := h.mem
      rw [List.mem_singleton] at hmem
      refine ⟨[], [], ?_, by simp, .inl rfl⟩
      simp [← htext, ← hmem, step]
  | case3 offset c rest step hopened pieces mode hpieces ih =>
      have htext := (codeStep_covers c rest).1
      rw [hpieces] at ih
      rcases h.cons_cases with ⟨hkind, hrest⟩ | hpiece
      · obtain ⟨lead, tail, hopens⟩ := ih hrest
        refine ⟨step.piece.text ++ lead, tail, ?_, ?_, hopens.whole⟩
        · rw [← htext, hopens.line_eq]
          simp [step]
        · intro d hd
          rcases List.mem_append.mp hd with hd | hd
          · exact codeStep_blank hkind d hd
          · exact hopens.blank d hd
      · refine ⟨[], step.rest, ?_, by simp, .inr (codeStep_comment_closed hopened hpiece)⟩
        rw [← htext, hpiece]
        simp [step]

theorem linePieces_opensOn {mode : LexMode} {offset : Nat} {t inner : Text}
    (h : SoleComment (linePieces mode offset t).1 (Line.docOpening ++ inner)) :
    ∃ lead tail, OpensOn t (Line.docOpening ++ inner) lead tail := by
  have whole : ∀ {kind : TokenKind}, SoleComment (Piece.ofText kind t) (Line.docOpening ++ inner) →
      t = Line.docOpening ++ inner := by
    intro kind h
    have hmem := h.mem
    unfold Piece.ofText at hmem
    split at hmem
    · simp at hmem
    · simpa using (Piece.mk.inj (List.mem_singleton.mp hmem)).2.symm
  cases mode with
  | code => exact codePieces_opensOn h
  | comment depth start =>
      simp only [linePieces] at h
      split at h
      next body rest hscan =>
        -- A comment of an earlier line closes here. From its own opener it closes all the more.
        rcases h.cons_cases with ⟨hkind, -⟩ | hpiece
        · simp at hkind
        · obtain rfl := (Piece.mk.inj hpiece).2
          have hclosed := scanComment_closed_of_le (scanComment_closed_self hscan) (Nat.zero_le _)
          exact ⟨[], rest, by simpa using scanComment_closed hscan, by simp, .inr hclosed⟩
      next => exact ⟨[], [], by simpa using whole h, by simp, .inl rfl⟩
  | string kind start =>
      simp only [linePieces] at h
      split at h
      next split hscan =>
        rcases h.cons_cases with ⟨hkind, -⟩ | hpiece
        · simp at hkind
        · simp at hpiece
      next => exact ⟨[], [], by simpa using whole h, by simp, .inl rfl⟩

theorem wholeLine_not_soleComment {kind : TokenKind} (hkind : kind ≠ .comment) {t text : Text} :
    ¬ SoleComment (wholeLine kind t) text := by
  intro h
  have hmem := h.mem
  simp only [wholeLine, List.mem_append, Piece.ofText] at hmem
  rcases hmem with hmem | hmem | hmem <;> split at hmem <;> simp_all

/-- A line that opens a documentation comment opens it behind blanks. -/
theorem lexLine_opensOn {defined : List Text} {state : LexState} {number offset : Nat}
    {t text : Text} (h : (Line.ofPieces number offset
      (lexLine defined state offset t).pieces).docOpener? = some text) :
    ∃ lead inner tail, text = Line.docOpening ++ inner ∧ OpensOn t text lead tail := by
  obtain ⟨hsole, inner, rfl⟩ := Line.soleComment_of_docOpener? h
  suffices hopens : ∃ lead tail, OpensOn t (Line.docOpening ++ inner) lead tail by
    obtain ⟨lead, tail, hopens⟩ := hopens
    exact ⟨lead, inner, tail, rfl, hopens⟩
  rcases lexLine_pieces_cases defined state offset t with hpieces | hpieces | hpieces
  · exact linePieces_opensOn (hpieces ▸ hsole)
  · rw [hpieces] at hsole
    exact absurd hsole (wholeLine_not_soleComment (by decide))
  · rw [hpieces] at hsole
    exact absurd hsole (wholeLine_not_soleComment (by decide))

end Literate
