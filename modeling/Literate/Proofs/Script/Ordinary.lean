import Literate.Proofs.Script.CodeStep

/-!
# Ordinary pieces

Lines that are lexed as code, or that begin in a comment or a string, have no piece of the kinds
that controlling lines and inactive lines have.
-/

namespace Literate

/-- A kind that neither controlling lines nor inactive lines have. -/
structure TokenKind.IsOrdinary (kind : TokenKind) : Prop where
  ne_preprocessor : kind ≠ .preprocessor
  ne_inactive : kind ≠ .inactive

namespace CodeStep

theorem comment_kind (rest : Text) : (comment rest).piece.kind = .comment := by
  unfold comment
  split <;> rfl

theorem string_kind (kind : StringKind) (quote rest : Text) :
    (string kind quote rest).piece.kind = .string := by
  unfold string
  split <;> rfl

theorem character_isOrdinary (rest : Text) : (character rest).piece.kind.IsOrdinary := by
  unfold character
  split <;> exact ⟨by simp [ofSplit], by simp [ofSplit]⟩

theorem quotedName_isOrdinary (rest : Text) : (quotedName rest).piece.kind.IsOrdinary := by
  unfold quotedName
  split <;> exact ⟨by simp [ofSplit], by simp [ofSplit]⟩

theorem byClass_isOrdinary (c : Char) (rest : Text) :
    (byClass c rest).piece.kind.IsOrdinary := by
  unfold byClass
  split
  · exact ⟨by simp [ofSplit], by simp [ofSplit]⟩
  split
  · exact ⟨by simp [ofSplit], by simp [ofSplit]⟩
  split <;> exact ⟨by simp [ofSplit], by simp [ofSplit]⟩

end CodeStep

theorem codeStep_isOrdinary (c : Char) (rest : Text) :
    (codeStep c rest).piece.kind.IsOrdinary := by
  unfold codeStep
  split
  · exact ⟨by simp, by simp⟩
  · exact ⟨by simp, by simp⟩
  · exact ⟨by simp [CodeStep.comment_kind], by simp [CodeStep.comment_kind]⟩
  · exact ⟨by simp [CodeStep.string_kind], by simp [CodeStep.string_kind]⟩
  · exact ⟨by simp [CodeStep.string_kind], by simp [CodeStep.string_kind]⟩
  · exact ⟨by simp [CodeStep.string_kind], by simp [CodeStep.string_kind]⟩
  · exact CodeStep.character_isOrdinary _
  · exact CodeStep.quotedName_isOrdinary _
  · exact CodeStep.byClass_isOrdinary _ _

theorem codePieces_isOrdinary (offset : Nat) (t : Text) :
    ∀ piece ∈ (codePieces offset t).1, piece.kind.IsOrdinary := by
  fun_induction codePieces offset t with
  | case1 => simp
  | case2 offset c rest step opened hopened =>
      exact List.forall_mem_singleton.mpr (codeStep_isOrdinary c rest)
  | case3 offset c rest step hopened pieces mode hpieces ih =>
      rw [hpieces] at ih
      exact List.forall_mem_cons.mpr ⟨codeStep_isOrdinary c rest, ih⟩

theorem Piece.ofText_isOrdinary {kind : TokenKind} (h : kind.IsOrdinary) (t : Text) :
    ∀ piece ∈ Piece.ofText kind t, piece.kind.IsOrdinary := by
  unfold Piece.ofText
  split
  · simp
  · exact List.forall_mem_singleton.mpr h

theorem linePieces_isOrdinary (mode : LexMode) (offset : Nat) (t : Text) :
    ∀ piece ∈ (linePieces mode offset t).1, piece.kind.IsOrdinary := by
  have hcomment : TokenKind.comment.IsOrdinary := ⟨by simp, by simp⟩
  have hstring : TokenKind.string.IsOrdinary := ⟨by simp, by simp⟩
  cases mode with
  | code => exact codePieces_isOrdinary offset t
  | comment depth start =>
      simp only [linePieces]
      split
      · exact List.forall_mem_cons.mpr ⟨hcomment, codePieces_isOrdinary _ _⟩
      · exact Piece.ofText_isOrdinary hcomment t
  | string kind start =>
      simp only [linePieces]
      split
      · exact List.forall_mem_cons.mpr ⟨hstring, codePieces_isOrdinary _ _⟩
      · exact Piece.ofText_isOrdinary hstring t

end Literate
