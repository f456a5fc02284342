import Literate.Proofs.Script.Cut
import Literate.Proofs.Text.Trim

/-!
# White space of lexed lines

Lexing makes whitespace tokens of blank characters only.
-/

namespace Literate

/-- A piece that is no white space, or a blank one. -/
def Piece.Spaced (piece : Piece) : Prop :=
  piece.kind = .whitespace → piece.text.all isBlank = true

/-- A line whose whitespace tokens hold blanks alone. -/
def Line.Spaced (line : Line) : Prop :=
  ∀ token ∈ line.tokens, token.kind = .whitespace → token.text.all Literate.isBlank = true

theorem Line.spaced_iff {line : Line} : line.Spaced ↔ ∀ piece ∈ line.pieces, piece.Spaced := by
  rw [pieces, List.forall_mem_map]
  rfl

theorem isBlank_of_isCodeSpace {c : Char} (h : isCodeSpace c = true) : isBlank c = true := by
  rw [isCodeSpace, Bool.or_eq_true, beq_iff_eq, beq_iff_eq] at h
  rcases h with rfl | rfl <;> decide

/-- No mark of a comment has a blank in it. -/
theorem isNoMark_of_isBlank {c : Char} (h : isBlank c = true) : IsNoMark c := by
  refine ⟨?_, ?_, ?_⟩ <;> rintro rfl <;> revert h <;> decide

theorem Piece.ofText_spaced {kind : TokenKind} {t : Text}
    (h : kind = .whitespace → t.all isBlank = true) :
    ∀ piece ∈ Piece.ofText kind t, piece.Spaced := by
  intro piece hpiece
  rw [Piece.ofText] at hpiece
  split at hpiece
  · simp at hpiece
  · obtain rfl := List.mem_singleton.mp hpiece
    exact h

theorem wholeLine_spaced {kind : TokenKind} (hkind : kind ≠ .whitespace) (t : Text) :
    ∀ piece ∈ wholeLine kind t, piece.Spaced := by
  intro piece hpiece
  rw [wholeLine, List.mem_append, List.mem_append] at hpiece
  rcases hpiece with hpiece | hpiece | hpiece
  · exact Piece.ofText_spaced (fun _ => List.all_takeWhile) piece hpiece
  · exact Piece.ofText_spaced (fun h => absurd h hkind) piece hpiece
  · refine Piece.ofText_spaced ?_ piece hpiece
    exact fun _ => List.all_eq_true.mpr fun c hc => List.mem_rtakeWhile_imp hc

theorem codePieces_spaced (offset : Nat) (t : Text) :
    ∀ piece ∈ (codePieces offset t).1, piece.Spaced := by
  have hstep : ∀ c rest, (codeStep c rest).piece.Spaced := fun c rest hkind =>
    List.all_eq_true.mpr fun d hd => isBlank_of_isCodeSpace (codeStep_blank hkind d hd)
  fun_induction codePieces offset t with
  | case1 => simp
  | case2 offset c rest step opened hopened => simpa using hstep c rest
  | case3 offset c rest step hopened pieces mode hpieces ih =>
      rw [hpieces] at ih
      exact List.forall_mem_cons.mpr ⟨hstep c rest, ih⟩

theorem linePieces_spaced (mode : LexMode) (offset : Nat) (t : Text) :
    ∀ piece ∈ (linePieces mode offset t).1, piece.Spaced := by
  cases mode with
  | code => exact codePieces_spaced offset t
  | comment depth start =>
      simp only [linePieces]
      split
      next body rest hscan =>
        exact List.forall_mem_cons.mpr ⟨by simp [Piece.Spaced], codePieces_spaced _ rest⟩
      next => exact Piece.ofText_spaced (by simp)
  | string kind start =>
      simp only [linePieces]
      split
      next split hscan =>
        exact List.forall_mem_cons.mpr ⟨by simp [Piece.Spaced], codePieces_spaced _ split.rest⟩
      next => exact Piece.ofText_spaced (by simp)

theorem lexLine_spaced (defined : List Text) (state : LexState) (offset : Nat) (t : Text) :
    ∀ piece ∈ (lexLine defined state offset t).pieces, piece.Spaced := by
  rcases lexLine_pieces_cases defined state offset t with h | h | h
  · rw [h]
    exact linePieces_spaced state.mode offset t
  · rw [h]
    exact wholeLine_spaced (by decide) t
  · rw [h]
    exact wholeLine_spaced (by decide) t

theorem lexLines_spaced (defined : List Text) (state : LexState) (number offset : Nat)
    (raws : List Text) : ∀ line ∈ (lexLines defined state number offset raws).lines,
      line.Spaced := by
  induction raws generalizing state number offset with
  | nil => simp [lexLines]
  | cons raw raws ih =>
      refine List.forall_mem_cons.mpr ⟨?_, ih _ _ _⟩
      rw [Line.spaced_iff, Line.pieces_ofPieces]
      exact lexLine_spaced defined state offset (withoutReturn raw)

theorem lexSource_spaced (defined : List Text) (source : Text) :
    ∀ line ∈ (lexSource defined source).1, line.Spaced :=
  lexLines_spaced defined .initial 1 0 (physicalLines source)

end Literate
