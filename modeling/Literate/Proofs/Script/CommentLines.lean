import Literate.Proofs.Script.Nesting
import Literate.Proofs.Script.Place
import Literate.Proofs.Text.Break
import Literate.Script.Tokenized

/-!
# Lexing a comment

The lines of a text that is one comment are lexed as comments and nothing else. Behind the last
of them lexing goes on as it would have gone on in front of the first.
-/

namespace Literate

/-- A text that one scan closes on at its very end. -/
def IsComment (depth : Nat) (t : Text) : Prop := scanComment depth t = .closed t []

namespace IsComment

variable {depth : Nat} {line : Text} {more : List Text}

theorem ne_nil {t : Text} (h : IsComment depth t) : t ≠ [] := scanComment_closed_ne_nil h

/-- The first of several lines does not close the comment, and the others are a comment from the
depth that it leaves. -/
theorem head (h : IsComment depth (List.intercalate ['\n'] (line :: more))) (hmore : more ≠ []) :
    ∃ reached, scanComment depth line = .unclosed reached ∧
      IsComment reached (List.intercalate ['\n'] more) := by
  have hjoined : List.intercalate ['\n'] (line :: more) =
      line ++ '\n' :: List.intercalate ['\n'] more := by
    rw [List.intercalate_cons_of_ne_nil hmore]
    simp
  rw [IsComment, hjoined] at h
  cases hscan : scanComment depth line with
  | closed body rest =>
      rw [scanComment_append_of_closed hscan] at h
      simp at h
  | unclosed reached =>
      rw [scanComment_append_of_unclosed hscan isNoMark_feed] at h
      obtain ⟨inner, hinner, hbody⟩ := CommentScan.prepend_eq_closed_iff.mp h
      refine ⟨reached, rfl, ?_⟩
      rw [List.append_cons, List.append_cancel_left_eq] at hbody
      rw [IsComment, hinner, hbody]

/-- The last of several lines is a comment from a depth that is not zero. -/
theorem last {init : List Text} {final : Text} (hdepth : 0 < depth)
    (h : IsComment depth (List.intercalate ['\n'] (init ++ [final]))) :
    ∃ reached, 0 < reached ∧ IsComment reached final := by
  induction init generalizing depth with
  | nil =>
      rw [List.nil_append, List.intercalate_singleton] at h
      exact ⟨depth, hdepth, h⟩
  | cons line init ih =>
      obtain ⟨reached, hscan, hrest⟩ := h.head (by simp)
      exact ih (scanComment_unclosed_pos hdepth hscan) hrest

end IsComment

/-- Lexing inside a comment up to its end. -/
theorem lexLines_inside (defined : List Text) (branches : List Branch) (start number offset : Nat)
    {depth : Nat} {lines : List Text} (hne : lines ≠ [])
    (hreturn : ∀ line ∈ lines, withoutReturn line = line)
    (h : IsComment depth (List.intercalate ['\n'] lines)) :
    let run := lexLines defined ⟨.comment depth start, branches⟩ number offset lines
    run.after = ⟨.code, branches⟩ ∧
      run.lines.map Line.pieces = lines.map (Piece.ofText .comment) := by
  induction lines generalizing depth number offset with
  | nil => exact absurd rfl hne
  | cons line more ih =>
      have hline := hreturn line List.mem_cons_self
      by_cases hmore : more = []
      · subst hmore
        rw [List.intercalate_singleton] at h
        have hpieces : Piece.ofText .comment line = [⟨.comment, line⟩] := by
          simp [Piece.ofText, show line ≠ [] from h.ne_nil]
        have hscan : scanComment depth line = .closed line [] := h
        simp [lexLines, hline, lexLine, linePieces, hscan, codePieces, hpieces]
      · -- The first line stays inside, and the lines behind it start from the depth it reaches.
        obtain ⟨reached, hscan, hrest⟩ := h.head hmore
        have hrun := ih (number + 1) (offset + Text.byteSize line + 1) hmore
          (fun next hnext => hreturn next (List.mem_cons_of_mem line hnext)) hrest
        have hlexed : lexLine defined ⟨.comment depth start, branches⟩ offset line =
            ⟨Piece.ofText .comment line, [], ⟨.comment reached start, branches⟩⟩ := by
          simp [lexLine, linePieces, hscan]
        simp only [lexLines, hline, hlexed, List.map_cons, Line.pieces_ofPieces]
        exact ⟨hrun.1, congrArg _ hrun.2⟩

/-- A text with a parenthesis in front controls no branches. -/
theorem BranchLine.ofText?_of_paren (rest : Text) : ofText? ('(' :: rest) = none := by
  have htrim : Text.trimStart ('(' :: rest) = '(' :: rest := by
    rw [Text.trimStart, List.dropWhile_cons_of_neg (by decide)]
  simp only [ofText?, htrim]
  rfl

theorem codeStep_opener (inner : Text) :
    codeStep '(' ('*' :: '*' :: inner) = .comment ('*' :: inner) := rfl

theorem scanComment_docOpening (inner : Text) : scanComment 0 ('(' :: '*' :: '*' :: inner) =
    (scanComment 1 ('*' :: inner)).prepend ['(', '*'] :=
  scanComment_opener 0 (by simp)

section Opener

variable (defined : List Text) (offset : Nat) {inner : Text}

/-- A line of its own that is a documentation comment is one piece. -/
theorem lexLine_of_isComment (h : IsComment 0 ('(' :: '*' :: '*' :: inner)) :
    lexLine defined .initial offset ('(' :: '*' :: '*' :: inner) =
      ⟨[⟨.comment, '(' :: '*' :: '*' :: inner⟩], [], .initial⟩ := by
  rw [IsComment, scanComment_docOpening] at h
  obtain ⟨body, hscan, hbody⟩ := CommentScan.prepend_eq_closed_iff.mp h
  obtain rfl : body = '*' :: inner := by simpa using hbody.symm
  simp [lexLine, LexState.initial, BranchLine.ofText?_of_paren, isActive, linePieces, codePieces,
    codeStep_opener, CodeStep.comment, hscan]

/-- A line that opens a documentation comment and does not close it is one piece. -/
theorem lexLine_of_unclosed {depth : Nat}
    (h : scanComment 0 ('(' :: '*' :: '*' :: inner) = .unclosed depth) :
    lexLine defined .initial offset ('(' :: '*' :: '*' :: inner) =
      ⟨[⟨.comment, '(' :: '*' :: '*' :: inner⟩], [], ⟨.comment depth offset, []⟩⟩ := by
  rw [scanComment_docOpening, CommentScan.prepend_eq_unclosed_iff] at h
  simp [lexLine, LexState.initial, BranchLine.ofText?_of_paren, isActive, linePieces, codePieces,
    codeStep_opener, CodeStep.comment, h, Opened.mode]

end Opener

/-- Lexing a documentation comment from its opener up to its end. -/
theorem lexLines_comment (defined : List Text) (number offset : Nat) {inner : Text}
    {more : List Text}
    (hreturn : ∀ line ∈ ('(' :: '*' :: '*' :: inner) :: more, withoutReturn line = line)
    (h : IsComment 0 (List.intercalate ['\n'] (('(' :: '*' :: '*' :: inner) :: more))) :
    let run := lexLines defined .initial number offset (('(' :: '*' :: '*' :: inner) :: more)
    run.after = .initial ∧ run.lines.map Line.pieces =
      (('(' :: '*' :: '*' :: inner) :: more).map (Piece.ofText .comment) := by
  have hline := hreturn _ List.mem_cons_self
  by_cases hmore : more = []
  · subst hmore
    rw [List.intercalate_singleton] at h
    simp only [lexLines, hline, lexLine_of_isComment defined offset h]
    simp [Piece.ofText]
  · obtain ⟨reached, hscan, hrest⟩ := h.head hmore
    have hrun := lexLines_inside defined [] offset (number + 1)
      (offset + Text.byteSize ('(' :: '*' :: '*' :: inner) + 1) hmore
      (fun next hnext => hreturn next (List.mem_cons_of_mem _ hnext)) hrest
    simp only [lexLines, hline, lexLine_of_unclosed defined offset hscan, List.map_cons,
      Line.pieces_ofPieces]
    exact ⟨hrun.1, congrArg _ hrun.2⟩

end Literate
