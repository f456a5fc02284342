import Literate.Proofs.Block.Grouped
import Literate.Proofs.Script.Place

/-!
# Lines with the same pieces

What a line is for grouping follows from its pieces. Where it stands shows only in the place
that a directive remembers.
-/

namespace Literate.Line

variable {a b : Line}

theorem text_eq_textOf (line : Line) : line.text = Piece.textOf line.pieces := by
  simp [text, Piece.textOf, pieces, List.flatMap_def, Function.comp_def, Token.piece]

theorem text_congr (h : a.pieces = b.pieces) : a.text = b.text := by
  rw [text_eq_textOf, h, ← text_eq_textOf]

theorem isBlank_eq_all (line : Line) :
    line.isBlank = line.pieces.all (·.kind == .whitespace) := by
  rw [isBlank, pieces, List.all_map]
  rfl

theorem isBlank_congr (h : a.pieces = b.pieces) : a.isBlank = b.isBlank := by
  rw [isBlank_eq_all, h, ← isBlank_eq_all]

theorem isCommentOnly_eq_all (line : Line) : line.isCommentOnly =
    line.pieces.all fun piece => piece.kind == .comment || piece.kind == .whitespace := by
  rw [isCommentOnly, pieces, List.all_map]
  rfl

theorem isCommentOnly_congr (h : a.pieces = b.pieces) : a.isCommentOnly = b.isCommentOnly := by
  rw [isCommentOnly_eq_all, h, ← isCommentOnly_eq_all]

/-- The text of the comment piece that starts a documentation comment. -/
def openerOf (pieces : List Piece) : Option Text :=
  match pieces.filter (·.kind != .whitespace) with
  | [piece] =>
      if piece.kind == .comment && docOpening.isPrefixOf piece.text then some piece.text
      else none
  | _ => none

/-- An opener is the one comment of a line, and begins as a documentation comment does. -/
theorem openerOf_eq_some {pieces : List Piece} {text : Text} (h : openerOf pieces = some text) :
    pieces.filter (·.kind != .whitespace) = [⟨.comment, text⟩] ∧
      ∃ inner, text = docOpening ++ inner := by
  rw [openerOf] at h
  split at h
  next piece hfilter =>
    split at h
    next hcomment =>
      rw [Bool.and_eq_true] at hcomment
      obtain ⟨hkind, hstarts⟩ := hcomment
      obtain rfl := Option.some.inj h
      obtain ⟨inner, hinner⟩ := List.isPrefixOf_iff_prefix.mp hstarts
      refine ⟨?_, inner, hinner.symm⟩
      rw [hfilter, ← eq_of_beq hkind]
    next => cases h
  next => cases h

theorem docOpener?_eq (line : Line) : line.docOpener? = openerOf line.pieces := by
  have hfilter : line.pieces.filter (·.kind != .whitespace) =
      (line.tokens.filter (!·.isWhitespace)).map Token.piece := by
    rw [pieces, List.filter_map]
    rfl
  unfold docOpener? soleToken? openerOf
  rw [hfilter]
  cases htokens : line.tokens.filter (!·.isWhitespace) with
  | nil => rfl
  | cons token more =>
      cases more with
      | nil => rfl
      | cons next more => rfl

theorem docOpener?_congr (h : a.pieces = b.pieces) : a.docOpener? = b.docOpener? := by
  rw [docOpener?_eq, h, ← docOpener?_eq]

/-- A line is a directive when it holds comments alone and its text has pairs. -/
theorem directive?_eq_none_iff (line : Line) : line.directive? = none ↔
    line.isCommentOnly = false ∨ Directive.pairs? line.text = none := by
  unfold directive? commentText?
  cases honly : line.isCommentOnly with
  | false => simp
  | true => simp [Directive.parse]

theorem directive?_eq_none_congr (h : a.pieces = b.pieces) :
    a.directive? = none ↔ b.directive? = none := by
  rw [directive?_eq_none_iff, directive?_eq_none_iff, isCommentOnly_congr h, text_congr h]

theorem isPlain_congr (h : a.pieces = b.pieces) : a.IsPlain ↔ b.IsPlain := by
  constructor
  · intro ha
    exact ⟨(directive?_eq_none_congr h).mp ha.not_directive,
      (docOpener?_congr h).symm.trans ha.not_opener⟩
  · intro hb
    exact ⟨(directive?_eq_none_congr h).mpr hb.not_directive,
      (docOpener?_congr h).trans hb.not_opener⟩

/-! ## Lines that are one comment -/

variable {line : Line} {t : Text}

theorem textOf_ofText (kind : TokenKind) (t : Text) :
    Piece.textOf (Piece.ofText kind t) = t := by
  rw [Piece.ofText]
  cases t <;> simp

theorem text_of_comment (h : line.pieces = Piece.ofText .comment t) : line.text = t := by
  rw [text_eq_textOf, h, textOf_ofText]

theorem isCommentOnly_of_comment (h : line.pieces = Piece.ofText .comment t) :
    line.isCommentOnly = true := by
  rw [isCommentOnly_eq_all, h, Piece.ofText]
  cases t <;> simp

theorem docOpener?_of_comment (h : line.pieces = Piece.ofText .comment t) :
    line.docOpener? = if docOpening.isPrefixOf t then some t else none := by
  rw [docOpener?_eq, h, Piece.ofText]
  cases t with
  | nil => rfl
  | cons c t => simp [openerOf]

/-- A comment that is neither a directive nor an opener continues a comment. -/
theorem continues_of_comment (h : line.pieces = Piece.ofText .comment t)
    (hdirective : Directive.pairs? t = none) (hopener : ¬ docOpening <+: t) :
    line.Continues where
  commentOnly := isCommentOnly_of_comment h
  not_directive := by
    rw [directive?_eq_none_iff, text_of_comment h]
    exact .inr hdirective
  not_opener := by
    rw [docOpener?_of_comment h, if_neg]
    intro hstarts
    exact hopener (List.isPrefixOf_iff_prefix.mp hstarts)

/-- A comment that begins with the opener and is no directive opens a comment. -/
theorem opens_of_comment (h : line.pieces = Piece.ofText .comment t)
    (hdirective : Directive.pairs? t = none) (hopener : docOpening <+: t) : line.Opens t where
  not_directive := by
    rw [directive?_eq_none_iff, text_of_comment h]
    exact .inr hdirective
  docOpener := by
    rw [docOpener?_of_comment h, if_pos (List.isPrefixOf_iff_prefix.mpr hopener)]

/-- A comment that is read as a directive is one. -/
theorem directive?_of_comment (h : line.pieces = Piece.ofText .comment t) {d : Directive}
    (hparse : Directive.parse t line.span = some d) : line.directive? = some d := by
  rw [directive?, commentText?, if_pos (isCommentOnly_of_comment h), text_of_comment h]
  exact hparse

end Literate.Line
