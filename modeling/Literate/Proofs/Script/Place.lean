import Literate.Proofs.Text.Break

/-!
# Places of texts, tokens and lines

A span is right when its text stands there in the source. This file says so for the pieces that
are put down one after the other on a line, and finds every physical line in its source.
-/

namespace Literate

/-- A text stands in a source at a span. Both ends of the span are then character borders. -/
def StandsAt (source : Text) (span : Span) (t : Text) : Prop :=
  ∃ before after, source = before ++ t ++ after ∧
    span.start = Text.byteSize before ∧ span.stop = span.start + Text.byteSize t

theorem byteSize_pos {t : Text} (h : t ≠ []) : 0 < Text.byteSize t := by
  cases t with
  | nil => exact absurd rfl h
  | cons c t => rw [Text.byteSize_cons]; have := c.utf8Size_pos; omega

/-- Tokens whose spans lead from one offset to another without gap or overlap, none of them
over an empty span. -/
def Token.Tile : Nat → List Token → Nat → Prop
  | start, [], stop => start = stop
  | start, token :: rest, stop =>
      token.span.start = start ∧ start < token.span.stop ∧ Tile token.span.stop rest stop

namespace Token.Tile

variable {start stop : Nat} {tokens : List Token}

theorem le (h : Tile start tokens stop) : start ≤ stop := by
  induction tokens generalizing start with
  | nil => exact Nat.le_of_eq h
  | cons token rest ih => have := ih h.2.2; have := h.2.1; omega

/-- The spans of tiling tokens cover exactly the stretch between the two ends. -/
theorem covers_iff (h : Tile start tokens stop) (offset : Nat) :
    (∃ token ∈ tokens, token.span.start ≤ offset ∧ offset < token.span.stop) ↔
      start ≤ offset ∧ offset < stop := by
  induction tokens generalizing start with
  | nil =>
      simp only [Tile] at h
      simp
      omega
  | cons token rest ih =>
      obtain ⟨hstart, hlt, hrest⟩ := h
      have hle := hrest.le
      simp only [List.mem_cons, exists_eq_or_imp, ih hrest]
      omega

end Token.Tile

namespace Piece

@[simp] theorem textOf_nil : textOf [] = [] := rfl

@[simp] theorem textOf_cons (piece : Piece) (pieces : List Piece) :
    textOf (piece :: pieces) = piece.text ++ textOf pieces := rfl

@[simp] theorem textOf_append (front back : List Piece) :
    textOf (front ++ back) = textOf front ++ textOf back := by
  simp [textOf]

/-- Where a piece stands on its line depends on the text of the pieces before it alone. -/
theorem mem_placed_iff {line offset column : Nat} {pieces : List Piece} {token : Token} :
    token ∈ placed line offset column pieces ↔
      ∃ front piece back, pieces = front ++ piece :: back ∧
        token = ⟨piece.kind, piece.text, ⟨line, column + (textOf front).length⟩,
          ⟨offset + Text.byteSize (textOf front),
            offset + Text.byteSize (textOf front) + Text.byteSize piece.text⟩⟩ := by
  induction pieces generalizing offset column with
  | nil => simp [placed]
  | cons piece rest ih =>
      simp only [placed, List.mem_cons, ih]
      constructor
      · rintro (rfl | ⟨front, next, back, rfl, rfl⟩)
        · exact ⟨[], piece, rest, rfl, by simp⟩
        · exact ⟨piece :: front, next, back, rfl, by simp [Nat.add_assoc]⟩
      · rintro ⟨front, next, back, hpieces, rfl⟩
        cases front with
        | nil =>
            obtain ⟨rfl, rfl⟩ := List.cons.inj hpieces
            exact .inl (by simp)
        | cons first front =>
            obtain ⟨rfl, rfl⟩ := List.cons.inj hpieces
            exact .inr ⟨front, next, back, rfl, by simp [Nat.add_assoc]⟩

theorem placed_tile {line offset column : Nat} {pieces : List Piece}
    (h : ∀ piece ∈ pieces, piece.text ≠ []) :
    Token.Tile offset (placed line offset column pieces)
      (offset + Text.byteSize (textOf pieces)) := by
  induction pieces generalizing offset column with
  | nil => simp [placed, Token.Tile]
  | cons piece rest ih =>
      have hpos := byteSize_pos (h piece (by simp))
      refine ⟨rfl, by simpa using hpos, ?_⟩
      rw [textOf_cons, Text.byteSize_append, ← Nat.add_assoc]
      exact ih fun next hnext => h next (by simp [hnext])

end Piece

/-- The piece that a token was before it had a place. -/
def Token.piece (token : Token) : Piece := ⟨token.kind, token.text⟩

theorem Piece.placed_map_piece (line offset column : Nat) (pieces : List Piece) :
    (placed line offset column pieces).map Token.piece = pieces := by
  induction pieces generalizing offset column with
  | nil => rfl
  | cons piece rest ih => simp [placed, ih, Token.piece]

/-- The pieces of a line without their places. -/
def Line.pieces (line : Line) : List Piece := line.tokens.map Token.piece

@[simp] theorem Line.pieces_ofPieces (number offset : Nat) (pieces : List Piece) :
    (ofPieces number offset pieces).pieces = pieces :=
  Piece.placed_map_piece number offset 1 pieces

end Literate
