import Literate.Script.Token

/-!
# Source lines

A line is a list of tokens with a number and a span. What grouping needs to know of a line
is here: whether it is blank, whether it holds comments alone, and its only token.
-/

namespace Literate

/-- One physical line of a script. A line without characters has no tokens. -/
structure Line where
  tokens : List Token
  /-- The number of the line, counted from one. -/
  number : Nat
  /-- The place of the line without its terminator. -/
  span : Span
deriving DecidableEq

namespace Line

/-- The line made of some pieces, at a line number and a byte offset. -/
def ofPieces (number offset : Nat) (pieces : List Piece) : Line where
  tokens := Piece.placed number offset 1 pieces
  number := number
  span := ⟨offset, offset + Text.byteSize (Piece.textOf pieces)⟩

/-- The lines made of lists of pieces, each one byte after the end of the line before. -/
def ofPieceLists : Nat → Nat → List (List Piece) → List Line
  | _, _, [] => []
  | number, offset, pieces :: rest =>
      let line := ofPieces number offset pieces
      line :: ofPieceLists (number + 1) (line.span.stop + 1) rest

def text (line : Line) : Text := line.tokens.flatMap (·.text)

/-- A line without tokens, or with whitespace alone. -/
def isBlank (line : Line) : Bool := line.tokens.all Token.isWhitespace

/-- A line that holds nothing but comments and whitespace. Blank lines count, so that a
blank line does not end the comment around it. -/
def isCommentOnly (line : Line) : Bool :=
  line.tokens.all fun token => token.isComment || token.isWhitespace

/-- The text of a line that holds nothing but comments and whitespace. -/
def commentText? (line : Line) : Option Text :=
  if line.isCommentOnly then some line.text else none

/-- The token of a line that has exactly one token apart from whitespace. -/
def soleToken? (line : Line) : Option Token :=
  match line.tokens.filter (!·.isWhitespace) with
  | [token] => some token
  | _ => none

@[simp] theorem text_ofPieces (number offset : Nat) (pieces : List Piece) :
    (ofPieces number offset pieces).text = Piece.textOf pieces := by
  simp only [text, ofPieces, Piece.textOf, List.flatMap_def, Piece.placed_map_text]

end Line

end Literate
