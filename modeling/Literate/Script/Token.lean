import Literate.Text.Basic

/-!
# Tokens

A token is a piece of one source line with its lexical category and its place. The places of
the pieces of a line follow from their texts alone, so lexing produces bare pieces and `placed`
puts them down.
-/

namespace Literate

/-- A stretch of the source in bytes, from `start` up to but without `stop`. -/
structure Span where
  start : Nat
  stop : Nat
deriving DecidableEq

/-- The lexical category of a token. -/
inductive TokenKind where
  /-- A line comment, or the part of a block comment that lies on one line. -/
  | comment
  | whitespace
  /-- A string or character literal, or the part of a string that lies on one line. -/
  | string
  | number
  | identifier
  /-- A line that opens, switches or closes a conditional branch. -/
  | preprocessor
  /-- A line in a branch that is not selected. -/
  | inactive
  /-- Any other single character or operator. -/
  | plain
deriving DecidableEq

/-- A line and a column, both counted from one; columns count characters. -/
structure Position where
  line : Nat
  column : Nat
deriving DecidableEq

/-- A piece of a line before it has a place. -/
structure Piece where
  kind : TokenKind
  text : Text
deriving DecidableEq

/-- A piece of a line at its place in the source. -/
structure Token where
  kind : TokenKind
  text : Text
  position : Position
  span : Span
deriving DecidableEq

namespace Token

/-- Whether a token is a comment or a part of one. -/
def isComment (token : Token) : Bool := token.kind == .comment

def isWhitespace (token : Token) : Bool := token.kind == .whitespace

end Token

namespace Piece

/-- Put pieces down one after the other, from a byte offset and a column of a line. -/
def placed (line : Nat) : Nat → Nat → List Piece → List Token
  | _, _, [] => []
  | offset, column, piece :: rest =>
      let stop := offset + Text.byteSize piece.text
      ⟨piece.kind, piece.text, ⟨line, column⟩, ⟨offset, stop⟩⟩ ::
        placed line stop (column + piece.text.length) rest

/-- The text that pieces make up together. -/
def textOf (pieces : List Piece) : Text := pieces.flatMap (·.text)

theorem placed_map_text (line offset column : Nat) (pieces : List Piece) :
    (placed line offset column pieces).map (·.text) = pieces.map (·.text) := by
  induction pieces generalizing offset column with
  | nil => rfl
  | cons piece rest ih => simp [placed, ih]

end Piece

end Literate
