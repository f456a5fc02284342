import Literate.Diagnostic
import Literate.Toml.Quoted

/-!
# Tokens of TOML

A document is cut into quoted texts, words, single signs and line ends. Blanks and comments
only separate tokens. What a word means, part of a key or a value, depends on where it stands.
-/

namespace Literate.Toml

/-- What a token is. -/
inductive Lexeme where
  /-- A quoted text. Only one written on a line of its own kind may be a key. -/
  | quoted (multiline : Bool) (content : Text)
  /-- A run of the characters that bare keys, numbers and times are made of. -/
  | word (content : Text)
  | sign (character : Char)
  | lineEnd
deriving DecidableEq

structure Token where
  lexeme : Lexeme
  span : Span
deriving DecidableEq

/-- Why a document gives no settings. -/
inductive FaultCause where
  /-- A character that begins no token, or a quoted text that is not well formed. -/
  | strayCharacter (character : Char)
  /-- Something else than what the grammar asks for. -/
  | expected (what : String)
  | duplicateKey (key : Text)
  | unknownField (key : Text)
  /-- A setting with a value of another form than it has to have. -/
  | wrongForm (key : Text) (wanted : String)
deriving DecidableEq

/-- What is wrong with a document, and where; without a place, at its end. -/
structure Fault where
  cause : FaultCause
  place : Option Span
deriving DecidableEq

/-- A character that bare keys, numbers and times are made of, a point apart. -/
def isWordChar (c : Char) : Bool := c.isAlphanum || c == '_' || c == '-' || c == '+' || c == ':'

/-- A character that is a token of its own. -/
def isSign (c : Char) : Bool := ['=', '.', ',', '[', ']', '\x7b', '\x7d'].contains c

/-- The lexeme at the front of a text, if there is one, and the text behind it. Blanks and
comments have no lexeme. -/
def lexemeAt (c : Char) (rest : Text) : Option (Option Lexeme × Text) :=
  if isBlankChar c then some (none, rest)
  else if c = '#' then some (none, rest.dropWhile isLineChar)
  else if isWordChar c then
    some (some (.word (c :: rest.takeWhile isWordChar)), rest.dropWhile isWordChar)
  else if isSign c then some (some (.sign c), rest)
  else match lineEnd? (c :: rest) with
    | some behind => some (some .lineEnd, behind)
    | none => do
        let (quoting, body) ← quoting? (c :: rest)
        let (content, behind) ← quoting.body? body
        return (some (.quoted quoting.multiline content), behind)

def tokensFrom (offset : Nat) (t : Text) : Except Fault (List Token) :=
  match t with
  | [] => .ok []
  | c :: rest =>
      let stray : Fault := ⟨.strayCharacter c, some ⟨offset, offset + c.utf8Size⟩⟩
      match lexemeAt c rest with
      | none => .error stray
      | some (lexeme, behind) =>
          if behind.length ≤ rest.length then
            let stop := offset + (Text.byteSize (c :: rest) - Text.byteSize behind)
            (tokensFrom stop behind).map
              ((lexeme.map (⟨·, ⟨offset, stop⟩⟩)).toList ++ ·)
          else .error stray
termination_by t.length
decreasing_by exact Nat.lt_succ_of_le (by assumption)

/-- The mark of byte order that a document may begin with. -/
def byteOrderMark : Char := '\uFEFF'

def tokens (document : Text) : Except Fault (List Token) :=
  match document with
  | [] => .ok []
  | c :: rest =>
      if c = byteOrderMark then tokensFrom c.utf8Size rest else tokensFrom 0 (c :: rest)

end Literate.Toml
