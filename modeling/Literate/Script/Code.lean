import Literate.Script.Literal
import Literate.Script.Nesting
import Literate.Script.Token

/-!
# Pieces of code

Outside comments and strings a line is cut from the left, one piece at a time. The last piece
may open a comment or a string that goes on in the next line.
-/

namespace Literate

/-- A construct that goes on behind the end of a line. -/
inductive Opened where
  | comment (depth : Nat)
  | string (kind : StringKind)
deriving DecidableEq

/-- One piece of code, the text after it, and the construct that it leaves open. -/
structure CodeStep where
  piece : Piece
  rest : Text
  opened : Option Opened
deriving DecidableEq

namespace CodeStep

/-- A piece that ends where a split does. -/
def ofSplit (kind : TokenKind) (lead : Text) (split : Split) : CodeStep :=
  ⟨⟨kind, lead ++ split.front⟩, split.rest, none⟩

def comment (rest : Text) : CodeStep :=
  match scanComment 1 rest with
  | .closed body after => ⟨⟨.comment, '(' :: '*' :: body⟩, after, none⟩
  | .unclosed depth => ⟨⟨.comment, '(' :: '*' :: rest⟩, [], some (.comment depth)⟩

def string (kind : StringKind) (quote rest : Text) : CodeStep :=
  match scanString kind rest with
  | some split => ofSplit .string quote split
  | none => ⟨⟨.string, quote ++ rest⟩, [], some (.string kind)⟩

/-- A character literal, or a lone quote. -/
def character (rest : Text) : CodeStep :=
  match scanCharacter rest with
  | some split => ofSplit .string ['\''] split
  | none => ⟨⟨.plain, ['\'']⟩, rest, none⟩

end CodeStep

/-- Split a text behind the first pair of backticks. -/
def scanBackticks : Text → Option Split
  | [] => none
  | '`' :: '`' :: rest => some ⟨['`', '`'], rest⟩
  | c :: rest => (scanBackticks rest).map (.prepend [c])

/-- A space or a tab: the blanks that make whitespace pieces in code. -/
def isCodeSpace (c : Char) : Bool := c == ' ' || c == '\t'

def isNameStart (c : Char) : Bool := isAlphabetic c || c == '_'

def isNameChar (c : Char) : Bool := isAlphanumeric c || c == '_' || c == '\''

/-- The maximal run of a class at the front of a text. -/
def scanRun (p : Char → Bool) (t : Text) : Split := ⟨t.takeWhile p, t.dropWhile p⟩

/-- A name between pairs of backticks, or the pair alone when no second pair follows. -/
def CodeStep.quotedName (rest : Text) : CodeStep :=
  match scanBackticks rest with
  | some split => ofSplit .identifier ['`', '`'] split
  | none => ⟨⟨.plain, ['`', '`']⟩, rest, none⟩

/-- A piece that depends on its first character alone. -/
def CodeStep.byClass (c : Char) (rest : Text) : CodeStep :=
  if isCodeSpace c then ofSplit .whitespace [c] (scanRun isCodeSpace rest)
  else if c.isDigit then ofSplit .number [c] (scanNumber rest)
  else if isNameStart c then ofSplit .identifier [c] (scanRun isNameChar rest)
  else ⟨⟨.plain, [c]⟩, rest, none⟩

/-- The first piece of code of a text that is not empty. -/
def codeStep (c : Char) (rest : Text) : CodeStep :=
  match c, rest with
  | '/', '/' :: _ => ⟨⟨.comment, c :: rest⟩, [], none⟩
  | '(', '*' :: ')' :: more => ⟨⟨.plain, ['(', '*', ')']⟩, more, none⟩
  | '(', '*' :: more => .comment more
  | '"', '"' :: '"' :: more => .string .triple ['"', '"', '"'] more
  | '@', '"' :: more => .string .verbatim ['@', '"'] more
  | '"', _ => .string .regular ['"'] rest
  | '\'', _ => .character rest
  | '`', '`' :: more => .quotedName more
  | _, _ => .byClass c rest

namespace CodeStep

/-- What a step covers: the whole text, with a first piece that is not empty. -/
def Covers (step : CodeStep) (t : Text) : Prop :=
  step.piece.text ++ step.rest = t ∧ step.piece.text ≠ []

theorem ofSplit_covers {kind : TokenKind} {lead t : Text} {split : Split}
    (ht : split.front ++ split.rest = t) (h : lead ≠ []) :
    (ofSplit kind lead split).Covers (lead ++ t) := by
  simp [ofSplit, Covers, h, ht]

theorem comment_covers (rest : Text) : (comment rest).Covers ('(' :: '*' :: rest) := by
  rw [comment]
  split
  next h => simp [Covers, scanComment_closed h]
  next h => simp [Covers]

theorem string_covers {kind : StringKind} {quote rest : Text} (hquote : quote ≠ []) :
    (string kind quote rest).Covers (quote ++ rest) := by
  rw [string]
  split
  next h => exact ofSplit_covers (scanString_split h).symm hquote
  next h => simp [Covers, hquote]

theorem character_covers (rest : Text) : (character rest).Covers ('\'' :: rest) := by
  rw [character]
  split
  next h => exact ofSplit_covers (scanCharacter_split h).symm (by simp)
  next h => simp [Covers]

theorem scanBackticks_split {t : Text} {s : Split} (h : scanBackticks t = some s) :
    t = s.front ++ s.rest := by
  fun_induction scanBackticks t generalizing s with
  | case1 => simp at h
  | case2 => simp at h; simp [← h]
  | case3 c rest hne ih =>
      obtain ⟨u, hu, rfl⟩ := Option.map_eq_some_iff.1 h
      simp [Split.prepend, ih hu]

theorem quotedName_covers (rest : Text) : (quotedName rest).Covers ('`' :: '`' :: rest) := by
  rw [quotedName]
  split
  next h => exact ofSplit_covers (scanBackticks_split h).symm (by simp)
  next h => simp [Covers]

theorem scanRun_split (p : Char → Bool) (t : Text) :
    (scanRun p t).front ++ (scanRun p t).rest = t :=
  List.takeWhile_append_dropWhile

theorem byClass_covers (c : Char) (rest : Text) : (byClass c rest).Covers (c :: rest) := by
  rw [byClass]
  split
  · exact ofSplit_covers (scanRun_split isCodeSpace rest) (by simp)
  split
  · exact ofSplit_covers (scanNumber_split rest) (by simp)
  split
  · exact ofSplit_covers (scanRun_split isNameChar rest) (by simp)
  · simp [Covers]

end CodeStep

/-- A step takes a first piece off the text and leaves the rest as it is. -/
theorem codeStep_covers (c : Char) (rest : Text) : (codeStep c rest).Covers (c :: rest) := by
  unfold codeStep
  split
  · simp [CodeStep.Covers]
  · simp [CodeStep.Covers]
  · exact CodeStep.comment_covers _
  · exact CodeStep.string_covers (by simp)
  · exact CodeStep.string_covers (by simp)
  · exact CodeStep.string_covers (by simp)
  · exact CodeStep.character_covers _
  · exact CodeStep.quotedName_covers _
  · exact CodeStep.byClass_covers _ _

theorem codeStep_rest_length (c : Char) (rest : Text) :
    (codeStep c rest).rest.length < (c :: rest).length := by
  have h := codeStep_covers c rest
  have hlen := congrArg List.length h.1
  have hpos := List.length_pos_iff.2 h.2
  simp only [List.length_append] at hlen
  omega

end Literate
