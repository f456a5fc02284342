import Literate.Text.Basic

/-!
# Scanning Markdown text

Small scanners that the block and the inline rules share. A scanner takes the text from some
place on and gives the text behind what it recognised.
-/

namespace Literate.Markdown

/-- White space within a line. -/
def isLineSpace (c : Char) : Bool := c == ' ' || c == '\t' || c == '\x0b' || c == '\x0c'

def isLineEnd (c : Char) : Bool := c == '\n' || c == '\r'

def isSpace (c : Char) : Bool := isLineSpace c || isLineEnd c

/-- The text without white space of the line in front. -/
def dropSpaces (t : Text) : Text := t.dropWhile isLineSpace

/-- The text behind a line end. The end of the text counts as one. -/
def dropLineEnd? : Text → Option Text
  | [] => some []
  | '\n' :: rest => some rest
  | '\r' :: '\n' :: rest => some rest
  | '\r' :: rest => some rest
  | _ => none

/-- The text behind the line, if the line is blank from here on. -/
def dropBlank? (t : Text) : Option Text := dropLineEnd? (dropSpaces t)

def isBlankLine (t : Text) : Bool := (dropBlank? t).isSome

/-- The line up to and with its line feed, and the text behind it. -/
def splitLine : Text → Text × Text
  | [] => ([], [])
  | '\n' :: rest => (['\n'], rest)
  | c :: rest =>
      let (line, behind) := splitLine rest
      (c :: line, behind)

def lineBody (t : Text) : Text := t.takeWhile (!isLineEnd ·)

def runLength (c : Char) (t : Text) : Nat := (t.takeWhile (· == c)).length

def beginsWith (c : Char) : Text → Bool
  | d :: _ => d == c
  | [] => false

/-- A line with a line feed in place of a carriage return and a line feed at its end. -/
def withLineFeed (line : Text) : Text :=
  match List.isSuffixOf? ['\r', '\n'] line with
  | some body => body ++ ['\n']
  | none => line

end Literate.Markdown
