import Literate.Block.Basic
import Literate.Block.CommentBuffer

/-!
# Grouping lines into blocks

Every line plays one role: a directive, the opener of a documentation comment, further comment
text, or code. The block being collected is carried along the lines; a directive and an opener
always end it, other lines end it or join it depending on what is collected.
-/

namespace Literate

/-- What a line is for the grouping of lines. -/
inductive LineRole where
  | directive (directive : Directive)
  /-- The line starts a documentation comment with a text. -/
  | opener (text : Text)
  /-- Comments and whitespace alone, a blank line included. -/
  | comment (text : Text)
  | code
deriving DecidableEq

namespace Line

def docOpening : Text := ['(', '*', '*']

def directive? (line : Line) : Option Directive := do
  let text ← line.commentText?
  Directive.parse text line.span

/-- The text of the comment token that starts a documentation comment on the line. -/
def docOpener? (line : Line) : Option Text :=
  match line.soleToken? with
  | some token =>
      if token.isComment && docOpening.isPrefixOf token.text then some token.text else none
  | none => none

/-- The role of a line. A directive is a comment too, so it is looked for first. -/
def role (line : Line) : LineRole :=
  match line.directive? with
  | some directive => .directive directive
  | none =>
      match line.docOpener? with
      | some text => .opener text
      | none =>
          match line.commentText? with
          | some text => .comment text
          | none => .code

end Line

/-- Lines without the blank lines at either end. -/
def trimBlankLines (lines : List Line) : List Line :=
  ((lines.dropWhile Line.isBlank).reverse.dropWhile Line.isBlank).reverse

/-- The block that is being collected. -/
inductive OpenBlock where
  | comment (buffer : CommentBuffer)
  | snippet (lines : List Line)

namespace OpenBlock

def none : OpenBlock := .snippet []

/-- The block as far as it was collected. Blank lines alone make no block. -/
def finish : OpenBlock → List Block
  | .comment buffer => [.comment buffer.content]
  | .snippet lines =>
      match trimBlankLines lines with
      | [] => []
      | trimmed => [.snippet trimmed]

/-- The blocks that a line completes, and the block collected after it. A documentation
comment takes comment lines until it is closed; code, and any line behind the closer, starts
a snippet. -/
def step (current : OpenBlock) (line : Line) : List Block × OpenBlock :=
  match line.role with
  | .directive directive => (current.finish ++ [.command directive], none)
  | .opener text => (current.finish, .comment (.ofOpener text))
  | .comment text =>
      match current with
      | .comment buffer =>
          if buffer.isClosed then (current.finish, .snippet [line])
          else ([], .comment (buffer.push text))
      | .snippet lines => ([], .snippet (lines ++ [line]))
  | .code =>
      match current with
      | .comment _ => (current.finish, .snippet [line])
      | .snippet lines => ([], .snippet (lines ++ [line]))

end OpenBlock

def groupFrom : OpenBlock → List Line → List Block
  | current, [] => current.finish
  | current, line :: rest =>
      let (blocks, next) := current.step line
      blocks ++ groupFrom next rest

def groupLines (lines : List Line) : List Block := groupFrom .none lines

end Literate
