import Literate.Document.Basic
import Literate.Report.Outline
import Literate.Text.Printable

/-!
# Outlines of documents

The paragraphs of a document with all that is in them: nodes of prose, lines and tokens of
code.
-/

namespace Literate

/-- A text as an outline. -/
def Outline.quotedText (t : Text) : Outline := .word (quoted t)

def Outline.optional (value : Option Outline) : Outline :=
  match value with
  | none => .word "None".toList
  | some inner => .tagged "Some" [inner]

def Span.outline (span : Span) : Outline :=
  .word (Text.decimal span.start ++ ['.', '.'] ++ Text.decimal span.stop)

/-- The word for a kind of token in outlines. -/
def TokenKind.outlineWord : TokenKind → String
  | .comment => "Comment"
  | .whitespace => "Whitespace"
  | .string => "String"
  | .number => "Number"
  | .identifier => "Identifier"
  | .preprocessor => "Preprocessor"
  | .inactive => "Inactive"
  | .plain => "Default"

def Token.outline (token : Token) : Outline :=
  .record "Token" [
    ("kind", .word token.kind.outlineWord.toList),
    ("text", .quotedText token.text),
    ("position", .record "Position" [
      ("line", .number token.position.line),
      ("column", .number token.position.column)]),
    ("span", token.span.outline)]

def Line.outline (line : Line) : Outline :=
  .record "Line" [
    ("tokens", .list (line.tokens.map Token.outline)),
    ("number", .number line.number),
    ("span", line.span.outline)]

def Alignment.outlineWord : Alignment → String
  | .none => "None"
  | .left => "Left"
  | .center => "Center"
  | .right => "Right"

mutual

def Inline.outline : Inline → Outline
  | .text content => .tagged "Text" [.quotedText content]
  | .strong inner => .tagged "Strong" [.list (Inline.outlines inner)]
  | .emphasis inner => .tagged "Emphasis" [.list (Inline.outlines inner)]
  | .strikethrough inner => .tagged "Strikethrough" [.list (Inline.outlines inner)]
  | .code content => .tagged "CodeSpan" [.quotedText content]
  | .link dest title inner =>
      .record "Link" [("dest", .quotedText dest), ("title", .quotedText title),
        ("content", .list (Inline.outlines inner))]
  | .image dest title inner =>
      .record "Image" [("dest", .quotedText dest), ("title", .quotedText title),
        ("alt", .list (Inline.outlines inner))]
  | .linkReference key inner =>
      .record "LinkReference" [("key", .quotedText key),
        ("content", .list (Inline.outlines inner))]
  | .imageReference key inner =>
      .record "ImageReference" [("key", .quotedText key),
        ("alt", .list (Inline.outlines inner))]
  | .html content => .tagged "Html" [.quotedText content]
  | .softBreak => .word "SoftBreak".toList
  | .hardBreak => .word "HardBreak".toList

def Inline.outlines : List Inline → List Outline
  | [] => []
  | inline :: rest => inline.outline :: Inline.outlines rest

end

def rowOutline (row : List (List Inline)) : Outline :=
  .list (row.map fun cell => .list (Inline.outlines cell))

mutual

/-- A block with the blocks and the text inside it. -/
def Node.outline : Node → Outline
  | .paragraph content => .tagged "Paragraph" [.list (Inline.outlines content)]
  | .heading level content =>
      .record "Heading" [("level", .number level), ("content", .list (Inline.outlines content))]
  | .codeBlock language content =>
      .record "CodeBlock" [("language", .optional (language.map .quotedText)),
        ("content", .quotedText content)]
  | .quote inner => .tagged "Blockquote" [.list (Node.outlines inner)]
  | .table alignments headers rows =>
      .record "Table" [
        ("alignments", .list (alignments.map fun a => .word a.outlineWord.toList)),
        ("headers", rowOutline headers),
        ("rows", .list (rows.map rowOutline))]
  | .orderedList start items =>
      .record "OrderedList" [("start", .number start), ("items", .list (Node.itemOutlines items))]
  | .bulletList items => .record "UnorderedList" [("items", .list (Node.itemOutlines items))]
  | .html content => .tagged "Html" [.quotedText content]
  | .rule => .word "HorizontalRule".toList

def Node.outlines : List Node → List Outline
  | [] => []
  | node :: rest => node.outline :: Node.outlines rest

def Node.itemOutlines : List (List Node) → List Outline
  | [] => []
  | item :: rest => .list (Node.outlines item) :: Node.itemOutlines rest

end

def Paragraph.outline : Paragraph → Outline
  | .codeReference name => .tagged "CodeReference" [.quotedText name]
  | .hiddenCode name lines =>
      .record "HiddenCode" [("name", .optional (name.map .quotedText)),
        ("lines", .list (lines.map Line.outline))]
  | .formattedCode lines => .tagged "FormattedCode" [.list (lines.map Line.outline)]
  | .markdown node => .tagged "Markdown" [node.outline]

def Document.outline (d : Document) : Outline := .list (d.paragraphs.map Paragraph.outline)

end Literate
