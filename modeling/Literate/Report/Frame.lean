import Literate.Diagnostic
import Literate.Text.Digits
import Literate.Text.Width

/-!
# Reports with the source line

A report on a source file is drawn with the line that it points at: a heading, the place, the
line behind its number, carets below the marked characters, and notes. Tabs are shown as
blanks up to the next multiple of four columns, and a caret is as wide as the character above.
-/

namespace Literate

structure SourceFile where
  name : Text
  source : Text

def tabWidth : Nat := 4

/-- A character of a shown line: its place in the line in bytes, and the columns it takes. -/
structure Cell where
  shown : Text
  span : Span
  width : Nat

namespace Cell

/-- The cells of a text that starts at a column and at a byte of its line. -/
def ofText (column offset : Nat) : Text → List Cell
  | [] => []
  | c :: rest =>
      let width := if c = '\t' then tabWidth - column % tabWidth else charWidth c
      let shown := if c = '\t' then List.replicate width ' ' else [c]
      ⟨shown, ⟨offset, offset + c.utf8Size⟩, width⟩ ::
        ofText (column + width) (offset + c.utf8Size) rest

/-- The column behind the last character of a line. -/
def atEnd (size : Nat) : Cell := ⟨[], ⟨size, size + 1⟩, 1⟩

/-- What stands below a cell when a stretch of the line is marked: carets below the stretch,
and blanks before it. -/
def below (marked : Span) (cell : Cell) : Text :=
  if max marked.start cell.span.start < min marked.stop cell.span.stop then
    List.replicate cell.width '^'
  else if cell.span.start < marked.stop then List.replicate cell.width ' '
  else []

end Cell

/-- A character that ends a line without being shown. -/
def endsLine (c : Char) : Bool := c == '\n' || c == '\r' || c == '\x00'

structure ShownLine where
  number : Nat
  start : Nat
  content : Text

def SourceFile.lineAt (file : SourceFile) (offset : Nat) : ShownLine :=
  let before := List.splitOn '\n' (Text.takeBytes offset file.source)
  let lines := List.splitOn '\n' file.source
  { number := before.length
    start := offset - Text.byteSize (before.getLastD [])
    content := (lines[before.length - 1]?).getD [] }

namespace ShownLine

/-- The characters of a line before a byte offset, counted from one. -/
def columnOf (line : ShownLine) (offset : Nat) : Nat :=
  (Text.takeBytes (offset - line.start) line.content).length + 1

/-- The content without the characters that end the line. -/
def body (line : ShownLine) : Text := (line.content.reverse.dropWhile endsLine).reverse

def cells (line : ShownLine) : List Cell := Cell.ofText 0 0 line.body

/-- A stretch of the source as a stretch of the line, at least one byte long. -/
def within (line : ShownLine) (span : Span) : Span :=
  let start := span.start - line.start
  ⟨start, max (span.stop - line.start) (start + 1)⟩

def carets (line : ShownLine) (span : Span) : Text :=
  (line.cells ++ [Cell.atEnd (Text.byteSize line.body)]).flatMap (Cell.below (line.within span))

end ShownLine

namespace Report

open Text (decimal)

def gutterWidth (file : SourceFile) (report : Report) : Nat :=
  (report.labels.map fun label => (decimal (file.lineAt label.span.start).number).length).foldl
    max 0

/-- The place, the source line and the carets of a label. -/
def labelLines (file : SourceFile) (gutter : Text) (label : Label) : List Text :=
  let line := file.lineAt label.span.start
  let number := decimal line.number
  let column := decimal (line.columnOf label.span.start)
  [gutter ++ " ┌─ ".toList ++ file.name ++ ':' :: number ++ ':' :: column,
    gutter ++ " │".toList,
    gutter.drop number.length ++ number ++ " │ ".toList ++ line.cells.flatMap (·.shown),
    gutter ++ " │ ".toList ++ line.carets label.span]

/-- The notes of a report, set off from the source line. -/
def noteLines (gutter : Text) (notes : List String) : List Text :=
  if notes.isEmpty then []
  else (gutter ++ " │".toList) :: notes.map fun note => gutter ++ " = ".toList ++ note.toList

/-- A report as text; an empty line ends it. -/
def draw (file : SourceFile) (report : Report) : Text :=
  let gutter := List.replicate (report.gutterWidth file) ' '
  let heading := report.severity.word.toList ++ [':', ' '] ++ report.message.toList
  (heading :: report.labels.flatMap (labelLines file gutter) ++
    noteLines gutter report.notes ++ [[]]).flatMap (· ++ ['\n'])

end Report

end Literate
