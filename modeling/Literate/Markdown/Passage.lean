import Literate.Document.Link
import Literate.Markdown.Container
import Literate.Markdown.Html
import Literate.Markdown.Mark
import Literate.Markdown.Marker

/-!
# Passages

A passage is the running text of a paragraph, a heading or a table cell: its marks, line by
line, and the text that they were found in. Paragraphs go on over lines until something else
begins; link definitions stand at the front of what would be a paragraph.
-/

namespace Literate.Markdown

/-- Running text with its marks. -/
structure Passage where
  /-- The text of the passage with all that stands between its lines. -/
  raw : Text
  marks : List Mark
  /-- The containers whose marks stand at the start of further lines. -/
  containers : List Container
  /-- Whether the passage is a cell of a table. -/
  cell : Bool

/-- A passage within one line, after some character. -/
def Passage.ofLine (features : Features) (containers : List Container) (cell : Bool)
    (before : Option Char) (line : Text) : Passage where
  raw := line
  marks := lineMarks features (trailingCount isLineSpace line) before 0 0 line
  containers := containers
  cell := cell

/-! ### Interruptions -/

/-- Whether a line begins something that cannot be part of a paragraph; `anyItem` lets every
list item count. -/
def interruptsText (anyItem : Bool) (t : Text) : Bool :=
  (dropLineEnd? t).isSome || isThematicBreak t || (headingLevel? t).isSome || (fence? t).isSome
    || beginsWith '>' t || interruptsAsItem anyItem t || (htmlEnd? true t).isSome

/-- The alignments of the table that a line begins, and the text behind its delimiter line. -/
def tableHead? (containers : List Container) (t : Text) : Option (List Alignment × Text) := do
  let line := lineBody t
  let behind := t.drop line.length
  if behind.isEmpty then failure
  let (inside, c) := enterLine containers (← dropLineEnd? behind)
  let (alignments, body) ← delimiterLine? c.rest
  if inside && columnCount line == alignments.length && !alignments.isEmpty then
    some (alignments, body)
  else none

/-- Whether a line ends the paragraph before it. Where the line goes on with all containers,
only some list items do. -/
def interrupts (features : Features) (containers : List Container) (inside : Bool) (t : Text) :
    Bool :=
  interruptsText (!inside) t
    || (features.tables && beginsWith '|' t && (tableHead? containers t).isSome)

/-! ### Link definitions -/

/-- Enter a further line of a definition's label. -/
def enterLabelLine (features : Features) (containers : List Container) : LineEntry := fun t =>
  let (inside, c) := enterLine containers t
  if interrupts features containers inside c.rest || (inside && (underline? c.rest).isSome) then
    none
  else some c.rest

/-- Enter a further line of a definition behind its label. -/
def enterDefinitionLine (features : Features) (containers : List Container) : LineEntry := fun t =>
  let (inside, c) := enterLine containers t
  let (missing, inner) := c.skipColumns 4
  if missing != 0
      && (interrupts features containers inside inner.rest || (underline? inner.rest).isSome) then
    none
  else some (dropSpaces inner.rest)

/-- Go over the white space between the parts of a definition, with at most one line end; also
tells whether there was one. -/
def definitionSpace? (entry : LineEntry) (t : Text) : Option (Bool × Text) :=
  let behind := dropSpaces t
  match dropLineEnd? behind with
  | none => some (false, behind)
  | some next => do
      let inner ← entry next
      if (dropLineEnd? inner).isSome then none else some (true, inner)

structure DefinitionScan where
  label : Text
  definition : LinkDefinition
  rest : Text

/-- Read the title of a definition behind its destination, and the blank end of its line. -/
def definitionTitle? (entry : LineEntry) (t : Text) : Option (Text × Text) := do
  let (title, behind) ← title? entry t
  return (unescape title, ← dropBlank? behind)

/-- Read a link definition. Where the line behind the destination is no title, the definition
ends with its destination; behind the destination on the same line only a title may stand. -/
def definition? (features : Features) (containers : List Container) (t : Text) :
    Option DefinitionScan := do
  let entry := enterDefinitionLine features containers
  let inner ← List.isPrefixOf? ['['] t
  let (label, behind) ← label? (enterLabelLine features containers) inner
  let behind ← List.isPrefixOf? [':'] behind
  let (_, start) ← definitionSpace? entry behind
  let (dest, after) ← destination? start
  if after.length < start.length then
    let url := unescape dest
    let bare : DefinitionScan := ⟨label, ⟨url, none⟩, (dropBlank? after).getD after⟩
    match definitionSpace? entry after with
    | none => some bare
    | some (broken, place) =>
        if !broken && place.length == after.length then none
        else match definitionTitle? entry place with
          | some (title, rest) => some ⟨label, ⟨url, some title⟩, rest⟩
          | none => if broken then some bare else none
  else none

/-! ### Paragraphs -/

inductive ParagraphKind where
  | text
  | heading (level : Nat)
  /-- The head of a table with its column alignments; the text goes on behind the delimiter
  line. -/
  | table (alignments : List Alignment)

structure ParagraphScan where
  kind : ParagraphKind
  marks : List Mark
  rest : Text

/-- Add the text of one character at the end of some marks. -/
def addCharacter (place : Nat) (marks : List Mark) : List Mark :=
  match marks.getLast? with
  | some ⟨.text, start, stop⟩ =>
      if stop = place then marks.dropLast ++ [⟨.text, start, place + 1⟩]
      else marks ++ [⟨.text, place, place + 1⟩]
  | _ => marks ++ [⟨.text, place, place + 1⟩]

/-- The end of a line of a paragraph: how many characters it leaves out of the text, and the
break that follows if the paragraph goes on. -/
def lineBreak (line behind next : Text) (place : Nat) : Nat × Option Mark :=
  let stop := place + line.length
  if trailingCount (· == '\\') line % 2 = 1 && !next.isEmpty then
    (1, some ⟨.hardBreak true, stop - 1, stop + (behind.length - next.length)⟩)
  else
    let spaces := trailingCount isLineSpace line
    if behind.isEmpty then (spaces, none)
    else (spaces, some ⟨if 2 ≤ spaces then .hardBreak false else .softBreak, stop - spaces,
      stop + (behind.length - next.length)⟩)

def isBackslashBreak : Option Mark → Bool
  | some ⟨.hardBreak true, _, _⟩ => true
  | _ => false

/-- Read a paragraph line by line, in a text of a length that starts with the paragraph. -/
def paragraphLines (features : Features) (containers : List Container) (total : Nat)
    (before : Option Char) (t : Text) : ParagraphScan :=
  let place := total - t.length
  let line := lineBody t
  let behind := t.drop line.length
  let next := (dropLineEnd? behind).getD []
  let (trailing, brk) := lineBreak line behind next place
  let marks := lineMarks features trailing before place place line
  let finished :=
    if isBackslashBreak brk then addCharacter (place + line.length - 1) marks else marks
  let table := if features.tables && place = 0 && !isBackslashBreak brk then
    tableHead? containers t else none
  match table with
  | some (alignments, body) => ⟨.table alignments, [], body⟩
  | none =>
      let (inside, c) := enterLine containers next
      let (missing, c) := c.skipColumns 4
      let heading := if missing != 0 && inside then underline? c.rest else none
      match heading with
      | some (level, rest) => ⟨.heading level, finished, rest⟩
      | none =>
          let inner := c.skipAll
          if (missing != 0 && interrupts features containers inside c.rest) || inner.atLineEnd then
            ⟨.text, finished, next⟩
          else if inner.rest.length < t.length then
            let passed := next.take (next.length - inner.rest.length)
            let more := paragraphLines features containers total passed.getLast? inner.rest
            { more with marks := marks ++ brk.toList ++ more.marks }
          else ⟨.text, finished, next⟩
termination_by t.length

def paragraph (features : Features) (containers : List Container) (before : Option Char)
    (t : Text) : ParagraphScan :=
  paragraphLines features containers t.length before t

/-! ### Headings and rows -/

/-- The place where the text of a heading ends: before spaces, and before a closing run of
number signs that a space separates from the text. -/
def headingLimit (line : Text) : Nat :=
  let text := (line.reverse.dropWhile fun c => isLineEnd c || c == ' ').reverse
  let body := (text.reverse.dropWhile (· == '#')).reverse
  let spaces := trailingCount (· == ' ') body
  if body.isEmpty then 0 else if 0 < spaces then body.length - spaces else text.length

/-- The passage of a heading on one line behind its number signs, and the text behind it. Its
last mark ends where the heading's text does. -/
def headingPassage (features : Features) (containers : List Container) (before : Option Char)
    (t : Text) : Passage × Text :=
  let line := lineBody t
  let behind := t.drop line.length
  let next := (dropLineEnd? behind).getD []
  let (trailing, brk) := lineBreak line behind next 0
  let marks := lineMarks features trailing before 0 0 line
  let marks := if isBackslashBreak brk then addCharacter (line.length - 1) marks else marks
  let marks := match marks.getLast? with
    | some last => marks.dropLast ++ [{ last with stop := headingLimit line }]
    | none => []
  (⟨line, marks, containers, false⟩, next)

def rowCells (features : Features) (containers : List Container) (t : Text) : List Passage :=
  let content := dropSpaces (if beginsWith '|' t then t.drop 1 else t)
  if content.isEmpty then []
  else
    let cell := cellText content
    let behind := content.drop cell.length
    let passage := Passage.ofLine features containers true none cell
    if behind.length < t.length then passage :: rowCells features containers behind
    else [passage]
termination_by t.length
decreasing_by assumption

/-- The cells of a row in a number of columns: empty cells are added, further ones dropped. -/
def fitCells (containers : List Container) (columns : Nat) (cells : List Passage) :
    List Passage :=
  cells.take columns
    ++ List.replicate (columns - cells.length) ⟨[], [], containers, true⟩

/-- Read the rows of a table's body. A line that would interrupt a paragraph ends the table,
and so does a line without cells. -/
def tableRows (features : Features) (containers : List Container) (columns : Nat) (t : Text) :
    List (List Passage) × Text :=
  let (inside, c) := enterLine containers t
  let start := c.skipAll.rest
  if !inside || interruptsText true start then ([], t)
  else
    let line := lineBody start
    let next := (dropLineEnd? (start.drop line.length)).getD []
    match rowCells features containers line with
    | [] => ([], t)
    | cells =>
        if next.length < t.length then
          let (rows, rest) := tableRows features containers columns next
          (fitCells containers columns cells :: rows, rest)
        else ([fitCells containers columns cells], next)
termination_by t.length

end Literate.Markdown
