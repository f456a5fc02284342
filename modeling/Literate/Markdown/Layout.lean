import Literate.Markdown.Passage

/-!
# Block layout

The blocks of a text before the marks within their lines are resolved. Lines are taken from
the top; a stack of open containers says where the next block goes. Link definitions are
collected on the way, because a link may stand before the definition that it names.
-/

namespace Literate.Markdown

/-- A block whose running text is not resolved yet. -/
inductive Layout where
  | paragraph (passage : Passage)
  /-- The text of an item of a tight list, which makes no paragraph of its own. -/
  | bare (passage : Passage)
  | heading (level : Nat) (passage : Passage)
  /-- Code, line by line, with the information of its fence. -/
  | code (info : Option Text) (lines : List Text)
  | html (lines : List Text)
  | quote (children : List Layout)
  /-- A list, ordered if it has a first number. -/
  | list (start : Option Nat) (items : List (List Layout))
  | table (alignments : List Alignment) (head : List Passage) (rows : List (List Passage))
  | rule
  | task (checked : Bool)

/-- A block as it stands directly in an item of a tight list. -/
def Layout.tightened : Layout → Layout
  | .paragraph passage => .bare passage
  | other => other

/-- A container that still takes blocks; what it holds is in reverse order. -/
inductive OpenContainer where
  | quote (blocks : List Layout)
  | list (tight : Bool) (sign : Char) (start : Nat) (items : List (List Layout))
  | item (indent : Nat) (blocks : List Layout)

/-- The container without what it holds. -/
def OpenContainer.container : OpenContainer → Container
  | .quote _ => .quote
  | .list _ _ _ _ => .list
  | .item indent _ => .item indent

/-- What has been laid out, in reverse order, and what is open. -/
structure LayoutState where
  blocks : List Layout
  /-- The open containers, innermost first. -/
  stack : List OpenContainer
  /-- Whether the innermost item was begun by a mark with nothing behind it. -/
  emptyItem : Bool
  /-- Whether a blank line stands before the next line. -/
  blankBefore : Bool
  /-- The task mark that the next paragraph begins with. -/
  task : Option Bool
  /-- Labels with their definitions, in reverse order. -/
  definitions : List (Text × LinkDefinition)

namespace LayoutState

def initial : LayoutState := ⟨[], [], false, false, none, []⟩

def containers (s : LayoutState) : List Container := (s.stack.map (·.container)).reverse

def append (s : LayoutState) (block : Layout) : LayoutState :=
  match s.stack with
  | .quote blocks :: outer => { s with stack := .quote (block :: blocks) :: outer }
  | .item indent blocks :: outer => { s with stack := .item indent (block :: blocks) :: outer }
  | _ => { s with blocks := block :: s.blocks }

def push (s : LayoutState) (c : OpenContainer) : LayoutState := { s with stack := c :: s.stack }

def pop (s : LayoutState) : LayoutState :=
  match s.stack with
  | [] => s
  | .quote blocks :: outer => { s with stack := outer }.append (.quote blocks.reverse)
  | .list tight sign start items :: outer =>
      let items := items.reverse
      let items := if tight then items.map (·.map Layout.tightened) else items
      let start := if isBullet sign then none else some start
      { s with stack := outer }.append (.list start items)
  | .item _ blocks :: .list tight sign start items :: outer =>
      { s with stack := .list tight sign start (blocks.reverse :: items) :: outer }
  | .item _ blocks :: outer => { s with stack := outer, blocks := blocks ++ s.blocks }

/-- Close containers from the innermost on, as many as given. -/
def popMany : Nat → LayoutState → LayoutState
  | 0, s => s
  | n + 1, s => popMany n s.pop

def closeTo (s : LayoutState) (depth : Nat) : LayoutState := popMany (s.stack.length - depth) s

/-- Make a list that stands at a depth of the stack loose. -/
def loosen : Nat → List OpenContainer → List OpenContainer
  | 0, .list _ sign start items :: outer => .list false sign start items :: outer
  | n + 1, c :: outer => c :: loosen n outer
  | _, stack => stack

/-- An item that began with a mark alone ends when a blank line follows. -/
def finishEmptyItem (s : LayoutState) : LayoutState :=
  let s' := match s.stack with
    | .item _ _ :: _ => if s.emptyItem && s.blankBefore then s.pop else s
    | _ => s
  { s' with emptyItem := false }

/-- Close a list whose items are over, and make the list around a new block loose when a blank
line stands before the block. -/
def finishList (s : LayoutState) : LayoutState :=
  let s := s.finishEmptyItem
  let s := match s.stack with
    | .list _ _ _ _ :: _ => s.pop
    | _ => s
  if s.blankBefore then { s with stack := loosen 1 s.stack, blankBefore := false } else s

/-- Go on with the list of a sign, or begin one. -/
def continueList (s : LayoutState) (mark : ListMark) : LayoutState :=
  let s := s.finishEmptyItem
  let newList (s : LayoutState) : LayoutState :=
    { s.push (.list true mark.sign mark.number []) with blankBefore := false }
  match s.stack with
  | .list _ sign _ _ :: _ =>
      if sign = mark.sign then
        if s.blankBefore then { s with stack := loosen 0 s.stack, blankBefore := false } else s
      else newList s.finishList
  | [] => newList s
  | _ => newList s.finishList

/-- The state at a blank line. An item that has nothing but its mark takes no further lines. -/
def blankLine (s : LayoutState) : LayoutState :=
  match s.stack with
  | .quote _ :: _ => s
  | .item indent blocks :: outer =>
      { s with
        stack := .item (if s.emptyItem then 0 else indent) blocks :: outer
        blankBefore := true }
  | _ => { s with blankBefore := true }

end LayoutState

/-! ### Blocks of lines -/

/-- A line with the columns of a divided tab in front. -/
def paddedLine (columns : Nat) (line : Text) : Text :=
  List.replicate columns ' ' ++ withLineFeed line

/-- Indented code: its lines, whether the last of them were blank, and the text behind it. -/
structure IndentedCode where
  lines : List Text
  blankEnd : Bool
  rest : Text

/-- Lines without the blank ones at their end; `blank` tells them. -/
def dropBlankEnd (lines : List (Text × Bool)) : List Text :=
  ((lines.reverse.dropWhile (·.2)).reverse).map (·.1)

/-- Read the lines of indented code; the first one is blank or not as given. -/
def indentedLines (containers : List Container) (pending : Nat) (blank : Bool) (t : Text) :
    List (Text × Bool) × Text :=
  let (line, next) := splitLine t
  let this := (paddedLine pending line, blank)
  let (inside, c) := enterLine containers next
  let (missing, inner) := c.skipColumns 4
  if !inside || (missing != 0 && !inner.atLineEnd) || inner.rest.isEmpty then ([this], next)
  else if inner.rest.length < t.length then
    let (more, rest) := indentedLines containers inner.pending (isBlankLine inner.rest) inner.rest
    (this :: more, rest)
  else ([this], next)
termination_by t.length

/-- Read indented code behind its first indentation. -/
def indentedCode (containers : List Container) (c : Cursor) : IndentedCode :=
  let (lines, rest) := indentedLines containers c.pending false c.rest
  ⟨dropBlankEnd lines, (lines.getLast?.map (·.2)).getD false, rest⟩

def fencedLines (containers : List Container) (indent : Nat) (fence : Fence) (t : Text) :
    List Text × Text :=
  let (inside, c) := enterLine containers t
  if !inside then ([], t)
  else
    let (_, c) := c.skipColumns indent
    let (missing, closing) := c.skipColumns (4 - indent)
    let closed := if missing != 0 then fence.close? closing.rest else none
    match closed with
    | some behind => ([], (dropBlank? behind).getD behind)
    | none =>
        let (line, next) := splitLine c.rest
        if next.length < t.length then
          let (more, rest) := fencedLines containers indent fence next
          (paddedLine c.pending line :: more, rest)
        else ([], next)
termination_by t.length

/-- Read fenced code from its opening fence on. -/
def fencedCode (containers : List Container) (indent : Nat) (fence : Fence) (t : Text) :
    Layout × Text :=
  let (line, next) := splitLine (dropSpaces (t.drop fence.count))
  let info := unescape (line.reverse.dropWhile isSpace).reverse
  let (lines, rest) := fencedLines containers indent fence next
  (.code (some info) lines, rest)

def htmlLines (containers : List Container) (ending : HtmlEnd) (pending : Nat) (t : Text) :
    List Text × Text :=
  let (line, next) := splitLine t
  let this := paddedLine pending line
  let (inside, c) := enterLine containers next
  let ended := match ending with
    | .text closing => Text.occursIn closing line
    | .blank => isBlankLine c.rest
  if !inside || ended || c.rest.isEmpty then ([this], next)
  else if c.rest.length < t.length then
    let (more, rest) := htmlLines containers ending c.pending c.rest
    (this :: more, rest)
  else ([this], next)
termination_by t.length

/-! ### The next block -/

/-- The character before a place that is reached from the start of a line. -/
def characterBefore (line rest : Text) : Option Char :=
  (line.take (line.length - rest.length)).getLast?

/-- Lay out a paragraph, or the heading or table that it turns out to be. -/
def layParagraph (features : Features) (s : LayoutState) (before : Option Char) (t : Text) :
    LayoutState × Text :=
  let containers := s.containers
  let scan := paragraph features containers before t
  let raw := t.take (t.length - scan.rest.length)
  let task : List Mark := match s.task with
    | some checked => [⟨.task checked, 0, 0⟩]
    | none => []
  let passage : Passage := ⟨raw, task ++ scan.marks, containers, false⟩
  let s := { s with task := none }
  match scan.kind with
  | .text => (s.append (.paragraph passage), scan.rest)
  | .heading level => (s.append (.heading level passage), scan.rest)
  | .table alignments =>
      let columns := alignments.length
      let head := fitCells containers columns (rowCells features containers (lineBody t))
      let (rows, rest) := tableRows features containers columns scan.rest
      (s.append (.table alignments head rows), rest)

/-- Take the link definitions in front of a text, then lay out what follows as a paragraph. A
line behind a definition that would interrupt a paragraph is left for the next block. -/
def layDefinitions (features : Features) (s : LayoutState) (before : Option Char) (t : Text) :
    LayoutState × Text :=
  match definition? features s.containers t with
  | none => layParagraph features s.finishList before t
  | some found =>
      let s := { s with definitions := (found.label, found.definition) :: s.definitions }
      let (inside, c) := enterLine s.containers found.rest
      let (missing, inner) := c.skipColumns 4
      let next := inner.skipAll.rest
      if (missing != 0 && interrupts features s.containers inside inner.rest)
          || (dropLineEnd? next).isSome then
        (s.finishList, found.rest)
      else
        if next.length < t.length then
          layDefinitions features s (characterBefore found.rest next) next
        else (s.finishList, found.rest)
termination_by t.length

/-- Lay out a block that contains no others, in a line that is not blank, behind the marks of
its containers. -/
def layLeaf (features : Features) (s : LayoutState) (line : Text) (c : Cursor) :
    LayoutState × Text :=
  let (indent, inner) := c.indent 4
  let finished := s.finishList
  let containers := finished.containers
  let t := inner.rest
  if 4 ≤ indent then
    let code := indentedCode containers inner
    ({ finished.append (.code none code.lines) with blankBefore := code.blankEnd }, code.rest)
  else match htmlEnd? false t with
  | some ending =>
      let (lines, rest) := htmlLines containers ending (max c.pending indent) t
      (finished.append (.html lines), rest)
  | none =>
      if isThematicBreak t then
        (finished.append .rule, (dropLineEnd? (t.dropWhile (!isLineEnd ·))).getD [])
      else match headingLevel? t with
      | some level =>
          let behind := t.drop level
          match dropLineEnd? behind with
          | some rest => (finished.append (.heading level ⟨[], [], containers, false⟩), rest)
          | none =>
              let text := dropSpaces behind
              let (passage, rest) :=
                headingPassage features containers (characterBefore line text) text
              (finished.append (.heading level passage), rest)
      | none =>
          match fence? t with
          | some fence =>
              let (code, rest) := fencedCode containers indent fence t
              (finished.append code, rest)
          | none => layDefinitions features s (characterBefore line t) t

/-- Open the containers that begin in a line. The cursor behind their marks is given, or none
when the line holds nothing but the mark of an item; then the text behind the line is given. -/
def openContainers (features : Features) (s : LayoutState) (c : Cursor) :
    LayoutState × (Cursor ⊕ Text) :=
  let (outer, inner) := c.indent 4
  if 4 ≤ outer then (s, .inl c)
  else match inner.listMark? outer with
  | some (mark, behind) =>
      let s := (s.continueList mark).push (.item mark.indent [])
      match dropBlank? behind.rest with
      | some rest => ({ s with emptyItem := true }, .inr rest)
      | none =>
          match if features.taskLists then behind.taskMark? else none with
          | some (checked, behind) =>
              match dropBlank? behind.rest with
              | some rest => ({ s.append (.task checked) with emptyItem := true }, .inr rest)
              | none =>
                  let s := { s with task := some checked }
                  if behind.rest.length < c.rest.length then openContainers features s behind
                  else (s, .inl behind)
          | none =>
              if behind.rest.length < c.rest.length then openContainers features s behind
              else (s, .inl behind)
  | none =>
      match inner.quoteMark? with
      | some behind =>
          let s := s.finishList.push (.quote [])
          if behind.rest.length < c.rest.length then openContainers features s behind
          else (s, .inl behind)
      | none => (s, .inl c)
termination_by c.rest.length

/-- Lay out the next block, or a blank line. -/
def layBlock (features : Features) (s : LayoutState) (t : Text) : LayoutState × Text :=
  let (depth, c) := matchContainers s.containers (.start t)
  match openContainers features (s.closeTo depth) c with
  | (s, .inr rest) => (s, rest)
  | (s, .inl c) =>
      match dropBlank? c.rest with
      | some rest => (s.blankLine, rest)
      | none => layLeaf features s t c

def layAll (features : Features) (s : LayoutState) (t : Text) : LayoutState :=
  if t.isEmpty then s.closeTo 0
  else
    let (s, rest) := layBlock features s t
    if rest.length < t.length then layAll features s rest else s.closeTo 0
termination_by t.length

/-- The blocks of a text, and its labels with their definitions in the order of the text. -/
structure TextLayout where
  blocks : List Layout
  definitions : List (Text × LinkDefinition)

def layout (features : Features) (t : Text) : TextLayout :=
  let s := layAll features .initial t
  ⟨s.blocks.reverse, s.definitions.reverse⟩

end Literate.Markdown
