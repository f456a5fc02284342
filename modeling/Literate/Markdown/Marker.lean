import Literate.Document.Node
import Literate.Markdown.Cursor
import Literate.Text.Digits

/-!
# Marks of blocks

The beginnings of lines that start a block or turn a paragraph into another kind of block.
-/

namespace Literate.Markdown

/-! ### Thematic breaks and headings -/

/-- Whether a line consists of one of the signs of a thematic break, three or more times, and
of spaces. -/
def isThematicBreak (t : Text) : Bool :=
  match lineBody t with
  | [] => false
  | c :: rest =>
      (c == '*' || c == '-' || c == '_')
        && rest.all (fun d => d == c || d == ' ' || d == '\t')
        && 2 ≤ (rest.filter (· == c)).length

/-- The level of a heading that its line starts with number signs. -/
def headingLevel? (t : Text) : Option Nat :=
  let level := runLength '#' t
  let separated : Bool := match t.drop level with
    | [] => true
    | c :: _ => isSpace c
  if 1 ≤ level && level ≤ 6 && separated then some level else none

/-- The level of a heading by the line below its text, and the text behind that line. -/
def underline? (t : Text) : Option (Nat × Text) :=
  match t with
  | c :: rest =>
      if c == '=' then (dropBlank? (rest.dropWhile (· == '='))).map (1, ·)
      else if c == '-' then (dropBlank? (rest.dropWhile (· == '-'))).map (2, ·)
      else none
  | [] => none

/-! ### Fences -/

/-- The sign of a code fence and how often it stands there. -/
structure Fence where
  sign : Char
  count : Nat
deriving DecidableEq

/-- The fence that a line opens. Behind a fence of backticks no backtick may follow. -/
def fence? (t : Text) : Option Fence :=
  match t with
  | c :: _ =>
      let count := runLength c t
      if (c == '`' || c == '~') && 3 ≤ count
          && (c == '~' || !(splitLine (t.drop count)).1.contains '`') then
        some ⟨c, count⟩
      else none
  | [] => none

/-- The text behind a fence that closes another one: at least as long, with spaces alone
behind it. The end of the text closes every fence. -/
def Fence.close? (fence : Fence) (t : Text) : Option Text :=
  if t.isEmpty then some []
  else if fence.count ≤ runLength fence.sign t then
    let behind := (t.dropWhile (· == fence.sign)).dropWhile (· == ' ')
    (dropLineEnd? behind).map fun _ => behind
  else none

/-! ### Lists -/

/-- The mark of a list item. -/
structure ListMark where
  /-- The sign of a bullet list, or the sign behind the number of an ordered list. -/
  sign : Char
  number : Nat
  /-- The columns that the item's further lines are indented by. -/
  indent : Nat

def isBullet (c : Char) : Bool := c == '-' || c == '+' || c == '*'

/-- The number, its digits and the sign behind them that begin an ordered item. -/
def numberMark? (t : Text) : Option (Text × Char) :=
  let digits := t.takeWhile Char.isDigit
  match t.dropWhile Char.isDigit with
  | c :: _ =>
      if 1 ≤ digits.length && digits.length ≤ 9 && (c == '.' || c == ')') then some (digits, c)
      else none
  | [] => none

/-- Finish a list mark behind its sign. The item's text may begin up to four columns later; a
wider gap is one column and indented code. -/
def Cursor.finishMark? (c : Cursor) (sign : Char) (number indent : Nat) :
    Option (ListMark × Cursor) :=
  let (missing, next) := c.skipColumns 1
  if missing = 0 || next.atLineEnd then
    if isBlankLine next.rest then some (⟨sign, number, indent⟩, next)
    else
      let (gap, behind) := next.indent 4
      if gap < 4 then some (⟨sign, number, indent + gap⟩, behind)
      else some (⟨sign, number, indent⟩, next)
  else none

/-- The mark of a list item at a cursor that stands behind an indentation. -/
def Cursor.listMark? (c : Cursor) (outer : Nat) : Option (ListMark × Cursor) :=
  match c.rest with
  | ch :: _ =>
      if isBullet ch then
        if isThematicBreak c.rest then none else (c.advance 1).finishMark? ch 0 (outer + 2)
      else match numberMark? c.rest with
        | some (digits, sign) =>
            let width := digits.length + 1
            (c.advance width).finishMark? sign (Text.decimalValue digits) (outer + 1 + width)
        | none => none
  | [] => none

/-- Whether a line starts a list item that may interrupt a paragraph: not an empty item with
nothing behind it, and no number but one. -/
def interruptsAsItem (anyItem : Bool) (t : Text) : Bool :=
  let starts (width number : Nat) (bullet : Bool) : Bool :=
    let behind := t.drop width
    let separated : Bool := match behind with
      | [] => true
      | c :: _ => c == ' ' || c == '\t' || isLineEnd c
    let empty : Bool := match dropBlank? behind with
      | some next => isBlankLine next
      | none => false
    separated && (anyItem || ((bullet || number == 1) && !empty))
  match t with
  | c :: _ =>
      if isBullet c then starts 1 0 true
      else match numberMark? t with
        | some (digits, _) => starts (digits.length + 1) (Text.decimalValue digits) false
        | none => false
  | [] => false

/-- Whether a task list mark stands at a cursor, its box checked or not, and the cursor behind
it. -/
def Cursor.taskMark? (c : Cursor) : Option (Bool × Cursor) :=
  let (_, inner) := c.indent 3
  match inner.rest with
  | '[' :: box :: ']' :: behind :: _ =>
      let checked := box == 'x' || box == 'X'
      if (checked || isLineSpace box) && isLineSpace behind then some (checked, inner.advance 3)
      else none
  | _ => none

/-! ### Tables -/

/-- The scan of the line that separates the head of a table from its body. -/
structure DelimiterScan where
  /-- The alignments of the finished columns, last one first. -/
  columns : List Alignment
  /-- The alignment of the column that is being read. -/
  active : Alignment
  /-- Whether nothing of the column was read yet. -/
  fresh : Bool
  /-- Whether the column has a hyphen. -/
  dashed : Bool
  anyPipe : Bool
  anyDash : Bool

def DelimiterScan.step (s : DelimiterScan) (c : Char) : Option DelimiterScan :=
  if c == ' ' then some s
  else if c == ':' then
    let active := match s.fresh, s.active with
      | true, .none => .left
      | false, .left => .center
      | false, .none => .right
      | _, other => other
    some { s with active, fresh := false }
  else if c == '-' then some { s with fresh := false, dashed := true, anyDash := true }
  else if c == '|' then
    if s.dashed then
      some ⟨s.active :: s.columns, .none, true, false, true, s.anyDash⟩
    else none
  else none

/-- The column alignments of a delimiter line, and the text behind it. There is a pipe and a
hyphen in it, and no column without hyphen is followed by a pipe. -/
def delimiterLine? (t : Text) : Option (List Alignment × Text) := do
  let (spaces, c) := (Cursor.start t).indent 4
  if spaces > 3 then failure
  let signs := match lineBody c.rest with
    | '|' :: rest => rest
    | signs => signs
  let s ← signs.foldlM DelimiterScan.step ⟨[], .none, true, false, false, false⟩
  let columns := if s.fresh then s.columns else s.active :: s.columns
  let behind ← dropLineEnd? (c.rest.dropWhile (!isLineEnd ·))
  if s.anyPipe && s.anyDash then some (columns.reverse, behind) else none

/-- The number of columns of a line that may be the head of a table: by its pipes that are not
escaped, an outer pipe on either side separating nothing. Zero without pipes. -/
def columnCount (line : Text) : Nat :=
  let rec gaps : Text → List Text → Text → List Text
    | [], done, piece => (piece.reverse :: done)
    | '\\' :: c :: rest, done, piece => gaps rest done (c :: '\\' :: piece)
    | '|' :: rest, done, piece => gaps rest (piece.reverse :: done) []
    | c :: rest, done, piece => gaps rest done (c :: piece)
  let pieces := gaps line [] []
  let pipes := pieces.length - 1
  if pipes = 0 then 0
  else
    let leading := beginsWith '|' (dropSpaces line)
    let trailing := match pieces with
      | last :: _ => last.all isLineSpace
      | [] => false
    (pipes - if leading then 1 else 0) + if trailing then 0 else 1

end Literate.Markdown
