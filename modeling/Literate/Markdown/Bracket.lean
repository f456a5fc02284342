import Literate.Markdown.Event
import Literate.Markdown.Passage
import Literate.Text.FoldCase

/-!
# Brackets, code and HTML within lines

The marks of a passage are gone through once. Code spans, HTML and links between angle brackets
are taken where they begin; links and images are taken where their closing bracket stands. Signs
of emphasis stay as they are.
-/

namespace Literate.Markdown

/-- A piece of running text; signs of emphasis may still be undecided. -/
inductive Draft where
  | text (content : Text)
  /-- One sign of emphasis of a run, with the number of signs from it on. -/
  | sign (sign : Char) (count : Nat) (canOpen canClose : Bool)
  | code (content : Text)
  | html (content : Text)
  | softBreak
  | hardBreak (backslash : Bool)
  | task (checked : Bool)
  /-- Pieces inside an element. -/
  | element (tag : Tag) (children : List Draft)

namespace Passage

def slice (p : Passage) (start stop : Nat) : Text := (p.raw.drop start).take (stop - start)

/-- Enter a further line of the passage behind the marks of its containers. -/
def entry (p : Passage) : LineEntry := fun t => some (withoutMarks p.containers t)

/-- The place where some text behind the passage's front begins. -/
def placeOf (p : Passage) (rest : Text) : Nat := p.raw.length - rest.length

/-- The piece that a mark is if it turns out to be no markup. -/
def draft (p : Passage) (mark : Mark) : Draft :=
  match mark.kind with
  | .reference value => .text value
  | .sign count opens closes =>
      match p.raw.drop mark.start with
      | c :: _ => .sign c count opens closes
      | [] => .text []
  | .softBreak => .softBreak
  | .hardBreak backslash => .hardBreak backslash
  | .task checked => .task checked
  | _ => .text (p.slice mark.start mark.stop)

/-! ### Code spans -/

/-- The content of a code span: line ends become spaces, and in a table cell an escaped bar is
a bar. -/
def codeContent (p : Passage) (t : Text) : Text :=
  match t with
  | [] => []
  | '\\' :: '|' :: rest =>
      if p.cell then '|' :: codeContent p rest else '\\' :: codeContent p ('|' :: rest)
  | c :: rest =>
      if isLineEnd c then
        if (withoutMarks p.containers rest).length ≤ rest.length then
          ' ' :: codeContent p (withoutMarks p.containers rest)
        else [' ']
      else c :: codeContent p rest
termination_by t.length
decreasing_by
  · exact Nat.lt_succ_of_le (Nat.le_succ _)
  · exact Nat.lt_succ_self _
  · exact Nat.lt_succ_of_le (by assumption)
  · exact Nat.lt_succ_self _

/-- A text without one space at either end, unless it consists of spaces. -/
def stripOneSpace (t : Text) : Text :=
  match t with
  | ' ' :: inner =>
      if t.getLast? == some ' ' && !t.all (· == ' ') then inner.dropLast else t
  | _ => t

/-- The first run of a number of backticks among marks, and the marks behind it. -/
def closingBackticks? (count : Nat) : List Mark → Option (Mark × List Mark)
  | [] => none
  | mark :: rest =>
      match mark.kind with
      | .backticks n _ => if n = count then some (mark, rest) else closingBackticks? count rest
      | _ => closingBackticks? count rest

/-- The pieces of a run of backticks, and the marks behind what it begins. -/
def codeSpan (p : Passage) (mark : Mark) (count : Nat) (escaped : Bool) (rest : List Mark) :
    List Draft × List Mark :=
  let wanted := if escaped then count - 1 else count
  match if wanted = 0 then none else closingBackticks? wanted rest with
  | some (closing, behind) =>
      let content := stripOneSpace (p.codeContent (p.slice mark.stop closing.start))
      let escape := if escaped then [.text ['`']] else []
      (escape ++ [.code content], behind)
  | none => ([.text (p.slice mark.start mark.stop)], rest)

/-! ### Going on at a place -/

/-- The marks from a place on; a mark that the place divides is cut. -/
def marksFrom (place : Nat) : List Mark → List Mark
  | [] => []
  | mark :: rest =>
      if mark.stop ≤ place then marksFrom place rest
      else { mark with start := max mark.start place } :: rest

/-- The pieces of an angle bracket, and the marks behind what it begins. -/
def angle (p : Passage) (mark : Mark) (rest : List Mark) : List Draft × List Mark :=
  let behind := p.raw.drop mark.stop
  match rest with
  | [] => ([.text ['<']], rest)
  | _ :: _ =>
      match angleLink? behind with
      | some (dest, after) =>
          ([.element (.link (.resolved dest [])) [.text dest]], marksFrom (p.placeOf after) rest)
      | none =>
          match inlineHtml? p.entry behind with
          | some (content, after) => ([.html content], marksFrom (p.placeOf after) rest)
          | none => ([.text ['<']], rest)

/-! ### Links -/

/-- Go over white space with at most one line end. -/
def linkSpace (p : Passage) (t : Text) : Text :=
  let behind := dropSpaces t
  match behind with
  | [] => []
  | c :: _ =>
      if isLineEnd c then
        match dropLineEnd? behind with
        | some next => dropSpaces (withoutMarks p.containers next)
        | none => behind
      else behind

/-- The destination and the title of a link in parentheses, and the text behind it. -/
def inlineTarget? (p : Passage) (t : Text) : Option (Text × Text × Text) := do
  let inner ← List.isPrefixOf? ['('] t
  let (dest, behind) ← destination? (p.linkSpace inner)
  let place := p.linkSpace behind
  let titleEntry : LineEntry := fun next => some (dropSpaces (withoutMarks p.containers next))
  let (title, behind) := match title? titleEntry place with
    | some (title, after) => (title, p.linkSpace after)
    | none => ([], place)
  let rest ← List.isPrefixOf? [')'] behind
  return (unescape dest, unescape title, rest)

/-- The definition of a label: labels are compared without regard to case. -/
def definitionOf? (definitions : List (Text × LinkDefinition)) (label : Text) :
    Option LinkDefinition :=
  let folded := foldCase label
  (definitions.find? fun (name, _) => foldCase name == folded).map (·.2)

/-- The target of a reference link. -/
def referenceTarget (definitions : List (Text × LinkDefinition)) (label : Text) : LinkTarget :=
  match definitionOf? definitions label with
  | some definition => .resolved definition.url (definition.title.getD [])
  | none => .unresolved label

/-- An opening bracket that waits for its closing one, with what stood before it. -/
structure OpenBracket where
  mark : Mark
  image : Bool
  /-- Whether a link inside has been found, so that this can be no link. -/
  disabled : Bool
  /-- The pieces before the bracket since the bracket around it, in reverse order. -/
  before : List Draft

/-- What a closing bracket ends: a target, and the marks behind the whole link. -/
def linkEnd? (p : Passage) (definitions : List (Text × LinkDefinition)) (opener : OpenBracket)
    (mark : Mark) (rest : List Mark) : Option (LinkTarget × List Mark) :=
  match p.inlineTarget? (p.raw.drop mark.stop) with
  | some (dest, title, behind) =>
      some (.resolved dest title, marksFrom (p.placeOf behind) rest)
  | none =>
      let start := match rest with
        | next :: _ => p.raw.drop next.start
        | [] => []
      let full := do
        let inner ← List.isPrefixOf? ['['] start
        label? p.entry inner
      let own := do
        let inner := p.slice opener.mark.stop mark.stop
        let (label, behind) ← label? p.entry inner
        if behind.isEmpty then some label else none
      match start, full with
      | '[' :: ']' :: _, _ =>
          own.map fun label => (referenceTarget definitions label, rest.drop 2)
      | _, some (label, behind) =>
          some (referenceTarget definitions label, marksFrom (p.placeOf behind) rest)
      | _, none => own.map fun label => (referenceTarget definitions label, rest)

/-- Close the brackets that are still open: they are plain text. -/
def unwind (p : Passage) : List OpenBracket → List Draft → List Draft
  | [], pieces => pieces
  | opener :: outer, pieces =>
      unwind p outer (pieces ++ .text (p.slice opener.mark.start opener.mark.stop) :: opener.before)

/-- Go through the marks, given the open brackets, innermost first, and the pieces since the
innermost one in reverse order. -/
def resolve (p : Passage) (definitions : List (Text × LinkDefinition)) (opened : List OpenBracket)
    (pieces : List Draft) (marks : List Mark) : List Draft :=
  match marks with
  | [] => (p.unwind opened pieces).reverse
  | mark :: rest =>
      let goOn (opened : List OpenBracket) (pieces : List Draft) (behind : List Mark) :
          List Draft :=
        if behind.length ≤ rest.length then p.resolve definitions opened pieces behind
        else (p.unwind opened pieces).reverse
      match mark.kind with
      | .backticks count escaped =>
          let (found, behind) := p.codeSpan mark count escaped rest
          goOn opened (found.reverse ++ pieces) behind
      | .angle =>
          let (found, behind) := p.angle mark rest
          goOn opened (found.reverse ++ pieces) behind
      | .openBracket => goOn (⟨mark, false, false, pieces⟩ :: opened) [] rest
      | .openImage => goOn (⟨mark, true, false, pieces⟩ :: opened) [] rest
      | .closeBracket =>
          match opened with
          | [] => goOn [] (.text [']'] :: pieces) rest
          | opener :: outer =>
              let failed := .text [']'] ::
                (pieces ++ .text (p.slice opener.mark.start opener.mark.stop) :: opener.before)
              if opener.disabled then goOn outer failed rest
              else match p.linkEnd? definitions opener mark rest with
                | none => goOn outer failed rest
                | some (target, behind) =>
                    let tag := if opener.image then .image target else .link target
                    let outer := if opener.image then outer
                      else outer.map fun o => if o.image then o else { o with disabled := true }
                    goOn outer (.element tag pieces.reverse :: opener.before) behind
      | _ => goOn opened (p.draft mark :: pieces) rest
termination_by marks.length
decreasing_by simp_wf; omega

end Passage

end Literate.Markdown
