import Literate.Markdown.Cursor

/-!
# Containers

Quotes and list items surround other blocks. A line belongs to an open container when it goes
on with that container's mark: a greater-than sign for a quote, the item's indentation for a
list item. A list has no mark of its own.
-/

namespace Literate.Markdown

inductive Container where
  | quote
  | list
  /-- The columns that the item's further lines are indented by. -/
  | item (indent : Nat)
deriving DecidableEq

namespace Cursor

/-- Go past the sign of a quote and one column of space. -/
def quoteMark? (c : Cursor) : Option Cursor :=
  if beginsWith '>' c.rest then some ((c.advance 1).indent 1).2 else none

end Cursor

/-- The cursor behind the mark of one container, if the line goes on with it. -/
def Container.continue? (c : Cursor) : Container → Option Cursor
  | .quote => (c.indent 3).2.quoteMark?
  | .list => some c
  | .item indent =>
      let (missing, next) := c.skipColumns indent
      if missing = 0 || next.atLineEnd then some next else none

/-- How many of the open containers, outermost first, a line goes on with, and the cursor
behind their marks. -/
def matchContainers : List Container → Cursor → Nat × Cursor
  | [], c => (0, c)
  | container :: inner, c =>
      match container.continue? c with
      | some next =>
          let (count, last) := matchContainers inner next
          (count + 1, last)
      | none => (0, c)

/-- The cursor in a new line behind the marks of open containers, and whether the line goes
on with all of them. -/
def enterLine (containers : List Container) (t : Text) : Bool × Cursor :=
  let (count, c) := matchContainers containers (.start t)
  (count == containers.length, c)

def withoutMarks (containers : List Container) (t : Text) : Text := (enterLine containers t).2.rest

end Literate.Markdown
