import Literate.Markdown.Scan

/-!
# Columns of a line

Indentation is measured in columns, with tab stops every four columns. A tab may be used up in
part, so a cursor into a line remembers the columns of a tab that are still to be used.
-/

namespace Literate.Markdown

structure Cursor where
  /-- The text from the place on. -/
  rest : Text
  /-- The characters since the line's start or its last tab. -/
  column : Nat
  /-- The columns left of a tab that was used in part. -/
  pending : Nat

namespace Cursor

def start (t : Text) : Cursor := ⟨t, 0, 0⟩

/-- Use up to `n` columns of the spaces and tabs of a text. -/
def useColumns (n column : Nat) : Text → Nat × Cursor
  | ' ' :: rest =>
      if n = 0 then (0, ⟨' ' :: rest, column, 0⟩) else useColumns (n - 1) (column + 1) rest
  | '\t' :: rest =>
      if n = 0 then (0, ⟨'\t' :: rest, column, 0⟩)
      else
        let width := 4 - column % 4
        if width ≤ n then useColumns (n - width) 0 rest else (0, ⟨rest, 0, width - n⟩)
  | t => (n, ⟨t, column, 0⟩)

/-- Use up to `n` columns of white space; gives the columns that were wanted in vain. -/
def skipColumns (n : Nat) (c : Cursor) : Nat × Cursor :=
  if n ≤ c.pending then (0, { c with pending := c.pending - n })
  else useColumns (n - c.pending) c.column c.rest

/-- Use up to `n` columns of white space; gives the columns that were there. -/
def indent (n : Nat) (c : Cursor) : Nat × Cursor :=
  let (missing, next) := c.skipColumns n
  (n - missing, next)

def skipAll (c : Cursor) : Cursor :=
  let spaces := c.rest.takeWhile fun ch => ch == ' ' || ch == '\t'
  ⟨c.rest.drop spaces.length, c.column + spaces.length, 0⟩

def atLineEnd (c : Cursor) : Bool :=
  match c.rest with
  | [] => true
  | ch :: _ => isLineEnd ch

/-- Go past `n` characters that are not tabs. -/
def advance (n : Nat) (c : Cursor) : Cursor := ⟨c.rest.drop n, c.column + n, c.pending⟩

end Cursor

end Literate.Markdown
