import Literate.Text.Digits

/-!
# Outlines

An outline shows a nested value over many lines: every part stands on a line of its own,
four columns further in than what it is a part of, with a comma behind it.
-/

namespace Literate

/-- A value as a word, or as named or unnamed parts between two brackets. -/
inductive Outline where
  | word (spelling : Text)
  | group (opening closing : Text) (parts : List (Text × Outline))

namespace Outline

def number (n : Nat) : Outline := .word (Text.decimal n)

def list (items : List Outline) : Outline := .group ['['] [']'] (items.map fun item => ([], item))

/-- A value with a name in front and its parts in parentheses. -/
def tagged (name : String) (parts : List Outline) : Outline :=
  .group (name.toList ++ ['(']) [')'] (parts.map fun part => ([], part))

/-- A value with a name in front and its named parts in braces. -/
def record (name : String) (fields : List (String × Outline)) : Outline :=
  .group (name.toList ++ [' ', '\x7b']) ['\x7d']
    (fields.map fun field => (field.1.toList ++ [':', ' '], field.2))

/-- The columns that one step into a value takes. -/
def stepWidth : Nat := 4

mutual

def render (column : Nat) : Outline → Text
  | .word spelling => spelling
  | .group opening closing [] => opening ++ closing
  | .group opening closing (part :: parts) =>
      opening ++ ['\n'] ++ renderParts (column + stepWidth) (part :: parts) ++
        List.replicate column ' ' ++ closing

def renderParts (column : Nat) : List (Text × Outline) → Text
  | [] => []
  | (label, part) :: rest =>
      List.replicate column ' ' ++ label ++ render column part ++ [',', '\n'] ++
        renderParts column rest

end

def text (o : Outline) : Text := o.render 0

end Outline

end Literate
