import Literate.Text.Basic

/-!
# Paths

A path is a text with slashes between its parts. Empty parts and parts of a single dot name
nothing, except that a leading dot keeps a path relative to where the program runs.
-/

namespace Literate.Path

/-- A part that names the directory it stands in. -/
def isVoid (part : Text) : Bool := part.isEmpty || part == ['.']

/-- Parts without the void ones at the end. A relative path keeps a dot that it begins with. -/
def withoutVoidEnd (rooted : Bool) (parts : List Text) : List Text :=
  match (parts.reverse.dropWhile isVoid).reverse with
  | [] => if !rooted && parts.head? == some ['.'] then [['.']] else []
  | kept => kept

/-- The path of the directory that a path lies in; the root lies in none. -/
def parent? (path : Text) : Option Text :=
  let rooted := path.head? == some '/'
  let parts := List.splitOn '/' (if rooted then path.drop 1 else path)
  match withoutVoidEnd rooted parts with
  | [] => none
  | kept =>
      some ((if rooted then ['/'] else []) ++
        List.intercalate ['/'] (withoutVoidEnd rooted kept.dropLast))

def inDirectory (directory name : Text) : Text :=
  if directory.isEmpty || directory.getLast? == some '/' then directory ++ name
  else directory ++ '/' :: name

/-- The path of a file in the directory of another one. -/
def beside (path name : Text) : Text := inDirectory ((parent? path).getD ['.']) name

end Literate.Path
