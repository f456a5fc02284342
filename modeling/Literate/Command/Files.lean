import Literate.Text.Basic

/-!
# Files

How the program gets at files, whatever holds them, and a directory that is held in memory.
-/

namespace Literate

/-- Why a file cannot be read. -/
inductive ReadFailure where
  | notFound
  | isDirectory
  | notDirectory
  | denied
  /-- The bytes of the file are not a text. -/
  | notText
  | other (reason : String)
deriving DecidableEq

def ReadFailure.message : ReadFailure → String
  | .notFound => "No such file or directory (os error 2)"
  | .isDirectory => "Is a directory (os error 21)"
  | .notDirectory => "Not a directory (os error 20)"
  | .denied => "Permission denied (os error 13)"
  | .notText => "stream did not contain valid UTF-8"
  | .other reason => reason

/-- Access to files. -/
structure FileAccess (m : Type → Type) where
  isFile : Text → m Bool
  read : Text → m (Except ReadFailure ByteArray)

/-- The text that some bytes encode. -/
def decodeText (bytes : ByteArray) : Except ReadFailure Text :=
  match String.fromUTF8? bytes with
  | some s => .ok s.toList
  | none => .error .notText

/-- A directory held in memory: files under their paths, whose directories they imply. -/
structure Folder where
  files : List (List Text × ByteArray)

namespace Folder

inductive Place where
  /-- A directory inside the folder, by its parts. -/
  | directory (parts : List Text)
  /-- A directory around the folder. -/
  | outside
  | file (content : ByteArray)

def find? (folder : Folder) (parts : List Text) (name : Text) : Option Place :=
  let target := parts ++ [name]
  match folder.files.find? (·.1 == target) with
  | some (_, content) => some (.file content)
  | none =>
      if folder.files.any fun file => file.1.take target.length == target then
        some (.directory target)
      else none

/-- Go from a place over one part of a path. -/
def enter (folder : Folder) (part : Text) : Place → Except ReadFailure Place
  | .file _ => .error .notDirectory
  | .outside =>
      if part.isEmpty || part == ['.'] || part == ['.', '.'] then .ok .outside
      else .error .notFound
  | .directory parts =>
      if part.isEmpty || part == ['.'] then .ok (.directory parts)
      else if part == ['.', '.'] then
        .ok (if parts.isEmpty then .outside else .directory parts.dropLast)
      else match folder.find? parts part with
        | some place => .ok place
        | none => .error .notFound

def locate (folder : Folder) (path : Text) : Except ReadFailure Place :=
  let start := if path.head? == some '/' then .outside else .directory []
  (List.splitOn '/' path).foldlM (fun place part => folder.enter part place) start

def read (folder : Folder) (path : Text) : Except ReadFailure ByteArray :=
  match folder.locate path with
  | .error failure => .error failure
  | .ok (.file content) => .ok content
  | .ok _ => .error .isDirectory

def ofFiles (files : List (Text × ByteArray)) : Folder :=
  ⟨files.map fun file =>
    ((List.splitOn '/' file.1).filter fun part => !part.isEmpty && part != ['.'], file.2)⟩

def access (folder : Folder) : FileAccess Id where
  isFile path := (folder.read path).isOk
  read path := folder.read path

end Folder

end Literate
