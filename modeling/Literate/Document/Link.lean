import Literate.Dict
import Literate.Text.Blank
import Literate.Text.LowerCase

/-!
# Link tables

A link table binds link keys to targets. Keys are kept in a normal form in which white space
is collapsed and letters are lower-case, so that labels that differ only in that way name the
same target.
-/

namespace Literate

/-- The normal form of a link label: its words in lower case with one space between them. -/
def normalizeKey (label : Text) : Text := toLower (List.intercalate [' '] (Text.words label))

structure LinkDefinition where
  url : Text
  title : Option Text
deriving DecidableEq

/-- Which of two definitions of one key is kept. -/
inductive MergePolicy where
  | lastWins
  | firstWins
deriving DecidableEq

/-- Link definitions under their normalized keys. -/
@[ext] structure LinkTable where
  dict : Dict LinkDefinition
deriving DecidableEq

namespace LinkTable

def empty : LinkTable := ⟨.empty⟩

/-- Define a label, in place of the definition its key had. -/
def insert (table : LinkTable) (label : Text) (definition : LinkDefinition) : LinkTable :=
  ⟨table.dict.put (normalizeKey label) definition⟩

def get? (table : LinkTable) (label : Text) : Option LinkDefinition :=
  table.dict.get? (normalizeKey label)

def contains (table : LinkTable) (label : Text) : Bool := (table.get? label).isSome

/-- Keys and definitions in the order of the keys. -/
def toList (table : LinkTable) : List (Text × LinkDefinition) := table.dict.entries

def size (table : LinkTable) : Nat := table.toList.length

def isEmpty (table : LinkTable) : Bool := table.toList.isEmpty

/-- The table of a list of labelled definitions; of two with one key the later one counts. -/
def ofList (pairs : List (Text × LinkDefinition)) : LinkTable :=
  pairs.foldl (fun table pair => table.insert pair.1 pair.2) empty

/-- Add a definition under a key that is normalized already, as the policy says. -/
def addEntry (policy : MergePolicy) (table : LinkTable) (entry : Text × LinkDefinition) :
    LinkTable :=
  match policy with
  | .lastWins => ⟨table.dict.put entry.1 entry.2⟩
  | .firstWins =>
      if table.dict.contains entry.1 then table else ⟨table.dict.put entry.1 entry.2⟩

def addTable (policy : MergePolicy) (merged table : LinkTable) : LinkTable :=
  table.toList.foldl (addEntry policy) merged

/-- Merge tables in the order in which they were made. -/
def merge (policy : MergePolicy) (tables : List LinkTable) : LinkTable :=
  tables.foldl (addTable policy) empty

/-- The keys that merging two tables finds defined in both. -/
def clashes (merged table : LinkTable) : List Text :=
  table.dict.keys.filter merged.dict.contains

end LinkTable

end Literate
