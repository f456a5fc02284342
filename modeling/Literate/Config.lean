import Literate.Document.Reading
import Literate.Toml.Document
import Literate.Toml.Fault

/-!
# Configuration files

Settings can be kept in a TOML file. Every setting may be left out, and no other key may be
there.
-/

namespace Literate.Config

open Toml (Key Value Entries Fault FaultCause)

def definesKey : Text := "defines".toList

def compilerOptionsKey : Text := "compiler_options".toList

def linkMergeKey : Text := "link_merge".toList

def knownKeys : List Text := [definesKey, compilerOptionsKey, linkMergeKey]

def policyNames : List (Text × MergePolicy) :=
  [("first-wins".toList, .firstWins), ("last-wins".toList, .lastWins)]

def policy? (name : Text) : Option MergePolicy := policyNames.lookup name

def texts? : List Value → Option (List Text)
  | [] => some []
  | .text content :: rest => (texts? rest).map (content :: ·)
  | _ :: _ => none

/-- Whether a value is a list or a table without anything in it. -/
def isEmptyValue : Value → Bool
  | .list [] | .table _ [] => true
  | _ => false

/-- The merge policy that a value names: as a text, or as the only key of a table, which then
binds nothing further. -/
def policyOf? : Value → Option MergePolicy
  | .text name => policy? name
  | .table _ [(key, inner)] => if isEmptyValue inner then policy? key.name else none
  | _ => none

/-- A list of texts as the value of a key. -/
def textsOf (key : Key) : Value → Except Fault (List Text)
  | .list items =>
      match texts? items with
      | some texts => .ok texts
      | none => .error ⟨.wrongForm key.name "a list of texts", some key.span⟩
  | _ => .error ⟨.wrongForm key.name "a list of texts", some key.span⟩

/-- Apply one entry of a configuration to the settings. -/
def applyEntry (settings : Settings) (entry : Key × Value) : Except Fault Settings :=
  let (key, value) := entry
  if key.name = definesKey then
    (textsOf key value).map fun defines => { settings with defines }
  else if key.name = compilerOptionsKey then
    (textsOf key value).map fun compilerOptions => { settings with compilerOptions }
  else if key.name = linkMergeKey then
    match policyOf? value with
    | some linkMerge => .ok { settings with linkMerge }
    | none => .error ⟨.wrongForm key.name "`first-wins` or `last-wins`", some key.span⟩
  else .error ⟨.unknownField key.name, some key.span⟩

/-- The settings of a configuration. -/
def read (document : Text) : Except Fault Settings := do
  (← Toml.read document).foldlM applyEntry .default

end Literate.Config
