import Literate.Block.Grouping
import Literate.Document.Assembly
import Literate.Script.Tokenized

/-!
# Reading a script

Reading goes from the source over lines of tokens and blocks to a document. The tokenizer and
the reader of prose can be exchanged; a tokenizer has to give one unit for one file.
-/

namespace Literate

structure Settings where
  defines : List Text
  /-- Compiler options, of which some define symbols too. -/
  compilerOptions : List Text
  /-- Which definition of a link is kept when two comments define it. -/
  linkMerge : MergePolicy
deriving DecidableEq

def Settings.default : Settings := ⟨[], [], .lastWins⟩

structure ScriptReader where
  source : Text
  fileId : Nat
  settings : Settings
  tokenizer : SourceRequest → List Tokenized
  readProse : Text → Prose

/-- The blocks of a source file, with the lines that they were made of. -/
structure GroupedSource where
  blocks : List Block
  lines : List Line
  diagnostics : List Diagnostic

namespace ScriptReader

def request (r : ScriptReader) : SourceRequest :=
  ⟨r.source, r.fileId, r.settings.defines, r.settings.compilerOptions⟩

def group (r : ScriptReader) : Except ScriptError GroupedSource :=
  match r.tokenizer r.request with
  | [unit] => .ok ⟨groupLines unit.lines, unit.lines, unit.diagnostics⟩
  | units => .error (.unitCount units.length)

/-- Read the source into a document. -/
def read (r : ScriptReader) : Except ScriptError Document := do
  let grouped ← r.group
  let (paragraphs, links) ← transformBlocks r.readProse r.settings.linkMerge grouped.blocks
  return ⟨paragraphs, links, grouped.diagnostics, grouped.lines, r.fileId⟩

end ScriptReader

end Literate
