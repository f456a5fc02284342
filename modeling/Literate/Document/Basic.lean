import Literate.Diagnostic
import Literate.Document.Node
import Literate.Script.Line

/-!
# Literate documents

A document is the outcome of reading a script: paragraphs of prose and of code in reading
order, the links defined in its prose, and what was noticed on the way. Names and keys that
nothing defines are listed, they do not make the document wrong.
-/

namespace Literate

inductive Paragraph where
  /-- A place where a snippet that is bound to a name elsewhere is to appear. -/
  | codeReference (name : Text)
  /-- Code that is not shown where it stands; a name makes it available elsewhere. -/
  | hiddenCode (name : Option Text) (lines : List Line)
  | formattedCode (lines : List Line)
  | markdown (node : Node)

namespace Paragraph

def kind : Paragraph → String
  | .codeReference _ => "code-reference"
  | .hiddenCode _ _ => "hidden-code"
  | .formattedCode _ => "formatted-code"
  | .markdown _ => "markdown"

/-- The name that a paragraph binds to its code. -/
def boundName? : Paragraph → Option Text
  | .hiddenCode name _ => name
  | _ => none

/-- The name whose code a paragraph asks for. -/
def includedName? : Paragraph → Option Text
  | .codeReference name => some name
  | _ => none

def inlines : Paragraph → List Inline
  | .markdown node => node.inlines
  | _ => []

end Paragraph

structure Document where
  paragraphs : List Paragraph
  links : LinkTable
  diagnostics : List Diagnostic
  source : List Line
  sourceId : Nat

/-- Add a text to a list at the end unless the list has it. -/
def addNew (seen : List Text) (t : Text) : List Text :=
  if seen.contains t then seen else seen ++ [t]

namespace Document

/-- The names bound to code, in increasing order and without repetition. -/
def definedNames (d : Document) : List Text := sortedTexts (d.paragraphs.filterMap (·.boundName?))

/-- The included names that nothing binds, in reading order and with repetition. -/
def unresolvedReferences (d : Document) : List Text :=
  let defined := d.definedNames
  (d.paragraphs.filterMap (·.includedName?)).filter (!defined.contains ·)

/-- The link keys in use that the link table lacks, in the order of their first use. -/
def unresolvedLinks (d : Document) : List Text :=
  let keys := (d.paragraphs.flatMap (·.inlines)).filterMap (·.referenceKey?)
  (keys.filter (!d.links.contains ·)).foldl addNew []

def hasErrors (d : Document) : Bool := d.diagnostics.any (·.isError)

end Document

end Literate
