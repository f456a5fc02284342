import Literate.Document.Assembly
import Literate.Markdown.Emphasis
import Literate.Markdown.Layout
import Literate.Markdown.Tree

/-!
# Reading Markdown

A text is laid out in blocks, its passages are resolved against the link definitions found
anywhere in the text, and the resulting events are put together to nodes.
-/

namespace Literate.Markdown

def rowEvents (definitions : List (Text × LinkDefinition)) (tag : Tag) (cells : List Passage) :
    List Event :=
  within tag (cells.flatMap fun cell => within .tableCell (cell.events definitions))

mutual

def Layout.events (definitions : List (Text × LinkDefinition)) : Layout → List Event
  | .paragraph passage => within .paragraph (passage.events definitions)
  | .bare passage => passage.events definitions
  | .heading level passage => within (.heading level) (passage.events definitions)
  | .code info lines => within (.codeBlock info) (lines.map .text)
  | .html lines => within .htmlBlock (lines.map .html)
  | .quote children => within .quote (Layout.eventsAll definitions children)
  | .list start items => within (.list start) (Layout.eventsItems definitions items)
  | .table alignments head rows =>
      within (.table alignments)
        (rowEvents definitions .tableHead head ++ rows.flatMap (rowEvents definitions .tableRow))
  | .rule => [.rule]
  | .task checked => [.taskMark checked]

def Layout.eventsAll (definitions : List (Text × LinkDefinition)) : List Layout → List Event
  | [] => []
  | block :: rest => block.events definitions ++ Layout.eventsAll definitions rest

def Layout.eventsItems (definitions : List (Text × LinkDefinition)) :
    List (List Layout) → List Event
  | [] => []
  | item :: rest =>
      within .item (Layout.eventsAll definitions item) ++ Layout.eventsItems definitions rest

end

/-- The first definition of each label, labels being compared without regard to case. -/
def firstDefinitions (definitions : List (Text × LinkDefinition)) :
    List (Text × LinkDefinition) :=
  definitions.foldl (fun kept entry =>
    if (Passage.definitionOf? kept entry.1).isSome then kept else kept ++ [entry]) []

def TextLayout.events (l : TextLayout) : List Event :=
  Layout.eventsAll (firstDefinitions l.definitions) l.blocks

/-- The features that are on unless chosen otherwise. -/
def Features.default : Features := ⟨true, true, false⟩

/-- Read a text as prose. -/
def read (features : Features) (t : Text) : Prose :=
  let l := layout features t
  ⟨nodesOfEvents l.events, .ofList (firstDefinitions l.definitions)⟩

end Literate.Markdown
