import Literate.Markdown.Tree

/-!
# Well-nested events

The events of a text are well nested: every element holds what its kind may hold, and closes
behind it. Nodes are written out as events of this form. What is kept of given events says how the
two differ: task marks are dropped, running text that stands directly among blocks is put into
paragraphs, text that is taken as it stands is joined, code keeps the first word of its
information, and labels that nothing defines are normalized.
-/

namespace Literate

open Markdown (Event within)

namespace Inline

mutual

/-- The events of an element in reading order. -/
def events : Inline → List Event
  | .text content => [.text content]
  | .strong inner => within .strong (eventsAll inner)
  | .emphasis inner => within .emphasis (eventsAll inner)
  | .strikethrough inner => within .strikethrough (eventsAll inner)
  | .code content => [.code content]
  | .link dest title inner => within (.link (.resolved dest title)) (eventsAll inner)
  | .image dest title inner => within (.image (.resolved dest title)) (eventsAll inner)
  | .linkReference key inner => within (.link (.unresolved key)) (eventsAll inner)
  | .imageReference key inner => within (.image (.unresolved key)) (eventsAll inner)
  | .html content => [.inlineHtml content]
  | .softBreak => [.softBreak]
  | .hardBreak => [.hardBreak]

def eventsAll : List Inline → List Event
  | [] => []
  | element :: rest => events element ++ eventsAll rest

end

end Inline

namespace Node

/-- The events of cells, each within the tag of a cell. -/
def cellEvents (cells : List (List Inline)) : List Event :=
  cells.flatMap fun cell => within .tableCell (Inline.eventsAll cell)

def rowEvents (rows : List (List (List Inline))) : List Event :=
  rows.flatMap fun row => within .tableRow (cellEvents row)

mutual

/-- The events of a block in reading order. -/
def events : Node → List Event
  | .paragraph content => within .paragraph (Inline.eventsAll content)
  | .heading level content => within (.heading level) (Inline.eventsAll content)
  | .codeBlock language content => within (.codeBlock language) [.text content]
  | .quote children => within .quote (eventsAll children)
  | .table alignments headers rows =>
      within (.table alignments) (within .tableHead (cellEvents headers) ++ rowEvents rows)
  | .orderedList start items => within (.list (some start)) (eventsItems items)
  | .bulletList items => within (.list none) (eventsItems items)
  | .html content => within .htmlBlock [.html content]
  | .rule => [.rule]

def eventsAll : List Node → List Event
  | [] => []
  | node :: rest => events node ++ eventsAll rest

def eventsItems : List (List Node) → List Event
  | [] => []
  | item :: rest => within .item (eventsAll item) ++ eventsItems rest

end

end Node

namespace Markdown

/-- What an element holds, or a part of it. -/
inductive Content where
  | prose
  /-- Running text that stands directly among blocks. -/
  | run
  /-- Blocks, and running text among them. -/
  | flow
  | items
  /-- The head of a table and its rows. -/
  | head
  | rows
  | cells
  | code
  | html
deriving DecidableEq

def Tag.content : Tag → Content
  | .paragraph | .heading _ | .tableCell | .strong | .emphasis | .strikethrough | .link _
  | .image _ => .prose
  | .quote | .item => .flow
  | .codeBlock _ => .code
  | .htmlBlock => .html
  | .list _ => .items
  | .table _ => .head
  | .tableHead | .tableRow => .cells

def Tag.isBlock : Tag → Bool
  | .paragraph | .heading _ | .quote | .codeBlock _ | .htmlBlock | .list _ | .table _ => true
  | _ => false

namespace Event

/-- Is the event a piece of running text? -/
def isProse : Event → Bool
  | .text _ | .code _ | .inlineHtml _ | .softBreak | .hardBreak => true
  | _ => false

/-- Is the event text to be taken as it stands? -/
def isRaw : Event → Bool
  | .text _ | .html _ => true
  | _ => false

def isTaskMark : Event → Bool
  | .taskMark _ => true
  | _ => false

end Event

namespace Content

/-- May an element with the tag stand here? -/
def holds : Content → Tag → Bool
  | .prose, tag | .run, tag => tag.inline?.isSome
  | .flow, tag => tag.isBlock
  | .items, tag => tag == .item
  | .head, tag => tag == .tableHead
  | .rows, tag => tag == .tableRow
  | .cells, tag => tag == .tableCell
  | .code, _ | .html, _ => false

/-- May the event, which opens and closes no element, stand here? -/
def admits : Content → Event → Bool
  | .prose, event => event.isProse || event.isTaskMark
  | .run, event => event.isProse
  | .flow, event => event == .rule || event.isTaskMark
  | _, _ => false

/-- What may stand behind an element here. Only one head stands in a table. -/
def behind : Content → Content
  | .head => .rows
  | content => content

/-- The event for text that is taken as it stands. -/
def raw? : Content → Option (Text → Event)
  | .code => some .text
  | .html => some .html
  | _ => none

/-- May the content be over? The head of a table is still to come. -/
def mayEnd : Content → Bool
  | .head | .code | .html => false
  | _ => true

end Content

/-- Events in which every element holds what it may hold and closes behind it. Running text may
stand directly among blocks, and text as it stands may come in pieces. -/
inductive WellNested : Content → List Event → Prop where
  | nil {content : Content} (ends : content.mayEnd) : WellNested content []
  | leaf {content : Content} {event : Event} {rest : List Event} (admits : content.admits event)
      (behind : WellNested content rest) : WellNested content (event :: rest)
  | element {content : Content} {tag : Tag} {inner rest : List Event} (holds : content.holds tag)
      (inside : WellNested tag.content inner) (behind : WellNested content.behind rest) :
      WellNested content (within tag inner ++ rest)
  | run {text rest : List Event} (inside : WellNested .run text) (behind : WellNested .flow rest) :
      WellNested .flow (text ++ rest)
  | raw {content : Content} {whole : Text → Event} {pieces : List Event}
      (raw : content.raw? = some whole) (each : ∀ piece ∈ pieces, piece.isRaw) :
      WellNested content pieces

theorem WellNested.single {content : Content} {tag : Tag} {inner : List Event}
    (holds : content.holds tag) (inside : WellNested tag.content inner)
    (ends : content.behind.mayEnd) : WellNested content (within tag inner) := by
  simpa using element holds inside (nil ends)

def LinkTarget.kept : LinkTarget → LinkTarget
  | .resolved dest title => .resolved dest title
  | .unresolved label => .unresolved (normalizeKey label)

def Tag.kept : Tag → Tag
  | .codeBlock info => .codeBlock (language? info)
  | .link target => .link target.kept
  | .image target => .image target.kept
  | tag => tag

def startsRun (events : List Event) : Bool :=
  events.head?.any Event.isInline

/-- What is kept of given events: all of them, apart from task marks, with a paragraph around
each longest run of running text among blocks and with pieces of raw text joined. -/
inductive Kept : Content → List Event → List Event → Prop where
  | nil {content : Content} (ends : content.mayEnd) : Kept content [] []
  | leaf {content : Content} {event : Event} {given kept : List Event}
      (admits : content.admits event) (stays : event.isTaskMark = false)
      (behind : Kept content given kept) : Kept content (event :: given) (event :: kept)
  | mark {content : Content} {event : Event} {given kept : List Event}
      (admits : content.admits event) (goes : event.isTaskMark)
      (behind : Kept content given kept) : Kept content (event :: given) kept
  | element {content : Content} {tag : Tag} {inner keptInner given kept : List Event}
      (holds : content.holds tag) (inside : Kept tag.content inner keptInner)
      (behind : Kept content.behind given kept) :
      Kept content (within tag inner ++ given) (within tag.kept keptInner ++ kept)
  | run {text keptText given kept : List Event} (inside : Kept .run text keptText)
      (nonempty : text ≠ []) (longest : startsRun given = false) (behind : Kept .flow given kept) :
      Kept .flow (text ++ given) (within .paragraph keptText ++ kept)
  | raw {content : Content} {whole : Text → Event} {pieces : List Event}
      (raw : content.raw? = some whole) (each : ∀ piece ∈ pieces, piece.isRaw) :
      Kept content pieces [whole (pieces.flatMap Event.rawText)]

end Markdown

end Literate
