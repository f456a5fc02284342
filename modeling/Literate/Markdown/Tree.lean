import Literate.Markdown.Event
import Literate.Text.Blank

/-!
# Nodes from events

The events of a text are put together to nodes by collectors, one for each kind of content. A
collector reads the events behind the opening of an element, up to the first closing event of the
kind it waits for, and leaves the events behind that one to the collector around it. Events that
mean nothing where they stand are passed over.
-/

namespace Literate.Markdown

/-- What closes an element: its kind, without what else its opening says. -/
inductive TagKind where
  | paragraph
  | heading
  | quote
  | codeBlock
  | htmlBlock
  | list
  | item
  | table
  | tableHead
  | tableRow
  | tableCell
  | strong
  | emphasis
  | strikethrough
  | link
  | image
deriving DecidableEq

def Tag.kind : Tag → TagKind
  | .paragraph => .paragraph
  | .heading _ => .heading
  | .quote => .quote
  | .codeBlock _ => .codeBlock
  | .htmlBlock => .htmlBlock
  | .list _ => .list
  | .item => .item
  | .table _ => .table
  | .tableHead => .tableHead
  | .tableRow => .tableRow
  | .tableCell => .tableCell
  | .strong => .strong
  | .emphasis => .emphasis
  | .strikethrough => .strikethrough
  | .link _ => .link
  | .image _ => .image

def Event.closes (kind : TagKind) : Event → Bool
  | .closing tag => tag.kind == kind
  | _ => false

def linkNode (target : LinkTarget) (content : List Inline) : Inline :=
  match target with
  | .resolved dest title => .link dest title content
  | .unresolved label => .linkReference (normalizeKey label) content

def imageNode (target : LinkTarget) (content : List Inline) : Inline :=
  match target with
  | .resolved dest title => .image dest title content
  | .unresolved label => .imageReference (normalizeKey label) content

/-- The inline element that a tag opens, as what its content makes it. -/
def Tag.inline? : Tag → Option (List Inline → Inline)
  | .strong => some .strong
  | .emphasis => some .emphasis
  | .strikethrough => some .strikethrough
  | .link target => some (linkNode target)
  | .image target => some (imageNode target)
  | _ => none

/-- The inline element that an event without extent is. -/
def Event.inline? : Event → Option Inline
  | .text content => some (.text content)
  | .code content => some (.code content)
  | .html content | .inlineHtml content => some (.html content)
  | .softBreak => some .softBreak
  | .hardBreak => some .hardBreak
  | .rule | .taskMark _ | .opening _ | .closing _ => none

/-- Does an event begin running text where blocks stand? A line of an HTML block does not. -/
def Event.isInline : Event → Bool
  | .opening tag => tag.inline?.isSome
  | .html _ => false
  | leaf => leaf.inline?.isSome

/-- What an event adds to text that is collected as it stands. -/
def Event.rawText : Event → Text
  | .text content | .html content => content
  | _ => []

/-- The language of code: the first word of the information of its fence. -/
def language? (info : Option Text) : Option Text := do
  let text ← info
  (Text.words text).head?

def listNode (start : Option Nat) (items : List (List Node)) : Node :=
  match start with
  | some first => .orderedList first items
  | none => .bulletList items

/-- What was collected from the front of a sequence of events, and the events it left. -/
structure Collected (α : Type) (events : List Event) where
  value : α
  rest : List Event
  rest_length_le : rest.length ≤ events.length

namespace Collected

variable {α β : Type} {events : List Event}

/-- A value that takes no event. -/
def pure (value : α) (events : List Event) : Collected α events :=
  ⟨value, events, Nat.le_refl _⟩

def map (f : α → β) (c : Collected α events) : Collected β events :=
  ⟨f c.value, c.rest, c.rest_length_le⟩

/-- What was collected behind an event, the event being taken too. -/
def behind (event : Event) (c : Collected α events) : Collected α (event :: events) :=
  ⟨c.value, c.rest, Nat.le_succ_of_le c.rest_length_le⟩

/-- What a collector goes on to make of the rest, given what was collected first. -/
def andThen (first : Collected α events)
    (next : α → (rest : List Event) → rest.length ≤ events.length → Collected β rest) :
    Collected β events :=
  let more := next first.value first.rest first.rest_length_le
  ⟨more.value, more.rest, Nat.le_trans more.rest_length_le first.rest_length_le⟩

end Collected

/-- The text and HTML up to the end of an element, as it stands. -/
def collectRaw (kind : TagKind) : (events : List Event) → Collected Text events
  | [] => .pure [] []
  | event :: rest =>
      if event.closes kind then
        .behind event (.pure [] rest)
      else
        .behind event ((collectRaw kind rest).map (event.rawText ++ ·))

mutual

/-- The inline elements up to the end of an element. -/
def collectInlines (kind : TagKind) (events : List Event) : Collected (List Inline) events :=
  match events with
  | [] => .pure [] []
  | event :: rest =>
      if event.closes kind then
        .behind event (.pure [] rest)
      else
        .behind event ((collectInline event rest).andThen fun first rest _ =>
          (collectInlines kind rest).map (first.toList ++ ·))
termination_by 2 * events.length

/-- The inline element, if any, that an event begins. -/
def collectInline (event : Event) (rest : List Event) : Collected (Option Inline) rest :=
  match event with
  | .opening tag =>
      match tag.inline? with
      | some element => (collectInlines tag.kind rest).map fun content => some (element content)
      | none => .pure none rest
  | leaf => .pure leaf.inline? rest
termination_by 2 * rest.length + 1

end

/-- Running text up to the first event that is none. -/
def collectRun (events : List Event) : Collected (List Inline) events :=
  match events with
  | [] => .pure [] []
  | event :: rest =>
      if event.isInline then
        .behind event ((collectInline event rest).andThen fun first rest _ =>
          (collectRun rest).map (first.toList ++ ·))
      else
        .pure [] (event :: rest)
termination_by events.length

/-- The cells of a table. -/
structure TableCells where
  headers : List (List Inline)
  rows : List (List (List Inline))

/-- The cells up to the end of a table, those of the row that is open being `row`. -/
def collectTable (cells : TableCells) (row : List (List Inline)) (events : List Event) :
    Collected TableCells events :=
  match events with
  | [] => .pure cells []
  | .closing tag :: rest =>
      match tag.kind with
      | .table => .behind (.closing tag) (.pure cells rest)
      | .tableHead => .behind (.closing tag) (collectTable { cells with headers := row } [] rest)
      | .tableRow =>
          .behind (.closing tag) (collectTable { cells with rows := cells.rows ++ [row] } [] rest)
      | _ => .behind (.closing tag) (collectTable cells row rest)
  | .opening .tableCell :: rest =>
      .behind (.opening .tableCell) ((collectInlines .tableCell rest).andThen fun cell rest _ =>
        collectTable cells (row ++ [cell]) rest)
  | event :: rest => .behind event (collectTable cells row rest)
termination_by events.length

mutual

/-- The blocks up to the end of an element, or all there are where no element is to end. -/
def collectBlocks (stop : Option TagKind) (events : List Event) : Collected (List Node) events :=
  match events with
  | [] => .pure [] []
  | event :: rest =>
      if stop.any (event.closes ·) then
        .behind event (.pure [] rest)
      else
        .behind event ((collectBlock event rest).andThen fun first rest _ =>
          (collectBlocks stop rest).map (first.toList ++ ·))
termination_by 2 * events.length

/-- The block, if any, that an event begins. Running text that stands directly among blocks, as
in the items of a tight list, makes a paragraph. -/
def collectBlock (event : Event) (rest : List Event) : Collected (Option Node) rest :=
  match event with
  | .opening .paragraph => (collectInlines .paragraph rest).map fun c => some (.paragraph c)
  | .opening (.heading level) => (collectInlines .heading rest).map fun c => some (.heading level c)
  | .opening (.codeBlock info) =>
      (collectRaw .codeBlock rest).map fun c => some (.codeBlock (language? info) c)
  | .opening .quote => (collectBlocks (some .quote) rest).map fun c => some (.quote c)
  | .opening (.list start) => (collectItems rest).map fun c => some (listNode start c)
  | .opening (.table alignments) =>
      (collectTable ⟨[], []⟩ [] rest).map fun c => some (.table alignments c.headers c.rows)
  | .opening .htmlBlock => (collectRaw .htmlBlock rest).map fun c => some (.html c)
  | .rule => .pure (some .rule) rest
  | event =>
      if event.isInline then
        (collectInline event rest).andThen fun first rest _ =>
          (collectRun rest).map fun more => some (.paragraph (first.toList ++ more))
      else
        .pure none rest
termination_by 2 * rest.length + 1

/-- The items up to the end of a list. -/
def collectItems (events : List Event) : Collected (List (List Node)) events :=
  match events with
  | [] => .pure [] []
  | .opening .item :: rest =>
      .behind (.opening .item) ((collectBlocks (some .item) rest).andThen fun item rest _ =>
        (collectItems rest).map (item :: ·))
  | event :: rest =>
      if event.closes .list then
        .behind event (.pure [] rest)
      else
        .behind event (collectItems rest)
termination_by 2 * events.length

end

def nodesOfEvents (events : List Event) : List Node :=
  (collectBlocks none events).value

end Literate.Markdown
