import Literate.Document.Node

/-!
# Markdown events

The structure of a Markdown text as a sequence of events in reading order: elements open and
close around the text in them. Every opening event has a matching closing one.
-/

namespace Literate.Markdown

/-- What a link or an image leads to. -/
inductive LinkTarget where
  | resolved (dest title : Text)
  /-- A label that nothing in the text defines. -/
  | unresolved (label : Text)
deriving DecidableEq

inductive Tag where
  | paragraph
  | heading (level : Nat)
  | quote
  /-- Code, with the information of its fence if it is fenced. -/
  | codeBlock (info : Option Text)
  | htmlBlock
  /-- A list, ordered if it has a first number. -/
  | list (start : Option Nat)
  | item
  | table (alignments : List Alignment)
  | tableHead
  | tableRow
  | tableCell
  | strong
  | emphasis
  | strikethrough
  | link (target : LinkTarget)
  | image (target : LinkTarget)
deriving DecidableEq

/-- A step through the structure of a text. -/
inductive Event where
  | opening (tag : Tag)
  | closing (tag : Tag)
  | text (content : Text)
  | code (content : Text)
  /-- A line of an HTML block. -/
  | html (content : Text)
  | inlineHtml (content : Text)
  | softBreak
  | hardBreak
  | rule
  | taskMark (checked : Bool)
deriving DecidableEq

def within (tag : Tag) (events : List Event) : List Event :=
  .opening tag :: (events ++ [.closing tag])

end Literate.Markdown
