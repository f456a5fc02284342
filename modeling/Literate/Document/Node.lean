import Literate.Document.Link

/-!
# Document nodes

Prose as a tree: blocks such as paragraphs, lists and tables, and the inline elements in them.
-/

namespace Literate

inductive Inline where
  | text (content : Text)
  | strong (children : List Inline)
  | emphasis (children : List Inline)
  | strikethrough (children : List Inline)
  | code (content : Text)
  | link (dest title : Text) (children : List Inline)
  | image (dest title : Text) (children : List Inline)
  /-- A link whose target is looked up by a normalized key. -/
  | linkReference (key : Text) (children : List Inline)
  /-- An image whose target is looked up by a normalized key. -/
  | imageReference (key : Text) (children : List Inline)
  | html (content : Text)
  | softBreak
  | hardBreak

inductive Alignment where
  | none
  | left
  | center
  | right
deriving DecidableEq

inductive Node where
  | paragraph (content : List Inline)
  | heading (level : Nat) (content : List Inline)
  | codeBlock (language : Option Text) (content : Text)
  | quote (children : List Node)
  | table (alignments : List Alignment) (headers : List (List Inline))
      (rows : List (List (List Inline)))
  | orderedList (start : Nat) (items : List (List Node))
  | bulletList (items : List (List Node))
  | html (content : Text)
  | rule

namespace Inline

def children : Inline → List Inline
  | .strong inner | .emphasis inner | .strikethrough inner | .link _ _ inner | .image _ _ inner
  | .linkReference _ inner | .imageReference _ inner => inner
  | .text _ | .code _ | .html _ | .softBreak | .hardBreak => []

mutual

/-- The text of an element without its markup. A line break reads as a space. -/
def plainText : Inline → Text
  | .text content | .code content => content
  | .strong inner | .emphasis inner | .strikethrough inner | .link _ _ inner | .image _ _ inner
  | .linkReference _ inner | .imageReference _ inner => plainTextAll inner
  | .html _ => []
  | .softBreak | .hardBreak => [' ']

def plainTextAll : List Inline → Text
  | [] => []
  | inline :: rest => plainText inline ++ plainTextAll rest

end

mutual

/-- The element and every element nested in it, each before the ones inside it. -/
def walk : Inline → List Inline
  | .strong inner => .strong inner :: walkAll inner
  | .emphasis inner => .emphasis inner :: walkAll inner
  | .strikethrough inner => .strikethrough inner :: walkAll inner
  | .link dest title inner => .link dest title inner :: walkAll inner
  | .image dest title inner => .image dest title inner :: walkAll inner
  | .linkReference key inner => .linkReference key inner :: walkAll inner
  | .imageReference key inner => .imageReference key inner :: walkAll inner
  | leaf => [leaf]

def walkAll : List Inline → List Inline
  | [] => []
  | inline :: rest => walk inline ++ walkAll rest

end

/-- The key of an element that refers to a link definition. -/
def referenceKey? : Inline → Option Text
  | .linkReference key _ | .imageReference key _ => some key
  | _ => none

end Inline

namespace Node

mutual

/-- Every inline element in a block and in the blocks nested in it, in reading order. -/
def inlines : Node → List Inline
  | .paragraph content | .heading _ content => Inline.walkAll content
  | .codeBlock _ _ | .html _ | .rule => []
  | .quote inner => inlinesAll inner
  | .table _ headers rows => (headers ++ rows.flatten).flatMap Inline.walkAll
  | .orderedList _ items | .bulletList items => inlinesItems items

def inlinesAll : List Node → List Inline
  | [] => []
  | node :: rest => inlines node ++ inlinesAll rest

def inlinesItems : List (List Node) → List Inline
  | [] => []
  | item :: rest => inlinesAll item ++ inlinesItems rest

end

end Node

end Literate
