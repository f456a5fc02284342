import Literate.Script.Nesting

/-!
# Comment buffers

A documentation comment is collected line by line. The nesting of comments is followed over
the collected fragments, so that the place of the closer is known as soon as it is reached;
fragments behind the closer no longer move it.
-/

namespace Literate

/-- The fragments of a documentation comment, to be joined by line feeds. -/
structure CommentBuffer where
  fragments : List Text
  /-- The number of bytes of the joined fragments. -/
  size : Nat
  /-- The nesting depth behind the last fragment. -/
  depth : Nat
  /-- The offset of the closer in the joined fragments, once it is there. -/
  closer : Option Nat
deriving DecidableEq

namespace CommentBuffer

def closerSize : Nat := 2

def openerSize : Nat := 3

def empty : CommentBuffer := ⟨[], 0, 0, none⟩

def push (buffer : CommentBuffer) (fragment : Text) : CommentBuffer :=
  let start := if buffer.fragments.isEmpty then 0 else buffer.size + 1
  let fragments := buffer.fragments ++ [fragment]
  let size := start + Text.byteSize fragment
  match buffer.closer with
  | some offset => ⟨fragments, size, buffer.depth, some offset⟩
  | none =>
      match scanComment buffer.depth fragment with
      | .closed body _ => ⟨fragments, size, 0, some (start + Text.byteSize body - closerSize)⟩
      | .unclosed depth => ⟨fragments, size, depth, none⟩

/-- The buffer of a comment that begins with a text, its opener included. -/
def ofOpener (text : Text) : CommentBuffer := empty.push text

def isClosed (buffer : CommentBuffer) : Bool := buffer.closer.isSome

def joined (buffer : CommentBuffer) : Text := List.intercalate ['\n'] buffer.fragments

/-- The text between the opener and the closer, or up to the end without a closer. In the
shortest comment both share a star, and the text is empty. -/
def content (buffer : CommentBuffer) : Text :=
  let stop := buffer.closer.getD (Text.byteSize buffer.joined)
  Text.dropBytes (min openerSize stop) (Text.takeBytes stop buffer.joined)

end CommentBuffer

end Literate
