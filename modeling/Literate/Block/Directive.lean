import Literate.Dict
import Literate.Script.Line
import Literate.Text.Blank

/-!
# Directives

A directive is a comment on a line of its own that carries options instead of prose. It
consists of an envelope of three stars and a list of entries between commas. A text that is
not exactly that is no directive, and no error either: it is an ordinary comment.
-/

namespace Literate

/-- The options of a directive and the place of its line. -/
structure Directive where
  options : Dict Text
  span : Span
deriving DecidableEq

namespace Directive

/-- The beginning of the envelope. -/
def opening : Text := "(***".toList

def closing : Text := "***)".toList

/-- The parts of a text between the commas that stand outside double quotes. -/
def entriesFrom (quoted : Bool) : Text → List Text
  | [] => [[]]
  | c :: rest =>
      if c = ',' ∧ quoted = false then [] :: entriesFrom quoted rest
      else match entriesFrom (if c = '"' then !quoted else quoted) rest with
        | [] => [[c]]
        | entry :: more => (c :: entry) :: more

def entries (body : Text) : List Text := entriesFrom false body

def isKeyChar (c : Char) : Bool := c.isAlphanum || c == '-' || c == '_'

def isKey (key : Text) : Bool := !key.isEmpty && key.all isKeyChar

/-- A value without the double quotes around it, if it has both. -/
def unquoted (value : Text) : Text :=
  match List.isPrefixOf? ['"'] value with
  | some inner => (List.isSuffixOf? ['"'] inner).getD value
  | none => value

def isSeparator (c : Char) : Bool := c == ':' || c == '='

/-- The key and the value of an entry; an entry without separator has the empty value. -/
def entry? (entry : Text) : Option (Text × Text) :=
  let trimmed := Text.trim entry
  let key := Text.trim (trimmed.takeWhile (!isSeparator ·))
  let value := Text.trim ((trimmed.dropWhile (!isSeparator ·)).drop 1)
  if isKey key then some (key, unquoted value) else none

/-- The text between the envelope's ends, if it can be a body. -/
def body? (t : Text) : Option Text := do
  let rest ← opening.isPrefixOf? (Text.trim t)
  let body ← closing.isSuffixOf? rest
  if body.contains '\n' || Text.occursIn opening body || Text.occursIn closing body then none
  else
    let trimmed := Text.trim body
    if trimmed.isEmpty then none else some trimmed

/-- The pairs of a text that is a directive. -/
def pairs? (t : Text) : Option (List (Text × Text)) := do
  let body ← body? t
  (entries body).mapM entry?

/-- Read a directive from the comment text of one line. Of two entries with one key the later
one counts. -/
def parse (t : Text) (span : Span) : Option Directive :=
  (pairs? t).map fun pairs => ⟨Dict.ofList pairs, span⟩

def get? (d : Directive) (key : Text) : Option Text := d.options.get? key

def contains (d : Directive) (key : Text) : Bool := d.options.contains key

/-- The options as they are shown, in the order of their keys. -/
def pairs (d : Directive) : List Text :=
  d.options.entries.map fun entry => entry.1 ++ ':' :: entry.2

end Directive

end Literate
