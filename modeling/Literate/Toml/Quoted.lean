import Literate.Text.Digits

/-!
# Quoted texts

A text in TOML stands between double quotes, with escapes, or between single quotes, without
any. Three quotes in place of one let it run over several lines. A line end inside is always
read as a line feed, however it is written.
-/

namespace Literate.Toml

/-- How a text is quoted. -/
structure Quoting where
  quote : Char
  /-- Whether a backslash starts an escape. -/
  escapes : Bool
  /-- Whether the text may run over several lines. -/
  multiline : Bool

/-- A character that may stand for itself on a line: anything but control characters, of which
only the tab is one. -/
def isLineChar (c : Char) : Bool := c == '\t' || (0x20 ≤ c.toNat && c.toNat != 0x7F)

def isBlankChar (c : Char) : Bool := c == ' ' || c == '\t'

/-- The text behind a line end: a line feed, or a carriage return and a line feed. -/
def lineEnd? : Text → Option Text
  | '\n' :: rest => some rest
  | '\r' :: '\n' :: rest => some rest
  | _ => none

/-- The text without the blanks and line ends that it begins with. -/
def skipBlankLines : Text → Text
  | '\n' :: rest => skipBlankLines rest
  | '\r' :: '\n' :: rest => skipBlankLines rest
  | c :: rest => if isBlankChar c then skipBlankLines rest else c :: rest
  | [] => []

/-- The character that a fixed number of hexadecimal digits stand for, and the text behind. -/
def hexEscape? (count : Nat) (t : Text) : Option (Char × Text) :=
  let digits := t.take count
  let code := hexadecimal digits
  if digits.length = count ∧ digits.all isHexDigit ∧ code.isValidChar then
    some (Char.ofNat code, t.drop count)
  else none

/-- The character of an escape, given the text behind the backslash. -/
def escape? : Text → Option (Char × Text)
  | 'b' :: rest => some ('\x08', rest)
  | 't' :: rest => some ('\t', rest)
  | 'n' :: rest => some ('\n', rest)
  | 'f' :: rest => some ('\x0C', rest)
  | 'r' :: rest => some ('\r', rest)
  | '"' :: rest => some ('"', rest)
  | '\\' :: rest => some ('\\', rest)
  | 'u' :: rest => hexEscape? 4 rest
  | 'U' :: rest => hexEscape? 8 rest
  | _ => none

namespace Quoting

/-- The end of a quoted text, if it is here: what it still adds to the text, and what stands
behind. Up to two quotes may come before three closing ones. -/
def close? (q : Quoting) (t : Text) : Option (Text × Text) :=
  let run := (t.takeWhile (· == q.quote)).length
  if q.multiline then
    if run < 3 then none
    else some (List.replicate (min (run - 3) 2) q.quote, t.drop (min run 5))
  else if run = 0 then none
  else some ([], t.drop 1)

/-- What the next character or escape of a quoted text stands for, and what stands behind. A
backslash before a line end leaves out all blanks and line ends that follow. -/
def unit? (q : Quoting) : Text → Option (Text × Text)
  | [] => none
  | '\\' :: rest =>
      if q.escapes then
        match lineEnd? (rest.dropWhile isBlankChar) with
        | some more => if q.multiline then some ([], skipBlankLines more) else none
        | none => (escape? rest).map fun (c, behind) => ([c], behind)
      else some (['\\'], rest)
  | c :: rest =>
      if isLineChar c then some ([c], rest)
      else if q.multiline then (lineEnd? (c :: rest)).map (['\n'], ·)
      else none

/-- The text up to the closing quotes, and what stands behind them. -/
def body? (q : Quoting) (t : Text) : Option (Text × Text) :=
  match q.close? t with
  | some closed => some closed
  | none =>
      match q.unit? t with
      | none => none
      | some (unit, rest) =>
          if rest.length < t.length then
            (q.body? rest).map fun (body, behind) => (unit ++ body, behind)
          else none
termination_by t.length

end Quoting

/-- How the text is quoted that begins here, and its body with the closing quotes. A line end
right behind three opening quotes is not part of the body. -/
def quoting? : Text → Option (Quoting × Text)
  | '"' :: '"' :: '"' :: rest => some (⟨'"', true, true⟩, (lineEnd? rest).getD rest)
  | '\'' :: '\'' :: '\'' :: rest => some (⟨'\'', false, true⟩, (lineEnd? rest).getD rest)
  | '"' :: rest => some (⟨'"', true, false⟩, rest)
  | '\'' :: rest => some (⟨'\'', false, false⟩, rest)
  | _ => none

end Literate.Toml
