import Literate.Markdown.Entity
import Literate.Text.Blank
import Literate.Text.Punctuation

/-!
# Link labels, destinations and titles

The parts that links and link definitions are made of. Each may be spread over lines; what has
to be skipped at the start of a further line, and whether the line may be joined at all, is
given by a function from the text of that line on.
-/

namespace Literate.Markdown

/-- What to do at the start of a further line: the text to go on with, if the line belongs to
the construct. -/
abbrev LineEntry := Text → Option Text

/-- A text with its escapes undone: a backslash before ASCII punctuation is dropped, and
character references are replaced. -/
def unescape (t : Text) : Text :=
  match t with
  | [] => []
  | '\\' :: c :: rest =>
      if isAsciiPunctuation c then c :: unescape rest else '\\' :: unescape (c :: rest)
  | '\r' :: rest => unescape rest
  | c :: rest =>
      match entity? (c :: rest) with
      | some (value, behind) =>
          if behind.length ≤ rest.length then value ++ unescape behind
          else c :: unescape rest
      | none => c :: unescape rest
termination_by t.length

/-! ### Labels -/

/-- The most that a label may weigh: its white space and escapes by their characters, and all
beyond ASCII by its bytes. -/
def longestLabel : Nat := 1000

/-- A run of white space in a label: how it counts, and the text behind it. A run over a line
end has exactly one. -/
def labelSpace? (entry : LineEntry) (t : Text) : Option (Nat × Text) :=
  go t.length false 0 t
where
  /-- Go through the run with a bound on the characters left. -/
  go : Nat → Bool → Nat → Text → Option (Nat × Text)
    | 0, _, weight, t => some (weight, t)
    | fuel + 1, broken, weight, t =>
        match t with
        | c :: rest =>
            if isLineEnd c then
              if broken then none
              else do
                let next ← dropLineEnd? (c :: rest)
                go fuel true (weight + 2) (← entry next)
            else if isLineSpace c then
              go fuel broken (weight + if c == ' ' then 1 else 2) rest
            else some (weight, t)
        | [] => some (weight, [])

/-- Read a label behind its opening bracket: the label with its white space collapsed, and the
text behind the closing bracket. A label is not blank and holds no opening bracket. -/
def label? (entry : LineEntry) (t : Text) : Option (Text × Text) :=
  go t.length true 0 [] t
where
  /-- Read on with a bound on the characters left; the label so far is reversed. -/
  go : Nat → Bool → Nat → Text → Text → Option (Text × Text)
    | 0, blank, count, label, t => close blank count label t
    | fuel + 1, blank, count, label, t =>
        if longestLabel ≤ count then none
        else match t with
          | ']' :: _ => close blank count label t
          | [] | '[' :: _ | ['\\'] => none
          | '\\' :: c :: rest =>
              go fuel (blank && c.toNat < 128) (count + 2) (c :: '\\' :: label) rest
          | c :: rest =>
              if isSpace c then do
                let (weight, behind) ← labelSpace? entry (c :: rest)
                if weight ≤ 1 then go fuel blank (count + 1) (c :: label) behind
                else go fuel blank (count + (t.length - behind.length)) (' ' :: label) behind
              else go fuel false (if c.toNat < 128 then count else count + c.utf8Size)
                (c :: label) rest
  /-- End the label at its closing bracket. -/
  close (blank : Bool) (count : Nat) (label : Text) : Text → Option (Text × Text)
    | ']' :: rest =>
        if blank || longestLabel ≤ count then none else some (label.reverse, rest)
    | _ => none

/-! ### Destinations -/

/-- The most parentheses that a destination may open at once. -/
def deepestParentheses : Nat := 32

/-- Read the rest of a destination in angle brackets. -/
def angleDestination? : Text → Option (Text × Text)
  | [] => none
  | '\\' :: c :: rest =>
      if isAsciiPunctuation c then
        (angleDestination? rest).map fun (dest, behind) => ('\\' :: c :: dest, behind)
      else (angleDestination? (c :: rest)).map fun (dest, behind) => ('\\' :: dest, behind)
  | c :: rest =>
      if c == '>' then some ([], rest)
      else if c == '<' || isLineEnd c then none
      else (angleDestination? rest).map fun (dest, behind) => (c :: dest, behind)

/-- Read a bare destination inside some open parentheses. It ends at white space, at a control
character, and at a closing parenthesis of the link itself. -/
def bareDestination? (depth : Nat) : Text → Option (Text × Text)
  | [] => if depth = 0 then some ([], []) else none
  | '\\' :: c :: rest =>
      if isAsciiPunctuation c then
        (bareDestination? depth rest).map fun (dest, behind) => ('\\' :: c :: dest, behind)
      else (bareDestination? depth (c :: rest)).map fun (dest, behind) => ('\\' :: dest, behind)
  | c :: rest =>
      if c.toNat ≤ 32 then if depth = 0 then some ([], c :: rest) else none
      else if c == '(' then
        if depth > deepestParentheses then none
        else (bareDestination? (depth + 1) rest).map fun (dest, behind) => (c :: dest, behind)
      else if c == ')' then
        if depth = 0 then some ([], c :: rest)
        else (bareDestination? (depth - 1) rest).map fun (dest, behind) => (c :: dest, behind)
      else (bareDestination? depth rest).map fun (dest, behind) => (c :: dest, behind)

/-- Read a destination, with its escapes as they are, and the text behind it. -/
def destination? (t : Text) : Option (Text × Text) :=
  match t with
  | '<' :: rest => angleDestination? rest
  | _ => bareDestination? 0 t

/-! ### Titles -/

/-- The sign that closes a title opened by a sign. -/
def titleClose? (c : Char) : Option Char :=
  if c == '"' || c == '\'' then some c else if c == '(' then some ')' else none

/-- Read a title up to its closing sign, with its escapes as they are, and the text behind it.
A parenthesised title holds no bare opening parenthesis. A further line is joined by a line
feed. -/
def title? (entry : LineEntry) (t : Text) : Option (Text × Text) :=
  match t with
  | opening :: rest => do
      let closing ← titleClose? opening
      go opening closing rest.length [] rest
  | [] => none
where
  /-- Read on with a bound on the characters left; the title so far is reversed. -/
  go (opening closing : Char) : Nat → Text → Text → Option (Text × Text)
    | fuel, title, c :: rest =>
        if c == closing then some (title.reverse, rest)
        else match fuel with
          | 0 => none
          | fuel + 1 =>
              if c == opening then none
              else if isLineEnd c then do
                let next ← dropLineEnd? (c :: rest)
                go opening closing fuel ('\n' :: title) (← entry next)
              else match c, rest with
                | '\\', escaped :: behind =>
                    if isAsciiPunctuation escaped then
                      go opening closing fuel (escaped :: '\\' :: title) behind
                    else go opening closing fuel ('\\' :: title) rest
                | _, _ => go opening closing fuel (c :: title) rest
    | _, _, [] => none

end Literate.Markdown
