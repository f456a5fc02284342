import Literate.Markdown.Entity
import Literate.Text.Blank
import Literate.Text.Punctuation

/-!
# Marks within lines

The text of a paragraph is cut into plain pieces and marks that may turn out to be markup:
brackets, backticks, angle brackets, and runs of emphasis signs. Whether a run can open or close
emphasis is decided by the characters on its two sides alone.
-/

namespace Literate.Markdown

/-- The extensions of Markdown that are in force. -/
structure Features where
  tables : Bool
  strikethrough : Bool
  taskLists : Bool
deriving DecidableEq

/-- What a piece of a line may be. -/
inductive MarkKind where
  | text
  /-- A character reference with the text it stands for. -/
  | reference (value : Text)
  /-- One sign of a run of emphasis signs, with the number of signs from it on. -/
  | sign (count : Nat) (canOpen canClose : Bool)
  /-- A run of backticks; a backslash may stand before it. -/
  | backticks (count : Nat) (escaped : Bool)
  | openBracket
  | openImage
  | closeBracket
  | angle
  | softBreak
  /-- A hard line break, made by a backslash or by spaces. -/
  | hardBreak (backslash : Bool)
  | task (checked : Bool)
deriving DecidableEq

/-- A piece at its place in the paragraph, in characters. -/
structure Mark where
  kind : MarkKind
  start : Nat
  stop : Nat
deriving DecidableEq

/-- What stands at the front of a text. -/
structure Lead where
  /-- The number of further characters that belong to it. -/
  more : Nat
  /-- Its marks, placed from the front of the text on. -/
  marks : List Mark
  /-- Where plain text begins again, if plain text ends here. -/
  resume : Option Nat

namespace Lead

/-- Characters that plain text runs over. -/
def plain (more : Nat) : Lead := ⟨more, [], none⟩

def mark (kind : MarkKind) (width : Nat) : Lead := ⟨width - 1, [⟨kind, 0, width⟩], some width⟩

end Lead

/-- White space, or no character at all. -/
def isBlankSide (c : Option Char) : Bool :=
  match c with
  | some c => isBlank c
  | none => true

def isPunctuationSide (c : Option Char) : Bool :=
  match c with
  | some c => isPunctuation c
  | none => false

/-- Whether signs of a kind may open and close emphasis inside words. -/
def isIntraword (sign : Char) (count : Nat) : Bool := sign == '*' || (sign == '~' && 1 < count)

/-- Whether a run of signs between two characters can open emphasis. -/
def canOpen (sign : Char) (count : Nat) (before after : Option Char) : Bool :=
  !isBlankSide after
    && (before.isNone
      || (isIntraword sign count && !isPunctuationSide after)
      || (sign == '~' && before == some '~' && !isPunctuationSide after)
      || isBlankSide before || isPunctuationSide before)

/-- Whether a run of signs between two characters can close emphasis. -/
def canClose (sign : Char) (count : Nat) (before after : Option Char) : Bool :=
  !isBlankSide before
    && (after.isNone
      || (isIntraword sign count && !isPunctuationSide before)
      || (sign == '~' && before == some '~')
      || isBlankSide after || isPunctuationSide after)

/-- The lead of a run of emphasis signs. A run that can do nothing is plain text. -/
def signLead (sign : Char) (before : Option Char) (rest : Text) : Lead :=
  let count := runLength sign rest + 1
  let opens := canOpen sign count before (rest.drop (count - 1)).head?
  let closes := canClose sign count before (rest.drop (count - 1)).head?
  if (opens || closes) && (sign != '~' || count ≤ 2) then
    ⟨count - 1, (List.range count).map fun i => ⟨.sign (count - i) opens closes, i, i + 1⟩,
      some count⟩
  else .plain (count - 1)

/-- The lead of a backslash. Before punctuation it ends plain text, which goes on with the
escaped character. -/
def backslashLead (rest : Text) : Lead :=
  match rest with
  | '`' :: more =>
      let count := runLength '`' more + 1
      ⟨count, [⟨.backticks count true, 1, count + 1⟩], some (count + 1)⟩
  | c :: _ => if isAsciiPunctuation c then ⟨1, [], some 1⟩ else .plain 0
  | [] => .plain 0

/-- What stands at the front of a text, given the character before it. -/
def lead (features : Features) (before : Option Char) (c : Char) (rest : Text) : Lead :=
  if c == '\\' then backslashLead rest
  else if c == '*' || c == '_' || (c == '~' && features.strikethrough) then
    signLead c before rest
  else if c == '`' then
    let count := runLength '`' rest + 1
    .mark (.backticks count false) count
  else if c == '<' then if beginsWith '\\' rest then .plain 0 else .mark .angle 1
  else if c == '!' && beginsWith '[' rest then .mark .openImage 2
  else if c == '[' then .mark .openBracket 1
  else if c == ']' then .mark .closeBracket 1
  else if c == '&' then
    match entity? (c :: rest) with
    | some (value, behind) => .mark (.reference value) (rest.length + 1 - behind.length)
    | none => .plain 0
  else .plain 0

/-- Plain text between two places, if they are apart. -/
def plainMark (start stop : Nat) : List Mark :=
  if start < stop then [⟨.text, start, stop⟩] else []

/-- The marks of a line from a place on. Text was plain since an earlier place; at the end of the
line, `trailing` characters of it are left out. -/
def lineMarks (features : Features) (trailing : Nat) (before : Option Char)
    (since place : Nat) : Text → List Mark
  | [] => plainMark since (place - trailing)
  | c :: rest =>
      let l := lead features before c rest
      let last := (c :: rest.take l.more).getLast?
      let next := place + 1 + l.more
      match l.resume with
      | some resume =>
          plainMark since place
            ++ l.marks.map (fun m => { m with start := m.start + place, stop := m.stop + place })
            ++ lineMarks features trailing last (place + resume) next (rest.drop l.more)
      | none => lineMarks features trailing last since next (rest.drop l.more)
termination_by t => t.length
decreasing_by all_goals exact Nat.lt_succ_of_le (List.drop_sublist _ _).length_le

/-- The cell of a table row in front of a text: up to a bar that is not escaped. -/
def cellText : Text → Text
  | [] => []
  | '\\' :: c :: rest => '\\' :: c :: cellText rest
  | c :: rest => if c == '|' then [] else c :: cellText rest

/-- The number of characters of a class at the end of a text. -/
def trailingCount (p : Char → Bool) (t : Text) : Nat := (t.reverse.takeWhile p).length

end Literate.Markdown
