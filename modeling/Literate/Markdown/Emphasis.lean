import Literate.Markdown.Bracket

/-!
# Emphasis

Signs of emphasis are paired within one sequence of pieces. A closing run looks for the nearest
opening run of its sign that it may pair with; runs between the two stay text. Two signs make
strong emphasis and one sign makes emphasis, from the inside out; a pair of tildes strikes out.
-/

namespace Literate.Markdown

/-- A run of signs that waits for a closing one. -/
structure OpenRun where
  sign : Char
  length : Nat
  count : Nat
  /-- Whether the run could have closed emphasis as well. -/
  both : Bool
  /-- The pieces before the run since the run below it, in reverse order. -/
  before : List Draft

def signTexts (sign : Char) (count : Nat) : List Draft := List.replicate count (.text [sign])

/-- Whether a closing run may pair with an opening one. Runs that go both ways pair only if
their lengths do not add up to a multiple of three, or both are one. -/
def OpenRun.pairs (run : OpenRun) (sign : Char) (length : Nat) (both : Bool) : Bool :=
  run.sign == sign && (sign != '~' || length == run.length)
    && ((!both && !run.both) || (length + run.length) % 3 != 0 || length % 3 == 0)

/-- Wrap pieces in the emphasis that a number of signs makes. -/
def wrapSigns (sign : Char) : Nat → List Draft → List Draft
  | 0, pieces => pieces
  | 1, pieces => [.element (if sign == '~' then .strikethrough else .emphasis) pieces]
  | n + 2, pieces =>
      wrapSigns sign n [.element (if sign == '~' then .strikethrough else .strong) pieces]

/-- The nearest open run that pairs with a closing one, the runs below it, and the pieces since
it in reverse order; the runs above it have become text. -/
def findRun? (sign : Char) (length : Nat) (both : Bool) :
    List OpenRun → List Draft → Option (OpenRun × List OpenRun × List Draft)
  | [], _ => none
  | run :: below, pieces =>
      if run.pairs sign length both then some (run, below, pieces)
      else findRun? sign length both below (pieces ++ signTexts run.sign run.count ++ run.before)

/-- Close emphasis with the signs of a run as often as there is a run to pair with. Gives the
signs that are left, the open runs, and the pieces since the innermost one. -/
def closeRuns (sign : Char) (length : Nat) (both : Bool) (fuel count : Nat)
    (opened : List OpenRun) (pieces : List Draft) : Nat × List OpenRun × List Draft :=
  match fuel with
  | 0 => (count, opened, pieces)
  | fuel + 1 =>
      if count = 0 then (0, opened, pieces)
      else match findRun? sign length both opened pieces with
        | none => (count, opened, pieces)
        | some (run, below, inner) =>
            let used := min count run.count
            let wrapped := wrapSigns sign used inner.reverse
            if used < run.count then
              let left := { run with count := run.count - used, both }
              closeRuns sign length both fuel (count - used) (left :: below) wrapped
            else closeRuns sign length both fuel (count - used) below (wrapped ++ run.before)

def unwindRuns : List OpenRun → List Draft → List Draft
  | [], pieces => pieces
  | run :: below, pieces => unwindRuns below (pieces ++ signTexts run.sign run.count ++ run.before)

def hasSign (pieces : List Draft) : Bool :=
  pieces.any fun piece => match piece with
    | .sign _ _ _ _ => true
    | _ => false

/-- Pair the signs of a sequence of pieces, given the open runs and the pieces since the
innermost one in reverse order. -/
def pairSigns (opened : List OpenRun) (pieces : List Draft) : List Draft → List Draft
  | [] => (unwindRuns opened pieces).reverse
  | .sign c length opens closes :: rest =>
      let behind := rest.drop (length - 1)
      let both := opens && closes
      let (count, left, done) :=
        if closes then closeRuns c length both length length opened pieces
        else (length, opened, pieces)
      if count = 0 then pairSigns left done behind
      else if opens then pairSigns (⟨c, length, count, both, done⟩ :: left) [] behind
      else pairSigns left (signTexts c count ++ done) behind
  | piece :: rest => pairSigns opened (piece :: pieces) rest
termination_by rest => rest.length
decreasing_by
  · exact Nat.lt_succ_of_le (List.drop_sublist _ _).length_le
  · exact Nat.lt_succ_of_le (List.drop_sublist _ _).length_le
  · exact Nat.lt_succ_of_le (List.drop_sublist _ _).length_le
  · exact Nat.lt_succ_self _

/-- A sequence of pieces without a line break at its end. A backslash becomes text. -/
def withoutLastBreak (pieces : List Draft) : List Draft :=
  match pieces.getLast? with
  | some (.hardBreak true) => pieces.dropLast ++ [.text ['\\']]
  | some (.hardBreak false) => pieces.dropLast
  | _ => pieces

mutual

def Draft.events : Draft → List Event
  | .text content => [.text content]
  | .sign c _ _ _ => [.text [c]]
  | .code content => [.code content]
  | .html content => [.inlineHtml content]
  | .softBreak => [.softBreak]
  | .hardBreak _ => [.hardBreak]
  | .task checked => [.taskMark checked]
  | .element tag children => within tag (Draft.eventsAll children)

def Draft.eventsAll : List Draft → List Event
  | [] => []
  | piece :: rest => piece.events ++ Draft.eventsAll rest

end

mutual

/-- A piece with the signs inside it paired. -/
def Draft.emphasized : Draft → Draft
  | .element tag children => .element tag (pairAll (Draft.emphasizedAll children))
  | piece => piece

def Draft.emphasizedAll : List Draft → List Draft
  | [] => []
  | piece :: rest => piece.emphasized :: Draft.emphasizedAll rest

def pairAll (pieces : List Draft) : List Draft :=
  if hasSign pieces then pairSigns [] [] (withoutLastBreak pieces) else pieces

end

def Passage.events (definitions : List (Text × LinkDefinition)) (p : Passage) : List Event :=
  Draft.eventsAll (pairAll (Draft.emphasizedAll (p.resolve definitions [] [] p.marks)))

end Literate.Markdown
