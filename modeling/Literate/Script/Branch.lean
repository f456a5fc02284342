import Literate.Diagnostic
import Literate.Script.Condition
import Literate.Text.Blank

/-!
# Conditional branches

Lines that open, switch and close a branch work on a stack of the open branches, innermost
first. A branch selects its lines while its condition holds, and after its switch while the
condition does not hold. Lines are active when every open branch selects them; each branch keeps
what it knows about that, so only the innermost one is asked.
-/

namespace Literate

/-- A line that controls conditional branches. -/
inductive BranchLine where
  | opens (condition : Text)
  | switches
  | closes
deriving DecidableEq

namespace BranchLine

/-- The text after a keyword, if the keyword begins the text and ends there or at a blank. -/
def afterKeyword? (keyword t : Text) : Option Text :=
  match keyword.isPrefixOf? t with
  | some [] => some []
  | some (c :: rest) => if isBlank c then some (c :: rest) else none
  | none => none

/-- The condition of an opening line: what follows the keyword up to a line comment. -/
def conditionOf (rest : Text) : Text := Text.before ['/', '/'] (Text.trim rest)

/-- Recognise a controlling line by its first word. -/
def ofText? (t : Text) : Option BranchLine :=
  let trimmed := Text.trimStart t
  match afterKeyword? "#if".toList trimmed with
  | some rest => some (.opens (conditionOf rest))
  | none =>
      if (afterKeyword? "#else".toList trimmed).isSome then some .switches
      else if (afterKeyword? "#endif".toList trimmed).isSome then some .closes
      else none

end BranchLine

inductive LexCause where
  /-- The condition of a branch that would matter is not a formula. -/
  | malformedCondition (error : ConditionError)
  | switchOutside
  | switchTwice
  | closeOutside
  | openComment
  | openString
  | openBranch
deriving DecidableEq

structure LexProblem where
  cause : LexCause
  span : Span
deriving DecidableEq

namespace LexCause

/-- Open branches and comments at the end are harmless; everything else is an error. -/
def severity : LexCause → Severity
  | .openComment | .openBranch => .warning
  | _ => .error

def message : LexCause → String
  | .malformedCondition e => e.message
  | .switchOutside => "`#else` without matching `#if`"
  | .switchTwice => "duplicate `#else` for the same `#if`"
  | .closeOutside => "`#endif` without matching `#if`"
  | .openComment => "unterminated block comment"
  | .openString => "unterminated string literal"
  | .openBranch => "`#if` without matching `#endif`"

def notes : LexCause → List String
  | .malformedCondition _ => ["the branch is treated as inactive"]
  | _ => []

end LexCause

def LexProblem.diagnostic (fileId : Nat) (problem : LexProblem) : Diagnostic where
  severity := problem.cause.severity
  message := problem.cause.message
  span := problem.span
  fileId := fileId
  notes := problem.cause.notes

structure Branch where
  /-- The place of the line that opened the branch. -/
  span : Span
  /-- Whether the line that opened the branch stands among active lines. -/
  outerActive : Bool
  /-- Whether the condition holds; a malformed or unread condition does not. -/
  holds : Bool
  /-- Whether lines that stand in the branch now are active. -/
  active : Bool
  switched : Bool
deriving DecidableEq

namespace Branch

/-- The branch behind its opening line. -/
def opened (span : Span) (outerActive holds : Bool) : Branch where
  span := span
  outerActive := outerActive
  holds := holds
  active := outerActive && holds
  switched := false

/-- The branch behind its switch. -/
def switch (branch : Branch) : Branch :=
  { branch with active := branch.outerActive && !branch.holds, switched := true }

end Branch

/-- Whether lines inside these open branches are active. -/
def isActive (branches : List Branch) : Bool := branches.head?.all (·.active)

/-- The effect of a controlling line on the open branches, and the problems it shows. The
condition of an opening line is read only where lines are active. -/
def applyBranchLine (defined : List Text) (branches : List Branch) (span : Span) :
    BranchLine → List Branch × List LexProblem
  | .opens condition =>
      if isActive branches then
        match Condition.evaluate defined condition with
        | .ok value => (.opened span true value :: branches, [])
        | .error e => (.opened span true false :: branches, [⟨.malformedCondition e, span⟩])
      else (.opened span false false :: branches, [])
  | .switches =>
      match branches with
      | [] => ([], [⟨.switchOutside, span⟩])
      | branch :: outer =>
          if branch.switched then (branches, [⟨.switchTwice, span⟩])
          else (branch.switch :: outer, [])
  | .closes =>
      match branches with
      | [] => ([], [⟨.closeOutside, span⟩])
      | _ :: outer => (outer, [])

end Literate
