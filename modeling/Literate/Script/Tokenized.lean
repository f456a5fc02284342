import Literate.Script.Branch
import Literate.Script.Code
import Literate.Script.Line
import Literate.Script.Symbols

/-!
# Tokenized scripts

A script is lexed line by line. What one line hands to the next is the construct that it
leaves open, if any, and the stack of open conditional branches. Every line is first cut into
bare pieces that make up its text; the pieces are then put at their places.
-/

namespace Literate

/-- What a line starts in. A comment and a string remember the byte offset of their opener. -/
inductive LexMode where
  | code
  | comment (depth start : Nat)
  | string (kind : StringKind) (start : Nat)
deriving DecidableEq

/-- The mode after a construct was opened at an offset. -/
def Opened.mode (start : Nat) : Opened → LexMode
  | .comment depth => .comment depth start
  | .string kind => .string kind start

/-- The piece of a text, if the text is not empty. -/
def Piece.ofText (kind : TokenKind) (t : Text) : List Piece :=
  if t.isEmpty then [] else [⟨kind, t⟩]

/-- A line as one piece between its outer blanks. -/
def wholeLine (kind : TokenKind) (t : Text) : List Piece :=
  let trimmed := Text.trimStart t
  Piece.ofText .whitespace (t.takeWhile isBlank) ++
    (Piece.ofText kind (Text.trimEnd trimmed) ++
      Piece.ofText .whitespace (trimmed.reverse.takeWhile isBlank).reverse)

/-- The pieces of code from a byte offset on, and the mode at the end of the line. -/
def codePieces (offset : Nat) : Text → List Piece × LexMode
  | [] => ([], .code)
  | c :: rest =>
      let step := codeStep c rest
      match step.opened with
      | some opened => ([step.piece], opened.mode offset)
      | none =>
          let (pieces, mode) := codePieces (offset + Text.byteSize step.piece.text) step.rest
          (step.piece :: pieces, mode)
termination_by t => t.length
decreasing_by exact codeStep_rest_length c rest

/-- The pieces of a line in a mode, and the mode at its end. -/
def linePieces (mode : LexMode) (offset : Nat) (t : Text) : List Piece × LexMode :=
  match mode with
  | .code => codePieces offset t
  | .comment depth start =>
      match scanComment depth t with
      | .closed body rest =>
          let (pieces, mode) := codePieces (offset + Text.byteSize body) rest
          (⟨.comment, body⟩ :: pieces, mode)
      | .unclosed depth => (Piece.ofText .comment t, .comment depth start)
  | .string kind start =>
      match scanString kind t with
      | some split =>
          let (pieces, mode) := codePieces (offset + Text.byteSize split.front) split.rest
          (⟨.string, split.front⟩ :: pieces, mode)
      | none => (Piece.ofText .string t, .string kind start)

/-- What one line hands to the next. -/
structure LexState where
  mode : LexMode
  branches : List Branch
deriving DecidableEq

def LexState.initial : LexState := ⟨.code, []⟩

structure LexedLine where
  pieces : List Piece
  problems : List LexProblem
  after : LexState
deriving DecidableEq

/-- The place of a line's text without its outer blanks. -/
def trimmedSpan (offset : Nat) (t : Text) : Span :=
  let start := offset + Text.byteSize (t.takeWhile isBlank)
  ⟨start, start + Text.byteSize (Text.trim t)⟩

/-- Lex one line. A controlling line and an inactive line are one piece each; both are only
looked for where the line starts in code. -/
def lexLine (defined : List Text) (state : LexState) (offset : Nat) (t : Text) : LexedLine :=
  let ordinary :=
    let (pieces, mode) := linePieces state.mode offset t
    ⟨pieces, [], { state with mode }⟩
  match state.mode with
  | .code =>
      match BranchLine.ofText? t with
      | some line =>
          let (branches, problems) :=
            applyBranchLine defined state.branches (trimmedSpan offset t) line
          ⟨wholeLine .preprocessor t, problems, { state with branches }⟩
      | none => if isActive state.branches then ordinary else ⟨wholeLine .inactive t, [], state⟩
  | _ => ordinary

/-- The physical lines of a source with what ends them short of the line feed. A line feed at
the very end starts no further line. -/
def physicalLines (source : Text) : List Text :=
  let lines := List.splitOn '\n' source
  if source.getLast? = some '\n' then lines.dropLast else lines

/-- A physical line without the carriage return at its end. -/
def withoutReturn (raw : Text) : Text := (List.isSuffixOf? ['\r'] raw).getD raw

structure LexRun where
  lines : List Line
  problems : List LexProblem
  after : LexState

/-- Lex physical lines from a state, a line number and a byte offset on. -/
def lexLines (defined : List Text) : LexState → Nat → Nat → List Text → LexRun
  | state, _, _, [] => ⟨[], [], state⟩
  | state, number, offset, raw :: more =>
      let lexed := lexLine defined state offset (withoutReturn raw)
      let run := lexLines defined lexed.after (number + 1) (offset + Text.byteSize raw + 1) more
      ⟨Line.ofPieces number offset lexed.pieces :: run.lines, lexed.problems ++ run.problems,
        run.after⟩

/-- The problems of a state that the source ends in: its comment or string is marked at its
opener, then every open branch, outermost first. -/
def LexState.endProblems (state : LexState) (size : Nat) : List LexProblem :=
  let unclosed :=
    match state.mode with
    | .code => []
    | .comment _ start => [⟨.openComment, ⟨start, min (start + 2) size⟩⟩]
    | .string _ start => [⟨.openString, ⟨start, min (start + 1) size⟩⟩]
  unclosed ++ state.branches.reverse.map fun branch => ⟨.openBranch, branch.span⟩

def lexSource (defined : List Text) (source : Text) : List Line × List LexProblem :=
  let run := lexLines defined .initial 1 0 (physicalLines source)
  (run.lines, run.problems ++ run.after.endProblems (Text.byteSize source))

structure SourceRequest where
  source : Text
  fileId : Nat
  defines : List Text
  compilerOptions : List Text

structure Tokenized where
  lines : List Line
  diagnostics : List Diagnostic

def tokenize (request : SourceRequest) : Tokenized :=
  let (lines, problems) :=
    lexSource (definedSymbols request.defines request.compilerOptions) request.source
  ⟨lines, problems.map (·.diagnostic request.fileId)⟩

end Literate
