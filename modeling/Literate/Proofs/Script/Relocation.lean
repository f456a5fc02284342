import Literate.Proofs.Script.Cut

/-!
# Lexing at another place

Where a text stands decides no piece of it. The places that lexing writes down, those of open
constructs, of branches and of problems, move along with the text.
-/

namespace Literate

/-- A span with both ends moved. -/
def Span.relocate (f : Nat → Nat) (span : Span) : Span := ⟨f span.start, f span.stop⟩

/-- A mode with the place of its opener moved. -/
def LexMode.relocate (f : Nat → Nat) : LexMode → LexMode
  | .code => .code
  | .comment depth start => .comment depth (f start)
  | .string kind start => .string kind (f start)

/-- A branch with the place of its line moved. -/
def Branch.relocate (f : Nat → Nat) (branch : Branch) : Branch :=
  { branch with span := branch.span.relocate f }

/-- A problem at another place. -/
def LexProblem.relocate (f : Nat → Nat) (problem : LexProblem) : LexProblem :=
  ⟨problem.cause, problem.span.relocate f⟩

/-- A state with all its places moved. -/
def LexState.relocate (f : Nat → Nat) (state : LexState) : LexState :=
  ⟨state.mode.relocate f, state.branches.map (·.relocate f)⟩

/-- A lexed line with all its places moved. -/
def LexedLine.relocate (f : Nat → Nat) (lexed : LexedLine) : LexedLine :=
  ⟨lexed.pieces, lexed.problems.map (·.relocate f), lexed.after.relocate f⟩

/-- A function that moves a stretch of the source as a whole. -/
def ShiftsOn (f : Nat → Nat) (offset size : Nat) : Prop :=
  ∀ j ≤ size, f (offset + j) = f offset + j

theorem ShiftsOn.add {f : Nat → Nat} {offset size more : Nat}
    (h : ShiftsOn f offset (size + more)) : ShiftsOn f (offset + size) more := by
  intro j hj
  rw [Nat.add_assoc, h _ (Nat.add_le_add_left hj size), h size (Nat.le_add_right size more),
    Nat.add_assoc]

theorem shiftsOn_add (k offset size : Nat) : ShiftsOn (· + k) offset size := by
  intro j _
  simp only
  omega

theorem Opened.mode_relocate (f : Nat → Nat) (opened : Opened) (start : Nat) :
    opened.mode (f start) = (opened.mode start).relocate f := by
  cases opened <;> rfl

theorem codePieces_relocate {f : Nat → Nat} {offset : Nat} {t : Text}
    (h : ShiftsOn f offset (Text.byteSize t)) :
    codePieces (f offset) t = ((codePieces offset t).1, (codePieces offset t).2.relocate f) := by
  fun_induction codePieces offset t with
  | case1 =>
      rw [codePieces]
      rfl
  | case2 offset c rest step opened hopened =>
      rw [codePieces]
      simp only [show (codeStep c rest).opened = some opened from hopened, Opened.mode_relocate]
      rfl
  | case3 offset c rest step hopened pieces mode hpieces ih =>
      have htext := congrArg Text.byteSize (codeStep_covers c rest).1
      rw [Text.byteSize_append] at htext
      rw [← htext] at h
      -- What is left is lexed from the end of the step, which moves along with its start.
      have hrest := ih h.add
      rw [hpieces, h _ (Nat.le_add_right _ _)] at hrest
      rw [codePieces]
      simp only [show (codeStep c rest).opened = none from hopened]
      rw [hrest]

theorem linePieces_relocate {f : Nat → Nat} {offset : Nat} {t : Text}
    (h : ShiftsOn f offset (Text.byteSize t)) (mode : LexMode) :
    linePieces (mode.relocate f) (f offset) t =
      ((linePieces mode offset t).1, (linePieces mode offset t).2.relocate f) := by
  have behind : ∀ {front rest : Text}, t = front ++ rest →
      codePieces (f offset + Text.byteSize front) rest =
        ((codePieces (offset + Text.byteSize front) rest).1,
          (codePieces (offset + Text.byteSize front) rest).2.relocate f) := by
    rintro front rest rfl
    rw [Text.byteSize_append] at h
    rw [← h _ (Nat.le_add_right _ _)]
    exact codePieces_relocate h.add
  cases mode with
  | code => exact codePieces_relocate h
  | comment depth start =>
      simp only [linePieces, LexMode.relocate]
      split
      next body rest hscan =>
        rw [behind (scanComment_closed hscan)]
        rfl
      next => rfl
  | string kind start =>
      simp only [linePieces, LexMode.relocate]
      split
      next split hscan =>
        rw [behind (scanString_split hscan)]
        rfl
      next => rfl

theorem isActive_relocate (f : Nat → Nat) (branches : List Branch) :
    isActive (branches.map (·.relocate f)) = isActive branches := by
  cases branches <;> rfl

theorem applyBranchLine_relocate (f : Nat → Nat) (defined : List Text) (branches : List Branch)
    (span : Span) (line : BranchLine) :
    applyBranchLine defined (branches.map (·.relocate f)) (span.relocate f) line =
      ((applyBranchLine defined branches span line).1.map (·.relocate f),
        (applyBranchLine defined branches span line).2.map (·.relocate f)) := by
  cases line with
  | opens condition =>
      simp only [applyBranchLine, isActive_relocate]
      split
      · split <;> rfl
      · rfl
  | switches =>
      cases branches with
      | nil => rfl
      | cons branch outer =>
          simp only [applyBranchLine, List.map_cons, Branch.relocate]
          split <;> rfl
  | closes => cases branches <;> rfl

theorem byteSize_trim_le (t : Text) :
    Text.byteSize (t.takeWhile isBlank) + Text.byteSize (Text.trim t) ≤ Text.byteSize t := by
  have h := congrArg Text.byteSize (Text.takeWhile_append_trim_append t)
  rw [Text.byteSize_append, Text.byteSize_append] at h
  omega

theorem trimmedSpan_relocate {f : Nat → Nat} {offset : Nat} {t : Text}
    (h : ShiftsOn f offset (Text.byteSize t)) :
    trimmedSpan (f offset) t = (trimmedSpan offset t).relocate f := by
  have hle := byteSize_trim_le t
  simp only [trimmedSpan, Span.relocate]
  rw [h _ (Nat.le_trans (Nat.le_add_right _ _) hle), Nat.add_assoc offset, h _ hle,
    Nat.add_assoc]

/-- A line is lexed in the same way at another place. -/
theorem lexLine_relocate {f : Nat → Nat} {offset : Nat} {t : Text}
    (h : ShiftsOn f offset (Text.byteSize t)) (defined : List Text) (state : LexState) :
    lexLine defined (state.relocate f) (f offset) t =
      (lexLine defined state offset t).relocate f := by
  obtain ⟨mode, branches⟩ := state
  have hpieces := linePieces_relocate h mode
  -- Only in code a line can control branches, and only there they decide what it is.
  cases mode with
  | code =>
      simp only [LexMode.relocate] at hpieces
      simp only [lexLine, LexState.relocate, LexMode.relocate]
      cases BranchLine.ofText? t with
      | some line =>
          simp only [trimmedSpan_relocate h, applyBranchLine_relocate]
          rfl
      | none =>
          simp only [isActive_relocate, hpieces]
          split <;> rfl
  | comment depth start =>
      simp only [LexMode.relocate] at hpieces
      simp only [lexLine, LexState.relocate, LexMode.relocate, hpieces]
      rfl
  | string kind start =>
      simp only [LexMode.relocate] at hpieces
      simp only [lexLine, LexState.relocate, LexMode.relocate, hpieces]
      rfl

/-! ## Whole scripts -/

/-- A token some lines and some bytes further on. -/
def Token.moved (lines bytes : Nat) (token : Token) : Token :=
  ⟨token.kind, token.text, ⟨token.position.line + lines, token.position.column⟩,
    token.span.relocate (· + bytes)⟩

/-- A line some lines and some bytes further on. -/
def Line.moved (lines bytes : Nat) (line : Line) : Line :=
  ⟨line.tokens.map (·.moved lines bytes), line.number + lines, line.span.relocate (· + bytes)⟩

@[simp] theorem Line.pieces_moved (lines bytes : Nat) (line : Line) :
    (line.moved lines bytes).pieces = line.pieces := by
  simp only [pieces, moved, List.map_map]
  rfl

theorem Piece.placed_moved (lines bytes line offset column : Nat) (pieces : List Piece) :
    placed (line + lines) (offset + bytes) column pieces =
      (placed line offset column pieces).map (·.moved lines bytes) := by
  induction pieces generalizing offset column with
  | nil => rfl
  | cons piece rest ih =>
      rw [placed, placed, List.map_cons, ← ih]
      simp only [Token.moved, Span.relocate, Nat.add_right_comm]

theorem Line.ofPieces_moved (lines bytes number offset : Nat) (pieces : List Piece) :
    ofPieces (number + lines) (offset + bytes) pieces =
      (ofPieces number offset pieces).moved lines bytes := by
  simp only [ofPieces, moved, Piece.placed_moved, Span.relocate, Nat.add_right_comm]

/-- A run some lines and some bytes further on. -/
def LexRun.moved (lines bytes : Nat) (run : LexRun) : LexRun :=
  ⟨run.lines.map (·.moved lines bytes), run.problems.map (·.relocate (· + bytes)),
    run.after.relocate (· + bytes)⟩

/-- Lines are lexed in the same way further on in a source. -/
theorem lexLines_moved (lines bytes : Nat) (defined : List Text) (state : LexState)
    (number offset : Nat) (raws : List Text) :
    lexLines defined (state.relocate (· + bytes)) (number + lines) (offset + bytes) raws =
      (lexLines defined state number offset raws).moved lines bytes := by
  induction raws generalizing state number offset with
  | nil => rfl
  | cons raw raws ih =>
      have hlexed := lexLine_relocate
        (shiftsOn_add bytes offset (Text.byteSize (withoutReturn raw))) defined state
      have hoffset : offset + bytes + Text.byteSize raw + 1 =
          offset + Text.byteSize raw + 1 + bytes := by omega
      simp only [lexLines, hlexed, LexedLine.relocate, hoffset, Nat.add_right_comm number lines 1,
        ih, Line.ofPieces_moved]
      simp [LexRun.moved]

end Literate
