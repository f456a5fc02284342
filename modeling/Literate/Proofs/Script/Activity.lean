import Literate.Proofs.Script.OpenLine
import Literate.Proofs.Script.Ordinary
import Literate.Proofs.Script.Relocation
import Literate.Proofs.Text.Trim

/-!
# Which lines are active

The lines that a script starts in code are read as brackets: the opening lines that are open in
front of a line decide whether it is ordinary code or inactive, and what is wrong with it if it
is a controlling line. A controlling line that fits no opening line has no other effect.
-/

namespace Literate

/-- The controlling line that a line is, if lexing starts it in code. -/
def ControlLine.ofLine? (mode : LexMode) (offset : Nat) (t : Text) : Option ControlLine :=
  match mode with
  | .code => (BranchLine.ofText? t).map (⟨trimmedSpan offset t, ·⟩)
  | _ => none

/-- The controlling lines among physical lines that are lexed from a state on. -/
def controlLinesFrom (defined : List Text) : LexState → Nat → List Text → List ControlLine
  | _, _, [] => []
  | state, offset, raw :: more =>
      let lexed := lexLine defined state offset (withoutReturn raw)
      (ControlLine.ofLine? state.mode offset (withoutReturn raw)).toList ++
        controlLinesFrom defined lexed.after (offset + Text.byteSize raw + 1) more

/-- The state behind the first physical lines of a script. -/
def stateBehind (defined : List Text) (front : List Text) : LexState :=
  (lexLines defined .initial 1 0 front).after

/-- The controlling lines among the first physical lines of a script. -/
def controlLines (defined : List Text) (front : List Text) : List ControlLine :=
  controlLinesFrom defined .initial 0 front

/-! ## One line -/

/-- A blank line is no controlling line. -/
theorem BranchLine.ofText?_of_trim_eq_nil {t : Text} (h : Text.trim t = []) :
    ofText? t = none := by
  rw [ofText?, Text.trimStart_of_trim_eq_nil h]
  rfl

section Line

variable {defined : List Text} {state : LexState} {offset : Nat} {t : Text}

theorem ControlLine.span_of_ofLine? {control : ControlLine} {mode : LexMode}
    (h : ofLine? mode offset t = some control) : control.span = trimmedSpan offset t := by
  cases mode with
  | code =>
      obtain ⟨line, -, rfl⟩ := Option.map_eq_some_iff.mp h
      rfl
  | comment depth start => cases h
  | string kind start => cases h

theorem ControlLine.mode_of_ofLine? {control : ControlLine} {mode : LexMode}
    (h : ofLine? mode offset t = some control) : mode = .code := by
  cases mode with
  | code => rfl
  | comment depth start => cases h
  | string kind start => cases h

theorem lexLine_of_control {control : ControlLine}
    (h : ControlLine.ofLine? state.mode offset t = some control) :
    lexLine defined state offset t =
      ⟨wholeLine .preprocessor t,
        (applyBranchLine defined state.branches control.span control.line).2,
        ⟨state.mode, (applyBranchLine defined state.branches control.span control.line).1⟩⟩ := by
  obtain ⟨mode, branches⟩ := state
  cases mode with
  | code =>
      obtain ⟨line, hline, rfl⟩ := Option.map_eq_some_iff.mp h
      simp only [lexLine, hline]
  | comment depth start => cases h
  | string kind start => cases h

theorem lexLine_of_not_control (defined : List Text)
    (h : ControlLine.ofLine? state.mode offset t = none) :
    (lexLine defined state offset t).problems = [] ∧
      (lexLine defined state offset t).after.branches = state.branches := by
  obtain ⟨mode, branches⟩ := state
  cases mode with
  | code =>
      simp only [lexLine, Option.map_eq_none_iff.mp h]
      split <;> exact ⟨rfl, rfl⟩
  | comment depth start => exact ⟨rfl, rfl⟩
  | string kind start => exact ⟨rfl, rfl⟩

end Line

/-! ## All lines -/

/-- Lexing keeps track of the open lines, and reports what is wrong with controlling lines. -/
theorem Tracks.run {defined : List Text} {state : LexState} {before : List ControlLine}
    (h : Tracks defined 0 (openLines before) state.branches) (number offset : Nat)
    (raws : List Text) :
    Tracks defined 0 (openLines (before ++ controlLinesFrom defined state offset raws))
        (lexLines defined state number offset raws).after.branches ∧
      (lexLines defined state number offset raws).problems =
        controlProblems defined before (controlLinesFrom defined state offset raws) := by
  induction raws generalizing state before number offset with
  | nil =>
      rw [controlLinesFrom, List.append_nil]
      exact ⟨h, rfl⟩
  | cons raw raws ih =>
      simp only [lexLines, controlLinesFrom]
      cases hcontrol : ControlLine.ofLine? state.mode offset (withoutReturn raw) with
      | none =>
          obtain ⟨hproblems, hbranches⟩ := lexLine_of_not_control defined hcontrol
          rw [← hbranches] at h
          rw [hproblems]
          exact ih h _ _
      | some control =>
          have hstep := h.apply control
          rw [← openLines_append_singleton] at hstep
          simp only [lexLine_of_control hcontrol, h.problems_eq control, Option.toList_some,
            List.singleton_append, controlProblems]
          rw [List.append_cons before]
          obtain ⟨htracks, hproblems⟩ := @ih ⟨state.mode, _⟩ _ hstep (number + 1)
            (offset + Text.byteSize raw + 1)
          exact ⟨htracks, congrArg _ hproblems⟩

/-! ## Leaving a line out -/

/-- A branch that was opened on a line in front of an offset. -/
def Branch.EndsBefore (offset : Nat) (branch : Branch) : Prop :=
  branch.span.start < offset ∧ branch.span.stop < offset

theorem Branch.EndsBefore.mono {offset offset' : Nat} {branch : Branch}
    (h : branch.EndsBefore offset) (hle : offset ≤ offset') : branch.EndsBefore offset' :=
  ⟨Nat.lt_of_lt_of_le h.1 hle, Nat.lt_of_lt_of_le h.2 hle⟩

theorem tracks_stateBehind (defined : List Text) (front : List Text) :
    Tracks defined 0 (openLines (controlLines defined front))
      (stateBehind defined front).branches := by
  have hnil : Tracks defined 0 (openLines []) LexState.initial.branches := .nil
  exact (hnil.run 1 0 front).1

theorem lexLines_getElem? (defined : List Text) (front back : List Text) (raw : Text) :
    (lexLines defined .initial 1 0 (front ++ raw :: back)).lines[front.length]? =
      some (Line.ofPieces (1 + front.length) (rawSize front)
        (lexLine defined (stateBehind defined front) (rawSize front)
          (withoutReturn raw)).pieces) := by
  rw [lexLines_append]
  simp [lexLines, lexLines_length, stateBehind]

/-- Whether a problem is about conditional branches. -/
def LexCause.isConditional : LexCause → Bool
  | .openComment | .openString => false
  | _ => true

theorem BranchLine.fault?_cause {defined : List Text} {opens : List OpenLine} {line : BranchLine}
    {cause : LexCause} (h : line.fault? defined opens = some cause) :
    cause.isConditional = true ∧ cause.severity = .error := by
  unfold fault? at h
  split at h
  next =>
    split at h
    next =>
      split at h
      next => cases h; exact ⟨rfl, rfl⟩
      next => cases h
    next => cases h
  next =>
    split at h
    next => cases h; exact ⟨rfl, rfl⟩
    next =>
      split at h
      next => cases h; exact ⟨rfl, rfl⟩
      next => cases h
  next =>
    split at h
    next => cases h; exact ⟨rfl, rfl⟩
    next => cases h

theorem controlProblems_cause {defined : List Text} {before controls : List ControlLine} :
    ∀ problem ∈ controlProblems defined before controls,
      problem.cause.isConditional = true ∧ problem.cause.severity = .error := by
  induction controls generalizing before with
  | nil => simp [controlProblems]
  | cons control more ih =>
      refine List.forall_mem_append.mpr ⟨?_, ih⟩
      intro problem hproblem
      obtain ⟨cause, hcause, rfl⟩ := List.mem_map.mp hproblem
      exact BranchLine.fault?_cause (Option.mem_toList.mp hcause)

end Literate
