import Literate.Proofs.Script.Recoding

/-!
# Sources one behind the other

What one line hands to the next is a comment or a string that is still open, and the open
branches. A source that ends with a line feed and leaves nothing open therefore has no effect on
a source behind it, which is lexed as it is on its own, only further on.
-/

namespace Literate

/-- Whether a problem is about something that is open where a source ends. -/
def LexCause.isUnfinished : LexCause → Bool
  | .openComment | .openString | .openBranch => true
  | _ => false

/-- A tokenized source some lines and some bytes further on. -/
def Tokenized.moved (lines bytes : Nat) (unit : Tokenized) : Tokenized :=
  ⟨unit.lines.map (·.moved lines bytes), unit.diagnostics.map (·.relocate (· + bytes))⟩

/-- A tokenized source with another one behind it. -/
def Tokenized.append (first second : Tokenized) : Tokenized :=
  ⟨first.lines ++ second.lines, first.diagnostics ++ second.diagnostics⟩

namespace LexState

theorem endProblems_unfinished (state : LexState) (size : Nat) :
    ∀ problem ∈ state.endProblems size, problem.cause.isUnfinished = true := by
  obtain ⟨mode, branches⟩ := state
  have hbranches : ∀ problem ∈ branches.reverse.map fun branch =>
      LexProblem.mk .openBranch branch.span, problem.cause.isUnfinished = true := by
    intro problem hproblem
    obtain ⟨branch, -, rfl⟩ := List.mem_map.mp hproblem
    rfl
  cases mode with
  | code => exact hbranches
  | comment depth start => exact List.forall_mem_cons.mpr ⟨rfl, hbranches⟩
  | string kind start => exact List.forall_mem_cons.mpr ⟨rfl, hbranches⟩

/-- Where nothing is reported at the end of a source, nothing is open there. -/
theorem eq_initial_of_endProblems {state : LexState} {size : Nat}
    (h : state.endProblems size = []) : state = .initial := by
  obtain ⟨mode, branches⟩ := state
  obtain ⟨hmode, hbranches⟩ := List.append_eq_nil_iff.mp h
  obtain rfl : branches = [] := by simpa using hbranches
  cases mode with
  | code => rfl
  | comment depth start => cases hmode
  | string kind start => cases hmode

end LexState

variable {defined : List Text} {front back : Text}

/-- A source without problems about open things is lexed to the state that lexing begins in. -/
theorem stateBehind_of_finished {source : Text}
    (h : ∀ problem ∈ (lexSource defined source).2, problem.cause.isUnfinished = false) :
    stateBehind defined (physicalLines source) = .initial ∧
      (lexSource defined source).2 =
        (lexLines defined .initial 1 0 (physicalLines source)).problems := by
  have hend : (stateBehind defined (physicalLines source)).endProblems
      (Text.byteSize source) = [] := by
    rw [List.eq_nil_iff_forall_not_mem]
    intro problem hproblem
    have hunfinished := LexState.endProblems_unfinished _ _ problem hproblem
    rw [h problem (List.mem_append_right _ hproblem)] at hunfinished
    cases hunfinished
  refine ⟨LexState.eq_initial_of_endProblems hend, ?_⟩
  exact (congrArg _ hend).trans (List.append_nil _)

/-- At the end of a source that was moved, the same is reported further on. -/
theorem endProblems_moved (defined : List Text) (source : Text) (bytes : Nat) :
    ((stateBehind defined (physicalLines source)).relocate (· + bytes)).endProblems
        (bytes + Text.byteSize source) =
      ((stateBehind defined (physicalLines source)).endProblems (Text.byteSize source)).map
        (·.relocate (· + bytes)) := by
  apply LexState.endProblems_relocate
  intro span hspan
  have hsize := opener_le_size hspan
  have hle := LexMode.opener?_le hspan
  exact ⟨hsize, by omega, by omega⟩

/-- Behind a source that ends with a line feed and leaves nothing open, a source is lexed as it
is on its own. -/
theorem lexSource_append (hfront : front.getLast? = some '\n') (hback : back ≠ [])
    (hfinished : ∀ problem ∈ (lexSource defined front).2, problem.cause.isUnfinished = false) :
    lexSource defined (front ++ back) =
      ((lexSource defined front).1 ++ (lexSource defined back).1.map
          (·.moved (lexSource defined front).1.length (Text.byteSize front)),
        (lexSource defined front).2 ++ (lexSource defined back).2.map
          (·.relocate (· + Text.byteSize front))) := by
  obtain ⟨hstate, hproblems⟩ := stateBehind_of_finished hfinished
  rw [stateBehind] at hstate
  have hsize : rawSize (physicalLines front) = Text.byteSize front := by
    rw [← byteSize_feedLines, feedLines_physicalLines hfront]
  have hlength : (lexSource defined front).1.length = (physicalLines front).length :=
    lexLines_length _ _ _ _ _
  -- The lines behind are lexed from the initial state, which is itself at every place.
  have hrun : lexLines defined .initial (1 + (physicalLines front).length)
      (0 + Text.byteSize front) (physicalLines back) =
        (lexLines defined .initial 1 0 (physicalLines back)).moved (physicalLines front).length
          (Text.byteSize front) := lexLines_moved _ _ _ .initial _ _ _
  have hend := endProblems_moved defined back (Text.byteSize front)
  rw [hproblems, hlength]
  simp only [lexSource, physicalLines_append hfront hback, lexLines_append, hstate, hsize, hrun,
    Text.byteSize_append]
  simp only [LexRun.moved, List.map_append]
  rw [stateBehind] at hend
  rw [hend, List.append_assoc]

/-- Lexing goes part by part at a line feed behind which nothing is open: the lines and the
diagnostics of two sources one behind the other are those of the first, and those of the second
moved by the lines and the bytes of the first. -/
theorem tokenize_append (request : SourceRequest)
    (hfront : front.getLast? = some '\n') (hback : back ≠ [])
    (hfinished : ∀ problem ∈
      (lexSource (definedSymbols request.defines request.compilerOptions) front).2,
      problem.cause.isUnfinished = false) :
    let first := tokenize { request with source := front }
    let second := tokenize { request with source := back }
    tokenize { request with source := front ++ back } =
      first.append (second.moved first.lines.length (Text.byteSize front)) := by
  simp only [tokenize, lexSource_append hfront hback hfinished, Tokenized.append, Tokenized.moved,
    List.map_append, List.map_map]
  rfl

/-- Two lines that close nothing: the first one leaves an error and no open branch. -/
theorem tokenize_append_stray :
    ((tokenize ⟨"#else\r\n#endif".toList, 4, [], []⟩).lines.map Line.number,
      (tokenize ⟨"#else\r\n#endif".toList, 4, [], []⟩).diagnostics.map Diagnostic.span) =
        ([1, 2], [⟨0, 5⟩, ⟨7, 13⟩]) := by
  have hfront : "#else\r\n".toList.getLast? = some '\n' := by decide
  have hback : "#endif".toList ≠ [] := by decide
  have happend := tokenize_append ⟨[], 4, [], []⟩ hfront hback (by decide)
  have hlines := congrArg (·.lines.map Line.number) happend
  have hspans := congrArg (·.diagnostics.map Diagnostic.span) happend
  exact Prod.ext hlines hspans

end Literate
