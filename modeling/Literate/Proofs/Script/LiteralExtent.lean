import Literate.Proofs.Script.LiteralEnd
import Literate.Proofs.Script.LiteralLine

/-!
# The extent of comments and strings

A comment or a string that is opened in code reaches as far as it ends in all the text ahead,
however many lines that takes: up to there its pieces cover everything but line terminators, no
line is code or controls branches, and there the lexer is in code again. If it has no end in the
text ahead, all this is so up to the end of the script, and that is reported.
-/

namespace Literate

/-! ## The lines behind the one that opens -/

/-- What is open in front of some lines is what lexing starts them in and ends them in. -/
theorem Opened.Through.lexLines_after {opened last : Opened} {raws : List Text}
    (h : opened.Through raws last) (defined : List Text) (branches : List Branch)
    (start number offset : Nat) :
    (lexLines defined ⟨opened.mode start, branches⟩ number offset raws).after =
      ⟨last.mode start, branches⟩ := by
  induction h generalizing number offset with
  | nil => rfl
  | @cons opened reached last raw raws hscan h ih =>
      have hordinary : (LexState.mk (opened.mode start) branches).IsOrdinaryFor
          (withoutReturn raw) := fun hcode => absurd hcode (opened.mode_ne_code start)
      rw [lexLines]
      simp only [lexLine_ordinary hordinary, linePieces_mode, hscan]
      exact ih _ _

section Behind

variable {defined : List Text} {source : Text} {start : Place} {opened reached : Opened}
  {opener body : Text} (hcode : start.InCode defined source) (hrest : start.rest = opener ++ body)
  (hopens : Opens opened opener body) (hscan : opened.scan body = .unclosed reached)

include hcode hrest hopens hscan

/-- The lines up to one that closes a construct start in the construct. -/
theorem stateBehind_mode {last : Opened} {mid : List Text} (h : reached.Through mid last) :
    (stateBehind defined (start.front ++ start.raw :: mid)).mode = last.mode start.offset := by
  obtain ⟨pieces, -, hlexed⟩ := hcode.lexedAt_eq
  rw [hrest, hopens.codePieces_eq, hscan] at hlexed
  have hafter := congrArg LexedLine.after hlexed
  simp only [lexedAt] at hafter
  rw [stateBehind_append, lexLines]
  simp only [hafter, h.lexLines_after]

/-- A line that starts in a construct, behind the line that opens it. -/
theorem literalLine_inside {last : Opened} {mid : List Text} (h : reached.Through mid last)
    {raw : Text} {stop : Nat} (hends : last.EndsAt (withoutReturn raw)
      (rawSize (start.front ++ start.raw :: mid)) stop) :
    LiteralLine defined start opened opener body stop (start.front ++ start.raw :: mid) raw := by
  have hsize := hcode.size_eq
  have hraw := byteSize_withoutReturn_le start.raw
  refine .inside (h.sameAs.trans (Opened.scan_unclosed_sameAs hscan))
    (stateBehind_mode hcode hrest hopens hscan h) ?_ hends
  rw [Place.offset, rawSize_append, rawSize_cons]
  omega

/-- The lines of a script that never closes a construct. -/
theorem literalLine_of_unclosed {last : Opened} (h : reached.Through start.back last)
    (stop : Nat) {front back : List Text} {raw : Text}
    (hraws : physicalLines source = front ++ raw :: back) :
    LiteralLine defined start opened opener body stop front raw := by
  rcases lines_cases (hcode.lines_eq.symm.trans hraws) with
    ⟨mid, hfront⟩ | ⟨rfl, rfl, -⟩ | ⟨mid, rfl, hback⟩
  · refine .before ?_
    rw [hfront, rawSize_append, rawSize_cons]
    omega
  · exact .first rfl rfl (.of_unclosed hscan)
  · rw [hback] at h
    obtain ⟨between, hmid, hbehind⟩ := h.split
    cases hbehind with
    | cons hline _ => exact literalLine_inside hcode hrest hopens hscan hmid (.of_unclosed hline)

/-- The lines of a script that closes a construct on a line behind the one that opens it. -/
theorem literalLine_of_closed {last : Opened} {mid more : List Text} {closing inner behind : Text}
    (hstart : start.back = mid ++ closing :: more) (h : reached.Through mid last)
    (hclosing : last.scan (withoutReturn closing) = .closed inner behind)
    {front back : List Text} {raw : Text} (hraws : physicalLines source = front ++ raw :: back) :
    LiteralLine defined start opened opener body
      (rawSize (start.front ++ start.raw :: mid) + Text.byteSize inner) front raw := by
  rcases lines_cases (hcode.lines_eq.symm.trans hraws) with
    ⟨mid, hfront⟩ | ⟨rfl, rfl, -⟩ | ⟨mid', rfl, hback⟩
  · refine .before ?_
    rw [hfront, rawSize_append, rawSize_cons]
    omega
  · exact .first rfl rfl (.of_unclosed hscan)
  · rcases lines_cases (hstart.symm.trans hback) with ⟨rear, rfl⟩ | ⟨rfl, rfl, -⟩ | ⟨rear, rfl, -⟩
    · obtain ⟨between, hmid, hbehind⟩ := h.split
      cases hbehind with
      | cons hline _ =>
          exact literalLine_inside hcode hrest hopens hscan hmid (.of_unclosed hline)
    · exact literalLine_inside hcode hrest hopens hscan h (.of_closed hclosing)
    · refine .behind ?_
      have hinner := congrArg Text.byteSize (Opened.scan_closed_eq hclosing).1
      have hreturn := byteSize_withoutReturn_le closing
      rw [Text.byteSize_append] at hinner
      simp only [rawSize_append, rawSize_cons]
      omega

end Behind

/-- The lines of a script that closes a construct on the line that opens it. -/
theorem literalLine_of_closed_first {defined : List Text} {source : Text} {start : Place}
    {opened : Opened} {opener body inner behind : Text} (hcode : start.InCode defined source)
    (hrest : start.rest = opener ++ body) (hscan : opened.scan body = .closed inner behind)
    {front back : List Text} {raw : Text} (hraws : physicalLines source = front ++ raw :: back) :
    LiteralLine defined start opened opener body
      (start.offset + Text.byteSize opener + Text.byteSize inner) front raw := by
  rcases lines_cases (hcode.lines_eq.symm.trans hraws) with
    ⟨mid, hfront⟩ | ⟨rfl, rfl, -⟩ | ⟨mid, rfl, -⟩
  · refine .before ?_
    rw [hfront, rawSize_append, rawSize_cons]
    omega
  · exact .first rfl rfl (.of_closed hscan)
  · refine .behind ?_
    have hsize := hcode.size_eq
    have hraw := byteSize_withoutReturn_le start.raw
    have hinner := congrArg Text.byteSize (Opened.scan_closed_eq hscan).1
    rw [hrest, Text.byteSize_append] at hsize
    rw [Text.byteSize_append] at hinner
    simp only [Place.offset, rawSize_append, rawSize_cons]
    omega

/-! ## What is reported at the end -/

/-- The cause for a comment or a string that is open at the end of a script. -/
def Opened.cause : Opened → LexCause
  | .comment _ => .openComment
  | .string _ => .openString

theorem Opened.SameAs.cause_eq {opened opened' : Opened} (h : opened.SameAs opened') :
    opened.cause = opened'.cause := by
  cases opened <;> cases opened' <;> first | rfl | exact h.elim

theorem lexLines_conditional {defined : List Text} {raws : List Text} :
    ∀ problem ∈ (lexLines defined .initial 1 0 raws).problems,
      problem.cause.isConditional = true := by
  have hnil : Tracks defined 0 (openLines []) LexState.initial.branches := .nil
  rw [(hnil.run 1 0 raws).2]
  exact fun problem h => (controlProblems_cause problem h).1

/-- A construct that is open at the end is the only one that is reported, at its start. -/
theorem lexSource_unclosed {defined : List Text} {source : Text} {opened : Opened} {start : Nat}
    (hmode : (stateBehind defined (physicalLines source)).mode = opened.mode start) :
    ∃ stop, (lexSource defined source).2.filter (!·.cause.isConditional) =
      [⟨opened.cause, ⟨start, stop⟩⟩] := by
  have hlines : (lexLines defined .initial 1 0 (physicalLines source)).problems.filter
      (!·.cause.isConditional) = [] := by
    rw [List.filter_eq_nil_iff]
    intro problem hproblem
    simp [lexLines_conditional problem hproblem]
  unfold stateBehind at hmode
  rw [lexSource, List.filter_append, hlines, LexState.endProblems, hmode]
  cases opened with
  | comment depth =>
      refine ⟨min (start + 2) (Text.byteSize source), ?_⟩
      simp [Opened.mode, Opened.cause, LexCause.isConditional]
  | string kind =>
      refine ⟨min (start + 1) (Text.byteSize source), ?_⟩
      simp [Opened.mode, Opened.cause, LexCause.isConditional]

/-! ## One scan of the whole text -/

section Whole

variable {defined : List Text} {source : Text} {start : Place} {opened : Opened}
  {opener body : Text} (hcode : start.InCode defined source) (hrest : start.rest = opener ++ body)
  (hopens : Opens opened opener body)

include hcode hrest hopens

/-- A construct that one scan closes fills the script up to there. -/
theorem exists_stop_of_closed {inner behind : Text}
    (hscan : opened.scan (textAhead body start.back) = .closed inner behind) :
    ∃ stop : Place, stop.InCode defined source ∧ stop.ahead = behind ∧
      start.offset < stop.offset ∧ Fills defined source opened start.offset stop.offset := by
  obtain ⟨first, rest, hline, rfl⟩ | ⟨reached, mid, closing, more, last, first, rest, hline,
    hback, hthrough, hclosing, rfl⟩ := Opened.scan_ahead_closed hscan
  · have hpos := byteSize_pos hopens.opener_ne_nil
    let stop : Place := { start with lead := start.lead ++ (opener ++ first), rest := rest }
    have hstop : stop.offset = start.offset + Text.byteSize opener + Text.byteSize first := by
      simp only [stop, Place.offset, Text.byteSize_append, Nat.add_assoc]
    have hreaches := hopens.reaches hline
    rw [← hrest] at hreaches
    refine ⟨stop, ⟨hcode.lines_eq, hcode.ordinary, hcode.reaches.trans hreaches⟩, rfl, ?_, ?_⟩
    · rw [hstop]
      omega
    · rw [hstop]
      exact fills_of_lines hcode hrest hopens fun front raw back hraws =>
        literalLine_of_closed_first hcode hrest hline hraws
  · have hmode := stateBehind_mode hcode hrest hopens hline hthrough
    have hsize := hcode.size_eq
    have hraw := byteSize_withoutReturn_le start.raw
    let stop : Place := ⟨start.front ++ start.raw :: mid, closing, more, first, rest⟩
    have hreaches := LexMode.Reaches.behind hmode hclosing .here
    rw [List.append_nil] at hreaches
    refine ⟨stop, ⟨?_, ?_, hreaches⟩, rfl, ?_, ?_⟩
    · rw [hcode.lines_eq, hback]
      simp [stop]
    · exact fun hcode => absurd (hmode.symm.trans hcode) (last.mode_ne_code _)
    · simp only [stop, Place.offset, rawSize_append, rawSize_cons]
      omega
    · exact fills_of_lines hcode hrest hopens fun front raw back hraws =>
        literalLine_of_closed hcode hrest hopens hline hback hthrough hclosing hraws

/-- A construct that one scan does not close fills the script up to its end. -/
theorem fills_of_unclosed {last : Opened}
    (hscan : opened.scan (textAhead body start.back) = .unclosed last) :
    Fills defined source opened start.offset (Text.byteSize source + 1) ∧
      ∃ stop, (lexSource defined source).2.filter (!·.cause.isConditional) =
        [⟨opened.cause, ⟨start.offset, stop⟩⟩] := by
  obtain ⟨reached, hline, hthrough⟩ := Opened.scan_ahead_unclosed hscan
  have hmode := stateBehind_mode hcode hrest hopens hline hthrough
  rw [← hcode.lines_eq] at hmode
  have hsame := hthrough.sameAs.trans (Opened.scan_unclosed_sameAs hline)
  constructor
  · exact fills_of_lines hcode hrest hopens fun front raw back hraws =>
      literalLine_of_unclosed hcode hrest hopens hline hthrough _ hraws
  · rw [← hsame.cause_eq]
    exact lexSource_unclosed hmode

end Whole

/-- A comment or a string that is opened in code fills the script up to where it ends in all the
text ahead, and there the lexer is in code again. One that has no end there fills the script up to
the end of the script, and it alone is reported, a comment as a warning and a string as an
error. -/
theorem lexSource_literal_extent (defined : List Text) (source : Text) (start : Place)
    (opened : Opened) (opener body : Text) (hcode : start.InCode defined source)
    (hrest : start.rest = opener ++ body) (hopens : Opens opened opener body) :
    (∀ inner behind, textAhead body start.back = inner ++ behind → opened.Closes inner behind →
      ∃ stop : Place, stop.InCode defined source ∧ stop.GoesOnAsCode defined source ∧
        stop.ahead = behind ∧ start.offset < stop.offset ∧
        Fills defined source opened start.offset stop.offset) ∧
    ((∀ inner behind, textAhead body start.back = inner ++ behind →
        ¬ opened.Closes inner behind) →
      Fills defined source opened start.offset (Text.byteSize source + 1) ∧
      ∃ problem, (lexSource defined source).2.filter (!·.cause.isConditional) = [problem] ∧
        problem.cause = opened.cause ∧ problem.span.start = start.offset ∧
        problem.cause.severity = if opened.pieceKind = .comment then .warning else .error) := by
  constructor
  · intro inner behind hahead hcloses
    obtain ⟨stop, hstop, hbehind, hlt, hfills⟩ := exists_stop_of_closed hcode hrest hopens
      (hopens.scan_eq_closed_iff.mpr ⟨hahead, hcloses⟩)
    exact ⟨stop, hstop, hstop.goesOnAsCode, hbehind, hlt, hfills⟩
  · intro hnone
    obtain ⟨last, hscan⟩ := hopens.exists_scan_eq_unclosed hnone
    obtain ⟨hfills, stop, hreported⟩ := fills_of_unclosed hcode hrest hopens hscan
    refine ⟨hfills, _, hreported, rfl, rfl, ?_⟩
    cases opened <;> rfl

/-- A string that an escaped line end continues and a comment that is not closed, both with a
line that would control branches. -/
theorem lexSource_literal_extent_escaped :
    (∃ stop : Place, stop.InCode [] "\"a\\\r\n#if\" y".toList ∧ stop.ahead = " y".toList ∧
      Fills [] "\"a\\\r\n#if\" y".toList (.string .regular) 0 stop.offset) ∧
    Fills [] "(*(**)\n#if".toList (.comment 1) 0 11 := by
  have hstring : Place.InCode [] "\"a\\\r\n#if\" y".toList
      ⟨[], "\"a\\\r".toList, ["#if\" y".toList], [], "\"a\\".toList⟩ :=
    ⟨by decide, fun _ => by decide, .code rfl .here⟩
  have hcomment : Place.InCode [] "(*(**)\n#if".toList
      ⟨[], "(*(**)".toList, ["#if".toList], [], "(*(**)".toList⟩ :=
    ⟨by decide, fun _ => by decide, .code rfl .here⟩
  have hopens : Opens (.comment 1) ['(', '*'] "(**)".toList := .comment (by decide)
  constructor
  · obtain ⟨stop, hstop, -, hahead, -, hfills⟩ := (lexSource_literal_extent _ _ _
      (.string .regular) ['"'] "a\\".toList hstring rfl (.regular (by simp))).1
        "a\\\n#if\"".toList " y".toList rfl
        (.unit (.regular (by decide) (by decide)) (.unit (.escaped '\n')
          (.unit (.regular (by decide) (by decide)) (.unit (.regular (by decide) (by decide))
            (.unit (.regular (by decide) (by decide)) .quote)))))
    exact ⟨stop, hstop, hahead, hfills⟩
  · refine ((lexSource_literal_extent _ _ _ (.comment 1) ['(', '*'] "(**)".toList hcomment rfl
      hopens).2 ?_).1
    intro inner behind hahead hcloses
    cases hopens.scan_eq_closed_iff.mpr ⟨hahead, hcloses⟩

end Literate
