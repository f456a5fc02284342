import Literate.Proofs.Script.OpenEnd

/-!
# Where problems are reported

Every problem of a script is reported at a text of the script that lies on one line: the mark of
the comment, or the first character of the string, that is open at the end, and otherwise a
controlling line without the blanks around it. The spans are kept while lexing goes on, so for
each of them the line or the place is found where it was made.
-/

namespace Literate

/-! ## Spans on a line -/

/-- A span over a text of a source that is not empty and lies on one line. -/
structure Span.Shows (span : Span) (source t : Text) : Prop where
  standsAt : StandsAt source span t
  start_lt_stop : span.start < span.stop
  stop_le : span.stop ≤ Text.byteSize source
  liesOn : ∃ front raw back, physicalLines source = front ++ raw :: back ∧
    span.LiesOn (rawSize front) (Text.byteSize (withoutReturn raw))

theorem StandsAt.stop_le {source t : Text} {span : Span} (h : StandsAt source span t) :
    span.stop ≤ Text.byteSize source := by
  obtain ⟨before, after, rfl, hstart, hstop⟩ := h
  simp only [Text.byteSize_append]
  omega

/-- A part of the text of a line is shown at its offset. -/
theorem Span.shows_of_line {source : Text} {front back : List Text} {raw lead t tail : Text}
    (hlines : physicalLines source = front ++ raw :: back)
    (htext : withoutReturn raw = lead ++ (t ++ tail)) (hne : t ≠ []) {span : Span}
    (hstart : span.start = rawSize front + Text.byteSize lead)
    (hstop : span.stop = span.start + Text.byteSize t) : span.Shows source t := by
  have hpos := byteSize_pos hne
  obtain ⟨before, after, hsource, hsize⟩ := (hlines ▸ physicalLines_breaks source).split
  have hraw := withoutReturn_append raw
  rw [htext] at hraw
  have hstands : StandsAt source span t := by
    refine ⟨before ++ lead, tail ++ ((if raw.getLast? = some '\r' then ['\r'] else []) ++ after),
      ?_, ?_, hstop⟩
    · rw [hsource]
      conv_lhs => rw [hraw]
      simp only [List.append_assoc]
    · rw [Text.byteSize_append, hstart, hsize]
  refine ⟨hstands, by omega, hstands.stop_le, front, raw, back, hlines, ?_⟩
  have hbytes := congrArg Text.byteSize htext
  simp only [Text.byteSize_append] at hbytes
  rw [LiesOn]
  omega

theorem shows_trimmedSpan {source : Text} {front back : List Text} {raw : Text}
    (hlines : physicalLines source = front ++ raw :: back)
    (hne : Text.trim (withoutReturn raw) ≠ []) :
    (trimmedSpan (rawSize front) (withoutReturn raw)).Shows source
      (Text.trim (withoutReturn raw)) := by
  have htext := Text.takeWhile_append_trim_append (withoutReturn raw)
  exact Span.shows_of_line hlines htext.symm hne rfl rfl

/-- A controlling line is not blank. -/
theorem BranchLine.trim_ne_nil {t : Text} {line : BranchLine} (h : ofText? t = some line) :
    Text.trim t ≠ [] := by
  intro hnil
  rw [BranchLine.ofText?_of_trim_eq_nil hnil] at h
  cases h

/-! ## Lines and problems -/

section Lines

variable {defined raws : List Text}

/-- A problem that lexing some lines finds is found on one of them. -/
theorem exists_line_of_problem {problem : LexProblem}
    (h : problem ∈ (lexLines defined .initial 1 0 raws).problems) :
    ∃ front raw back, raws = front ++ raw :: back ∧
      problem ∈ (lexedAt defined front raw).problems := by
  induction raws using List.reverseRecOn with
  | nil => cases h
  | append_singleton init last ih =>
      rw [lexLines_concat] at h
      rcases List.mem_append.mp h with hinit | hlast
      · obtain ⟨front, raw, back, rfl, hproblem⟩ := ih hinit
        exact ⟨front, raw, back ++ [last], by simp, hproblem⟩
      · exact ⟨init, last, [], rfl, hlast⟩

/-- Lexing a line reports what is wrong with it as a controlling line. -/
theorem exists_control_of_problem {front : List Text} {raw : Text} {problem : LexProblem}
    (h : problem ∈ (lexedAt defined front raw).problems) :
    ∃ control, ControlLine.ofLine? (stateBehind defined front).mode (rawSize front)
        (withoutReturn raw) = some control ∧ problem.span = control.span ∧
      control.line.fault? defined (openLines (controlLines defined front)) =
        some problem.cause := by
  rw [lexedAt] at h
  cases hcontrol : ControlLine.ofLine? (stateBehind defined front).mode (rawSize front)
      (withoutReturn raw) with
  | none =>
      rw [(lexLine_of_not_control defined hcontrol).1] at h
      cases h
  | some control =>
      rw [lexLine_of_control hcontrol] at h
      simp only [(tracks_stateBehind defined front).problems_eq control] at h
      obtain ⟨cause, hcause, rfl⟩ := List.mem_map.mp h
      exact ⟨control, rfl, rfl, Option.mem_toList.mp hcause⟩

theorem controlLinesFrom_append (state : LexState) (number offset : Nat) (front back : List Text) :
    controlLinesFrom defined state offset (front ++ back) =
      controlLinesFrom defined state offset front ++
        controlLinesFrom defined (lexLines defined state number offset front).after
          (offset + rawSize front) back := by
  induction front generalizing state number offset with
  | nil => rfl
  | cons raw front ih =>
      rw [List.cons_append, controlLinesFrom, ih _ (number + 1), controlLinesFrom, lexLines]
      simp only [rawSize_cons, List.append_assoc, Nat.add_assoc]

theorem controlLines_concat (defined init : List Text) (last : Text) :
    controlLines defined (init ++ [last]) = controlLines defined init ++
      (ControlLine.ofLine? (stateBehind defined init).mode (rawSize init)
        (withoutReturn last)).toList := by
  rw [controlLines, controlLinesFrom_append .initial 1, Nat.zero_add]
  simp only [controlLinesFrom, List.append_nil]
  rfl

/-- A line that is open behind some lines is one of them. -/
theorem exists_line_of_open {opened : OpenLine}
    (h : opened ∈ openLines (controlLines defined raws)) :
    ∃ front raw back, raws = front ++ raw :: back ∧
      ControlLine.ofLine? (stateBehind defined front).mode (rawSize front) (withoutReturn raw) =
        some ⟨opened.span, .opens opened.condition⟩ := by
  -- Either the last line opens it, or it was open before and has kept its span and its condition.
  induction raws using List.reverseRecOn generalizing opened with
  | nil => cases h
  | append_singleton init last ih =>
      rw [controlLines_concat] at h
      cases hcontrol : ControlLine.ofLine? (stateBehind defined init).mode (rawSize init)
          (withoutReturn last) with
      | none =>
          rw [hcontrol, Option.toList_none, List.append_nil] at h
          obtain ⟨front, raw, back, rfl, hline⟩ := ih h
          exact ⟨front, raw, back ++ [last], by simp, hline⟩
      | some control =>
          rw [hcontrol, Option.toList_some, mem_openLines_append_singleton] at h
          obtain hlast | ⟨earlier, hearlier, hafter⟩ := h
          · obtain ⟨rfl, -, -⟩ := ControlLine.opened?_eq_some_iff.mp hlast
            exact ⟨init, last, [], rfl, hcontrol⟩
          · obtain ⟨hspan, hcondition, -⟩ := OpenLine.of_after? hafter
            obtain ⟨front, raw, back, rfl, hline⟩ := ih hearlier
            exact ⟨front, raw, back ++ [last], by simp, by rw [hspan, hcondition]; exact hline⟩

end Lines

/-! ## Scripts -/

/-- What a problem of a script is about, and the text that it is shown at. -/
inductive LexProblem.Reports (defined : List Text) (source : Text) : LexProblem → Text → Prop where
  /-- A comment that is opened in code and has no end in the text ahead. -/
  | openComment {place : Place} {body : Text} {span : Span} (hcode : place.InCode defined source)
      (hrest : place.rest = ['(', '*'] ++ body) (hopens : Opens (.comment 1) ['(', '*'] body)
      (hopen : ∀ inner behind, textAhead body place.back = inner ++ behind →
        ¬ (Opened.comment 1).Closes inner behind) (hspan : span.start = place.offset) :
      Reports defined source ⟨.openComment, span⟩ ['(', '*']
  /-- A string that is opened in code and has no end in the text ahead. -/
  | openString {place : Place} {kind : StringKind} {first : Char} {mark body : Text} {span : Span}
      (hcode : place.InCode defined source) (hrest : place.rest = first :: mark ++ body)
      (hopens : Opens (.string kind) (first :: mark) body)
      (hopen : ∀ inner behind, textAhead body place.back = inner ++ behind →
        ¬ (Opened.string kind).Closes inner behind) (hspan : span.start = place.offset)
      (hfirst : first = '"' ∨ first = '@') :
      Reports defined source ⟨.openString, span⟩ [first]
  /-- A controlling line that is wrong where it stands. -/
  | control {front back : List Text} {raw : Text} {control : ControlLine} {cause : LexCause}
      (hlines : physicalLines source = front ++ raw :: back)
      (hcontrol : ControlLine.ofLine? (stateBehind defined front).mode (rawSize front)
        (withoutReturn raw) = some control)
      (hfault : control.line.fault? defined (openLines (controlLines defined front)) =
        some cause) :
      Reports defined source ⟨cause, control.span⟩ (Text.trim (withoutReturn raw))
  /-- An opening line that is open at the end. -/
  | openBranch {front back : List Text} {raw : Text} {opened : OpenLine}
      (hlines : physicalLines source = front ++ raw :: back)
      (hcontrol : ControlLine.ofLine? (stateBehind defined front).mode (rawSize front)
        (withoutReturn raw) = some ⟨opened.span, .opens opened.condition⟩)
      (hopen : opened ∈ openLines (controlLines defined (physicalLines source))) :
      Reports defined source ⟨.openBranch, opened.span⟩ (Text.trim (withoutReturn raw))

/-- The mark of a string begins with a quote or an at sign. -/
theorem Opens.string_first {kind : StringKind} {opener body : Text}
    (h : Opens (.string kind) opener body) :
    ∃ first mark, opener = first :: mark ∧ (first = '"' ∨ first = '@') := by
  cases h with
  | triple => exact ⟨'"', ['"', '"'], rfl, .inl rfl⟩
  | verbatim => exact ⟨'@', ['"'], rfl, .inr rfl⟩
  | regular => exact ⟨'"', [], rfl, .inl rfl⟩

section Source

variable {defined : List Text} {source : Text}

theorem shows_of_control {front back : List Text} {raw : Text} {control : ControlLine}
    (hlines : physicalLines source = front ++ raw :: back)
    (hcontrol : ControlLine.ofLine? (stateBehind defined front).mode (rawSize front)
      (withoutReturn raw) = some control) :
    control.span.Shows source (Text.trim (withoutReturn raw)) := by
  rw [ControlLine.span_of_ofLine? hcontrol]
  refine shows_trimmedSpan hlines ?_
  rw [ControlLine.mode_of_ofLine? hcontrol] at hcontrol
  obtain ⟨line, hline, -⟩ := Option.map_eq_some_iff.mp hcontrol
  exact BranchLine.trim_ne_nil hline

/-- A text that stands at a place in code is shown there. -/
theorem Place.InCode.shows {place : Place} {t tail : Text} (hcode : place.InCode defined source)
    (hrest : place.rest = t ++ tail) (hne : t ≠ []) :
    (Span.mk place.offset (place.offset + Text.byteSize t)).Shows source t := by
  have htext := hcode.reaches.append_eq
  rw [hrest] at htext
  exact Span.shows_of_line hcode.lines_eq htext.symm hne rfl rfl

/-- What is reported at the end is what is open there, and the branches that are. -/
theorem LexState.mem_endProblems {state : LexState} {size : Nat} {problem : LexProblem}
    (h : problem ∈ state.endProblems size) :
    problem ∈ (LexState.mk state.mode []).endProblems size ∨
      ∃ branch ∈ state.branches, problem = ⟨.openBranch, branch.span⟩ := by
  rcases List.mem_append.mp h with hmode | hopen
  · exact .inl (List.mem_append_left _ hmode)
  · obtain ⟨branch, hbranch, heq⟩ := List.mem_map.mp hopen
    exact .inr ⟨branch, List.mem_reverse.mp hbranch, heq.symm⟩

/-- What is reported about a comment or a string that is open at the end is its mark, of a string
the first character of it. -/
theorem reports_of_mode {mode : LexMode}
    (hmode : (stateBehind defined (physicalLines source)).mode = mode) {problem : LexProblem}
    (h : problem ∈ (LexState.mk mode []).endProblems (Text.byteSize source)) :
    ∃ t, problem.Reports defined source t ∧ problem.span.Shows source t := by
  cases mode with
  | code => cases h
  | comment depth start =>
      have hopened : (stateBehind defined (physicalLines source)).mode =
          (Opened.comment depth).mode start := hmode
      obtain ⟨place, opener, body, opened, hcode, rfl, hrest, hopens, hsame, hopen⟩ :=
        exists_place_of_mode hopened
      cases hopens with
      | comment hhead =>
          have hshows := hcode.shows hrest (by simp)
          obtain rfl : problem = ⟨.openComment, ⟨place.offset, place.offset + 2⟩⟩ := by
            have hle : place.offset + 2 ≤ Text.byteSize source := hshows.stop_le
            simpa [LexState.endProblems, Nat.min_eq_left hle] using h
          exact ⟨_, .openComment hcode hrest (.comment hhead) hopen rfl, hshows⟩
      | triple => exact hsame.elim
      | verbatim => exact hsame.elim
      | regular => exact hsame.elim
  | string kind start =>
      have hopened : (stateBehind defined (physicalLines source)).mode =
          (Opened.string kind).mode start := hmode
      obtain ⟨place, opener, body, opened, hcode, rfl, hrest, hopens, hsame, hopen⟩ :=
        exists_place_of_mode hopened
      cases opened with
      | comment depth => exact hsame.elim
      | string begun =>
          -- The span is one byte, so it has to end behind the first character of the mark.
          obtain ⟨first, mark, rfl, hfirst⟩ := hopens.string_first
          have hshows : (Span.mk place.offset (place.offset + Text.byteSize [first])).Shows source
              [first] := hcode.shows hrest (by simp)
          have hsize : Text.byteSize [first] = 1 := by rcases hfirst with rfl | rfl <;> decide
          rw [hsize] at hshows
          obtain rfl : problem = ⟨.openString, ⟨place.offset, place.offset + 1⟩⟩ := by
            have hle : place.offset + 1 ≤ Text.byteSize source := hshows.stop_le
            simpa [LexState.endProblems, Nat.min_eq_left hle] using h
          exact ⟨_, .openString hcode hrest hopens hopen rfl hfirst, hshows⟩

/-- Every problem of a script is reported at a text on one line that is what the problem is
about. -/
theorem lexSource_reports {problem : LexProblem} (h : problem ∈ (lexSource defined source).2) :
    ∃ t, problem.Reports defined source t ∧ problem.span.Shows source t := by
  obtain ⟨cause, span⟩ := problem
  rcases List.mem_append.mp h with hline | hend
  · obtain ⟨front, raw, back, hlines, hproblem⟩ := exists_line_of_problem hline
    obtain ⟨control, hcontrol, rfl, hfault⟩ := exists_control_of_problem hproblem
    exact ⟨_, .control hlines hcontrol hfault, shows_of_control hlines hcontrol⟩
  · obtain hmode | ⟨branch, hbranch, heq⟩ := LexState.mem_endProblems hend
    · exact reports_of_mode rfl hmode
    · -- The stack of branches has the spans of the lines that are open.
      obtain ⟨rfl, rfl⟩ := LexProblem.mk.inj heq
      have hspans := (tracks_stateBehind defined (physicalLines source)).map_span
      have hspan : branch.span ∈ (openLines (controlLines defined (physicalLines source))).map
          (·.span) := hspans ▸ List.mem_map_of_mem hbranch
      obtain ⟨opened, hopened, hsame⟩ := List.mem_map.mp hspan
      obtain ⟨front, raw, back, hlines, hcontrol⟩ := exists_line_of_open hopened
      rw [← hsame]
      exact ⟨_, .openBranch hlines hcontrol hopened, shows_of_control hlines hcontrol⟩

end Source

end Literate
