import Literate.Proofs.Script.Activity
import Literate.Proofs.Script.CodePlace
import Mathlib.Data.List.Induction

/-!
# Lexing a source with other lines

Two sources with the same number of lines are lexed alike when each line has the same text in
both, except for lines of disabled branches that control nothing. What is written down about
places moves with the lines.
-/

namespace Literate

/-! ## Lines at other places -/

/-- A token at another place of the source. Its line and column stay. -/
def Token.relocate (f : Nat → Nat) (token : Token) : Token :=
  { token with span := token.span.relocate f }

/-- A line at another place of the source. Its number stays. -/
def Line.relocate (f : Nat → Nat) (line : Line) : Line :=
  { line with tokens := line.tokens.map (·.relocate f), span := line.span.relocate f }

@[simp] theorem Line.pieces_relocate (f : Nat → Nat) (line : Line) :
    (line.relocate f).pieces = line.pieces := by
  simp only [pieces, relocate, List.map_map]
  rfl

theorem Piece.placed_relocate {f : Nat → Nat} {offset : Nat} {pieces : List Piece}
    (h : ShiftsOn f offset (Text.byteSize (textOf pieces))) (line column : Nat) :
    placed line (f offset) column pieces =
      (placed line offset column pieces).map (·.relocate f) := by
  induction pieces generalizing offset column with
  | nil => rfl
  | cons piece rest ih =>
      rw [textOf_cons, Text.byteSize_append] at h
      have hstop := h _ (Nat.le_add_right _ _)
      rw [placed, placed, List.map_cons, ← ih h.add, hstop]
      simp only [Token.relocate, Span.relocate, hstop]

theorem Line.ofPieces_relocate {f : Nat → Nat} {offset : Nat} {pieces : List Piece}
    (h : ShiftsOn f offset (Text.byteSize (Piece.textOf pieces))) (number : Nat) :
    ofPieces number (f offset) pieces = (ofPieces number offset pieces).relocate f := by
  simp only [ofPieces, relocate, Piece.placed_relocate h, Span.relocate, h _ (Nat.le_refl _)]

/-- A line at its new place. If there is a new text for its number, it is an inactive line of
that text. -/
def Line.recoded (texts : Nat → Option Text) (f : Nat → Nat) (line : Line) : Line :=
  match texts line.number with
  | none => line.relocate f
  | some t => ofPieces line.number (f line.span.start) (wholeLine .inactive t)

/-- A diagnostic at another place. -/
def Diagnostic.relocate (f : Nat → Nat) (d : Diagnostic) : Diagnostic :=
  { d with span := d.span.relocate f }

/-- A tokenized source whose lines are recoded. -/
def Tokenized.recoded (texts : Nat → Option Text) (f : Nat → Nat) (unit : Tokenized) :
    Tokenized :=
  ⟨unit.lines.map (·.recoded texts f), unit.diagnostics.map (·.relocate f)⟩

/-! ## The state behind some lines -/

theorem lexLines_concat (defined : List Text) (front : List Text) (raw : Text) :
    lexLines defined .initial 1 0 (front ++ [raw]) =
      let run := lexLines defined .initial 1 0 front
      let lexed := lexLine defined (stateBehind defined front) (rawSize front) (withoutReturn raw)
      ⟨run.lines ++ [Line.ofPieces (1 + front.length) (rawSize front) lexed.pieces],
        run.problems ++ lexed.problems, lexed.after⟩ := by
  rw [lexLines_append]
  simp [lexLines, stateBehind]

theorem stateBehind_concat (defined : List Text) (front : List Text) (raw : Text) :
    stateBehind defined (front ++ [raw]) =
      (lexLine defined (stateBehind defined front) (rawSize front) (withoutReturn raw)).after := by
  rw [stateBehind, lexLines_concat]

/-- A comment or a string goes on into a line only where lines are active. -/
def LexState.OpensActive (state : LexState) : Prop :=
  state.mode ≠ .code → isActive state.branches = true

theorem LexState.OpensActive.mode_eq {state : LexState} (h : state.OpensActive)
    (hinactive : isActive state.branches = false) : state.mode = .code := by
  cases hmode : state.mode with
  | code => rfl
  | comment depth start => simp [h (by simp [hmode])] at hinactive
  | string kind start => simp [h (by simp [hmode])] at hinactive

theorem lexLine_opensActive {state : LexState} (h : state.OpensActive) (defined : List Text)
    (offset : Nat) (t : Text) : (lexLine defined state offset t).after.OpensActive := by
  obtain ⟨mode, branches⟩ := state
  cases mode with
  | code =>
      intro hmode
      simp only [lexLine] at hmode ⊢
      split at hmode
      · exact absurd rfl hmode
      · split at hmode
        next hactive =>
          rw [if_pos hactive]
          exact hactive
        next => exact absurd rfl hmode
  | comment depth start => exact fun _ => h (by simp)
  | string kind start => exact fun _ => h (by simp)

theorem stateBehind_opensActive (defined : List Text) (front : List Text) :
    (stateBehind defined front).OpensActive := by
  induction front using List.reverseRecOn with
  | nil => exact fun hmode => absurd rfl hmode
  | append_singleton front raw ih =>
      rw [stateBehind_concat]
      exact lexLine_opensActive ih defined _ _

/-- In a disabled branch a line that controls nothing is one inactive piece. -/
theorem lexLine_of_disabled {state : LexState} (h : state.OpensActive)
    (hinactive : isActive state.branches = false) {t : Text} (ht : BranchLine.ofText? t = none)
    (defined : List Text) (offset : Nat) :
    lexLine defined state offset t = ⟨wholeLine .inactive t, [], state⟩ := by
  have hmode := h.mode_eq hinactive
  obtain ⟨mode, branches⟩ := state
  subst hmode
  simp only at hinactive
  simp [lexLine, ht, hinactive]

/-! ## Openers -/

/-- The place of the mark that opened what a line starts in. Of the marks of strings only the
first character counts. -/
def LexMode.opener? : LexMode → Option Span
  | .code => none
  | .comment _ start => some ⟨start, start + 2⟩
  | .string _ start => some ⟨start, start + 1⟩

theorem LexMode.opener?_relocate {f : Nat → Nat} {mode : LexMode} {span : Span}
    (h : mode.opener? = some span) : (mode.relocate f).opener? =
      some ⟨f span.start, f span.start + (span.stop - span.start)⟩ := by
  cases mode with
  | code => cases h
  | comment depth start =>
      cases h
      simp [relocate, opener?]
  | string kind start =>
      cases h
      simp [relocate, opener?]

/-- A span that lies on a stretch of the source. -/
def Span.LiesOn (span : Span) (offset size : Nat) : Prop :=
  offset ≤ span.start ∧ span.stop ≤ offset + size

/-- What code leaves open was opened in it. -/
theorem codePieces_opener {offset : Nat} {t : Text} {span : Span}
    (h : (codePieces offset t).2.opener? = some span) :
    span.LiesOn offset (Text.byteSize t) := by
  fun_induction codePieces offset t with
  | case1 => cases h
  | case2 offset c rest step opened hopened =>
      obtain ⟨begun, opener, body, hrest, hopens⟩ | hends := exists_opens_or_ends c rest
      · have hsize := congrArg Text.byteSize hrest
        rw [Text.byteSize_append] at hsize
        have hscan : begun.scan body = .unclosed opened := by
          have hstep : step = (begun.scan body).step begun.pieceKind opener body :=
            hopens.codeStep_eq hrest
          rw [hstep] at hopened
          cases hbegun : begun.scan body with
          | closed front behind =>
              rw [hbegun] at hopened
              cases hopened
          | unclosed reached =>
              rw [hbegun] at hopened
              exact congrArg _ (Option.some.inj hopened)
        have hsame := Opened.scan_unclosed_sameAs hscan
        have hmark : span.start = offset ∧ span.stop ≤ offset + Text.byteSize opener := by
          cases hopens <;> cases opened <;> first | exact hsame.elim | skip
          all_goals
            cases h
            simp [Char.utf8Size]
        rw [Span.LiesOn]
        omega
      · exact absurd (hends.opened_eq.symm.trans hopened) (by simp)
  | case3 offset c rest step hopened pieces mode hpieces ih =>
      have htext : Text.byteSize step.piece.text + Text.byteSize step.rest =
          Text.byteSize (c :: rest) := by
        rw [← Text.byteSize_append, (codeStep_covers c rest).1]
      rw [hpieces] at ih
      obtain ⟨hstart, hstop⟩ := ih h
      exact ⟨by omega, by omega⟩

theorem linePieces_opener {mode : LexMode} {offset : Nat} {t : Text} {span : Span}
    (h : (linePieces mode offset t).2.opener? = some span) :
    mode.opener? = some span ∨ span.LiesOn offset (Text.byteSize t) := by
  have behind : ∀ {front rest : Text}, t = front ++ rest →
      (codePieces (offset + Text.byteSize front) rest).2.opener? = some span →
      span.LiesOn offset (Text.byteSize t) := by
    rintro front rest rfl h
    obtain ⟨hstart, hstop⟩ := codePieces_opener h
    rw [Span.LiesOn, Text.byteSize_append]
    exact ⟨by omega, by omega⟩
  cases mode with
  | code => exact .inr (codePieces_opener h)
  | comment depth start =>
      simp only [linePieces] at h
      split at h
      next body rest hscan => exact .inr (behind (scanComment_closed hscan) h)
      next => exact .inl h
  | string kind start =>
      simp only [linePieces] at h
      split at h
      next split hscan => exact .inr (behind (scanString_split hscan) h)
      next => exact .inl h

theorem lexLine_opener {defined : List Text} {state : LexState} {offset : Nat} {t : Text}
    {span : Span} (h : (lexLine defined state offset t).after.mode.opener? = some span) :
    state.mode.opener? = some span ∨ span.LiesOn offset (Text.byteSize t) := by
  obtain ⟨mode, branches⟩ := state
  cases mode with
  | code =>
      simp only [lexLine] at h
      split at h
      · cases h
      · split at h
        · exact linePieces_opener h
        · cases h
  | comment depth start => exact linePieces_opener h
  | string kind start => exact linePieces_opener h

/-- What some lines leave open was opened on one of them. -/
theorem stateBehind_opener {defined raws : List Text} {span : Span}
    (h : (stateBehind defined raws).mode.opener? = some span) :
    ∃ front raw back, raws = front ++ raw :: back ∧
      span.LiesOn (rawSize front) (Text.byteSize (withoutReturn raw)) := by
  induction raws using List.reverseRecOn with
  | nil => cases h
  | append_singleton init last ih =>
      rw [stateBehind_concat] at h
      obtain hstate | hlast := lexLine_opener h
      · obtain ⟨front, raw, back, rfl, hspan⟩ := ih hstate
        exact ⟨front, raw, back ++ [last], by simp, hspan⟩
      · exact ⟨init, last, [], rfl, hlast⟩

/-! ## Two sources -/

/-- A way to rewrite physical lines, given their index. Lines keep their text, or they stand in a
disabled branch, control nothing, and get another text that controls nothing. A function moves
each place to the same distance from the start of its line. -/
structure Recodes (defined : List Text) (texts : Nat → Option Text) (f : Nat → Nat)
    (rewrite : Nat → Text → Text) (raws : List Text) : Prop where
  moves : ∀ front raw back, raws = front ++ raw :: back →
    ∀ j ≤ Text.byteSize (withoutReturn raw), f (rawSize front + j) =
      rawSize (front.mapIdx rewrite) + j
  keeps : ∀ front raw back, raws = front ++ raw :: back → texts (1 + front.length) = none →
    withoutReturn (rewrite front.length raw) = withoutReturn raw
  disabled : ∀ front raw back t, raws = front ++ raw :: back →
    texts (1 + front.length) = some t →
    withoutReturn (rewrite front.length raw) = t ∧
      isActive (stateBehind defined front).branches = false ∧
      BranchLine.ofText? (withoutReturn raw) = none ∧ BranchLine.ofText? t = none

/-- A run over lines that are recoded. -/
def LexRun.recoded (texts : Nat → Option Text) (f : Nat → Nat) (run : LexRun) : LexRun :=
  ⟨run.lines.map (·.recoded texts f), run.problems.map (·.relocate f), run.after.relocate f⟩

namespace Recodes

variable {defined raws : List Text} {texts : Nat → Option Text} {f : Nat → Nat}
  {rewrite : Nat → Text → Text}

theorem init {last : Text} (h : Recodes defined texts f rewrite (raws ++ [last])) :
    Recodes defined texts f rewrite raws where
  moves := by
    rintro front raw back rfl
    exact h.moves front raw (back ++ [last]) (by simp)
  keeps := by
    rintro front raw back rfl
    exact h.keeps front raw (back ++ [last]) (by simp)
  disabled := by
    rintro front raw back t rfl
    exact h.disabled front raw (back ++ [last]) t (by simp)

theorem shiftsOn {front back : List Text} {raw : Text}
    (h : Recodes defined texts f rewrite raws) (hraws : raws = front ++ raw :: back) :
    f (rawSize front) = rawSize (front.mapIdx rewrite) ∧
      ShiftsOn f (rawSize front) (Text.byteSize (withoutReturn raw)) := by
  have hmoves := h.moves front raw back hraws
  have hstart := hmoves 0 (Nat.zero_le _)
  simp only [Nat.add_zero] at hstart
  exact ⟨hstart, fun j hj => by rw [hmoves j hj, hstart]⟩

/-- One line, lexed behind the lines in front of it. -/
theorem lexLine_eq {front back : List Text} {raw : Text}
    (h : Recodes defined texts f rewrite raws) (hraws : raws = front ++ raw :: back) :
    let lexed := lexLine defined (stateBehind defined front) (rawSize front) (withoutReturn raw)
    let lexed' := lexLine defined ((stateBehind defined front).relocate f)
      (rawSize (front.mapIdx rewrite)) (withoutReturn (rewrite front.length raw))
    lexed'.problems = lexed.problems.map (·.relocate f) ∧
      lexed'.after = lexed.after.relocate f ∧
      Line.ofPieces (1 + front.length) (rawSize (front.mapIdx rewrite)) lexed'.pieces =
        (Line.ofPieces (1 + front.length) (rawSize front) lexed.pieces).recoded texts f := by
  obtain ⟨hstart, hshifts⟩ := h.shiftsOn hraws
  cases htext : texts (1 + front.length) with
  | none =>
      have hcut := lexLine_cut defined (stateBehind defined front) (rawSize front)
        (withoutReturn raw)
      have hline := Line.ofPieces_relocate (hcut.textOf_eq ▸ hshifts) (1 + front.length)
      simp only [h.keeps front raw back hraws htext, ← hstart, lexLine_relocate hshifts,
        LexedLine.relocate, hline, true_and]
      simp only [Line.recoded, Line.ofPieces, htext]
  | some t =>
      obtain ⟨rfl, hinactive, hraw, ht⟩ := h.disabled front raw back t hraws htext
      have hopens := stateBehind_opensActive defined front
      have hmode := hopens.mode_eq hinactive
      have hopens' : ((stateBehind defined front).relocate f).OpensActive := by
        intro hnot
        rw [LexState.relocate, hmode] at hnot
        exact absurd rfl hnot
      have hinactive' : isActive ((stateBehind defined front).relocate f).branches = false := by
        rw [LexState.relocate, isActive_relocate, hinactive]
      simp only [lexLine_of_disabled hopens hinactive hraw,
        lexLine_of_disabled hopens' hinactive' ht, List.map_nil, true_and]
      simp only [Line.recoded, Line.ofPieces, htext, hstart]

/-- Rewritten lines are lexed alike. -/
theorem lexLines_eq (h : Recodes defined texts f rewrite raws) :
    lexLines defined .initial 1 0 (raws.mapIdx rewrite) =
      (lexLines defined .initial 1 0 raws).recoded texts f := by
  induction raws using List.reverseRecOn with
  | nil => rfl
  | append_singleton init last ih =>
      have hinit := ih h.init
      have hafter : stateBehind defined (init.mapIdx rewrite) =
          (stateBehind defined init).relocate f := congrArg LexRun.after hinit
      obtain ⟨hproblems, hstate, hline⟩ := h.lexLine_eq rfl
      rw [List.mapIdx_concat]
      simp only [lexLines_concat, hinit, hafter, List.length_mapIdx, hproblems, hstate, hline]
      simp [LexRun.recoded]

end Recodes

theorem LexMode.opener?_le {mode : LexMode} {span : Span} (h : mode.opener? = some span) :
    span.start ≤ span.stop := by
  cases mode with
  | code => cases h
  | comment depth start =>
      cases h
      exact Nat.le_add_right _ _
  | string kind start =>
      cases h
      exact Nat.le_add_right _ _

theorem opener_le_size {defined : List Text} {source : Text} {span : Span}
    (h : (stateBehind defined (physicalLines source)).mode.opener? = some span) :
    span.stop ≤ Text.byteSize source := by
  obtain ⟨front, raw, back, hraws, -, hstop⟩ := stateBehind_opener h
  obtain ⟨before, after, hsource, hsize⟩ := (hraws ▸ physicalLines_breaks source).split
  have hraw := byteSize_withoutReturn_le raw
  have hbytes := congrArg Text.byteSize hsource
  simp only [Text.byteSize_append] at hbytes
  omega

/-- What is reported at the end moves along, when the marks of what is open move as a whole. -/
theorem LexState.endProblems_relocate {f : Nat → Nat} {state : LexState} {size size' : Nat}
    (h : ∀ span, state.mode.opener? = some span → span.stop ≤ size ∧
      f span.stop = f span.start + (span.stop - span.start) ∧ f span.stop ≤ size') :
    (state.relocate f).endProblems size' = (state.endProblems size).map (·.relocate f) := by
  obtain ⟨mode, branches⟩ := state
  have hbranches : (branches.map (·.relocate f)).reverse.map
      (fun branch => LexProblem.mk .openBranch branch.span) =
        (branches.reverse.map fun branch => LexProblem.mk .openBranch branch.span).map
          (·.relocate f) := by
    rw [← List.map_reverse, List.map_map, List.map_map]
    rfl
  simp only [endProblems, relocate, List.map_append, hbranches]
  cases mode with
  | code => rfl
  | comment depth start =>
      obtain ⟨hsize, hstop, hsize'⟩ := h _ rfl
      simp only [Nat.add_sub_cancel_left] at hsize hstop hsize'
      simp [LexMode.relocate, LexProblem.relocate, Span.relocate, Nat.min_eq_left hsize, hstop,
        Nat.min_eq_left (hstop ▸ hsize')]
  | string kind start =>
      obtain ⟨hsize, hstop, hsize'⟩ := h _ rfl
      simp only [Nat.add_sub_cancel_left] at hsize hstop hsize'
      simp [LexMode.relocate, LexProblem.relocate, Span.relocate, Nat.min_eq_left hsize, hstop,
        Nat.min_eq_left (hstop ▸ hsize')]

/-- A source with rewritten lines is lexed alike. -/
theorem Recodes.lexSource_eq {defined : List Text} {texts : Nat → Option Text} {f : Nat → Nat}
    {rewrite : Nat → Text → Text} {source source' : Text}
    (h : Recodes defined texts f rewrite (physicalLines source))
    (hraws : physicalLines source' = (physicalLines source).mapIdx rewrite) :
    lexSource defined source' = ((lexSource defined source).1.map (·.recoded texts f),
      (lexSource defined source).2.map (·.relocate f)) := by
  have hrun := h.lexLines_eq
  have hafter : stateBehind defined (physicalLines source') =
      (stateBehind defined (physicalLines source)).relocate f := by
    rw [hraws]
    exact congrArg LexRun.after hrun
  have hend : ∀ span, (stateBehind defined (physicalLines source)).mode.opener? = some span →
      span.stop ≤ Text.byteSize source ∧ f span.stop = f span.start + (span.stop - span.start) ∧
        f span.stop ≤ Text.byteSize source' := by
    intro span hspan
    have hle := LexMode.opener?_le hspan
    obtain ⟨front, raw, back, hsplit, hstart, hstop⟩ := stateBehind_opener hspan
    have hmoves := h.moves front raw back hsplit
    have hfstart := hmoves (span.start - rawSize front) (by omega)
    have hfstop := hmoves (span.stop - rawSize front) (by omega)
    rw [Nat.add_sub_cancel' (by omega)] at hfstart hfstop
    have hspan' : (stateBehind defined (physicalLines source')).mode.opener? =
        some ⟨f span.start, f span.start + (span.stop - span.start)⟩ := by
      rw [hafter]
      exact LexMode.opener?_relocate hspan
    have hsize' : f span.start + (span.stop - span.start) ≤ Text.byteSize source' :=
      opener_le_size hspan'
    exact ⟨opener_le_size hspan, by omega, by omega⟩
  rw [← hraws] at hrun
  have hproblems := LexState.endProblems_relocate hend
  unfold stateBehind at hproblems
  simp only [lexSource, hrun, LexRun.recoded, List.map_append, hproblems]

theorem Recodes.tokenize_eq (request : SourceRequest) {texts : Nat → Option Text} {f : Nat → Nat}
    {rewrite : Nat → Text → Text} {source' : Text}
    (h : Recodes (definedSymbols request.defines request.compilerOptions) texts f rewrite
      (physicalLines request.source))
    (hraws : physicalLines source' = (physicalLines request.source).mapIdx rewrite) :
    tokenize { request with source := source' } = (tokenize request).recoded texts f := by
  simp only [tokenize, h.lexSource_eq hraws, Tokenized.recoded, List.map_map]
  rfl

end Literate
