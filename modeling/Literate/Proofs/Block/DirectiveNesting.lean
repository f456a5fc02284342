import Literate.Proofs.Block.CodeBehind
import Literate.Proofs.Block.CommentExtent
import Literate.Proofs.Script.MarkBalance
import Literate.Proofs.Script.Ordinary
import Literate.Proofs.Script.Recoding
import Literate.Proofs.Text.Occurrence

/-!
# Directives and the nesting of comments

A directive is read from the text of its line, and the nesting of comments from the marks in that
text. The envelope of a directive is one opener and one closer, but the value of an option may hold
more marks. So a directive is a complete comment on its line exactly if the openers and closers in
its line are equal in number.
-/

namespace Literate

/-- Pieces of comments with white space between them. -/
def Piece.AllComments (pieces : List Piece) : Prop :=
  ∀ piece ∈ pieces, piece.kind = .comment ∨ piece.kind = .whitespace

namespace LexMode

/-- Whether a comment that is open is at least one deep. -/
def Proper : LexMode → Prop
  | .comment depth _ => 0 < depth
  | .code | .string _ _ => True

/-- How comments lead from one mode to another: the nesting deepens with the marks in front of a
line comment, which ends in code. -/
structure Nests (start stop : LexMode) (block tail : Text) : Prop where
  tail_cases : tail = [] ∨ ['/', '/'] <+: tail ∧ stop = .code
  depth_eq : (stop.depth : Int) = start.depth + deepening block
  code_iff : stop = .code ↔ stop.depth = 0

variable {start stop : LexMode} {block tail : Text}

theorem Nests.depth_eq_iff (h : start.Nests stop block tail) :
    stop.depth = start.depth ↔ deepening block = 0 := by
  have hdepth := h.depth_eq
  omega

theorem Nests.code_iff_of_code (h : start.Nests stop block tail) (hstart : start = .code) :
    stop = .code ↔ deepening block = 0 := by
  rw [h.code_iff, ← h.depth_eq_iff, hstart]
  rfl

theorem Nests.tail_eq_nil (h : start.Nests stop block tail)
    (hslashes : ¬ ['/', '/'] <:+: block ++ tail) : tail = [] := by
  rcases h.tail_cases with htail | ⟨hlead, -⟩
  · exact htail
  · exact absurd (hlead.isInfix.trans (List.suffix_append block tail).isInfix) hslashes

theorem nests_code : LexMode.code.Nests .code [] [] := ⟨.inl rfl, rfl, iff_of_true rfl rfl⟩

end LexMode

/-! ## Lines of comments -/

/-- The only comment that a slash begins is one up to the end of the line. -/
theorem codeStep_slash {rest : Text} (h : (codeStep '/' rest).piece.kind = .comment) :
    ['/', '/'] <+: '/' :: rest ∧ codeStep '/' rest = ⟨⟨.comment, '/' :: rest⟩, [], none⟩ := by
  cases rest with
  | nil => exact absurd h (CodeStep.byClass_kind_ne_comment '/' [])
  | cons d more =>
      by_cases hd : d = '/'
      · subst hd
        exact ⟨⟨more, rfl⟩, rfl⟩
      · have hclass : codeStep '/' (d :: more) = .byClass '/' (d :: more) := by
          unfold codeStep
          split <;> simp_all
        rw [hclass] at h
        exact absurd h (CodeStep.byClass_kind_ne_comment '/' (d :: more))

/-- What a step of code does to the nesting if it takes a comment or white space: it leaves a
comment open, it takes a line comment, or it leaves things as they are. -/
theorem codeStep_nesting {c : Char} {rest : Text}
    (h : (codeStep c rest).piece.kind = .comment ∨ (codeStep c rest).piece.kind = .whitespace) :
    (∃ depth, (codeStep c rest).opened = some (.comment depth) ∧ 0 < depth ∧
      (depth : Int) = deepening (c :: rest)) ∨
    (codeStep c rest).opened = none ∧
      (['/', '/'] <+: c :: rest ∧ (codeStep c rest).rest = [] ∨
        ∀ more, deepening ((codeStep c rest).piece.text ++ more) = deepening more) := by
  rcases codeStep_cases c rest with ⟨inner, htext, hhead, hstep⟩ |
    ⟨kind, quote, inner, -, -, hstep⟩ | hends
  · rw [hstep, htext, CodeStep.comment]
    split
    next body after hscan =>
      -- The opener and the closers of a comment that closes on its line make up for each other.
      refine .inr ⟨rfl, .inr fun more => ?_⟩
      have hbody := scanComment_closed_self hscan
      have hne : (body ++ more).head? ≠ some ')' := by
        rw [List.head?_append_of_ne_nil _ (scanComment_closed_ne_nil hscan),
          scanComment_closed_head? hscan]
        exact hhead
      rw [List.cons_append, List.cons_append, deepening_opener hne,
        deepening_append_of_closed Nat.one_pos hbody]
      omega
    next depth hscan =>
      refine .inl ⟨depth, rfl, scanComment_unclosed_pos Nat.one_pos hscan, ?_⟩
      have hdepth := deepening_of_unclosed hscan
      rw [deepening_opener hhead]
      omega
  · rw [hstep, CodeStep.string_kind] at h
    rcases h with h | h <;> cases h
  · refine .inr ⟨hends.opened_eq, ?_⟩
    rcases h with h | h
    · obtain rfl := hends.slash_of_comment h
      obtain ⟨hslashes, hstep⟩ := codeStep_slash h
      exact .inl ⟨hslashes, by rw [hstep]⟩
    · refine .inr (deepening_append_of_isNoMark ?_)
      intro d hd
      exact isNoMark_of_isBlank (isBlank_of_isCodeSpace (hends.blank_of_whitespace h d hd))

/-- From code on, comments nest by their marks. -/
theorem codePieces_nests {offset : Nat} {t : Text} (h : Piece.AllComments (codePieces offset t).1) :
    ∃ block tail, t = block ++ tail ∧ LexMode.code.Nests (codePieces offset t).2 block tail := by
  fun_induction codePieces offset t with
  | case1 => exact ⟨[], [], rfl, LexMode.nests_code⟩
  | case2 offset c rest step opened hopened =>
      have hkind := List.forall_mem_singleton.mp h
      rcases codeStep_nesting hkind with ⟨depth, hcomment, hpos, hdepth⟩ | ⟨hnone, -⟩
      · obtain rfl := Option.some.inj (hopened.symm.trans hcomment)
        refine ⟨c :: rest, [], (List.append_nil _).symm, .inl rfl, ?_, ?_⟩
        · simpa [LexMode.depth, Opened.mode] using hdepth
        · simp [LexMode.depth, Opened.mode, Nat.pos_iff_ne_zero.mp hpos]
      · rw [show step.opened = none from hnone] at hopened
        cases hopened
  | case3 offset c rest step hopened pieces mode hrest ih =>
      obtain ⟨hkind, hpieces⟩ := List.forall_mem_cons.mp h
      rw [hrest] at ih
      obtain ⟨block, tail, hblock, hnests⟩ := ih hpieces
      rcases codeStep_nesting hkind with ⟨depth, hcomment, -⟩ | ⟨-, ⟨hslashes, hnil⟩ | hsame⟩
      · rw [show step.opened = _ from hcomment] at hopened
        cases hopened
      · rw [show step.rest = [] from hnil, codePieces] at hrest
        obtain ⟨-, rfl⟩ := Prod.mk.inj hrest
        exact ⟨[], c :: rest, rfl, .inr ⟨hslashes, rfl⟩, rfl, iff_of_true rfl rfl⟩
      · refine ⟨step.piece.text ++ block, tail, ?_, hnests.tail_cases, ?_, hnests.code_iff⟩
        · rw [List.append_assoc, ← hblock]
          exact (codeStep_covers c rest).1.symm
        · rw [hsame]
          exact hnests.depth_eq

/-- On a line that is lexed in a mode, comments nest by their marks. -/
theorem linePieces_nests {mode : LexMode} (hmode : mode.Proper) {offset : Nat} {t : Text}
    (ht : t ≠ []) (h : Piece.AllComments (linePieces mode offset t).1) :
    ∃ block tail, t = block ++ tail ∧ mode.Nests (linePieces mode offset t).2 block tail := by
  cases mode with
  | code => exact codePieces_nests h
  | comment depth start =>
      rw [linePieces] at h ⊢
      split at h
      next body rest hscan =>
        obtain ⟨-, hrest⟩ := List.forall_mem_cons.mp h
        obtain ⟨block, tail, hblock, hnests⟩ := codePieces_nests hrest
        refine ⟨body ++ block, tail, ?_, hnests.tail_cases, ?_, hnests.code_iff⟩
        · rw [List.append_assoc, ← hblock]
          exact scanComment_closed hscan
        · have hdepth := hnests.depth_eq
          rw [deepening_append_of_closed hmode (scanComment_closed_self hscan)]
          simp only [LexMode.depth] at hdepth ⊢
          omega
      next reached hscan =>
        have hpos := scanComment_unclosed_pos hmode hscan
        refine ⟨t, [], (List.append_nil t).symm, .inl rfl, deepening_of_unclosed hscan, ?_⟩
        simp [LexMode.depth, Nat.pos_iff_ne_zero.mp hpos]
  | string kind start =>
      -- The line begins with a piece of the string.
      rw [linePieces] at h
      split at h
      next => rcases h _ List.mem_cons_self with h | h <;> cases h
      next =>
        rw [Piece.ofText, if_neg (by simpa using ht)] at h
        rcases h _ List.mem_cons_self with h | h <;> cases h

/-- A line taken as one piece of no comment is no line of comments, unless it is blank. -/
theorem not_allComments_wholeLine {kind : TokenKind} {t : Text} (ht : Text.trim t ≠ [])
    (hcomment : kind ≠ .comment) (hblank : kind ≠ .whitespace) :
    ¬ Piece.AllComments (wholeLine kind t) := by
  have hpiece : ⟨kind, Text.trim t⟩ ∈ wholeLine kind t := by
    have hne : (Text.trim t).isEmpty = false := by simpa using ht
    rw [Text.trim] at hne ⊢
    simp [wholeLine, Piece.ofText, hne]
  intro h
  exact (h _ hpiece).elim hcomment hblank

/-- A line is lexed in its mode, or it is taken as one piece and leaves the mode as it is. -/
theorem lexLine_mode_cases (defined : List Text) (state : LexState) (offset : Nat) (t : Text) :
    ((lexLine defined state offset t).pieces = (linePieces state.mode offset t).1 ∧
      (lexLine defined state offset t).after.mode = (linePieces state.mode offset t).2) ∨
    ∃ kind, kind ≠ .comment ∧ kind ≠ .whitespace ∧
      (lexLine defined state offset t).pieces = wholeLine kind t ∧
      (lexLine defined state offset t).after.mode = state.mode := by
  obtain ⟨mode, branches⟩ := state
  cases mode with
  | code =>
      simp only [lexLine]
      split
      next => exact .inr ⟨.preprocessor, by decide, by decide, rfl, rfl⟩
      next =>
        split
        next => exact .inl ⟨rfl, rfl⟩
        next => exact .inr ⟨.inactive, by decide, by decide, rfl, rfl⟩
  | comment depth start => exact .inl ⟨rfl, rfl⟩
  | string kind start => exact .inl ⟨rfl, rfl⟩

theorem lexLine_nests {defined : List Text} {state : LexState} (hmode : state.mode.Proper)
    {offset : Nat} {t : Text} (ht : Text.trim t ≠ [])
    (h : Piece.AllComments (lexLine defined state offset t).pieces) :
    ∃ block tail, t = block ++ tail ∧
      state.mode.Nests (lexLine defined state offset t).after.mode block tail := by
  rcases lexLine_mode_cases defined state offset t with
    ⟨hpieces, hafter⟩ | ⟨kind, hcomment, hblank, hpieces, -⟩
  · have hne : t ≠ [] := by
      rintro rfl
      exact ht rfl
    rw [hpieces] at h
    rw [hafter]
    exact linePieces_nests hmode hne h
  · rw [hpieces] at h
    exact absurd h (not_allComments_wholeLine ht hcomment hblank)

/-! ## Modes between lines -/

theorem codeStep_opened_proper {c : Char} {rest : Text} {opened : Opened}
    (h : (codeStep c rest).opened = some opened) (start : Nat) : (opened.mode start).Proper := by
  rcases codeStep_cases c rest with ⟨inner, -, -, hstep⟩ | ⟨kind, quote, inner, -, -, hstep⟩ | hends
  · rw [hstep, CodeStep.comment] at h
    split at h
    next => cases h
    next depth hscan =>
      cases h
      exact scanComment_unclosed_pos Nat.one_pos hscan
  · rw [hstep, CodeStep.string] at h
    split at h
    next => cases h
    next =>
      cases h
      trivial
  · rw [hends.opened_eq] at h
    cases h

theorem codePieces_proper (offset : Nat) (t : Text) : (codePieces offset t).2.Proper := by
  fun_induction codePieces offset t with
  | case1 => trivial
  | case2 offset c rest step opened hopened => exact codeStep_opened_proper hopened offset
  | case3 offset c rest step hopened pieces mode hrest ih => rwa [hrest] at ih

theorem linePieces_proper {mode : LexMode} (hmode : mode.Proper) (offset : Nat) (t : Text) :
    (linePieces mode offset t).2.Proper := by
  cases mode with
  | code => exact codePieces_proper offset t
  | comment depth start =>
      rw [linePieces]
      split
      next => exact codePieces_proper _ _
      next reached hscan => exact scanComment_unclosed_pos hmode hscan
  | string kind start =>
      rw [linePieces]
      split
      next => exact codePieces_proper _ _
      next => trivial

theorem lexLine_proper (defined : List Text) {state : LexState} (hmode : state.mode.Proper)
    (offset : Nat) (t : Text) : (lexLine defined state offset t).after.mode.Proper := by
  rcases lexLine_mode_cases defined state offset t with ⟨-, hafter⟩ | ⟨_, -, -, -, hafter⟩
  · rw [hafter]
    exact linePieces_proper hmode offset t
  · rw [hafter]
    exact hmode

theorem lexLines_proper (defined : List Text) {state : LexState} (hmode : state.mode.Proper)
    (number offset : Nat) (raws : List Text) :
    (lexLines defined state number offset raws).after.mode.Proper := by
  induction raws generalizing state number offset with
  | nil => exact hmode
  | cons raw more ih => exact ih (lexLine_proper defined hmode offset (withoutReturn raw)) _ _

theorem stateBehind_proper (defined front : List Text) :
    (stateBehind defined front).mode.Proper := by
  have hinitial : LexState.initial.mode.Proper := trivial
  exact lexLines_proper defined hinitial 1 0 front

/-- The mode of the lexer in front of a line of a source. -/
def modeBefore (defined : List Text) (source : Text) (index : Nat) : LexMode :=
  (stateBehind defined ((physicalLines source).take index)).mode

/-- A line of a source leads from the mode in front of it to the mode in front of the next one. -/
theorem modeBefore_of_split {defined : List Text} {source : Text} {front back : List Text}
    {raw : Text} (h : physicalLines source = front ++ raw :: back) :
    modeBefore defined source front.length = (stateBehind defined front).mode ∧
      modeBefore defined source (front.length + 1) =
        (lexLine defined (stateBehind defined front) (rawSize front)
          (withoutReturn raw)).after.mode := by
  have hlength : (front ++ [raw]).length = front.length + 1 := List.length_append
  rw [modeBefore, modeBefore, h, List.take_left, List.append_cons, List.take_left' hlength,
    stateBehind_concat]
  exact ⟨rfl, rfl⟩

/-! ## Directives -/

theorem Directive.trim_ne_nil_of_parse {t : Text} {span : Span} {d : Directive}
    (h : Directive.parse t span = some d) : Text.trim t ≠ [] := by
  intro hblank
  have hbody : Directive.body? t = none := by
    rw [Directive.body?, hblank]
    rfl
  rw [Directive.parse, Directive.pairs?, hbody] at h
  cases h

/-- A directive becomes a block of its own, and is a complete comment on its line if and only if
the marks in front of any line comment are as many openers as closers. In that case, and in no
other, code in front of the line goes on behind it. -/
theorem groupLines_directive_nests {defined : List Text} {source : Text}
    {before after : List Line} {line : Line} {d : Directive}
    (hlines : (lexSource defined source).1 = before ++ line :: after)
    (hline : line.directive? = some d) :
    let start := modeBefore defined source before.length
    let stop := modeBefore defined source (before.length + 1)
    groupLines (lexSource defined source).1 =
        groupLines before ++ .command d :: groupLines after ∧
      (∃ block tail, line.text = block ++ tail ∧ start.Nests stop block tail ∧
        (stop.depth = start.depth ↔ deepening block = 0) ∧
        (start = .code → (stop = .code ↔ deepening block = 0))) ∧
      (¬ ['/', '/'] <:+: line.text → (stop.depth = start.depth ↔ deepening line.text = 0)) := by
  intro start stop
  have hgroup : groupLines (before ++ line :: after) = _ :=
    groupFrom_directive .none before hline after
  obtain ⟨text, htext, hparse⟩ := Option.bind_eq_some_iff.mp hline
  obtain ⟨honly, rfl⟩ : line.isCommentOnly = true ∧ line.text = text := by
    simpa [Line.commentText?] using htext
  have htrim := Directive.trim_ne_nil_of_parse hparse
  obtain ⟨block, tail, hblock, hnests⟩ :
      ∃ block tail, line.text = block ++ tail ∧ start.Nests stop block tail := by
    obtain ⟨front, raw, back, hraws, hlength, rfl⟩ := lexLines_split hlines
    obtain ⟨hstart, hstop⟩ := @modeBefore_of_split defined _ _ _ _ hraws
    rw [Line.isCommentOnly_eq_all, Line.pieces_ofPieces, List.all_eq_true, Nat.zero_add] at honly
    have hpieces : Piece.AllComments (lexLine defined (stateBehind defined front) (rawSize front)
        (withoutReturn raw)).pieces := by
      intro piece hpiece
      simpa using honly piece hpiece
    rw [Line.text_ofPieces, (lexLine_cut _ _ _ _).textOf_eq] at htrim ⊢
    have hnests := lexLine_nests (stateBehind_proper defined front) htrim hpieces
    rwa [← hstart, ← hstop, hlength] at hnests
  refine ⟨hlines ▸ hgroup, ?_, ?_⟩
  · exact ⟨block, tail, hblock, hnests, hnests.depth_eq_iff, hnests.code_iff_of_code⟩
  · intro hslashes
    rw [hblock] at hslashes ⊢
    rw [hnests.tail_eq_nil hslashes, List.append_nil]
    exact hnests.depth_eq_iff

/-- A value that holds a comment of its own. -/
theorem groupLines_directive_nests_balanced :
    groupLines (lexSource [] "(*** hide:(* x *) ***)".toList).1 =
        [.command ⟨Dict.ofList [("hide".toList, "(* x *)".toList)], ⟨0, 22⟩⟩] ∧
      (modeBefore [] "(*** hide:(* x *) ***)".toList 1).depth = 0 := by
  have hraws : physicalLines "(*** hide:(* x *) ***)".toList =
      ["(*** hide:(* x *) ***)".toList] := by decide
  have hcomment : scanComment 0 "(*** hide:(* x *) ***)".toList =
      .closed "(*** hide:(* x *) ***)".toList [] := by decide
  have hfirst : lexLine [] .initial 0 (withoutReturn "(*** hide:(* x *) ***)".toList) =
      ⟨[⟨.comment, "(*** hide:(* x *) ***)".toList⟩], [], .initial⟩ :=
    lexLine_of_isComment [] 0 hcomment
  have hlines : (lexSource [] "(*** hide:(* x *) ***)".toList).1 =
      [] ++ .ofPieces 1 0 [⟨.comment, "(*** hide:(* x *) ***)".toList⟩] :: [] := by
    simp only [lexSource, hraws, lexLines, hfirst, List.nil_append]
  have hdirective :
      (Line.ofPieces 1 0 [⟨.comment, "(*** hide:(* x *) ***)".toList⟩]).directive? =
        some ⟨Dict.ofList [("hide".toList, "(* x *)".toList)], ⟨0, 22⟩⟩ := by decide
  have hslashes : ¬ ['/', '/'] <:+: "(*** hide:(* x *) ***)".toList := by
    rw [← Text.occursIn_iff]
    decide
  obtain ⟨hgroup, -, hdepth⟩ := groupLines_directive_nests hlines hdirective
  rw [Line.text_ofPieces] at hdepth
  exact ⟨hgroup, (hdepth hslashes).mpr (by decide)⟩

/-- A value that holds an opener leaves the comment of its directive open, and the code behind it
becomes a part of that comment. -/
theorem directive_line_not_closed :
    ∃ line next d, (lexSource [] "(*** hide:(* ***)\nlet x = 1".toList).1 = [line, next] ∧
      line.directive? = some d ∧ groupLines [line, next] = .command d :: groupLines [next] ∧
      (modeBefore [] "(*** hide:(* ***)\nlet x = 1".toList 0).depth = 0 ∧
      (modeBefore [] "(*** hide:(* ***)\nlet x = 1".toList 1).depth = 1 ∧
      next.pieces = [⟨.comment, "let x = 1".toList⟩] := by
  have hraws : physicalLines "(*** hide:(* ***)\nlet x = 1".toList =
      ["(*** hide:(* ***)".toList, "let x = 1".toList] := by decide
  have hfirst : lexLine [] .initial 0 (withoutReturn "(*** hide:(* ***)".toList) =
      ⟨[⟨.comment, "(*** hide:(* ***)".toList⟩], [], ⟨.comment 1 0, []⟩⟩ :=
    lexLine_of_unclosed [] 0 (by decide)
  have hsecond : lexLine [] ⟨.comment 1 0, []⟩ 18 (withoutReturn "let x = 1".toList) =
      ⟨[⟨.comment, "let x = 1".toList⟩], [], ⟨.comment 1 0, []⟩⟩ := by decide
  have hlines : (lexSource [] "(*** hide:(* ***)\nlet x = 1".toList).1 =
      [.ofPieces 1 0 [⟨.comment, "(*** hide:(* ***)".toList⟩],
        .ofPieces 2 18 [⟨.comment, "let x = 1".toList⟩]] := by
    have hoffset : 0 + Text.byteSize "(*** hide:(* ***)".toList + 1 = 18 := by decide
    simp only [lexSource, hraws, lexLines, hfirst, hoffset, hsecond]
  have hdirective : (Line.ofPieces 1 0 [⟨.comment, "(*** hide:(* ***)".toList⟩]).directive? =
      some ⟨Dict.ofList [("hide".toList, "(*".toList)], ⟨0, 17⟩⟩ := by decide
  have hstop : modeBefore [] "(*** hide:(* ***)\nlet x = 1".toList 1 = .comment 1 0 := by
    simp only [modeBefore, hraws, stateBehind, List.take_succ_cons, List.take_zero, lexLines,
      hfirst]
  refine ⟨_, _, _, hlines, hdirective, groupFrom_directive .none [] hdirective _, rfl, ?_, rfl⟩
  rw [hstop]
  rfl

end Literate
