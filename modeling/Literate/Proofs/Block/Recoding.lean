import Literate.Proofs.Block.CodeBehind
import Literate.Proofs.Script.Recoding

/-!
# Grouping recoded lines

Lines of a disabled branch stand behind the line that controls the branch, so that they are
collected as code together with it. Whatever text they get, the blocks are of the same kinds, in
the same order, with the same comments and the same directives. Only the code of snippets differs.
-/

namespace Literate

/-! ## Roles of lines at other places -/

/-- A directive at another place. -/
def Directive.relocate (f : Nat → Nat) (d : Directive) : Directive :=
  { d with span := d.span.relocate f }

def LineRole.relocate (f : Nat → Nat) : LineRole → LineRole
  | .directive d => .directive (d.relocate f)
  | .opener text => .opener text
  | .comment text => .comment text
  | .code => .code

namespace Line

variable {line : Line}

@[simp] theorem text_relocate (f : Nat → Nat) (line : Line) : (line.relocate f).text = line.text :=
  text_congr (pieces_relocate f line)

@[simp] theorem isBlank_relocate (f : Nat → Nat) (line : Line) :
    (line.relocate f).isBlank = line.isBlank :=
  isBlank_congr (pieces_relocate f line)

theorem directive?_relocate (f : Nat → Nat) (line : Line) :
    (line.relocate f).directive? = line.directive?.map (·.relocate f) := by
  have htext : (line.relocate f).commentText? = line.commentText? := by
    rw [commentText?, commentText?, isCommentOnly_congr (pieces_relocate f line), text_relocate]
  simp only [directive?, htext, Option.bind_eq_bind, Option.map_bind]
  congr 1
  funext text
  simp only [Function.comp_apply, Directive.parse, Option.map_map]
  rfl

theorem role_relocate (f : Nat → Nat) (line : Line) :
    (line.relocate f).role = line.role.relocate f := by
  have hopener := docOpener?_congr (pieces_relocate f line)
  have htext : (line.relocate f).commentText? = line.commentText? := by
    rw [commentText?, commentText?, isCommentOnly_congr (pieces_relocate f line), text_relocate]
  rw [role, role, directive?_relocate, hopener, htext]
  cases line.directive? with
  | some d => rfl
  | none =>
      cases line.docOpener? with
      | some text => rfl
      | none => cases line.commentText? <;> rfl

/-! ## Lines of disabled branches -/

/-- A line that holds no more than inactive text and white space. -/
def IsInert (line : Line) : Prop :=
  ∀ token ∈ line.tokens, token.kind = .inactive ∨ token.kind = .whitespace

/-- A line with more than comments and white space is code. -/
theorem isPlain_of_not_commentOnly (h : line.isCommentOnly = false) : line.IsPlain where
  not_directive := line.directive?_eq_none_iff.mpr (.inl h)
  not_opener := by
    cases hopener : line.docOpener? with
    | none => rfl
    | some text =>
        obtain ⟨hfilter, -⟩ := openerOf_eq_some (docOpener?_eq line ▸ hopener)
        -- Apart from the comment there is nothing but white space.
        have honly : line.isCommentOnly = true := by
          rw [isCommentOnly_eq_all, List.all_eq_true]
          intro piece hpiece
          by_cases hspace : piece.kind = .whitespace
          · simp [hspace]
          · have hmem : piece ∈ line.pieces.filter (·.kind != .whitespace) :=
              List.mem_filter.mpr ⟨hpiece, by simpa using hspace⟩
            rw [hfilter, List.mem_singleton] at hmem
            simp [hmem]
        rw [honly] at h
        contradiction

/-- A line whose role is code holds something else than comments. -/
theorem not_isBlank_of_code (h : line.role = .code) : line.isBlank = false := by
  refine Bool.eq_false_iff.mpr fun hblank => ?_
  unfold role at h
  simp only [commentText?, isCommentOnly_of_isBlank hblank, if_true] at h
  split at h
  · cases h
  · split at h <;> cases h

theorem IsInert.isPlain (h : line.IsInert) (hspaced : line.Spaced) : line.IsPlain := by
  cases honly : line.isCommentOnly with
  | false => exact isPlain_of_not_commentOnly honly
  | true =>
      refine hspaced.isPlain (List.all_eq_true.mpr ?_)
      intro token htoken
      have hcomment := List.all_eq_true.mp honly token htoken
      rcases h token htoken with hkind | hkind
      · simp [Token.isComment, Token.isWhitespace, hkind] at hcomment
      · simp [Token.isWhitespace, hkind]

theorem mem_wholeLine {kind : TokenKind} {t : Text} {piece : Piece} (h : piece ∈ wholeLine kind t) :
    piece.kind = kind ∨ piece.kind = .whitespace := by
  simp only [wholeLine, List.mem_append, Piece.ofText] at h
  rcases h with h | h | h <;> split at h <;> simp_all

theorem isInert_wholeLine (number offset : Nat) (t : Text) :
    (ofPieces number offset (wholeLine .inactive t)).IsInert := by
  intro token htoken
  have hpiece : token.piece ∈ (ofPieces number offset (wholeLine .inactive t)).pieces :=
    List.mem_map_of_mem htoken
  rw [pieces_ofPieces] at hpiece
  exact mem_wholeLine hpiece

theorem isPlain_wholeLine (number offset : Nat) (t : Text) :
    (ofPieces number offset (wholeLine .inactive t)).IsPlain := by
  refine (isInert_wholeLine number offset t).isPlain ?_
  rw [spaced_iff, pieces_ofPieces]
  exact wholeLine_spaced (by decide) t

end Line

/-- A line that gets no new text. -/
def Line.Kept (texts : Nat → Option Text) (line : Line) : Prop := texts line.number = none

/-- Lines that get other texts only while code is held that stays: each line with a new text is
plain, and behind a line that is no comment there are plain lines alone up to it. -/
inductive Guarded (texts : Nat → Option Text) : Bool → List Line → Prop where
  | nil {held : Bool} : Guarded texts held []
  | kept {held next : Bool} {line : Line} {rest : List Line} (hline : line.Kept texts)
      (hnext : next = true → line.isCommentOnly = false ∨ (held = true ∧ line.IsPlain))
      (hrest : Guarded texts next rest) : Guarded texts held (line :: rest)
  | exchanged {line : Line} {rest : List Line} {t : Text} (hline : texts line.number = some t)
      (hplain : line.IsPlain) (hrest : Guarded texts true rest) :
      Guarded texts true (line :: rest)

/-! ## The lines of disabled branches stand behind a controlling line -/

/-- A controlling line is no comment. -/
theorem Line.not_commentOnly_of_control {t : Text} (h : BranchLine.ofText? t ≠ none)
    (number offset : Nat) :
    (ofPieces number offset (wholeLine .preprocessor t)).isCommentOnly = false := by
  have htrim : Text.trim t ≠ [] := fun hnil => h (BranchLine.ofText?_of_trim_eq_nil hnil)
  have hmem : (⟨.preprocessor, Text.trim t⟩ : Piece) ∈ wholeLine .preprocessor t := by
    have hpiece : Piece.ofText .preprocessor (Text.trimEnd (Text.trimStart t)) =
        [⟨.preprocessor, Text.trim t⟩] := by
      have hne : (Text.trim t).isEmpty = false := by simpa using htrim
      rw [show Text.trimEnd (Text.trimStart t) = Text.trim t from rfl, Piece.ofText, hne]
      rfl
    simp [wholeLine, hpiece]
  rw [isCommentOnly_eq_all, pieces_ofPieces, List.all_eq_false]
  exact ⟨_, hmem, by simp⟩

theorem Line.not_isInert_of_control {t : Text} (h : BranchLine.ofText? t ≠ none)
    (number offset : Nat) : ¬ (ofPieces number offset (wholeLine .preprocessor t)).IsInert := by
  intro hinert
  refine absurd (not_commentOnly_of_control h number offset) ?_
  rw [Bool.not_eq_false, isCommentOnly, List.all_eq_true]
  intro token htoken
  have hpiece : token.piece ∈ (ofPieces number offset (wholeLine .preprocessor t)).pieces :=
    List.mem_map_of_mem htoken
  rw [pieces_ofPieces] at hpiece
  rcases hinert token htoken with hkind | hkind
  · rcases mem_wholeLine hpiece with hpiece | hpiece <;>
      exact absurd (hpiece.symm.trans hkind) (by decide)
  · simp [Token.isWhitespace, hkind]

/-- In a disabled branch the controlling line of the branch is held, with all code behind it. -/
theorem guarded_lexLines {defined raws : List Text} {texts : Nat → Option Text} {state : LexState}
    {number offset : Nat} {held : Bool} (hopens : state.OpensActive)
    (hheld : isActive state.branches = false → held = true)
    (h : ∀ front raw back t, raws = front ++ raw :: back →
      texts (number + front.length) = some t →
      isActive (lexLines defined state number offset front).after.branches = false ∧
        BranchLine.ofText? (withoutReturn raw) = none) :
    Guarded texts held (lexLines defined state number offset raws).lines := by
  induction raws generalizing state number offset held with
  | nil => exact .nil
  | cons raw raws ih =>
      have hnext := lexLine_opensActive hopens defined offset (withoutReturn raw)
      have hrest : ∀ front next back t, raws = front ++ next :: back →
          texts (number + 1 + front.length) = some t →
          isActive (lexLines defined (lexLine defined state offset (withoutReturn raw)).after
            (number + 1) (offset + Text.byteSize raw + 1) front).after.branches = false ∧
            BranchLine.ofText? (withoutReturn next) = none := by
        rintro front next back t rfl htext
        rw [Nat.add_assoc, Nat.add_comm 1] at htext
        exact h (raw :: front) next back t rfl htext
      rw [lexLines]
      cases htext : texts number with
      | some t =>
          obtain ⟨hinactive, hline⟩ := h [] raw raws t rfl htext
          obtain rfl := hheld hinactive
          refine .exchanged htext ?_ (ih hnext (fun _ => rfl) hrest)
          rw [lexLine_of_disabled hopens hinactive hline]
          exact Line.isPlain_wholeLine number offset _
      | none =>
          cases hactive : isActive
              (lexLine defined state offset (withoutReturn raw)).after.branches with
          | true =>
              have hguarded := @ih _ (number + 1) (offset + Text.byteSize raw + 1) false hnext
                (by simp [hactive]) hrest
              exact .kept htext (by simp) hguarded
          | false =>
              refine .kept htext (fun _ => ?_) (ih hnext (fun _ => rfl) hrest)
              cases hcontrol : ControlLine.ofLine? state.mode offset (withoutReturn raw) with
              | some control =>
                  have hmode := ControlLine.mode_of_ofLine? hcontrol
                  rw [lexLine_of_control hcontrol]
                  refine .inl (Line.not_commentOnly_of_control ?_ number offset)
                  intro hnone
                  rw [hmode, ControlLine.ofLine?, hnone] at hcontrol
                  cases hcontrol
              | none =>
                  rw [(lexLine_of_not_control defined hcontrol).2] at hactive
                  have hmode := hopens.mode_eq hactive
                  rw [hmode] at hcontrol
                  rw [lexLine_of_disabled hopens hactive (Option.map_eq_none_iff.mp hcontrol)]
                  exact .inr ⟨hheld hactive, Line.isPlain_wholeLine number offset _⟩

/-! ## Blocks -/

/-- Two pieces of code that were collected from the same stretch of a source, the second time
with recoded lines. Blank lines around the code are gone from both. -/
structure CodeRecoded (texts : Nat → Option Text) (f : Nat → Nat)
    (source lines lines' : List Line) : Prop where
  ne_nil : lines ≠ []
  recoded_ne_nil : lines' ≠ []
  collected : ∃ collected, collected <:+: source ∧ lines = trimBlankLines collected ∧
    lines' = trimBlankLines (collected.map (·.recoded texts f))

/-- Two blocks of one kind that differ in places and in recoded lines of code alone. -/
inductive Block.Recoded (texts : Nat → Option Text) (f : Nat → Nat) (source : List Line) :
    Block → Block → Prop where
  | comment {text : Text} : Recoded texts f source (.comment text) (.comment text)
  | snippet {lines lines' : List Line} (h : CodeRecoded texts f source lines lines') :
      Recoded texts f source (.snippet lines) (.snippet lines')
  | command {d : Directive} : Recoded texts f source (.command d) (.command (d.relocate f))

namespace OpenBlock

def recoded (texts : Nat → Option Text) (f : Nat → Nat) : OpenBlock → OpenBlock
  | .comment buffer => .comment buffer
  | .snippet lines => .snippet (lines.map (·.recoded texts f))

/-- Whether other texts leave the collected block what it is: no line of it gets another text, or
some line that stays is not blank. Only the second is certain enough for more other texts. -/
def Holds (texts : Nat → Option Text) (held : Bool) : OpenBlock → Prop
  | .comment _ => held = false
  | .snippet lines => (held = false ∧ ∀ line ∈ lines, line.Kept texts) ∨
      ∃ line ∈ lines, line.Kept texts ∧ line.isBlank = false

/-- Collected code is the end of the lines in front. -/
def EndsAt (front : List Line) : OpenBlock → Prop
  | .comment _ => True
  | .snippet lines => lines <:+ front

theorem EndsAt.step {front : List Line} {current : OpenBlock} (h : current.EndsAt front)
    (line : Line) : (current.step line).2.EndsAt (front ++ [line]) := by
  have hline : [line] <:+ front ++ [line] := List.suffix_append front [line]
  have hmore : ∀ {lines : List Line}, lines <:+ front → lines ++ [line] <:+ front ++ [line] := by
    rintro lines ⟨before, rfl⟩
    exact ⟨before, (List.append_assoc _ _ _).symm⟩
  unfold OpenBlock.step
  cases line.role with
  | directive d => exact List.nil_suffix
  | opener text => trivial
  | comment text =>
      cases current with
      | comment buffer =>
          dsimp only
          split
          · exact hline
          · trivial
      | snippet lines => exact hmore h
  | code =>
      cases current with
      | comment buffer => exact hline
      | snippet lines => exact hmore h

end OpenBlock

section Recoded

variable {texts : Nat → Option Text} {f : Nat → Nat} {held next : Bool} {line : Line}
  {current : OpenBlock} {source front : List Line}

theorem Line.Kept.recoded_eq (h : line.Kept texts) :
    line.recoded texts f = line.relocate f := by
  rw [recoded, h]

theorem Line.isPlain_recoded {t : Text} (h : texts line.number = some t) :
    (line.recoded texts f).IsPlain := by
  rw [recoded, h]
  exact isPlain_wholeLine _ _ _

theorem Line.number_recoded (line : Line) : (line.recoded texts f).number = line.number := by
  rw [recoded]
  split <;> rfl

theorem Line.isInert_recoded {t : Text} (h : texts (line.recoded texts f).number = some t) :
    (line.recoded texts f).IsInert ∧ (line.recoded texts f).text = t := by
  rw [number_recoded] at h
  rw [recoded, h]
  refine ⟨isInert_wholeLine _ _ _, ?_⟩
  rw [text_ofPieces, (wholeLine_cut _ _).textOf_eq]

/-- Other texts do not make a snippet appear or vanish. -/
theorem trimBlankLines_recoded_eq_nil_iff {lines : List Line}
    (h : (OpenBlock.snippet lines).Holds texts held) :
    trimBlankLines (lines.map (·.recoded texts f)) = [] ↔ trimBlankLines lines = [] := by
  simp only [trimBlankLines_eq_nil_iff, List.forall_mem_map]
  obtain ⟨-, hkept⟩ | ⟨line, hmem, hkept, hcode⟩ := h
  · refine forall₂_congr fun line hline => ?_
    rw [(hkept line hline).recoded_eq, Line.isBlank_relocate]
  · refine iff_of_false ?_ ?_
    · intro hblank
      have hline := hblank line hmem
      rw [hkept.recoded_eq, Line.isBlank_relocate, hcode] at hline
      contradiction
    · intro hblank
      rw [hblank line hmem] at hcode
      contradiction

theorem finish_recoded (h : current.Holds texts held) (hfront : current.EndsAt front)
    (hsource : front <+: source) : List.Forall₂ (Block.Recoded texts f source) current.finish
      (current.recoded texts f).finish := by
  cases current with
  | comment buffer => exact .cons .comment .nil
  | snippet lines =>
      have hiff := trimBlankLines_recoded_eq_nil_iff (f := f) h
      rcases finish_snippet_cases lines with ⟨hfinish, htrim⟩ | ⟨hfinish, htrim⟩ <;>
        rcases finish_snippet_cases (lines.map (·.recoded texts f)) with
          ⟨hfinish', htrim'⟩ | ⟨hfinish', htrim'⟩
      · rw [hfinish, OpenBlock.recoded, hfinish']
        exact .nil
      · exact absurd (hiff.mpr htrim) htrim'
      · exact absurd (hiff.mp htrim') htrim
      · rw [hfinish, OpenBlock.recoded, hfinish']
        have hcollected : lines <:+: source := hfront.isInfix.trans hsource.isInfix
        exact .cons (.snippet ⟨htrim, htrim', lines, hcollected, rfl, rfl⟩) .nil

/-- A line with a new text joins the code that is held. -/
theorem step_exchanged {t : Text} (h : current.Holds texts true)
    (hplain : line.IsPlain) (htext : texts line.number = some t) :
    (current.step line).1 = [] ∧
      (current.recoded texts f).step (line.recoded texts f) =
        ([], (current.step line).2.recoded texts f) ∧
      (current.step line).2.Holds texts true := by
  cases current with
  | comment buffer => cases h
  | snippet lines =>
      have hheld := h.resolve_left (by simp)
      rw [OpenBlock.step_snippet hplain, OpenBlock.recoded,
        OpenBlock.step_snippet (Line.isPlain_recoded htext)]
      refine ⟨rfl, by simp [OpenBlock.recoded], .inr ?_⟩
      obtain ⟨kept, hmem, hkept⟩ := hheld
      exact ⟨kept, List.mem_append_left _ hmem, hkept⟩

/-- A line that stays does the same to both blocks. -/
theorem step_kept (h : current.Holds texts held) (hfront : current.EndsAt front)
    (hsource : front <+: source) (hline : line.Kept texts)
    (hnext : next = true → line.isCommentOnly = false ∨ (held = true ∧ line.IsPlain)) :
    List.Forall₂ (Block.Recoded texts f source) (current.step line).1
        ((current.recoded texts f).step (line.recoded texts f)).1 ∧
      ((current.recoded texts f).step (line.recoded texts f)).2 =
        (current.step line).2.recoded texts f ∧
      (current.step line).2.Holds texts next := by
  have hfinish := finish_recoded (f := f) h hfront hsource
  have hrole := line.role_relocate f
  rw [hline.recoded_eq]
  have hends : line.EndsCode → next = false := by
    intro hends
    refine Bool.eq_false_iff.mpr fun htrue => Line.endsCode_iff.mp hends ?_
    exact (hnext htrue).elim Line.isPlain_of_not_commentOnly And.right
  cases hcase : line.role with
  | directive d =>
      have hdirective := Line.role_eq_directive_iff.mp hcase
      rw [hcase] at hrole
      simp only [OpenBlock.step, hcase, hrole, LineRole.relocate]
      refine ⟨List.rel_append hfinish (.cons .command .nil), rfl, .inl ⟨?_, by simp⟩⟩
      exact hends (.inr ⟨d, hdirective⟩)
  | opener text =>
      have hopens := Line.role_eq_opener_iff.mp hcase
      rw [hcase] at hrole
      simp only [OpenBlock.step, hcase, hrole, LineRole.relocate]
      exact ⟨hfinish, rfl, hends (.inl ⟨text, hopens.docOpener⟩)⟩
  | comment text =>
      have hcontinues := (Line.role_eq_comment_iff.mp hcase).1
      have hheld : next = true → held = true := by
        intro htrue
        rcases hnext htrue with hcode | hplain
        · rw [hcontinues.commentOnly] at hcode
          contradiction
        · exact hplain.1
      rw [hcase] at hrole
      simp only [OpenBlock.step, hcase, hrole, LineRole.relocate]
      cases current with
      | comment buffer =>
          have hnone : held = false := h
          have hfree : next = false :=
            Bool.eq_false_iff.mpr fun htrue => absurd (hheld htrue) (by simp [hnone])
          cases hclosed : buffer.isClosed with
          | true =>
              simp only [OpenBlock.recoded, hclosed, if_true, List.map_singleton,
                hline.recoded_eq, true_and]
              exact ⟨hfinish, .inl ⟨hfree, by simpa using hline⟩⟩
          | false =>
              simp only [OpenBlock.recoded, hclosed, Bool.false_eq_true, if_false, true_and]
              exact ⟨.nil, hfree⟩
      | snippet lines =>
          simp only [OpenBlock.recoded, List.map_append, List.map_singleton, hline.recoded_eq,
            true_and]
          refine ⟨.nil, ?_⟩
          obtain ⟨hnone, hkept⟩ | ⟨kept, hmem, hkept⟩ := h
          · refine .inl ⟨?_, List.forall_mem_append.mpr ⟨hkept, by simpa using hline⟩⟩
            exact Bool.eq_false_iff.mpr fun htrue => absurd (hheld htrue) (by simp [hnone])
          · exact .inr ⟨kept, List.mem_append_left _ hmem, hkept⟩
  | code =>
      have hcode := Line.not_isBlank_of_code hcase
      rw [hcase] at hrole
      simp only [OpenBlock.step, hcase, hrole, LineRole.relocate]
      cases current with
      | comment buffer =>
          simp only [OpenBlock.recoded, List.map_singleton, hline.recoded_eq, true_and]
          exact ⟨hfinish, .inr ⟨line, by simp, hline, hcode⟩⟩
      | snippet lines =>
          simp only [OpenBlock.recoded, List.map_append, List.map_singleton, hline.recoded_eq,
            true_and]
          exact ⟨.nil, .inr ⟨line, by simp, hline, hcode⟩⟩

/-- Recoded lines are grouped into blocks of the same kinds. -/
theorem Guarded.groupFrom_recoded {lines : List Line} (h : Guarded texts held lines)
    (hcurrent : current.Holds texts held) (hfront : current.EndsAt front)
    (hsource : source = front ++ lines) :
    List.Forall₂ (Block.Recoded texts f source) (groupFrom current lines)
      (groupFrom (current.recoded texts f) (lines.map (·.recoded texts f))) := by
  induction h generalizing current front with
  | nil => exact finish_recoded hcurrent hfront (hsource ▸ List.prefix_append _ _)
  | @kept _ _ line _ hline hnext _ ih =>
      obtain ⟨hblocks, hstep, hholds⟩ := step_kept (f := f) hcurrent hfront
        (hsource ▸ List.prefix_append _ _) hline hnext
      simp only [List.map_cons, groupFrom, hstep]
      exact List.rel_append hblocks (ih hholds (hfront.step line) (by simp [hsource]))
  | @exchanged line _ _ hline hplain _ ih =>
      obtain ⟨hblocks, hstep, hholds⟩ := step_exchanged (f := f) hcurrent hplain hline
      simp only [List.map_cons, groupFrom, hstep, hblocks, List.nil_append]
      exact ih hholds (hfront.step line) (by simp [hsource])

theorem Guarded.groupLines_recoded {lines : List Line} (h : Guarded texts false lines) :
    List.Forall₂ (Block.Recoded texts f lines) (groupLines lines)
      (groupLines (lines.map (·.recoded texts f))) :=
  h.groupFrom_recoded (.inl ⟨rfl, by simp⟩) List.nil_suffix (List.nil_append _).symm

end Recoded

/-- Lines that are rewritten in a source stand behind a controlling line. -/
theorem Recodes.guarded {defined : List Text} {texts : Nat → Option Text} {f : Nat → Nat}
    {rewrite : Nat → Text → Text} {source : Text}
    (h : Recodes defined texts f rewrite (physicalLines source)) :
    Guarded texts false (lexSource defined source).1 :=
  guarded_lexLines (stateBehind_opensActive defined []) (by simp [LexState.initial, isActive])
    fun front raw back t hraws htext => by
      obtain ⟨-, hinactive, hraw, -⟩ := h.disabled front raw back t hraws htext
      exact ⟨hinactive, hraw⟩

/-! ## Blocks at other places -/

theorem eq_map_of_forall₂ {α β : Type} {R : α → β → Prop} {g : α → β} {as : List α} {bs : List β}
    (h : List.Forall₂ R as bs) (hR : ∀ a b, R a b → b = g a) : bs = as.map g := by
  induction h with
  | nil => rfl
  | cons hhead _ ih => rw [hR _ _ hhead, ih, List.map_cons]

/-- A block at another place. -/
def Block.relocate (f : Nat → Nat) : Block → Block
  | .comment text => .comment text
  | .snippet lines => .snippet (lines.map (·.relocate f))
  | .command d => .command (d.relocate f)

theorem trimBlankLines_relocate (f : Nat → Nat) (lines : List Line) :
    trimBlankLines (lines.map (·.relocate f)) = (trimBlankLines lines).map (·.relocate f) := by
  have hblank : Line.isBlank ∘ (·.relocate f) = Line.isBlank := by
    funext line
    exact line.isBlank_relocate f
  simp only [trimBlankLines, List.dropWhile_map, ← List.map_reverse, hblank]

theorem CodeRecoded.eq_relocate {f : Nat → Nat} {source lines lines' : List Line}
    (h : CodeRecoded (fun _ => none) f source lines lines') :
    lines' = lines.map (·.relocate f) := by
  obtain ⟨collected, -, rfl, rfl⟩ := h.collected
  exact trimBlankLines_relocate f collected

/-- Without new texts the blocks differ in places alone. -/
theorem Block.Recoded.eq_relocate {f : Nat → Nat} {source : List Line} {block block' : Block}
    (h : Block.Recoded (fun _ => none) f source block block') : block' = block.relocate f := by
  cases h with
  | comment => rfl
  | snippet hcode => rw [hcode.eq_relocate, Block.relocate]
  | command => rfl

/-- Grouping lines at other places gives the blocks at other places. -/
theorem groupLines_relocate (f : Nat → Nat) (lines : List Line) :
    groupLines (lines.map (·.relocate f)) = (groupLines lines).map (·.relocate f) := by
  have hguarded : Guarded (fun _ => none) false lines := by
    induction lines with
    | nil => exact .nil
    | cons line rest ih => exact .kept rfl Bool.noConfusion ih
  exact eq_map_of_forall₂ hguarded.groupLines_recoded fun _ _ => Block.Recoded.eq_relocate

end Literate
