import Literate.Block.Grouping

/-!
# How lines are grouped

Grouping as a relation between the lines collected so far, the lines that follow and the blocks.
It has one case for the end, for a directive, for a whole documentation comment and for a line
of code, so that results about grouping are inductions with these four cases.
-/

namespace Literate

namespace Line

/-- A line that starts a documentation comment with a text. -/
structure Opens (line : Line) (text : Text) : Prop where
  not_directive : line.directive? = none
  docOpener : line.docOpener? = some text

/-- A line that can go on with a documentation comment: it holds comments and whitespace alone
and is neither a directive nor an opener. -/
structure Continues (line : Line) : Prop where
  commentOnly : line.isCommentOnly = true
  not_directive : line.directive? = none
  not_opener : line.docOpener? = none

/-- A line that does not always end what is being collected. -/
structure IsPlain (line : Line) : Prop where
  not_directive : line.directive? = none
  not_opener : line.docOpener? = none

instance (line : Line) : Decidable line.IsPlain :=
  decidable_of_iff (line.directive? = none ∧ line.docOpener? = none)
    ⟨fun h => ⟨h.1, h.2⟩, fun h => ⟨h.1, h.2⟩⟩

theorem role_eq_directive_iff {line : Line} {d : Directive} :
    line.role = .directive d ↔ line.directive? = some d := by
  unfold role
  split
  next d' h => simp [h]
  next h =>
    simp only [h, reduceCtorEq, iff_false]
    split
    · simp
    split <;> simp

theorem role_eq_opener_iff {line : Line} {text : Text} :
    line.role = .opener text ↔ line.Opens text := by
  unfold role
  constructor
  · intro h
    split at h
    · simp at h
    next hdirective =>
      split at h
      next t hopener => exact ⟨hdirective, hopener.trans (congrArg some (LineRole.opener.inj h))⟩
      next => split at h <;> simp at h
  · rintro ⟨hdirective, hopener⟩
    simp [hdirective, hopener]

theorem role_eq_comment_iff {line : Line} {text : Text} :
    line.role = .comment text ↔ line.Continues ∧ text = line.text := by
  unfold role
  constructor
  · intro h
    split at h
    · simp at h
    next hdirective =>
      split at h
      · simp at h
      next hopener =>
        split at h
        next t htext =>
          obtain rfl := LineRole.comment.inj h
          obtain ⟨honly, rfl⟩ : line.isCommentOnly = true ∧ line.text = t := by
            simpa [commentText?] using htext
          exact ⟨⟨honly, hdirective, hopener⟩, rfl⟩
        next => simp at h
  · rintro ⟨⟨honly, hdirective, hopener⟩, rfl⟩
    simp [hdirective, hopener, commentText?, honly]

/-- Every line is a directive, an opener or plain. -/
theorem trichotomy (line : Line) :
    (∃ d, line.directive? = some d) ∨ (∃ text, line.Opens text) ∨ line.IsPlain := by
  cases hdirective : line.directive? with
  | some d => exact .inl ⟨d, rfl⟩
  | none =>
      cases hopener : line.docOpener? with
      | some text => exact .inr (.inl ⟨text, hdirective, hopener⟩)
      | none => exact .inr (.inr ⟨hdirective, hopener⟩)

end Line

namespace OpenBlock

/-- A directive ends whatever is being collected. -/
theorem step_directive (current : OpenBlock) {line : Line} {d : Directive}
    (h : line.directive? = some d) :
    current.step line = (current.finish ++ [.command d], .none) := by
  simp only [step, Line.role_eq_directive_iff.mpr h]

/-- An opener ends whatever is being collected. -/
theorem step_opener (current : OpenBlock) {line : Line} {text : Text} (h : line.Opens text) :
    current.step line = (current.finish, .comment (.ofOpener text)) := by
  simp only [step, Line.role_eq_opener_iff.mpr h]

/-- A plain line joins the snippet that is being collected. -/
theorem step_snippet {lines : List Line} {line : Line} (h : line.IsPlain) :
    (snippet lines).step line = ([], .snippet (lines ++ [line])) := by
  unfold step
  split
  next d hrole => rw [Line.role_eq_directive_iff, h.not_directive] at hrole; simp at hrole
  next text hrole =>
    have hopener := (Line.role_eq_opener_iff.mp hrole).docOpener
    rw [h.not_opener] at hopener
    simp at hopener
  next => rfl
  next => rfl

/-- An open comment takes a line that continues it. -/
theorem step_comment_continues {buffer : CommentBuffer} {line : Line}
    (hopen : buffer.isClosed = false) (h : line.Continues) :
    (comment buffer).step line = ([], .comment (buffer.push line.text)) := by
  simp [step, Line.role_eq_comment_iff.mpr ⟨h, rfl⟩, hopen]

/-- Any other line leaves a comment as if nothing had been collected. -/
theorem step_comment_leaves {buffer : CommentBuffer} {line : Line}
    (h : buffer.isClosed = true ∨ ¬ line.Continues) :
    (comment buffer).step line =
      (.comment buffer.content :: (none.step line).1, (none.step line).2) := by
  cases hrole : line.role with
  | directive d => simp [step, hrole, finish, none, trimBlankLines]
  | opener text => simp [step, hrole, finish, none, trimBlankLines]
  | code => simp [step, hrole, finish, none]
  | comment text =>
      have hcontinues := (Line.role_eq_comment_iff.mp hrole).1
      have hclosed : buffer.isClosed = true := h.resolve_right (· hcontinues)
      simp [step, hrole, finish, none, hclosed]

end OpenBlock

namespace CommentBuffer

/-- The buffer after the texts of some lines. -/
def pushLines (buffer : CommentBuffer) (lines : List Line) : CommentBuffer :=
  lines.foldl (fun buffer line => buffer.push line.text) buffer

@[simp] theorem pushLines_nil (buffer : CommentBuffer) : buffer.pushLines [] = buffer := rfl

@[simp] theorem pushLines_cons (buffer : CommentBuffer) (line : Line) (lines : List Line) :
    buffer.pushLines (line :: lines) = (buffer.push line.text).pushLines lines := rfl

/-- A comment collects the first part of the lines that follow it and leaves the second: it
stops when it is closed, when the lines end, and at a line that cannot continue it. -/
inductive Collects : CommentBuffer → List Line → List Line → Prop where
  | closed {buffer : CommentBuffer} {rest : List Line} (hclosed : buffer.isClosed = true) :
      Collects buffer [] rest
  | ends {buffer : CommentBuffer} : Collects buffer [] []
  | leaves {buffer : CommentBuffer} {line : Line} {rest : List Line}
      (hline : ¬ line.Continues) : Collects buffer [] (line :: rest)
  | takes {buffer : CommentBuffer} {line : Line} {body rest : List Line}
      (hopen : buffer.isClosed = false) (hline : line.Continues)
      (hbody : Collects (buffer.push line.text) body rest) :
      Collects buffer (line :: body) rest

theorem exists_collects (buffer : CommentBuffer) (lines : List Line) :
    ∃ body rest, lines = body ++ rest ∧ Collects buffer body rest := by
  induction lines generalizing buffer with
  | nil => exact ⟨[], [], rfl, .ends⟩
  | cons line lines ih =>
      cases hclosed : buffer.isClosed with
      | true => exact ⟨[], line :: lines, rfl, .closed hclosed⟩
      | false =>
          by_cases hline : line.Continues
          · obtain ⟨body, rest, rfl, hbody⟩ := ih (buffer.push line.text)
            exact ⟨line :: body, rest, rfl, .takes hclosed hline hbody⟩
          · exact ⟨[], line :: lines, rfl, .leaves hline⟩

namespace Collects

variable {buffer : CommentBuffer} {body rest : List Line}

theorem continues (h : Collects buffer body rest) : ∀ line ∈ body, line.Continues := by
  induction h with
  | closed => simp
  | ends => simp
  | leaves => simp
  | takes hopen hline hbody ih => simpa using ⟨hline, ih⟩

/-- What a comment collects does not depend on how far the lines behind it go on. -/
theorem of_append {more : List Line} (h : Collects buffer body (rest ++ more)) :
    Collects buffer body rest := by
  generalize hlines : rest ++ more = lines at h
  induction h with
  | closed hclosed => exact .closed hclosed
  | ends =>
      obtain ⟨rfl, -⟩ := List.append_eq_nil_iff.mp hlines
      exact .ends
  | leaves hline =>
      cases rest with
      | nil => exact .ends
      | cons line rest =>
          obtain ⟨rfl, -⟩ := List.cons.inj hlines
          exact .leaves hline
  | takes hopen hline _ ih => exact .takes hopen hline (ih hlines)

/-- The collected lines make one block, and the lines behind them are grouped on their own. -/
theorem groupFrom_eq (h : Collects buffer body rest) :
    groupFrom (.comment buffer) (body ++ rest) =
      .comment (buffer.pushLines body).content :: groupLines rest := by
  -- A line that leaves the comment is looked at again with nothing open.
  have leave : ∀ {buffer : CommentBuffer} {line : Line} {rest : List Line},
      buffer.isClosed = true ∨ ¬ line.Continues →
      groupFrom (.comment buffer) (line :: rest) =
        .comment buffer.content :: groupLines (line :: rest) := by
    intro buffer line rest h
    rw [groupLines, groupFrom, groupFrom, OpenBlock.step_comment_leaves h]
    rfl
  induction h with
  | @closed buffer rest hclosed =>
      cases rest with
      | nil => rfl
      | cons line rest => exact leave (.inl hclosed)
  | ends => rfl
  | leaves hline => exact leave (.inr hline)
  | takes hopen hline hbody ih =>
      rw [List.cons_append, groupFrom, OpenBlock.step_comment_continues hopen hline]
      exact ih

end Collects

end CommentBuffer

/-- A finished snippet is nothing, when its lines are all blank, or one block. -/
theorem finish_snippet_cases (lines : List Line) :
    ((OpenBlock.snippet lines).finish = [] ∧ trimBlankLines lines = []) ∨
      ((OpenBlock.snippet lines).finish = [.snippet (trimBlankLines lines)] ∧
        trimBlankLines lines ≠ []) := by
  cases htrim : trimBlankLines lines with
  | nil => exact .inl ⟨by simp [OpenBlock.finish, htrim], rfl⟩
  | cons first more => exact .inr ⟨by simp [OpenBlock.finish, htrim], by simp⟩

/-- A comment among the blocks of a finished snippet and a block behind it is that block or
stands behind it. -/
theorem finish_snippet_append_eq {collected : List Line} {block : Block} {text : Text}
    {blocks front more : List Block}
    (h : (OpenBlock.snippet collected).finish ++ block :: blocks = front ++ .comment text :: more) :
    (front = (OpenBlock.snippet collected).finish ∧ block = .comment text ∧ blocks = more) ∨
      ∃ back, front = (OpenBlock.snippet collected).finish ++ block :: back ∧
        blocks = back ++ .comment text :: more := by
  -- The comment cannot be among the blocks of the snippet itself.
  have hnot : Block.comment text ∉ (OpenBlock.snippet collected).finish := by
    rcases finish_snippet_cases collected with ⟨heq, -⟩ | ⟨heq, -⟩ <;> simp [heq]
  rcases List.append_eq_append_iff.mp h with ⟨back, hfront, hback⟩ | ⟨back, hfront, hback⟩
  · cases back with
    | nil =>
        obtain ⟨rfl, rfl⟩ := List.cons.inj hback
        exact .inl ⟨by simpa using hfront, rfl, rfl⟩
    | cons first back =>
        obtain ⟨rfl, rfl⟩ := List.cons.inj hback
        exact .inr ⟨back, hfront, rfl⟩
  · cases back with
    | nil =>
        obtain ⟨rfl, rfl⟩ := List.cons.inj hback
        exact .inl ⟨by simpa using hfront.symm, rfl, rfl⟩
    | cons first back =>
        obtain ⟨rfl, -⟩ := List.cons.inj hback
        exact absurd (by simp [hfront]) hnot

/-- The blocks of some lines behind lines that are being collected as a snippet. -/
inductive Grouped : List Line → List Line → List Block → Prop where
  | ends {collected : List Line} : Grouped collected [] (OpenBlock.snippet collected).finish
  | directive {collected rest : List Line} {line : Line} {d : Directive} {blocks : List Block}
      (hline : line.directive? = some d) (hrest : Grouped [] rest blocks) :
      Grouped collected (line :: rest)
        ((OpenBlock.snippet collected).finish ++ .command d :: blocks)
  | comment {collected body rest : List Line} {line : Line} {text : Text} {blocks : List Block}
      (hline : line.Opens text) (hbody : (CommentBuffer.ofOpener text).Collects body rest)
      (hrest : Grouped [] rest blocks) :
      Grouped collected (line :: (body ++ rest))
        ((OpenBlock.snippet collected).finish ++
          .comment ((CommentBuffer.ofOpener text).pushLines body).content :: blocks)
  | plain {collected rest : List Line} {line : Line} {blocks : List Block}
      (hline : line.IsPlain) (hrest : Grouped (collected ++ [line]) rest blocks) :
      Grouped collected (line :: rest) blocks

namespace Grouped

theorem groupFrom_eq {collected lines : List Line} {blocks : List Block}
    (h : Grouped collected lines blocks) : groupFrom (.snippet collected) lines = blocks := by
  induction h with
  | ends => rfl
  | directive hline _ ih =>
      rw [groupFrom, OpenBlock.step_directive _ hline, ← ih]
      simp [OpenBlock.none]
  | comment hline hbody _ ih =>
      rw [groupFrom, OpenBlock.step_opener _ hline, ← ih]
      exact congrArg _ hbody.groupFrom_eq
  | plain hline _ ih =>
      rw [groupFrom, OpenBlock.step_snippet hline]
      exact ih

theorem of_groupFrom (collected lines : List Line) :
    Grouped collected lines (groupFrom (.snippet collected) lines) := by
  -- A comment takes up several lines at once, so the recursion is on the number of lines.
  match lines with
  | [] => exact .ends
  | line :: rest =>
      rcases line.trichotomy with ⟨d, hline⟩ | ⟨text, hline⟩ | hline
      · have h : Grouped collected (line :: rest) _ := .directive hline (of_groupFrom [] rest)
        rw [h.groupFrom_eq]
        exact h
      · obtain ⟨body, tail, hrest, hbody⟩ :=
          CommentBuffer.exists_collects (.ofOpener text) rest
        have h : Grouped collected (line :: (body ++ tail)) _ :=
          .comment hline hbody (of_groupFrom [] tail)
        rw [hrest, h.groupFrom_eq]
        exact h
      · have h := Grouped.plain hline (of_groupFrom (collected ++ [line]) rest)
        rw [h.groupFrom_eq]
        exact h
termination_by lines.length
decreasing_by
  · exact Nat.lt_succ_self rest.length
  · rw [hrest, List.length_cons, List.length_append]
    omega
  · exact Nat.lt_succ_self rest.length

/-- The relation and the function agree. -/
theorem iff_eq {lines : List Line} {blocks : List Block} :
    Grouped [] lines blocks ↔ groupLines lines = blocks := by
  constructor
  · exact groupFrom_eq
  · rintro rfl
    exact of_groupFrom [] lines

/-- Plain lines are collected one after the other. -/
theorem plain_append {collected plain rest : List Line} {blocks : List Block}
    (hplain : ∀ line ∈ plain, line.IsPlain) (h : Grouped (collected ++ plain) rest blocks) :
    Grouped collected (plain ++ rest) blocks := by
  induction plain generalizing collected with
  | nil => rwa [List.append_nil] at h
  | cons line plain ih =>
      apply Grouped.plain (hplain line List.mem_cons_self)
      exact ih (fun next hnext => hplain next (List.mem_cons_of_mem line hnext)) (by simpa using h)

/-- Collected lines are a snippet of their own in front of a line that cannot join them. -/
theorem behind_snippet {rest : List Line} {blocks : List Block} (h : Grouped [] rest blocks)
    (hhead : ∀ line ∈ rest.head?, ¬ line.IsPlain) (collected : List Line) :
    Grouped collected rest ((OpenBlock.snippet collected).finish ++ blocks) := by
  -- Only the first line matters: what was collected is finished there.
  generalize hnil : ([] : List Line) = nothing at h
  cases h with
  | ends =>
      subst hnil
      have hends : Grouped collected [] (OpenBlock.snippet collected).finish := .ends
      rwa [← List.append_nil (OpenBlock.snippet collected).finish] at hends
  | directive hline hrest =>
      subst hnil
      exact .directive hline hrest
  | comment hline hbody hrest =>
      subst hnil
      exact .comment hline hbody hrest
  | plain hline => exact absurd hline (hhead _ rfl)

/-- Around each comment, the lines that make the blocks in front of it, the lines that the
comment takes up, and the lines that make the blocks behind it. -/
theorem at_comment {collected lines : List Line} {text : Text} {blocks front more : List Block}
    (h : Grouped collected lines blocks) (hblocks : blocks = front ++ .comment text :: more) :
    ∃ before line opener body rest, lines = before ++ line :: (body ++ rest) ∧
      Grouped collected before front ∧ line.Opens opener ∧
      (CommentBuffer.ofOpener opener).Collects body rest ∧
      text = ((CommentBuffer.ofOpener opener).pushLines body).content ∧ Grouped [] rest more := by
  induction h generalizing front with
  | @ends collected =>
      have hmem : Block.comment text ∈ (OpenBlock.snippet collected).finish := by
        simp [hblocks]
      rcases finish_snippet_cases collected with ⟨heq, -⟩ | ⟨heq, -⟩ <;> simp [heq] at hmem
  | directive hline _ ih =>
      rcases finish_snippet_append_eq hblocks with ⟨-, hcommand, -⟩ | ⟨back, rfl, hback⟩
      · simp at hcommand
      · obtain ⟨before, next, opener, body, rest, rfl, hbefore, htail⟩ := ih hback
        exact ⟨_ :: before, next, opener, body, rest, rfl, .directive hline hbefore, htail⟩
  | @comment collected body rest line opener blocks hline hbody hrest ih =>
      rcases finish_snippet_append_eq hblocks with ⟨rfl, htext, rfl⟩ | ⟨back, rfl, hback⟩
      · exact ⟨[], line, opener, body, rest, rfl, .ends, hline, hbody,
          (Block.comment.inj htext).symm, hrest⟩
      · -- The comment stands behind this one, which belongs to the lines in front of it.
        obtain ⟨before, next, nextOpener, nextBody, nextRest, rfl, hbefore, htail⟩ := ih hback
        exact ⟨line :: (body ++ before), next, nextOpener, nextBody, nextRest, by simp,
          .comment hline hbody.of_append hbefore, htail⟩
  | plain hline _ ih =>
      obtain ⟨before, next, opener, body, rest, rfl, hbefore, htail⟩ := ih hblocks
      exact ⟨_ :: before, next, opener, body, rest, rfl, .plain hline hbefore, htail⟩

end Grouped

end Literate
