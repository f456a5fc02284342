import Literate.Proofs.Block.Collecting
import Literate.Proofs.Block.CutPoint

/-!
# Blank lines

A blank line is a comment line and a line of code at once, so what becomes of it depends on what
is being collected in front of it. At the border of a block it leaves no trace. Inside a
documentation comment that is still open it is one more line of the comment's text.
-/

namespace Literate

namespace Line

variable {line : Line}

/-- A blank line goes on with a comment. -/
theorem Spaced.continues (h : line.Spaced) (hblank : line.isBlank = true) : line.Continues where
  commentOnly := isCommentOnly_of_isBlank hblank
  not_directive := (h.isPlain hblank).not_directive
  not_opener := (h.isPlain hblank).not_opener

/-- The text of an opener begins with the mark that makes it one. -/
theorem Opens.exists_inner {text : Text} (h : line.Opens text) :
    ∃ inner, text = docOpening ++ inner :=
  (openerOf_eq_some (docOpener?_eq line ▸ h.docOpener)).2

end Line

/-! ## Buffers at one depth -/

namespace CommentBuffer

/-- Two buffers that are both closed or both open, and at the same depth: they take the same
lines. -/
structure InStep (a b : CommentBuffer) : Prop where
  isClosed_eq : a.isClosed = b.isClosed
  depth_eq : a.depth = b.depth

/-- What pushing does to the nesting depends on the nesting alone. -/
theorem InStep.push {a b : CommentBuffer} (h : a.InStep b) (fragment : Text) :
    (a.push fragment).InStep (b.push fragment) := by
  obtain ⟨hclosed, hdepth⟩ := h
  unfold isClosed at hclosed
  unfold CommentBuffer.push
  cases ha : a.closer with
  | some offset =>
      cases hb : b.closer with
      | some other => exact ⟨rfl, hdepth⟩
      | none => simp [ha, hb] at hclosed
  | none =>
      cases hb : b.closer with
      | some other => simp [ha, hb] at hclosed
      | none =>
          simp only [hdepth]
          cases scanComment b.depth fragment <;> exact ⟨rfl, rfl⟩

theorem InStep.collects {a b : CommentBuffer} (h : a.InStep b) {body rest : List Line}
    (hbody : a.Collects body rest) : b.Collects body rest := by
  induction hbody generalizing b with
  | closed hclosed => exact .closed (h.isClosed_eq ▸ hclosed)
  | ends => exact .ends
  | leaves hline => exact .leaves hline
  | takes hopen hline _ ih => exact .takes (h.isClosed_eq ▸ hopen) hline (ih (h.push _))

/-- A text of blanks does not change the nesting. -/
theorem inStep_push_of_isBlank {buffer : CommentBuffer} (hopen : buffer.isClosed = false)
    {t : Text} (ht : ∀ c ∈ t, isBlank c = true) : buffer.InStep (buffer.push t) := by
  have hcloser : buffer.closer = none := by simpa [isClosed] using hopen
  have hscan := (unmarked_of_isNoMark fun c hc => isNoMark_of_isBlank (ht c hc)).scanComment_eq
    buffer.depth
  unfold CommentBuffer.push
  simp only [hcloser, hscan]
  exact ⟨hopen, rfl⟩

/-- A buffer that follows the scan of its text, which begins as a documentation comment does. -/
structure IsDoc (buffer : CommentBuffer) : Prop where
  follows : buffer.Follows
  exists_inner : ∃ inner, buffer.joined = '(' :: '*' :: '*' :: inner

theorem isDoc_ofOpener {line : Line} {text : Text} (h : line.Opens text) :
    (ofOpener text).IsDoc where
  follows := ofOpener_follows text
  exists_inner := by
    obtain ⟨inner, rfl⟩ := h.exists_inner
    exact ⟨inner, joined_ofOpener _⟩

theorem IsDoc.push {buffer : CommentBuffer} (h : buffer.IsDoc) (fragment : Text) :
    (buffer.push fragment).IsDoc where
  follows := h.follows.push fragment
  exists_inner := by
    obtain ⟨inner, hinner⟩ := h.exists_inner
    exact ⟨inner ++ '\n' :: fragment, by
      rw [joined_push h.follows.fragments_ne_nil, hinner]
      rfl⟩

section Open

variable {buffer : CommentBuffer} {inner : Text}

theorem Follows.scan_of_open (h : buffer.Follows) (hopen : buffer.isClosed = false) :
    scanComment 0 buffer.joined = .unclosed buffer.depth := by
  cases hscan : scanComment 0 buffer.joined with
  | closed body rest =>
      have hclosed := h.isClosed_iff.mpr ⟨body, rest, hscan⟩
      rw [hopen] at hclosed
      contradiction
  | unclosed depth =>
      have hagrees := h.agrees
      rw [hscan] at hagrees
      rw [hagrees.2]

/-- A buffer that is still open holds the whole text behind its opener. -/
theorem IsDoc.joined_eq (h : buffer.IsDoc) (hopen : buffer.isClosed = false) :
    buffer.joined = '(' :: '*' :: '*' :: buffer.content := by
  obtain ⟨inner, hinner⟩ := h.exists_inner
  rw [h.follows.content_of_unclosed hinner (h.follows.scan_of_open hopen), hinner]

/-- What lines add to the text of an open buffer depends on the lines and on the depth that the
buffer has reached, not on the text in front. -/
theorem exists_added (depth : Nat) (lines : List Line) : ∃ added, ∀ {buffer : CommentBuffer},
    buffer.IsDoc → buffer.isClosed = false → buffer.depth = depth →
      (buffer.pushLines lines).content = buffer.content ++ added := by
  cases lines with
  | nil => exact ⟨[], fun _ _ _ => (List.append_nil _).symm⟩
  | cons line lines =>
      -- Behind the line feed a scan of the new lines alone finds what there is to find.
      let more := List.intercalate ['\n'] ((line :: lines).map Line.text)
      have hjoined : ∀ {buffer : CommentBuffer}, buffer.Follows →
          (buffer.pushLines (line :: lines)).joined = buffer.joined ++ '\n' :: more := by
        intro buffer hfollows
        rw [hfollows.joined_pushLines, List.intercalate_cons_of_ne_nil (by simp)]
        simp [more]
      have hscan : ∀ {buffer : CommentBuffer}, buffer.IsDoc → buffer.isClosed = false →
          scanComment 0 (buffer.pushLines (line :: lines)).joined =
            (scanComment buffer.depth more).prepend (buffer.joined ++ ['\n']) := by
        intro buffer hdoc hopen
        rw [hjoined hdoc.follows]
        exact scanComment_append_of_unclosed (hdoc.follows.scan_of_open hopen) isNoMark_feed more
      cases hmore : scanComment depth more with
      | closed body rest =>
          obtain ⟨last, rfl⟩ := scanComment_closed_eq hmore
          refine ⟨'\n' :: last, ?_⟩
          intro buffer hdoc hopen hdepth
          have hclosed := hscan hdoc hopen
          rw [hdepth, hmore, hdoc.joined_eq hopen] at hclosed
          refine (hdoc.follows.pushLines _).content_of_encloses hclosed ?_
          have hencloses := Encloses.between (buffer.content ++ '\n' :: last)
          simpa using hencloses
      | unclosed reached =>
          refine ⟨'\n' :: more, ?_⟩
          intro buffer hdoc hopen hdepth
          have hunclosed := hscan hdoc hopen
          rw [hdepth, hmore] at hunclosed
          refine (hdoc.follows.pushLines _).content_of_unclosed ?_ hunclosed
          rw [hjoined hdoc.follows, hdoc.joined_eq hopen]
          rfl

/-- A blank text behind a line feed is added to an open buffer as it stands. -/
theorem IsDoc.content_push_of_isBlank (h : buffer.IsDoc) (hopen : buffer.isClosed = false)
    {t : Text} (ht : ∀ c ∈ t, isBlank c = true) :
    (buffer.push t).content = buffer.content ++ '\n' :: t := by
  have hstill : (buffer.push t).isClosed = false :=
    (inStep_push_of_isBlank hopen ht).isClosed_eq ▸ hopen
  have hjoined := (h.push t).joined_eq hstill
  rw [joined_push h.follows.fragments_ne_nil, h.joined_eq hopen] at hjoined
  simpa using hjoined.symm

end Open

end CommentBuffer

/-! ## What is being collected behind some lines -/

namespace OpenBlock

/-- The blocks that lines complete. -/
def completed : OpenBlock → List Line → List Block
  | _, [] => []
  | current, line :: rest => (current.step line).1 ++ completed (current.step line).2 rest

/-- What is being collected behind some lines. -/
def behind (current : OpenBlock) (lines : List Line) : OpenBlock :=
  lines.foldl (fun current line => (current.step line).2) current

/-- A documentation comment is being collected that is not closed yet. -/
def InOpenComment (current : OpenBlock) : Prop :=
  ∃ buffer, current = .comment buffer ∧ buffer.isClosed = false

/-- A documentation comment is being collected that has been closed. -/
def InClosedComment (current : OpenBlock) : Prop :=
  ∃ buffer, current = .comment buffer ∧ buffer.isClosed = true

/-- A comment that is being collected is a documentation comment. -/
def IsDoc : OpenBlock → Prop
  | .comment buffer => buffer.IsDoc
  | .snippet _ => True

theorem behind_cons (current : OpenBlock) (line : Line) (rest : List Line) :
    current.behind (line :: rest) = (current.step line).2.behind rest := rfl

theorem behind_append (current : OpenBlock) (front back : List Line) :
    current.behind (front ++ back) = (current.behind front).behind back :=
  List.foldl_append

theorem IsDoc.step {current : OpenBlock} (h : current.IsDoc) (line : Line) :
    (current.step line).2.IsDoc := by
  rcases line.trichotomy with ⟨d, hline⟩ | ⟨text, hline⟩ | hline
  · rw [step_directive current hline]
    trivial
  · rw [step_opener current hline]
    exact CommentBuffer.isDoc_ofOpener hline
  · cases current with
    | snippet lines =>
        rw [step_snippet hline]
        trivial
    | comment buffer =>
        by_cases hcontinues : buffer.isClosed = false ∧ line.Continues
        · rw [step_comment_continues hcontinues.1 hcontinues.2]
          exact CommentBuffer.IsDoc.push h line.text
        · rw [Classical.not_and_iff_not_or_not, Bool.not_eq_false] at hcontinues
          rw [step_comment_leaves hcontinues, OpenBlock.none, step_snippet hline]
          trivial

theorem IsDoc.behind {current : OpenBlock} (h : current.IsDoc) (lines : List Line) :
    (current.behind lines).IsDoc := by
  induction lines generalizing current with
  | nil => exact h
  | cons line lines ih => exact ih (h.step line)

end OpenBlock

theorem groupFrom_cons (current : OpenBlock) (line : Line) (rest : List Line) :
    groupFrom current (line :: rest) =
      (current.step line).1 ++ groupFrom (current.step line).2 rest := rfl

/-- The first part of some lines completes blocks and leaves what it collects to the second. -/
theorem groupFrom_append (current : OpenBlock) (front back : List Line) :
    groupFrom current (front ++ back) =
      current.completed front ++ groupFrom (current.behind front) back := by
  induction front generalizing current with
  | nil => rfl
  | cons line front ih =>
      rw [List.cons_append, groupFrom_cons, OpenBlock.completed, OpenBlock.behind_cons,
        List.append_assoc, ← ih]

/-! ## Blank lines -/

section Blank

variable {blank : Line}

theorem trimBlankLines_cons (hblank : blank.isBlank = true) (lines : List Line) :
    trimBlankLines (blank :: lines) = trimBlankLines lines := by
  rw [trimBlankLines, List.dropWhile_cons_of_pos hblank]
  rfl

theorem trimBlankLines_concat (hblank : blank.isBlank = true) (lines : List Line) :
    trimBlankLines (lines ++ [blank]) = trimBlankLines lines := by
  rw [trimBlankLines_eq, trimBlankLines_eq, List.dropWhile_append]
  split
  next hnil =>
    rw [List.isEmpty_iff.mp hnil, List.dropWhile_cons_of_pos hblank]
    rfl
  next => exact List.rdropWhile_concat_pos _ _ _ hblank

/-- Code that begins with a blank line is the code without it. -/
theorem groupFrom_snippet_cons (hblank : blank.isBlank = true) (lines rest : List Line) :
    groupFrom (.snippet (blank :: lines)) rest = groupFrom (.snippet lines) rest := by
  have hfinish : ∀ lines, (OpenBlock.snippet (blank :: lines)).finish =
      (OpenBlock.snippet lines).finish := by
    intro lines
    rw [OpenBlock.finish, OpenBlock.finish, trimBlankLines_cons hblank]
  induction rest generalizing lines with
  | nil => exact hfinish lines
  | cons line rest ih =>
      rw [groupFrom, groupFrom]
      rcases line.trichotomy with ⟨d, hline⟩ | ⟨text, hline⟩ | hline
      · rw [OpenBlock.step_directive _ hline, OpenBlock.step_directive _ hline, hfinish]
      · rw [OpenBlock.step_opener _ hline, OpenBlock.step_opener _ hline, hfinish]
      · rw [OpenBlock.step_snippet hline, OpenBlock.step_snippet hline]
        exact ih (lines ++ [line])

/-- A blank line in front of all others leaves no trace. -/
theorem groupLines_cons_blank (hspaced : blank.Spaced) (hblank : blank.isBlank = true)
    (lines : List Line) : groupLines (blank :: lines) = groupLines lines := by
  rw [groupLines, groupFrom, OpenBlock.none, OpenBlock.step_snippet (hspaced.isPlain hblank)]
  exact groupFrom_snippet_cons hblank [] lines

/-- Behind a closed comment the lines are grouped on their own. -/
theorem groupFrom_closed {buffer : CommentBuffer} (hclosed : buffer.isClosed = true)
    (lines : List Line) :
    groupFrom (.comment buffer) lines = .comment buffer.content :: groupLines lines :=
  (CommentBuffer.Collects.closed hclosed).groupFrom_eq

/-- A blank line in front of the end of the code, or behind a comment that has been closed, leaves
no trace. -/
theorem groupFrom_blank_ends (hspaced : blank.Spaced) (hblank : blank.isBlank = true)
    {current : OpenBlock} (hopen : ¬ current.InOpenComment) {back : List Line}
    (hback : ∀ line ∈ back.head?, line.EndsCode) :
    groupFrom current (blank :: back) = groupFrom current back := by
  cases current with
  | comment buffer =>
      have hclosed : buffer.isClosed = true := by
        rw [← Bool.not_eq_false]
        exact fun h => hopen ⟨buffer, rfl, h⟩
      rw [groupFrom_closed hclosed, groupFrom_closed hclosed, groupLines_cons_blank hspaced hblank]
  | snippet lines =>
      have hfinish : (OpenBlock.snippet (lines ++ [blank])).finish =
          (OpenBlock.snippet lines).finish := by
        rw [OpenBlock.finish, OpenBlock.finish, trimBlankLines_concat hblank]
      rw [groupFrom_cons, OpenBlock.step_snippet (hspaced.isPlain hblank), List.nil_append]
      cases back with
      | nil => exact hfinish
      | cons line back =>
          have hends := hback line rfl
          rw [groupFrom_endsCode _ hends, groupFrom_endsCode _ hends, hfinish]

/-- In a comment that is still open a blank line is added to the text, and the lines behind it make
the same blocks. -/
theorem groupFrom_blank_open (hspaced : blank.Spaced) (hblank : blank.isBlank = true)
    {buffer : CommentBuffer} (hdoc : buffer.IsDoc) (hopen : buffer.isClosed = false)
    (back : List Line) :
    ∃ added more, groupFrom (.comment buffer) back = .comment (buffer.content ++ added) :: more ∧
      groupFrom (.comment buffer) (blank :: back) =
        .comment (buffer.content ++ '\n' :: blank.text ++ added) :: more := by
  have htext := hspaced.isBlank_of_mem_text hblank
  have hstep := CommentBuffer.inStep_push_of_isBlank hopen htext
  obtain ⟨body, rest, rfl, hbody⟩ := buffer.exists_collects back
  obtain ⟨added, hadded⟩ := CommentBuffer.exists_added buffer.depth body
  refine ⟨added, groupLines rest, ?_, ?_⟩
  · rw [hbody.groupFrom_eq, hadded hdoc hopen rfl]
  · rw [groupFrom_cons, OpenBlock.step_comment_continues hopen (hspaced.continues hblank),
      List.nil_append, (hstep.collects hbody).groupFrom_eq,
      ← hdoc.content_push_of_isBlank hopen htext,
      hadded (hdoc.push blank.text) (hstep.isClosed_eq ▸ hopen) hstep.depth_eq.symm]

end Blank

/-- A blank line leaves no trace at the border of a block: in front of all lines, behind a directive
or a comment that has been closed, and in front of a directive, an opener or the end. Inside a
comment that is still open it ends nothing and adds one line to the text. -/
theorem groupLines_blank {blank : Line} (hspaced : blank.Spaced) (hblank : blank.isBlank = true)
    (front back : List Line) :
    (front = [] ∨ (∃ line ∈ front.getLast?, ∃ d, line.directive? = some d) ∨
        (OpenBlock.none.behind front).InClosedComment →
      groupLines (front ++ [blank] ++ back) = groupLines (front ++ back)) ∧
    ((∀ line ∈ back.head?, line.EndsCode) → ¬ (OpenBlock.none.behind front).InOpenComment →
      groupLines (front ++ [blank] ++ back) = groupLines (front ++ back)) ∧
    ((OpenBlock.none.behind front).InOpenComment →
      (OpenBlock.none.behind (front ++ [blank])).InOpenComment ∧
      ∃ blocks text added more, groupLines front = blocks ++ [.comment text] ∧
        groupLines (front ++ back) = blocks ++ .comment (text ++ added) :: more ∧
        groupLines (front ++ [blank] ++ back) =
          blocks ++ .comment (text ++ '\n' :: blank.text ++ added) :: more) := by
  have hline : front ++ [blank] ++ back = front ++ blank :: back := by simp
  have hsplit : ∀ lines, groupLines (front ++ lines) =
      OpenBlock.none.completed front ++ groupFrom (OpenBlock.none.behind front) lines :=
    groupFrom_append .none front
  rw [hline]
  refine ⟨?_, ?_, ?_⟩
  · rintro (rfl | ⟨line, hlast, d, hdirective⟩ | ⟨buffer, hbehind, hclosed⟩)
    · exact groupLines_cons_blank hspaced hblank back
    · obtain ⟨init, rfl⟩ := List.getLast?_eq_some_iff.mp hlast
      simp only [List.append_assoc, List.singleton_append, groupLines,
        groupFrom_directive .none init hdirective]
      exact congrArg (_ ++ _ :: ·) (groupLines_cons_blank hspaced hblank back)
    · rw [hsplit, hsplit, hbehind, groupFrom_closed hclosed, groupFrom_closed hclosed,
        groupLines_cons_blank hspaced hblank]
  · intro hback hopen
    rw [hsplit, hsplit, groupFrom_blank_ends hspaced hblank hopen hback]
  · rintro ⟨buffer, hbehind, hopen⟩
    have hnone : OpenBlock.none.IsDoc := trivial
    have hdoc : (OpenBlock.comment buffer).IsDoc := hbehind ▸ hnone.behind front
    obtain ⟨added, more, hwithout, hwith⟩ := groupFrom_blank_open hspaced hblank hdoc hopen back
    have hstep := CommentBuffer.inStep_push_of_isBlank hopen (hspaced.isBlank_of_mem_text hblank)
    refine ⟨⟨buffer.push blank.text, ?_, hstep.isClosed_eq ▸ hopen⟩,
      OpenBlock.none.completed front, buffer.content, added, more, ?_, ?_, ?_⟩
    · rw [OpenBlock.behind_append, hbehind, OpenBlock.behind_cons,
        OpenBlock.step_comment_continues hopen (hspaced.continues hblank)]
      rfl
    · have hfront := hsplit []
      rw [List.append_nil, hbehind] at hfront
      exact hfront
    · rw [hsplit, hbehind, hwithout]
    · rw [hsplit, hbehind, hwith]

/-- A directive, code, and the two lines of a comment. -/
def Line.bordering : List Line := ofPieceLists 1 0 [
  [⟨.comment, "(*** hide ***)".toList⟩],
  [⟨.identifier, ['x']⟩],
  [⟨.whitespace, [' ']⟩, ⟨.comment, "(** a".toList⟩],
  [⟨.comment, "b *)".toList⟩, ⟨.whitespace, [' ']⟩]]

/-- A blank line behind the directive, behind the code, behind the comment and between the two
lines of the comment. -/
theorem groupLines_blank_bordering :
    let blank := Line.ofPieces 9 90 [⟨.whitespace, [' ']⟩, ⟨.whitespace, ['\t']⟩]
    let front := fun n => Line.bordering.take n
    let back := fun n => Line.bordering.drop n
    groupLines (front 1 ++ [blank] ++ back 1) = groupLines (front 1 ++ back 1) ∧
    groupLines (front 2 ++ [blank] ++ back 2) = groupLines (front 2 ++ back 2) ∧
    groupLines (front 4 ++ [blank] ++ front 2) = groupLines (front 4 ++ front 2) ∧
    ∃ added more, groupLines (back 2) = .comment (" a".toList ++ added) :: more ∧
      groupLines ((back 2).take 1 ++ [blank] ++ (back 2).drop 1) =
        .comment (" a".toList ++ "\n \t".toList ++ added) :: more := by
  intro blank front back
  have hspaced : blank.Spaced := by
    unfold Line.Spaced
    decide
  have hblank : blank.isBlank = true := by decide
  have hborder := groupLines_blank hspaced hblank
  refine ⟨(hborder _ _).1 (.inr (.inl ?_)), (hborder _ _).2.1 ?_ ?_,
    (hborder _ _).1 (.inr (.inr ?_)), ?_⟩
  · exact ⟨_, rfl, ⟨Dict.ofList [("hide".toList, [])], ⟨0, 14⟩⟩, by decide⟩
  · rintro line ⟨⟩
    exact .inl ⟨"(** a".toList, by decide⟩
  · rintro ⟨buffer, hbuffer, -⟩
    cases hbuffer
  · exact ⟨(CommentBuffer.ofOpener "(** a".toList).push "b *) ".toList, by rfl, by decide⟩
  · have hopen : (OpenBlock.none.behind ((back 2).take 1)).InOpenComment :=
      ⟨.ofOpener "(** a".toList, by rfl, by decide⟩
    obtain ⟨-, blocks, text, added, more, hfront, hwithout, hwith⟩ :=
      (hborder ((back 2).take 1) ((back 2).drop 1)).2.2 hopen
    have hcomment : groupLines ((back 2).take 1) = [] ++ [.comment " a".toList] := by decide
    obtain ⟨rfl, htext⟩ := List.append_inj' (hfront.symm.trans hcomment) rfl
    cases htext
    exact ⟨added, more, hwithout, hwith⟩

end Literate
