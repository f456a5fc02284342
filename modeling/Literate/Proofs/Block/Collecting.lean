import Literate.Proofs.Block.CommentBuffer
import Literate.Proofs.Block.Grouped
import Literate.Proofs.Script.CommentLines

/-!
# What a documentation comment collects

The lines that a comment collects make its buffer longer fragment by fragment. The comment stops
on the line that closes it, or in front of a line that cannot continue it.
-/

namespace Literate

namespace CommentBuffer

theorem pushLines_eq_pushAll (buffer : CommentBuffer) (lines : List Line) :
    buffer.pushLines lines = buffer.pushAll (lines.map Line.text) :=
  List.foldl_map.symm

theorem Follows.pushLines {buffer : CommentBuffer} (h : buffer.Follows) (lines : List Line) :
    (buffer.pushLines lines).Follows := by
  rw [pushLines_eq_pushAll]
  exact h.pushAll _

theorem Follows.joined_pushLines {buffer : CommentBuffer} (h : buffer.Follows)
    (lines : List Line) : (buffer.pushLines lines).joined =
      List.intercalate ['\n'] (buffer.joined :: lines.map Line.text) := by
  rw [pushLines_eq_pushAll]
  exact h.joined_pushAll _

theorem Follows.isClosed_eq_false {buffer : CommentBuffer} (h : buffer.Follows) {depth : Nat}
    (hscan : scanComment 0 buffer.joined = .unclosed depth) : buffer.isClosed = false := by
  rw [Bool.eq_false_iff]
  intro hclosed
  obtain ⟨body, rest, hbody⟩ := h.isClosed_iff.mp hclosed
  simp [hscan] at hbody

namespace Collects

variable {buffer : CommentBuffer} {body rest : List Line}

theorem eq_nil_of_closed (h : Collects buffer body rest) (hclosed : buffer.isClosed = true) :
    body = [] := by
  cases h with
  | takes hopen => simp [hclosed] at hopen
  | _ => rfl

/-- A comment that is still open has stopped at a line that cannot continue it. -/
theorem head_not_continues (h : Collects buffer body rest)
    (hopen : (buffer.pushLines body).isClosed = false) :
    ∀ next ∈ rest.head?, ¬ next.Continues := by
  induction h with
  | closed hclosed =>
      rw [pushLines_nil, hclosed] at hopen
      simp at hopen
  | ends => simp
  | leaves hline => simpa using hline
  | takes _ _ _ ih => exact ih hopen

/-- A comment that was closed by the last of the lines it collected is closed on that line. -/
theorem count_of_closed (h : Collects buffer body rest) (hfollows : buffer.Follows)
    (hfree : ∀ line ∈ body, '\n' ∉ line.text) {depth : Nat}
    (hopen : scanComment 0 buffer.joined = .unclosed depth) {closing behind : Text}
    (hclosed : scanComment 0 (buffer.pushLines body).joined = .closed closing behind) :
    closing.count '\n' = buffer.joined.count '\n' + body.length := by
  induction h generalizing depth with
  | closed => simp [hopen] at hclosed
  | ends => simp [hopen] at hclosed
  | leaves => simp [hopen] at hclosed
  | @takes buffer line body rest _ _ hbody ih =>
      have hjoined := joined_push hfollows.fragments_ne_nil line.text
      have hline : '\n' ∉ line.text := hfree line (by simp)
      cases hscan : scanComment depth line.text with
      | unclosed reached =>
          -- The comment goes on behind this line, from the depth that the line reaches.
          have hnext : scanComment 0 (buffer.push line.text).joined = .unclosed reached := by
            rw [hjoined, scanComment_append_of_unclosed hopen isNoMark_feed, hscan]
            rfl
          rw [ih (hfollows.push line.text) (fun next hnext => hfree next (by simp [hnext])) hnext
            hclosed, hjoined]
          simp [List.count_append, List.count_eq_zero_of_not_mem hline]
          omega
      | closed inner after =>
          -- This line closes the comment, so it is the last one that is collected.
          have hnext : scanComment 0 (buffer.push line.text).joined =
              .closed (buffer.joined ++ ['\n'] ++ inner) after := by
            rw [hjoined, scanComment_append_of_unclosed hopen isNoMark_feed, hscan]
            rfl
          have hisClosed := (hfollows.push line.text).isClosed_iff.mpr ⟨_, _, hnext⟩
          obtain rfl := hbody.eq_nil_of_closed hisClosed
          rw [pushLines_cons, pushLines_nil, hnext] at hclosed
          obtain ⟨rfl, rfl⟩ := CommentScan.closed.inj hclosed
          have hinner : '\n' ∉ inner := by
            intro hmem
            rw [scanComment_closed hscan] at hline
            exact hline (List.mem_append_left _ hmem)
          simp [List.count_append, List.count_eq_zero_of_not_mem hinner]

end Collects

/-- Lines that bring a comment to its very end are collected. -/
theorem Follows.collects {buffer : CommentBuffer} (h : buffer.Follows) {lines : List Line}
    (hlines : ∀ line ∈ lines, line.Continues)
    (hcomment : IsComment 0 (buffer.pushLines lines).joined) (rest : List Line) :
    Collects buffer lines rest := by
  induction lines generalizing buffer with
  | nil => exact .closed (h.isClosed_iff.mpr ⟨_, _, hcomment⟩)
  | cons line lines ih =>
      -- A comment that ends at its very end has not closed before its last line.
      have hopen := hcomment
      rw [h.joined_pushLines] at hopen
      obtain ⟨reached, hscan, -⟩ := hopen.head (by simp)
      exact .takes (h.isClosed_eq_false hscan) (hlines line List.mem_cons_self)
        (ih (h.push line.text) (fun next hnext => hlines next (List.mem_cons_of_mem line hnext))
          hcomment)

end CommentBuffer

end Literate
