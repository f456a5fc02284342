import Literate.Proofs.Block.Grouped
import Mathlib.Data.List.Chain
import Mathlib.Data.List.DropRight

/-!
# Every line is accounted for

The blocks of some lines take up segments of the lines, in the same order. Lines between the
segments are blank. The lines may hold arbitrary tokens.
-/

namespace Literate

/-- The segment of lines that a block takes up. -/
inductive Block.Takes : Block → List Line → Prop where
  | command {line : Line} {d : Directive} (honly : line.isCommentOnly = true)
      (hparse : Directive.parse line.text line.span = some d) : Takes (.command d) [line]
  | snippet {lines : List Line} : Takes (.snippet lines) lines
  | comment {line : Line} {text : Text} {more : List Line} (hline : line.Opens text)
      (hmore : ∀ next ∈ more, next.Continues) :
      Takes (.comment ((CommentBuffer.ofOpener text).pushLines more).content) (line :: more)

/-- Blocks that account for lines: the lines are segments of the blocks, in order, with blank
lines between them. -/
inductive Accounts : List Line → List Block → Prop where
  | nil : Accounts [] []
  | gap {line : Line} {lines : List Line} {blocks : List Block} (hblank : line.isBlank = true)
      (hrest : Accounts lines blocks) : Accounts (line :: lines) blocks
  | block {block : Block} {segment lines : List Line} {blocks : List Block}
      (hsegment : block.Takes segment) (hrest : Accounts lines blocks) :
      Accounts (segment ++ lines) (block :: blocks)

/-- What holds of the lines of a snippet. -/
structure IsSnippet (lines : List Line) : Prop where
  ne_nil : lines ≠ []
  head_not_blank : ∀ line ∈ lines.head?, line.isBlank = false
  last_not_blank : ∀ line ∈ lines.getLast?, line.isBlank = false
  plain : ∀ line ∈ lines, line.IsPlain

instance (lines : List Line) : Decidable (IsSnippet lines) :=
  decidable_of_iff (lines ≠ [] ∧ (∀ line ∈ lines.head?, line.isBlank = false) ∧
      (∀ line ∈ lines.getLast?, line.isBlank = false) ∧ ∀ line ∈ lines, line.IsPlain)
    ⟨fun h => ⟨h.1, h.2.1, h.2.2.1, h.2.2.2⟩, fun h => ⟨h.1, h.2, h.3, h.4⟩⟩

/-- Whether a block is a snippet. -/
def Block.IsSnippetBlock (block : Block) : Prop := ∃ lines, block = .snippet lines

instance (block : Block) : Decidable block.IsSnippetBlock :=
  match block with
  | .comment _ => .isFalse fun h => Block.noConfusion h.choose_spec
  | .snippet lines => .isTrue ⟨lines, rfl⟩
  | .command _ => .isFalse fun h => Block.noConfusion h.choose_spec

namespace Accounts

theorem append {front back : List Line} {blocks more : List Block}
    (hfront : Accounts front blocks) (hback : Accounts back more) :
    Accounts (front ++ back) (blocks ++ more) := by
  induction hfront with
  | nil => exact hback
  | gap hblank _ ih => exact .gap hblank ih
  | block hsegment _ ih =>
      rw [List.append_assoc]
      exact .block hsegment ih

theorem of_blank {lines : List Line} (h : ∀ line ∈ lines, line.isBlank = true) :
    Accounts lines [] := by
  induction lines with
  | nil => exact .nil
  | cons line lines ih =>
      exact .gap (h line (by simp)) (ih fun next hnext => h next (by simp [hnext]))

theorem single {block : Block} {segment : List Line} (h : block.Takes segment) :
    Accounts segment [block] := by
  have hblock := Accounts.block h .nil
  rwa [List.append_nil] at hblock

end Accounts

theorem trimBlankLines_eq (lines : List Line) :
    trimBlankLines lines = (lines.dropWhile Line.isBlank).rdropWhile Line.isBlank := rfl

/-- Trimming takes blank lines off both ends and nothing else. -/
theorem trimBlankLines_split (lines : List Line) :
    ∃ front back, lines = front ++ trimBlankLines lines ++ back ∧
      (∀ line ∈ front, line.isBlank = true) ∧ ∀ line ∈ back, line.isBlank = true := by
  refine ⟨lines.takeWhile Line.isBlank,
    (lines.dropWhile Line.isBlank).rtakeWhile Line.isBlank, ?_, ?_, ?_⟩
  · rw [trimBlankLines_eq, List.append_assoc, List.rdropWhile_append_rtakeWhile,
      List.takeWhile_append_dropWhile]
  · exact fun line hline => List.mem_takeWhile_imp hline
  · exact fun line hline => List.mem_rtakeWhile_imp hline

theorem trimBlankLines_head {lines : List Line} {line : Line}
    (h : line ∈ (trimBlankLines lines).head?) : line.isBlank = false := by
  rw [trimBlankLines_eq] at h
  have hprefix := List.rdropWhile_prefix Line.isBlank (lines.dropWhile Line.isBlank)
  have hhead : (lines.dropWhile Line.isBlank).head? = some line := by
    obtain ⟨back, hback⟩ := hprefix
    rw [← hback, List.head?_append, h]
    rfl
  have hnot := List.head?_dropWhile_not Line.isBlank lines
  rw [hhead] at hnot
  exact hnot

theorem trimBlankLines_last {lines : List Line} {line : Line}
    (h : line ∈ (trimBlankLines lines).getLast?) : line.isBlank = false := by
  rw [trimBlankLines_eq] at h
  obtain ⟨hne, rfl⟩ := List.mem_getLast?_eq_getLast h
  simpa using List.rdropWhile_last_not Line.isBlank (lines.dropWhile Line.isBlank) hne

theorem isSnippet_trimBlankLines {lines : List Line} (hplain : ∀ line ∈ lines, line.IsPlain)
    (hne : trimBlankLines lines ≠ []) : IsSnippet (trimBlankLines lines) where
  ne_nil := hne
  head_not_blank := fun _ => trimBlankLines_head
  last_not_blank := fun _ => trimBlankLines_last
  plain := by
    intro line hline
    obtain ⟨front, back, hsplit, -, -⟩ := trimBlankLines_split lines
    apply hplain line
    rw [hsplit]
    simp [hline]

/-- Trimming leaves a snippet as it is. -/
theorem IsSnippet.trim_eq {lines : List Line} (h : IsSnippet lines) :
    trimBlankLines lines = lines := by
  obtain ⟨first, more, rfl⟩ := List.exists_cons_of_ne_nil h.ne_nil
  have hfirst : ¬ first.isBlank = true := by simp [h.head_not_blank first rfl]
  rw [trimBlankLines_eq, List.dropWhile_cons_of_neg hfirst, List.rdropWhile_eq_self_iff]
  intro hne
  have hlast := h.last_not_blank _ (List.getLast?_eq_some_getLast hne)
  simpa using hlast

/-- The blocks of a finished snippet account for its lines. -/
theorem finish_snippet_accounts (lines : List Line) :
    Accounts lines (OpenBlock.snippet lines).finish := by
  obtain ⟨front, back, hsplit, hfront, hback⟩ := trimBlankLines_split lines
  have hmiddle : Accounts (trimBlankLines lines) (OpenBlock.snippet lines).finish := by
    rcases finish_snippet_cases lines with ⟨hfinish, htrim⟩ | ⟨hfinish, -⟩
    · rw [hfinish, htrim]
      exact .nil
    · rw [hfinish]
      exact .single .snippet
  have h := ((Accounts.of_blank hfront).append hmiddle).append (Accounts.of_blank hback)
  rwa [List.nil_append, List.append_nil, ← hsplit] at h

theorem Line.takes_of_directive {line : Line} {d : Directive} (h : line.directive? = some d) :
    (Block.command d).Takes [line] := by
  obtain ⟨text, htext, hparse⟩ := Option.bind_eq_some_iff.mp h
  obtain ⟨honly, rfl⟩ : line.isCommentOnly = true ∧ line.text = text := by
    simpa [Line.commentText?] using htext
  exact .command honly hparse

namespace Grouped

variable {collected lines : List Line} {blocks : List Block}

/-- Collected lines and the lines behind them are accounted for together. -/
theorem accounts (h : Grouped collected lines blocks) : Accounts (collected ++ lines) blocks := by
  induction h with
  | ends =>
      rw [List.append_nil]
      exact finish_snippet_accounts _
  | directive hline _ ih =>
      exact (finish_snippet_accounts _).append (.block (Line.takes_of_directive hline) ih)
  | comment hline hbody _ ih =>
      exact (finish_snippet_accounts _).append (.block (.comment hline hbody.continues) ih)
  | plain _ _ ih => simpa using ih

/-- Every snippet is what a snippet should be when the collected lines are plain. -/
theorem isSnippet (h : Grouped collected lines blocks)
    (hcollected : ∀ line ∈ collected, line.IsPlain) {segment : List Line}
    (hsegment : Block.snippet segment ∈ blocks) : IsSnippet segment := by
  -- A snippet comes from nowhere but the lines that were collected when something ended them.
  have hfinish : ∀ {collected : List Line}, (∀ line ∈ collected, line.IsPlain) →
      Block.snippet segment ∈ (OpenBlock.snippet collected).finish → IsSnippet segment := by
    intro collected hplain hmem
    rcases finish_snippet_cases collected with ⟨heq, -⟩ | ⟨heq, hne⟩
    · simp [heq] at hmem
    · obtain rfl : segment = trimBlankLines collected := by simpa [heq] using hmem
      exact isSnippet_trimBlankLines hplain hne
  induction h with
  | ends => exact hfinish hcollected hsegment
  | directive hline _ ih =>
      simp only [List.mem_append, List.mem_cons, reduceCtorEq, false_or] at hsegment
      exact hsegment.elim (hfinish hcollected) (ih (by simp))
  | comment hline hbody _ ih =>
      simp only [List.mem_append, List.mem_cons, reduceCtorEq, false_or] at hsegment
      exact hsegment.elim (hfinish hcollected) (ih (by simp))
  | plain hline _ ih =>
      apply ih _ hsegment
      intro next hnext
      rcases List.mem_append.mp hnext with h | h
      · exact hcollected next h
      · obtain rfl := List.mem_singleton.mp h
        exact hline

end Grouped

/-- Two blocks of which at most one is a snippet. -/
def NotBothSnippets (a b : Block) : Prop := ¬ (a.IsSnippetBlock ∧ b.IsSnippetBlock)

instance (a b : Block) : Decidable (NotBothSnippets a b) :=
  inferInstanceAs (Decidable (¬ (a.IsSnippetBlock ∧ b.IsSnippetBlock)))

/-- A finished snippet in front of any other block brings no two snippets together. -/
theorem isChain_finish_append {collected : List Line} {block : Block} {blocks : List Block}
    (hblock : ¬ block.IsSnippetBlock) (hblocks : blocks.IsChain NotBothSnippets) :
    ((OpenBlock.snippet collected).finish ++ block :: blocks).IsChain NotBothSnippets := by
  have htail : (block :: blocks).IsChain NotBothSnippets :=
    hblocks.cons fun next _ hboth => hblock hboth.1
  rcases finish_snippet_cases collected with ⟨heq, -⟩ | ⟨heq, -⟩
  · rw [heq]
    exact htail
  · rw [heq]
    exact htail.cons_cons fun hboth => hblock hboth.2

theorem Grouped.isChain {collected lines : List Line} {blocks : List Block}
    (h : Grouped collected lines blocks) : blocks.IsChain NotBothSnippets := by
  induction h with
  | @ends collected =>
      rcases finish_snippet_cases collected with ⟨heq, -⟩ | ⟨heq, -⟩ <;> simp [heq]
  | directive _ _ ih => exact isChain_finish_append (by simp [Block.IsSnippetBlock]) ih
  | comment _ _ _ ih => exact isChain_finish_append (by simp [Block.IsSnippetBlock]) ih
  | plain _ _ ih => exact ih

/-- Grouping accounts for every line once and in order, and its snippets are never empty,
never begin or end with a blank line, hold no directive and no opener, and never touch. -/
theorem groupLines_accounts (lines : List Line) :
    Accounts lines (groupLines lines) ∧
      (∀ segment, Block.snippet segment ∈ groupLines lines → IsSnippet segment) ∧
      (groupLines lines).IsChain NotBothSnippets := by
  have h := Grouped.of_groupFrom [] lines
  exact ⟨h.accounts, fun segment => h.isSnippet (by simp), h.isChain⟩

end Literate
