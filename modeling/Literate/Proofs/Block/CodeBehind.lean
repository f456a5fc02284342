import Literate.Proofs.Block.Accounting
import Literate.Proofs.Block.Content
import Literate.Proofs.Script.Spaced

/-!
# The code behind a directive

A directive cuts the lines in two parts that are grouped on their own. The plain lines behind it,
up to the next directive, opener or the end, are one snippet without the blank lines around it.
-/

namespace Literate

namespace Line

/-- A line that ends the code in front of it: it opens a documentation comment or is a
directive. -/
def EndsCode (line : Line) : Prop :=
  (∃ text, line.docOpener? = some text) ∨ ∃ d, line.directive? = some d

theorem endsCode_iff {line : Line} : line.EndsCode ↔ ¬ line.IsPlain := by
  rw [EndsCode, ← Option.isSome_iff_exists, ← Option.isSome_iff_exists]
  constructor
  · rintro (h | h) hplain
    · rw [hplain.not_opener] at h
      contradiction
    · rw [hplain.not_directive] at h
      contradiction
  · intro h
    cases hopener : line.docOpener? with
    | some text => exact .inl rfl
    | none =>
        cases hdirective : line.directive? with
        | some d => exact .inr rfl
        | none => exact absurd ⟨hdirective, hopener⟩ h

theorem isCommentOnly_of_isBlank {line : Line} (hblank : line.isBlank = true) :
    line.isCommentOnly = true := by
  rw [isCommentOnly, List.all_eq_true]
  intro token htoken
  rw [List.all_eq_true.mp hblank token htoken, Bool.or_true]

theorem Spaced.isBlank_of_mem_text {line : Line} (h : line.Spaced) (hblank : line.isBlank = true) :
    ∀ c ∈ line.text, Literate.isBlank c = true := by
  intro c hc
  obtain ⟨token, htoken, hmem⟩ := List.mem_flatMap.mp hc
  have hkind := eq_of_beq (List.all_eq_true.mp hblank token htoken)
  exact List.all_eq_true.mp (h token htoken hkind) c hmem

/-- A blank line with nothing but blank characters is plain. -/
theorem Spaced.isPlain {line : Line} (h : line.Spaced) (hblank : line.isBlank = true) :
    line.IsPlain where
  not_directive := by
    rw [directive?_eq_none_iff]
    refine .inr ?_
    have htrim : Text.trim line.text = [] := Text.trimsTo_iff.mp
      ⟨⟨by simp, by simp⟩, line.text, [], by simp, h.isBlank_of_mem_text hblank, by simp⟩
    rw [Directive.pairs?, Directive.body?, htrim]
    rfl
  not_opener := by
    have hnone : line.tokens.filter (!·.isWhitespace) = [] := by
      rw [List.filter_eq_nil_iff]
      intro token htoken
      simp [List.all_eq_true.mp hblank token htoken]
    rw [docOpener?, soleToken?, hnone]

end Line

/-- Lines that all hold nothing but blank characters where they are white space. -/
def AllSpaced (lines : List Line) : Prop := ∀ line ∈ lines, line.Spaced

theorem trimBlankLines_eq_nil_iff {lines : List Line} :
    trimBlankLines lines = [] ↔ ∀ line ∈ lines, line.isBlank = true := by
  constructor
  · intro h line hline
    obtain ⟨front, back, hsplit, hfront, hback⟩ := trimBlankLines_split lines
    rw [h, List.append_nil] at hsplit
    rw [hsplit] at hline
    exact (List.mem_append.mp hline).elim (hfront line) (hback line)
  · intro h
    rw [trimBlankLines, List.dropWhile_eq_nil_iff.mpr h]
    rfl

/-- The plain lines that lines begin with. -/
theorem exists_plain_run (lines : List Line) : ∃ run rest, lines = run ++ rest ∧
    (∀ line ∈ run, line.IsPlain) ∧ ∀ line ∈ rest.head?, ¬ line.IsPlain := by
  refine ⟨lines.takeWhile fun line => decide line.IsPlain,
    lines.dropWhile fun line => decide line.IsPlain, ?_, ?_, ?_⟩
  · rw [List.takeWhile_append_dropWhile]
  · intro line hline
    have hdecide := List.mem_takeWhile_imp (p := fun line : Line => decide line.IsPlain) hline
    exact of_decide_eq_true hdecide
  · intro line hline
    have hnot := List.head?_dropWhile_not (fun line => decide line.IsPlain) lines
    rw [Option.mem_def.mp hline] at hnot
    exact of_decide_eq_false hnot

/-- A run of plain lines is one snippet, if it is not blank. -/
theorem groupLines_run {run rest : List Line} (hrun : ∀ line ∈ run, line.IsPlain)
    (hrest : ∀ line ∈ rest.head?, ¬ line.IsPlain) :
    groupLines (run ++ rest) = (OpenBlock.snippet run).finish ++ groupLines rest :=
  (Grouped.plain_append hrun
    ((Grouped.of_groupFrom [] rest).behind_snippet hrest ([] ++ run))).groupFrom_eq

/-- Whether a run of plain lines holds code is decided by the next line that is not blank. -/
theorem find_nonblank_iff {run rest : List Line} (hrun : ∀ line ∈ run, line.IsPlain)
    (hrest : ∀ line ∈ rest.head?, ¬ line.IsPlain) (hspaced : AllSpaced rest) :
    (∀ next, (run ++ rest).find? (!·.isBlank) = some next → next.EndsCode) ↔
      ∀ line ∈ run, line.isBlank = true := by
  constructor
  · intro h line hline
    by_contra hcode
    have hfound : (run.find? (!·.isBlank)).isSome := by
      rw [List.find?_isSome]
      exact ⟨line, hline, by simpa using hcode⟩
    obtain ⟨next, hnext⟩ := Option.isSome_iff_exists.mp hfound
    have hends := h next (by rw [List.find?_append, hnext]; rfl)
    exact Line.endsCode_iff.mp hends (hrun next (List.mem_of_find?_eq_some hnext))
  · intro h next hnext
    have hnone : run.find? (!·.isBlank) = none := by
      rw [List.find?_eq_none]
      intro line hline
      simp [h line hline]
    rw [List.find?_append, hnone, Option.none_or] at hnext
    cases rest with
    | nil => simp at hnext
    | cons first rest =>
        have hfirst : ¬ first.isBlank = true := fun hblank =>
          hrest first rfl ((hspaced first List.mem_cons_self).isPlain hblank)
        rw [List.find?_cons_of_pos (by simpa using hfirst)] at hnext
        obtain rfl := Option.some.inj hnext
        exact Line.endsCode_iff.mpr (hrest first rfl)

/-- A directive is a block of its own between what stands in front of it and behind it. -/
theorem groupFrom_directive (current : OpenBlock) (front : List Line) {line : Line} {d : Directive}
    (h : line.directive? = some d) (after : List Line) :
    groupFrom current (front ++ line :: after) =
      groupFrom current front ++ .command d :: groupLines after := by
  induction front generalizing current with
  | nil =>
      simp only [List.nil_append, groupFrom, OpenBlock.step_directive current h]
      simp [groupLines]
  | cons first front ih =>
      simp only [List.cons_append, groupFrom, ih, List.append_assoc]

/-- Lines of code with blank lines around them, up to a line that ends the code. -/
structure CodeUpTo (after gap body tail rest : List Line) : Prop where
  lines_eq : after = gap ++ (body ++ (tail ++ rest))
  gap_blank : ∀ line ∈ gap, line.isBlank = true
  first_not_blank : ∀ line ∈ body.head?, line.isBlank = false
  not_ends : ∀ line ∈ body, ¬ line.EndsCode
  last_not_blank : ∀ line ∈ body.getLast?, line.isBlank = false
  tail_blank : ∀ line ∈ tail, line.isBlank = true
  rest_ends : ∀ line ∈ rest.head?, line.EndsCode

/-- Behind a directive stands code, which becomes one snippet, or nothing to which the directive
could apply: no line, or only blank ones up to a line that ends the code. -/
theorem groupLines_after {after : List Line} (hspaced : AllSpaced after) :
    ((∃ next, after.find? (!·.isBlank) = some next ∧ ¬ next.EndsCode) ∧
      ∃ gap body tail rest, CodeUpTo after gap body tail rest ∧ body ≠ [] ∧
        groupLines after = .snippet body :: groupLines rest) ∨
    ((∀ next, after.find? (!·.isBlank) = some next → next.EndsCode) ∧
      ∀ lines more, groupLines after ≠ .snippet lines :: more) := by
  obtain ⟨run, rest, rfl, hrun, hrest⟩ := exists_plain_run after
  have hfind := find_nonblank_iff hrun hrest fun line hline =>
    hspaced line (List.mem_append_right run hline)
  rcases finish_snippet_cases run with ⟨hfinish, htrim⟩ | ⟨hfinish, htrim⟩
  · refine .inr ⟨hfind.mpr (trimBlankLines_eq_nil_iff.mp htrim), ?_⟩
    rw [groupLines_run hrun hrest, hfinish, List.nil_append]
    -- The first line behind the run decides the first block.
    cases rest with
    | nil => simp [groupLines, groupFrom, OpenBlock.none, OpenBlock.finish, trimBlankLines]
    | cons line rest =>
        intro lines more
        rw [groupLines, groupFrom]
        rcases line.trichotomy with ⟨d, hline⟩ | ⟨text, hline⟩ | hline
        · rw [OpenBlock.step_directive _ hline]
          simp [OpenBlock.none, OpenBlock.finish, trimBlankLines]
        · rw [OpenBlock.step_opener _ hline]
          obtain ⟨body, tail, rfl, hbody⟩ :=
            CommentBuffer.exists_collects (.ofOpener text) rest
          simp [hbody.groupFrom_eq, OpenBlock.none, OpenBlock.finish, trimBlankLines]
        · exact absurd hline (hrest line rfl)
  · obtain ⟨gap, tail, hsplit, hgap, htail⟩ := trimBlankLines_split run
    have hsnippet := isSnippet_trimBlankLines hrun htrim
    refine .inl ⟨?_, gap, trimBlankLines run, tail, rest, ?_, htrim, ?_⟩
    · by_contra hnone
      refine htrim (trimBlankLines_eq_nil_iff.mpr (hfind.mp ?_))
      intro next hnext
      by_contra hends
      exact hnone ⟨next, hnext, hends⟩
    · refine ⟨?_, hgap, hsnippet.head_not_blank, ?_, hsnippet.last_not_blank, htail, ?_⟩
      · conv_lhs => rw [hsplit]
        simp
      · intro line hline hends
        exact Line.endsCode_iff.mp hends (hsnippet.plain line hline)
      · exact fun line hline => Line.endsCode_iff.mpr (hrest line hline)
    · rw [groupLines_run hrun hrest, hfinish]
      rfl

end Literate
