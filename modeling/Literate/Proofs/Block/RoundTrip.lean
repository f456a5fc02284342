import Literate.Proofs.Block.Accounting
import Literate.Proofs.Block.Collecting
import Literate.Proofs.Block.Content
import Literate.Proofs.Block.DirectiveText
import Literate.Proofs.Script.CommentLines
import Literate.Proofs.Script.Relocation
import Mathlib.Data.List.Forall2

/-!
# Blocks are read as they are written

Blocks can be written one below the other as the lines of a source. When lexing starts each
block in code outside of all branches, and no block looks like another on the way, lexing and
grouping the source gives the blocks back.
-/

namespace Literate

namespace Block

/-- A documentation comment as it is written. -/
def wrapped (text : Text) : Text := '(' :: '*' :: '*' :: (text ++ ['*', ')'])

/-- The lines that a block is written as. -/
def writtenLines : Block → List Text
  | .comment text => List.splitOn '\n' (wrapped text)
  | .snippet lines => lines.map Line.text
  | .command d => [Directive.written d.options]

/-- Blocks as they are written. -/
def written (blocks : List Block) : Text :=
  List.intercalate ['\n'] (blocks.flatMap writtenLines)

/-- A block that can be written. -/
inductive CanBeWritten (defined : List Text) : Block → Prop where
  /-- A comment closes at its very end, none of its lines looks like an opener or a directive,
  and none ends in a carriage return. -/
  | comment {text : Text} (hclosed : scanComment 0 (wrapped text) = .closed (wrapped text) [])
      (hreturn : ∀ line ∈ List.splitOn '\n' text, line.getLast? ≠ some '\r')
      (hopener : ∀ line ∈ (List.splitOn '\n' text).tail, ¬ Line.docOpening <+: line)
      (hdirective : ∀ line ∈ List.splitOn '\n' (wrapped text), Directive.pairs? line = none) :
      CanBeWritten defined (.comment text)
  /-- A snippet holds the lines that lexing makes of its text alone, it is what a snippet should
  be, and nothing is left open behind it. -/
  | snippet {lines : List Line} (hlines : IsSnippet lines)
      (hfeed : ∀ line ∈ lines, '\n' ∉ line.text)
      (hlexed : (lexLines defined .initial 1 0 (lines.map Line.text)).lines = lines)
      (hafter : (lexLines defined .initial 1 0 (lines.map Line.text)).after = .initial) :
      CanBeWritten defined (.snippet lines)
  | command {d : Directive} (hoptions : Directive.CanBeWritten d.options) :
      CanBeWritten defined (.command d)

instance (defined : List Text) (block : Block) : Decidable (block.CanBeWritten defined) :=
  match block with
  | .comment text =>
      decidable_of_iff (scanComment 0 (wrapped text) = .closed (wrapped text) [] ∧
          (∀ line ∈ List.splitOn '\n' text, line.getLast? ≠ some '\r') ∧
          (∀ line ∈ (List.splitOn '\n' text).tail, ¬ Line.docOpening <+: line) ∧
          ∀ line ∈ List.splitOn '\n' (wrapped text), Directive.pairs? line = none)
        ⟨fun h => .comment h.1 h.2.1 h.2.2.1 h.2.2.2,
          fun | .comment h1 h2 h3 h4 => ⟨h1, h2, h3, h4⟩⟩
  | .snippet lines =>
      decidable_of_iff (IsSnippet lines ∧ (∀ line ∈ lines, '\n' ∉ line.text) ∧
          (lexLines defined .initial 1 0 (lines.map Line.text)).lines = lines ∧
          (lexLines defined .initial 1 0 (lines.map Line.text)).after = .initial)
        ⟨fun h => .snippet h.1 h.2.1 h.2.2.1 h.2.2.2,
          fun | .snippet h1 h2 h3 h4 => ⟨h1, h2, h3, h4⟩⟩
  | .command d =>
      decidable_of_iff (Directive.CanBeWritten d.options) ⟨.command, fun | .command h => h⟩

/-- The same block elsewhere: line numbers and spans may differ. -/
inductive Elsewhere : Block → Block → Prop where
  | comment (text : Text) : Elsewhere (.comment text) (.comment text)
  | snippet (lines : List Line) (further bytes : Nat) :
      Elsewhere (.snippet lines) (.snippet (lines.map (·.moved further bytes)))
  | command (options : Dict Text) (span other : Span) :
      Elsewhere (.command ⟨options, span⟩) (.command ⟨options, other⟩)

/-! ## The lines of a written comment -/

/-- The lines of a written comment: the first begins with the opener and no other does. -/
structure CommentLines (text inner : Text) (more : List Text) : Prop where
  lines_eq : List.splitOn '\n' (wrapped text) = ('(' :: '*' :: '*' :: inner) :: more
  return_eq : ∀ line ∈ ('(' :: '*' :: '*' :: inner) :: more, withoutReturn line = line
  no_opener : ∀ line ∈ more, ¬ Line.docOpening <+: line

/-- Behind an opener no line of a comment is its shortest form. -/
theorem not_docOpening_prefix_closer {reached : Nat} {last : Text} (hreached : 0 < reached)
    (hcomment : IsComment reached (last ++ ['*', ')'])) (hlast : ¬ Line.docOpening <+: last) :
    ¬ Line.docOpening <+: last ++ ['*', ')'] := by
  rintro ⟨rest, hrest⟩
  match last with
  | [] => simp [Line.docOpening] at hrest
  | [a] => simp [Line.docOpening] at hrest
  | [a, b] =>
      simp only [Line.docOpening, List.cons_append, List.cons.injEq] at hrest
      obtain ⟨rfl, rfl, -⟩ := hrest
      have hscan : scanComment reached ['(', '*', '*', ')'] = .unclosed reached := by
        rw [scanComment_opener reached (by simp), scanComment_closer, if_neg (by omega),
          scanComment_nil]
        rfl
      rw [IsComment, List.cons_append, List.cons_append, List.nil_append, hscan] at hcomment
      simp at hcomment
  | a :: b :: c :: more =>
      simp only [Line.docOpening, List.cons_append, List.cons.injEq] at hrest
      obtain ⟨rfl, rfl, rfl, -⟩ := hrest
      exact hlast ⟨more, rfl⟩

theorem withoutReturn_closer (t : Text) : withoutReturn (t ++ ['*', ')']) = t ++ ['*', ')'] := by
  apply withoutReturn_of_getLast?_ne
  rw [List.append_cons, List.getLast?_concat]
  simp

theorem withoutReturn_opener {first : Text} (h : first.getLast? ≠ some '\r') :
    withoutReturn (Line.docOpening ++ first) = Line.docOpening ++ first := by
  apply withoutReturn_of_getLast?_ne
  intro hlast
  cases first with
  | nil => simp [Line.docOpening] at hlast
  | cons c first => exact h (by simpa [Line.docOpening] using hlast)

/-- The line that closes a comment does not begin with an opener unless its text does. -/
theorem not_docOpening_prefix_last {first last : Text} {init : List Text}
    (h : IsComment 0 (List.intercalate ['\n']
      ((Line.docOpening ++ first) :: (init ++ [last ++ ['*', ')']]))))
    (hlast : ¬ Line.docOpening <+: last) : ¬ Line.docOpening <+: last ++ ['*', ')'] := by
  obtain ⟨reached, hscan, hrest⟩ := h.head (by simp)
  have hreached : 0 < reached := by
    have hopen : scanComment 0 (Line.docOpening ++ first) = _ := scanComment_docOpening first
    rw [hopen, CommentScan.prepend_eq_unclosed_iff] at hscan
    exact scanComment_unclosed_pos Nat.one_pos hscan
  obtain ⟨final, hfinal, hclosing⟩ := hrest.last hreached
  exact not_docOpening_prefix_closer hfinal hclosing hlast

theorem exists_commentLines {text : Text}
    (hclosed : scanComment 0 (wrapped text) = .closed (wrapped text) [])
    (hreturn : ∀ line ∈ List.splitOn '\n' text, line.getLast? ≠ some '\r')
    (hopener : ∀ line ∈ (List.splitOn '\n' text).tail, ¬ Line.docOpening <+: line) :
    ∃ inner more, CommentLines text inner more := by
  have hcloser : '\n' ∉ ['*', ')'] := by decide
  have hopening : '\n' ∉ Line.docOpening := by decide
  -- The opener goes in front of the first line of the text and the closer behind the last.
  obtain ⟨init, last, hpieces, happend⟩ := Text.exists_splitOn_append hcloser text
  have hwrapped : List.splitOn '\n' (wrapped text) =
      (init ++ [last ++ ['*', ')']]).modifyHead (Line.docOpening ++ ·) := by
    rw [← happend]
    exact Text.splitOn_append_of_not_mem hopening _
  rw [hpieces] at hreturn hopener
  cases init with
  | nil =>
      refine ⟨last ++ ['*', ')'], [], hwrapped, ?_, by simp⟩
      intro line hline
      rw [List.mem_singleton.mp hline]
      exact withoutReturn_closer (Line.docOpening ++ last)
  | cons first init =>
      refine ⟨first, init ++ [last ++ ['*', ')']], hwrapped, ?_, ?_⟩
      · intro line hline
        rcases List.mem_cons.mp hline with rfl | hline
        · exact withoutReturn_opener (hreturn first (by simp))
        · rcases List.mem_append.mp hline with hline | hline
          · exact withoutReturn_of_getLast?_ne (hreturn line (by simp [hline]))
          · rw [List.mem_singleton.mp hline]
            exact withoutReturn_closer last
      · intro line hline
        rcases List.mem_append.mp hline with hline | hline
        · exact hopener line (by simp [hline])
        · rw [List.mem_singleton.mp hline]
          have hjoined : List.intercalate ['\n'] (List.splitOn '\n' (wrapped text)) =
              wrapped text :=
            List.intercalate_splitOn '\n'
          rw [hwrapped] at hjoined
          have hcomment : IsComment 0 (List.intercalate ['\n']
              ((Line.docOpening ++ first) :: (init ++ [last ++ ['*', ')']]))) := by
            rw [IsComment]
            exact hjoined ▸ hclosed
          exact not_docOpening_prefix_last hcomment (hopener last (by simp))

/-! ## One block -/

/-- Lines that are read as a block, whatever blocks the lines behind them make. Behind a snippet
no line may follow that would join it. -/
structure ReadFrom (block : Block) (lines : List Line) : Prop where
  ne_nil : lines ≠ []
  head : ¬ block.IsSnippetBlock → ∀ line ∈ lines.head?, ¬ line.IsPlain
  group : ∀ {rest : List Line} {blocks : List Block}, Grouped [] rest blocks →
    (block.IsSnippetBlock → ∀ line ∈ rest.head?, ¬ line.IsPlain) →
    ∃ read, block.Elsewhere read ∧ Grouped [] (lines ++ rest) (read :: blocks)

theorem readFrom_comment {text inner : Text} {more : List Text}
    (hclosed : scanComment 0 (wrapped text) = .closed (wrapped text) [])
    (hdirective : ∀ line ∈ List.splitOn '\n' (wrapped text), Directive.pairs? line = none)
    (h : CommentLines text inner more) {lines : List Line}
    (hlines : lines.map Line.pieces =
      (('(' :: '*' :: '*' :: inner) :: more).map (Piece.ofText .comment)) :
    (Block.comment text).ReadFrom lines := by
  obtain ⟨line, body, rfl, hline, hbody⟩ := List.map_eq_cons_iff.mp hlines
  rw [h.lines_eq] at hdirective
  have hopens : line.Opens ('(' :: '*' :: '*' :: inner) :=
    Line.opens_of_comment hline (hdirective _ List.mem_cons_self) ⟨inner, rfl⟩
  have hcontinues : ∀ next ∈ body, next.Continues := by
    intro next hnext
    have hmem : next.pieces ∈ more.map (Piece.ofText .comment) := by
      rw [← hbody]
      exact List.mem_map_of_mem hnext
    obtain ⟨t, ht, hpieces⟩ := List.mem_map.mp hmem
    exact Line.continues_of_comment hpieces.symm (hdirective t (List.mem_cons_of_mem _ ht))
      (h.no_opener t ht)
  have htexts : body.map Line.text = more := by
    have hmap := congrArg (List.map Piece.textOf) hbody
    simpa [Function.comp_def, Line.textOf_ofText, ← Line.text_eq_textOf] using hmap
  have hfollows := CommentBuffer.ofOpener_follows ('(' :: '*' :: '*' :: inner)
  have hjoined : ((CommentBuffer.ofOpener ('(' :: '*' :: '*' :: inner)).pushLines body).joined =
      wrapped text := by
    rw [hfollows.joined_pushLines, CommentBuffer.joined_ofOpener, htexts, ← h.lines_eq,
      List.intercalate_splitOn]
  have hscan : scanComment 0
      ((CommentBuffer.ofOpener ('(' :: '*' :: '*' :: inner)).pushLines body).joined =
        .closed (wrapped text) [] := by
    rw [hjoined, hclosed]
  have hcontent := (hfollows.pushLines body).content_of_encloses hscan (.between text)
  refine ⟨by simp, ?_, ?_⟩
  · intro _ next hnext hplain
    obtain rfl := Option.mem_some.mp hnext
    have hopener := hopens.docOpener
    rw [hplain.not_opener] at hopener
    simp at hopener
  · intro rest blocks hrest _
    have hcollects := hfollows.collects hcontinues (by rw [IsComment, hscan, hjoined]) rest
    refine ⟨.comment text, .comment text, ?_⟩
    have hgrouped : Grouped [] (line :: (body ++ rest)) _ := .comment hopens hcollects hrest
    rw [hcontent] at hgrouped
    exact hgrouped

theorem readFrom_command {options : Dict Text} (h : Directive.CanBeWritten options) {span : Span}
    {line : Line} (hline : line.pieces = Piece.ofText .comment (Directive.written options)) :
    (Block.command ⟨options, span⟩).ReadFrom [line] := by
  have hdirective := Line.directive?_of_comment hline (h.parse_written line.span)
  refine ⟨by simp, ?_, ?_⟩
  · intro _ next hnext hplain
    obtain rfl := Option.mem_some.mp hnext
    rw [hplain.not_directive] at hdirective
    simp at hdirective
  · intro rest blocks hrest _
    exact ⟨_, .command options span line.span, .directive hdirective hrest⟩

theorem isSnippet_moved {lines : List Line} (h : IsSnippet lines) (further bytes : Nat) :
    IsSnippet (lines.map (·.moved further bytes)) where
  ne_nil := by simpa using h.ne_nil
  head_not_blank := by
    intro line hline
    rw [List.head?_map] at hline
    obtain ⟨first, hfirst, rfl⟩ := Option.map_eq_some_iff.mp hline
    rw [Line.isBlank_congr (Line.pieces_moved further bytes first)]
    exact h.head_not_blank first hfirst
  last_not_blank := by
    intro line hline
    rw [List.getLast?_map] at hline
    obtain ⟨last, hlast, rfl⟩ := Option.map_eq_some_iff.mp hline
    rw [Line.isBlank_congr (Line.pieces_moved further bytes last)]
    exact h.last_not_blank last hlast
  plain := by
    intro line hline
    obtain ⟨own, hown, rfl⟩ := List.mem_map.mp hline
    exact (Line.isPlain_congr (Line.pieces_moved further bytes own)).mpr (h.plain own hown)

theorem readFrom_snippet {lines : List Line} (h : IsSnippet lines) (further bytes : Nat) :
    (Block.snippet lines).ReadFrom (lines.map (·.moved further bytes)) := by
  have hmoved := isSnippet_moved h further bytes
  refine ⟨hmoved.ne_nil, fun hnot => absurd ⟨lines, rfl⟩ hnot, ?_⟩
  intro rest blocks hrest hhead
  refine ⟨_, .snippet lines further bytes, .plain_append hmoved.plain ?_⟩
  have hgrouped := hrest.behind_snippet (hhead ⟨lines, rfl⟩) (lines.map (·.moved further bytes))
  -- The snippet is trimmed when it is finished, which changes nothing.
  rcases finish_snippet_cases (lines.map (·.moved further bytes)) with ⟨-, hnil⟩ | ⟨hfinish, -⟩
  · rw [hmoved.trim_eq] at hnil
    exact absurd hnil hmoved.ne_nil
  · rw [hfinish, hmoved.trim_eq] at hgrouped
    exact hgrouped

/-- A block that is written in code outside of all branches is read from its lines, and lexing
is there again behind it. -/
theorem CanBeWritten.readFrom {defined : List Text} {block : Block}
    (h : block.CanBeWritten defined) (further bytes : Nat) :
    let run := lexLines defined .initial (1 + further) bytes block.writtenLines
    run.after = .initial ∧ block.ReadFrom run.lines := by
  cases h with
  | @comment text hclosed hreturn hopener hdirective =>
      obtain ⟨inner, more, hcomment⟩ := exists_commentLines hclosed hreturn hopener
      have hjoined : List.intercalate ['\n'] (List.splitOn '\n' (wrapped text)) = wrapped text :=
        List.intercalate_splitOn '\n'
      rw [hcomment.lines_eq] at hjoined
      have hrun := lexLines_comment defined (1 + further) bytes hcomment.return_eq
        (by rw [IsComment, hjoined, hclosed])
      simp only [writtenLines, hcomment.lines_eq]
      exact ⟨hrun.1, readFrom_comment hclosed hdirective hcomment hrun.2⟩
  | @snippet lines hlines hfeed hlexed hafter =>
      have hrun := lexLines_moved further bytes defined .initial 1 0 (lines.map Line.text)
      rw [Nat.zero_add] at hrun
      have hinitial : LexState.initial.relocate (· + bytes) = .initial := rfl
      rw [hinitial] at hrun
      simp only [writtenLines, hrun, LexRun.moved, hlexed, hafter, hinitial, true_and]
      exact readFrom_snippet hlines further bytes
  | @command d hoptions =>
      obtain ⟨options, span⟩ := d
      have hlexed : lexLine defined .initial bytes (Directive.written options) =
          ⟨[⟨.comment, Directive.written options⟩], [], .initial⟩ :=
        lexLine_of_isComment defined bytes hoptions.scanComment_written
      simp only [writtenLines, lexLines, Directive.CanBeWritten.withoutReturn_written, hlexed,
        true_and]
      exact readFrom_command hoptions (Line.pieces_ofPieces _ _ _)

/-! ## All blocks -/

/-- A lexed line without text is blank. -/
theorem isBlank_of_text_eq_nil {defined : List Text} {state : LexState} {number offset : Nat}
    {raws : List Text} {line : Line}
    (h : line ∈ (lexLines defined state number offset raws).lines) (htext : line.text = []) :
    line.isBlank = true := by
  obtain ⟨before, after, hlines⟩ := List.append_of_mem h
  obtain ⟨front, raw, back, -, -, rfl⟩ := lexLines_split hlines
  have hcut := lexLine_cut defined (lexLines defined state number offset front).after
    (offset + rawSize front) (withoutReturn raw)
  rw [Line.text_ofPieces, hcut.textOf_eq] at htext
  rw [htext] at hcut ⊢
  rw [Line.isBlank_eq_all, Line.pieces_ofPieces, hcut.eq_nil]
  rfl

theorem CanBeWritten.no_feed {defined : List Text} {block : Block}
    (h : block.CanBeWritten defined) : ∀ line ∈ block.writtenLines, '\n' ∉ line := by
  intro line hline
  cases h with
  | comment => exact Text.not_mem_of_mem_splitOn hline
  | snippet hlines hfeed =>
      obtain ⟨own, hown, rfl⟩ := List.mem_map.mp hline
      exact hfeed own hown
  | command hoptions =>
      rw [List.mem_singleton.mp hline]
      exact hoptions.no_feed

/-- The last line of a block is not empty. -/
theorem CanBeWritten.exists_last {defined : List Text} {block : Block}
    (h : block.CanBeWritten defined) :
    ∃ init last, block.writtenLines = init ++ [last] ∧ last ≠ [] := by
  cases h with
  | @comment text =>
      have hcloser : '\n' ∉ ['*', ')'] := by decide
      obtain ⟨init, last, -, happend⟩ :=
        Text.exists_splitOn_append hcloser ('(' :: '*' :: '*' :: text)
      exact ⟨init, last ++ ['*', ')'], happend, by simp⟩
  | @snippet lines hlines hfeed hlexed hafter =>
      obtain ⟨init, last, rfl⟩ := (List.eq_nil_or_concat' _).resolve_left hlines.ne_nil
      refine ⟨init.map Line.text, last.text, by simp [writtenLines], fun htext => ?_⟩
      have hmem : last ∈
          (lexLines defined .initial 1 0 ((init ++ [last]).map Line.text)).lines := by
        rw [hlexed]
        simp
      have hblank := hlines.last_not_blank last (by simp)
      rw [isBlank_of_text_eq_nil hmem htext] at hblank
      simp at hblank
  | @command d => exact ⟨[], _, rfl, by simp [Directive.written, Directive.spelled]⟩

theorem physicalLines_written {defined : List Text} {blocks : List Block} (hne : blocks ≠ [])
    (h : ∀ block ∈ blocks, block.CanBeWritten defined) :
    physicalLines (written blocks) = blocks.flatMap writtenLines := by
  have hfree : ∀ line ∈ blocks.flatMap writtenLines, '\n' ∉ line := by
    intro line hline
    obtain ⟨block, hblock, hmem⟩ := List.mem_flatMap.mp hline
    exact (h block hblock).no_feed line hmem
  obtain ⟨front, block, rfl⟩ := (List.eq_nil_or_concat' _).resolve_left hne
  obtain ⟨init, last, hlines, hlast⟩ := (h block (by simp)).exists_last
  have hall : (front ++ [block]).flatMap writtenLines =
      (front.flatMap writtenLines ++ init) ++ [last] := by
    simp [List.flatMap_append, hlines]
  rw [hall] at hfree
  rw [written, hall]
  exact physicalLines_intercalate hfree hlast

/-- Written blocks are read block by block. -/
theorem grouped_written {defined : List Text} {blocks : List Block}
    (hwritten : ∀ block ∈ blocks, block.CanBeWritten defined)
    (hchain : blocks.IsChain NotBothSnippets) (further bytes : Nat) :
    let run := lexLines defined .initial (1 + further) bytes (blocks.flatMap writtenLines)
    (∀ line ∈ run.lines.head?, ∃ block ∈ blocks.head?,
      ¬ block.IsSnippetBlock → ¬ line.IsPlain) ∧
    ∃ reads, List.Forall₂ Elsewhere blocks reads ∧ Grouped [] run.lines reads := by
  induction blocks generalizing further bytes with
  | nil => exact ⟨by simp [lexLines], [], .nil, .ends⟩
  | cons block blocks ih =>
      obtain ⟨hafter, hread⟩ := (hwritten block List.mem_cons_self).readFrom further bytes
      obtain ⟨hhead, reads, hreads, hgrouped⟩ :=
        ih (fun next hnext => hwritten next (List.mem_cons_of_mem block hnext)) hchain.tail
          (further + block.writtenLines.length) (bytes + rawSize block.writtenLines)
      rw [← Nat.add_assoc] at hhead hgrouped
      simp only [List.flatMap_cons, lexLines_append, hafter]
      constructor
      · intro line hline
        refine ⟨block, rfl, fun hsnippet => hread.head hsnippet line ?_⟩
        obtain ⟨first, more, hlines⟩ := List.exists_cons_of_ne_nil hread.ne_nil
        rw [hlines] at hline ⊢
        exact hline
      · -- Behind a snippet the next block is none, so its first line joins no snippet.
        have hbehind : block.IsSnippetBlock → ∀ line ∈ (lexLines defined .initial
            (1 + further + block.writtenLines.length) (bytes + rawSize block.writtenLines)
            (blocks.flatMap writtenLines)).lines.head?, ¬ line.IsPlain := by
          intro hsnippet line hline
          obtain ⟨next, hnext, hplain⟩ := hhead line hline
          exact hplain fun hboth => hchain.rel_head? hnext ⟨hsnippet, hboth⟩
        obtain ⟨read, helsewhere, hall⟩ := hread.group hgrouped hbehind
        exact ⟨read :: reads, .cons helsewhere hreads, hall⟩

end Block

/-- Blocks that are written as a source are read again, all of them, in order and with the same
content. -/
theorem groupLines_written {defined : List Text} {blocks : List Block}
    (hwritten : ∀ block ∈ blocks, block.CanBeWritten defined)
    (hchain : blocks.IsChain NotBothSnippets) :
    List.Forall₂ Block.Elsewhere blocks
      (groupLines (lexSource defined (Block.written blocks)).1) := by
  by_cases hne : blocks = []
  · -- No blocks are written as an empty source, which still has one blank line.
    subst hne
    have hlines : (lexSource defined (Block.written [])).1 =
        [Line.ofPieces 1 0 (lexLine defined .initial 0 []).pieces] := rfl
    have hpieces : (lexLine defined .initial 0 []).pieces = [] :=
      (lexLine_cut defined .initial 0 []).eq_nil
    rw [hlines, hpieces]
    exact .nil
  · obtain ⟨-, reads, hreads, hgrouped⟩ := Block.grouped_written hwritten hchain 0 0
    rw [← Block.physicalLines_written hne hwritten] at hgrouped
    have hgroup : groupLines (lexSource defined (Block.written blocks)).1 = reads :=
      hgrouped.groupFrom_eq
    rw [hgroup]
    exact hreads

/-- Blocks of every kind, with texts that look like the ends of others. -/
def Block.sample : List Block := [
  .comment " A title\n\n(nested (* comment *)) *".toList,
  .command ⟨Dict.ofList [("hide".toList, []), ("name".toList, "a, b: (c)".toList)], ⟨0, 0⟩⟩,
  .snippet (lexSource ["DEBUG".toList] "let s = \"(** no *)\"\n\n(* plain *)".toList).1,
  .comment []]

theorem groupLines_written_sample :
    (∀ block ∈ Block.sample, block.CanBeWritten ["DEBUG".toList]) ∧
    Block.sample.IsChain NotBothSnippets ∧
    List.Forall₂ Block.Elsewhere Block.sample
      (groupLines (lexSource ["DEBUG".toList] (Block.written Block.sample)).1) :=
  ⟨by decide +kernel, by decide +kernel,
    groupLines_written (by decide +kernel) (by decide +kernel)⟩

end Literate
