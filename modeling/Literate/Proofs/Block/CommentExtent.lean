import Literate.Proofs.Block.Collecting
import Literate.Proofs.Block.Opener
import Literate.Proofs.Text.Terminator

/-!
# How far a documentation comment goes

Lexing follows the nesting of comments along the lines of a source, and grouping follows it once
more along the fragments of a documentation comment. This file shows that both agree: a block
ends where a scan of the source from its opener comes back to the depth in front of the opener.
-/

namespace Literate

/-- The text up to the place where a nesting scan comes back to a depth, if it does. -/
def untilDepth? (floor : Nat) : Nat → Text → Option Text
  | _, [] => none
  | depth, '(' :: '*' :: ')' :: rest => (untilDepth? floor depth rest).map (['(', '*', ')'] ++ ·)
  | depth, '(' :: '*' :: rest => (untilDepth? floor (depth + 1) rest).map (['(', '*'] ++ ·)
  | depth, '*' :: ')' :: rest =>
      if depth - 1 = floor then some ['*', ')']
      else (untilDepth? floor (depth - 1) rest).map (['*', ')'] ++ ·)
  | depth, c :: rest => (untilDepth? floor depth rest).map ([c] ++ ·)

/-- The text that a scan closes on. -/
def CommentScan.body? : CommentScan → Option Text
  | .closed body _ => some body
  | .unclosed _ => none

theorem CommentScan.body?_prepend (scan : CommentScan) (lead : Text) :
    (scan.prepend lead).body? = scan.body?.map (lead ++ ·) := by
  cases scan <;> rfl

theorem CommentScan.body?_eq_some_iff {scan : CommentScan} {body : Text} :
    scan.body? = some body ↔ ∃ rest, scan = .closed body rest := by
  cases scan <;> simp [body?]

/-- Inside a comment it does not matter which depth a scan comes back to. -/
theorem untilDepth?_add (floor : Nat) {depth : Nat} (hdepth : 0 < depth) (t : Text) :
    untilDepth? floor (floor + depth) t = (scanComment depth t).body? := by
  fun_induction scanComment depth t with
  | case1 => rfl
  | case2 depth rest ih => rw [untilDepth?, ih hdepth, CommentScan.body?_prepend]
  | case3 depth rest hne ih =>
      rw [untilDepth?, Nat.add_assoc, ih (Nat.succ_pos _), CommentScan.body?_prepend]
      exact hne
  | case4 depth rest hle =>
      rw [untilDepth?, if_pos (by omega)]
      rfl
  | case5 depth rest hle ih =>
      rw [untilDepth?, if_neg (by omega), Nat.add_sub_assoc hdepth, ih (by omega),
        CommentScan.body?_prepend]
  | case6 depth c rest hstar hopener hcloser ih =>
      rw [untilDepth?, ih hdepth, CommentScan.body?_prepend]
      all_goals assumption

/-- From the opener of a documentation comment on, the nesting scan comes back to the depth in
front of the opener where a scan of its own closes. -/
theorem untilDepth?_docOpening (depth : Nat) (tail : Text) :
    untilDepth? depth depth (Line.docOpening ++ tail) =
      (scanComment 0 (Line.docOpening ++ tail)).body? := by
  have hhead : ('*' :: tail).head? ≠ some ')' := by simp
  have hscan : scanComment 0 (Line.docOpening ++ tail) = _ := scanComment_opener 0 hhead
  rw [hscan, CommentScan.body?_prepend, ← untilDepth?_add depth Nat.one_pos]
  exact untilDepth?.eq_3 depth depth ('*' :: tail) (by simp)

/-! ## The lines of a comment in the source -/

/-- The lines of a comment stand in the source as a slice that starts at the opener and that
reads as their texts. What is left of the opener's line behind the comment is the tail. -/
structure CommentStretch (source : Text) (line : Line) (opener : Text) (body rest : List Line)
    (head lead slice trail tail : Text) : Prop where
  source_eq : source = head ++ (lead ++ (slice ++ trail))
  start_eq : line.span.start = Text.byteSize head
  stop_eq : ∀ last ∈ (line :: body).getLast?,
    last.span.stop = Text.byteSize head + Text.byteSize lead + Text.byteSize slice
  text_eq : line.text = lead ++ opener ++ tail
  blank : ∀ c ∈ lead, isCodeSpace c = true
  opener_eq : ∃ inner, opener = Line.docOpening ++ inner
  whole : tail = [] ∨ ∃ inner after, scanComment 0 opener = .closed inner after
  free : ∀ next ∈ line :: body, '\n' ∉ next.text
  reads : Text.readBreaks slice =
    List.intercalate ['\n'] ((opener ++ tail) :: body.map Line.text)
  reads_append : Text.readBreaks (slice ++ trail) =
    Text.readBreaks slice ++ Text.readBreaks trail
  trails : ∃ back : List Text, (back ≠ [] → rest ≠ []) ∧ Trails back (Text.readBreaks trail)

/-- The last of some lexed lines ends behind the text of the last physical line. -/
theorem lexLines_last_stop {defined : List Text} {state : LexState} {number offset : Nat}
    {front : List Text} {raw : Text} {lines : List Line}
    (h : (lexLines defined state number offset (front ++ [raw])).lines = lines) :
    ∀ last ∈ lines.getLast?,
      last.span.stop = offset + rawSize front + Text.byteSize (withoutReturn raw) := by
  intro last hlast
  rw [← h, lexLines_append] at hlast
  simp only [lexLines, List.getLast?_concat] at hlast
  obtain rfl := Option.mem_some.mp hlast
  simp [Line.ofPieces, (lexLine_cut _ _ _ _).textOf_eq, Nat.add_assoc]

/-- A line and the lines behind it stand in the source as a slice that reads as their texts. -/
structure LineStretch (source : Text) (line : Line) (body rest : List Line)
    (head slice trail : Text) : Prop where
  source_eq : source = head ++ (slice ++ trail)
  start_eq : line.span.start = Text.byteSize head
  stop_eq : ∀ last ∈ (line :: body).getLast?,
    last.span.stop = Text.byteSize head + Text.byteSize slice
  free : ∀ next ∈ line :: body, '\n' ∉ next.text
  reads : Text.readBreaks slice = List.intercalate ['\n'] (line.text :: body.map Line.text)
  reads_append : Text.readBreaks (slice ++ trail) =
    Text.readBreaks slice ++ Text.readBreaks trail
  trails : ∃ back : List Text, (back ≠ [] → rest ≠ []) ∧ Trails back (Text.readBreaks trail)

theorem lexSource_lineStretch {defined : List Text} {source : Text} {line : Line}
    {front body rest : List Line}
    (hlines : (lexSource defined source).1 = front ++ line :: (body ++ rest)) :
    ∃ head slice trail, LineStretch source line body rest head slice trail := by
  -- The physical lines fall into those in front, those of the stretch and the rest.
  obtain ⟨rawFront, more, hraws, -, -, hmore⟩ := lexLines_eq_append hlines
  rw [← List.cons_append] at hmore
  obtain ⟨raws, back, rfl, -, hown, hrest⟩ := lexLines_eq_append hmore
  have htexts := lexLines_map_text hown
  obtain ⟨raw, rawMore, hrawsEq, hline⟩ := lexLines_head hown
  have hne : raws ≠ [] := hrawsEq ▸ List.cons_ne_nil raw rawMore
  obtain ⟨init, last, hlast⟩ := (List.eq_nil_or_concat' _).resolve_left hne
  have hbreaks := physicalLines_breaks source
  rw [hraws] at hbreaks
  have hfree : ∀ next ∈ line :: body, '\n' ∉ next.text := by
    intro next hnext
    have hmem : next.text ∈ raws.map withoutReturn := by
      rw [← htexts]
      exact List.mem_map_of_mem hnext
    obtain ⟨rawNext, hrawNext, hnextText⟩ := List.mem_map.mp hmem
    rw [← hnextText]
    exact hbreaks.not_mem_withoutReturn (by simp [hrawNext])
  obtain ⟨head, behind, hsource, hsize, hbreaks⟩ :=
    hbreaks.suffix (by simp [hrawsEq])
  rw [hlast, List.append_assoc, List.singleton_append] at hbreaks
  obtain ⟨slice, trail, rfl, hslice, hreads, happend, htrails⟩ := hbreaks.read
  rw [hlast] at hown htexts
  have hstop := lexLines_last_stop hown
  rw [← htexts, List.map_cons] at hreads
  refine ⟨head, slice, trail, hsource, ?_, ?_, hfree, hreads, happend, back, ?_, htrails⟩
  · rw [hline, hsize]
    exact Nat.zero_add _
  · intro final hfinal
    rw [hstop final hfinal, Nat.zero_add, ← hsize, hslice, Nat.add_assoc]
  · rintro hback rfl
    have hlength := congrArg List.length hrest
    rw [lexLines_length] at hlength
    exact hback (List.eq_nil_of_length_eq_zero hlength)

/-- On its line a documentation comment stands behind blanks, which are read as they are. -/
theorem lexSource_stretch {defined : List Text} {source opener : Text} {line : Line}
    {front body rest : List Line}
    (hlines : (lexSource defined source).1 = front ++ line :: (body ++ rest))
    (hopener : line.docOpener? = some opener) :
    ∃ head lead slice trail tail,
      CommentStretch source line opener body rest head lead slice trail tail := by
  obtain ⟨head, stretch, trail, hstretch⟩ := lexSource_lineStretch hlines
  obtain ⟨rawFront, raw, rawBack, -, -, hline⟩ := lexLines_split hlines
  rw [hline] at hopener
  obtain ⟨lead, inner, tail, hinner, hopens⟩ := lexLine_opensOn hopener
  have htext : line.text = lead ++ (opener ++ tail) := by
    rw [hline, Line.text_ofPieces, (lexLine_cut _ _ _ _).textOf_eq, hopens.line_eq]
    simp
  have hlead : ∀ d, isCodeSpace d = false → d ∉ lead := by
    intro d hd hmem
    rw [hopens.blank d hmem] at hd
    simp at hd
  have hreturn : '\r' ∉ lead := hlead '\r' (by decide)
  have hreads := hstretch.reads
  rw [htext, Text.intercalate_append_cons] at hreads
  obtain ⟨slice, rfl, hslice⟩ :=
    Text.readBreaks_eq_append (hlead '\n' (by decide)) hreads
  have happend := hstretch.reads_append
  rw [List.append_assoc, Text.readBreaks_append_of_no_return lead hreturn,
    Text.readBreaks_append_of_no_return lead hreturn, List.append_assoc] at happend
  refine ⟨head, lead, slice, trail, tail, by simpa using hstretch.source_eq, hstretch.start_eq, ?_,
    ?_, hopens.blank, ⟨inner, hinner⟩, hopens.whole, hstretch.free, hslice,
    List.append_cancel_left happend, hstretch.trails⟩
  · intro last hlast
    rw [hstretch.stop_eq last hlast, Text.byteSize_append, Nat.add_assoc]
  · rw [htext, List.append_assoc]

/-! ## The extent of a comment -/

theorem CommentBuffer.Encloses.reads {closing inner : Text} (h : Encloses closing inner) :
    Encloses (Text.readBreaks closing) (Text.readBreaks inner) := by
  cases h with
  | between =>
      have hcloser : Text.readBreaks (inner ++ ['*', ')']) = Text.readBreaks inner ++ ['*', ')'] :=
        Text.readBreaks_append inner (by simp)
      have hread : Text.readBreaks ('(' :: '*' :: '*' :: (inner ++ ['*', ')'])) = _ :=
        Text.readBreaks_append_of_no_return ['(', '*', '*'] (by decide) (inner ++ ['*', ')'])
      rw [hread, hcloser]
      exact .between _
  | shared => exact .shared

/-- The nesting depth that a mode stands for. -/
def LexMode.depth : LexMode → Nat
  | .comment depth _ => depth
  | .code => 0
  | .string _ _ => 0

/-- The nesting depth of the lexer on a line of a source, behind the first characters of it. -/
def depthBehind (defined : List Text) (source : Text) (index : Nat) (lead : Text) : Nat :=
  let front := (physicalLines source).take index
  let state := (lexLines defined .initial 1 0 front).after
  (linePieces state.mode (rawSize front) lead).2.depth

/-- A line behind others opens a documentation comment: its first characters are blank, and
behind them, where the nesting has a depth, the opener stands in front of a text. -/
structure OpenedAt (defined : List Text) (source : Text) (front : List Line) (line : Line)
    (depth start : Nat) (tail : Text) : Prop where
  opens : ∃ opener, line.Opens opener
  place : ∃ head lead, source = head ++ (lead ++ (Line.docOpening ++ tail)) ∧
    line.span.start = Text.byteSize head ∧
    start = Text.byteSize (head ++ lead ++ Line.docOpening) ∧
    (∀ c ∈ lead, isCodeSpace c = true) ∧
    depth = depthBehind defined source front.length lead

/-- The text of a documentation comment whose opener stands at a nesting depth in front of a
text, on a line with some lines behind it, and the lines that are no part of the comment. -/
inductive CommentExtent (depth start : Nat) (tail : Text) (line : Line) (after : List Line) :
    Text → List Line → Prop where
  /-- The nesting comes back to the depth on the line of the opener, or on a later line up to
  which all lines continue the comment. -/
  | closes {closing inner : Text}
      (hclosing : untilDepth? depth depth (Line.docOpening ++ tail) = some closing)
      (hlines : closing.count '\n' ≤ after.length)
      (hcontinues : ∀ next ∈ after.take (closing.count '\n'), next.Continues)
      (hinner : CommentBuffer.Encloses closing inner) :
      CommentExtent depth start tail line after (Text.readBreaks inner)
        (after.drop (closing.count '\n'))
  /-- Otherwise the comment goes on to the end of the last line in front of the first line that
  cannot continue it. -/
  | runsOn {body rest : List Line} {slice behind : Text}
      (hopen : ∀ closing, untilDepth? depth depth (Line.docOpening ++ tail) = some closing →
        ∃ next ∈ after.take (closing.count '\n'), ¬ next.Continues)
      (hafter : after = body ++ rest) (hbody : ∀ next ∈ body, next.Continues)
      (hrest : ∀ next ∈ rest.head?, ¬ next.Continues) (htail : tail = slice ++ behind)
      (hstop : ∀ last ∈ (line :: body).getLast?, last.span.stop = start + Text.byteSize slice) :
      CommentExtent depth start tail line after (Text.readBreaks slice) rest

namespace CommentStretch

variable {source opener head lead slice trail tail : Text} {line : Line} {body rest : List Line}

theorem opener_free (h : CommentStretch source line opener body rest head lead slice trail tail) :
    '\n' ∉ opener := by
  intro hmem
  apply h.free line (by simp)
  rw [h.text_eq]
  simp [hmem]

/-- A comment whose opener already closes collects nothing, and an open one closes on the last
line that it collects. -/
theorem count_eq (h : CommentStretch source line opener body rest head lead slice trail tail)
    (hcollects : (CommentBuffer.ofOpener opener).Collects body rest) {closing behind : Text}
    (hclosed : scanComment 0 ((CommentBuffer.ofOpener opener).pushLines body).joined =
      .closed closing behind) : closing.count '\n' = body.length := by
  have hfollows := CommentBuffer.ofOpener_follows opener
  cases hscan : scanComment 0 (CommentBuffer.ofOpener opener).joined with
  | unclosed depth =>
      rw [hcollects.count_of_closed hfollows (fun next hnext => h.free next (by simp [hnext]))
        hscan hclosed, CommentBuffer.joined_ofOpener, List.count_eq_zero_of_not_mem h.opener_free,
        Nat.zero_add]
  | closed inner after =>
      obtain rfl := hcollects.eq_nil_of_closed (hfollows.isClosed_iff.mpr ⟨_, _, hscan⟩)
      rw [CommentBuffer.pushLines_nil, CommentBuffer.joined_ofOpener] at hclosed
      apply List.count_eq_zero_of_not_mem
      intro hmem
      apply h.opener_free
      rw [scanComment_closed hclosed]
      exact List.mem_append_left _ hmem

/-- The slice reads as the fragments, and as what the opener's line holds behind the comment. -/
theorem reads_joined (h : CommentStretch source line opener body rest head lead slice trail tail)
    (hcollects : (CommentBuffer.ofOpener opener).Collects body rest) :
    Text.readBreaks slice = ((CommentBuffer.ofOpener opener).pushLines body).joined ++ tail := by
  have hfollows := CommentBuffer.ofOpener_follows opener
  rw [h.reads, hfollows.joined_pushLines, CommentBuffer.joined_ofOpener]
  rcases h.whole with rfl | ⟨inner, after, hclosed⟩
  · simp
  · rw [← CommentBuffer.joined_ofOpener opener] at hclosed
    obtain rfl := hcollects.eq_nil_of_closed (hfollows.isClosed_iff.mpr ⟨_, _, hclosed⟩)
    simp

/-- The fragments are as many as the lines. -/
theorem count_joined (h : CommentStretch source line opener body rest head lead slice trail tail) :
    ((CommentBuffer.ofOpener opener).pushLines body).joined.count '\n' = body.length := by
  rw [(CommentBuffer.ofOpener_follows opener).joined_pushLines, CommentBuffer.joined_ofOpener,
    Text.count_intercalate, List.length_map]
  intro piece hpiece
  rcases List.mem_cons.mp hpiece with rfl | hpiece
  · exact h.opener_free
  · obtain ⟨next, hnext, rfl⟩ := List.mem_map.mp hpiece
    exact h.free next (List.mem_cons_of_mem line hnext)

/-- Behind a comment that stays open nothing is left of the opener's line. -/
theorem tail_eq_nil (h : CommentStretch source line opener body rest head lead slice trail tail)
    (hcollects : (CommentBuffer.ofOpener opener).Collects body rest) {depth : Nat}
    (hopen : scanComment 0 ((CommentBuffer.ofOpener opener).pushLines body).joined =
      .unclosed depth) : tail = [] := by
  apply h.whole.resolve_right
  rintro ⟨inner, after, hclosed⟩
  rw [← CommentBuffer.joined_ofOpener opener] at hclosed
  have hisClosed := (CommentBuffer.ofOpener_follows opener).isClosed_iff.mpr ⟨_, _, hclosed⟩
  obtain rfl := hcollects.eq_nil_of_closed hisClosed
  rw [CommentBuffer.pushLines_nil, hclosed] at hopen
  simp at hopen

/-- The fragments, and so the slice, begin with the opener. -/
theorem exists_inner (h : CommentStretch source line opener body rest head lead slice trail tail)
    (hcollects : (CommentBuffer.ofOpener opener).Collects body rest) :
    ∃ inner slice', slice = Line.docOpening ++ slice' ∧ Text.readBreaks slice' = inner ++ tail ∧
      ((CommentBuffer.ofOpener opener).pushLines body).joined = Line.docOpening ++ inner := by
  obtain ⟨first, hopener⟩ := h.opener_eq
  have hjoined := (CommentBuffer.ofOpener_follows opener).joined_pushLines body
  rw [CommentBuffer.joined_ofOpener, hopener, Text.intercalate_append_cons] at hjoined
  have hreads := h.reads_joined hcollects
  rw [hopener, hjoined, List.append_assoc] at hreads
  obtain ⟨slice', hslice, hslice'⟩ := Text.readBreaks_eq_append (by decide) hreads
  exact ⟨_, slice', hslice, hslice', hopener ▸ hjoined⟩

/-- A comment that its fragments close goes as far as a scan of the source does. -/
theorem extent_of_closed
    (h : CommentStretch source line opener body rest head lead (Line.docOpening ++ slice) trail
      tail)
    (hcollects : (CommentBuffer.ofOpener opener).Collects body rest) {fragment behind : Text}
    (hscan : scanComment 0 ((CommentBuffer.ofOpener opener).pushLines body).joined =
      .closed fragment behind) (depth start : Nat) :
    CommentExtent depth start (slice ++ trail) line (body ++ rest)
      ((CommentBuffer.ofOpener opener).pushLines body).content rest := by
  have hfollows := (CommentBuffer.ofOpener_follows opener).pushLines body
  have hreads := h.reads_append
  rw [h.reads_joined hcollects, List.append_assoc, List.append_assoc] at hreads
  obtain ⟨closing, after, hclosing, rfl⟩ := scanComment_of_reads_closed hreads hscan
  obtain ⟨enclosed, hencloses⟩ := CommentBuffer.exists_encloses hclosing
  have hcount := h.count_eq hcollects hscan
  rw [Text.count_readBreaks] at hcount
  rw [hfollows.content_of_encloses hscan hencloses.reads]
  suffices hextent : CommentExtent depth start (slice ++ trail) line (body ++ rest)
      (Text.readBreaks enclosed) ((body ++ rest).drop (closing.count '\n')) by
    rwa [hcount, List.drop_left] at hextent
  refine .closes ?_ ?_ ?_ hencloses
  · rw [untilDepth?_docOpening, hclosing]
    rfl
  · simp [hcount]
  · rw [hcount, List.take_left]
    exact hcollects.continues

/-- A comment that its fragments leave open goes on up to the line that stops it, and a scan of
the source closes behind that line or nowhere. -/
theorem extent_of_unclosed
    (h : CommentStretch source line opener body rest head lead (Line.docOpening ++ slice) trail
      tail)
    (hcollects : (CommentBuffer.ofOpener opener).Collects body rest) {reached : Nat}
    (hscan : scanComment 0 ((CommentBuffer.ofOpener opener).pushLines body).joined =
      .unclosed reached) (depth : Nat) :
    CommentExtent depth (Text.byteSize (head ++ lead ++ Line.docOpening)) (slice ++ trail) line
      (body ++ rest) ((CommentBuffer.ofOpener opener).pushLines body).content rest := by
  have hfollows := (CommentBuffer.ofOpener_follows opener).pushLines body
  have hreads := h.reads_append
  rw [h.reads_joined hcollects, List.append_assoc, List.append_assoc] at hreads
  obtain ⟨inner, slice', hopening, hslice, hjoined⟩ := h.exists_inner hcollects
  obtain rfl := List.append_cancel_left hopening
  obtain rfl := h.tail_eq_nil hcollects hscan
  rw [List.append_nil] at hslice
  rw [hfollows.content_of_unclosed hjoined hscan, ← hslice]
  have hhead := hcollects.head_not_continues (hfollows.isClosed_eq_false hscan)
  refine .runsOn ?_ rfl hcollects.continues hhead rfl ?_
  · intro closing hclosing
    rw [untilDepth?_docOpening, CommentScan.body?_eq_some_iff] at hclosing
    obtain ⟨behind, hclosing⟩ := hclosing
    obtain ⟨back, hback, htrails⟩ := h.trails
    obtain ⟨hne, hlt⟩ :=
      scanComment_of_reads_unclosed hreads hscan (by simpa using htrails) hclosing
    obtain ⟨next, more, rfl⟩ := List.exists_cons_of_ne_nil (hback hne)
    rw [h.count_joined] at hlt
    obtain ⟨k, hk⟩ := Nat.exists_eq_add_of_lt hlt
    refine ⟨next, ?_, hhead next rfl⟩
    rw [hk, Nat.add_assoc, List.take_length_add_append]
    simp
  · intro last hlast
    rw [h.stop_eq last hlast]
    simp [Nat.add_assoc]

end CommentStretch

/-- Lexing and grouping agree on where a documentation comment ends. -/
theorem groupLines_comment_extent {defined : List Text} {source text : Text}
    {blocks more : List Block}
    (h : groupLines (lexSource defined source).1 = blocks ++ .comment text :: more) :
    ∃ front line after depth start tail rest,
      (lexSource defined source).1 = front ++ line :: after ∧
      groupLines front = blocks ∧
      OpenedAt defined source front line depth start tail ∧
      CommentExtent depth start tail line after text rest ∧
      groupLines rest = more := by
  obtain ⟨front, line, opener, body, rest, hlines, hfront, hopens, hcollects, rfl, hrest⟩ :=
    (Grouped.iff_eq.mpr h).at_comment rfl
  obtain ⟨head, lead, slice, trail, tail, hstretch⟩ :=
    lexSource_stretch hlines hopens.docOpener
  obtain ⟨inner, slice, rfl, -, -⟩ := hstretch.exists_inner hcollects
  refine ⟨front, line, body ++ rest, depthBehind defined source front.length lead,
    Text.byteSize (head ++ lead ++ Line.docOpening), slice ++ trail, rest, hlines,
    Grouped.iff_eq.mp hfront, ?_, ?_, Grouped.iff_eq.mp hrest⟩
  · refine ⟨⟨opener, hopens⟩, head, lead, ?_, hstretch.start_eq, rfl, hstretch.blank, rfl⟩
    rw [hstretch.source_eq, List.append_assoc]
  · cases hscan : scanComment 0 ((CommentBuffer.ofOpener opener).pushLines body).joined with
    | closed fragment behind => exact hstretch.extent_of_closed hcollects hscan _ _
    | unclosed reached => exact hstretch.extent_of_unclosed hcollects hscan _

/-- An indented comment with a nested one, over two lines of which the first ends in a carriage
return. -/
theorem groupLines_comment_extent_nested :
    groupLines (lexSource [] " (** a\r\n (* b *)*)\n".toList).1 =
      [] ++ .comment " a\n (* b *)".toList :: [] ∧
    ∃ front line after depth start tail rest,
      (lexSource [] " (** a\r\n (* b *)*)\n".toList).1 = front ++ line :: after ∧
      groupLines front = [] ∧
      OpenedAt [] " (** a\r\n (* b *)*)\n".toList front line depth start tail ∧
      CommentExtent depth start tail line after " a\n (* b *)".toList rest ∧
      groupLines rest = [] :=
  ⟨by decide +kernel, groupLines_comment_extent (by decide +kernel)⟩

end Literate
