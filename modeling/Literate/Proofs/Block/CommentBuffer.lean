import Literate.Block.CommentBuffer
import Literate.Proofs.Script.Nesting
import Literate.Proofs.Text.Break

/-!
# Comment buffers follow one scan

A buffer scans its fragments one at a time. What it knows at any time is what one scan of the
joined fragments from depth zero would find, because the line feeds between fragments are part
of no mark.
-/

namespace Literate

namespace Text

@[simp] theorem takeBytes_byteSize_append (s t : Text) : takeBytes (byteSize s) (s ++ t) = s := by
  induction s with
  | nil =>
      cases t with
      | nil => rfl
      | cons c t =>
          have := c.utf8Size_pos
          rw [byteSize_nil, List.nil_append, takeBytes, if_neg (by omega)]
  | cons c s ih => simp [takeBytes, ih]

@[simp] theorem dropBytes_byteSize_append (s t : Text) : dropBytes (byteSize s) (s ++ t) = t := by
  induction s with
  | nil =>
      cases t with
      | nil => rfl
      | cons c t =>
          have := c.utf8Size_pos
          rw [byteSize_nil, List.nil_append, dropBytes, if_neg (by omega)]
  | cons c s ih => simp [dropBytes, ih]

end Text

namespace CommentBuffer

/-- What a scan of the joined fragments finds is what the buffer says. -/
def Agrees (buffer : CommentBuffer) : CommentScan → Prop
  | .closed body _ => buffer.closer = some (Text.byteSize body - closerSize)
  | .unclosed depth => buffer.closer = none ∧ buffer.depth = depth

/-- A buffer that follows the scan of its joined fragments. -/
structure Follows (buffer : CommentBuffer) : Prop where
  fragments_ne_nil : buffer.fragments ≠ []
  size_eq : buffer.size = Text.byteSize buffer.joined
  agrees : buffer.Agrees (scanComment 0 buffer.joined)

theorem push_fragments (buffer : CommentBuffer) (fragment : Text) :
    (buffer.push fragment).fragments = buffer.fragments ++ [fragment] := by
  unfold push
  dsimp only
  split
  · rfl
  split <;> rfl

theorem joined_push {buffer : CommentBuffer} (h : buffer.fragments ≠ []) (fragment : Text) :
    (buffer.push fragment).joined = buffer.joined ++ '\n' :: fragment := by
  rw [joined, push_fragments, Text.intercalate_append _ h (by simp)]
  simp [joined]

theorem joined_ofOpener (opener : Text) : (ofOpener opener).joined = opener := by
  rw [joined, ofOpener, push_fragments]
  exact List.intercalate_singleton

theorem ofOpener_follows (text : Text) : (ofOpener text).Follows := by
  have hjoined := joined_ofOpener text
  refine ⟨?_, ?_, ?_⟩
  · rw [ofOpener, push_fragments]
    simp [empty]
  · rw [hjoined]
    unfold ofOpener push
    simp only [empty]
    split <;> simp
  · rw [hjoined]
    unfold ofOpener push
    simp only [empty]
    split
    next body rest h => simp [h, Agrees]
    next depth h => simp [h, Agrees]

theorem Follows.push {buffer : CommentBuffer} (h : buffer.Follows) (fragment : Text) :
    (buffer.push fragment).Follows := by
  have hjoined := joined_push h.fragments_ne_nil fragment
  have hempty : buffer.fragments.isEmpty = false := by simpa using h.fragments_ne_nil
  have hagrees := h.agrees
  refine ⟨by rw [push_fragments]; simp, ?_, ?_⟩
  · rw [hjoined, Text.byteSize_append, Text.byteSize_cons, utf8Size_feed, ← h.size_eq]
    unfold CommentBuffer.push
    simp only [hempty]
    split
    · simp [Nat.add_assoc]
    split <;> simp [Nat.add_assoc]
  · rw [hjoined]
    cases hscan : scanComment 0 buffer.joined with
    | closed body rest =>
        -- Neither the buffer nor the scan looks at anything behind a closer.
        rw [hscan] at hagrees
        rw [scanComment_append_of_closed hscan]
        simp only [Agrees] at hagrees ⊢
        simp [CommentBuffer.push, hagrees]
    | unclosed depth =>
        -- The line feed makes no mark, so both scan the fragment from the same depth.
        rw [hscan] at hagrees
        obtain ⟨hcloser, hdepth⟩ := hagrees
        rw [scanComment_append_of_unclosed hscan isNoMark_feed]
        unfold CommentBuffer.push
        simp only [hcloser, hdepth, hempty]
        cases scanComment depth fragment with
        | closed body rest =>
            simp [CommentScan.prepend, Agrees, h.size_eq, utf8Size_feed, Nat.add_assoc]
        | unclosed reached => simp [CommentScan.prepend, Agrees]

/-- The buffer after several fragments. -/
def pushAll (buffer : CommentBuffer) (fragments : List Text) : CommentBuffer :=
  fragments.foldl push buffer

theorem Follows.pushAll {buffer : CommentBuffer} (h : buffer.Follows) (fragments : List Text) :
    (buffer.pushAll fragments).Follows := by
  induction fragments generalizing buffer with
  | nil => exact h
  | cons fragment fragments ih => exact ih (h.push fragment)

theorem Follows.joined_pushAll {buffer : CommentBuffer} (h : buffer.Follows)
    (fragments : List Text) : (buffer.pushAll fragments).joined =
      List.intercalate ['\n'] (buffer.joined :: fragments) := by
  induction fragments generalizing buffer with
  | nil => exact List.intercalate_singleton.symm
  | cons fragment fragments ih =>
      have hmore : (buffer.pushAll (fragment :: fragments)).joined = _ := ih (h.push fragment)
      rw [hmore, joined_push h.fragments_ne_nil]
      calc
        _ = buffer.joined ++ List.intercalate ['\n'] ((['\n'] ++ fragment) :: fragments) :=
          Text.intercalate_append_cons _ _ _ _
        _ = buffer.joined ++ (['\n'] ++ List.intercalate ['\n'] (fragment :: fragments)) := by
          rw [Text.intercalate_append_cons]
        _ = List.intercalate ['\n'] (buffer.joined :: fragment :: fragments) := by
          rw [List.intercalate_cons_cons, List.append_assoc]

theorem byteSize_opener : Text.byteSize ['(', '*', '*'] = openerSize := by decide

/-- A text that begins with the opener of a documentation comment has room for it. -/
theorem min_openerSize (inner : Text) :
    min openerSize (Text.byteSize ('(' :: '*' :: '*' :: inner)) = openerSize := by
  have hsize : Text.byteSize (['(', '*', '*'] ++ inner) = openerSize + Text.byteSize inner := by
    rw [Text.byteSize_append, byteSize_opener]
  exact Nat.min_eq_left (hsize ▸ Nat.le_add_right _ _)

theorem byteSize_closer : Text.byteSize ['*', ')'] = closerSize := by decide

namespace Follows

variable {buffer : CommentBuffer}

/-- A buffer is closed when the scan of its joined fragments closes. -/
theorem isClosed_iff (h : buffer.Follows) :
    buffer.isClosed = true ↔ ∃ body rest, scanComment 0 buffer.joined = .closed body rest := by
  have hagrees := h.agrees
  cases hscan : scanComment 0 buffer.joined with
  | closed body rest =>
      rw [hscan] at hagrees
      simp [isClosed, show buffer.closer = _ from hagrees]
  | unclosed depth =>
      rw [hscan] at hagrees
      simp [isClosed, hagrees.1]

/-- The closer of a buffer stands where one scan of the joined fragments closes. -/
theorem closer_eq_some_iff (h : buffer.Follows) {offset : Nat} :
    buffer.closer = some offset ↔ ∃ front rest,
      scanComment 0 buffer.joined = .closed (front ++ ['*', ')']) rest ∧
        Text.byteSize front = offset := by
  have hagrees := h.agrees
  cases hscan : scanComment 0 buffer.joined with
  | closed body behind =>
      rw [hscan] at hagrees
      obtain ⟨front, rfl⟩ := scanComment_closed_eq hscan
      rw [show buffer.closer = _ from hagrees, Text.byteSize_append, byteSize_closer,
        Nat.add_sub_cancel]
      constructor
      · intro hoffset
        exact ⟨front, behind, rfl, Option.some.inj hoffset⟩
      · rintro ⟨other, rest, hclosed, rfl⟩
        rw [List.append_cancel_right (CommentScan.closed.inj hclosed).1]
  | unclosed depth =>
      rw [hscan] at hagrees
      simp [hagrees.1]

theorem closer_eq_none_iff (h : buffer.Follows) :
    buffer.closer = none ↔ ∃ depth, scanComment 0 buffer.joined = .unclosed depth := by
  have hagrees := h.agrees
  cases hscan : scanComment 0 buffer.joined with
  | closed body behind =>
      rw [hscan] at hagrees
      simp [show buffer.closer = _ from hagrees]
  | unclosed depth =>
      rw [hscan] at hagrees
      simp [hagrees.1]

theorem content_eq {front rest : Text} (hjoined : buffer.joined = front ++ rest)
    (hstop : buffer.closer.getD (Text.byteSize buffer.joined) = Text.byteSize front) :
    buffer.content = Text.dropBytes (min openerSize (Text.byteSize front)) front := by
  unfold content
  dsimp only
  rw [hstop, hjoined, Text.takeBytes_byteSize_append]

theorem dropBytes_opener (inner : Text) :
    Text.dropBytes (min openerSize (Text.byteSize ('(' :: '*' :: '*' :: inner)))
      ('(' :: '*' :: '*' :: inner) = inner := by
  rw [min_openerSize, ← byteSize_opener]
  exact Text.dropBytes_byteSize_append ['(', '*', '*'] inner

/-- A closed buffer ends its content in front of the closer. -/
theorem content_of_closed (h : buffer.Follows) {front rest : Text}
    (hscan : scanComment 0 buffer.joined = .closed (front ++ ['*', ')']) rest) :
    buffer.content = Text.dropBytes (min openerSize (Text.byteSize front)) front := by
  have hjoined := scanComment_closed hscan
  rw [List.append_assoc] at hjoined
  apply content_eq hjoined
  rw [h.closer_eq_some_iff.mpr ⟨front, rest, hscan, rfl⟩, Option.getD_some]

/-- Without a closer the content goes on to the end. -/
theorem content_of_unclosed (h : buffer.Follows) {depth : Nat} {inner : Text}
    (hjoined : buffer.joined = '(' :: '*' :: '*' :: inner)
    (hscan : scanComment 0 buffer.joined = .unclosed depth) : buffer.content = inner := by
  have hstop : buffer.closer.getD (Text.byteSize buffer.joined) =
      Text.byteSize buffer.joined := by
    rw [h.closer_eq_none_iff.mpr ⟨depth, hscan⟩, Option.getD_none]
  rw [content_eq (List.append_nil _).symm hstop, hjoined, dropBytes_opener]

end Follows

/-- The text between the opener and the closer of a comment that closes. The opener and the
closer of the shortest comment share a star, and nothing stands between them. -/
inductive Encloses : Text → Text → Prop where
  | between (inner : Text) : Encloses ('(' :: '*' :: '*' :: (inner ++ ['*', ')'])) inner
  | shared : Encloses ['(', '*', '*', ')'] []

/-- A scan from the opener of a documentation comment closes on the enclosed text. -/
theorem exists_encloses {tail body rest : Text}
    (hscan : scanComment 0 ('(' :: '*' :: '*' :: tail) = .closed body rest) :
    ∃ inner, Encloses body inner := by
  obtain ⟨front, rfl⟩ := scanComment_closed_eq hscan
  have hfront := scanComment_closed hscan
  -- The body ends in the closer and begins with the opener: they may overlap in the star only.
  match front with
  | [] => simp at hfront
  | [a] => simp at hfront
  | [a, b] =>
      simp only [List.cons_append, List.cons.injEq] at hfront
      obtain ⟨rfl, rfl, -⟩ := hfront
      exact ⟨[], .shared⟩
  | a :: b :: c :: inner =>
      simp only [List.cons_append, List.cons.injEq] at hfront
      obtain ⟨rfl, rfl, rfl, -⟩ := hfront
      exact ⟨inner, .between inner⟩

/-- The content of a closed buffer is what its comment encloses. -/
theorem Follows.content_of_encloses {buffer : CommentBuffer} (h : buffer.Follows)
    {body rest inner : Text} (hscan : scanComment 0 buffer.joined = .closed body rest)
    (hinner : Encloses body inner) : buffer.content = inner := by
  cases hinner with
  | between =>
      have hfront : '(' :: '*' :: '*' :: (inner ++ ['*', ')']) =
          ('(' :: '*' :: '*' :: inner) ++ ['*', ')'] := rfl
      rw [hfront] at hscan
      rw [h.content_of_closed hscan, dropBytes_opener]
  | shared =>
      have hcontent : buffer.content = Text.dropBytes _ ['(', '*'] := h.content_of_closed hscan
      rw [hcontent]
      rfl

/-! ## One scan -/

namespace Follows

variable {buffer : CommentBuffer}

/-- The content of a buffer lies in the joined fragments between whole characters: it begins behind
the opener, or at the closer if that comes first, and it ends at the closer or with the text. -/
theorem exists_slice (h : buffer.Follows) {tail : Text}
    (hjoined : buffer.joined = '(' :: '*' :: '*' :: tail) :
    ∃ head rest, buffer.joined = head ++ (buffer.content ++ rest) ∧
      Text.byteSize head = min openerSize (buffer.closer.getD (Text.byteSize buffer.joined)) ∧
      Text.byteSize (head ++ buffer.content) =
        buffer.closer.getD (Text.byteSize buffer.joined) := by
  cases hscan : scanComment 0 buffer.joined with
  | unclosed depth =>
      have hcontent := h.content_of_unclosed hjoined hscan
      rw [h.closer_eq_none_iff.mpr ⟨depth, hscan⟩, Option.getD_none, hcontent, hjoined,
        min_openerSize]
      exact ⟨['(', '*', '*'], [], by simp, byteSize_opener, rfl⟩
  | closed body rest =>
      have htext := scanComment_closed hscan
      obtain ⟨inner, hinner⟩ := exists_encloses (hjoined ▸ hscan)
      have hcontent := h.content_of_encloses hscan hinner
      cases hinner with
      | between =>
          have hcloser := h.closer_eq_some_iff.mpr ⟨'(' :: '*' :: '*' :: inner, rest, hscan, rfl⟩
          rw [hcloser, Option.getD_some, hcontent, min_openerSize]
          exact ⟨['(', '*', '*'], '*' :: ')' :: rest, by simp [htext], byteSize_opener, rfl⟩
      | shared =>
          have hcloser := h.closer_eq_some_iff.mpr ⟨['(', '*'], rest, hscan, rfl⟩
          rw [hcloser, Option.getD_some, hcontent]
          exact ⟨['(', '*'], '*' :: ')' :: rest, htext, by decide, rfl⟩

/-- Where the closer overlaps the opener, the two share a star and nothing is between them. -/
theorem content_of_overlap (h : buffer.Follows) {tail : Text}
    (hjoined : buffer.joined = '(' :: '*' :: '*' :: tail) {offset : Nat}
    (hcloser : buffer.closer = some offset) (hoverlap : offset < openerSize) :
    buffer.content = [] ∧ ['(', '*', '*', ')'] <+: buffer.joined := by
  obtain ⟨front, rest, hscan, rfl⟩ := h.closer_eq_some_iff.mp hcloser
  have htext := scanComment_closed hscan
  obtain ⟨inner, hinner⟩ := exists_encloses (hjoined ▸ hscan)
  have hcontent := h.content_of_encloses hscan hinner
  generalize hbody : front ++ ['*', ')'] = body at hinner htext
  cases hinner with
  | between =>
      have hfront : front = '(' :: '*' :: '*' :: inner :=
        List.append_cancel_right (hbody.trans (List.append_assoc ['(', '*', '*'] inner _).symm)
      have hopener := min_openerSize inner
      rw [← hfront] at hopener
      omega
  | shared => exact ⟨hcontent, rest, htext.symm⟩

end Follows

/-- A buffer that was opened with a documentation comment knows, after any further fragments, what
one scan of the joined fragments from depth zero finds: the offset of the closer that the scan
closes on, if it does, and the number of bytes. Its content is the part of the joined fragments
from the opener up to the closer, or up to the end without one, cut between whole characters; it is
empty where the closer overlaps the opener. -/
theorem pushAll_follows_one_scan (tail : Text) (fragments : List Text) :
    let buffer := (ofOpener ('(' :: '*' :: '*' :: tail)).pushAll fragments
    let joined := List.intercalate ['\n'] (('(' :: '*' :: '*' :: tail) :: fragments)
    let stop := buffer.closer.getD (Text.byteSize joined)
    (∀ offset, buffer.closer = some offset ↔ ∃ front rest,
      scanComment 0 joined = .closed (front ++ ['*', ')']) rest ∧
        Text.byteSize front = offset) ∧
    (buffer.closer = none ↔ ∃ depth, scanComment 0 joined = .unclosed depth) ∧
    buffer.size = Text.byteSize joined ∧
    (∃ head rest, joined = head ++ (buffer.content ++ rest) ∧
      Text.byteSize head = min 3 stop ∧ Text.byteSize (head ++ buffer.content) = stop) ∧
    ∀ offset < 3, buffer.closer = some offset →
      buffer.content = [] ∧ ['(', '*', '*', ')'] <+: joined := by
  intro buffer joined stop
  have hfollows : buffer.Follows := (ofOpener_follows _).pushAll fragments
  have hjoined : buffer.joined = joined := by
    rw [(ofOpener_follows _).joined_pushAll, joined_ofOpener]
  have hopener : buffer.joined =
      '(' :: '*' :: '*' :: List.intercalate ['\n'] (tail :: fragments) := by
    rw [hjoined]
    exact Text.intercalate_append_cons ['\n'] ['(', '*', '*'] tail fragments
  have hslice := hfollows.exists_slice hopener
  rw [← hjoined]
  refine ⟨?_, hfollows.closer_eq_none_iff, hfollows.size_eq, ?_, ?_⟩
  · intro offset
    exact hfollows.closer_eq_some_iff
  · rwa [hjoined] at hslice ⊢
  · intro offset hoverlap hcloser
    exact hfollows.content_of_overlap hopener hcloser hoverlap

-- A star and a parenthesis on two sides of a border make no closer.
example : ((ofOpener "(** a *".toList).pushAll [")".toList, "*) b".toList]).closer = some 10 := by
  decide +kernel

end CommentBuffer

end Literate
