import Literate.Proofs.Script.CodeStep
import Literate.Proofs.Script.Nesting
import Literate.Proofs.Script.Place
import Literate.Proofs.Text.Trim

/-!
# Lexing cuts every line

Every way to lex a line cuts the line into pieces that are not empty and make up the line
again. Lines are lexed one after the other, each from the state that the lines before it leave.
-/

namespace Literate

/-- Pieces that cut a text: none of them is empty, and together they are the text. -/
structure Piece.Cut (pieces : List Piece) (t : Text) : Prop where
  textOf_eq : Piece.textOf pieces = t
  text_ne_nil : ∀ piece ∈ pieces, piece.text ≠ []

namespace Piece.Cut

theorem nil : Cut [] [] := ⟨rfl, by simp⟩

theorem eq_nil {pieces : List Piece} (h : Cut pieces []) : pieces = [] := by
  cases pieces with
  | nil => rfl
  | cons piece pieces =>
      have htext := h.textOf_eq
      rw [textOf_cons, List.append_eq_nil_iff] at htext
      exact absurd htext.1 (h.text_ne_nil piece List.mem_cons_self)

theorem cons {piece : Piece} {pieces : List Piece} {t : Text} (hpiece : piece.text ≠ [])
    (h : Cut pieces t) : Cut (piece :: pieces) (piece.text ++ t) where
  textOf_eq := by rw [textOf_cons, h.textOf_eq]
  text_ne_nil := by simpa using ⟨hpiece, h.text_ne_nil⟩

theorem append {front back : List Piece} {s t : Text} (hfront : Cut front s)
    (hback : Cut back t) : Cut (front ++ back) (s ++ t) where
  textOf_eq := by rw [textOf_append, hfront.textOf_eq, hback.textOf_eq]
  text_ne_nil := by
    intro piece hpiece
    rcases List.mem_append.mp hpiece with h | h
    · exact hfront.text_ne_nil piece h
    · exact hback.text_ne_nil piece h

theorem ofText (kind : TokenKind) (t : Text) : Cut (Piece.ofText kind t) t := by
  cases t with
  | nil => exact nil
  | cons c rest => exact ⟨by simp [Piece.ofText], by simp [Piece.ofText]⟩

end Piece.Cut

theorem wholeLine_cut (kind : TokenKind) (t : Text) : Piece.Cut (wholeLine kind t) t := by
  have h := (Piece.Cut.ofText .whitespace (t.takeWhile isBlank)).append
    ((Piece.Cut.ofText kind (Text.trim t)).append
      (.ofText .whitespace ((Text.trimStart t).rtakeWhile isBlank)))
  rwa [Text.takeWhile_append_trim_append] at h

theorem codePieces_cut (offset : Nat) (t : Text) : Piece.Cut (codePieces offset t).1 t := by
  fun_induction codePieces offset t with
  | case1 => exact .nil
  | case2 offset c rest step opened hopened =>
      obtain ⟨htext, hne⟩ := codeStep_covers c rest
      rw [codeStep_rest_of_opened hopened] at htext
      rw [← htext]
      exact .cons hne .nil
  | case3 offset c rest step hopened pieces mode hpieces ih =>
      obtain ⟨htext, hne⟩ := codeStep_covers c rest
      rw [← htext]
      rw [hpieces] at ih
      exact .cons hne ih

theorem scanString_front_ne_nil {kind : StringKind} {t : Text} {split : Split}
    (h : scanString kind t = some split) : split.front ≠ [] := by
  fun_induction scanString kind t generalizing split with
  | case1 => simp at h
  | case2 => simp at h; simp [← h]
  | case4 => simp at h
  | case6 => simp at h; simp [← h]
  | case9 => simp at h; simp [← h]
  | _ =>
      obtain ⟨inner, -, rfl⟩ := Option.map_eq_some_iff.1 h
      simp [Split.prepend]

theorem linePieces_cut (mode : LexMode) (offset : Nat) (t : Text) :
    Piece.Cut (linePieces mode offset t).1 t := by
  cases mode with
  | code => exact codePieces_cut offset t
  | comment depth start =>
      simp only [linePieces]
      split
      next body rest h =>
        have hcut := codePieces_cut (offset + Text.byteSize body) rest
        rw [scanComment_closed h]
        exact hcut.cons (scanComment_closed_ne_nil h)
      next => exact .ofText .comment t
  | string kind start =>
      simp only [linePieces]
      split
      next split h =>
        have hcut := codePieces_cut (offset + Text.byteSize split.front) split.rest
        rw [scanString_split h]
        exact hcut.cons (scanString_front_ne_nil h)
      next => exact .ofText .string t

/-- The pieces of a line are those of its mode, or the line is one piece between its blanks. -/
theorem lexLine_pieces_cases (defined : List Text) (state : LexState) (offset : Nat) (t : Text) :
    (lexLine defined state offset t).pieces = (linePieces state.mode offset t).1 ∨
      (lexLine defined state offset t).pieces = wholeLine .preprocessor t ∨
      (lexLine defined state offset t).pieces = wholeLine .inactive t := by
  obtain ⟨mode, branches⟩ := state
  cases mode with
  | code =>
      simp only [lexLine]
      split
      · exact .inr (.inl rfl)
      · split
        · exact .inl rfl
        · exact .inr (.inr rfl)
  | comment depth start => exact .inl rfl
  | string kind start => exact .inl rfl

theorem lexLine_cut (defined : List Text) (state : LexState) (offset : Nat) (t : Text) :
    Piece.Cut (lexLine defined state offset t).pieces t := by
  rcases lexLine_pieces_cases defined state offset t with h | h | h
  · rw [h]
    exact linePieces_cut state.mode offset t
  · rw [h]
    exact wholeLine_cut .preprocessor t
  · rw [h]
    exact wholeLine_cut .inactive t

/-- Lexing goes line by line: what stands in front decides the state, the line number and the
offset that the lines behind it start from. -/
theorem lexLines_append (defined : List Text) (state : LexState) (number offset : Nat)
    (front back : List Text) :
    lexLines defined state number offset (front ++ back) =
      let run := lexLines defined state number offset front
      let more := lexLines defined run.after (number + front.length) (offset + rawSize front) back
      ⟨run.lines ++ more.lines, run.problems ++ more.problems, more.after⟩ := by
  induction front generalizing state number offset with
  | nil => simp [lexLines]
  | cons raw front ih =>
      simp only [List.cons_append, lexLines, ih]
      simp [Nat.add_assoc, Nat.add_comm 1]

theorem lexLines_length (defined : List Text) (state : LexState) (number offset : Nat)
    (raws : List Text) :
    (lexLines defined state number offset raws).lines.length = raws.length := by
  induction raws generalizing state number offset with
  | nil => rfl
  | cons raw raws ih => simp [lexLines, ih]

/-- Lexed lines that fall into two parts come from physical lines that do, and the second part
is lexed from where the first one ends. -/
theorem lexLines_eq_append {defined : List Text} {state : LexState} {number offset : Nat}
    {raws : List Text} {before after : List Line}
    (h : (lexLines defined state number offset raws).lines = before ++ after) :
    ∃ front back, raws = front ++ back ∧ front.length = before.length ∧
      (lexLines defined state number offset front).lines = before ∧
      (lexLines defined (lexLines defined state number offset front).after
        (number + front.length) (offset + rawSize front) back).lines = after := by
  have hle : before.length ≤ raws.length := by
    rw [← lexLines_length defined state number offset raws, h]
    simp
  have hlength : (raws.take before.length).length = before.length := List.length_take_of_le hle
  have hraws := List.take_append_drop before.length raws
  rw [← hraws, lexLines_append] at h
  obtain ⟨hbefore, hafter⟩ := List.append_inj h (by rw [lexLines_length, hlength])
  exact ⟨_, _, hraws.symm, hlength, hbefore, hafter⟩

/-- The first of some lexed lines. -/
theorem lexLines_head {defined : List Text} {state : LexState} {number offset : Nat}
    {raws : List Text} {line : Line} {lines : List Line}
    (h : (lexLines defined state number offset raws).lines = line :: lines) :
    ∃ raw more, raws = raw :: more ∧ line = Line.ofPieces number offset
      (lexLine defined state offset (withoutReturn raw)).pieces := by
  cases raws with
  | nil => simp [lexLines] at h
  | cons raw more => exact ⟨raw, more, rfl, (List.cons.inj h).1.symm⟩

/-- Around each line of a stretch, the physical lines in front of it and behind it and the
state that it is lexed in. -/
theorem lexLines_split {defined : List Text} {state : LexState} {number offset : Nat}
    {raws : List Text} {before after : List Line} {line : Line}
    (h : (lexLines defined state number offset raws).lines = before ++ line :: after) :
    ∃ front raw back, raws = front ++ raw :: back ∧ front.length = before.length ∧
      line = Line.ofPieces (number + front.length) (offset + rawSize front)
        (lexLine defined (lexLines defined state number offset front).after
          (offset + rawSize front) (withoutReturn raw)).pieces := by
  obtain ⟨front, rest, rfl, hlength, -, hrest⟩ := lexLines_eq_append h
  obtain ⟨raw, back, rfl, hline⟩ := lexLines_head hrest
  exact ⟨front, raw, back, rfl, hlength, hline⟩

/-- The text of a lexed line is its physical line without the carriage return. -/
theorem lexLines_map_text {defined : List Text} {state : LexState} {number offset : Nat}
    {raws : List Text} {lines : List Line}
    (h : (lexLines defined state number offset raws).lines = lines) :
    lines.map Line.text = raws.map withoutReturn := by
  induction raws generalizing state number offset lines with
  | nil =>
      rw [← h]
      rfl
  | cons raw raws ih =>
      rw [← h]
      simp [lexLines, ih rfl, (lexLine_cut _ _ _ _).textOf_eq]

end Literate
