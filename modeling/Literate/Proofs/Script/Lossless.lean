import Literate.Proofs.Script.Cut

/-!
# Lexing loses nothing

The pieces of a line, put down one after the other, stand where their texts stand in the source,
so that only line terminators are left between the tokens of a script.
-/

namespace Literate

/-- What is exact about a line of a source: its text and its tokens stand where their spans
say, the tokens tile the line, and they count from its number and its first character. -/
structure Line.ExactIn (source : Text) (line : Line) : Prop where
  text_standsAt : StandsAt source line.span line.text
  tokens_tile : Token.Tile line.span.start line.tokens line.span.stop
  token_ne_nil : ∀ token ∈ line.tokens, token.text ≠ []
  token_standsAt : ∀ token ∈ line.tokens, StandsAt source token.span token.text
  token_line : ∀ token ∈ line.tokens, token.position.line = line.number
  token_column : ∀ token ∈ line.tokens, ∃ lead,
    StandsAt source ⟨line.span.start, token.span.start⟩ lead ∧
      token.position.column = 1 + lead.length

/-- Pieces that cut a text make an exact line where the text stands. -/
theorem Piece.Cut.exactIn {before t after : Text} {pieces : List Piece} (h : Cut pieces t)
    (number : Nat) :
    (Line.ofPieces number (Text.byteSize before) pieces).ExactIn (before ++ t ++ after) where
  text_standsAt := by
    rw [Line.text_ofPieces, h.textOf_eq]
    exact ⟨before, after, rfl, rfl, by simp [Line.ofPieces, h.textOf_eq]⟩
  tokens_tile := placed_tile h.text_ne_nil
  token_ne_nil := by
    intro token htoken
    obtain ⟨front, piece, back, rfl, rfl⟩ := mem_placed_iff.mp htoken
    exact h.text_ne_nil piece (by simp)
  token_standsAt := by
    intro token htoken
    obtain ⟨front, piece, back, rfl, rfl⟩ := mem_placed_iff.mp htoken
    refine ⟨before ++ textOf front, textOf back ++ after, ?_, by simp, rfl⟩
    rw [← h.textOf_eq]
    simp
  token_line := by
    intro token htoken
    obtain ⟨front, piece, back, rfl, rfl⟩ := mem_placed_iff.mp htoken
    rfl
  token_column := by
    intro token htoken
    obtain ⟨front, piece, back, rfl, rfl⟩ := mem_placed_iff.mp htoken
    refine ⟨textOf front, ⟨before, piece.text ++ textOf back ++ after, ?_, rfl, rfl⟩, rfl⟩
    rw [← h.textOf_eq]
    simp

theorem exists_split_of_getElem? {α : Type} {l : List α} {index : Nat} {a : α}
    (h : l[index]? = some a) : ∃ front back, l = front ++ a :: back ∧ front.length = index := by
  obtain ⟨hlt, rfl⟩ := List.getElem?_eq_some_iff.mp h
  refine ⟨l.take index, l.drop (index + 1), by simp, ?_⟩
  exact List.length_take_of_le (Nat.le_of_lt hlt)

/-- A byte that lies on the text of one of some physical lines, the first of which starts at
an offset. -/
def OnText : Nat → List Text → Nat → Prop
  | _, [], _ => False
  | start, raw :: raws, offset =>
      (start ≤ offset ∧ offset < start + Text.byteSize (withoutReturn raw)) ∨
        OnText (start + Text.byteSize raw + 1) raws offset

theorem OnText.le {start offset : Nat} {raws : List Text} (h : OnText start raws offset) :
    start ≤ offset := by
  induction raws generalizing start with
  | nil => exact h.elim
  | cons raw raws ih =>
      rcases h with h | h
      · exact h.1
      · have := ih h; omega

/-- The tokens of lexed lines cover the texts of the lines and nothing else. -/
theorem lexLines_covers_iff (defined : List Text) (state : LexState) (number start : Nat)
    (raws : List Text) (offset : Nat) :
    (∃ line ∈ (lexLines defined state number start raws).lines, ∃ token ∈ line.tokens,
      token.span.start ≤ offset ∧ offset < token.span.stop) ↔ OnText start raws offset := by
  induction raws generalizing state number start with
  | nil => simp [lexLines, OnText]
  | cons raw raws ih =>
      have hcut := lexLine_cut defined state start (withoutReturn raw)
      have htile : Token.Tile start (Line.ofPieces number start
          (lexLine defined state start (withoutReturn raw)).pieces).tokens
          (start + Text.byteSize (withoutReturn raw)) := by
        simpa only [Line.ofPieces, hcut.textOf_eq] using Piece.placed_tile hcut.text_ne_nil
      simp only [lexLines, List.mem_cons, exists_eq_or_imp, ih, OnText, htile.covers_iff]

/-- What the lines of a source leave out: every line feed, and the one carriage return directly
before a line feed or at the end. -/
def IsTerminator (c : Char) (after : Text) : Prop :=
  c = '\n' ∨ (c = '\r' ∧ (after = [] ∨ after.head? = some '\n'))

/-- On a physical line only a carriage return at its very end is no part of its text. -/
theorem lt_withoutReturn_iff {before after : Text} {c : Char} {start offset : Nat}
    (hlow : start + Text.byteSize before ≤ offset)
    (hhigh : offset < start + Text.byteSize before + c.utf8Size) :
    offset < start + Text.byteSize (withoutReturn (before ++ c :: after)) ↔
      ¬ (c = '\r' ∧ after = []) := by
  rcases List.eq_nil_or_concat after with rfl | ⟨body, last, rfl⟩
  · by_cases hc : c = '\r'
    · subst hc
      rw [withoutReturn_append_return]
      simpa using hlow
    · rw [withoutReturn_of_getLast?_ne (by simpa using hc)]
      simp [hc]
      omega
  · have hline : before ++ c :: (body ++ [last]) = (before ++ c :: body) ++ [last] := by simp
    rw [List.concat_eq_append, hline]
    by_cases hlast : last = '\r'
    · subst hlast
      rw [withoutReturn_append_return]
      simp
      omega
    · rw [withoutReturn_of_getLast?_ne (by rw [List.getLast?_concat]; simpa using hlast)]
      simp
      omega

/-- A character of a source stands on its first physical line, is the line feed behind that
line, or stands behind the line feed. -/
theorem append_feed_cases {raw rest before after : Text} {c : Char}
    (h : raw ++ '\n' :: rest = before ++ c :: after) :
    (∃ tail, raw = before ++ c :: tail ∧ after = tail ++ '\n' :: rest) ∨
    (before = raw ∧ c = '\n' ∧ after = rest) ∨
    (∃ lead, before = raw ++ '\n' :: lead ∧ rest = lead ++ c :: after) := by
  rcases List.append_eq_append_iff.mp h with ⟨lead, hbefore, hlead⟩ | ⟨tail, hraw, htail⟩
  · cases lead with
    | nil =>
        obtain ⟨rfl, rfl⟩ := List.cons.inj hlead
        exact .inr (.inl ⟨by simpa using hbefore, rfl, rfl⟩)
    | cons d lead =>
        obtain ⟨rfl, rfl⟩ := List.cons.inj hlead
        exact .inr (.inr ⟨lead, hbefore, rfl⟩)
  · cases tail with
    | nil =>
        obtain ⟨rfl, rfl⟩ := List.cons.inj htail
        exact .inr (.inl ⟨by simpa using hraw.symm, rfl, rfl⟩)
    | cons d tail =>
        obtain ⟨rfl, rfl⟩ := List.cons.inj htail
        exact .inl ⟨tail, hraw, rfl⟩

/-- On a physical line, a terminator is a carriage return at the end of the line. -/
theorem isTerminator_iff_of_not_mem {before tail rest : Text} {c : Char}
    (hraw : '\n' ∉ before ++ c :: tail) (hrest : rest = [] ∨ rest.head? = some '\n') :
    IsTerminator c (tail ++ rest) ↔ c = '\r' ∧ tail = [] := by
  have hc : c ≠ '\n' := by rintro rfl; simp at hraw
  cases tail with
  | nil => simp [IsTerminator, hc, hrest]
  | cons d tail =>
      have hd : d ≠ '\n' := by rintro rfl; simp at hraw
      simp [IsTerminator, hc, hd]

/-- A character stands on the text of a line unless it is a terminator. -/
theorem LineBreaks.onText_iff {raws : List Text} {source before after : Text} {c : Char}
    {start offset : Nat} (h : LineBreaks raws source) (hsource : source = before ++ c :: after)
    (hlow : start + Text.byteSize before ≤ offset)
    (hhigh : offset < start + Text.byteSize before + c.utf8Size) :
    OnText start raws offset ↔ ¬ IsTerminator c after := by
  induction h generalizing before start with
  | last hraw =>
      subst hsource
      have hend : IsTerminator c (after ++ []) ↔ c = '\r' ∧ after = [] :=
        isTerminator_iff_of_not_mem hraw (.inl rfl)
      rw [List.append_nil] at hend
      rw [hend, ← lt_withoutReturn_iff hlow hhigh]
      simp only [OnText, or_false]
      omega
  | @ended raw hraw =>
      have hle := byteSize_withoutReturn_le raw
      rcases append_feed_cases hsource with ⟨tail, rfl, rfl⟩ | ⟨rfl, rfl, rfl⟩ | ⟨lead, -, hlead⟩
      · rw [isTerminator_iff_of_not_mem hraw (.inr rfl), ← lt_withoutReturn_iff hlow hhigh]
        simp only [OnText, or_false]
        omega
      · rw [utf8Size_feed] at hhigh
        simp only [OnText, or_false, IsTerminator, true_or, not_true_eq_false,
          iff_false]
        omega
      · simp at hlead
  | @more raw rest raws hraw hrest ih =>
      have hle := byteSize_withoutReturn_le raw
      rcases append_feed_cases hsource with ⟨tail, rfl, rfl⟩ | ⟨rfl, rfl, rfl⟩ | ⟨lead, rfl, rfl⟩
      · -- On the first line: the lines behind it start further on.
        rw [isTerminator_iff_of_not_mem hraw (.inr rfl), ← lt_withoutReturn_iff hlow hhigh]
        have hnot : ¬ OnText (start + Text.byteSize (before ++ c :: tail) + 1) raws offset := by
          intro hon
          have := hon.le
          simp at this
          omega
        simp only [OnText, hnot, or_false]
        omega
      · -- The line feed stands between the texts of two lines.
        rw [utf8Size_feed] at hhigh
        have hnot : ¬ OnText (start + Text.byteSize before + 1) raws offset := by
          intro hon
          have := hon.le
          omega
        simp only [OnText, hnot, or_false, IsTerminator, true_or, not_true_eq_false,
          iff_false]
        omega
      · -- Behind the line feed the first line is out of reach.
        simp only [Text.byteSize_append, Text.byteSize_cons, utf8Size_feed] at hlow hhigh
        have hih : OnText (start + Text.byteSize raw + 1) raws offset ↔ _ :=
          ih rfl (by omega) (by omega)
        have hnot : ¬ (start ≤ offset ∧
            offset < start + Text.byteSize (withoutReturn raw)) := by omega
        rw [← hih]
        simp only [OnText, hnot, false_or]

/-- The pieces of a source between line feeds, without the empty piece after a final one. -/
def feedPieces (source : Text) : List Text :=
  if source.getLast? = some '\n' then (source.splitOn '\n').dropLast else source.splitOn '\n'

theorem physicalLines_eq_feedPieces (source : Text) :
    physicalLines source = feedPieces source := by
  simp only [physicalLines, feedPieces]

/-- Lines that lose nothing of a source. -/
structure Lossless (source : Text) (lines : List Line) : Prop where
  length_eq : lines.length = (feedPieces source).length
  /-- A line is the piece of its index without the carriage return at its end. It starts
  behind the pieces before it and their line feeds. -/
  line_at : ∀ index line raw, lines[index]? = some line → (feedPieces source)[index]? = some raw →
    raw = line.text ++ (if raw.getLast? = some '\r' then ['\r'] else []) ∧
      line.number = index + 1 ∧ line.span.start = rawSize ((feedPieces source).take index)
  exactIn : ∀ line ∈ lines, line.ExactIn source
  /-- Tokens cover all bytes but those of the terminators. -/
  covered_iff : ∀ before c after offset, source = before ++ c :: after →
    Text.byteSize before ≤ offset → offset < Text.byteSize before + c.utf8Size →
    ((∃ line ∈ lines, ∃ token ∈ line.tokens,
      token.span.start ≤ offset ∧ offset < token.span.stop) ↔ ¬ IsTerminator c after)

/-- Lexing loses nothing of a source, whatever symbols are defined for it, and the places of
its lines and tokens are exact. -/
theorem tokenize_lossless (request : SourceRequest) :
    Lossless request.source (tokenize request).lines := by
  obtain ⟨source, fileId, defines, options⟩ := request
  have hbreaks := physicalLines_breaks source
  rw [physicalLines_eq_feedPieces] at hbreaks
  simp only [tokenize, lexSource, physicalLines_eq_feedPieces]
  constructor
  · exact lexLines_length _ _ _ _ _
  · intro index line raw hline hraw
    obtain ⟨before, after, hlines, rfl⟩ := exists_split_of_getElem? hline
    obtain ⟨front, raw', back, hraws, hlength, rfl⟩ := lexLines_split hlines
    rw [hraws, ← hlength] at hraw ⊢
    obtain rfl : raw' = raw := by simpa using hraw
    rw [List.take_left, Line.text_ofPieces, (lexLine_cut _ _ _ _).textOf_eq]
    exact ⟨withoutReturn_append raw', Nat.add_comm _ _, Nat.zero_add _⟩
  · intro line hmem
    obtain ⟨before, after, hlines⟩ := List.append_of_mem hmem
    obtain ⟨front, raw, back, hraws, -, rfl⟩ := lexLines_split hlines
    obtain ⟨lead, tail, hsource, hsize⟩ := (hraws ▸ hbreaks).split
    rw [withoutReturn_append raw, List.append_assoc, List.append_assoc, ← List.append_assoc lead]
      at hsource
    rw [hsource, Nat.zero_add, ← hsize]
    exact (lexLine_cut _ _ _ _).exactIn _
  · intro before c after offset hsource hlow hhigh
    rw [lexLines_covers_iff]
    exact hbreaks.onText_iff hsource (by simpa using hlow) (by simpa using hhigh)

end Literate
