import Literate.Proofs.Script.Activity
import Literate.Proofs.Script.CodePlace
import Literate.Proofs.Script.Lossless

/-!
# Lines of a comment or a string

A comment or a string takes up a stretch of a script when its tokens cover everything there but
line terminators, and the lexer is not in code in between. To show this it is enough to say how
each line of the script lies to it: in front of it, behind it, the line that opens it, or a line
that starts inside it.
-/

namespace Literate

/-- A place on the text of a physical line. -/
structure Place where
  /-- The physical lines in front of the line. -/
  front : List Text
  raw : Text
  back : List Text
  /-- The text of the line in front of the place. -/
  lead : Text
  rest : Text

/-- The byte offset of a place. -/
def Place.offset (place : Place) : Nat := rawSize place.front + Text.byteSize place.lead

/-- The text from a place to the end of the script, without carriage returns at line ends. -/
def Place.ahead (place : Place) : Text := textAhead place.rest place.back

/-- A place of a script where the lexer is in code. -/
structure Place.InCode (defined : List Text) (source : Text) (place : Place) : Prop where
  lines_eq : physicalLines source = place.front ++ place.raw :: place.back
  ordinary : (stateBehind defined place.front).IsOrdinaryFor (withoutReturn place.raw)
  reaches : (stateBehind defined place.front).mode.Reaches (withoutReturn place.raw)
    place.lead place.rest

/-- A comment or a string takes up a stretch of a script. -/
structure Fills (defined : List Text) (source : Text) (opened : Opened) (start stop : Nat) :
    Prop where
  /-- Its tokens cover all characters but line terminators. -/
  covered : ∀ before c after, source = before ++ c :: after → start ≤ Text.byteSize before →
    Text.byteSize before < stop → ¬ IsTerminator c after →
    ∃ line ∈ (lexSource defined source).1, ∃ token ∈ line.tokens,
      token.kind = opened.pieceKind ∧ token.span.start ≤ Text.byteSize before ∧
        Text.byteSize before < token.span.stop
  /-- Lines that start in the stretch start inside it, and no token of them is one of a
  controlling line or of an inactive line. -/
  inside : ∀ front raw back, physicalLines source = front ++ raw :: back →
    start < rawSize front → rawSize front < stop →
    (∃ reached : Opened, reached.SameAs opened ∧
      (stateBehind defined front).mode = reached.mode start) ∧
    ∃ line, (lexSource defined source).1[front.length]? = some line ∧
      ∀ token ∈ line.tokens, token.kind.IsOrdinary
  /-- In between the lexer is not in code, so that nothing else is opened there. -/
  not_code : ∀ place : Place, place.InCode defined source →
    place.offset ≤ start ∨ stop ≤ place.offset

/-! ## Lines of a script -/

section Line

variable {defined : List Text} {source : Text} {front back : List Text} {raw : Text}

/-- A line of a script as it is lexed. -/
def lexedAt (defined : List Text) (front : List Text) (raw : Text) : LexedLine :=
  lexLine defined (stateBehind defined front) (rawSize front) (withoutReturn raw)

theorem lexSource_getElem? (h : physicalLines source = front ++ raw :: back) :
    (lexSource defined source).1[front.length]? =
      some (Line.ofPieces (1 + front.length) (rawSize front)
        (lexedAt defined front raw).pieces) := by
  rw [lexSource, h]
  exact lexLines_getElem? defined front back raw

theorem stateBehind_append (defined : List Text) (front raws : List Text) :
    stateBehind defined (front ++ raws) = (lexLines defined (stateBehind defined front)
      (1 + front.length) (rawSize front) raws).after := by
  simp only [stateBehind, lexLines_append, Nat.zero_add]

/-- A line that begins in a construct is no controlling line and not inactive. -/
theorem lexedAt_pieces_of_mode {opened : Opened} {start : Nat}
    (hmode : (stateBehind defined front).mode = opened.mode start) (raw : Text) :
    (lexedAt defined front raw).pieces =
      (linePieces (opened.mode start) (rawSize front) (withoutReturn raw)).1 := by
  have hordinary : (stateBehind defined front).IsOrdinaryFor (withoutReturn raw) :=
    fun hcode => absurd (hmode.symm.trans hcode) (opened.mode_ne_code start)
  rw [lexedAt, lexLine_ordinary hordinary, hmode]

/-- A piece of a line covers the bytes that it takes up. -/
theorem covered_of_piece (h : physicalLines source = front ++ raw :: back) (head : List Piece)
    {piece : Piece} {tail : List Piece}
    (hpieces : (lexedAt defined front raw).pieces = head ++ piece :: tail)
    {offset : Nat} (hlow : rawSize front + Text.byteSize (Piece.textOf head) ≤ offset)
    (hhigh : offset < rawSize front + Text.byteSize (Piece.textOf head) +
      Text.byteSize piece.text) :
    ∃ line ∈ (lexSource defined source).1, ∃ token ∈ line.tokens,
      token.kind = piece.kind ∧ token.span.start ≤ offset ∧ offset < token.span.stop := by
  refine ⟨_, List.mem_of_getElem? (lexSource_getElem? h), _,
    Piece.mem_placed_iff.mpr ⟨head, piece, tail, hpieces, rfl⟩, rfl, hlow, hhigh⟩

/-- Two lines of a script: the one is in front of the other, or they are the same. -/
theorem lines_cases {front' back' : List Text} {raw' : Text}
    (h : front ++ raw :: back = front' ++ raw' :: back') :
    (∃ mid, front = front' ++ raw' :: mid) ∨
      (front' = front ∧ raw' = raw ∧ back' = back) ∨
      ∃ mid, front' = front ++ raw :: mid ∧ back = mid ++ raw' :: back' := by
  rcases List.append_eq_append_iff.mp h with ⟨mid, hfront, hback⟩ | ⟨mid, hfront, hback⟩
  · cases mid with
    | nil =>
        obtain ⟨rfl, rfl⟩ := List.cons.inj hback
        exact .inr (.inl ⟨by simpa using hfront, rfl, rfl⟩)
    | cons line mid =>
        obtain ⟨rfl, rfl⟩ := List.cons.inj hback
        exact .inr (.inr ⟨mid, hfront, rfl⟩)
  · cases mid with
    | nil =>
        obtain ⟨rfl, rfl⟩ := List.cons.inj hback
        exact .inr (.inl ⟨by simpa using hfront.symm, rfl, rfl⟩)
    | cons line mid =>
        obtain ⟨rfl, rfl⟩ := List.cons.inj hback
        exact .inl ⟨mid, hfront⟩

end Line

theorem exists_line_of_onText {start offset : Nat} {raws : List Text}
    (h : OnText start raws offset) : ∃ front raw back, raws = front ++ raw :: back ∧
      start + rawSize front ≤ offset ∧
      offset < start + rawSize front + Text.byteSize (withoutReturn raw) := by
  induction raws generalizing start with
  | nil => exact h.elim
  | cons raw raws ih =>
      rcases h with h | h
      · exact ⟨[], raw, raws, rfl, h⟩
      · obtain ⟨front, line, back, rfl, hlow, hhigh⟩ := ih h
        refine ⟨raw :: front, line, back, rfl, ?_, ?_⟩
        · rw [rawSize_cons]; omega
        · rw [rawSize_cons]; omega

/-! ## A line of a comment or a string -/

/-- If what is open closes on a text that starts at an offset, it closes there. -/
def Opened.EndsAt (opened : Opened) (t : Text) (offset stop : Nat) : Prop :=
  ∀ front rest, opened.scan t = .closed front rest → stop = offset + Text.byteSize front

theorem Opened.EndsAt.of_unclosed {opened reached : Opened} {t : Text} {offset stop : Nat}
    (h : opened.scan t = .unclosed reached) : opened.EndsAt t offset stop := by
  intro front rest hclosed
  rw [h] at hclosed
  cases hclosed

theorem Opened.EndsAt.of_closed {opened : Opened} {t front rest : Text} {offset : Nat}
    (h : opened.scan t = .closed front rest) :
    opened.EndsAt t offset (offset + Text.byteSize front) := by
  intro front' rest' hclosed
  cases h.symm.trans hclosed
  rfl

/-- How a line of a script lies to a comment or a string. -/
inductive LiteralLine (defined : List Text) (start : Place) (opened : Opened)
    (opener body : Text) (stop : Nat) (front : List Text) (raw : Text) : Prop where
  | before (h : rawSize front + Text.byteSize raw < rawSize start.front)
  | first (hfront : front = start.front) (hraw : raw = start.raw)
      (hends : opened.EndsAt body (start.offset + Text.byteSize opener) stop)
  | inside {reached : Opened} (hsame : reached.SameAs opened)
      (hmode : (stateBehind defined front).mode = reached.mode start.offset)
      (hlt : start.offset < rawSize front)
      (hends : reached.EndsAt (withoutReturn raw) (rawSize front) stop)
  | behind (h : stop ≤ rawSize front)

section Literal

variable {defined : List Text} {source : Text} {start : Place} {opened : Opened}
  {opener body : Text} (hcode : start.InCode defined source) (hrest : start.rest = opener ++ body)
  (hopens : Opens opened opener body)

include hcode in
theorem Place.InCode.size_eq : Text.byteSize start.lead + Text.byteSize start.rest =
    Text.byteSize (withoutReturn start.raw) := by
  rw [← hcode.reaches.append_eq, Text.byteSize_append]

include hcode in
/-- What follows on the line of a place in code is lexed as code. -/
theorem Place.InCode.lexedAt_eq : ∃ pieces, Piece.textOf pieces = start.lead ∧
    lexedAt defined start.front start.raw =
      ⟨pieces ++ (codePieces start.offset start.rest).1, [],
        ⟨(codePieces start.offset start.rest).2, (stateBehind defined start.front).branches⟩⟩ := by
  obtain ⟨pieces, htext, hpieces⟩ := hcode.reaches.linePieces_eq
  refine ⟨pieces, htext, ?_⟩
  rw [lexedAt, lexLine_ordinary hcode.ordinary, hpieces]
  rfl

/-- A place from which the rest of its line is lexed as code. -/
def Place.GoesOnAsCode (defined : List Text) (source : Text) (place : Place) : Prop :=
  ∃ line pieces, (lexSource defined source).1[place.front.length]? = some line ∧
    line.pieces = pieces ++ (codePieces place.offset place.rest).1 ∧
    Piece.textOf pieces = place.lead

include hcode in
theorem Place.InCode.goesOnAsCode : start.GoesOnAsCode defined source := by
  obtain ⟨pieces, htext, hlexed⟩ := hcode.lexedAt_eq
  refine ⟨_, pieces, lexSource_getElem? hcode.lines_eq, ?_, htext⟩
  rw [Line.pieces_ofPieces, hlexed]

include hcode hrest hopens in
/-- The line on which a construct is opened, up to where it closes or to its end. -/
theorem covered_first {stop offset : Nat}
    (hends : opened.EndsAt body (start.offset + Text.byteSize opener) stop)
    (hlow : start.offset ≤ offset) (hstop : offset < stop)
    (hline : offset < rawSize start.front + Text.byteSize (withoutReturn start.raw)) :
    ∃ line ∈ (lexSource defined source).1, ∃ token ∈ line.tokens,
      token.kind = opened.pieceKind ∧ token.span.start ≤ offset ∧ offset < token.span.stop := by
  obtain ⟨pieces, htext, hlexed⟩ := hcode.lexedAt_eq
  have hsize := hcode.size_eq
  have hoffset : rawSize start.front + Text.byteSize (Piece.textOf pieces) = start.offset := by
    rw [htext, Place.offset]
  rw [hrest, Text.byteSize_append] at hsize
  rw [hrest, hopens.codePieces_eq] at hlexed
  cases hscan : opened.scan body with
  | closed front behind =>
      simp only [hscan] at hlexed
      have hstop' := hends front behind hscan
      refine covered_of_piece hcode.lines_eq pieces (congrArg LexedLine.pieces hlexed) ?_ ?_
      · rwa [hoffset]
      · rw [hoffset, Text.byteSize_append]
        omega
  | unclosed reached =>
      simp only [hscan] at hlexed
      refine covered_of_piece hcode.lines_eq pieces (congrArg LexedLine.pieces hlexed) ?_ ?_
      · rwa [hoffset]
      · rw [hoffset, Text.byteSize_append, Place.offset]
        omega

/-- A line that starts inside a construct, up to where it closes or to its end. -/
theorem covered_inside {front back : List Text} {raw : Text}
    (h : physicalLines source = front ++ raw :: back) {reached : Opened} {begin : Nat}
    (hmode : (stateBehind defined front).mode = reached.mode begin) {stop offset : Nat}
    (hends : reached.EndsAt (withoutReturn raw) (rawSize front) stop)
    (hlow : rawSize front ≤ offset) (hstop : offset < stop)
    (hline : offset < rawSize front + Text.byteSize (withoutReturn raw)) :
    ∃ line ∈ (lexSource defined source).1, ∃ token ∈ line.tokens,
      token.kind = reached.pieceKind ∧ token.span.start ≤ offset ∧ offset < token.span.stop := by
  have hpieces := lexedAt_pieces_of_mode hmode raw
  rw [linePieces_mode] at hpieces
  cases hscan : reached.scan (withoutReturn raw) with
  | closed inner behind =>
      rw [hscan] at hpieces
      have hstop' := hends inner behind hscan
      refine covered_of_piece h [] hpieces hlow ?_
      rwa [hstop'] at hstop
  | unclosed last =>
      have hne : (withoutReturn raw).isEmpty = false := by
        rw [List.isEmpty_eq_false_iff]
        intro hnil
        rw [hnil, Text.byteSize_nil] at hline
        omega
      simp only [hscan, Piece.ofText, hne, Bool.false_eq_true, if_false] at hpieces
      exact covered_of_piece h [] hpieces hlow hline

/-- No token of a line that starts inside a construct is one of a controlling line or of an
inactive line. -/
theorem exists_ordinary_line {front back : List Text} {raw : Text}
    (h : physicalLines source = front ++ raw :: back) {reached : Opened} {begin : Nat}
    (hmode : (stateBehind defined front).mode = reached.mode begin) :
    ∃ line, (lexSource defined source).1[front.length]? = some line ∧
      ∀ token ∈ line.tokens, token.kind.IsOrdinary := by
  refine ⟨_, lexSource_getElem? h, ?_⟩
  intro token htoken
  obtain ⟨head, piece, tail, hpieces, rfl⟩ := Piece.mem_placed_iff.mp htoken
  have hmem : piece ∈ (lexedAt defined front raw).pieces := by
    rw [hpieces]
    simp
  rw [lexedAt_pieces_of_mode hmode raw] at hmem
  exact linePieces_isOrdinary _ _ _ piece hmem

include hcode hrest hopens in
/-- On the line that opens a construct the lexer is in code up to it, and again where it closes. -/
theorem Place.InCode.outside_of_first {place : Place} (hplace : place.InCode defined source)
    (hfront : place.front = start.front) (hraw : place.raw = start.raw) {stop : Nat}
    (hends : opened.EndsAt body (start.offset + Text.byteSize opener) stop) :
    place.offset ≤ start.offset ∨ stop ≤ place.offset := by
  have hreaches := hplace.reaches
  rw [hfront, hraw] at hreaches
  simp only [Place.offset, hfront] at hends ⊢
  obtain ⟨more, hlead, hmore⟩ | ⟨more, hlead, -⟩ := hcode.reaches.linear hreaches
  · rw [hrest] at hmore
    obtain rfl | ⟨inner, behind, tail, hscan, rfl⟩ := hopens.eq_nil_or_of_reaches hmore
    · left
      simp only [hlead, List.append_nil, Nat.le_refl]
    · right
      have hstop := hends inner behind hscan
      simp only [hlead, Text.byteSize_append]
      omega
  · left
    rw [hlead, Text.byteSize_append]
    omega

/-- On a line that starts inside a construct the lexer is in code where it is closed. -/
theorem Place.InCode.stop_le {place : Place} (hplace : place.InCode defined source)
    {reached : Opened} {begin stop : Nat}
    (hmode : (stateBehind defined place.front).mode = reached.mode begin)
    (hends : reached.EndsAt (withoutReturn place.raw) (rawSize place.front) stop) :
    stop ≤ place.offset := by
  have hreaches := hplace.reaches
  rw [hmode] at hreaches
  generalize hlead : place.lead = lead at hreaches
  cases hreaches with
  | code hmode' => exact absurd hmode' (reached.mode_ne_code _)
  | behind hmode' hscan _ =>
      obtain ⟨rfl, -⟩ := Opened.mode_inj hmode'
      have hstop := hends _ _ hscan
      rw [Place.offset, hlead, Text.byteSize_append]
      omega

/-! ## All lines of a script -/

namespace LiteralLine

variable {stop : Nat} {front back : List Text} {raw : Text}

include hcode hrest hopens in
theorem covered (h : LiteralLine defined start opened opener body stop front raw)
    (hraws : physicalLines source = front ++ raw :: back) {offset : Nat}
    (hbegin : rawSize front ≤ offset)
    (hend : offset < rawSize front + Text.byteSize (withoutReturn raw))
    (hlow : start.offset ≤ offset) (hstop : offset < stop) :
    ∃ line ∈ (lexSource defined source).1, ∃ token ∈ line.tokens,
      token.kind = opened.pieceKind ∧ token.span.start ≤ offset ∧ offset < token.span.stop := by
  have hraw := byteSize_withoutReturn_le raw
  cases h with
  | before hbefore =>
      rw [Place.offset] at hlow
      omega
  | first hfront hfirst hends =>
      subst hfront hfirst
      exact covered_first hcode hrest hopens hends hlow hstop hend
  | inside hsame hmode hlt hends =>
      rw [← hsame.pieceKind_eq]
      exact covered_inside hraws hmode hends hbegin hstop hend
  | behind hbehind => omega

/-- A line that starts in the stretch of a construct starts inside it. -/
theorem exists_reached (h : LiteralLine defined start opened opener body stop front raw)
    (hlow : start.offset < rawSize front) (hstop : rawSize front < stop) :
    ∃ reached : Opened, reached.SameAs opened ∧
      (stateBehind defined front).mode = reached.mode start.offset := by
  cases h with
  | before hbefore =>
      rw [Place.offset] at hlow
      omega
  | first hfront _ _ =>
      rw [Place.offset, hfront] at hlow
      omega
  | @inside reached hsame hmode _ _ => exact ⟨reached, hsame, hmode⟩
  | behind hbehind => omega

include hcode hrest hopens in
theorem outside {place : Place}
    (h : LiteralLine defined start opened opener body stop place.front place.raw)
    (hplace : place.InCode defined source) :
    place.offset ≤ start.offset ∨ stop ≤ place.offset := by
  cases h with
  | before hbefore =>
      left
      have hsize := hplace.size_eq
      have hraw := byteSize_withoutReturn_le place.raw
      simp only [Place.offset]
      omega
  | first hfront hfirst hends =>
      exact hcode.outside_of_first hrest hopens hplace hfront hfirst hends
  | inside _ hmode _ hends => exact .inr (hplace.stop_le hmode hends)
  | behind hbehind =>
      right
      rw [Place.offset]
      omega

end LiteralLine

include hcode hrest hopens in
theorem fills_of_lines {stop : Nat}
    (hlines : ∀ front raw back, physicalLines source = front ++ raw :: back →
      LiteralLine defined start opened opener body stop front raw) :
    Fills defined source opened start.offset stop where
  covered := by
    intro before c after hsource hlow hstop hterminator
    have hsize := c.utf8Size_pos
    have hon : OnText 0 (physicalLines source) (Text.byteSize before) :=
      ((physicalLines_breaks source).onText_iff hsource (by omega) (by omega)).mpr hterminator
    obtain ⟨front, raw, back, hraws, hbegin, hend⟩ := exists_line_of_onText hon
    rw [Nat.zero_add] at hbegin hend
    exact (hlines front raw back hraws).covered hcode hrest hopens hraws hbegin hend hlow hstop
  inside := by
    intro front raw back hraws hlow hstop
    obtain ⟨reached, hsame, hmode⟩ := (hlines front raw back hraws).exists_reached hlow hstop
    exact ⟨⟨reached, hsame, hmode⟩, exists_ordinary_line hraws hmode⟩
  not_code := by
    intro place hplace
    exact (hlines _ _ _ hplace.lines_eq).outside hcode hrest hopens hplace

end Literal

end Literate
