import Literate.Proofs.Script.CodePlace

/-!
# Where comments and strings end

Where a comment or a string ends is said here by what it holds. A comment holds marks, and ends
with the closer that brings the nesting to zero. A regular or a verbatim string holds units, which
are escaped or doubled characters and others that are no quotes, and ends with the quote behind
them. A string in three quotes ends with the first three. A scan from inside closes on exactly this
end, and on none if there is none.
-/

namespace Literate

/-! ## Comments -/

/-- What is read as one in a comment. -/
inductive CommentMark where
  /-- A star between parentheses. -/
  | star
  | opener
  | closer
  | plain (c : Char)

namespace CommentMark

/-- A text that is read as marks from left to right, in front of another text. -/
inductive Reads : List CommentMark → Text → Text → Prop where
  | nil {behind : Text} : Reads [] [] behind
  | star {marks : List CommentMark} {front behind : Text} (h : Reads marks front behind) :
      Reads (.star :: marks) ('(' :: '*' :: ')' :: front) behind
  | opener {marks : List CommentMark} {front behind : Text}
      (hhead : (front ++ behind).head? ≠ some ')') (h : Reads marks front behind) :
      Reads (.opener :: marks) ('(' :: '*' :: front) behind
  | closer {marks : List CommentMark} {front behind : Text} (h : Reads marks front behind) :
      Reads (.closer :: marks) ('*' :: ')' :: front) behind
  | plain {marks : List CommentMark} {c : Char} {front behind : Text}
      (hc : BeginsNoMark c (front ++ behind)) (h : Reads marks front behind) :
      Reads (.plain c :: marks) (c :: front) behind

/-- The nesting depth behind a mark. -/
def depthAfter : CommentMark → Nat → Nat
  | .opener, depth => depth + 1
  | .closer, depth => depth - 1
  | .star, depth | .plain _, depth => depth

/-- The nesting depth behind some marks. -/
def depthBehind (depth : Nat) (marks : List CommentMark) : Nat :=
  marks.foldl (fun depth mark => mark.depthAfter depth) depth

/-- The marks of a comment in front of the closer that ends it: behind none of them the nesting
depth is zero, and behind the closer it is. -/
structure EndsBehind (depth : Nat) (marks : List CommentMark) : Prop where
  pos : ∀ lead, lead <+: marks → 0 < depthBehind depth lead
  zero : depthBehind depth (marks ++ [.closer]) = 0

theorem endsBehind_nil_iff {depth : Nat} : EndsBehind depth [] ↔ depth = 1 := by
  constructor
  · intro h
    have hpos : 0 < depth := h.pos [] (List.prefix_refl [])
    have hzero : depth - 1 = 0 := h.zero
    omega
  · rintro rfl
    refine ⟨fun lead hlead => ?_, rfl⟩
    rw [List.prefix_nil.mp hlead]
    exact Nat.one_pos

theorem endsBehind_cons_iff {depth : Nat} {mark : CommentMark} {marks : List CommentMark} :
    EndsBehind depth (mark :: marks) ↔ 0 < depth ∧ EndsBehind (mark.depthAfter depth) marks := by
  constructor
  · intro h
    refine ⟨h.pos [] List.nil_prefix, fun lead hlead => ?_, h.zero⟩
    exact h.pos (mark :: lead) ((List.prefix_cons_inj mark).mpr hlead)
  · rintro ⟨hdepth, h⟩
    refine ⟨fun lead hlead => ?_, h.zero⟩
    rcases List.prefix_cons_iff.mp hlead with rfl | ⟨rest, rfl, hrest⟩
    · exact hdepth
    · exact h.pos rest hrest

/-- A scan closes on marks in front of an ending closer. -/
theorem Reads.scanComment_eq {marks : List CommentMark} {front behind : Text} {depth : Nat}
    (hreads : Reads (marks ++ [.closer]) front behind) (hends : EndsBehind depth marks) :
    scanComment depth (front ++ behind) = .closed front behind := by
  induction marks generalizing front depth with
  | nil =>
      obtain rfl := endsBehind_nil_iff.mp hends
      cases hreads with
      | closer h =>
          cases h with
          | nil => exact (scanComment_closer 1 behind).trans (if_pos (Nat.le_refl 1))
  | cons mark marks ih =>
      obtain ⟨-, hrest⟩ := endsBehind_cons_iff.mp hends
      cases hreads with
      | star h =>
          exact (scanComment_star depth _).trans
            (congrArg (CommentScan.prepend ['(', '*', ')']) (ih h hrest))
      | opener hhead h =>
          exact (scanComment_opener depth hhead).trans
            (congrArg (CommentScan.prepend ['(', '*']) (ih h hrest))
      | closer h =>
          -- Behind this closer the comment is open, so the closer does not end it.
          have hpos : 0 < depth - 1 := hrest.pos [] List.nil_prefix
          exact (scanComment_closer depth _).trans ((if_neg (by omega)).trans
            (congrArg (CommentScan.prepend ['*', ')']) (ih h hrest)))
      | @plain _ c _ _ hc h =>
          exact (scanComment_plain depth hc).trans
            (congrArg (CommentScan.prepend [c]) (ih h hrest))

/-- What a scan closes on are marks in front of an ending closer. -/
theorem exists_of_scanComment {t front behind : Text} {depth : Nat} (hdepth : 0 < depth)
    (h : scanComment depth t = .closed front behind) :
    ∃ marks, Reads (marks ++ [.closer]) front behind ∧ EndsBehind depth marks := by
  induction t using Text.mark_induction generalizing depth front with
  | nil =>
      rw [scanComment] at h
      cases h
  | star rest ih =>
      rw [scanComment_star, CommentScan.prepend_eq_closed_iff] at h
      obtain ⟨front, hscan, rfl⟩ := h
      obtain ⟨marks, hreads, hends⟩ := ih hdepth hscan
      exact ⟨.star :: marks, .star hreads, endsBehind_cons_iff.mpr ⟨hdepth, hends⟩⟩
  | opener rest hhead ih =>
      rw [scanComment_opener depth hhead, CommentScan.prepend_eq_closed_iff] at h
      obtain ⟨front, hscan, rfl⟩ := h
      obtain ⟨marks, hreads, hends⟩ := ih (Nat.succ_pos depth) hscan
      rw [scanComment_closed hscan] at hhead
      exact ⟨.opener :: marks, .opener hhead hreads, endsBehind_cons_iff.mpr ⟨hdepth, hends⟩⟩
  | closer rest ih =>
      rw [scanComment_closer] at h
      split at h
      next hle =>
        cases h
        exact ⟨[], .closer .nil, endsBehind_nil_iff.mpr (by omega)⟩
      next hlt =>
        obtain ⟨front, hscan, rfl⟩ := CommentScan.prepend_eq_closed_iff.mp h
        obtain ⟨marks, hreads, hends⟩ := ih (by omega) hscan
        exact ⟨.closer :: marks, .closer hreads, endsBehind_cons_iff.mpr ⟨hdepth, hends⟩⟩
  | plain c rest hc ih =>
      rw [scanComment_plain depth hc, CommentScan.prepend_eq_closed_iff] at h
      obtain ⟨front, hscan, rfl⟩ := h
      obtain ⟨marks, hreads, hends⟩ := ih hdepth hscan
      rw [scanComment_closed hscan] at hc
      exact ⟨.plain c :: marks, .plain hc hreads, endsBehind_cons_iff.mpr ⟨hdepth, hends⟩⟩

end CommentMark

/-! ## Strings -/

namespace StringKind

/-- What is read as one in a regular or a verbatim string and does not end it. -/
inductive IsUnit : StringKind → Text → Prop where
  | escaped (c : Char) : IsUnit .regular ['\\', c]
  | regular {c : Char} (hescape : c ≠ '\\') (hquote : c ≠ '"') : IsUnit .regular [c]
  | doubled : IsUnit .verbatim ['"', '"']
  | verbatim {c : Char} (hquote : c ≠ '"') : IsUnit .verbatim [c]

/-- Units of a string and a quote behind them. -/
inductive IsQuoted (kind : StringKind) : Text → Prop where
  | quote : IsQuoted kind ['"']
  | unit {unit front : Text} (hunit : IsUnit kind unit) (h : IsQuoted kind front) :
      IsQuoted kind (unit ++ front)

/-- What a string is behind its opening mark, up to and with its end, in front of a text. -/
def Closes : StringKind → Text → Text → Prop
  | .regular, front, _ => IsQuoted .regular front
  | .verbatim, front, behind => IsQuoted .verbatim front ∧ behind.head? ≠ some '"'
  | .triple, front, _ => ∃ body, front = body ++ ['"', '"', '"'] ∧
      ¬ ['"', '"', '"'] <:+: body ++ ['"', '"']

theorem IsUnit.scanString_append {kind : StringKind} {unit : Text} (h : IsUnit kind unit)
    (t : Text) : scanString kind (unit ++ t) = (scanString kind t).map (.prepend unit) := by
  cases h with
  | escaped c => exact scanString.eq_5 c t
  | regular hescape hquote => exact scanString_regular hescape hquote
  | doubled => exact scanString.eq_8 t
  | verbatim hquote => exact scanString_verbatim hquote

theorem IsQuoted.scanString_append {kind : StringKind} {front behind : Text}
    (h : IsQuoted kind front) (hquote : scanString kind ('"' :: behind) = some ⟨['"'], behind⟩) :
    scanString kind (front ++ behind) = some ⟨front, behind⟩ := by
  induction h with
  | quote => exact hquote
  | unit hunit _ ih =>
      rw [List.append_assoc, hunit.scanString_append, ih]
      rfl

/-- Three quotes in a row in front of the last quote of a string begin with its first character,
or stand behind it. -/
theorem triple_infix_cons_iff {c : Char} {body : Text} (behind : Text) :
    ['"', '"', '"'] <:+: c :: body ++ ['"', '"'] ↔
      (c = '"' ∧ ∃ tail, body ++ ['"', '"', '"'] ++ behind = '"' :: '"' :: tail) ∨
        ['"', '"', '"'] <:+: body ++ ['"', '"'] := by
  have hprefix : body ++ ['"', '"'] <+: body ++ ['"', '"', '"'] ++ behind :=
    ⟨'"' :: behind, by simp⟩
  rw [List.cons_append, List.infix_cons_iff, List.cons_prefix_cons]
  refine or_congr_left (and_congr eq_comm ⟨fun h => ?_, ?_⟩)
  · obtain ⟨tail, htail⟩ := h.trans hprefix
    exact ⟨tail, htail.symm⟩
  · rintro ⟨tail, htail⟩
    exact List.prefix_of_prefix_length_le ⟨tail, htail.symm⟩ hprefix (by simp)

/-- Quotes that are the first three in a row end a string in three quotes. -/
theorem scanString_first_triple {body behind : Text}
    (h : ¬ ['"', '"', '"'] <:+: body ++ ['"', '"']) :
    scanString .triple (body ++ ['"', '"', '"'] ++ behind) =
      some ⟨body ++ ['"', '"', '"'], behind⟩ := by
  induction body with
  | nil => exact scanString.eq_2 behind
  | cons c body ih =>
      obtain ⟨hhead, hrest⟩ := not_or.mp (mt (triple_infix_cons_iff behind).mpr h)
      rw [List.cons_append, List.cons_append,
        scanString_triple fun tail hc htail => hhead ⟨hc, tail, htail⟩, ih hrest]
      rfl

theorem closes_of_scanString {kind : StringKind} {t : Text} {split : Split}
    (h : scanString kind t = some split) : Closes kind split.front split.rest := by
  fun_induction scanString kind t generalizing split with
  | case1 => cases h
  | case2 rest =>
      cases h
      exact ⟨[], rfl, by decide⟩
  | case3 c rest hopen ih =>
      obtain ⟨inner, hinner, rfl⟩ := Option.map_eq_some_iff.mp h
      obtain ⟨body, hbody, hfirst⟩ := ih hinner
      refine ⟨c :: body, congrArg (c :: ·) hbody, mt (triple_infix_cons_iff inner.rest).mp ?_⟩
      rintro (⟨hc, tail, htail⟩ | hoccurs)
      · rw [← hbody, ← scanString_split hinner] at htail
        exact hopen tail hc htail
      · exact hfirst hoccurs
  | case4 => cases h
  | case5 c rest ih =>
      obtain ⟨inner, hinner, rfl⟩ := Option.map_eq_some_iff.mp h
      exact .unit (.escaped c) (ih hinner)
  | case6 rest =>
      cases h
      exact .quote
  | case7 c rest hlast hescape hquote ih =>
      have hc : c ≠ '\\' := by
        rintro rfl
        cases rest with
        | nil => exact hlast rfl rfl
        | cons d rest => exact hescape d rest rfl rfl
      obtain ⟨inner, hinner, rfl⟩ := Option.map_eq_some_iff.mp h
      exact .unit (.regular hc hquote) (ih hinner)
  | case8 rest ih =>
      obtain ⟨inner, hinner, rfl⟩ := Option.map_eq_some_iff.mp h
      exact ⟨.unit .doubled (ih hinner).1, (ih hinner).2⟩
  | case9 rest hquote =>
      cases h
      refine ⟨.quote, fun hhead => ?_⟩
      obtain ⟨tail, rfl⟩ := List.head?_eq_some_iff.mp hhead
      exact hquote tail rfl
  | case10 c rest _ hquote ih =>
      obtain ⟨inner, hinner, rfl⟩ := Option.map_eq_some_iff.mp h
      exact ⟨.unit (.verbatim hquote) (ih hinner).1, (ih hinner).2⟩

theorem scanString_of_closes {kind : StringKind} {front behind : Text}
    (h : Closes kind front behind) :
    scanString kind (front ++ behind) = some ⟨front, behind⟩ := by
  cases kind with
  | regular => exact IsQuoted.scanString_append h (scanString.eq_6 behind)
  | verbatim =>
      refine h.1.scanString_append (scanString_closing_quote ?_)
      rintro tail rfl
      exact h.2 rfl
  | triple =>
      obtain ⟨body, rfl, hfirst⟩ := h
      exact scanString_first_triple hfirst

end StringKind

/-! ## Both -/

/-- What a comment or a string is from inside, up to and with its end, in front of a text. -/
def Opened.Closes : Opened → Text → Text → Prop
  | .comment depth, front, behind =>
      ∃ marks, CommentMark.Reads (marks ++ [.closer]) front behind ∧
        CommentMark.EndsBehind depth marks
  | .string kind, front, behind => kind.Closes front behind

/-- A scan from behind an opening mark closes on the end of what is opened. -/
theorem Opens.scan_eq_closed_iff {opened : Opened} {opener body : Text}
    (h : Opens opened opener body) {t front behind : Text} :
    opened.scan t = .closed front behind ↔ t = front ++ behind ∧ opened.Closes front behind := by
  constructor
  · intro hscan
    refine ⟨(Opened.scan_closed_eq hscan).1, ?_⟩
    cases opened with
    | comment depth =>
        have hdepth : 0 < depth := by
          cases h
          exact Nat.one_pos
        exact CommentMark.exists_of_scanComment hdepth
          (OpenScan.ofComment_eq_closed_iff.mp hscan)
    | string kind =>
        exact StringKind.closes_of_scanString (OpenScan.ofString_eq_closed_iff.mp hscan)
  · rintro ⟨rfl, hcloses⟩
    cases opened with
    | comment depth =>
        obtain ⟨marks, hreads, hends⟩ := hcloses
        exact OpenScan.ofComment_eq_closed_iff.mpr (hreads.scanComment_eq hends)
    | string kind =>
        exact OpenScan.ofString_eq_closed_iff.mpr (StringKind.scanString_of_closes hcloses)

/-- Where there is no end of what is opened, a scan finds none. -/
theorem Opens.exists_scan_eq_unclosed {opened : Opened} {opener body : Text}
    (h : Opens opened opener body) {t : Text}
    (hnone : ∀ front behind, t = front ++ behind → ¬ opened.Closes front behind) :
    ∃ last, opened.scan t = .unclosed last := by
  cases hscan : opened.scan t with
  | closed front behind =>
      obtain ⟨ht, hcloses⟩ := h.scan_eq_closed_iff.mp hscan
      exact absurd hcloses (hnone front behind ht)
  | unclosed last => exact ⟨last, rfl⟩

end Literate
