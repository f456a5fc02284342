import Literate.Proofs.Script.Cut

/-!
# Scanning what is open

A comment or a string that is open is scanned line by line, each line from what the line in
front of it leaves open. One scan over all lines, joined by line feeds, ends at the same place.
-/

namespace Literate

/-- What a scan from inside a comment or a string finds. -/
inductive OpenScan where
  /-- The text up to and with what closes the construct, and the text after it. -/
  | closed (front rest : Text)
  /-- The text ends inside the construct, which is then open like this. -/
  | unclosed (opened : Opened)

namespace OpenScan

/-- The scan of a text with more characters in front. -/
def prepend (lead : Text) : OpenScan → OpenScan
  | .closed front rest => .closed (lead ++ front) rest
  | .unclosed opened => .unclosed opened

def ofComment : CommentScan → OpenScan
  | .closed body rest => .closed body rest
  | .unclosed depth => .unclosed (.comment depth)

def ofString (kind : StringKind) : Option Split → OpenScan
  | some split => .closed split.front split.rest
  | none => .unclosed (.string kind)

theorem prepend_prepend (lead more : Text) (scan : OpenScan) :
    (scan.prepend more).prepend lead = scan.prepend (lead ++ more) := by
  cases scan <;> simp [prepend]

theorem prepend_eq_closed_iff {lead front rest : Text} {scan : OpenScan} :
    scan.prepend lead = .closed front rest ↔
      ∃ inner, scan = .closed inner rest ∧ front = lead ++ inner := by
  cases scan with
  | closed f r => grind [prepend]
  | unclosed o => simp [prepend]

theorem prepend_eq_unclosed_iff {lead : Text} {scan : OpenScan} {opened : Opened} :
    scan.prepend lead = .unclosed opened ↔ scan = .unclosed opened := by
  cases scan <;> simp [prepend]

theorem ofComment_eq_closed_iff {scan : CommentScan} {front rest : Text} :
    ofComment scan = .closed front rest ↔ scan = .closed front rest := by
  cases scan <;> simp [ofComment]

theorem ofComment_eq_unclosed_iff {scan : CommentScan} {opened : Opened} :
    ofComment scan = .unclosed opened ↔
      ∃ depth, scan = .unclosed depth ∧ opened = .comment depth := by
  cases scan <;> simp [ofComment, eq_comm]

theorem ofString_eq_closed_iff {kind : StringKind} {scan : Option Split} {front rest : Text} :
    ofString kind scan = .closed front rest ↔ scan = some ⟨front, rest⟩ := by
  rcases scan with - | ⟨front', rest'⟩ <;> simp [ofString]

theorem ofString_eq_unclosed_iff {kind : StringKind} {scan : Option Split} {opened : Opened} :
    ofString kind scan = .unclosed opened ↔ scan = none ∧ opened = .string kind := by
  cases scan <;> simp [ofString, eq_comm]

theorem ofComment_prepend (lead : Text) (scan : CommentScan) :
    ofComment (scan.prepend lead) = (ofComment scan).prepend lead := by
  cases scan <;> rfl

theorem ofString_map_prepend (kind : StringKind) (lead : Text) (scan : Option Split) :
    ofString kind (scan.map (.prepend lead)) = (ofString kind scan).prepend lead := by
  cases scan <;> rfl

end OpenScan

namespace Opened

/-- Scan a text from inside a comment or a string. -/
def scan : Opened → Text → OpenScan
  | .comment depth, t => .ofComment (scanComment depth t)
  | .string kind, t => .ofString kind (scanString kind t)

/-- The kind of the pieces that a comment or a string is made of. -/
def pieceKind : Opened → TokenKind
  | .comment _ => .comment
  | .string _ => .string

end Opened

/-- A scan that goes on behind a text and a line feed. -/
def OpenScan.onward (t more : Text) : OpenScan → OpenScan
  | .closed front rest => .closed front (rest ++ '\n' :: more)
  | .unclosed opened => (opened.scan more).prepend (t ++ ['\n'])

theorem OpenScan.onward_prepend (lead t more : Text) (scan : OpenScan) :
    (scan.prepend lead).onward (lead ++ t) more = (scan.onward t more).prepend lead := by
  cases scan with
  | closed front rest => rfl
  | unclosed opened =>
      simp only [onward, prepend_prepend, List.append_assoc]
      rfl

/-! ## Strings, one mark at a time -/

theorem scanString_triple {c : Char} {rest : Text}
    (h : ∀ tail, c = '"' → rest = '"' :: '"' :: tail → False) :
    scanString .triple (c :: rest) = (scanString .triple rest).map (.prepend [c]) := by
  rw [scanString]
  exact h

theorem scanString_regular {c : Char} {rest : Text} (hescape : c ≠ '\\') (hquote : c ≠ '"') :
    scanString .regular (c :: rest) = (scanString .regular rest).map (.prepend [c]) := by
  rw [scanString]
  · exact fun h _ => hescape h
  · exact fun _ _ h _ => hescape h
  · exact hquote

theorem scanString_closing_quote {rest : Text} (h : ∀ tail, rest = '"' :: tail → False) :
    scanString .verbatim ('"' :: rest) = some ⟨['"'], rest⟩ := by
  rw [scanString]
  exact h

theorem scanString_verbatim {c : Char} {rest : Text} (h : c ≠ '"') :
    scanString .verbatim (c :: rest) = (scanString .verbatim rest).map (.prepend [c]) := by
  rw [scanString]
  · exact fun _ hc _ => h hc
  · exact h

namespace Opened

theorem scan_string_eq_prepend {kind : StringKind} {t lead rest : Text}
    (h : scanString kind t = (scanString kind rest).map (.prepend lead)) :
    (string kind).scan t = ((string kind).scan rest).prepend lead := by
  rw [scan, h, OpenScan.ofString_map_prepend]
  rfl

/-- A scan that takes the same characters off with and without a line feed behind the text. -/
theorem scan_string_take {kind : StringKind} {more : Text} (lead : Text) {rest : Text}
    (hplain : scanString kind (lead ++ rest) = (scanString kind rest).map (.prepend lead))
    (hmore : scanString kind (lead ++ (rest ++ '\n' :: more)) =
      (scanString kind (rest ++ '\n' :: more)).map (.prepend lead))
    (ih : (string kind).scan (rest ++ '\n' :: more) =
      ((string kind).scan rest).onward rest more) :
    (string kind).scan (lead ++ rest ++ '\n' :: more) =
      ((string kind).scan (lead ++ rest)).onward (lead ++ rest) more := by
  rw [List.append_assoc, scan_string_eq_prepend hmore, scan_string_eq_prepend hplain,
    OpenScan.onward_prepend, ih]

/-- Behind a line feed a string goes on exactly if the text in front of it does not close it. -/
theorem scan_string_append_feed (kind : StringKind) (t more : Text) :
    (string kind).scan (t ++ '\n' :: more) = ((string kind).scan t).onward t more := by
  fun_induction scanString kind t with
  | case1 kind =>
      have hfeed : scanString kind ('\n' :: more) =
          (scanString kind more).map (.prepend ['\n']) := by
        cases kind with
        | regular => exact scanString_regular (by decide) (by decide)
        | verbatim => exact scanString_verbatim (by decide)
        | triple => exact scanString_triple (by simp)
      cases kind <;> exact scan_string_eq_prepend hfeed
  | case2 rest => rfl
  | case3 c rest hopen ih =>
      refine scan_string_take [c] (scanString_triple hopen) (scanString_triple ?_) ih
      -- A line feed is no quote, so the three quotes would all stand in front of it.
      intro tail hc (htail : rest ++ '\n' :: more = '"' :: '"' :: tail)
      rcases rest with - | ⟨d, - | ⟨e, rest⟩⟩
      · simp at htail
      · simp at htail
      · simp only [List.cons_append, List.cons.injEq] at htail
        exact hopen rest hc (by rw [htail.1, htail.2.1])
  | case4 =>
      have hescape : scanString .regular ('\\' :: '\n' :: more) =
          (scanString .regular more).map (.prepend ['\\', '\n']) := by rw [scanString]
      exact scan_string_eq_prepend hescape
  | case5 c rest ih =>
      have hescape : ∀ t, scanString .regular ('\\' :: c :: t) =
          (scanString .regular t).map (.prepend ['\\', c]) := fun t => by rw [scanString]
      exact scan_string_take ['\\', c] (hescape rest) (hescape _) ih
  | case6 rest =>
      rw [List.cons_append, scan, scan, scanString, scanString]
      rfl
  | case7 c rest hlast hescape hquote ih =>
      have hc : c ≠ '\\' := by
        rintro rfl
        cases rest with
        | nil => exact hlast rfl rfl
        | cons d rest => exact hescape d rest rfl rfl
      exact scan_string_take [c] (scanString_regular hc hquote) (scanString_regular hc hquote) ih
  | case8 rest ih =>
      have hpair : ∀ t, scanString .verbatim ('"' :: '"' :: t) =
          (scanString .verbatim t).map (.prepend ['"', '"']) := fun t => by rw [scanString]
      exact scan_string_take ['"', '"'] (hpair rest) (hpair _) ih
  | case9 rest hquote =>
      have hmore : ∀ tail, rest ++ '\n' :: more = '"' :: tail → False := by
        intro tail htail
        cases rest with
        | nil => simp at htail
        | cons d rest => exact hquote rest (by rw [(List.cons.inj htail).1])
      rw [List.cons_append, scan, scan, scanString_closing_quote hmore,
        scanString_closing_quote hquote]
      rfl
  | case10 c rest _ hquote ih =>
      exact scan_string_take [c] (scanString_verbatim hquote) (scanString_verbatim hquote) ih

/-- What is open goes on behind a line feed exactly if the text in front of it does not close
it, and from what that leaves open. -/
theorem scan_append_feed (opened : Opened) (t more : Text) :
    opened.scan (t ++ '\n' :: more) = (opened.scan t).onward t more := by
  cases opened with
  | comment depth =>
      rw [scan, scan]
      cases hscan : scanComment depth t with
      | closed body rest =>
          rw [scanComment_append_of_closed hscan]
          rfl
      | unclosed reached =>
          rw [scanComment_append_of_unclosed hscan isNoMark_feed, OpenScan.ofComment_prepend]
          rfl
  | string kind => exact scan_string_append_feed kind t more

theorem scan_closed_eq {opened : Opened} {t front rest : Text}
    (h : opened.scan t = .closed front rest) : t = front ++ rest ∧ front ≠ [] := by
  cases opened with
  | comment depth =>
      have hscan := OpenScan.ofComment_eq_closed_iff.mp h
      exact ⟨scanComment_closed hscan, scanComment_closed_ne_nil hscan⟩
  | string kind =>
      have hscan := OpenScan.ofString_eq_closed_iff.mp h
      exact ⟨scanString_split hscan, scanString_front_ne_nil hscan⟩

/-- Two ways in which the same comment or the same string is open. -/
def SameAs : Opened → Opened → Prop
  | .comment _, .comment _ => True
  | .string kind, .string kind' => kind = kind'
  | _, _ => False

theorem SameAs.refl (opened : Opened) : opened.SameAs opened := by
  cases opened with
  | comment depth => trivial
  | string kind => rfl

theorem SameAs.trans {opened opened' opened'' : Opened} (h : opened.SameAs opened')
    (h' : opened'.SameAs opened'') : opened.SameAs opened'' := by
  cases opened <;> cases opened' <;> cases opened'' <;> simp_all [SameAs]

theorem SameAs.pieceKind_eq {opened opened' : Opened} (h : opened.SameAs opened') :
    opened.pieceKind = opened'.pieceKind := by
  cases opened <;> cases opened' <;> first | rfl | exact h.elim

theorem scan_unclosed_sameAs {opened reached : Opened} {t : Text}
    (h : opened.scan t = .unclosed reached) : reached.SameAs opened := by
  cases opened with
  | comment depth =>
      obtain ⟨depth', -, rfl⟩ := OpenScan.ofComment_eq_unclosed_iff.mp h
      trivial
  | string kind =>
      obtain ⟨-, rfl⟩ := OpenScan.ofString_eq_unclosed_iff.mp h
      rfl

end Opened

/-! ## Lines in a row -/

/-- The rest of a line and the lines behind it without their carriage returns. -/
def textAhead (rest : Text) (back : List Text) : Text :=
  List.intercalate ['\n'] (rest :: back.map withoutReturn)

@[simp] theorem textAhead_nil (rest : Text) : textAhead rest [] = rest :=
  List.intercalate_singleton

theorem textAhead_cons (rest raw : Text) (back : List Text) :
    textAhead rest (raw :: back) = rest ++ '\n' :: textAhead (withoutReturn raw) back := by
  rw [textAhead, List.map_cons, List.intercalate_cons_cons]
  simp [textAhead]

namespace Opened

/-- What is open in front of some physical lines stays open through all of them. -/
inductive Through : Opened → List Text → Opened → Prop where
  | nil {opened : Opened} : Through opened [] opened
  | cons {opened reached last : Opened} {raw : Text} {raws : List Text}
      (hscan : opened.scan (withoutReturn raw) = .unclosed reached)
      (h : Through reached raws last) : Through opened (raw :: raws) last

theorem Through.split {opened last : Opened} {front back : List Text}
    (h : Through opened (front ++ back) last) :
    ∃ reached, Through opened front reached ∧ Through reached back last := by
  induction front generalizing opened with
  | nil => exact ⟨opened, .nil, h⟩
  | cons raw front ih =>
      cases h with
      | cons hscan h =>
          obtain ⟨reached, hfront, hback⟩ := ih h
          exact ⟨reached, .cons hscan hfront, hback⟩

theorem Through.sameAs {opened last : Opened} {raws : List Text}
    (h : Through opened raws last) : last.SameAs opened := by
  induction h with
  | nil => exact .refl _
  | cons hscan _ ih => exact ih.trans (scan_unclosed_sameAs hscan)

/-- A scan over all lines closes on the first line, or on a later one up to which every line
leaves the construct open. -/
theorem scan_ahead_closed {opened : Opened} {t front rest : Text} {back : List Text}
    (h : opened.scan (textAhead t back) = .closed front rest) :
    (∃ inner behind, opened.scan t = .closed inner behind ∧ rest = textAhead behind back) ∨
    ∃ reached mid raw more last inner behind, opened.scan t = .unclosed reached ∧
      back = mid ++ raw :: more ∧ Through reached mid last ∧
      last.scan (withoutReturn raw) = .closed inner behind ∧ rest = textAhead behind more := by
  induction back generalizing opened t front with
  | nil =>
      rw [textAhead_nil] at h
      exact .inl ⟨front, rest, h, (textAhead_nil rest).symm⟩
  | cons raw back ih =>
      rw [textAhead_cons, scan_append_feed] at h
      cases hscan : opened.scan t with
      | closed inner behind =>
          rw [hscan] at h
          cases h
          exact .inl ⟨front, behind, rfl, (textAhead_cons _ _ _).symm⟩
      | unclosed reached =>
          rw [hscan, OpenScan.onward, OpenScan.prepend_eq_closed_iff] at h
          obtain ⟨front, hrest, -⟩ := h
          obtain ⟨inner, behind, hline, rfl⟩ | ⟨reached', mid, line, more, last, inner, behind,
            hline, rfl, hthrough, hlast, rfl⟩ := ih hrest
          · exact .inr ⟨reached, [], raw, back, reached, inner, behind, rfl, rfl, .nil, hline, rfl⟩
          · exact .inr ⟨reached, raw :: mid, line, more, last, inner, behind, rfl, rfl,
              .cons hline hthrough, hlast, rfl⟩

/-- A scan over all lines that does not close leaves every line open. -/
theorem scan_ahead_unclosed {opened last : Opened} {t : Text} {back : List Text}
    (h : opened.scan (textAhead t back) = .unclosed last) :
    ∃ reached, opened.scan t = .unclosed reached ∧ Through reached back last := by
  induction back generalizing opened t with
  | nil =>
      rw [textAhead_nil] at h
      exact ⟨last, h, .nil⟩
  | cons raw back ih =>
      rw [textAhead_cons, scan_append_feed] at h
      cases hscan : opened.scan t with
      | closed inner behind =>
          rw [hscan] at h
          cases h
      | unclosed reached =>
          rw [hscan, OpenScan.onward, OpenScan.prepend_eq_unclosed_iff] at h
          obtain ⟨reached', hline, hthrough⟩ := ih h
          exact ⟨reached, rfl, .cons hline hthrough⟩

end Opened

end Literate
