import Literate.Proofs.Script.Nesting
import Literate.Proofs.Text.Break

/-!
# Line terminators read as line feeds

A stretch of a source from the start of one line to the end of another reads as the texts of
the lines with line feeds between them. Scans of comments find the same in a source and in what
it reads as.
-/

namespace Literate

namespace Text

/-- The text with a carriage return left out in front of every line feed. -/
def readBreaks : Text → Text
  | [] => []
  | '\r' :: '\n' :: rest => '\n' :: readBreaks rest
  | c :: rest => c :: readBreaks rest

/-- A carriage return in front of a line feed. -/
def AtBreak (c : Char) (rest : Text) : Prop := c = '\r' ∧ rest.head? = some '\n'

theorem readBreaks_of_atBreak {c : Char} {rest : Text} (h : AtBreak c rest) :
    readBreaks (c :: rest) = readBreaks rest := by
  obtain ⟨rfl, hhead⟩ := h
  obtain ⟨tail, rfl⟩ := List.head?_eq_some_iff.mp hhead
  rw [readBreaks, readBreaks]
  simp

theorem readBreaks_of_not_atBreak {c : Char} {rest : Text} (h : ¬ AtBreak c rest) :
    readBreaks (c :: rest) = c :: readBreaks rest := by
  rw [readBreaks]
  rintro tail rfl rfl
  exact h ⟨rfl, rfl⟩

theorem readBreaks_cons_of_ne {c : Char} (hc : c ≠ '\r') (rest : Text) :
    readBreaks (c :: rest) = c :: readBreaks rest :=
  readBreaks_of_not_atBreak fun h => hc h.1

theorem count_readBreaks (t : Text) : (readBreaks t).count '\n' = t.count '\n' := by
  fun_induction readBreaks t with
  | case1 => rfl
  | case2 rest ih => simp [ih]
  | case3 c rest _ ih => simp [List.count_cons, ih]

theorem readBreaks_append_of_not_mem {s : Text} (hs : '\n' ∉ s) {t : Text}
    (h : s.getLast? = some '\r' → t.head? ≠ some '\n') :
    readBreaks (s ++ t) = s ++ readBreaks t := by
  induction s with
  | nil => rfl
  | cons c s ih =>
      have hs' : '\n' ∉ s := fun hmem => hs (List.mem_cons_of_mem c hmem)
      have hbreak : ¬ AtBreak c (s ++ t) := by
        rintro ⟨rfl, hhead⟩
        cases s with
        | nil => exact h rfl hhead
        | cons d s => exact hs (by simp [Option.some.inj hhead])
      rw [List.cons_append, readBreaks_of_not_atBreak hbreak, List.cons_append]
      refine congrArg _ (ih hs' fun hlast => h ?_)
      rw [List.getLast?_cons, hlast]
      rfl

/-- A physical line and its line feed read as the text of the line and a line feed. -/
theorem readBreaks_line {raw : Text} (hraw : '\n' ∉ raw) (rest : Text) :
    readBreaks (raw ++ '\n' :: rest) = withoutReturn raw ++ '\n' :: readBreaks rest := by
  have hfeed : readBreaks ('\n' :: rest) = '\n' :: readBreaks rest :=
    readBreaks_cons_of_ne (by decide) rest
  by_cases hlast : raw.getLast? = some '\r'
  · obtain ⟨t, rfl⟩ := List.getLast?_eq_some_iff.mp hlast
    have ht : '\n' ∉ t := fun hmem => hraw (List.mem_append_left _ hmem)
    have hreturn : readBreaks ('\r' :: '\n' :: rest) = '\n' :: readBreaks rest := by
      rw [readBreaks_of_atBreak ⟨rfl, rfl⟩, hfeed]
    rw [withoutReturn_append_return, List.append_assoc, List.singleton_append,
      readBreaks_append_of_not_mem ht (fun _ => by simp), hreturn]
  · rw [withoutReturn_of_getLast?_ne hlast,
      readBreaks_append_of_not_mem hraw (fun h => absurd h hlast), hfeed]

theorem readBreaks_of_not_mem {t : Text} (h : '\n' ∉ t) : readBreaks t = t := by
  have hnil := readBreaks_append_of_not_mem h (t := []) (fun _ => by simp)
  simpa [readBreaks] using hnil

theorem head?_readBreaks {t : Text} {c : Char} (hc : c ≠ '\n') (h : t.head? ≠ some c) :
    (readBreaks t).head? ≠ some c := by
  fun_induction readBreaks t with
  | case1 => exact h
  | case2 => simpa using hc.symm
  | case3 => exact h

theorem readBreaks_append (s : Text) {t : Text} (ht : t.head? ≠ some '\n') :
    readBreaks (s ++ t) = readBreaks s ++ readBreaks t := by
  fun_induction readBreaks s with
  | case1 => rfl
  | case2 rest ih => simp [readBreaks, ih]
  | case3 c rest hnot ih =>
      have hbreak : ¬ AtBreak c (rest ++ t) := by
        rintro ⟨rfl, hhead⟩
        cases rest with
        | nil => exact ht hhead
        | cons d rest => exact hnot rest rfl (by simpa using hhead)
      rw [List.cons_append, readBreaks_of_not_atBreak hbreak, ih, List.cons_append]

/-- A beginning without line feeds is read as it stands. -/
theorem readBreaks_eq_append {lead t rest : Text} (hlead : '\n' ∉ lead)
    (h : readBreaks t = lead ++ rest) : ∃ back, t = lead ++ back ∧ readBreaks back = rest := by
  induction lead generalizing t with
  | nil => exact ⟨t, rfl, h⟩
  | cons c lead ih =>
      have hc : c ≠ '\n' := fun hc => hlead (hc ▸ List.mem_cons_self)
      have hlead' : '\n' ∉ lead := fun hmem => hlead (List.mem_cons_of_mem c hmem)
      cases t with
      | nil => simp [readBreaks] at h
      | cons d t =>
          have hbreak : ¬ AtBreak d t := by
            intro hbreak
            obtain ⟨tail, rfl⟩ := List.head?_eq_some_iff.mp hbreak.2
            rw [readBreaks_of_atBreak hbreak, readBreaks_cons_of_ne (by decide)] at h
            exact hc (List.cons.inj h).1.symm
          rw [readBreaks_of_not_atBreak hbreak] at h
          obtain ⟨rfl, htail⟩ := List.cons.inj h
          obtain ⟨back, rfl, hback⟩ := ih hlead' htail
          exact ⟨back, rfl, hback⟩

end Text

/-- What is read behind the text of a line: nothing, or a terminator. Only the terminator of the
last line has nothing behind it. -/
inductive Trails (back : List Text) : Text → Prop where
  | nothing : Trails back []
  | terminator {c : Char} {rest : Text} (hc : IsNoMark c)
      (hrest : rest ≠ [] → c = '\n' ∧ back ≠ []) : Trails back (c :: rest)

namespace LineBreaks

variable {raw source : Text} {back : List Text}

theorem trails_feed {rest : Text} (h : rest ≠ [] → back ≠ []) :
    Trails back (Text.readBreaks ('\n' :: rest)) := by
  rw [Text.readBreaks_cons_of_ne (by decide)]
  refine .terminator isNoMark_feed fun hrest => ⟨rfl, h ?_⟩
  rintro rfl
  exact hrest rfl

/-- The first line of a source and what stands behind its text are read apart. -/
theorem trails_head (h : LineBreaks (raw :: back) source) :
    ∃ trail, source = withoutReturn raw ++ trail ∧
      Text.readBreaks source = withoutReturn raw ++ Text.readBreaks trail ∧
      Trails back (Text.readBreaks trail) := by
  obtain ⟨trail, rfl, htrail⟩ : ∃ trail, source = raw ++ trail ∧
      (trail = [] ∨ ∃ rest, trail = '\n' :: rest ∧ (rest ≠ [] → back ≠ [])) := by
    cases h with
    | last => exact ⟨[], by simp⟩
    | ended => exact ⟨['\n'], rfl, .inr ⟨[], rfl, by simp⟩⟩
    | @more _ rest _ _ hrest => exact ⟨'\n' :: rest, rfl, .inr ⟨rest, rfl, fun _ => hrest.ne_nil⟩⟩
  have hraw : '\n' ∉ raw := h.not_mem raw (by simp)
  -- A carriage return at the end is no part of the text and belongs to what trails it.
  by_cases hlast : raw.getLast? = some '\r'
  · obtain ⟨t, rfl⟩ := List.getLast?_eq_some_iff.mp hlast
    rw [withoutReturn_append_return, List.append_assoc, List.singleton_append]
    refine ⟨'\r' :: trail, rfl, ?_, ?_⟩
    · exact Text.readBreaks_append_of_not_mem (fun hmem => hraw (List.mem_append_left _ hmem))
        fun _ => by simp
    · rcases htrail with rfl | ⟨rest, rfl, hrest⟩
      · exact .terminator isNoMark_return fun h => absurd rfl h
      · rw [Text.readBreaks_of_atBreak ⟨rfl, rfl⟩]
        exact trails_feed hrest
  · rw [withoutReturn_of_getLast?_ne hlast]
    refine ⟨trail, rfl, Text.readBreaks_append_of_not_mem hraw fun h => absurd h hlast, ?_⟩
    rcases htrail with rfl | ⟨rest, rfl, hrest⟩
    · exact .nothing
    · exact trails_feed hrest

/-- The lines of a source up to one of them are a slice of the source that reads as their texts
with line feeds between them. -/
theorem read {front : List Text} (h : LineBreaks (front ++ raw :: back) source) :
    ∃ slice trail, source = slice ++ trail ∧
      Text.byteSize slice = rawSize front + Text.byteSize (withoutReturn raw) ∧
      Text.readBreaks slice = List.intercalate ['\n'] ((front ++ [raw]).map withoutReturn) ∧
      Text.readBreaks source = Text.readBreaks slice ++ Text.readBreaks trail ∧
      Trails back (Text.readBreaks trail) := by
  induction front generalizing source with
  | nil =>
      obtain ⟨trail, hsource, hread, htrails⟩ := h.trails_head
      have hnot : '\n' ∉ withoutReturn raw := h.not_mem_withoutReturn (by simp)
      refine ⟨withoutReturn raw, trail, hsource, by simp, ?_, ?_, htrails⟩
      · rw [Text.readBreaks_of_not_mem hnot, List.nil_append, List.map_singleton,
          List.intercalate_singleton]
      · rw [hread, Text.readBreaks_of_not_mem hnot]
  | cons first front ih =>
      generalize hlines : first :: front ++ raw :: back = lines at h
      cases h with
      | last => simp at hlines
      | ended => simp at hlines
      | @more opening rest _ hopening hrest =>
          obtain ⟨rfl, rfl⟩ := List.cons.inj hlines
          obtain ⟨slice, trail, rfl, hsize, hslice, hread, htrails⟩ := ih hrest
          refine ⟨first ++ '\n' :: slice, trail, by simp, ?_, ?_, ?_, htrails⟩
          · simp [hsize, utf8Size_feed, Nat.add_assoc]
          · rw [Text.readBreaks_line hopening, hslice, List.cons_append, List.map_cons,
              List.intercalate_cons_of_ne_nil (by simp)]
            simp
          · rw [Text.readBreaks_line hopening, Text.readBreaks_line hopening, hread]
            simp

end LineBreaks

/-! ## Scans of what a text reads as -/

/-- The scan with both parts of a closed scan read through a function. -/
def CommentScan.map (f : Text → Text) : CommentScan → CommentScan
  | .closed body rest => .closed (f body) (f rest)
  | .unclosed depth => .unclosed depth

/-- Prepending and reading go together when the body reads on behind what is prepended. -/
theorem CommentScan.map_prepend {f : Text → Text} {lead : Text} {scan : CommentScan}
    (h : ∀ body rest, scan = .closed body rest → f (lead ++ body) = lead ++ f body) :
    (scan.prepend lead).map f = (scan.map f).prepend lead := by
  cases scan with
  | closed body rest => simp [prepend, map, h body rest rfl]
  | unclosed depth => rfl

theorem Text.readBreaks_append_of_no_return (lead : Text) (hlead : '\r' ∉ lead) (t : Text) :
    readBreaks (lead ++ t) = lead ++ readBreaks t := by
  induction lead with
  | nil => rfl
  | cons c lead ih =>
      rw [List.mem_cons, not_or] at hlead
      obtain ⟨hc, hlead⟩ := hlead
      rw [List.cons_append, readBreaks_cons_of_ne (Ne.symm hc), ih hlead]
      rfl

/-- A scan finds the same in a text and in what it reads as. -/
theorem scanComment_readBreaks (depth : Nat) (t : Text) :
    scanComment depth (Text.readBreaks t) = (scanComment depth t).map Text.readBreaks := by
  have mark : ∀ lead : Text, '\r' ∉ lead → ∀ scan : CommentScan,
      (scan.prepend lead).map Text.readBreaks = (scan.map Text.readBreaks).prepend lead :=
    fun lead hlead scan => CommentScan.map_prepend fun body _ _ =>
      Text.readBreaks_append_of_no_return lead hlead body
  induction t using Text.mark_induction generalizing depth with
  | nil => simp [Text.readBreaks, scanComment_nil, CommentScan.map]
  | star t ih =>
      have hread : Text.readBreaks ('(' :: '*' :: ')' :: t) = _ :=
        Text.readBreaks_append_of_no_return ['(', '*', ')'] (by decide) t
      rw [scanComment_star, mark _ (by decide), ← ih, hread]
      exact scanComment_star depth _
  | opener t ht ih =>
      have hread : Text.readBreaks ('(' :: '*' :: t) = _ :=
        Text.readBreaks_append_of_no_return ['(', '*'] (by decide) t
      rw [scanComment_opener depth ht, mark _ (by decide), ← ih, hread]
      exact scanComment_opener depth (Text.head?_readBreaks (by decide) ht)
  | closer t ih =>
      have hread : Text.readBreaks ('*' :: ')' :: t) = _ :=
        Text.readBreaks_append_of_no_return ['*', ')'] (by decide) t
      rw [hread, List.cons_append, List.cons_append, List.nil_append, scanComment_closer,
        scanComment_closer, ih]
      split
      · rfl
      · rw [mark _ (by decide)]
  | plain c t hc ih =>
      rw [scanComment_plain depth hc]
      by_cases hbreak : Text.AtBreak c t
      · -- The line feed behind the carriage return is the first character of a closed body.
        rw [Text.readBreaks_of_atBreak hbreak, ih]
        cases hscan : scanComment depth t with
        | unclosed reached => rfl
        | closed body rest =>
            have hbody : Text.AtBreak c body :=
              ⟨hbreak.1, (scanComment_closed_head? hscan).trans hbreak.2⟩
            simp [CommentScan.prepend, CommentScan.map, Text.readBreaks_of_atBreak hbody]
      · have hc' : BeginsNoMark c (Text.readBreaks t) :=
          ⟨fun h => Text.head?_readBreaks (by decide) (fun ht => hc.1 ⟨h.1, ht⟩) h.2,
            fun h => Text.head?_readBreaks (by decide) (fun ht => hc.2 ⟨h.1, ht⟩) h.2⟩
        rw [Text.readBreaks_of_not_atBreak hbreak, scanComment_plain depth hc', ih,
          CommentScan.map_prepend]
        intro body rest hscan
        apply Text.readBreaks_of_not_atBreak
        intro h
        refine hbreak ⟨h.1, ?_⟩
        exact (scanComment_closed_head? hscan).symm.trans h.2

/-- A text that reads as something closed and a rest is closed where that is. -/
theorem scanComment_of_reads_closed {t front rear body rest : Text}
    (hread : Text.readBreaks t = front ++ rear) (h : scanComment 0 front = .closed body rest) :
    ∃ closing behind, scanComment 0 t = .closed closing behind ∧
      Text.readBreaks closing = body := by
  have hscan := scanComment_readBreaks 0 t
  rw [hread, scanComment_append_of_closed h] at hscan
  cases htext : scanComment 0 t with
  | unclosed depth => simp [htext, CommentScan.map] at hscan
  | closed closing behind =>
      rw [htext] at hscan
      exact ⟨closing, behind, rfl, (CommentScan.closed.inj hscan).1.symm⟩

/-- Behind lines that a scan does not close on, it closes on a later line or not at all. -/
theorem scanComment_of_reads_unclosed {t front rear closing behind : Text} {depth : Nat}
    {back : List Text} (hread : Text.readBreaks t = front ++ rear)
    (h : scanComment 0 front = .unclosed depth) (htrails : Trails back rear)
    (hclosed : scanComment 0 t = .closed closing behind) :
    back ≠ [] ∧ front.count '\n' < closing.count '\n' := by
  have hscan := scanComment_readBreaks 0 t
  rw [hread, hclosed] at hscan
  cases htrails with
  | nothing => simp [h, CommentScan.map] at hscan
  | @terminator c rest hc hrest =>
      rw [scanComment_append_of_unclosed h hc] at hscan
      obtain ⟨inner, hinner, hbody⟩ := CommentScan.prepend_eq_closed_iff.mp hscan
      have hne : rest ≠ [] := by
        rintro rfl
        simp [scanComment_nil] at hinner
      obtain ⟨rfl, hback⟩ := hrest hne
      refine ⟨hback, ?_⟩
      rw [← Text.count_readBreaks closing, hbody]
      simp [List.count_append]

end Literate
