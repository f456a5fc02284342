import Literate.Proofs.Script.LiteralExtent
import Literate.Proofs.Script.Recoding

/-!
# What lines leave open

Where lexing ends inside a comment or a string, this was opened at a place in code, at the offset
that the lexer remembers, and nothing in the text ahead of the place ends it. So at the end of a
script at most one is open, and there is no other place where one was opened and never closed.
-/

namespace Literate

/-- The construct that a text leaves open, with its mark and the text behind the mark. -/
structure LeavesOpen (t opener body : Text) (opened reached : Opened) : Prop where
  text_eq : t = opener ++ body
  opens : Opens opened opener body
  scan_eq : opened.scan body = .unclosed reached

/-- What code leaves open was opened at a place that it comes to. -/
theorem codePieces_leavesOpen {offset : Nat} {t : Text} {reached : Opened} {start : Nat}
    (h : (codePieces offset t).2 = reached.mode start) :
    ∃ lead rest opener body opened, CodeReaches t lead rest ∧
      start = offset + Text.byteSize lead ∧ LeavesOpen rest opener body opened reached := by
  fun_induction codePieces offset t with
  | case1 => exact absurd h.symm (reached.mode_ne_code start)
  | case2 offset c rest step opened hopened =>
      obtain ⟨rfl, rfl⟩ := Opened.mode_inj h
      obtain ⟨begun, opener, body, hrest, hopens⟩ | hends := exists_opens_or_ends c rest
      · refine ⟨[], _, opener, body, begun, .here, rfl, hrest, hopens, ?_⟩
        have hstep : step = (begun.scan body).step begun.pieceKind opener body :=
          hopens.codeStep_eq hrest
        rw [hstep] at hopened
        cases hscan : begun.scan body with
        | closed front behind =>
            rw [hscan] at hopened
            cases hopened
        | unclosed last =>
            rw [hscan] at hopened
            exact congrArg _ (Option.some.inj hopened)
      · exact absurd (hends.opened_eq.symm.trans hopened) (by simp)
  | case3 offset c rest step hopened pieces mode hpieces ih =>
      rw [hpieces] at ih
      obtain ⟨lead, behind, opener, body, opened, hreaches, rfl, hleaves⟩ := ih h
      refine ⟨_, behind, opener, body, opened, .step hopened hreaches, ?_, hleaves⟩
      rw [Text.byteSize_append, Nat.add_assoc]

/-- What a line leaves open was open in front of it, or was opened at a place in code on it. -/
theorem linePieces_leavesOpen {mode : LexMode} {offset : Nat} {t : Text} {reached : Opened}
    {start : Nat} (h : (linePieces mode offset t).2 = reached.mode start) :
    (∃ opened : Opened, mode = opened.mode start ∧ opened.scan t = .unclosed reached) ∨
      ∃ lead rest opener body opened, mode.Reaches t lead rest ∧
        start = offset + Text.byteSize lead ∧ LeavesOpen rest opener body opened reached := by
  by_cases hmode : mode = .code
  · obtain ⟨lead, rest, opener, body, opened, hreaches, hstart, hleaves⟩ :=
      codePieces_leavesOpen (hmode ▸ h)
    exact .inr ⟨lead, rest, opener, body, opened, .code hmode hreaches, hstart, hleaves⟩
  · obtain ⟨begun, begin, rfl⟩ : ∃ (begun : Opened) (begin : Nat), mode = begun.mode begin := by
      cases mode with
      | code => exact absurd rfl hmode
      | comment depth start => exact ⟨.comment depth, start, rfl⟩
      | string kind start => exact ⟨.string kind, start, rfl⟩
    rw [linePieces_mode] at h
    cases hscan : begun.scan t with
    | closed front behind =>
        -- What is left open was opened in the code behind the end of this construct.
        rw [hscan] at h
        obtain ⟨lead, rest, opener, body, opened, hreaches, hstart, hleaves⟩ :=
          codePieces_leavesOpen h
        refine .inr ⟨_, rest, opener, body, opened, .behind rfl hscan hreaches, ?_, hleaves⟩
        rw [hstart, Text.byteSize_append, Nat.add_assoc]
    | unclosed last =>
        rw [hscan] at h
        obtain ⟨rfl, rfl⟩ := Opened.mode_inj h
        exact .inl ⟨begun, rfl, hscan⟩

/-- A line behind which something is open neither controls branches nor is inactive. -/
theorem lexLine_leavesOpen {defined : List Text} {state : LexState} {offset : Nat} {t : Text}
    {reached : Opened} {start : Nat}
    (h : (lexLine defined state offset t).after.mode = reached.mode start) :
    state.IsOrdinaryFor t ∧ (linePieces state.mode offset t).2 = reached.mode start := by
  have hordinary : state.IsOrdinaryFor t := by
    intro hmode
    obtain ⟨mode, branches⟩ := state
    subst hmode
    simp only [lexLine] at h
    split at h
    · exact absurd h.symm (reached.mode_ne_code start)
    next hline =>
      split at h
      next hactive => exact ⟨hline, hactive⟩
      next => exact absurd h.symm (reached.mode_ne_code start)
  rw [lexLine_ordinary hordinary] at h
  exact ⟨hordinary, h⟩

theorem textAhead_concat (rest : Text) (back : List Text) (raw : Text) :
    textAhead rest (back ++ [raw]) = textAhead rest back ++ '\n' :: withoutReturn raw := by
  induction back generalizing rest with
  | nil => rw [List.nil_append, textAhead_cons, textAhead_nil, textAhead_nil]
  | cons line back ih => rw [List.cons_append, textAhead_cons, ih, textAhead_cons]; simp

/-- What lines leave open was opened at a place in code on one of them, and the text ahead of the
place does not end it. -/
theorem stateBehind_leavesOpen {defined raws : List Text} {reached : Opened} {start : Nat}
    (h : (stateBehind defined raws).mode = reached.mode start) :
    ∃ (place : Place) (opener body : Text) (opened : Opened),
      raws = place.front ++ place.raw :: place.back ∧
      (stateBehind defined place.front).IsOrdinaryFor (withoutReturn place.raw) ∧
      (stateBehind defined place.front).mode.Reaches (withoutReturn place.raw) place.lead
        place.rest ∧
      place.offset = start ∧ place.rest = opener ++ body ∧ Opens opened opener body ∧
      opened.scan (textAhead body place.back) = .unclosed reached := by
  -- From the last line back: a place that an earlier line opened at keeps its offset, and the line
  -- joins the text ahead of it.
  induction raws using List.reverseRecOn generalizing reached with
  | nil => exact absurd h.symm (reached.mode_ne_code start)
  | append_singleton init last ih =>
      rw [stateBehind_concat] at h
      obtain ⟨hordinary, hmode⟩ := lexLine_leavesOpen h
      obtain ⟨begun, hbegun, hscan⟩ | ⟨lead, rest, opener, body, opened, hreaches, hstart, hleaves⟩
        := linePieces_leavesOpen hmode
      · obtain ⟨place, opener, body, opened, rfl, hplace, hreaches, hoffset, hrest, hopens, hopen⟩
          := ih hbegun
        refine ⟨{ place with back := place.back ++ [last] }, opener, body, opened, by simp, hplace,
          hreaches, hoffset, hrest, hopens, ?_⟩
        rw [textAhead_concat, Opened.scan_append_feed, hopen, OpenScan.onward,
          OpenScan.prepend_eq_unclosed_iff]
        exact hscan
      · refine ⟨⟨init, last, [], lead, rest⟩, opener, body, opened, rfl, hordinary, hreaches,
          hstart.symm, hleaves.text_eq, hleaves.opens, ?_⟩
        rw [textAhead_nil]
        exact hleaves.scan_eq

/-- What is open at the end of a script was opened at a place in code and has no end ahead. -/
theorem exists_place_of_mode {defined : List Text} {source : Text} {reached : Opened} {start : Nat}
    (h : (stateBehind defined (physicalLines source)).mode = reached.mode start) :
    ∃ (place : Place) (opener body : Text) (opened : Opened), place.InCode defined source ∧
      place.offset = start ∧ place.rest = opener ++ body ∧ Opens opened opener body ∧
      reached.SameAs opened ∧ ∀ inner behind, textAhead body place.back = inner ++ behind →
        ¬ opened.Closes inner behind := by
  obtain ⟨place, opener, body, opened, hlines, hordinary, hreaches, hoffset, hrest, hopens, hscan⟩
    := stateBehind_leavesOpen h
  refine ⟨place, opener, body, opened, ⟨hlines, hordinary, hreaches⟩, hoffset, hrest, hopens,
    Opened.scan_unclosed_sameAs hscan, fun inner behind hahead hcloses => ?_⟩
  rw [hopens.scan_eq_closed_iff.mpr ⟨hahead, hcloses⟩] at hscan
  cases hscan

end Literate
