import Literate.Proofs.Document.Recoding
import Literate.Proofs.Script.ConditionWriting

/-!
# Disabled code

What stands on the lines of a disabled branch cannot influence the document. Other texts may take
their place, with openers, directives or quotes in them, as long as they control no branch: all
other lines are lexed alike, and apart from the code that contains those lines the document stays
the same.
-/

namespace Literate

/-! ## Other texts for lines -/

/-- A physical line with the new text for its number, if there is one. A carriage return at its
end stays. -/
def replacedLine (texts : Nat → Option Text) (index : Nat) (raw : Text) : Text :=
  match texts (1 + index) with
  | none => raw
  | some t => t ++ if raw.getLast? = some '\r' then ['\r'] else []

/-- The source with new texts for lines. Whether it ends with a line feed stays. -/
def withTexts (texts : Nat → Option Text) (source : Text) : Text :=
  let lines := (physicalLines source).mapIdx (replacedLine texts)
  if source.getLast? = some '\n' then feedLines lines else List.intercalate ['\n'] lines

/-- A place moved along with its line, at the same distance from the start of the line. -/
def placeWithTexts (texts : Nat → Option Text) (source : Text) (place : Nat) : Nat :=
  let front := (physicalLines source).take (feedsBefore source place)
  rawSize (front.mapIdx (replacedLine texts)) + (place - rawSize front)

/-- The line of a number stands in a disabled branch and is lexed as inactive text or as blank. -/
def InDisabledCode (defined : List Text) (source : Text) (number : Nat) : Prop :=
  ∃ front raw back line, physicalLines source = front ++ raw :: back ∧
    number = 1 + front.length ∧ isActive (stateBehind defined front).branches = false ∧
    (lexSource defined source).1[front.length]? = some line ∧ line.IsInert

/-- New texts for some lines of disabled branches. They control no branch themselves. -/
structure ReplacesDisabled (defined : List Text) (source : Text) (texts : Nat → Option Text) :
    Prop where
  disabled : ∀ number t, texts number = some t → InDisabledCode defined source number
  no_feed : ∀ number t, texts number = some t → '\n' ∉ t
  no_return : ∀ number t, texts number = some t → t.getLast? ≠ some '\r'
  no_control : ∀ number t, texts number = some t → BranchLine.ofText? t = none
  /-- At the end of the source no empty text is a line, unless the line has a terminator. -/
  last_ne_nil : ∀ t, texts (physicalLines source).length = some t →
    source.getLast? ≠ some '\n' → source.getLast? ≠ some '\r' → t ≠ []

section Replaced

variable {texts : Nat → Option Text}

theorem replacedLine_of_none {index : Nat} (h : texts (1 + index) = none) (raw : Text) :
    replacedLine texts index raw = raw := by
  rw [replacedLine, h]

theorem withoutReturn_replacedLine {index : Nat} {t : Text} (h : texts (1 + index) = some t)
    (ht : t.getLast? ≠ some '\r') (raw : Text) :
    withoutReturn (replacedLine texts index raw) = t := by
  simp only [replacedLine, h]
  split
  next => exact withoutReturn_append_return t
  next => rw [List.append_nil, withoutReturn_of_getLast?_ne ht]

end Replaced

namespace ReplacesDisabled

variable {defined : List Text} {source : Text} {texts : Nat → Option Text}

theorem not_mem_replacedLine (h : ReplacesDisabled defined source texts) {index : Nat} {raw : Text}
    (hraw : '\n' ∉ raw) : '\n' ∉ replacedLine texts index raw := by
  rw [replacedLine]
  split
  next => exact hraw
  next t htext =>
    have ht := h.no_feed _ t htext
    split <;> simpa using ht

/-- No line of an empty source is disabled. -/
theorem ne_nil (h : ReplacesDisabled defined source texts) {number : Nat} {t : Text}
    (htext : texts number = some t) : source ≠ [] := by
  rintro rfl
  obtain ⟨front, raw, back, line, hraws, -, hinactive, -⟩ := h.disabled number t htext
  have hlength : 1 = (front ++ raw :: back).length := congrArg List.length hraws
  rw [List.length_append, List.length_cons] at hlength
  obtain rfl := List.eq_nil_of_length_eq_zero (show front.length = 0 by omega)
  cases hinactive

/-- The last line does not become empty where nothing ends it. -/
theorem replacedLine_ne_nil (h : ReplacesDisabled defined source texts) {init : List Text}
    {last : Text} (hraws : physicalLines source = init ++ [last]) (hne : source ≠ [])
    (hend : source.getLast? ≠ some '\n') : replacedLine texts init.length last ≠ [] := by
  have hsource := (hraws ▸ physicalLines_breaks source).eq_feedLines_append hend
  have hlast : last ≠ [] := by
    rintro rfl
    rw [List.append_nil] at hsource
    by_cases hinit : init = []
    · exact hne (hsource.trans (by rw [hinit]; rfl))
    · obtain ⟨front, raw, rfl⟩ := (List.eq_nil_or_concat' _).resolve_left hinit
      exact hend (by rw [hsource]; simp [feedLines])
  have hsame : source.getLast? = last.getLast? := by
    rw [hsource, List.getLast?_append, List.getLast?_eq_some_getLast hlast]
    rfl
  rw [replacedLine]
  split
  next => exact hlast
  next t htext =>
    split
    next => simp
    next hreturn =>
      rw [List.append_nil]
      refine h.last_ne_nil t ?_ hend (hsame ▸ hreturn)
      rw [hraws, List.length_append, List.length_singleton, Nat.add_comm, htext]

/-- The new texts are found again where they were put. -/
theorem physicalLines_withTexts (h : ReplacesDisabled defined source texts) :
    physicalLines (withTexts texts source) =
      (physicalLines source).mapIdx (replacedLine texts) := by
  have hbreaks := physicalLines_breaks source
  have hfree : ∀ line ∈ (physicalLines source).mapIdx (replacedLine texts), '\n' ∉ line := by
    intro line hline
    obtain ⟨index, hindex, rfl⟩ := List.mem_mapIdx.mp hline
    exact h.not_mem_replacedLine (hbreaks.not_mem _ (List.getElem_mem hindex))
  rw [withTexts]
  split
  next => exact physicalLines_feedLines (by simpa using hbreaks.ne_nil) hfree
  next hend =>
    by_cases hne : source = []
    · subst hne
      have hnone : texts (1 + 0) = none := by
        cases htext : texts (1 + 0) with
        | none => rfl
        | some t => exact absurd rfl (h.ne_nil htext)
      simp only [show physicalLines [] = [[]] from rfl, List.mapIdx_singleton,
        replacedLine_of_none hnone]
      rfl
    · obtain ⟨init, last, hraws⟩ := (List.eq_nil_or_concat' _).resolve_left hbreaks.ne_nil
      rw [hraws, List.mapIdx_concat] at hfree ⊢
      exact physicalLines_intercalate hfree (h.replacedLine_ne_nil hraws hne hend)

/-- A replaced line controls nothing, because it would not be inactive. -/
theorem disabled_line {front back : List Text} {raw t : Text}
    (h : ReplacesDisabled defined source texts)
    (hraws : physicalLines source = front ++ raw :: back)
    (htext : texts (1 + front.length) = some t) :
    isActive (stateBehind defined front).branches = false ∧
      BranchLine.ofText? (withoutReturn raw) = none := by
  obtain ⟨front', raw', back', line, hraws', hnumber, hinactive, hline, hinert⟩ :=
    h.disabled _ t htext
  obtain ⟨rfl, hcons⟩ := List.append_inj (hraws.symm.trans hraws') (by omega)
  obtain ⟨rfl, rfl⟩ := List.cons.inj hcons
  refine ⟨hinactive, ?_⟩
  by_contra hcontrol
  have hmode := (stateBehind_opensActive defined front).mode_eq hinactive
  have hlexed : (lexLine defined (stateBehind defined front) (rawSize front)
      (withoutReturn raw)).pieces = wholeLine .preprocessor (withoutReturn raw) := by
    obtain ⟨control, hcontrol⟩ := Option.ne_none_iff_exists'.mp hcontrol
    rw [lexLine, hmode, hcontrol]
  rw [lexSource, hraws, lexLines_getElem?, hlexed, Option.some.injEq] at hline
  subst hline
  exact Line.not_isInert_of_control hcontrol _ _ hinert

/-- New texts on disabled lines are a way to recode the source. -/
theorem recodes (h : ReplacesDisabled defined source texts) :
    Recodes defined texts (placeWithTexts texts source) (replacedLine texts)
      (physicalLines source) where
  moves := by
    intro front raw back hraws j hj
    have hfeeds := (hraws ▸ physicalLines_breaks source).feedsBefore_eq
      (Nat.le_trans hj (byteSize_withoutReturn_le raw))
    simp only [placeWithTexts, hfeeds, hraws, List.take_left, Nat.add_sub_cancel_left]
  keeps := by
    intro front raw back _ htext
    rw [replacedLine_of_none htext]
  disabled := by
    intro front raw back t hraws htext
    obtain ⟨hinactive, hraw⟩ := h.disabled_line hraws htext
    exact ⟨withoutReturn_replacedLine htext (h.no_return _ t htext) raw, hinactive, hraw,
      h.no_control _ t htext⟩

end ReplacesDisabled

/-- Disabled code cannot influence the document. Whatever texts take the place of disabled lines,
all other lines have the same tokens and the same is reported, moved by the change of the lengths
of lines. The new texts are inactive again. The blocks are of the same kinds with the same
comments and options, and reading gives the same error, or the same paragraphs apart from lines
of code. -/
theorem read_withTexts {source : Text} {texts : Nat → Option Text} {settings : Settings}
    (h : ReplacesDisabled (definedSymbols settings.defines settings.compilerOptions) source texts)
    (readProse : Text → Prose) (fileId : Nat) :
    let f := placeWithTexts texts source
    let reader := ScriptReader.ofProse readProse settings fileId source
    let reader' := ScriptReader.ofProse readProse settings fileId (withTexts texts source)
    let unit := tokenize reader.request
    let unit' := tokenize reader'.request
    unit'.lines = unit.lines.map (·.recoded texts f) ∧
      unit'.diagnostics = unit.diagnostics.map (·.relocate f) ∧
      (∀ line ∈ unit'.lines, ∀ t, texts line.number = some t → line.IsInert ∧ line.text = t) ∧
      List.Forall₂ (Block.Recoded texts f unit.lines) (groupLines unit.lines)
        (groupLines unit'.lines) ∧
      SameResult f (Document.Recoded texts f) reader.read reader'.read := by
  intro f reader reader' unit unit'
  have hraws := h.physicalLines_withTexts
  have hunit : unit' = unit.recoded texts f := h.recodes.tokenize_eq reader.request hraws
  have hlines : unit'.lines = unit.lines.map (·.recoded texts f) := congrArg Tokenized.lines hunit
  refine ⟨hlines, congrArg Tokenized.diagnostics hunit, ?_, ?_, ?_⟩
  · rw [hlines]
    intro line hline t htext
    obtain ⟨line, -, rfl⟩ := List.mem_map.mp hline
    exact line.isInert_recoded htext
  · rw [hlines]
    exact h.recodes.guarded.groupLines_recoded
  · exact h.recodes.sameResult readProse settings fileId hraws

/-- A new text for the second line alone. -/
def Text.onSecondLine (t : Text) (number : Nat) : Option Text :=
  if number = 2 then some t else none

theorem Text.onSecondLine_eq_some {t s : Text} {number : Nat}
    (h : t.onSecondLine number = some s) : number = 2 ∧ s = t := by
  rw [onSecondLine] at h
  split at h
  next hnumber => exact ⟨hnumber, (Option.some.inj h).symm⟩
  next => cases h

/-- The lexer of a source whose first line asks for an undefined symbol is in disabled code. -/
theorem isActive_behind_undefined :
    isActive (stateBehind [] ["#if A".toList]).branches = false := by
  have hcondition : Condition.evaluate [] ['A'] = .ok false :=
    (Formula.symbol ['A']).evaluate_of_spaced (by decide) (.token .nil) []
  have hcontrol : ControlLine.ofLine? (stateBehind [] []).mode 0 (withoutReturn "#if A".toList) =
      some ⟨⟨0, 5⟩, .opens ['A']⟩ := rfl
  have hstate := stateBehind_concat [] [] "#if A".toList
  rw [List.nil_append, rawSize_nil, lexLine_of_control hcontrol] at hstate
  rw [hstate, applyBranchLine, hcondition]
  rfl

/-- Nothing closes the comment and the quote that are put in place of disabled code. -/
theorem replacesDisabled_opened :
    ReplacesDisabled [] "#if A\nx\n#endif".toList (Text.onSecondLine "(** \"".toList) where
  disabled := by
    intro number t htext
    obtain ⟨rfl, -⟩ := Text.onSecondLine_eq_some htext
    have hline := lexLines_getElem? [] ["#if A".toList] ["#endif".toList] ['x']
    rw [lexLine_of_disabled (stateBehind_opensActive _ _) isActive_behind_undefined rfl] at hline
    exact ⟨["#if A".toList], ['x'], ["#endif".toList], _, rfl, rfl, isActive_behind_undefined,
      hline, Line.isInert_wholeLine _ _ _⟩
  no_feed := by
    intro number t htext
    obtain ⟨-, rfl⟩ := Text.onSecondLine_eq_some htext
    decide +kernel
  no_return := by
    intro number t htext
    obtain ⟨-, rfl⟩ := Text.onSecondLine_eq_some htext
    decide +kernel
  no_control := by
    intro number t htext
    obtain ⟨-, rfl⟩ := Text.onSecondLine_eq_some htext
    rfl
  last_ne_nil := nofun

theorem read_withTexts_opened :
    ReplacesDisabled [] "#if A\nx\n#endif".toList (Text.onSecondLine "(** \"".toList) ∧
      SameResult
        (placeWithTexts (Text.onSecondLine "(** \"".toList) "#if A\nx\n#endif".toList)
        (Document.Recoded (Text.onSecondLine "(** \"".toList)
          (placeWithTexts (Text.onSecondLine "(** \"".toList) "#if A\nx\n#endif".toList))
        (ScriptReader.ofProse (fun text => ⟨[.html text], .empty⟩) .default 0
          "#if A\nx\n#endif".toList).read
        (ScriptReader.ofProse (fun text => ⟨[.html text], .empty⟩) .default 0
          "#if A\n(** \"\n#endif".toList).read := by
  have htexts : withTexts (Text.onSecondLine "(** \"".toList) "#if A\nx\n#endif".toList =
      "#if A\n(** \"\n#endif".toList := rfl
  obtain ⟨-, -, -, -, hread⟩ := @read_withTexts "#if A\nx\n#endif".toList _ .default
    replacesDisabled_opened (fun text => ⟨[.html text], .empty⟩) 0
  rw [htexts] at hread
  exact ⟨replacesDisabled_opened, hread⟩

end Literate
