import Literate.Proofs.Document.Recoding

/-!
# Line endings

A source may end its lines with a line feed alone or with a carriage return in front of it. The
two sources are read alike. Places move behind the carriage returns in front of them.
-/

namespace Literate

/-- The source with a carriage return in front of every line feed. -/
def withReturns (source : Text) : Text :=
  source.flatMap fun c => if c = '\n' then ['\r', '\n'] else [c]

/-- A physical line of a source with returns, where a number of lines end with a line feed. -/
def returnedLine (ended index : Nat) (raw : Text) : Text :=
  if index < ended then raw ++ ['\r'] else raw

/-- The place in the source with returns. It moves on by the line feeds in front of it. -/
def placeWithReturns (source : Text) (place : Nat) : Nat := place + feedsBefore source place

theorem withReturns_of_not_mem {t : Text} (h : '\n' ∉ t) : withReturns t = t := by
  induction t with
  | nil => rfl
  | cons c t ih =>
      have hc : c ≠ '\n' := fun hc => h (hc ▸ List.mem_cons_self)
      have ht := ih fun hmem => h (List.mem_cons_of_mem c hmem)
      rw [withReturns] at ht ⊢
      rw [List.flatMap_cons, ht, if_neg hc, List.singleton_append]

theorem withReturns_line {raw : Text} (h : '\n' ∉ raw) (rest : Text) :
    withReturns (raw ++ '\n' :: rest) = (raw ++ ['\r']) ++ '\n' :: withReturns rest := by
  have hraw := withReturns_of_not_mem h
  rw [withReturns] at hraw ⊢
  rw [List.flatMap_append, hraw, List.flatMap_cons]
  simp [withReturns]

theorem withReturns_ne_nil {source : Text} (h : source ≠ []) : withReturns source ≠ [] := by
  obtain ⟨c, source, rfl⟩ := List.exists_cons_of_ne_nil h
  rw [withReturns, List.flatMap_cons]
  split <;> simp

/-- The same lines with a carriage return at the end of each line that a line feed ends. -/
theorem physicalLines_withReturns (source : Text) : physicalLines (withReturns source) =
    (physicalLines source).mapIdx (returnedLine (source.count '\n')) := by
  by_cases hmem : '\n' ∈ source
  · obtain ⟨raw, rest, hsource, hraw⟩ := List.eq_append_cons_of_mem hmem
    have hreturned : '\n' ∉ raw ++ ['\r'] := by simpa using hraw
    have hcount : source.count '\n' = rest.count '\n' + 1 := by
      rw [hsource, List.count_append, List.count_eq_zero_of_not_mem hraw, List.count_cons_self,
        Nat.zero_add]
    have hfirst : returnedLine (rest.count '\n' + 1) 0 raw = raw ++ ['\r'] :=
      if_pos (Nat.succ_pos _)
    rw [hcount, hsource, withReturns_line hraw]
    by_cases hrest : rest = []
    · subst hrest
      rw [physicalLines_ended hraw, List.mapIdx_singleton, hfirst]
      exact physicalLines_ended hreturned
    · rw [physicalLines_more hraw hrest, physicalLines_more hreturned (withReturns_ne_nil hrest),
        physicalLines_withReturns rest, List.mapIdx_cons, hfirst]
      congr 2
      funext index line
      simp only [returnedLine, Nat.add_lt_add_iff_right]
  · rw [withReturns_of_not_mem hmem, physicalLines_of_not_mem hmem,
      List.count_eq_zero_of_not_mem hmem]
    rfl
termination_by source.length
decreasing_by simp [hsource]; omega

theorem rawSize_returned {front : List Text} {ended : Nat} (h : front.length ≤ ended) :
    rawSize (front.mapIdx (returnedLine ended)) = rawSize front + front.length := by
  induction front using List.reverseRecOn with
  | nil => rfl
  | append_singleton front raw ih =>
      rw [List.length_append, List.length_singleton] at h
      have hfront := ih (by omega)
      have hreturn : ('\r' : Char).utf8Size = 1 := by decide
      rw [List.mapIdx_concat, rawSize_append, rawSize_append, hfront, returnedLine,
        if_pos (by omega), List.length_append]
      simp [hreturn]
      omega

/-- A line that a line feed ends has no carriage return in front of it. -/
theorem getLast?_ne_return {source raw : Text} {front back : List Text}
    (h : ¬ ['\r', '\n'] <:+: source) (hbreaks : LineBreaks (front ++ raw :: back) source)
    (hended : front.length < source.count '\n') : raw.getLast? ≠ some '\r' := by
  intro hlast
  obtain ⟨init, rfl⟩ := List.getLast?_eq_some_iff.mp hlast
  have hfree := hbreaks.not_mem
  have hfront := count_feedLines fun line hline => hfree line (List.mem_append_left _ hline)
  obtain ⟨rest, rfl, hrest⟩ := hbreaks.behind (by simp)
  have hfeed : ∃ after, rest = (init ++ ['\r']) ++ '\n' :: after := by
    cases hrest with
    | last hraw =>
        rw [List.count_append, hfront, List.count_eq_zero_of_not_mem hraw] at hended
        omega
    | ended => exact ⟨[], rfl⟩
    | @more _ after => exact ⟨after, rfl⟩
  obtain ⟨after, rfl⟩ := hfeed
  exact h ⟨feedLines front ++ init, after, by simp⟩

/-- A source with returns has the same lines at places behind the returns. -/
theorem recodes_withReturns {source : Text} (h : ¬ ['\r', '\n'] <:+: source)
    (defined : List Text) : Recodes defined (fun _ => none) (placeWithReturns source)
      (returnedLine (source.count '\n')) (physicalLines source) where
  moves := by
    intro front raw back hraws j hj
    have hbreaks := hraws ▸ physicalLines_breaks source
    have hfeeds := hbreaks.feedsBefore_eq (Nat.le_trans hj (byteSize_withoutReturn_le raw))
    have hlines : front.length ≤ source.count '\n' := by
      rw [← hfeeds]
      exact (List.prefix_append _ _).sublist.count_le _ |>.trans_eq
        (congrArg _ (Text.takeBytes_append_dropBytes _ source))
    rw [placeWithReturns, hfeeds, rawSize_returned hlines]
    omega
  keeps := by
    intro front raw back hraws _
    have hbreaks := hraws ▸ physicalLines_breaks source
    rw [returnedLine]
    split
    next hended =>
      rw [withoutReturn_append_return,
        withoutReturn_of_getLast?_ne (getLast?_ne_return h hbreaks hended)]
    next => rfl
  disabled := nofun

/-- Line endings do not matter. With a carriage return in front of every line feed, where there
was none before, all that is lexed, grouped and read is the same at places behind the carriage
returns in front of it. -/
theorem read_withReturns {source : Text} (h : ¬ ['\r', '\n'] <:+: source)
    (readProse : Text → Prose) (settings : Settings) (fileId : Nat) :
    let f := placeWithReturns source
    let reader := ScriptReader.ofProse readProse settings fileId source
    let reader' := ScriptReader.ofProse readProse settings fileId (withReturns source)
    let unit := tokenize reader.request
    let unit' := tokenize reader'.request
    unit'.lines = unit.lines.map (·.relocate f) ∧
      unit'.diagnostics = unit.diagnostics.map (·.relocate f) ∧
      groupLines unit'.lines = (groupLines unit.lines).map (·.relocate f) ∧
      reader'.read = (reader.read.map (·.relocate f)).mapError (·.relocate f) := by
  intro f reader reader' unit unit'
  have hrecodes := recodes_withReturns h
    (definedSymbols settings.defines settings.compilerOptions)
  have hraws := physicalLines_withReturns source
  have hunit : unit' = unit.recoded (fun _ => none) f := hrecodes.tokenize_eq reader.request hraws
  have hlines : unit'.lines = unit.lines.map (·.relocate f) := congrArg Tokenized.lines hunit
  refine ⟨hlines, congrArg Tokenized.diagnostics hunit, ?_, ?_⟩
  · rw [hlines, groupLines_relocate]
  · have hread := hrecodes.sameResult readProse settings fileId hraws
    generalize hresult : reader.read = result at hread ⊢
    generalize hresult' : reader'.read = result' at hread ⊢
    cases hread with
    | error => rfl
    | ok hdocument => rw [hdocument.eq_relocate]; rfl

/-- A directive without code behind it is reported two bytes further on, behind two returns. -/
theorem read_withReturns_dangling :
    withReturns "(** a\n*)\n(*** hide ***)".toList = "(** a\r\n*)\r\n(*** hide ***)".toList ∧
      ((ScriptReader.ofProse (fun text => ⟨[.html text], .empty⟩) .default 0
        "(** a\r\n*)\r\n(*** hide ***)".toList).read.map fun _ => ()) =
          .error (.danglingDirective "hide".toList ["hide:".toList] ⟨11, 25⟩) := by
  have hreturns : withReturns "(** a\n*)\n(*** hide ***)".toList =
      "(** a\r\n*)\r\n(*** hide ***)".toList := rfl
  have hplain : ((ScriptReader.ofProse (fun text => ⟨[.html text], .empty⟩) .default 0
      "(** a\n*)\n(*** hide ***)".toList).read.map fun _ => ()) =
        .error (.danglingDirective "hide".toList ["hide:".toList] ⟨9, 23⟩) := by decide +kernel
  obtain ⟨-, -, -, hread⟩ := @read_withReturns "(** a\n*)\n(*** hide ***)".toList
    (by decide +kernel) (fun text => ⟨[.html text], .empty⟩) .default 0
  rw [hreturns] at hread
  refine ⟨hreturns, ?_⟩
  rw [hread]
  cases hresult : (ScriptReader.ofProse (fun text => ⟨[.html text], .empty⟩) .default 0
      "(** a\n*)\n(*** hide ***)".toList).read with
  | ok d =>
      rw [hresult] at hplain
      cases hplain
  | error e =>
      rw [hresult] at hplain
      cases hplain
      rfl

end Literate
