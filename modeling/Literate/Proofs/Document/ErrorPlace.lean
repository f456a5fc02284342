import Literate.Proofs.Document.DirectiveLines
import Literate.Proofs.Document.Recoding
import Literate.Proofs.Script.Reported

/-!
# Where errors are reported

A directive that stops the reading of a script is reported at its whole line, which is the same
directive again without the blanks around it. Together with the problems of the lexer, all that is
reported about a script is shown at a text of it on one line.
-/

namespace Literate

/-- A directive on a whole line of a source, which is shown without what ends it. -/
structure Directive.StandsOn (d : Directive) (source t : Text) : Prop where
  line : ∃ front raw back, physicalLines source = front ++ raw :: back ∧ withoutReturn raw = t ∧
    d.span = ⟨rawSize front, rawSize front + Text.byteSize t⟩
  parse_eq : parse (Text.trim t) d.span = some d

/-- What an error of a script is about, and the line that it is shown at. -/
inductive ScriptError.Reports (source : Text) : ScriptError → Text → Prop where
  | unknown {d : Directive} {key t : Text} (hstands : d.StandsOn source t)
      (hkey : d.contains key = true) (hunknown : key ∉ Directive.knownKeys) :
      Reports source (.unknownDirective d.pairs d.span) t
  | dangling {d : Directive} {key t : Text} (hstands : d.StandsOn source t)
      (hkey : d.contains key = true) (hinclude : d.contains Directive.includeKey = false) :
      Reports source (.danglingDirective key d.pairs d.span) t

namespace Directive

/-- Blanks around a directive do not matter. -/
theorem parse_trim (t : Text) (span : Span) : parse (Text.trim t) span = parse t span := by
  have htrim := Text.trim_of_trimmed (Text.trimsTo_trim t).trimmed
  rw [parse, parse, pairs?, pairs?, body?, body?, htrim]

theorem StandsOn.shows {d : Directive} {source t : Text} (h : d.StandsOn source t) :
    d.span.Shows source t := by
  obtain ⟨front, raw, back, hlines, rfl, hspan⟩ := h.line
  have hne : withoutReturn raw ≠ [] := by
    intro hnil
    have hparse := h.parse_eq
    rw [hnil] at hparse
    cases hparse
  have htext : withoutReturn raw = [] ++ (withoutReturn raw ++ []) := by simp
  rw [hspan]
  exact Span.shows_of_line hlines htext hne rfl rfl

end Directive

/-- A directive line of a script is a whole line of the source. -/
theorem Line.standsOn {defined : List Text} {source : Text} {line : Line} {d : Directive}
    (hmem : line ∈ (lexSource defined source).1) (hline : line.directive? = some d) :
    d.StandsOn source line.text := by
  obtain ⟨text, htext, hparse⟩ := Option.bind_eq_some_iff.mp hline
  obtain ⟨-, rfl⟩ : line.isCommentOnly = true ∧ line.text = text := by
    simpa [commentText?] using htext
  have hspan := (exists_key hline).2
  obtain ⟨before, after, hlines⟩ := List.mem_iff_append.mp hmem
  obtain ⟨front, raw, back, hraws, -, rfl⟩ := lexLines_split hlines
  have hcut := (lexLine_cut defined (lexLines defined .initial 1 0 front).after
    (0 + rawSize front) (withoutReturn raw)).textOf_eq
  refine ⟨⟨front, raw, back, hraws, ?_, ?_⟩, ?_⟩
  · rw [text_ofPieces, hcut]
  · rw [hspan, text_ofPieces, hcut, ofPieces, hcut, Nat.zero_add]
  · rw [Directive.parse_trim, hspan]
    exact hparse

/-- The error of a faulty directive line is reported at the line. -/
theorem Line.Faulty.reports {defined : List Text} {source : Text} {line : Line}
    {after : List Line} {error : ScriptError} (h : line.Faulty after error)
    (hmem : line ∈ (lexSource defined source).1) :
    ∃ span, error.span? = some span ∧ error.Reports source line.text ∧
      span.Shows source line.text := by
  cases h with
  | @unknown d key pairs hline hkey hunknown hpairs =>
      have hstands := line.standsOn hmem hline
      obtain ⟨-, hspan⟩ := line.exists_key hline
      -- The texts in the error are the pairs of the directive, for its options determine them.
      obtain rfl := d.shows_pairs.unique hpairs
      rw [← hspan]
      exact ⟨d.span, rfl, .unknown hstands hkey hunknown, hstands.shows⟩
  | @dangling d pairs hline hknown hinclude _ hpairs =>
      have hstands := line.standsOn hmem hline
      obtain ⟨hkey, hspan⟩ := line.exists_key hline
      obtain rfl := d.shows_pairs.unique hpairs
      -- A recognized directive that does not include has the key that the error names.
      have hrecognized : ¬ d.Unrecognized := by
        rw [Directive.unrecognized_iff hkey]
        rintro ⟨key, hcontains, hnot⟩
        exact hnot (hknown key hcontains)
      have hconsumes := (Directive.consumes_iff hkey hrecognized).mpr hinclude
      rw [← hspan]
      refine ⟨d.span, rfl, .dangling hstands ?_ hinclude, hstands.shows⟩
      split
      next hhide => exact hhide
      next hhide => simpa [Directive.consumes, hinclude, hhide] using hconsumes

/-- All that is reported about a script, whatever the settings, is shown at a text of the source
that is not empty and lies on one line: the mark of the comment that is open at the end, the first
character of the string that is, a controlling line without the blanks around it, or the line of
the directive that stops the reading. -/
theorem read_reports (readProse : Text → Prose) (settings : Settings) (fileId : Nat)
    (source : Text) :
    let reader := ScriptReader.ofProse readProse settings fileId source
    let defined := definedSymbols settings.defines settings.compilerOptions
    (∀ diagnostic ∈ (tokenize reader.request).diagnostics, ∃ (problem : LexProblem) (t : Text),
      diagnostic = problem.diagnostic fileId ∧ problem.Reports defined source t ∧
        diagnostic.span.Shows source t) ∧
    ∀ error, reader.read = .error error → ∃ span t, error.span? = some span ∧
      error.Reports source t ∧ span.Shows source t := by
  intro reader defined
  constructor
  · intro diagnostic hdiagnostic
    obtain ⟨problem, hproblem, rfl⟩ := List.mem_map.mp hdiagnostic
    obtain ⟨t, hreports, hshows⟩ := lexSource_reports hproblem
    exact ⟨problem, t, rfl, hreports, hshows⟩
  · intro error hread
    rw [ScriptReader.read_ofProse] at hread
    have hassemble : assemble readProse (groupLines (lexSource defined source).1) = .error error :=
      map_eq_error_iff.mp hread
    have hfirst := (assemble_groupFrom_eq_error_iff readProse (lexSource_spaced defined source)
      .none error).mp hassemble
    obtain ⟨front, line, after, hlines, hfaulty, -⟩ := FirstFaultyLine.iff_split.mp hfirst
    obtain ⟨span, hspan, hreports, hshows⟩ := hfaulty.reports (by rw [hlines]; simp)
    exact ⟨span, line.text, hspan, hreports, hshows⟩

/-- Behind two returns and a letter of two bytes, a directive without code, and a comment that opens
another one and is not closed. -/
def misplaced : Text := "#endif\r\né\r\n(*** hide ***)\r\n(** (* é".toList

theorem read_reports_misplaced :
    let reader := ScriptReader.ofProse (fun text => ⟨[.html text], .empty⟩) .default 0 misplaced
    let error := ScriptError.danglingDirective "hide".toList ["hide:".toList] ⟨12, 26⟩
    (tokenize reader.request).diagnostics = [LexProblem.diagnostic 0 ⟨.closeOutside, ⟨0, 6⟩⟩,
      LexProblem.diagnostic 0 ⟨.openComment, ⟨28, 30⟩⟩] ∧
    (reader.read.map fun _ => ()) = .error error ∧
    (∀ diagnostic ∈ (tokenize reader.request).diagnostics,
      ∃ t, diagnostic.span.Shows misplaced t) ∧
    ∃ t, error.Reports misplaced t ∧ (Span.mk 12 26).Shows misplaced t := by
  intro reader error
  have hdiagnostics : (tokenize reader.request).diagnostics =
      [LexProblem.diagnostic 0 ⟨.closeOutside, ⟨0, 6⟩⟩,
        LexProblem.diagnostic 0 ⟨.openComment, ⟨28, 30⟩⟩] := by decide +kernel
  have hfails : (reader.read.map fun _ => ()) = .error error := by decide +kernel
  obtain ⟨hproblems, herrors⟩ :=
    read_reports (fun text => ⟨[.html text], .empty⟩) .default 0 misplaced
  refine ⟨hdiagnostics, hfails, ?_, ?_⟩
  · intro diagnostic hdiagnostic
    obtain ⟨_, t, -, -, hshows⟩ := hproblems diagnostic hdiagnostic
    exact ⟨t, hshows⟩
  · obtain ⟨span, t, hspan, hreports, hshows⟩ := herrors error (map_eq_error_iff.mp hfails)
    obtain rfl := Option.some.inj hspan
    exact ⟨t, hreports, hshows⟩

end Literate
