import Literate.Proofs.Block.CodeBehind
import Literate.Proofs.Block.DirectiveGrammar
import Literate.Proofs.Document.Directives
import Literate.Proofs.Except

/-!
# Lines that direct what follows them

Whether a script can be assembled is decided by its lines. A directive line fails when it has an
unknown key, or when it applies to code and the next line that is not blank is no code. Otherwise
it takes the code up to the next directive, opener or the end.
-/

namespace Literate

/-! ## Directives of lines -/

namespace Directive

variable {d : Directive}

/-- A directive that was read has some key. -/
theorem exists_key_of_parse {t : Text} {span : Span} (h : parse t span = some d) :
    ∃ key, d.contains key = true := by
  obtain ⟨pairs, hpairs, rfl⟩ := Option.map_eq_some_iff.mp h
  obtain ⟨body, core, entries, -, -, -, hcut, hdenotes⟩ := denotes_iff.mpr hpairs
  have hne : pairs ≠ [] := by
    rintro rfl
    exact hcut.ne_nil (List.forall₂_nil_right_iff.mp hdenotes)
  obtain ⟨init, last, rfl⟩ := (List.eq_nil_or_concat' _).resolve_left hne
  have hlast : (Dict.ofList (init ++ [last])).get? last.1 = some last.2 :=
    Dict.get?_ofList.mpr (Dict.lastOf_concat.mpr (by rw [if_pos rfl]))
  exact ⟨last.1, contains_of_get? hlast⟩

theorem unrecognized_iff (hkey : ∃ key, d.contains key = true) :
    d.Unrecognized ↔ ∃ key, d.contains key = true ∧ key ∉ knownKeys := by
  constructor
  · rintro (hnone | hunknown)
    · obtain ⟨key, hkey⟩ := hkey
      simp [hnone key] at hkey
    · exact hunknown
  · exact .inr

/-- A recognized directive that includes nothing hides or defines. -/
theorem consumes_iff (hkey : ∃ key, d.contains key = true) (hknown : ¬ d.Unrecognized) :
    d.consumes = true ↔ d.contains includeKey = false := by
  constructor
  · intro h
    rw [consumes, Bool.and_eq_true, Bool.not_eq_true'] at h
    exact h.1
  · intro hinclude
    obtain ⟨key, hkey⟩ := hkey
    have hmem : key ∈ knownKeys := by
      by_contra hnot
      exact hknown (.inr ⟨key, hkey, hnot⟩)
    simp only [knownKeys, List.mem_cons, List.not_mem_nil, or_false] at hmem
    rcases hmem with rfl | rfl | rfl
    · rw [hinclude] at hkey
      contradiction
    · simp [consumes, hinclude, hkey]
    · simp [consumes, hinclude, hkey]

end Directive

theorem Line.exists_key {line : Line} {d : Directive} (h : line.directive? = some d) :
    (∃ key, d.contains key = true) ∧ d.span = line.span := by
  obtain ⟨text, -, hparse⟩ := Option.bind_eq_some_iff.mp h
  refine ⟨Directive.exists_key_of_parse hparse, ?_⟩
  obtain ⟨pairs, -, rfl⟩ := Option.map_eq_some_iff.mp hparse
  rfl

/-! ## Assembly behind a directive -/

namespace Directive

variable {d : Directive}

theorem Means.unique {m other : DirectiveMeaning} (h : d.Means m) (hother : d.Means other) :
    m = other := by
  cases h <;> cases hother <;> simp_all

theorem Means.meaning_eq {m : DirectiveMeaning} (h : d.Means m) : d.meaning = m :=
  d.means_meaning.unique h

/-- What a directive that applies to a snippet leaves of it. -/
def kept (d : Directive) (lines : List Line) : List Paragraph :=
  if d.contains hideKey then [] else [.hiddenCode (d.get? defineKey) lines]

theorem consumes_of_meaning (h : d.meaning = .hide ∨ ∃ name, d.meaning = .define name) :
    d.consumes = true := by
  rcases h with h | ⟨name, h⟩
  · cases h ▸ d.means_meaning with
    | hide _ hinclude hhide => exact consumes_of_hide hinclude hhide
  · cases h ▸ d.means_meaning with
    | define _ hinclude _ hname => exact consumes_of_define hinclude hname

/-- A directive that applies to a snippet hides or defines it. -/
theorem consumes_cases (hknown : ¬ d.Unrecognized) (h : d.consumes = true) :
    (d.Means .hide ∧ d.contains hideKey = true) ∨
      ∃ name, d.Means (.define name) ∧ d.contains hideKey = false ∧
        d.get? defineKey = some name := by
  rw [consumes, Bool.and_eq_true, Bool.not_eq_true', Bool.or_eq_true] at h
  obtain ⟨hinclude, hkey⟩ := h
  have hnone := get?_eq_none_iff.mpr hinclude
  cases hhide : d.contains hideKey with
  | true => exact .inl ⟨.hide hknown hnone hhide, rfl⟩
  | false =>
      have hdefine : d.contains defineKey = true := by simpa [hhide] using hkey
      obtain ⟨name, hname⟩ := Option.isSome_iff_exists.mp hdefine
      exact .inr ⟨name, .define hknown hnone hhide hname, rfl, hname⟩

end Directive

section Assembly

variable {readProse : Text → Prose} {d : Directive} {more : List Block}

theorem assemble_unrecognized (h : d.Unrecognized) :
    assemble readProse (.command d :: more) = .error (.unknownDirective d.pairs d.span) := by
  unfold assemble
  rw [(Directive.Means.unknown h).meaning_eq]

theorem assemble_include (readProse : Text → Prose) (more : List Block)
    (hknown : ¬ d.Unrecognized) (hinclude : d.contains Directive.includeKey = true) :
    ∃ name, assemble readProse (.command d :: more) =
      (assemble readProse more).map (.prepend [.codeReference name]) := by
  obtain ⟨name, hname⟩ := Option.isSome_iff_exists.mp hinclude
  refine ⟨name, ?_⟩
  conv_lhs => unfold assemble
  rw [(Directive.Means.include hknown hname).meaning_eq]

/-- A directive and the snippet that it applies to are assembled together. -/
theorem assemble_consumes (hknown : ¬ d.Unrecognized) (h : d.consumes = true)
    (lines : List Line) :
    assemble readProse (.command d :: .snippet lines :: more) =
      (assemble readProse more).map (.prepend (d.kept lines)) := by
  rw [assemble]
  rcases Directive.consumes_cases hknown h with ⟨hmeans, hhide⟩ | ⟨name, hmeans, hhide, hname⟩
  · rw [hmeans.meaning_eq, Directive.kept, if_pos hhide, map_prepend_nil]
  · rw [hmeans.meaning_eq, Directive.kept, hhide, hname]
    rfl

theorem assemble_dangling (hknown : ¬ d.Unrecognized) (h : d.consumes = true)
    (hmore : ∀ lines rest, more ≠ .snippet lines :: rest) :
    assemble readProse (.command d :: more) = .error (.danglingDirective
      (if d.contains Directive.hideKey then Directive.hideKey else Directive.defineKey)
      d.pairs d.span) := by
  rw [assemble.eq_5 readProse d more hmore]
  rcases Directive.consumes_cases hknown h with ⟨hmeans, hhide⟩ | ⟨name, hmeans, hhide, -⟩
  · rw [hmeans.meaning_eq, if_pos hhide]
  · rw [hmeans.meaning_eq, hhide]
    rfl

/-- The paragraphs and the tables of one part in front of those of another. -/
def Assembled.append (a b : Assembled) : Assembled :=
  ⟨a.paragraphs ++ b.paragraphs, a.tables ++ b.tables⟩

/-- What is put in front of both parts is put in front of the first one. -/
theorem map_bind_append {f : Assembled → Assembled} (hf : ∀ a b, f (a.append b) = (f a).append b)
    (first second : Except ScriptError Assembled) :
    (first.bind fun a => second.map a.append).map f =
      (first.map f).bind fun a => second.map a.append := by
  cases first with
  | error error => rfl
  | ok a =>
      cases second with
      | error error => rfl
      | ok b => exact congrArg Except.ok (hf a b)

theorem Assembled.prepend_append (paragraphs : List Paragraph) (a b : Assembled) :
    (a.append b).prepend paragraphs = (a.prepend paragraphs).append b := by
  simp [prepend, append]

/-- Blocks are assembled part by part, unless the first part ends in a directive that takes the
snippet with which the second one begins. -/
theorem assemble_append {blocks : List Block}
    (hmore : consumesNext blocks.getLast? = true → ∀ lines rest, more ≠ .snippet lines :: rest) :
    assemble readProse (blocks ++ more) =
      (assemble readProse blocks).bind fun a => (assemble readProse more).map a.append := by
  have hnone : ∀ {d : Directive} {rest : List Block}, d.consumes = true →
      (consumesNext (.command d :: rest : List Block).getLast? = true →
        ∀ lines others, more ≠ .snippet lines :: others) →
      (∀ lines others, rest ≠ .snippet lines :: others) →
      ∀ lines others, rest ++ more ≠ .snippet lines :: others := by
    intro d rest hd hmore hrest lines others h
    cases rest with
    | nil => exact hmore hd lines others h
    | cons block rest =>
        obtain ⟨rfl, -⟩ := List.cons.inj h
        exact hrest lines rest rfl
  -- The end of a rest is the end of the whole, and nothing ends in a directive if there is no rest.
  have htail : ∀ {block : Block} {rest : List Block},
      (consumesNext (block :: rest).getLast? = true →
        ∀ lines others, more ≠ .snippet lines :: others) →
      consumesNext rest.getLast? = true → ∀ lines others, more ≠ .snippet lines :: others := by
    intro block rest hmore hrest
    cases rest with
    | nil => cases hrest
    | cons next rest => exact hmore hrest
  fun_induction assemble readProse blocks with
  | case1 =>
      rw [List.nil_append]
      cases assemble readProse more <;> rfl
  | case2 text rest prose ih =>
      rw [List.cons_append, assemble, ih (htail hmore), map_bind_append]
      intro a b
      simp [Assembled.append]
  | case3 lines rest ih =>
      rw [List.cons_append, assemble, ih (htail hmore),
        map_bind_append (Assembled.prepend_append _)]
  | case4 d rest hmeaning =>
      rw [List.cons_append]
      conv_lhs => unfold assemble
      rw [hmeaning]
      rfl
  | case5 d rest name hmeaning ih =>
      rw [List.cons_append]
      conv_lhs => unfold assemble
      simp only [hmeaning]
      rw [ih (htail hmore), map_bind_append (Assembled.prepend_append _)]
  | case6 d hmeaning lines rest ih =>
      rw [List.cons_append, List.cons_append, assemble, hmeaning]
      exact ih (htail (htail hmore))
  | case7 d rest hmeaning hrest =>
      have hd := Directive.consumes_of_meaning (.inl hmeaning)
      rw [List.cons_append, assemble.eq_5 _ _ _ (hnone hd hmore hrest), hmeaning]
      rfl
  | case8 d name hmeaning lines rest ih =>
      rw [List.cons_append, List.cons_append, assemble, hmeaning]
      simp only
      rw [ih (htail (htail hmore)), map_bind_append (Assembled.prepend_append _)]
  | case9 d rest name hmeaning hrest =>
      have hd := Directive.consumes_of_meaning (.inr ⟨name, hmeaning⟩)
      rw [List.cons_append, assemble.eq_5 _ _ _ (hnone hd hmore hrest), hmeaning]
      rfl

/-- What is being collected in front of other blocks is always assembled. -/
theorem assemble_finish_append (readProse : Text → Prose) (current : OpenBlock)
    (blocks : List Block) :
    ∃ f, assemble readProse (current.finish ++ blocks) = (assemble readProse blocks).map f := by
  cases current with
  | comment buffer => exact ⟨_, assemble.eq_2 readProse buffer.content blocks⟩
  | snippet lines =>
      rcases finish_snippet_cases lines with ⟨hfinish, -⟩ | ⟨hfinish, -⟩
      · exact ⟨.prepend [], by rw [hfinish, map_prepend_nil]; rfl⟩
      · rw [hfinish]
        exact ⟨_, assemble.eq_3 readProse (trimBlankLines lines) blocks⟩

end Assembly

/-! ## Faulty lines -/

namespace Line

/-- A directive line that cannot be carried out in front of some lines: it has an unknown key, or
it includes nothing and no code follows. -/
def Misdirects (line : Line) (after : List Line) : Prop :=
  ∃ d, line.directive? = some d ∧
    ((∃ key, d.contains key = true ∧ key ∉ Directive.knownKeys) ∨
      (d.contains Directive.includeKey = false ∧
        ∀ next, after.find? (!·.isBlank) = some next → next.EndsCode))

/-- The error of such a directive line. An unknown key is reported, whatever follows. -/
inductive Faulty (line : Line) (after : List Line) : ScriptError → Prop where
  | unknown {d : Directive} {key : Text} {pairs : List Text} (hline : line.directive? = some d)
      (hkey : d.contains key = true) (hunknown : key ∉ Directive.knownKeys)
      (hpairs : d.Shows pairs) : Faulty line after (.unknownDirective pairs line.span)
  | dangling {d : Directive} {pairs : List Text} (hline : line.directive? = some d)
      (hknown : ∀ key, d.contains key = true → key ∈ Directive.knownKeys)
      (hinclude : d.contains Directive.includeKey = false)
      (hafter : ∀ next, after.find? (!·.isBlank) = some next → next.EndsCode)
      (hpairs : d.Shows pairs) :
      Faulty line after (.danglingDirective
        (if d.contains Directive.hideKey then Directive.hideKey else Directive.defineKey)
        pairs line.span)

end Line

/-- The error of the first line that cannot be carried out. -/
inductive FirstFaultyLine : List Line → ScriptError → Prop where
  | here {line : Line} {after : List Line} {error : ScriptError} (h : line.Faulty after error) :
      FirstFaultyLine (line :: after) error
  | later {line : Line} {after : List Line} {error : ScriptError} (hline : ¬ line.Misdirects after)
      (h : FirstFaultyLine after error) : FirstFaultyLine (line :: after) error

namespace Line

variable {line : Line} {after : List Line}

theorem Faulty.misdirects {error : ScriptError} (h : line.Faulty after error) :
    line.Misdirects after := by
  cases h with
  | unknown hline hkey hunknown => exact ⟨_, hline, .inl ⟨_, hkey, hunknown⟩⟩
  | dangling hline _ hinclude hafter => exact ⟨_, hline, .inr ⟨hinclude, hafter⟩⟩

theorem Misdirects.exists_faulty (h : line.Misdirects after) :
    ∃ error, line.Faulty after error := by
  obtain ⟨d, hline, hfault⟩ := h
  have hshows := d.shows_pairs
  by_cases hunknown : ∃ key, d.contains key = true ∧ key ∉ Directive.knownKeys
  · obtain ⟨key, hkey, hnot⟩ := hunknown
    exact ⟨_, .unknown hline hkey hnot hshows⟩
  · obtain ⟨hinclude, hafter⟩ := hfault.resolve_left hunknown
    refine ⟨_, .dangling hline ?_ hinclude hafter hshows⟩
    intro key hkey
    by_contra hnot
    exact hunknown ⟨key, hkey, hnot⟩

theorem Faulty.unique {error other : ScriptError} (h : line.Faulty after error)
    (hother : line.Faulty after other) : error = other := by
  cases h with
  | unknown hline hkey hunknown hpairs =>
      cases hother with
      | unknown hline' _ _ hpairs' =>
          obtain rfl := Option.some.inj (hline.symm.trans hline')
          rw [hpairs.unique hpairs']
      | dangling hline' hknown =>
          obtain rfl := Option.some.inj (hline.symm.trans hline')
          exact absurd (hknown _ hkey) hunknown
  | dangling hline hknown _ _ hpairs =>
      cases hother with
      | unknown hline' hkey hunknown =>
          obtain rfl := Option.some.inj (hline.symm.trans hline')
          exact absurd (hknown _ hkey) hunknown
      | dangling hline' _ _ _ hpairs' =>
          obtain rfl := Option.some.inj (hline.symm.trans hline')
          rw [hpairs.unique hpairs']

end Line

namespace FirstFaultyLine

theorem cons_iff_of_not {line : Line} {after : List Line} {error : ScriptError}
    (h : ¬ line.Misdirects after) :
    FirstFaultyLine (line :: after) error ↔ FirstFaultyLine after error := by
  constructor
  · rintro (hfaulty | ⟨-, hafter⟩)
    · exact absurd hfaulty.misdirects h
    · exact hafter
  · exact .later h

theorem cons_iff_of_faulty {line : Line} {after : List Line} {error other : ScriptError}
    (h : line.Faulty after error) : FirstFaultyLine (line :: after) other ↔ error = other := by
  constructor
  · rintro (hfaulty | ⟨hnot, -⟩)
    · exact h.unique hfaulty
    · exact absurd h.misdirects hnot
  · rintro rfl
    exact .here h

/-- The first faulty line stands behind lines that are not. -/
theorem iff_split {lines : List Line} {error : ScriptError} :
    FirstFaultyLine lines error ↔ ∃ front line after, lines = front ++ line :: after ∧
      line.Faulty after error ∧ ∀ before earlier between, front = before ++ earlier :: between →
        ¬ earlier.Misdirects (between ++ line :: after) := by
  constructor
  · intro h
    induction h with
    | @here line after error h => exact ⟨[], line, after, rfl, h, by simp⟩
    | @later first after error hfirst h ih =>
        obtain ⟨front, line, after, rfl, hline, hfront⟩ := ih
        refine ⟨first :: front, line, after, rfl, hline, ?_⟩
        intro before earlier between hsplit
        cases before with
        | nil =>
            obtain ⟨rfl, rfl⟩ := List.cons.inj hsplit
            exact hfirst
        | cons next before =>
            obtain ⟨rfl, rfl⟩ := List.cons.inj hsplit
            exact hfront before earlier between rfl
  · rintro ⟨front, line, after, rfl, hline, hfront⟩
    induction front with
    | nil => exact .here hline
    | cons first front ih =>
        refine .later (hfront [] first front rfl) (ih ?_)
        rintro before earlier between rfl
        exact hfront (first :: before) earlier between rfl

theorem exists_iff {lines : List Line} : (∃ error, FirstFaultyLine lines error) ↔
    ∃ front line after, lines = front ++ line :: after ∧ line.Misdirects after := by
  constructor
  · rintro ⟨error, h⟩
    obtain ⟨front, line, after, hlines, hline, -⟩ := iff_split.mp h
    exact ⟨front, line, after, hlines, hline.misdirects⟩
  · rintro ⟨front, line, after, rfl, hline⟩
    induction front with
    | nil =>
        obtain ⟨error, hfaulty⟩ := hline.exists_faulty
        exact ⟨error, .here hfaulty⟩
    | cons first front ih =>
        by_cases hfirst : first.Misdirects (front ++ line :: after)
        · obtain ⟨error, hfaulty⟩ := hfirst.exists_faulty
          exact ⟨error, .here hfaulty⟩
        · obtain ⟨error, h⟩ := ih
          exact ⟨error, .later hfirst h⟩

end FirstFaultyLine

/-! ## Scripts -/

/-- A directive line fails, or it changes nothing about what fails behind it. -/
theorem assemble_directive_line (readProse : Text → Prose) {line : Line} {d : Directive}
    {after : List Line} (hline : line.directive? = some d) (hspaced : AllSpaced after) :
    (∃ error, line.Faulty after error ∧
      assemble readProse (.command d :: groupLines after) = .error error) ∨
    (¬ line.Misdirects after ∧ ∀ error,
      assemble readProse (.command d :: groupLines after) = .error error ↔
        assemble readProse (groupLines after) = .error error) := by
  obtain ⟨hkey, hspan⟩ := line.exists_key hline
  have hshows := d.shows_pairs
  by_cases hunknown : d.Unrecognized
  · obtain ⟨key, hcontains, hnot⟩ := (Directive.unrecognized_iff hkey).mp hunknown
    refine .inl ⟨_, .unknown hline hcontains hnot hshows, ?_⟩
    rw [assemble_unrecognized hunknown, hspan]
  have hknown : ∀ key, d.contains key = true → key ∈ Directive.knownKeys := by
    intro key hcontains
    by_contra hnot
    exact hunknown (.inr ⟨key, hcontains, hnot⟩)
  have hsound : (d.contains Directive.includeKey = false →
      ∃ next, after.find? (!·.isBlank) = some next ∧ ¬ next.EndsCode) →
      ¬ line.Misdirects after := by
    rintro hnext ⟨d', hline', hfault⟩
    obtain rfl := Option.some.inj (hline.symm.trans hline')
    obtain ⟨key, hcontains, hnot⟩ | ⟨hinclude, hends⟩ := hfault
    · exact hnot (hknown key hcontains)
    · obtain ⟨next, hfound, hcode⟩ := hnext hinclude
      exact hcode (hends next hfound)
  cases hinclude : d.contains Directive.includeKey with
  | true =>
      obtain ⟨name, hassemble⟩ := assemble_include readProse (groupLines after) hunknown
        hinclude
      refine .inr ⟨hsound (by simp [hinclude]), fun error => ?_⟩
      rw [hassemble, map_eq_error_iff]
  | false =>
      have hconsumes := (Directive.consumes_iff hkey hunknown).mpr hinclude
      obtain ⟨hnext, gap, body, tail, rest, -, -, hgroup⟩ | ⟨hends, hnone⟩ :=
        groupLines_after hspaced
      · refine .inr ⟨hsound fun _ => hnext, fun error => ?_⟩
        rw [hgroup, assemble_consumes hunknown hconsumes, map_eq_error_iff, assemble,
          map_eq_error_iff]
      · refine .inl ⟨_, .dangling hline hknown hinclude hends hshows, ?_⟩
        rw [assemble_dangling hunknown hconsumes hnone, hspan]

/-- Any other line completes no more than what is being collected. -/
theorem step_completes {line : Line} (h : line.directive? = none) (current : OpenBlock) :
    (current.step line).1 = [] ∨ (current.step line).1 = current.finish := by
  unfold OpenBlock.step
  split
  next d hrole =>
    rw [Line.role_eq_directive_iff, h] at hrole
    contradiction
  next => exact .inr rfl
  next =>
    split
    · split
      · exact .inr rfl
      · exact .inl rfl
    · exact .inl rfl
  next =>
    split
    · exact .inr rfl
    · exact .inl rfl

/-- Assembly fails with the error of the first faulty line, whatever is being collected. -/
theorem assemble_groupFrom_eq_error_iff (readProse : Text → Prose) {lines : List Line}
    (hspaced : AllSpaced lines) (current : OpenBlock) (error : ScriptError) :
    assemble readProse (groupFrom current lines) = .error error ↔
      FirstFaultyLine lines error := by
  induction lines generalizing current with
  | nil =>
      obtain ⟨f, hassemble⟩ := assemble_finish_append readProse current []
      rw [List.append_nil] at hassemble
      rw [groupFrom, hassemble, map_eq_error_iff]
      constructor
      · intro h
        cases h
      · intro h
        cases h
  | cons line lines ih =>
      have hlines : AllSpaced lines :=
        fun next hnext => hspaced next (List.mem_cons_of_mem line hnext)
      cases hline : line.directive? with
      | some d =>
          obtain ⟨f, hassemble⟩ := assemble_finish_append readProse current
            (.command d :: groupLines lines)
          have hgroup := groupFrom_directive current [] hline lines
          rw [List.nil_append, groupFrom.eq_1] at hgroup
          rw [hgroup, hassemble, map_eq_error_iff]
          obtain ⟨reported, hfaulty, herror⟩ | ⟨hsound, hiff⟩ :=
            assemble_directive_line readProse hline hlines
          · rw [herror, FirstFaultyLine.cons_iff_of_faulty hfaulty, Except.error.injEq]
          · rw [hiff, FirstFaultyLine.cons_iff_of_not hsound]
            exact ih hlines .none
      | none =>
          have hsound : ¬ line.Misdirects lines := by
            rintro ⟨d, hd, -⟩
            rw [hline] at hd
            contradiction
          rw [FirstFaultyLine.cons_iff_of_not hsound, ← ih hlines (current.step line).2, groupFrom]
          rcases step_completes hline current with hstep | hstep
          · simp only [hstep, List.nil_append]
          · obtain ⟨f, hassemble⟩ := assemble_finish_append readProse current
              (groupFrom (current.step line).2 lines)
            simp only [hstep, hassemble, map_eq_error_iff]

/-- What a directive line takes of the lines behind it, when nothing fails: exactly the code up to
the next line that ends it. The lines in front of the directive and those behind the code make
the rest of the document, each on their own. -/
def TakesCode (readProse : Text → Prose) (policy : MergePolicy) (front : List Line)
    (line : Line) (d : Directive) (after : List Line) : Prop :=
  ∃ gap body tail rest, CodeUpTo after gap body tail rest ∧ body ≠ [] ∧
    groupLines (front ++ line :: after) =
      groupLines front ++ .command d :: .snippet body :: groupLines rest ∧
    ∃ a b, assemble readProse (groupLines front) = .ok a ∧
      assemble readProse (groupLines rest) = .ok b ∧
      transformBlocks readProse policy (groupLines (front ++ line :: after)) =
        .ok (a.paragraphs ++ (d.kept body ++ b.paragraphs),
          LinkTable.merge policy (a.tables ++ b.tables))

theorem takesCode {readProse : Text → Prose} {policy : MergePolicy} {front after : List Line}
    {line : Line} {d : Directive} (hline : line.directive? = some d) (hconsumes : d.consumes = true)
    (hspaced : AllSpaced after) (hsound : ¬ line.Misdirects after) {assembled : Assembled}
    (hassembled : assemble readProse (groupLines (front ++ line :: after)) = .ok assembled) :
    TakesCode readProse policy front line d after := by
  obtain ⟨hkey, -⟩ := line.exists_key hline
  have hknown : ¬ d.Unrecognized := fun hunknown =>
    hsound ⟨d, hline, .inl ((Directive.unrecognized_iff hkey).mp hunknown)⟩
  have hinclude := (Directive.consumes_iff hkey hknown).mp hconsumes
  obtain ⟨-, gap, body, tail, rest, hcode, hbody, hgroup⟩ | ⟨hends, -⟩ := groupLines_after hspaced
  · have hblocks : groupLines (front ++ line :: after) =
        groupLines front ++ .command d :: .snippet body :: groupLines rest := by
      rw [← hgroup]
      exact groupFrom_directive .none front hline after
    have hparts := hassembled
    rw [hblocks, assemble_append (by simp), assemble_consumes hknown hconsumes] at hparts
    refine ⟨gap, body, tail, rest, hcode, hbody, hblocks, ?_⟩
    cases hfront : assemble readProse (groupLines front) with
    | error error =>
        rw [hfront] at hparts
        cases hparts
    | ok a =>
        cases hrest : assemble readProse (groupLines rest) with
        | error error =>
            rw [hfront, hrest] at hparts
            cases hparts
        | ok b =>
            rw [hfront, hrest] at hparts
            refine ⟨a, b, rfl, rfl, ?_⟩
            rw [transformBlocks, hassembled, ← Except.ok.inj hparts]
            rfl
  · exact absurd ⟨d, hline, .inr ⟨hinclude, hends⟩⟩ hsound

theorem transformBlocks_eq_error_iff (readProse : Text → Prose) (policy : MergePolicy)
    {blocks : List Block} {error : ScriptError} :
    transformBlocks readProse policy blocks = .error error ↔
      assemble readProse blocks = .error error := by
  rw [transformBlocks]
  cases assemble readProse blocks <;> simp [Except.map]

/-- A script fails exactly when one of its lines is a directive that cannot be carried out, with
the error of the first one. Otherwise each directive that hides or defines takes the code behind
it, up to the next directive, opener or the end. This holds of all lines whose white space is
blank, as that of lexed lines is. -/
theorem transformBlocks_groupLines (readProse : Text → Prose) (policy : MergePolicy) :
    (∀ defined source, AllSpaced (lexSource defined source).1) ∧
    ∀ lines, AllSpaced lines →
      ((∃ error, transformBlocks readProse policy (groupLines lines) = .error error) ↔
        ∃ front line after, lines = front ++ line :: after ∧ line.Misdirects after) ∧
      (∀ error, transformBlocks readProse policy (groupLines lines) = .error error ↔
        ∃ front line after, lines = front ++ line :: after ∧ line.Faulty after error ∧
          ∀ before earlier between, front = before ++ earlier :: between →
            ¬ earlier.Misdirects (between ++ line :: after)) ∧
      ((∀ front line after, lines = front ++ line :: after → ¬ line.Misdirects after) →
        ∀ front line after d, lines = front ++ line :: after → line.directive? = some d →
          d.consumes = true → TakesCode readProse policy front line d after) := by
  refine ⟨lexSource_spaced, ?_⟩
  intro lines hspaced
  have hfirst : ∀ error, transformBlocks readProse policy (groupLines lines) = .error error ↔
      FirstFaultyLine lines error := by
    intro error
    rw [transformBlocks_eq_error_iff]
    exact assemble_groupFrom_eq_error_iff readProse hspaced .none error
  have hfails : (∃ error, transformBlocks readProse policy (groupLines lines) = .error error) ↔
      ∃ front line after, lines = front ++ line :: after ∧ line.Misdirects after := by
    rw [← FirstFaultyLine.exists_iff]
    exact exists_congr hfirst
  refine ⟨hfails, fun error => (hfirst error).trans FirstFaultyLine.iff_split, ?_⟩
  rintro hsound front line after d rfl hline hconsumes
  have hafter : AllSpaced after := fun next hnext => hspaced next (by simp [hnext])
  cases hassembled : assemble readProse (groupLines (front ++ line :: after)) with
  | error error =>
      have herror := (transformBlocks_eq_error_iff readProse policy).mpr hassembled
      obtain ⟨front', line', after', hlines, hmisdirects⟩ := hfails.mp ⟨error, herror⟩
      exact absurd hmisdirects (hsound front' line' after' hlines)
  | ok assembled =>
      exact takesCode hline hconsumes hafter (hsound front line after rfl) hassembled

/-- A directive that binds the code behind a blank line to a name, in front of a comment. -/
def Line.directed : List Line := ofPieceLists 1 0 [
  [⟨.comment, "(*** define: b ***)".toList⟩],
  [⟨.whitespace, [' ', '\t']⟩],
  [⟨.identifier, ['a']⟩],
  [],
  [⟨.comment, "(** text *)".toList⟩]]

/-- Those lines with a directive behind them that finds no code. -/
def Line.misdirected : List Line :=
  directed ++ [ofPieces 6 40 [⟨.comment, "(*** hide ***)".toList⟩]]

theorem transformBlocks_groupLines_directed :
    AllSpaced Line.directed ∧ AllSpaced Line.misdirected ∧
    (∀ front line after, Line.directed = front ++ line :: after → ¬ line.Misdirects after) ∧
    (∃ line d after, Line.directed = line :: after ∧ line.directive? = some d ∧
      d.consumes = true ∧
      TakesCode (fun text => ⟨[.html text], .empty⟩) .lastWins [] line d after) ∧
    ∃ front line after, Line.misdirected = front ++ line :: after ∧ line.Faulty after
      (.danglingDirective "hide".toList ["hide:".toList] ⟨40, 54⟩) := by
  have hdirected : AllSpaced Line.directed := by
    unfold AllSpaced Line.Spaced
    decide
  have hmisdirected : AllSpaced Line.misdirected := by
    unfold AllSpaced Line.Spaced
    decide
  obtain ⟨-, hscripts⟩ :=
    transformBlocks_groupLines (fun text => ⟨[.html text], .empty⟩) .lastWins
  obtain ⟨hfails, -, htakes⟩ := hscripts Line.directed hdirected
  obtain ⟨-, herror, -⟩ := hscripts Line.misdirected hmisdirected
  have hsound : ∀ front line after, Line.directed = front ++ line :: after →
      ¬ line.Misdirects after := by
    intro front line after hlines hmisdirects
    obtain ⟨error, hresult⟩ := hfails.mpr ⟨front, line, after, hlines, hmisdirects⟩
    cases hresult
  refine ⟨hdirected, hmisdirected, hsound, ?_, ?_⟩
  · refine ⟨_, _, _, rfl, rfl, rfl, htakes hsound [] _ _ _ rfl rfl rfl⟩
  · obtain ⟨front, line, after, hlines, hfaulty, -⟩ := (herror _).mp rfl
    exact ⟨front, line, after, hlines, hfaulty⟩

end Literate
