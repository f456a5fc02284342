import Literate.Document.Assembly
import Literate.Proofs.Block.Accounting
import Literate.Proofs.Block.DirectiveText
import Literate.Proofs.Dict

/-!
# What directives mean

Assembly walks along the blocks and takes a snippet off together with the directive in front of
it. This file says the same without a walk: what a block becomes depends on the block and its two
neighbours alone, and assembly fails exactly when some directive is faulty, with the error of the
first one.
-/

namespace Literate

namespace Directive

/-- A directive without any key, or with a key that nobody knows. -/
def Unrecognized (d : Directive) : Prop :=
  (∀ key, d.contains key = false) ∨ ∃ key, d.contains key = true ∧ key ∉ knownKeys

/-- Whether a directive applies to the snippet directly behind it. -/
def consumes (d : Directive) : Bool :=
  !d.contains includeKey && (d.contains hideKey || d.contains defineKey)

/-- Texts that show every option once, its key and its value, in the order of the keys. -/
def Shows (d : Directive) (pairs : List Text) : Prop :=
  ∃ options : List (Text × Text), (options.Pairwise fun a b => a.1 < b.1) ∧
    (∀ option, option ∈ options ↔ d.get? option.1 = some option.2) ∧
    pairs = options.map fun option => option.1 ++ ':' :: option.2

/-- What is wrong with a directive in front of a block. A directive that is not recognized is
reported as such, whatever stands behind it. -/
inductive Faulty (d : Directive) (behind : Option Block) : ScriptError → Prop where
  | unknown {pairs : List Text} (hunknown : d.Unrecognized) (hpairs : d.Shows pairs) :
      Faulty d behind (.unknownDirective pairs d.span)
  | dangling {pairs : List Text} (hknown : ¬ d.Unrecognized) (hconsumes : d.consumes = true)
      (hbehind : ∀ lines, behind ≠ some (.snippet lines)) (hpairs : d.Shows pairs) :
      Faulty d behind
        (.danglingDirective (if d.contains hideKey then hideKey else defineKey) pairs d.span)

variable {d : Directive} {behind : Option Block}

theorem shows_pairs (d : Directive) : d.Shows d.pairs :=
  ⟨d.options.entries, d.options.sorted, fun _ => Dict.mem_entries_iff, rfl⟩

theorem Shows.unique {pairs others : List Text} (h : d.Shows pairs) (hothers : d.Shows others) :
    pairs = others := by
  obtain ⟨options, hsorted, hmem, rfl⟩ := h
  obtain ⟨others, hsorted', hmem', rfl⟩ := hothers
  have hoptions := Dict.eq_of_mem_iff hsorted hsorted' fun option =>
    (hmem option).trans (hmem' option).symm
  rw [hoptions]

theorem Faulty.unique {error other : ScriptError} (h : d.Faulty behind error)
    (hother : d.Faulty behind other) : error = other := by
  cases h with
  | unknown hunknown hpairs =>
      cases hother with
      | unknown _ hpairs' => rw [hpairs.unique hpairs']
      | dangling hknown => exact absurd hunknown hknown
  | dangling hknown _ _ hpairs =>
      cases hother with
      | unknown hunknown => exact absurd hunknown hknown
      | dangling _ _ _ hpairs' => rw [hpairs.unique hpairs']

/-- A recognized directive is faulty only if it applies to a snippet that is not there. -/
theorem not_faulty (hknown : ¬ d.Unrecognized)
    (h : d.consumes = false ∨ ∃ lines, behind = some (.snippet lines)) (error : ScriptError) :
    ¬ d.Faulty behind error := by
  intro hfaulty
  cases hfaulty with
  | unknown hunknown => exact hknown hunknown
  | dangling _ hconsumes hbehind =>
      rcases h with h | ⟨lines, rfl⟩
      · simp [h] at hconsumes
      · exact hbehind lines rfl

theorem all_known_iff : d.options.keys.all knownKeys.contains = true ↔
    ∀ key, d.contains key = true → key ∈ knownKeys := by
  simp only [List.all_eq_true, List.contains_iff_mem]
  exact forall_congr' fun key => imp_congr_left Dict.contains_iff_mem_keys.symm

theorem get?_eq_none_iff {key : Text} : d.get? key = none ↔ d.contains key = false := by
  rw [contains, Dict.contains, get?, Option.isSome_eq_false_iff, Option.isNone_iff_eq_none]

theorem contains_of_get? {key value : Text} (h : d.get? key = some value) :
    d.contains key = true := by
  rw [contains, Dict.contains, show d.options.get? key = some value from h]
  rfl

/-- When a directive has a meaning. -/
inductive Means (d : Directive) : DirectiveMeaning → Prop where
  | unknown (hunknown : d.Unrecognized) : Means d .unknown
  | include {name : Text} (hknown : ¬ d.Unrecognized) (hname : d.get? includeKey = some name) :
      Means d (.include name)
  | hide (hknown : ¬ d.Unrecognized) (hinclude : d.get? includeKey = none)
      (hhide : d.contains hideKey = true) : Means d .hide
  | define {name : Text} (hknown : ¬ d.Unrecognized) (hinclude : d.get? includeKey = none)
      (hhide : d.contains hideKey = false) (hname : d.get? defineKey = some name) :
      Means d (.define name)

theorem means_meaning (d : Directive) : d.Means d.meaning := by
  have recognized : ∀ {key}, d.contains key = true →
      (∀ other, d.contains other = true → other ∈ knownKeys) → ¬ d.Unrecognized := by
    rintro key hkey hknown (hnone | ⟨other, hother, hnot⟩)
    · simp [hnone key] at hkey
    · exact hnot (hknown other hother)
  unfold meaning
  split
  next hall =>
    have hknown := all_known_iff.mp hall
    split
    next name hname => exact .include (recognized (contains_of_get? hname) hknown) hname
    next hinclude =>
      split
      next hhide => exact .hide (recognized hhide hknown) hinclude hhide
      next hhide =>
        have hhide := eq_false_of_ne_true hhide
        split
        next name hname =>
          exact .define (recognized (contains_of_get? hname) hknown) hinclude hhide hname
        next hdefine =>
          -- Every key that the directive has would be a known one, and it has none of these.
          refine .unknown (.inl fun key => eq_false_of_ne_true fun hkey => ?_)
          have hmem := hknown key hkey
          simp only [knownKeys, List.mem_cons, List.not_mem_nil, or_false] at hmem
          rcases hmem with rfl | rfl | rfl
          · simp [get?_eq_none_iff.mp hinclude] at hkey
          · simp [hhide] at hkey
          · simp [get?_eq_none_iff.mp hdefine] at hkey
  next hall =>
    refine .unknown (.inr ?_)
    rw [all_known_iff] at hall
    simpa only [Classical.not_forall, exists_prop] using hall

theorem consumes_of_include {name : Text} (h : d.get? includeKey = some name) :
    d.consumes = false := by
  simp [consumes, contains_of_get? h]

theorem consumes_of_hide (hinclude : d.get? includeKey = none) (h : d.contains hideKey = true) :
    d.consumes = true := by
  simp [consumes, get?_eq_none_iff.mp hinclude, h]

theorem consumes_of_define {name : Text} (hinclude : d.get? includeKey = none)
    (h : d.get? defineKey = some name) : d.consumes = true := by
  simp [consumes, get?_eq_none_iff.mp hinclude, contains_of_get? h]

end Directive

/-! ## Blocks in their places -/

/-- Whether a block is a directive that applies to the snippet behind it. -/
def consumesNext : Option Block → Bool
  | some (.command d) => d.consumes
  | _ => false

/-- What a block becomes between the blocks directly in front of it and behind it. -/
def Block.paragraphs (readProse : Text → Prose) (front behind : Option Block) :
    Block → List Paragraph
  | .comment text => (readProse text).nodes.map .markdown
  | .snippet lines => if consumesNext front ∨ lines = [] then [] else [.formattedCode lines]
  | .command d =>
      match d.get? Directive.includeKey, d.contains Directive.hideKey,
        d.get? Directive.defineKey, behind with
      | some name, _, _, _ => [.codeReference name]
      | none, false, some name, some (.snippet lines) => [.hiddenCode (some name) lines]
      | none, _, _, _ => []

/-- What blocks become, one after the other, behind a block. -/
def paragraphsBehind (readProse : Text → Prose) : Option Block → List Block → List Paragraph
  | _, [] => []
  | front, block :: more =>
      block.paragraphs readProse front more.head? ++ paragraphsBehind readProse (some block) more

/-- The links that a block defines, if it is a comment. -/
def Block.links? (readProse : Text → Prose) : Block → Option LinkTable
  | .comment text => some (readProse text).links
  | _ => none

/-- Blocks with a faulty directive at an index, and the error that it gives. -/
def FaultAt (blocks : List Block) (index : Nat) (error : ScriptError) : Prop :=
  ∃ d, blocks[index]? = some (.command d) ∧ d.Faulty blocks[index + 1]? error

/-- The error of the first faulty directive of some blocks. -/
def FirstFault (blocks : List Block) (error : ScriptError) : Prop :=
  ∃ index, FaultAt blocks index error ∧
    ∀ earlier < index, ∀ other, ¬ FaultAt blocks earlier other

theorem FaultAt.unique {blocks : List Block} {index : Nat} {error other : ScriptError}
    (h : FaultAt blocks index error) (hother : FaultAt blocks index other) : error = other := by
  obtain ⟨d, hd, hfaulty⟩ := h
  obtain ⟨d', hd', hfaulty'⟩ := hother
  obtain rfl : d = d' := by
    rw [hd] at hd'
    injection hd' with hd'
    injection hd'
  exact hfaulty.unique hfaulty'

theorem FirstFault.unique {blocks : List Block} {error other : ScriptError}
    (h : FirstFault blocks error) (hother : FirstFault blocks other) : error = other := by
  obtain ⟨index, hfault, hfirst⟩ := h
  obtain ⟨index', hfault', hfirst'⟩ := hother
  rcases Nat.lt_trichotomy index index' with hlt | rfl | hlt
  · exact absurd hfault (hfirst' index hlt error)
  · exact hfault.unique hfault'
  · exact absurd hfault' (hfirst index' hlt other)

theorem faultAt_command_iff {d : Directive} {more : List Block} {error : ScriptError} :
    FaultAt (.command d :: more) 0 error ↔ d.Faulty more.head? error := by
  rw [List.head?_eq_getElem?]
  simp [FaultAt]

theorem not_faultAt_comment (text : Text) (more : List Block) (error : ScriptError) :
    ¬ FaultAt (.comment text :: more) 0 error := by
  simp [FaultAt]

theorem not_faultAt_snippet (lines : List Line) (more : List Block) (error : ScriptError) :
    ¬ FaultAt (.snippet lines :: more) 0 error := by
  simp [FaultAt]

theorem FirstFault.of_faulty {d : Directive} {more : List Block} {error : ScriptError}
    (h : d.Faulty more.head? error) : FirstFault (.command d :: more) error :=
  ⟨0, faultAt_command_iff.mpr h, fun earlier hlt => absurd hlt (Nat.not_lt_zero earlier)⟩

/-- In front of the first fault there may be blocks without fault. -/
theorem FirstFault.cons {block : Block} {more : List Block} {error : ScriptError}
    (hsound : ∀ other, ¬ FaultAt (block :: more) 0 other) (h : FirstFault more error) :
    FirstFault (block :: more) error := by
  obtain ⟨index, hfault, hfirst⟩ := h
  refine ⟨index + 1, hfault, ?_⟩
  intro earlier hlt
  cases earlier with
  | zero => exact hsound
  | succ earlier => exact hfirst earlier (Nat.lt_of_succ_lt_succ hlt)

/-! ## Assembly -/

/-- What becomes of blocks behind a block: the error of the first faulty directive, or the
paragraphs of every block in its place and the links of every comment. -/
def AssembledAs (readProse : Text → Prose) (front : Option Block) (blocks : List Block) :
    Except ScriptError Assembled → Prop
  | .error error => FirstFault blocks error
  | .ok a => (∀ index error, ¬ FaultAt blocks index error) ∧
      a.paragraphs = paragraphsBehind readProse front blocks ∧
      a.tables = blocks.filterMap (Block.links? readProse)

theorem map_prepend_nil (result : Except ScriptError Assembled) :
    result.map (.prepend []) = result := by
  cases result <;> rfl

namespace AssembledAs

variable {readProse : Text → Prose} {front : Option Block} {more : List Block}
  {result : Except ScriptError Assembled} {paragraphs : List Paragraph}

/-- A block without fault adds what it becomes in its place. -/
theorem cons {block : Block} {tables : List LinkTable}
    (h : AssembledAs readProse (some block) more result)
    (hsound : ∀ error, ¬ FaultAt (block :: more) 0 error)
    (hparagraphs : block.paragraphs readProse front more.head? = paragraphs)
    (htables : (block.links? readProse).toList = tables) :
    AssembledAs readProse front (block :: more)
      (result.map fun a => ⟨paragraphs ++ a.paragraphs, tables ++ a.tables⟩) := by
  subst hparagraphs htables
  cases result with
  | error error => exact FirstFault.cons hsound h
  | ok a =>
      obtain ⟨hmore, hparagraphs, htables⟩ := h
      refine ⟨?_, congrArg _ hparagraphs, ?_⟩
      · intro index error
        cases index with
        | zero => exact hsound error
        | succ index => exact hmore index error
      · simp only [htables]
        cases block <;> rfl

/-- A directive and the snippet that it applies to become one thing. -/
theorem consumed {d : Directive} {lines : List Line}
    (h : AssembledAs readProse (some (.snippet lines)) more result) (hknown : ¬ d.Unrecognized)
    (hconsumes : d.consumes = true)
    (hparagraphs : (Block.command d).paragraphs readProse front (some (.snippet lines)) =
      paragraphs) :
    AssembledAs readProse front (.command d :: .snippet lines :: more)
      (result.map (.prepend paragraphs)) := by
  have hsnippet :
      (Block.snippet lines).paragraphs readProse (some (.command d)) more.head? = [] := by
    simp [Block.paragraphs, consumesNext, hconsumes]
  have hsound : ∀ error, ¬ FaultAt (.command d :: .snippet lines :: more) 0 error := by
    intro error hfault
    exact Directive.not_faulty hknown (.inr ⟨lines, rfl⟩) error (faultAt_command_iff.mp hfault)
  have hboth := (h.cons (not_faultAt_snippet lines more) hsnippet rfl).cons hsound hparagraphs rfl
  cases result <;> exact hboth

theorem dangling {d : Directive} {key : Text} (hknown : ¬ d.Unrecognized)
    (hconsumes : d.consumes = true) (hmore : ∀ lines rest, more ≠ .snippet lines :: rest)
    (hkey : (if d.contains Directive.hideKey then Directive.hideKey else Directive.defineKey) =
      key) :
    AssembledAs readProse front (.command d :: more)
      (.error (.danglingDirective key d.pairs d.span)) := by
  subst hkey
  apply FirstFault.of_faulty
  refine .dangling hknown hconsumes ?_ d.shows_pairs
  intro lines hhead
  obtain ⟨rest, hrest⟩ := List.head?_eq_some_iff.mp hhead
  exact hmore lines rest hrest

end AssembledAs

/-- Assembly is right behind any block that leaves the first snippet to it. -/
theorem assemble_assembledAs (readProse : Text → Prose) {front : Option Block}
    {blocks : List Block}
    (hfront : ∀ lines more, blocks = .snippet lines :: more → consumesNext front = false) :
    AssembledAs readProse front blocks (assemble readProse blocks) := by
  fun_induction assemble readProse blocks generalizing front with
  | case1 => exact ⟨by simp [FaultAt], rfl, rfl⟩
  | case2 text more prose =>
      rename_i ih
      have hmore : AssembledAs readProse (some (.comment text)) more (assemble readProse more) :=
        ih fun _ _ _ => rfl
      exact hmore.cons (not_faultAt_comment text more) rfl rfl
  | case3 lines more ih =>
      have hmore : AssembledAs readProse (some (.snippet lines)) more (assemble readProse more) :=
        ih fun _ _ _ => rfl
      refine hmore.cons (not_faultAt_snippet lines more) ?_ rfl
      simp [Block.paragraphs, hfront lines more rfl]
  | case4 d more hmeaning =>
      cases hmeaning ▸ d.means_meaning with
      | unknown hunknown =>
          exact FirstFault.of_faulty (.unknown hunknown d.shows_pairs)
  | case5 d more name hmeaning ih =>
      cases hmeaning ▸ d.means_meaning with
      | «include» hknown hname =>
          have hconsumes := Directive.consumes_of_include hname
          have hmore : AssembledAs readProse (some (.command d)) more (assemble readProse more) :=
            ih fun _ _ _ => hconsumes
          refine hmore.cons ?_ (by simp [Block.paragraphs, hname]) rfl
          intro error hfault
          exact Directive.not_faulty hknown (.inl hconsumes) error (faultAt_command_iff.mp hfault)
  | case6 d hmeaning lines more ih =>
      cases hmeaning ▸ d.means_meaning with
      | hide hknown hinclude hhide =>
          have hmore :
              AssembledAs readProse (some (.snippet lines)) more (assemble readProse more) :=
            ih fun _ _ _ => rfl
          have hconsumes := Directive.consumes_of_hide hinclude hhide
          have hnothing :
              (Block.command d).paragraphs readProse front (some (.snippet lines)) = [] := by
            simp [Block.paragraphs, hinclude, hhide]
          have hboth := hmore.consumed hknown hconsumes hnothing
          rwa [map_prepend_nil] at hboth
  | case7 d more hmeaning hmore =>
      cases hmeaning ▸ d.means_meaning with
      | hide hknown hinclude hhide =>
          exact .dangling hknown (Directive.consumes_of_hide hinclude hhide) hmore
            (by simp [hhide])
  | case8 d name hmeaning lines more ih =>
      cases hmeaning ▸ d.means_meaning with
      | define hknown hinclude hhide hname =>
          have hmore :
              AssembledAs readProse (some (.snippet lines)) more (assemble readProse more) :=
            ih fun _ _ _ => rfl
          exact hmore.consumed hknown (Directive.consumes_of_define hinclude hname)
            (by simp [Block.paragraphs, hinclude, hhide, hname])
  | case9 d more name hmeaning hmore =>
      cases hmeaning ▸ d.means_meaning with
      | define hknown hinclude hhide hname =>
          exact .dangling hknown (Directive.consumes_of_define hinclude hname) hmore
            (by simp [hhide])

/-- Blocks are transformed into what every one of them becomes in its place, with the links of the
comments merged, unless some directive is faulty. Then the first faulty one gives the error. -/
theorem transformBlocks_iff (readProse : Text → Prose) (policy : MergePolicy)
    (blocks : List Block) :
    (∀ error, transformBlocks readProse policy blocks = .error error ↔
      FirstFault blocks error) ∧
    ∀ paragraphs links, transformBlocks readProse policy blocks = .ok (paragraphs, links) ↔
      (∀ index error, ¬ FaultAt blocks index error) ∧
      paragraphs = paragraphsBehind readProse none blocks ∧
      links = LinkTable.merge policy (blocks.filterMap (Block.links? readProse)) := by
  have hassembled : AssembledAs readProse none blocks (assemble readProse blocks) :=
    assemble_assembledAs readProse fun _ _ _ => rfl
  unfold transformBlocks
  cases hresult : assemble readProse blocks with
  | error reported =>
      rw [hresult] at hassembled
      have hfirst : FirstFault blocks reported := hassembled
      constructor
      · intro error
        constructor
        · intro h
          cases h
          exact hfirst
        · intro h
          rw [hfirst.unique h]
          rfl
      · intro paragraphs links
        obtain ⟨index, hfault, -⟩ := hfirst
        constructor
        · intro h
          cases h
        · rintro ⟨hsound, -⟩
          exact absurd hfault (hsound index reported)
  | ok a =>
      rw [hresult] at hassembled
      obtain ⟨hsound, hparagraphs, htables⟩ := hassembled
      constructor
      · intro error
        constructor
        · intro h
          cases h
        · rintro ⟨index, hfault, -⟩
          exact absurd hfault (hsound index error)
      · intro paragraphs links
        rw [← hparagraphs, ← htables]
        constructor
        · intro h
          cases h
          exact ⟨hsound, rfl, rfl⟩
        · rintro ⟨-, rfl, rfl⟩
          rfl

/-- Directives of every kind, one of them with two keys, and an empty snippet. -/
def Block.directed : List Block := [
  .snippet [.ofPieces 1 0 [⟨.identifier, "a".toList⟩]],
  .command ⟨Dict.ofList [("define".toList, "b".toList)], ⟨10, 30⟩⟩,
  .snippet [],
  .command ⟨Dict.ofList [("include".toList, "b".toList), ("hide".toList, [])], ⟨31, 60⟩⟩,
  .snippet [],
  .comment "text".toList]

/-- Those blocks with a directive behind them that finds nothing to hide, and one without keys. -/
def Block.misdirected : List Block := directed ++ [
  .command ⟨Dict.ofList [("hide".toList, []), ("define".toList, "c".toList)], ⟨70, 90⟩⟩,
  .command ⟨.empty, ⟨91, 95⟩⟩]

theorem transformBlocks_iff_misdirected :
    (∀ index error, ¬ FaultAt Block.directed index error) ∧
    FirstFault Block.misdirected
      (.danglingDirective "hide".toList ["define:c".toList, "hide:".toList] ⟨70, 90⟩) := by
  have readProse : Text → Prose := fun text => ⟨[.html text], .empty⟩
  have hsound := (transformBlocks_iff readProse .lastWins Block.directed).2
  have hfault := (transformBlocks_iff readProse .lastWins Block.misdirected).1
  exact ⟨((hsound _ _).mp rfl).1, (hfault _).mp rfl⟩

end Literate
