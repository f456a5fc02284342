import Literate.Proofs.Document.DirectiveLines

/-!
# Included names and the names that are bound

Including and binding are matched over the whole of a script: where a directive stands plays no part
in whether the name that it includes is bound, and neither does the order of the two. A directive
binds a name only if it neither includes nor hides.
-/

namespace Literate

namespace Block

/-- The name that a block includes. -/
def includedName? : Block → Option Text
  | .command d => d.get? Directive.includeKey
  | _ => none

/-- The name that a block binds to the snippet behind it. -/
def definedName? : Block → Option Text
  | .command d =>
      if d.contains Directive.includeKey || d.contains Directive.hideKey then none
      else d.get? Directive.defineKey
  | _ => none

end Block

/-- Some block is a directive that binds a name, and neither includes nor hides. -/
def Defines (blocks : List Block) (name : Text) : Prop :=
  ∃ d, .command d ∈ blocks ∧ d.get? Directive.defineKey = some name ∧
    d.contains Directive.includeKey = false ∧ d.contains Directive.hideKey = false

theorem mem_filterMap_definedName? {blocks : List Block} {name : Text} :
    name ∈ blocks.filterMap Block.definedName? ↔ Defines blocks name := by
  rw [List.mem_filterMap]
  constructor
  · rintro ⟨block, hblock, hname⟩
    cases block with
    | command d =>
        rw [Block.definedName?] at hname
        split at hname
        · cases hname
        next hkeys =>
          rw [Bool.or_eq_true, not_or, Bool.not_eq_true, Bool.not_eq_true] at hkeys
          exact ⟨d, hblock, hname, hkeys.1, hkeys.2⟩
    | _ => cases hname
  · rintro ⟨d, hd, hname, hinclude, hhide⟩
    refine ⟨.command d, hd, ?_⟩
    rw [Block.definedName?, hinclude, hhide]
    exact hname

instance (blocks : List Block) (name : Text) : Decidable (Defines blocks name) :=
  decidable_of_iff _ mem_filterMap_definedName?

/-! ## The names among assembled paragraphs -/

/-- Paragraphs bind and include the names that blocks bind and include, in the same order. -/
structure SameNames (paragraphs : List Paragraph) (blocks : List Block) : Prop where
  bound : paragraphs.filterMap (·.boundName?) = blocks.filterMap Block.definedName?
  included : paragraphs.filterMap (·.includedName?) = blocks.filterMap Block.includedName?

namespace SameNames

theorem append {paragraphs others : List Paragraph} {blocks more : List Block}
    (h : SameNames paragraphs blocks) (hmore : SameNames others more) :
    SameNames (paragraphs ++ others) (blocks ++ more) where
  bound := by rw [List.filterMap_append, List.filterMap_append, h.bound, hmore.bound]
  included := by rw [List.filterMap_append, List.filterMap_append, h.included, hmore.included]

theorem comment (nodes : List Node) (text : Text) :
    SameNames (nodes.map .markdown) [.comment text] where
  bound := by
    rw [List.filterMap_map]
    exact List.filterMap_eq_nil_iff.mpr fun _ _ => rfl
  included := by
    rw [List.filterMap_map]
    exact List.filterMap_eq_nil_iff.mpr fun _ _ => rfl

theorem snippet (lines : List Line) :
    SameNames (if lines.isEmpty then [] else [.formattedCode lines]) [.snippet lines] := by
  split <;> exact ⟨rfl, rfl⟩

variable {d : Directive} {name : Text}

theorem «include» (hname : d.get? Directive.includeKey = some name) :
    SameNames [.codeReference name] [.command d] := by
  constructor
  · simp [Block.definedName?, Directive.contains_of_get? hname, Paragraph.boundName?]
  · simp [Block.includedName?, hname, Paragraph.includedName?]

theorem hide (hinclude : d.get? Directive.includeKey = none)
    (hhide : d.contains Directive.hideKey = true) (lines : List Line) :
    SameNames [] [.command d, .snippet lines] := by
  constructor
  · simp [Block.definedName?, hhide]
  · simp [Block.includedName?, hinclude]

theorem define (hinclude : d.get? Directive.includeKey = none)
    (hhide : d.contains Directive.hideKey = false)
    (hname : d.get? Directive.defineKey = some name) (lines : List Line) :
    SameNames [.hiddenCode (some name) lines] [.command d, .snippet lines] := by
  constructor
  · simp [Block.definedName?, Directive.get?_eq_none_iff.mp hinclude, hhide, hname,
      Paragraph.boundName?]
  · simp [Block.includedName?, hinclude, Paragraph.includedName?]

end SameNames

section Assembly

variable {readProse : Text → Prose} {front back blocks : List Block} {d : Directive}
  {a : Assembled}

/-- Assembly keeps the names. -/
theorem sameNames_of_assemble (h : assemble readProse blocks = .ok a) :
    SameNames a.paragraphs blocks := by
  fun_induction assemble readProse blocks generalizing a with
  | case1 =>
      cases h
      exact ⟨rfl, rfl⟩
  | case2 text more prose =>
      rename_i ih
      obtain ⟨b, hb, rfl⟩ := exists_of_map_eq_ok h
      exact (SameNames.comment prose.nodes text).append (ih hb)
  | case3 lines more ih =>
      obtain ⟨b, hb, rfl⟩ := exists_of_map_eq_ok h
      exact (SameNames.snippet lines).append (ih hb)
  | case4 => cases h
  | case5 d more name hmeaning ih =>
      obtain ⟨b, hb, rfl⟩ := exists_of_map_eq_ok h
      cases hmeaning ▸ d.means_meaning with
      | «include» _ hname => exact (SameNames.«include» hname).append (ih hb)
  | case6 d hmeaning lines more ih =>
      cases hmeaning ▸ d.means_meaning with
      | hide _ hinclude hhide => exact (SameNames.hide hinclude hhide lines).append (ih h)
  | case7 => cases h
  | case8 d name hmeaning lines more ih =>
      obtain ⟨b, hb, rfl⟩ := exists_of_map_eq_ok h
      cases hmeaning ▸ d.means_meaning with
      | define _ hinclude hhide hname =>
          exact (SameNames.define hinclude hhide hname lines).append (ih hb)
  | case9 => cases h

/-! ## Moving a directive with its snippet -/

/-- Assembled parts were assembled each on its own. -/
theorem exists_of_assemble_append (hback : consumesNext front.getLast? = true →
      ∀ lines rest, back ≠ .snippet lines :: rest)
    (h : assemble readProse (front ++ back) = .ok a) :
    ∃ b c, assemble readProse front = .ok b ∧ assemble readProse back = .ok c := by
  rw [assemble_append hback] at h
  cases hfront : assemble readProse front with
  | error error => rw [hfront] at h; cases h
  | ok b =>
      rw [hfront] at h
      obtain ⟨c, hc, -⟩ := exists_of_map_eq_ok h
      exact ⟨b, c, rfl, hc⟩

/-- Blocks that can be assembled do not end in a directive that finds no snippet. -/
theorem not_consumesNext_of_assemble (h : assemble readProse blocks = .ok a) :
    consumesNext blocks.getLast? = false := by
  rw [← Bool.not_eq_true]
  intro hlast
  cases hblock : blocks.getLast? with
  | none => rw [hblock] at hlast; cases hlast
  | some block =>
      rw [hblock] at hlast
      cases block with
      | command d =>
          obtain ⟨init, rfl⟩ := List.getLast?_eq_some_iff.mp hblock
          obtain ⟨-, c, -, hc⟩ := exists_of_assemble_append (by simp) h
          by_cases hknown : d.Unrecognized
          · rw [assemble_unrecognized hknown] at hc
            cases hc
          · rw [assemble_dangling hknown hlast (by simp)] at hc
            cases hc
      | comment text => cases hlast
      | snippet lines => cases hlast

/-- A directive and the snippet that it takes can be assembled in front of the same blocks or of
others. -/
theorem exists_assemble_taken {lines : List Line} (hconsumes : d.consumes = true)
    (h : assemble readProse (.command d :: .snippet lines :: back) = .ok a) :
    (∃ b, assemble readProse back = .ok b) ∧ ∀ {more b}, assemble readProse more = .ok b →
      ∃ c, assemble readProse (.command d :: .snippet lines :: more) = .ok c := by
  have hknown : ¬ d.Unrecognized := by
    intro hunknown
    rw [assemble_unrecognized hunknown] at h
    cases h
  rw [assemble_consumes hknown hconsumes] at h
  obtain ⟨b, hb, -⟩ := exists_of_map_eq_ok h
  refine ⟨⟨b, hb⟩, ?_⟩
  intro more c hc
  rw [assemble_consumes hknown hconsumes, hc]
  exact ⟨_, rfl⟩

/-- A directive can be moved together with the snippet that it takes, to any place at which no other
directive takes the next snippet. -/
theorem exists_assemble_moved {lines : List Line} {front' back' : List Block}
    (h : assemble readProse (front ++ .command d :: .snippet lines :: back) = .ok a)
    (hconsumes : d.consumes = true) (hblocks : front' ++ back' = front ++ back)
    (hplace : consumesNext front'.getLast? = true →
      ∀ lines rest, back' ≠ .snippet lines :: rest) :
    ∃ b, assemble readProse (front' ++ .command d :: .snippet lines :: back') = .ok b := by
  -- Without the two the other blocks are still assembled: nothing in front took the snippet.
  obtain ⟨first, taken, hfirst, htaken⟩ := exists_of_assemble_append (by simp) h
  obtain ⟨⟨rest, hrest⟩, hmove⟩ := exists_assemble_taken hconsumes htaken
  have hothers : assemble readProse (front' ++ back') = .ok (first.append rest) := by
    rw [hblocks, assemble_append (by simp [not_consumesNext_of_assemble hfirst]), hfirst, hrest]
    rfl
  obtain ⟨first', rest', hfirst', hrest'⟩ := exists_of_assemble_append hplace hothers
  obtain ⟨moved, hmoved⟩ := hmove hrest'
  rw [assemble_append (by simp), hfirst', hmoved]
  exact ⟨_, rfl⟩

end Assembly

/-! ## Included names that nothing binds -/

theorem Document.mem_definedNames {doc : Document} {blocks : List Block}
    (h : SameNames doc.paragraphs blocks) {name : Text} :
    name ∈ doc.definedNames ↔ Defines blocks name := by
  rw [definedNames, mem_sortedTexts, h.bound, mem_filterMap_definedName?]

/-- The included names that no block binds. -/
def unboundNames (blocks : List Block) : List Text :=
  (blocks.filterMap Block.includedName?).filter fun name => ¬ Defines blocks name

theorem Document.unresolvedReferences_eq {doc : Document} {blocks : List Block}
    (h : SameNames doc.paragraphs blocks) : doc.unresolvedReferences = unboundNames blocks := by
  unfold unresolvedReferences unboundNames
  rw [h.included]
  refine List.filter_congr fun name _ => ?_
  rw [Bool.eq_iff_iff, decide_eq_true_iff, ← mem_definedNames h]
  simp

theorem unboundNames_eq_nil_iff {blocks : List Block} : unboundNames blocks = [] ↔
    ∀ d name, .command d ∈ blocks → d.get? Directive.includeKey = some name →
      Defines blocks name := by
  simp only [unboundNames, List.filter_eq_nil_iff, decide_eq_true_eq, Classical.not_not,
    List.mem_filterMap, forall_exists_index, and_imp]
  constructor
  · exact fun h d name hd hname => h name (.command d) hd hname
  · intro h name block hblock hname
    cases block with
    | command d => exact h d name hblock hname
    | _ => cases hname

/-- A directive that includes nothing can be moved without leaving another name unbound. -/
theorem unboundNames_moved {front back front' back' : List Block} {d : Directive}
    {lines : List Line} (hinclude : d.get? Directive.includeKey = none)
    (hblocks : front' ++ back' = front ++ back) :
    unboundNames (front' ++ .command d :: .snippet lines :: back') =
      unboundNames (front ++ .command d :: .snippet lines :: back) := by
  have hincluded : ∀ front back : List Block,
      (front ++ .command d :: .snippet lines :: back).filterMap Block.includedName? =
        (front ++ back).filterMap Block.includedName? := by
    intro front back
    rw [List.filterMap_append, List.filterMap_append,
      List.filterMap_cons_none (show (Block.command d).includedName? = none from hinclude),
      List.filterMap_cons_none rfl]
  have hmem : ∀ block, block ∈ front' ++ .command d :: .snippet lines :: back' ↔
      block ∈ front ++ .command d :: .snippet lines :: back := by
    have hothers : ∀ block, block ∈ front' ∨ block ∈ back' ↔ block ∈ front ∨ block ∈ back := by
      intro block
      rw [← List.mem_append, ← List.mem_append, hblocks]
    intro block
    simp only [List.mem_append, List.mem_cons]
    grind
  have hdefines : ∀ name, Defines (front' ++ .command d :: .snippet lines :: back') name ↔
      Defines (front ++ .command d :: .snippet lines :: back) name := by
    intro name
    simp only [Defines, hmem]
  unfold unboundNames
  rw [hincluded, hincluded, hblocks]
  exact List.filter_congr fun name _ => decide_eq_decide.mpr (not_congr (hdefines name))

/-- The names that a script binds are those of its directives that define and neither include nor
hide. Its unresolved references are the included names without such a directive anywhere, in the
order of the blocks, so that none is left if every included name is bound, and moving a directive
together with the snippet that it takes changes nothing. -/
theorem transformBlocks_references {readProse : Text → Prose} {policy : MergePolicy}
    {blocks : List Block} {paragraphs : List Paragraph} {links : LinkTable}
    (h : transformBlocks readProse policy blocks = .ok (paragraphs, links)) {doc : Document}
    (hdoc : doc.paragraphs = paragraphs) :
    doc.definedNames.Pairwise (· < ·) ∧
    (∀ name, name ∈ doc.definedNames ↔ Defines blocks name) ∧
    doc.unresolvedReferences =
      (blocks.filterMap Block.includedName?).filter (fun name => ¬ Defines blocks name) ∧
    (doc.unresolvedReferences = [] ↔ ∀ d name, .command d ∈ blocks →
      d.get? Directive.includeKey = some name → Defines blocks name) ∧
    ∀ front d lines back front' back',
      blocks = front ++ .command d :: .snippet lines :: back → d.consumes = true →
      front' ++ back' = front ++ back →
      (consumesNext front'.getLast? = true → ∀ lines rest, back' ≠ .snippet lines :: rest) →
      ∃ moved links', transformBlocks readProse policy
          (front' ++ .command d :: .snippet lines :: back') = .ok (moved, links') ∧
        ∀ doc' : Document, doc'.paragraphs = moved →
          doc'.unresolvedReferences = doc.unresolvedReferences := by
  obtain ⟨a, ha, hpair⟩ := exists_of_map_eq_ok h
  cases hpair
  have hnames : SameNames doc.paragraphs blocks := hdoc ▸ sameNames_of_assemble ha
  have hunresolved := Document.unresolvedReferences_eq hnames
  refine ⟨pairwise_sortedTexts _, fun _ => Document.mem_definedNames hnames, hunresolved, ?_, ?_⟩
  · rw [hunresolved]
    exact unboundNames_eq_nil_iff
  · rintro front d lines back front' back' rfl hconsumes hblocks hplace
    obtain ⟨b, hb⟩ := exists_assemble_moved ha hconsumes hblocks hplace
    have hinclude : d.get? Directive.includeKey = none := by
      rw [Directive.consumes, Bool.and_eq_true, Bool.not_eq_true'] at hconsumes
      exact Directive.get?_eq_none_iff.mpr hconsumes.1
    refine ⟨b.paragraphs, LinkTable.merge policy b.tables, ?_, ?_⟩
    · rw [transformBlocks, hb]
      rfl
    · intro doc' hdoc'
      have hmoved : SameNames doc'.paragraphs _ := hdoc' ▸ sameNames_of_assemble hb
      rw [Document.unresolvedReferences_eq hmoved, hunresolved, unboundNames_moved hinclude hblocks]

/-- Inclusions in front of the directive that binds their name, and of a name that is not bound
because the snippet is hidden too. -/
def Block.referring : List Block := [
  .command ⟨Dict.ofList [("include".toList, "b".toList), ("define".toList, "a".toList)], ⟨0, 30⟩⟩,
  .command ⟨Dict.ofList [("include".toList, "a".toList)], ⟨31, 50⟩⟩,
  .command ⟨Dict.ofList [("define".toList, "b".toList)], ⟨51, 70⟩⟩,
  .snippet [.ofPieces 4 71 [⟨.identifier, "x".toList⟩]],
  .command ⟨Dict.ofList [("hide".toList, []), ("define".toList, "a".toList)], ⟨73, 100⟩⟩,
  .snippet []]

/-- The directive that binds a name, moved behind all other blocks. -/
theorem transformBlocks_references_moved :
    let readProse : Text → Prose := fun text => ⟨[.html text], .empty⟩
    ∃ paragraphs links,
      transformBlocks readProse .lastWins Block.referring = .ok (paragraphs, links) ∧
      ∀ doc : Document, doc.paragraphs = paragraphs →
        "b".toList ∈ doc.definedNames ∧ "a".toList ∉ doc.definedNames ∧
        doc.unresolvedReferences = ["a".toList] ∧
        ∃ moved links', transformBlocks readProse .lastWins (Block.referring.take 2 ++
            Block.referring.drop 4 ++ (Block.referring.take 4).drop 2) = .ok (moved, links') ∧
          ∀ doc' : Document, doc'.paragraphs = moved →
            doc'.unresolvedReferences = doc.unresolvedReferences := by
  intro readProse
  have hsuccess : ∃ paragraphs links,
      transformBlocks readProse .lastWins Block.referring = .ok (paragraphs, links) := ⟨_, _, rfl⟩
  obtain ⟨paragraphs, links, htransform⟩ := hsuccess
  refine ⟨paragraphs, links, htransform, ?_⟩
  intro doc hdoc
  obtain ⟨-, hdefined, hunresolved, -, hmove⟩ := transformBlocks_references htransform hdoc
  refine ⟨(hdefined _).mpr (by decide), (hdefined _).not.mpr (by decide), ?_, ?_⟩
  · rw [hunresolved]
    decide
  · exact hmove (Block.referring.take 2) _ _ (Block.referring.drop 4)
      (Block.referring.take 2 ++ Block.referring.drop 4) [] rfl (by decide) (by decide) (by simp)

end Literate
