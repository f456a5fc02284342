import Literate.Document.Reading
import Literate.Proofs.Block.Recoding
import Literate.Proofs.Document.Directives

/-!
# Documents of recoded sources

What is read from a source with recoded lines differs in places and in the recoded lines of code.
Errors are the same, and so are prose, references to code, names and links.
-/

namespace Literate

/-- An error at another place. -/
def ScriptError.relocate (f : Nat → Nat) : ScriptError → ScriptError
  | .unitCount count => .unitCount count
  | .unknownDirective pairs span => .unknownDirective pairs (span.relocate f)
  | .danglingDirective key pairs span => .danglingDirective key pairs (span.relocate f)

/-- Two paragraphs of one kind that differ in lines of code alone. -/
inductive Paragraph.Recoded (texts : Nat → Option Text) (f : Nat → Nat) (source : List Line) :
    Paragraph → Paragraph → Prop where
  | codeReference {name : Text} :
      Recoded texts f source (.codeReference name) (.codeReference name)
  | hiddenCode {name : Option Text} {lines lines' : List Line}
      (h : CodeRecoded texts f source lines lines') :
      Recoded texts f source (.hiddenCode name lines) (.hiddenCode name lines')
  | formattedCode {lines lines' : List Line} (h : CodeRecoded texts f source lines lines') :
      Recoded texts f source (.formattedCode lines) (.formattedCode lines')
  | markdown {node : Node} : Recoded texts f source (.markdown node) (.markdown node)

/-- Paragraphs that differ in lines of code, with the same links. -/
structure Assembled.Recoded (texts : Nat → Option Text) (f : Nat → Nat) (source : List Line)
    (a b : Assembled) : Prop where
  paragraphs : List.Forall₂ (Paragraph.Recoded texts f source) a.paragraphs b.paragraphs
  tables : b.tables = a.tables

/-- Documents that differ in places and in lines of code. -/
structure Document.Recoded (texts : Nat → Option Text) (f : Nat → Nat) (d d' : Document) :
    Prop where
  paragraphs : List.Forall₂ (Paragraph.Recoded texts f d.source) d.paragraphs d'.paragraphs
  links : d'.links = d.links
  diagnostics : d'.diagnostics = d.diagnostics.map (·.relocate f)
  source : d'.source = d.source.map (·.recoded texts f)
  sourceId : d'.sourceId = d.sourceId

/-- Results that are one error at two places, or two outcomes in a relation. -/
inductive SameResult {α : Type} (f : Nat → Nat) (R : α → α → Prop) :
    Except ScriptError α → Except ScriptError α → Prop where
  | error {e : ScriptError} : SameResult f R (.error e) (.error (e.relocate f))
  | ok {a b : α} (h : R a b) : SameResult f R (.ok a) (.ok b)

theorem SameResult.map {α β : Type} {f : Nat → Nat} {R : α → α → Prop} {S : β → β → Prop}
    {g g' : α → β} {x y : Except ScriptError α} (h : SameResult f R x y)
    (hg : ∀ a b, R a b → S (g a) (g' b)) : SameResult f S (x.map g) (y.map g') := by
  cases h with
  | error => exact .error
  | ok h => exact .ok (hg _ _ h)

section Assembly

variable {texts : Nat → Option Text} {f : Nat → Nat} {source : List Line}
  {blocks blocks' : List Block}

theorem Assembled.Recoded.prepend {a b : Assembled} (h : Assembled.Recoded texts f source a b)
    {front front' : List Paragraph}
    (hfront : List.Forall₂ (Paragraph.Recoded texts f source) front front') :
    Assembled.Recoded texts f source (a.prepend front) (b.prepend front') :=
  ⟨List.rel_append hfront h.paragraphs, h.tables⟩

theorem Paragraph.recoded_markdown (nodes : List Node) :
    List.Forall₂ (Paragraph.Recoded texts f source) (nodes.map .markdown)
      (nodes.map .markdown) := by
  induction nodes with
  | nil => exact .nil
  | cons node nodes ih => exact .cons .markdown ih

/-- Recoding turns nothing into a snippet. -/
theorem not_snippet_recoded (h : List.Forall₂ (Block.Recoded texts f source) blocks blocks')
    (hnot : ∀ lines rest, blocks ≠ .snippet lines :: rest) :
    ∀ lines rest, blocks' ≠ .snippet lines :: rest := by
  rintro lines rest rfl
  obtain _ | ⟨hblock, -⟩ := h
  cases hblock with
  | snippet => exact hnot _ _ rfl

/-- Recoded blocks are assembled alike. -/
theorem assemble_recoded (readProse : Text → Prose)
    (h : List.Forall₂ (Block.Recoded texts f source) blocks blocks') :
    SameResult f (Assembled.Recoded texts f source) (assemble readProse blocks)
      (assemble readProse blocks') := by
  fun_induction assemble readProse blocks generalizing blocks' with
  | case1 =>
      cases h
      exact .ok ⟨.nil, rfl⟩
  | case2 text more prose =>
      rename_i ih
      obtain _ | ⟨hblock, hmore⟩ := h
      cases hblock
      rw [assemble]
      exact (ih hmore).map fun a b hab =>
        ⟨List.rel_append (Paragraph.recoded_markdown _) hab.paragraphs, by rw [hab.tables]⟩
  | case3 lines more ih =>
      obtain _ | ⟨hblock, hmore⟩ := h
      cases hblock with
      | snippet hcode =>
          rw [assemble]
          refine (ih hmore).map fun a b hab => hab.prepend ?_
          rw [if_neg (by simpa using hcode.ne_nil), if_neg (by simpa using hcode.recoded_ne_nil)]
          exact .cons (.formattedCode hcode) .nil
  | case4 d more hmeaning =>
      obtain _ | ⟨hblock, hmore⟩ := h
      cases hblock
      have hmeaning' : (d.relocate f).meaning = .unknown := hmeaning
      conv_rhs => unfold assemble
      rw [hmeaning']
      exact .error
  | case5 d more name hmeaning ih =>
      obtain _ | ⟨hblock, hmore⟩ := h
      cases hblock
      have hmeaning' : (d.relocate f).meaning = .include name := hmeaning
      conv_rhs => unfold assemble
      rw [hmeaning']
      exact (ih hmore).map fun a b hab => hab.prepend (.cons .codeReference .nil)
  | case6 d hmeaning lines more ih =>
      obtain _ | ⟨hblock, _ | ⟨hsnippet, hmore⟩⟩ := h
      cases hblock
      cases hsnippet
      have hmeaning' : (d.relocate f).meaning = .hide := hmeaning
      rw [assemble, hmeaning']
      exact ih hmore
  | case7 d more hmeaning hnot =>
      obtain _ | ⟨hblock, hmore⟩ := h
      cases hblock
      have hmeaning' : (d.relocate f).meaning = .hide := hmeaning
      rw [assemble.eq_5 _ _ _ (not_snippet_recoded hmore hnot), hmeaning']
      exact .error
  | case8 d name hmeaning lines more ih =>
      obtain _ | ⟨hblock, _ | ⟨hsnippet, hmore⟩⟩ := h
      cases hblock
      cases hsnippet with
      | snippet hcode =>
          have hmeaning' : (d.relocate f).meaning = .define name := hmeaning
          rw [assemble, hmeaning']
          exact (ih hmore).map fun a b hab => hab.prepend (.cons (.hiddenCode hcode) .nil)
  | case9 d more name hmeaning hnot =>
      obtain _ | ⟨hblock, hmore⟩ := h
      cases hblock
      have hmeaning' : (d.relocate f).meaning = .define name := hmeaning
      rw [assemble.eq_5 _ _ _ (not_snippet_recoded hmore hnot), hmeaning']
      exact .error

end Assembly

/-! ## Reading -/

/-- The reader of a script with the tokenizer of scripts and any reader of prose. -/
def ScriptReader.ofProse (readProse : Text → Prose) (settings : Settings) (fileId : Nat)
    (source : Text) : ScriptReader :=
  ⟨source, fileId, settings, fun request => [tokenize request], readProse⟩

section Reading

variable (readProse : Text → Prose) (settings : Settings) (fileId : Nat)

theorem ScriptReader.read_ofProse (source : Text) :
    (ofProse readProse settings fileId source).read =
      let unit := tokenize (ofProse readProse settings fileId source).request
      (assemble readProse (groupLines unit.lines)).map fun a =>
        ⟨a.paragraphs, LinkTable.merge settings.linkMerge a.tables, unit.diagnostics, unit.lines,
          fileId⟩ := by
  change Except.bind (Except.map _ (assemble readProse
    (groupLines (tokenize (ofProse readProse settings fileId source).request).lines))) _ = _
  dsimp only
  cases assemble readProse
    (groupLines (tokenize (ofProse readProse settings fileId source).request).lines) <;> rfl

/-- A source with rewritten lines is read alike. -/
theorem Recodes.sameResult {texts : Nat → Option Text} {f : Nat → Nat}
    {rewrite : Nat → Text → Text} {source source' : Text}
    (h : Recodes (definedSymbols settings.defines settings.compilerOptions) texts f rewrite
      (physicalLines source))
    (hraws : physicalLines source' = (physicalLines source).mapIdx rewrite) :
    SameResult f (Document.Recoded texts f)
      (ScriptReader.ofProse readProse settings fileId source).read
      (ScriptReader.ofProse readProse settings fileId source').read := by
  have htokenize : tokenize (ScriptReader.ofProse readProse settings fileId source').request =
      (tokenize (ScriptReader.ofProse readProse settings fileId source).request).recoded texts f :=
    h.tokenize_eq (ScriptReader.ofProse readProse settings fileId source).request hraws
  rw [ScriptReader.read_ofProse, ScriptReader.read_ofProse, htokenize]
  have hblocks := h.guarded.groupLines_recoded (f := f)
  refine (assemble_recoded readProse hblocks).map fun a b hab => ?_
  exact ⟨hab.paragraphs, by rw [hab.tables], rfl, rfl, rfl⟩

end Reading

/-! ## Documents at other places -/

/-- A paragraph at another place. -/
def Paragraph.relocate (f : Nat → Nat) : Paragraph → Paragraph
  | .codeReference name => .codeReference name
  | .hiddenCode name lines => .hiddenCode name (lines.map (·.relocate f))
  | .formattedCode lines => .formattedCode (lines.map (·.relocate f))
  | .markdown node => .markdown node

/-- A document with all its places moved. -/
def Document.relocate (f : Nat → Nat) (d : Document) : Document where
  paragraphs := d.paragraphs.map (·.relocate f)
  links := d.links
  diagnostics := d.diagnostics.map (·.relocate f)
  source := d.source.map (·.relocate f)
  sourceId := d.sourceId

section Relocated

variable {f : Nat → Nat}

theorem Paragraph.Recoded.eq_relocate {source : List Line} {paragraph paragraph' : Paragraph}
    (h : Paragraph.Recoded (fun _ => none) f source paragraph paragraph') :
    paragraph' = paragraph.relocate f := by
  cases h with
  | codeReference => rfl
  | hiddenCode hcode => rw [hcode.eq_relocate, relocate]
  | formattedCode hcode => rw [hcode.eq_relocate, relocate]
  | markdown => rfl

/-- Without new texts documents differ in places alone. -/
theorem Document.Recoded.eq_relocate {d d' : Document}
    (h : Document.Recoded (fun _ => none) f d d') : d' = d.relocate f := by
  have hparagraphs := eq_map_of_forall₂ h.paragraphs fun _ _ => Paragraph.Recoded.eq_relocate
  obtain ⟨paragraphs, links, diagnostics, lines, sourceId⟩ := d'
  obtain ⟨-, rfl, rfl, rfl, rfl⟩ := h
  subst hparagraphs
  rfl

end Relocated

end Literate
