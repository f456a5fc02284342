import Literate.Block.Basic
import Literate.Document.Basic

/-!
# From blocks to paragraphs

Blocks become paragraphs in source order: directives are carried out, snippets become code,
and comments are read as prose. A directive that cannot be carried out stops the whole
assembly; the first such directive in source order is reported.
-/

namespace Literate

/-- The prose of one comment, with the links defined in it. -/
structure Prose where
  nodes : List Node
  links : LinkTable

/-- Why no document is made of a script. -/
inductive ScriptError where
  /-- The tokenizer gave another number of units than one for a single file. -/
  | unitCount (count : Nat)
  /-- A directive without any key, or with a key that nobody knows. -/
  | unknownDirective (pairs : List Text) (span : Span)
  /-- A directive that applies to code, with no snippet behind it. -/
  | danglingDirective (key : Text) (pairs : List Text) (span : Span)
deriving DecidableEq

namespace ScriptError

/-- Texts as one string with commas between them. -/
def listed (pairs : List Text) : String := String.ofList (List.intercalate [',', ' '] pairs)

def message : ScriptError → String
  | .unitCount count =>
      "tokenizer returned " ++ toString count ++ " units for a single file, expected exactly one"
  | .unknownDirective pairs _ => "unknown directive: " ++ listed pairs
  | .danglingDirective key pairs _ =>
      "`" ++ String.ofList key ++ "` directive is not followed by a code snippet: " ++ listed pairs

def span? : ScriptError → Option Span
  | .unitCount _ => none
  | .unknownDirective _ span | .danglingDirective _ _ span => some span

def notes : ScriptError → List String
  | .unitCount _ => []
  | .unknownDirective _ _ => ["recognized directives are `include`, `hide` and `define`"]
  | .danglingDirective _ _ _ => ["place the directive directly above the code it applies to"]

def report (fileId : Nat) (e : ScriptError) : Report where
  severity := .error
  code := none
  message := e.message
  labels := e.span?.toList.map fun span => ⟨.primary, fileId, span, ""⟩
  notes := e.notes

end ScriptError

namespace Directive

/-- The key that places the code of a name. -/
def includeKey : Text := "include".toList

/-- The key that hides the next snippet. -/
def hideKey : Text := "hide".toList

/-- The key that hides the next snippet and binds it to a name. -/
def defineKey : Text := "define".toList

def knownKeys : List Text := [includeKey, hideKey, defineKey]

end Directive

/-- What a directive asks for. -/
inductive DirectiveMeaning where
  /-- Place the code of a name here. -/
  | include (name : Text)
  /-- Leave the next snippet out. -/
  | hide
  /-- Keep the next snippet hidden under a name. -/
  | define (name : Text)
  | unknown
deriving DecidableEq

/-- The meaning of a directive. Any unknown key spoils it; otherwise including comes before
hiding and hiding before defining. -/
def Directive.meaning (d : Directive) : DirectiveMeaning :=
  if d.options.keys.all Directive.knownKeys.contains then
    match d.get? Directive.includeKey with
    | some name => .include name
    | none =>
        if d.contains Directive.hideKey then .hide
        else match d.get? Directive.defineKey with
          | some name => .define name
          | none => .unknown
  else .unknown

/-- Paragraphs together with the link tables of the comments among them. -/
structure Assembled where
  paragraphs : List Paragraph
  tables : List LinkTable

def Assembled.prepend (paragraphs : List Paragraph) (a : Assembled) : Assembled :=
  ⟨paragraphs ++ a.paragraphs, a.tables⟩

/-- Turn blocks into paragraphs, with one reader for the text of comments. -/
def assemble (readProse : Text → Prose) : List Block → Except ScriptError Assembled
  | [] => .ok ⟨[], []⟩
  | .comment text :: rest =>
      let prose := readProse text
      (assemble readProse rest).map fun a =>
        ⟨prose.nodes.map .markdown ++ a.paragraphs, prose.links :: a.tables⟩
  | .snippet lines :: rest =>
      (assemble readProse rest).map
        (.prepend (if lines.isEmpty then [] else [.formattedCode lines]))
  | .command d :: rest =>
      match d.meaning with
      | .unknown => .error (.unknownDirective d.pairs d.span)
      | .include name => (assemble readProse rest).map (.prepend [.codeReference name])
      | .hide =>
          match rest with
          | .snippet _ :: more => assemble readProse more
          | _ => .error (.danglingDirective Directive.hideKey d.pairs d.span)
      | .define name =>
          match rest with
          | .snippet lines :: more =>
              (assemble readProse more).map (.prepend [.hiddenCode (some name) lines])
          | _ => .error (.danglingDirective Directive.defineKey d.pairs d.span)

/-- The paragraphs of some blocks and the merged table of their links. -/
def transformBlocks (readProse : Text → Prose) (policy : MergePolicy) (blocks : List Block) :
    Except ScriptError (List Paragraph × LinkTable) :=
  (assemble readProse blocks).map fun a => (a.paragraphs, LinkTable.merge policy a.tables)

end Literate
