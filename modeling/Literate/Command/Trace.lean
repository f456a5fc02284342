import Literate.Command.Log
import Literate.Document.Reading
import Literate.Text.Digits
import Literate.Text.Printable

/-!
# The trace of a reading

The log entries that reading a script gives rise to, stage by stage. Tracing looks at the same
lines, blocks and tables as the reading itself and changes nothing of it.
-/

namespace Literate.Trace

open Text (decimal)

def quotedList (texts : List Text) : Text :=
  '[' :: List.intercalate [',', ' '] (texts.map quoted) ++ [']']

def tokenizing (lines : List Line) (diagnostics : List Diagnostic) : List LogEntry :=
  [⟨.debug, .lexing, "tokenized ".toList ++ decimal lines.length ++ " lines with ".toList ++
    decimal diagnostics.length ++ " diagnostics".toList⟩]

/-- What there is to say about a line when a block is being collected. -/
def lineRemark? (current : OpenBlock) (line : Line) : Option Text :=
  match line.role, current with
  | .directive directive, _ => some ("directive ".toList ++ quotedList directive.pairs)
  | .opener _, .comment _ => some "new documentation comment".toList
  | .opener _, .snippet _ => some "documentation comment".toList
  | .comment _, .comment buffer =>
      if buffer.isClosed then some "documentation comment already closed".toList else none
  | .code, .comment buffer =>
      if buffer.isClosed then some "documentation comment already closed".toList
      else some "code ends documentation comment".toList
  | .comment _, .snippet _ | .code, .snippet _ => none

/-- The entries of the lines behind a block that is being collected. -/
def lineEntries : OpenBlock → List Line → List LogEntry
  | _, [] => []
  | current, line :: rest =>
      let entry := (lineRemark? current line).map fun remark =>
        ⟨.trace, .grouping, "line ".toList ++ decimal line.number ++ ": ".toList ++ remark⟩
      entry.toList ++ lineEntries (current.step line).2 rest

def grouping (lines : List Line) (blocks : List Block) : List LogEntry :=
  lineEntries .none lines ++
    [⟨.debug, .grouping, "classified ".toList ++ decimal lines.length ++ " lines into ".toList ++
      decimal blocks.length ++ " blocks".toList⟩]

/-- The entries of carrying out directives, up to the first one that cannot be. -/
def directives : List Block → List LogEntry
  | [] => []
  | .comment _ :: rest | .snippet _ :: rest => directives rest
  | .command d :: rest =>
      match d.meaning with
      | .unknown => []
      | .include _ => directives rest
      | .hide =>
          match rest with
          | .snippet lines :: more =>
              ⟨.debug, .assembly, "hide: ".toList ++ decimal lines.length ++ " lines".toList⟩ ::
                directives more
          | _ => []
      | .define name =>
          match rest with
          | .snippet lines :: more =>
              ⟨.debug, .assembly, "define Some(".toList ++ quoted name ++ "): ".toList ++
                decimal lines.length ++ " lines".toList⟩ :: directives more
          | _ => []

/-- The word for the definition that a policy keeps. -/
def keptWord : MergePolicy → String
  | .lastWins => "later"
  | .firstWins => "first"

def merging (policy : MergePolicy) : LinkTable → List LinkTable → List LogEntry
  | _, [] => []
  | merged, table :: rest =>
      (merged.clashes table).map (fun key =>
        ⟨.debug, .links, "link [".toList ++ key ++ "] redefined, keeping the ".toList ++
          (keptWord policy).toList ++ " definition".toList⟩) ++
        merging policy (merged.addTable policy table) rest

def assembled (policy : MergePolicy) (a : Assembled) : List LogEntry :=
  merging policy .empty a.tables ++
    [⟨.debug, .assembly, "transformed into ".toList ++ decimal a.paragraphs.length ++
      " paragraphs, ".toList ++ decimal (LinkTable.merge policy a.tables).size ++
      " links".toList⟩]

def ofGrouped (g : GroupedSource) : List LogEntry :=
  tokenizing g.lines g.diagnostics ++ grouping g.lines g.blocks

def ofReader (r : ScriptReader) : List LogEntry :=
  match r.group with
  | .error _ => []
  | .ok g =>
      let outcome :=
        match assemble r.readProse g.blocks with
        | .ok a => assembled r.settings.linkMerge a
        | .error _ => []
      ofGrouped g ++ directives g.blocks ++ outcome

/-- The warnings about a document: names and keys that nothing defines. -/
def warnings (d : Document) : List LogEntry :=
  d.unresolvedReferences.map (fun name =>
    ⟨.warn, .program, "`include` of `".toList ++ name ++
      "` has no matching `define`".toList⟩) ++
    d.unresolvedLinks.map fun key =>
      ⟨.warn, .program, "link [".toList ++ key ++
        "] is not defined in any documentation comment".toList⟩

end Literate.Trace
