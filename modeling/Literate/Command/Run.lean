import Literate.Command.Arguments
import Literate.Command.Files
import Literate.Command.Help
import Literate.Command.Path
import Literate.Command.Trace
import Literate.Document.Outline
import Literate.Markdown.Reader
import Literate.Report.Frame

/-!
# Running the program

A run turns arguments and files into an exit code and the two streams of output. Files are only
read: the configuration first, then the script. What happens to a script that was read is a
function of its text, the settings and the reader of prose alone.
-/

namespace Literate

structure Output where
  exitCode : Nat
  stdout : Text
  stderr : Text
deriving DecidableEq

/-- Output with some text in front of its error stream. -/
def Output.withNotices (notices : Text) (o : Output) : Output :=
  { o with stderr := notices ++ o.stderr }

/-- A script that was read, with all that its processing depends on. -/
structure LoadedScript where
  name : Text
  source : Text
  settings : Settings
  verbosity : Nat

namespace LoadedScript

open Text (decimal)

def file (s : LoadedScript) : SourceFile := ⟨s.name, s.source⟩

/-- The only file of a run has the first number. -/
def fileId : Nat := 0

def reader (s : LoadedScript) (readProse : Text → Prose) : ScriptReader where
  source := s.source
  fileId := fileId
  settings := s.settings
  tokenizer := fun request => [tokenize request]
  readProse := readProse

def log (s : LoadedScript) (entries : List LogEntry) : Text := LogEntry.shown s.verbosity entries

def drawAll (s : LoadedScript) (diagnostics : List Diagnostic) : Text :=
  diagnostics.flatMap fun d => d.report.draw s.file

def failure (s : LoadedScript) (e : ScriptError) : Output :=
  ⟨1, [], (e.report fileId).draw s.file⟩

def countOf (kind : String) (d : Document) : Nat :=
  (d.paragraphs.filter (·.kind == kind)).length

def successLine (s : LoadedScript) (d : Document) : Text :=
  "ok: ".toList ++ s.name ++ " parsed successfully (".toList ++
    decimal (countOf "markdown" d) ++ " prose, ".toList ++
    decimal (countOf "formatted-code" d) ++ " code, ".toList ++
    decimal (countOf "hidden-code" d) ++ " hidden, ".toList ++
    decimal (countOf "code-reference" d) ++ " references, ".toList ++
    decimal d.links.size ++ " links)\n".toList

/-- Report all that is wrong with a script. Warnings do not make it fail. -/
def check (s : LoadedScript) (readProse : Text → Prose) : Output :=
  Output.withNotices (s.log (Trace.ofReader (s.reader readProse))) <|
    match (s.reader readProse).read with
    | .error e => s.failure e
    | .ok d =>
        Output.withNotices (s.drawAll d.diagnostics ++ s.log (Trace.warnings d)) <|
          if d.hasErrors then ⟨1, [], []⟩ else ⟨0, [], s.successLine d⟩

def printDocument (s : LoadedScript) (readProse : Text → Prose) (print : Document → Text) :
    Output :=
  Output.withNotices (s.log (Trace.ofReader (s.reader readProse))) <|
    match (s.reader readProse).read with
    | .error e => s.failure e
    | .ok d => ⟨0, print d, []⟩

def printOutline (s : LoadedScript) (readProse : Text → Prose) : Output :=
  s.printDocument readProse fun d => d.outline.text ++ ['\n']

def linkLine (key : Text) (definition : LinkDefinition) : Text :=
  let title :=
    match definition.title with
    | some title => [' ', '"'] ++ title ++ ['"']
    | none => []
  '[' :: key ++ "]: ".toList ++ definition.url ++ title ++ ['\n']

def printLinks (s : LoadedScript) (readProse : Text → Prose) : Output :=
  s.printDocument readProse fun d => d.links.toList.flatMap fun entry => linkLine entry.1 entry.2

/-- The first line of a text that is not blank, trimmed. -/
def firstWords (t : Text) : Text :=
  (((List.splitOn '\n' t).map Text.trim).find? (!·.isEmpty)).getD []

/-- The number of the first and of the last of some lines, zero without lines. -/
def lineNumbers (lines : List Line) : Nat × Nat :=
  ((lines.head?.map (·.number)).getD 0, (lines.getLast?.map (·.number)).getD 0)

def blockSummary : Block → Text
  | .comment text => firstWords text
  | .snippet lines =>
      let (first, last) := lineNumbers lines
      "lines ".toList ++ decimal first ++ '-' :: decimal last
  | .command d => List.intercalate [',', ' '] d.pairs

def blockLine (block : Block) : Text :=
  (Help.padded 8 block.kind).toList ++ ' ' :: blockSummary block ++ ['\n']

def printBlocks (s : LoadedScript) (readProse : Text → Prose) : Output :=
  match (s.reader readProse).group with
  | .error e => s.failure e
  | .ok g =>
      ⟨0, g.blocks.flatMap blockLine, s.log (Trace.ofGrouped g) ++ s.drawAll g.diagnostics⟩

/-- Carry out an action on a script. -/
def perform (s : LoadedScript) (readProse : Text → Prose) : Action → Output
  | .check => s.check readProse
  | .ast => s.printOutline readProse
  | .blocks => s.printBlocks readProse
  | .links => s.printLinks readProse

end LoadedScript

/-- Why a run ends before a script is there to be processed. -/
inductive LoadError where
  | unreadableConfig (path : Text) (failure : ReadFailure)
  | invalidConfig (path : Text) (document : Text) (fault : Toml.Fault)
  | unreadableScript (path : Text) (failure : ReadFailure)

def LoadError.message : LoadError → Text
  | .unreadableConfig path failure =>
      "cannot read config '".toList ++ path ++ "': ".toList ++ failure.message.toList
  | .invalidConfig path document fault =>
      "invalid config '".toList ++ path ++ "': ".toList ++
        fault.message Config.knownKeys document
  | .unreadableScript path failure =>
      "cannot read '".toList ++ path ++ "': ".toList ++ failure.message.toList

def LoadError.output (e : LoadError) : Output :=
  ⟨1, [], "error: ".toList ++ e.message ++ ['\n']⟩

def Config.fileName : Text := "litscript.toml".toList

def Config.load (path : Text) (content : Except ReadFailure ByteArray) :
    Except LoadError Settings :=
  match content with
  | .error failure => .error (.unreadableConfig path failure)
  | .ok bytes =>
      match decodeText bytes with
      | .error failure => .error (.unreadableConfig path failure)
      | .ok document =>
          match Config.read document with
          | .error fault => .error (.invalidConfig path document fault)
          | .ok settings => .ok settings

/-- The settings of a file with the choices of the command line: symbols are added, and the
merge policy is replaced. -/
def Settings.withChoices (settings : Settings) (choices : Choices) : Settings :=
  { settings with
    defines := settings.defines ++ choices.defines
    linkMerge := choices.linkMerge.getD settings.linkMerge }

namespace Invocation

/-- The script of an invocation, given the settings of the configuration and what reading the
script gave. -/
def load (i : Invocation) (settings : Settings) (content : Except ReadFailure ByteArray) :
    Except LoadError LoadedScript :=
  match content >>= decodeText with
  | .error failure => .error (.unreadableScript i.file failure)
  | .ok source => .ok ⟨i.file, source, settings.withChoices i.choices, i.choices.verbosity⟩

/-- The path of the configuration: the one that was chosen, or else one beside the script if it
is there. -/
def configPath {m : Type → Type} [Monad m] (files : FileAccess m) (i : Invocation) :
    m (Option Text) := do
  match i.choices.config with
  | some path => return some path
  | none =>
      let candidate := Path.beside i.file Config.fileName
      return if ← files.isFile candidate then some candidate else none

/-- The settings of the configuration, and the entry about where they come from. -/
def readConfig {m : Type → Type} [Monad m] (files : FileAccess m) (i : Invocation) :
    m (LogEntry × Except LoadError Settings) := do
  match ← i.configPath files with
  | none =>
      return (⟨.debug, .config, "no ".toList ++ Config.fileName ++
        " found, using default options".toList⟩, .ok .default)
  | some path =>
      return (⟨.info, .config, "loading config from ".toList ++ path⟩,
        Config.load path (← files.read path))

def run {m : Type → Type} [Monad m] (files : FileAccess m) (i : Invocation) : m Output := do
  let (entry, config) ← i.readConfig files
  let output ← match config with
    | .error e => pure e.output
    | .ok settings => do
        match i.load settings (← files.read i.file) with
        | .error e => pure e.output
        | .ok script => pure (script.perform (Markdown.read .default) i.action)
  return output.withNotices (LogEntry.shown i.choices.verbosity [entry])

end Invocation

def versionText : Text := "litscript 0.1.0\n".toList

/-- The output of arguments that name no invocation. Wrong arguments have an exit code of their
own. -/
def Interruption.output : Interruption → Output
  | .usage error =>
      ⟨2, [], "error: ".toList ++ error.message ++
        "\n\nFor more information, try '--help'.\n".toList⟩
  | .help topic => ⟨0, Help.text topic, []⟩
  | .version => ⟨0, versionText, []⟩

def run {m : Type → Type} [Monad m] (files : FileAccess m) (arguments : List Text) :
    m Output :=
  match Arguments.read arguments with
  | .error interruption => return interruption.output
  | .ok invocation => invocation.run files

end Literate
