import Literate.Text.Basic

/-!
# Log entries

What the program notes about its work. The more verbose it is asked to be, the more levels of
entries are shown.
-/

namespace Literate

inductive LogLevel where
  | warn
  | info
  | debug
  | trace
deriving DecidableEq

def LogLevel.word : LogLevel → String
  | .warn => "WARN "
  | .info => "INFO "
  | .debug => "DEBUG"
  | .trace => "TRACE"

/-- The least verbosity that shows a level. -/
def LogLevel.verbosity : LogLevel → Nat
  | .warn => 0
  | .info => 1
  | .debug => 2
  | .trace => 3

inductive LogArea where
  | program
  | config
  | lexing
  | grouping
  | assembly
  | links
deriving DecidableEq

def LogArea.word : LogArea → String
  | .program => "litscript"
  | .config => "litscript::config"
  | .lexing => "litscript::lexer"
  | .grouping => "litscript::parser::classify"
  | .assembly => "litscript::parser::transform"
  | .links => "litscript::document::links"

structure LogEntry where
  level : LogLevel
  area : LogArea
  message : Text
deriving DecidableEq

namespace LogEntry

/-- What the further lines of an entry begin with. -/
def furtherLine : Text := ['\n', ' ', ' ', ' ', ' ']

def text (entry : LogEntry) : Text :=
  '[' :: entry.level.word.toList ++ [' '] ++ entry.area.word.toList ++ [']', ' '] ++
    List.intercalate furtherLine (List.splitOn '\n' entry.message) ++ ['\n']

/-- The entries that a verbosity shows. -/
def shown (verbosity : Nat) (entries : List LogEntry) : Text :=
  (entries.filter (·.level.verbosity ≤ verbosity)).flatMap text

end LogEntry

end Literate
