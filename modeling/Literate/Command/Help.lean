import Literate.Command.Arguments

/-!
# Help

What the program says about its arguments.
-/

namespace Literate

namespace Action

def summary : Action → String
  | .check => "Parse a script and report diagnostics"
  | .ast => "Dump the parsed document"
  | .blocks => "List the classified blocks"
  | .links => "List the merged link table"

end Action

namespace Help

def helpSummary : String := "Print this message or the help of the given subcommand(s)"

/-- A text followed by blanks up to a width. -/
def padded (width : Nat) (s : String) : String :=
  s ++ String.ofList (List.replicate (width - s.length) ' ')

def optionLines : List String := [
  "      --no-color                 Disable colored error output",
  "      --config <CONFIG>          TOML config file (defaults to litscript.toml beside the script)",
  "  -D, --define <DEFINES>         Conditional-compilation symbol. Repeatable",
  "      --link-merge <LINK_MERGE>  Which definition wins when a link key is defined twice [possible",
  "                                 values: first-wins, last-wins]",
  "  -v, --verbose...               Log more (-v info, -vv debug, -vvv trace)",
  "  -h, --help                     Print help"]

def versionLine : String := "  -V, --version                  Print version"

/-- The lines about a topic. -/
def lines : HelpTopic → List String
  | .program =>
      ["Literate script parser", "", "Usage: litscript [OPTIONS] <COMMAND>", "", "Commands:"] ++
        (Action.all.map fun action => "  " ++ padded 8 action.word ++ action.summary) ++
        ["  " ++ padded 8 "help" ++ helpSummary, "", "Options:"] ++ optionLines ++ [versionLine]
  | .action action =>
      [action.summary, "", "Usage: litscript " ++ action.word ++ " [OPTIONS] <FILE>", "",
        "Arguments:", "  <FILE>  Script file to parse", "", "Options:"] ++ optionLines
  | .help => [helpSummary, "", "Usage: litscript help [COMMAND]..."]

def text (topic : HelpTopic) : Text := (lines topic).flatMap fun line => line.toList ++ ['\n']

end Help

end Literate
