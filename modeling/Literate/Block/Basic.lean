import Literate.Block.Directive

/-!
# Blocks

The regions of a script: prose in documentation comments, snippets of code, and directives.
-/

namespace Literate

/-- A region of a script. -/
inductive Block where
  /-- The text of a documentation comment between its opener and its closer. -/
  | comment (text : Text)
  /-- Lines of code without blank lines at either end. -/
  | snippet (lines : List Line)
  | command (directive : Directive)
deriving DecidableEq

def Block.kind : Block → String
  | .comment _ => "comment"
  | .snippet _ => "snippet"
  | .command _ => "command"

end Literate
