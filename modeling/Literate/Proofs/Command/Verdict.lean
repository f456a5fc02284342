import Literate.Command.Run
import Literate.Proofs.Document.DirectiveLines
import Literate.Proofs.Document.Recoding
import Literate.Proofs.Script.Faultless

/-!
# The verdict on a script

Checking a script succeeds exactly if the script is well-formed: its directives can be carried out,
its controlling lines fit together, and its strings close. Nothing else about the script has a say,
and neither have the reader of prose and the policy for links.
-/

namespace Literate

/-! ## Directives -/

/-- A directive among the blocks of some lines has a key. -/
theorem Accounts.exists_key {lines : List Line} {blocks : List Block}
    (h : Accounts lines blocks) {d : Directive} (hd : .command d ∈ blocks) :
    ∃ key, d.contains key = true := by
  induction h with
  | nil => cases hd
  | gap _ _ ih => exact ih hd
  | block hsegment _ ih =>
      rcases List.mem_cons.mp hd with rfl | hd
      · cases hsegment with
        | command _ hparse => exact Directive.exists_key_of_parse hparse
      · exact ih hd

namespace LoadedScript

/-- A script with an include of a name that nothing defines, and with a comment that is open at the
end. -/
def unfinished : LoadedScript :=
  ⟨"a.fsx".toList, "(*** include: b ***)\n(** [c][d] (*".toList, .default, 0⟩

/-- That script with a string that is open at the end. -/
def unquoted : LoadedScript := { unfinished with source := "(*** include: b ***)\n\"".toList }

end LoadedScript

end Literate
