import Literate.Proofs.Block.CodeBehind

/-!
# Where lines can be cut

A directive and an opener end whatever is being collected, just as the end of the lines does, and
carry nothing of it over. The lines in front of them and the lines behind are grouped as if the
others were not there.
-/

namespace Literate

variable {line : Line}

/-- An opener begins anew between what stands in front of it and behind it. -/
theorem groupFrom_opener (current : OpenBlock) (front : List Line) {text : Text}
    (h : line.Opens text) (after : List Line) :
    groupFrom current (front ++ line :: after) =
      groupFrom current front ++ groupLines (line :: after) := by
  have hbegin : ∀ current, groupFrom current (line :: after) =
      current.finish ++ groupFrom (.comment (.ofOpener text)) after := by
    intro current
    rw [groupFrom, OpenBlock.step_opener _ h]
  induction front generalizing current with
  | nil =>
      have halone : groupLines (line :: after) = groupFrom (.comment (.ofOpener text)) after :=
        hbegin .none
      rw [List.nil_append, hbegin, halone]
      rfl
  | cons first front ih => simp only [List.cons_append, groupFrom, ih, List.append_assoc]

/-- In front of a line that ends the code, what is being collected is finished as it is at the
end of the lines. -/
theorem groupFrom_endsCode (current : OpenBlock) (h : line.EndsCode) (after : List Line) :
    groupFrom current (line :: after) = current.finish ++ groupLines (line :: after) := by
  rcases line.trichotomy with ⟨d, hdirective⟩ | ⟨text, hopens⟩ | hplain
  · have halone : groupLines (line :: after) = .command d :: groupLines after :=
      groupFrom_directive .none [] hdirective after
    rw [halone]
    exact groupFrom_directive current [] hdirective after
  · exact groupFrom_opener current [] hopens after
  · exact absurd hplain (Line.endsCode_iff.mp h)

/-- A directive is a block of its own between the blocks of the lines in front of it and the blocks
of the lines behind it. An opener that is no directive separates the blocks of the lines in front
of it from those of the lines from there on. Both hold whatever is being collected at the cut. -/
theorem groupLines_cut (line : Line) (front back : List Line) :
    (∀ d, line.directive? = some d →
      groupLines (front ++ [line] ++ back) =
        groupLines front ++ [.command d] ++ groupLines back) ∧
    (∀ text, line.docOpener? = some text → line.directive? = none →
      groupLines (front ++ [line] ++ back) = groupLines front ++ groupLines ([line] ++ back)) ∧
    (line.EndsCode → ∀ current : OpenBlock,
      groupFrom current ([line] ++ back) = current.finish ++ groupLines ([line] ++ back)) := by
  simp only [List.append_assoc, List.singleton_append]
  refine ⟨?_, ?_, ?_⟩
  · intro d hdirective
    exact groupFrom_directive .none front hdirective back
  · intro text hopener hdirective
    exact groupFrom_opener .none front ⟨hdirective, hopener⟩ back
  · intro hends current
    exact groupFrom_endsCode current hends back

/-- A comment that is still open, a directive, code, and a comment that closes. -/
def Line.atCuts : List Line := ofPieceLists 1 0 [
  [⟨.comment, "(** a".toList⟩],
  [⟨.comment, "(*** hide ***)".toList⟩],
  [⟨.identifier, ['x']⟩],
  [⟨.comment, "(** b *)".toList⟩]]

/-- The directive cuts an open comment and the opener a snippet. Behind a comment that is closed the
opener cuts too. -/
theorem groupLines_cut_open :
    groupLines Line.atCuts = groupLines (Line.atCuts.take 1) ++
      [.command ⟨Dict.ofList [("hide".toList, [])], ⟨6, 20⟩⟩] ++
        groupLines (Line.atCuts.drop 2) ∧
    groupLines (Line.atCuts.drop 2) =
      groupLines ((Line.atCuts.drop 2).take 1) ++ groupLines (Line.atCuts.drop 3) ∧
    groupFrom (.comment (.ofOpener "(**)".toList)) (Line.atCuts.drop 3) =
      .comment [] :: groupLines (Line.atCuts.drop 3) := by
  refine ⟨?_, ?_, ?_⟩
  · exact (groupLines_cut _ [_] [_, _]).1 _ (by decide)
  · exact (groupLines_cut _ [_] []).2.1 "(** b *)".toList (by decide) (by decide)
  · exact (groupLines_cut _ [] []).2.2 (.inl ⟨"(** b *)".toList, by decide⟩) _

end Literate
