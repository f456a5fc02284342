import Literate.Script.Tokenized

/-!
# What a step of code can be

A step of code begins a block comment, begins a string, or takes a piece that ends on its line.
Proofs about lexing use these three cases and do not look at the order in which the beginnings
of pieces are tried.
-/

namespace Literate

namespace CodeStep

theorem byClass_opened (c : Char) (rest : Text) : (byClass c rest).opened = none := by
  unfold byClass
  split
  · rfl
  split
  · rfl
  split <;> rfl

theorem byClass_kind_ne_comment (c : Char) (rest : Text) :
    (byClass c rest).piece.kind ≠ .comment := by
  unfold byClass
  split
  · simp [ofSplit]
  split
  · simp [ofSplit]
  split <;> simp [ofSplit]

theorem character_opened (rest : Text) : (character rest).opened = none := by
  unfold character
  split <;> rfl

theorem character_kind_ne_comment (rest : Text) : (character rest).piece.kind ≠ .comment := by
  unfold character
  split <;> simp [ofSplit]

theorem quotedName_opened (rest : Text) : (quotedName rest).opened = none := by
  unfold quotedName
  split <;> rfl

theorem quotedName_kind_ne_comment (rest : Text) :
    (quotedName rest).piece.kind ≠ .comment := by
  unfold quotedName
  split <;> simp [ofSplit]

theorem byClass_blank {c : Char} {rest : Text} (h : (byClass c rest).piece.kind = .whitespace) :
    ∀ d ∈ (byClass c rest).piece.text, isCodeSpace d = true := by
  unfold byClass at h ⊢
  split at h
  next hc =>
    intro d hd
    rw [if_pos hc] at hd
    rcases List.mem_cons.mp hd with rfl | hd
    · exact hc
    · exact List.all_eq_true.mp List.all_takeWhile d hd
  next =>
    split at h
    · simp [ofSplit] at h
    split at h <;> simp [ofSplit] at h

theorem character_kind_ne_whitespace (rest : Text) :
    (character rest).piece.kind ≠ .whitespace := by
  unfold character
  split <;> simp [ofSplit]

theorem quotedName_kind_ne_whitespace (rest : Text) :
    (quotedName rest).piece.kind ≠ .whitespace := by
  unfold quotedName
  split <;> simp [ofSplit]

/-- A step that ends on its line. Its piece is no comment unless a slash begins it. -/
structure Ends (c : Char) (step : CodeStep) : Prop where
  opened_eq : step.opened = none
  slash_of_comment : step.piece.kind = .comment → c = '/'
  blank_of_whitespace : step.piece.kind = .whitespace →
    ∀ d ∈ step.piece.text, isCodeSpace d = true

theorem character_ends (c : Char) (rest : Text) : (character rest).Ends c where
  opened_eq := character_opened rest
  slash_of_comment h := absurd h (character_kind_ne_comment rest)
  blank_of_whitespace h := absurd h (character_kind_ne_whitespace rest)

theorem quotedName_ends (c : Char) (rest : Text) : (quotedName rest).Ends c where
  opened_eq := quotedName_opened rest
  slash_of_comment h := absurd h (quotedName_kind_ne_comment rest)
  blank_of_whitespace h := absurd h (quotedName_kind_ne_whitespace rest)

theorem byClass_ends (c : Char) (rest : Text) : (byClass c rest).Ends c where
  opened_eq := byClass_opened c rest
  slash_of_comment h := absurd h (byClass_kind_ne_comment c rest)
  blank_of_whitespace := byClass_blank

end CodeStep

/-- The three kinds of step. A parenthesised star begins no comment. -/
theorem codeStep_cases (c : Char) (rest : Text) :
    (∃ more, c :: rest = '(' :: '*' :: more ∧ more.head? ≠ some ')' ∧
      codeStep c rest = .comment more) ∨
    (∃ kind quote more, c :: rest = quote ++ more ∧ quote ≠ [] ∧
      codeStep c rest = .string kind quote more) ∨
    (codeStep c rest).Ends c := by
  unfold codeStep
  split
  · exact .inr (.inr ⟨rfl, fun _ => rfl, by simp⟩)
  · exact .inr (.inr ⟨rfl, by simp, by simp⟩)
  next more hnot =>
    refine .inl ⟨more, rfl, ?_, rfl⟩
    intro hhead
    obtain ⟨tail, rfl⟩ := List.head?_eq_some_iff.mp hhead
    exact hnot tail rfl
  · exact .inr (.inl ⟨.triple, ['"', '"', '"'], _, rfl, by simp, rfl⟩)
  · exact .inr (.inl ⟨.verbatim, ['@', '"'], _, rfl, by simp, rfl⟩)
  · exact .inr (.inl ⟨.regular, ['"'], _, rfl, by simp, rfl⟩)
  · exact .inr (.inr (CodeStep.character_ends _ _))
  · exact .inr (.inr (CodeStep.quotedName_ends _ _))
  · exact .inr (.inr (CodeStep.byClass_ends _ _))

/-- White space in code is spaces and tabs. -/
theorem codeStep_blank {c : Char} {rest : Text}
    (h : (codeStep c rest).piece.kind = .whitespace) :
    ∀ d ∈ (codeStep c rest).piece.text, isCodeSpace d = true := by
  rcases codeStep_cases c rest with ⟨more, -, -, hstep⟩ | ⟨kind, quote, more, -, -, hstep⟩ | hends
  · rw [hstep, CodeStep.comment] at h
    split at h <;> simp at h
  · rw [hstep, CodeStep.string] at h
    split at h <;> simp [CodeStep.ofSplit] at h
  · exact hends.blank_of_whitespace h

/-- A step that leaves a construct open takes the whole rest of its line. -/
theorem codeStep_rest_of_opened {c : Char} {rest : Text} {opened : Opened}
    (h : (codeStep c rest).opened = some opened) : (codeStep c rest).rest = [] := by
  rcases codeStep_cases c rest with ⟨more, -, -, hstep⟩ | ⟨kind, quote, more, -, -, hstep⟩ | hends
  · rw [hstep, CodeStep.comment] at h ⊢
    split at h
    next => simp at h
    next => rfl
  · rw [hstep, CodeStep.string] at h ⊢
    split at h
    next => simp [CodeStep.ofSplit] at h
    next => rfl
  · rw [hends.opened_eq] at h
    simp at h

end Literate
