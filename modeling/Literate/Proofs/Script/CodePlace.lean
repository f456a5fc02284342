import Literate.Proofs.Script.OpenScan

/-!
# Places in code

Lexing a line comes from place to place: behind the comment or the string that the line begins
in, and from there behind each piece of code that leaves nothing open. At all these places, and
at no others, the lexer is in code, and what follows on the line is lexed as code.
-/

namespace Literate

/-! ## Lexing in terms of scans -/

/-- A comment or a string with its opening mark and the text behind the mark. A star between
parentheses opens no comment, and three quotes open no regular string. -/
inductive Opens : Opened → Text → Text → Prop where
  | comment {body : Text} (h : body.head? ≠ some ')') : Opens (.comment 1) ['(', '*'] body
  | triple {body : Text} : Opens (.string .triple) ['"', '"', '"'] body
  | verbatim {body : Text} : Opens (.string .verbatim) ['@', '"'] body
  | regular {body : Text} (h : ∀ tail, body ≠ '"' :: '"' :: tail) :
      Opens (.string .regular) ['"'] body

/-- The step of code over an opening mark, when this is what a scan behind the mark finds. -/
def OpenScan.step (kind : TokenKind) (opener body : Text) : OpenScan → CodeStep
  | .closed front rest => ⟨⟨kind, opener ++ front⟩, rest, none⟩
  | .unclosed reached => ⟨⟨kind, opener ++ body⟩, [], some reached⟩

theorem CodeStep.comment_eq (body : Text) :
    comment body = ((Opened.comment 1).scan body).step .comment ['(', '*'] body := by
  rw [comment, Opened.scan]
  cases scanComment 1 body <;> rfl

theorem CodeStep.string_eq (kind : StringKind) (quote body : Text) :
    string kind quote body = ((Opened.string kind).scan body).step .string quote body := by
  rw [string, Opened.scan]
  cases scanString kind body <;> rfl

/-- At an opening mark, a step of code takes what a scan behind the mark finds. -/
theorem Opens.codeStep_eq {opened : Opened} {opener body : Text} (h : Opens opened opener body)
    {c : Char} {rest : Text} (hrest : c :: rest = opener ++ body) :
    codeStep c rest = (opened.scan body).step opened.pieceKind opener body := by
  cases h with
  | comment hhead =>
      have hstep : codeStep '(' ('*' :: body) = .comment body := by
        rw [codeStep]
        rintro tail rfl
        exact hhead rfl
      cases hrest
      exact hstep.trans (CodeStep.comment_eq body)
  | triple =>
      cases hrest
      exact CodeStep.string_eq .triple _ body
  | verbatim =>
      cases hrest
      exact CodeStep.string_eq .verbatim _ body
  | regular hbody =>
      have hstep : codeStep '"' body = .string .regular ['"'] body := by
        rw [codeStep]
        exact hbody
      cases hrest
      exact hstep.trans (CodeStep.string_eq .regular _ body)

theorem Opens.opener_ne_nil {opened : Opened} {opener body : Text}
    (h : Opens opened opener body) : opener ≠ [] := by
  cases h <;> exact List.cons_ne_nil _ _

/-- A step of code that does not stand at an opening mark ends on its line. -/
theorem exists_opens_or_ends (c : Char) (rest : Text) :
    (∃ opened opener body, c :: rest = opener ++ body ∧ Opens opened opener body) ∨
      (codeStep c rest).Ends c := by
  unfold codeStep
  split
  · exact .inr ⟨rfl, fun _ => rfl, by simp⟩
  · exact .inr ⟨rfl, by simp, by simp⟩
  next more hclosing =>
    refine .inl ⟨.comment 1, ['(', '*'], more, rfl, .comment ?_⟩
    intro hhead
    obtain ⟨tail, rfl⟩ := List.head?_eq_some_iff.mp hhead
    exact hclosing tail rfl
  next more => exact .inl ⟨.string .triple, ['"', '"', '"'], more, rfl, .triple⟩
  next more => exact .inl ⟨.string .verbatim, ['@', '"'], more, rfl, .verbatim⟩
  next htriple => exact .inl ⟨.string .regular, ['"'], rest, rfl, .regular htriple⟩
  · exact .inr (CodeStep.character_ends _ _)
  · exact .inr (CodeStep.quotedName_ends _ _)
  · exact .inr (CodeStep.byClass_ends _ _)

/-- The pieces and the mode that are found when a line begins in a construct. -/
theorem linePieces_mode (opened : Opened) (start offset : Nat) (t : Text) :
    linePieces (opened.mode start) offset t =
      match opened.scan t with
      | .closed front rest =>
          (⟨opened.pieceKind, front⟩ :: (codePieces (offset + Text.byteSize front) rest).1,
            (codePieces (offset + Text.byteSize front) rest).2)
      | .unclosed reached => (Piece.ofText opened.pieceKind t, reached.mode start) := by
  cases opened with
  | comment depth =>
      simp only [Opened.mode, linePieces, Opened.scan]
      cases scanComment depth t <;> rfl
  | string kind =>
      simp only [Opened.mode, linePieces, Opened.scan]
      cases scanString kind t <;> rfl

/-- A line that neither controls branches nor is inactive. -/
def LexState.IsOrdinaryFor (state : LexState) (t : Text) : Prop :=
  state.mode = .code → BranchLine.ofText? t = none ∧ isActive state.branches = true

theorem lexLine_ordinary {state : LexState} {t : Text} (h : state.IsOrdinaryFor t)
    (defined : List Text) (offset : Nat) :
    lexLine defined state offset t =
      ⟨(linePieces state.mode offset t).1, [],
        ⟨(linePieces state.mode offset t).2, state.branches⟩⟩ := by
  obtain ⟨mode, branches⟩ := state
  cases mode with
  | code =>
      obtain ⟨hline, hactive⟩ := h rfl
      simp only at hactive
      simp only [lexLine, hline, hactive, if_true]
  | comment depth start => rfl
  | string kind start => rfl

/-! ## From place to place -/

/-- Lexing a text as code comes to a place: the text in front of it and the text behind it. -/
inductive CodeReaches : Text → Text → Text → Prop where
  | here {t : Text} : CodeReaches t [] t
  | step {c : Char} {rest lead behind : Text} (hopened : (codeStep c rest).opened = none)
      (h : CodeReaches (codeStep c rest).rest lead behind) :
      CodeReaches (c :: rest) ((codeStep c rest).piece.text ++ lead) behind

namespace CodeReaches

variable {t lead rest : Text}

theorem append_eq (h : CodeReaches t lead rest) : lead ++ rest = t := by
  induction h with
  | here => rfl
  | step _ _ ih => rw [List.append_assoc, ih, (codeStep_covers _ _).1]

theorem trans {lead' behind : Text} (h : CodeReaches t lead rest)
    (h' : CodeReaches rest lead' behind) : CodeReaches t (lead ++ lead') behind := by
  induction h with
  | here => exact h'
  | step hopened _ ih =>
      rw [List.append_assoc]
      exact .step hopened (ih h')

/-- Of two places that a text is lexed to, the one is lexed on to the other. -/
theorem linear {lead' rest' : Text} (h : CodeReaches t lead rest)
    (h' : CodeReaches t lead' rest') :
    (∃ more, lead' = lead ++ more ∧ CodeReaches rest more rest') ∨
      ∃ more, lead = lead' ++ more ∧ CodeReaches rest' more rest := by
  induction h generalizing lead' with
  | here => exact .inl ⟨lead', rfl, h'⟩
  | step hopened h ih =>
      cases h' with
      | here => exact .inr ⟨_, rfl, .step hopened h⟩
      | step _ h' =>
          obtain ⟨more, rfl, hmore⟩ | ⟨more, rfl, hmore⟩ := ih h'
          · exact .inl ⟨more, (List.append_assoc _ _ _).symm, hmore⟩
          · exact .inr ⟨more, (List.append_assoc _ _ _).symm, hmore⟩

/-- From a place that is reached, the rest of the text is lexed as code. -/
theorem codePieces_eq (h : CodeReaches t lead rest) :
    ∃ pieces, Piece.textOf pieces = lead ∧ ∀ offset, codePieces offset t =
      (pieces ++ (codePieces (offset + Text.byteSize lead) rest).1,
        (codePieces (offset + Text.byteSize lead) rest).2) := by
  induction h with
  | here => exact ⟨[], rfl, fun _ => rfl⟩
  | @step c rest lead behind hopened h ih =>
      obtain ⟨pieces, rfl, hpieces⟩ := ih
      refine ⟨(codeStep c rest).piece :: pieces, rfl, fun offset => ?_⟩
      rw [codePieces]
      simp only [hopened, hpieces, Text.byteSize_append, Nat.add_assoc, List.cons_append]

end CodeReaches

namespace Opens

variable {opened : Opened} {opener body : Text}

theorem codePieces_eq (h : Opens opened opener body) (offset : Nat) :
    codePieces offset (opener ++ body) =
      match opened.scan body with
      | .closed front rest =>
          (⟨opened.pieceKind, opener ++ front⟩ ::
              (codePieces (offset + Text.byteSize (opener ++ front)) rest).1,
            (codePieces (offset + Text.byteSize (opener ++ front)) rest).2)
      | .unclosed reached => ([⟨opened.pieceKind, opener ++ body⟩], reached.mode offset) := by
  obtain ⟨c, rest, hrest⟩ := List.exists_cons_of_ne_nil
    (List.append_ne_nil_of_left_ne_nil h.opener_ne_nil body)
  rw [hrest, codePieces]
  simp only [h.codeStep_eq hrest.symm]
  cases opened.scan body with
  | closed front behind => rfl
  | unclosed reached => simp only [OpenScan.step, hrest]

/-- Where the construct closes on the line, the lexer is in code again. -/
theorem reaches {front rest : Text} (h : Opens opened opener body)
    (hscan : opened.scan body = .closed front rest) :
    CodeReaches (opener ++ body) (opener ++ front) rest := by
  obtain ⟨c, more, hmore⟩ := List.exists_cons_of_ne_nil
    (List.append_ne_nil_of_left_ne_nil h.opener_ne_nil body)
  have hstep := h.codeStep_eq hmore.symm
  rw [hscan] at hstep
  have hreaches : CodeReaches (c :: more) ((codeStep c more).piece.text ++ [])
      (codeStep c more).rest := .step (by rw [hstep]; rfl) .here
  rwa [List.append_nil, hstep, ← hmore] at hreaches

/-- The places in code behind an opening mark lie behind the end of the construct. -/
theorem eq_nil_or_of_reaches {lead rest : Text} (h : Opens opened opener body)
    (hreaches : CodeReaches (opener ++ body) lead rest) :
    lead = [] ∨ ∃ front behind more,
      opened.scan body = .closed front behind ∧ lead = opener ++ front ++ more := by
  generalize ht : opener ++ body = t at hreaches
  cases hreaches with
  | here => exact .inl rfl
  | @step c more lead _ hopened _ =>
      have hstep := h.codeStep_eq ht.symm
      cases hscan : opened.scan body with
      | closed front behind =>
          refine .inr ⟨front, behind, lead, rfl, ?_⟩
          rw [hstep, hscan]
          rfl
      | unclosed reached =>
          rw [hstep, hscan] at hopened
          cases hopened

end Opens

/-- Lexing a line from a mode comes to a place in code. -/
inductive LexMode.Reaches (mode : LexMode) (t : Text) : Text → Text → Prop where
  | code {lead rest : Text} (hmode : mode = .code) (h : CodeReaches t lead rest) :
      Reaches mode t lead rest
  | behind {opened : Opened} {start : Nat} {front behind lead rest : Text}
      (hmode : mode = opened.mode start) (hscan : opened.scan t = .closed front behind)
      (h : CodeReaches behind lead rest) : Reaches mode t (front ++ lead) rest

theorem Opened.mode_ne_code (opened : Opened) (start : Nat) : opened.mode start ≠ .code := by
  cases opened <;> simp [mode]

theorem Opened.mode_inj {opened opened' : Opened} {start start' : Nat}
    (h : opened.mode start = opened'.mode start') : opened = opened' ∧ start = start' := by
  cases opened <;> cases opened' <;> simp_all [mode]

namespace LexMode.Reaches

variable {mode : LexMode} {t lead rest : Text}

theorem append_eq (h : mode.Reaches t lead rest) : lead ++ rest = t := by
  cases h with
  | code _ h => exact h.append_eq
  | behind _ hscan h => rw [List.append_assoc, h.append_eq, (Opened.scan_closed_eq hscan).1]

theorem trans {more behind : Text} (h : mode.Reaches t lead rest)
    (h' : CodeReaches rest more behind) : mode.Reaches t (lead ++ more) behind := by
  cases h with
  | code hmode h => exact .code hmode (h.trans h')
  | behind hmode hscan h =>
      rw [List.append_assoc]
      exact .behind hmode hscan (h.trans h')

/-- Of two places in code on a line, the one is lexed on to the other. -/
theorem linear {lead' rest' : Text} (h : mode.Reaches t lead rest)
    (h' : mode.Reaches t lead' rest') :
    (∃ more, lead' = lead ++ more ∧ CodeReaches rest more rest') ∨
      ∃ more, lead = lead' ++ more ∧ CodeReaches rest' more rest := by
  cases h with
  | code hmode h =>
      cases h' with
      | code _ h' => exact h.linear h'
      | behind hmode' => exact absurd (hmode'.symm.trans hmode) (Opened.mode_ne_code _ _)
  | behind hmode hscan h =>
      cases h' with
      | code hmode' => exact absurd (hmode.symm.trans hmode') (Opened.mode_ne_code _ _)
      | behind hmode' hscan' h' =>
          obtain ⟨rfl, -⟩ := Opened.mode_inj (hmode.symm.trans hmode')
          cases hscan.symm.trans hscan'
          obtain ⟨more, rfl, hmore⟩ | ⟨more, rfl, hmore⟩ := h.linear h'
          · exact .inl ⟨more, (List.append_assoc _ _ _).symm, hmore⟩
          · exact .inr ⟨more, (List.append_assoc _ _ _).symm, hmore⟩

/-- From a place in code, the rest of the line is lexed as code. -/
theorem linePieces_eq (h : mode.Reaches t lead rest) :
    ∃ pieces, Piece.textOf pieces = lead ∧ ∀ offset, linePieces mode offset t =
      (pieces ++ (codePieces (offset + Text.byteSize lead) rest).1,
        (codePieces (offset + Text.byteSize lead) rest).2) := by
  cases h with
  | code hmode h =>
      subst hmode
      exact h.codePieces_eq
  | @behind opened start front _ _ _ hmode hscan h =>
      obtain ⟨pieces, rfl, hpieces⟩ := h.codePieces_eq
      refine ⟨⟨opened.pieceKind, front⟩ :: pieces, rfl, fun offset => ?_⟩
      simp only [hmode, linePieces_mode, hscan, hpieces, Text.byteSize_append, Nat.add_assoc,
        List.cons_append]

end LexMode.Reaches

end Literate
