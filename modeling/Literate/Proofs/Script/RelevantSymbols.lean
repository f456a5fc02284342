import Literate.Proofs.Script.ConditionGrammar
import Literate.Proofs.Script.Recoding

/-!
# Which symbols matter

Lexing looks at the defined symbols only to evaluate conditions, and a condition looks only at the
symbols that it names. So requests that agree on the symbols that are read from a source lead to
the same lines and diagnostics, whatever else they define and however they define it.
-/

namespace Literate

/-! ## Symbols in a condition -/

/-- A symbol in a text: characters of symbols that go on at neither end. -/
def HasSymbol (t name : Text) : Prop :=
  ∃ front back, t = front ++ (name ++ back) ∧ (ConditionToken.symbol name).IsSound ∧
    (∀ c ∈ front.getLast?, isSymbolChar c = false) ∧ ∀ c ∈ back.head?, isSymbolChar c = false

/-- The symbols among the tokens that spell a text are symbols in the text. -/
theorem Spells.hasSymbol {tokens : List ConditionToken} {t name : Text} (h : Spells tokens t)
    (hname : .symbol name ∈ tokens) : HasSymbol t name := by
  induction h with
  | nil => cases hname
  | @blank tokens c t hc _ ih =>
      obtain ⟨front, back, rfl, hsound, hfront, hback⟩ := ih hname
      refine ⟨c :: front, back, rfl, hsound, ?_, hback⟩
      cases front with
      | nil => simpa using isSymbolChar_eq_false_of_isBlank hc
      | cons d front => simpa using hfront
  | @token token tokens t hsound hends _ ih =>
      rcases List.mem_cons.mp hname with rfl | hname
      · exact ⟨[], t, rfl, hsound, by simp, hends⟩
      obtain ⟨front, back, rfl, hsound', hfront, hback⟩ := ih hname
      refine ⟨token.spelling ++ front, back, by simp, hsound', ?_, hback⟩
      cases front with
      | cons d front => simpa [List.getLast?_append] using hfront
      | nil =>
          -- The token stands right in front: a sign is no character of symbols, and a symbol
          -- would have gone on.
          cases token with
          | symbol earlier =>
              obtain ⟨hne, hchars⟩ := hsound'
              obtain ⟨c, rest, rfl⟩ := List.exists_cons_of_ne_nil hne
              have hc : isSymbolChar c = false := hends c rfl
              simp [hchars c List.mem_cons_self] at hc
          | not | and | or | opening | closing =>
              rintro c ⟨⟩
              decide

/-- Two lists of symbols that have the same ones of the symbols among some tokens. -/
def AgreeOn (defined other : List Text) (tokens : List ConditionToken) : Prop :=
  ∀ name, .symbol name ∈ tokens → (name ∈ defined ↔ name ∈ other)

theorem AgreeOn.mono {defined other : List Text} {tokens more : List ConditionToken}
    (h : AgreeOn defined other more) (hsub : tokens ⊆ more) : AgreeOn defined other tokens :=
  fun name hname => h name (hsub hname)

namespace Condition

mutual

/-- The truth value of a derivation depends on the symbols among its tokens alone. -/
theorem Disjunction.value_congr {defined other : List Text} :
    ∀ d : Disjunction, AgreeOn defined other d.tokens → d.value defined = d.value other
  | .last operand, h => operand.value_congr h
  | .more operand others, h =>
      congrArg₂ or (operand.value_congr (h.mono (List.subset_append_left _ _)))
        (others.value_congr (h.mono
          (List.subset_append_of_subset_right _ (List.subset_cons_self _ _))))

theorem Conjunction.value_congr {defined other : List Text} :
    ∀ c : Conjunction, AgreeOn defined other c.tokens → c.value defined = c.value other
  | .last operand, h => operand.value_congr h
  | .more operand others, h =>
      congrArg₂ and (operand.value_congr (h.mono (List.subset_append_left _ _)))
        (others.value_congr (h.mono
          (List.subset_append_of_subset_right _ (List.subset_cons_self _ _))))

theorem Operand.value_congr {defined other : List Text} :
    ∀ operand : Operand, AgreeOn defined other operand.tokens →
      operand.value defined = operand.value other
  | .symbol name, h => by
      have hname := h name List.mem_cons_self
      simp only [Operand.value, List.contains_eq_mem, hname]
  | .not operand, h =>
      congrArg (!·) (operand.value_congr (h.mono (List.subset_cons_self _ _)))
  | .group inner, h =>
      inner.value_congr (h.mono
        (List.subset_cons_of_subset _ (List.subset_append_left _ _)))

end

/-- A condition has one result under symbols that agree on the tokens that spell it. Whether it is
rejected, and why, does not depend on any symbol. -/
theorem evaluate_congr {defined other : List Text} {condition : Text}
    (h : ∀ tokens, Spells tokens condition → AgreeOn defined other tokens) :
    evaluate other condition = evaluate defined condition := by
  cases hread : read condition with
  | error e => rw [evaluate_eq, evaluate_eq, hread, Except.map, Except.map]
  | ok f =>
      obtain ⟨d, hspells, -⟩ := read_eq_ok_iff_derives.mp hread
      have hvalue := d.value_congr (h d.tokens hspells)
      rw [evaluate_eq_ok_iff.mpr ⟨d, hspells, hvalue⟩, evaluate_eq_ok_iff.mpr ⟨d, hspells, rfl⟩]

end Condition

/-! ## Symbols that are read from a source -/

section Lines

variable {defined other : List Text}

/-- A controlling line has one effect where its condition has one result. -/
theorem applyBranchLine_congr {branches : List Branch} (span : Span) (line : BranchLine)
    (h : ∀ condition, line = .opens condition → isActive branches = true →
      Condition.evaluate other condition = Condition.evaluate defined condition) :
    applyBranchLine other branches span line = applyBranchLine defined branches span line := by
  cases line with
  | opens condition =>
      by_cases hactive : isActive branches = true
      · simp only [applyBranchLine, h condition rfl hactive]
      · simp only [applyBranchLine, if_neg hactive]
  | switches => rfl
  | closes => rfl

theorem lexLine_congr {state : LexState} {t : Text} (offset : Nat)
    (h : ∀ condition, state.mode = .code → isActive state.branches = true →
      BranchLine.ofText? t = some (.opens condition) →
        Condition.evaluate other condition = Condition.evaluate defined condition) :
    lexLine other state offset t = lexLine defined state offset t := by
  obtain ⟨mode, branches⟩ := state
  cases mode with
  | code =>
      cases hline : BranchLine.ofText? t with
      | none => simp only [lexLine, hline]
      | some line =>
          have happly := applyBranchLine_congr (trimmedSpan offset t) line
            fun condition hopens hactive => h condition rfl hactive (hopens ▸ hline)
          simp only [lexLine, hline, happly]
  | comment depth start => rfl
  | string kind start => rfl

/-- A condition that lexing physical lines reads: that of an opening line that is started in code,
where all lines that are open select. -/
def ReadsCondition (defined raws : List Text) (condition : Text) : Prop :=
  ∃ front raw back, raws = front ++ raw :: back ∧ (stateBehind defined front).mode = .code ∧
    AllSelect defined (openLines (controlLines defined front)) ∧
    BranchLine.ofText? (withoutReturn raw) = some (.opens condition)

theorem ReadsCondition.append {raws : List Text} {condition : Text}
    (h : ReadsCondition defined raws condition) (more : List Text) :
    ReadsCondition defined (raws ++ more) condition := by
  obtain ⟨front, raw, back, rfl, hreads⟩ := h
  exact ⟨front, raw, back ++ more, by simp, hreads⟩

/-- Lines are lexed the same as long as every condition that is read has the same result. -/
theorem lexLines_congr {raws : List Text}
    (h : ∀ condition, ReadsCondition defined raws condition →
      Condition.evaluate other condition = Condition.evaluate defined condition) :
    lexLines other .initial 1 0 raws = lexLines defined .initial 1 0 raws := by
  induction raws using List.reverseRecOn with
  | nil => rfl
  | append_singleton init last ih =>
      have hinit := ih fun condition hreads => h condition (hreads.append [last])
      have hbehind : stateBehind other init = stateBehind defined init :=
        congrArg LexRun.after hinit
      -- Both runs come to the last line in one state, so it is enough that they agree there.
      have hlast : lexLine other (stateBehind defined init) (rawSize init) (withoutReturn last) =
          lexLine defined (stateBehind defined init) (rawSize init) (withoutReturn last) := by
        apply lexLine_congr
        intro condition hmode hactive hline
        have hselect := (tracks_stateBehind defined init).isActive_iff.mp hactive
        exact h condition ⟨init, last, [], rfl, hmode, hselect, hline⟩
      rw [lexLines_concat, lexLines_concat, hinit, hbehind, hlast]

end Lines

/-! ## Requests -/

theorem symbolOfOption?_eq_some_iff {option name : Text} :
    symbolOfOption? option = some name ↔ ∃ lead ∈ defineOptionLeads, option = lead ++ name := by
  constructor
  · intro h
    obtain ⟨lead, hlead, hrest⟩ := List.exists_of_findSome?_eq_some h
    exact ⟨lead, hlead, (List.isPrefixOf?_eq_some_iff_append_eq.mp hrest).symm⟩
  · rintro ⟨lead, hlead, rfl⟩
    -- No lead begins another one, so the one that is written is the one that is found.
    simp only [defineOptionLeads, List.mem_cons, List.not_mem_nil, or_false] at hlead
    rcases hlead with rfl | rfl | rfl | rfl <;> rfl

namespace SourceRequest

/-- A symbol that a request defines, as such or by a compiler option. -/
def Defines (request : SourceRequest) (name : Text) : Prop :=
  name ≠ [] ∧ (name ∈ request.defines ∨
    ∃ lead ∈ defineOptionLeads, lead ++ name ∈ request.compilerOptions)

theorem mem_definedSymbols_iff {request : SourceRequest} {name : Text} :
    name ∈ definedSymbols request.defines request.compilerOptions ↔ request.Defines name := by
  have hoption : (∃ option ∈ request.compilerOptions, ∃ lead ∈ defineOptionLeads,
      option = lead ++ name) ↔
        ∃ lead ∈ defineOptionLeads, lead ++ name ∈ request.compilerOptions := by
    constructor
    · rintro ⟨_, hoption, lead, hlead, rfl⟩
      exact ⟨lead, hlead, hoption⟩
    · rintro ⟨lead, hlead, hoption⟩
      exact ⟨_, hoption, lead, hlead, rfl⟩
  simp only [definedSymbols, List.mem_filter, List.mem_append, List.mem_filterMap,
    symbolOfOption?_eq_some_iff, hoption, Bool.not_eq_true', List.isEmpty_eq_false_iff]
  exact and_comm

/-- A symbol that is named in a condition that lexing reads for a request. -/
def ReadsSymbol (request : SourceRequest) (name : Text) : Prop :=
  ∃ condition tokens,
    ReadsCondition (definedSymbols request.defines request.compilerOptions)
      (physicalLines request.source) condition ∧
    Spells tokens condition ∧ .symbol name ∈ tokens

end SourceRequest

/-- A symbol in the condition of an opening line of a source, wherever that line stands. -/
def NamesSymbol (source name : Text) : Prop :=
  ∃ raw ∈ physicalLines source, ∃ condition,
    BranchLine.ofText? (withoutReturn raw) = some (.opens condition) ∧ HasSymbol condition name

/-- Requests on one source for one file that define the same ones of the symbols that are read for
the first of them have the same lines and diagnostics. Symbols that are read stand in conditions of
the source, and it does not matter what else is defined, how often, and in which way. -/
theorem tokenize_of_same_symbols (request other : SourceRequest)
    (hsource : other.source = request.source) (hfileId : other.fileId = request.fileId) :
    (∀ name, request.ReadsSymbol name → NamesSymbol request.source name) ∧
    ((∀ name, request.ReadsSymbol name → (request.Defines name ↔ other.Defines name)) →
      tokenize other = tokenize request) := by
  constructor
  · rintro name ⟨condition, tokens, ⟨front, raw, back, hraws, -, -, hline⟩, hspells, hname⟩
    refine ⟨raw, ?_, condition, hline, hspells.hasSymbol hname⟩
    rw [hraws]
    exact List.mem_append_right front List.mem_cons_self
  · intro h
    have hlines : lexLines (definedSymbols other.defines other.compilerOptions) .initial 1 0
        (physicalLines request.source) =
          lexLines (definedSymbols request.defines request.compilerOptions) .initial 1 0
            (physicalLines request.source) := by
      apply lexLines_congr
      intro condition hreads
      apply Condition.evaluate_congr
      intro tokens hspells name hname
      rw [SourceRequest.mem_definedSymbols_iff, SourceRequest.mem_definedSymbols_iff]
      exact h name ⟨condition, tokens, hreads, hspells, hname⟩
    simp only [tokenize, lexSource, hsource, hfileId, hlines]

/-- A request on a script with one symbol behind a line comment and one in a branch that is not
selected. -/
def branching : SourceRequest :=
  ⟨"#if A // B\n#else\n#if C".toList, 7, ["A".toList, [], "A".toList], []⟩

/-- A request on that script that defines `A` by one of three options, and `C` as such. -/
def branchingByOption : SourceRequest :=
  { branching with
    defines := ["C".toList]
    compilerOptions := ["-r:B".toList, "--define:B".toList, "-d=A".toList] }

/-- The symbol `A` is all that is read of the script. -/
theorem readsSymbol_branching {name : Text} (h : branching.ReadsSymbol name) : name = ['A'] := by
  obtain ⟨condition, tokens, ⟨front, raw, back, hraws, -, hselect, hline⟩, hspells, hname⟩ := h
  have hlines : physicalLines branching.source =
      ["#if A // B".toList, "#else".toList, "#if C".toList] := by decide
  have hcondition : Spells [.symbol ['A']] ['A', ' '] :=
    .token (by decide) (by rintro c ⟨⟩; decide) (.blank (by decide) .nil)
  rw [hlines] at hraws
  match front with
  | [] =>
      obtain ⟨rfl, -⟩ := List.cons.inj hraws
      obtain rfl : condition = ['A', ' '] := by
        rw [show BranchLine.ofText? _ = some (.opens ['A', ' ']) by decide] at hline
        exact (BranchLine.opens.inj (Option.some.inj hline)).symm
      rw [hspells.unique hcondition] at hname
      exact ConditionToken.symbol.inj (List.mem_singleton.mp hname)
  | [first] =>
      obtain ⟨rfl, rfl, -⟩ := by simpa using hraws
      rw [show BranchLine.ofText? _ = some .switches by decide] at hline
      cases hline
  | [first, second] =>
      -- Behind the switch the first line does not select, as its condition is true.
      obtain ⟨rfl, rfl, rfl, -⟩ := by simpa using hraws
      have hopen : openLines (controlLines [['A'], ['A']] ["#if A // B".toList, "#else".toList]) =
          [⟨⟨0, 10⟩, ['A', ' '], 0, 1⟩] := rfl
      have hselects : OpenLine.Selects [['A'], ['A']] ⟨⟨0, 10⟩, ['A', ' '], 0, 1⟩ :=
        hselect _ (hopen ▸ List.mem_cons_self)
      have htrue : Condition.evaluate [['A'], ['A']] ['A', ' '] = .ok true :=
        Condition.evaluate_eq_ok_iff.mpr ⟨.last (.last (.symbol ['A'])), hcondition, rfl⟩
      exact absurd (hselects.mp htrue) (by decide)
  | _ :: _ :: _ :: _ => simp at hraws

/-- Both requests lead to the same lines and diagnostics. -/
theorem tokenize_of_same_symbols_by_option :
    (∀ name, branching.ReadsSymbol name →
      (branching.Defines name ↔ branchingByOption.Defines name)) ∧
    tokenize branchingByOption = tokenize branching := by
  have hagree : ∀ name, branching.ReadsSymbol name →
      (branching.Defines name ↔ branchingByOption.Defines name) := by
    intro name hname
    obtain rfl := readsSymbol_branching hname
    rw [← SourceRequest.mem_definedSymbols_iff, ← SourceRequest.mem_definedSymbols_iff]
    decide
  exact ⟨hagree, (tokenize_of_same_symbols branching branchingByOption rfl rfl).2 hagree⟩

end Literate
