import Literate.Proofs.Except
import Literate.Proofs.Script.ConditionReading
import Literate.Proofs.Script.ConditionSpelling

/-!
# The grammar of conditions

A derivation of the grammar

    disjunction := conjunction ('||' conjunction)*
    conjunction := operand ('&&' operand)*
    operand := '!' operand | '(' disjunction ')' | symbol

is a tree with the tokens that it derives and a truth value. Tokens have one derivation at most,
and reading finds it exactly if there is one.
-/

namespace Literate

namespace Condition

mutual

/-- A derivation of one or more conjunctions with the sign of a disjunction between them. -/
inductive Disjunction where
  | last (operand : Conjunction)
  | more (operand : Conjunction) (others : Disjunction)

/-- A derivation of one or more operands with the sign of a conjunction between them. -/
inductive Conjunction where
  | last (operand : Operand)
  | more (operand : Operand) (others : Conjunction)

inductive Operand where
  | symbol (name : Text)
  | not (operand : Operand)
  | group (inner : Disjunction)

end

mutual

/-- The tokens that a derivation derives. -/
def Disjunction.tokens : Disjunction → List ConditionToken
  | .last operand => operand.tokens
  | .more operand others => operand.tokens ++ .or :: others.tokens

def Conjunction.tokens : Conjunction → List ConditionToken
  | .last operand => operand.tokens
  | .more operand others => operand.tokens ++ .and :: others.tokens

def Operand.tokens : Operand → List ConditionToken
  | .symbol name => [.symbol name]
  | .not operand => .not :: operand.tokens
  | .group inner => .opening :: (inner.tokens ++ [.closing])

end

mutual

/-- The truth value of a derivation when a symbol is true exactly if it is defined. -/
def Disjunction.value (defined : List Text) : Disjunction → Bool
  | .last operand => operand.value defined
  | .more operand others => operand.value defined || others.value defined

def Conjunction.value (defined : List Text) : Conjunction → Bool
  | .last operand => operand.value defined
  | .more operand others => operand.value defined && others.value defined

def Operand.value (defined : List Text) : Operand → Bool
  | .symbol name => defined.contains name
  | .not operand => !operand.value defined
  | .group inner => inner.value defined

end

mutual

/-- The formula that a derivation stands for. -/
def Disjunction.formula : Disjunction → Formula
  | .last operand => operand.formula
  | .more operand others => .or operand.formula others.formula

def Conjunction.formula : Conjunction → Formula
  | .last operand => operand.formula
  | .more operand others => .and operand.formula others.formula

def Operand.formula : Operand → Formula
  | .symbol name => .symbol name
  | .not operand => .not operand.formula
  | .group inner => inner.formula

end

mutual

theorem Disjunction.eval_formula (defined : List Text) :
    ∀ d : Disjunction, d.formula.eval defined = d.value defined
  | .last operand => operand.eval_formula defined
  | .more operand others =>
      congrArg₂ or (operand.eval_formula defined) (others.eval_formula defined)

theorem Conjunction.eval_formula (defined : List Text) :
    ∀ c : Conjunction, c.formula.eval defined = c.value defined
  | .last operand => operand.eval_formula defined
  | .more operand others =>
      congrArg₂ and (operand.eval_formula defined) (others.eval_formula defined)

theorem Operand.eval_formula (defined : List Text) :
    ∀ operand : Operand, operand.formula.eval defined = operand.value defined
  | .symbol _ => rfl
  | .not operand => congrArg (!·) (operand.eval_formula defined)
  | .group inner => inner.eval_formula defined

end

/-! ## What reading does at each place of the grammar -/

/-- Reading from the front of some tokens finds a formula and leaves a rest. -/
def Reads (reader : (ts : List ConditionToken) → Except ConditionError (Reading Formula ts))
    (ts : List ConditionToken) (f : Formula) (rest : List ConditionToken) : Prop :=
  ∃ h, reader ts = .ok ⟨f, rest, h⟩

section Reads

variable {ts rest : List ConditionToken} {f : Formula}

theorem Reads.length_lt
    {reader : (ts : List ConditionToken) → Except ConditionError (Reading Formula ts)}
    (h : Reads reader ts f rest) : rest.length < ts.length :=
  h.choose

/-- A part is read that no sign follows, or a part with a sign behind it and then the others. -/
theorem reads_joined_iff {sign : ConditionToken} {join : Formula → Formula → Formula}
    {part whole : (ts : List ConditionToken) → Except ConditionError (Reading Formula ts)}
    (hwhole : ∀ ts, whole ts = readJoined sign join (part ts) fun more _ => whole more) :
    Reads whole ts f rest ↔ (Reads part ts f rest ∧ rest.head? ≠ some sign) ∨
      ∃ left right more, f = join left right ∧ Reads part ts left (sign :: more) ∧
        Reads whole more right rest := by
  constructor
  · rintro ⟨h, hread⟩
    rw [hwhole] at hread
    cases hpart : part ts with
    | error e =>
        rw [hpart, readJoined] at hread
        cases hread
    | ok first =>
        obtain ⟨left, behind, hshorter⟩ := first
        rw [hpart] at hread
        cases behind with
        | nil =>
            cases hread
            exact .inl ⟨⟨h, hpart⟩, by simp⟩
        | cons token more =>
            rw [readJoined] at hread
            by_cases htoken : token = sign
            · subst htoken
              rw [if_pos rfl] at hread
              cases hothers : whole more with
              | error e =>
                  rw [hothers] at hread
                  cases hread
              | ok others =>
                  rw [hothers] at hread
                  cases hread
                  exact .inr ⟨left, others.result, more, rfl, ⟨hshorter, hpart⟩,
                    others.shorter, hothers⟩
            · rw [if_neg htoken] at hread
              cases hread
              exact .inl ⟨⟨h, hpart⟩, by simpa using htoken⟩
  · rintro (⟨⟨h, hpart⟩, hhead⟩ | ⟨left, right, more, rfl, ⟨h, hpart⟩, h', hothers⟩)
    · refine ⟨h, ?_⟩
      rw [hwhole, hpart]
      cases rest with
      | nil => rw [readJoined]
      | cons token more => rw [readJoined, if_neg (by simpa using hhead)]
    · refine ⟨shorter_trans_behind h' h, ?_⟩
      rw [hwhole, hpart, readJoined, if_pos rfl, hothers]

theorem reads_disjunction_iff : Reads disjunction ts f rest ↔
    (Reads conjunction ts f rest ∧ rest.head? ≠ some .or) ∨
    ∃ left right more, f = .or left right ∧ Reads conjunction ts left (.or :: more) ∧
      Reads disjunction more right rest :=
  reads_joined_iff disjunction.eq_def

theorem reads_conjunction_iff : Reads conjunction ts f rest ↔
    (Reads operand ts f rest ∧ rest.head? ≠ some .and) ∨
    ∃ left right more, f = .and left right ∧ Reads operand ts left (.and :: more) ∧
      Reads conjunction more right rest :=
  reads_joined_iff conjunction.eq_def

theorem reads_operand_iff : Reads operand ts f rest ↔
    (∃ name, f = .symbol name ∧ ts = .symbol name :: rest) ∨
    (∃ inner more, f = .not inner ∧ ts = .not :: more ∧ Reads operand more inner rest) ∨
    ∃ more, ts = .opening :: more ∧ Reads disjunction more f (.closing :: rest) := by
  constructor
  · rintro ⟨h, hread⟩
    cases ts with
    | nil =>
        rw [operand] at hread
        cases hread
    | cons token more =>
        cases token with
        | symbol name =>
            rw [operand] at hread
            cases hread
            exact .inl ⟨name, rfl, rfl⟩
        | not =>
            rw [operand] at hread
            split at hread
            next => cases hread
            next inner rest' h' hinner =>
              cases hread
              exact .inr (.inl ⟨inner, more, rfl, rfl, _, hinner⟩)
        | opening =>
            rw [operand] at hread
            split at hread
            next => cases hread
            next inner rest' h' hinner =>
              cases hread
              exact .inr (.inr ⟨more, rfl, _, hinner⟩)
            next => cases hread
        | and | or | closing =>
            rw [operand] at hread
            · cases hread
            all_goals simp
  · rintro (⟨name, rfl, rfl⟩ | ⟨inner, more, rfl, rfl, h, hinner⟩ | ⟨more, rfl, h, hinner⟩)
    · refine ⟨by simp, ?_⟩
      rw [operand]
    · refine ⟨by simp; omega, ?_⟩
      rw [operand]
      simp only [hinner]
    · refine ⟨by simp at h ⊢; omega, ?_⟩
      rw [operand]
      simp only [hinner]

end Reads

/-! ## Reading finds derivations -/

mutual

/-- Behind a disjunction neither of the two signs may go on. -/
theorem Disjunction.reads (rest : List ConditionToken) (hor : rest.head? ≠ some .or)
    (hand : rest.head? ≠ some .and) :
    ∀ d : Disjunction, Reads disjunction (d.tokens ++ rest) d.formula rest
  | .last operand => reads_disjunction_iff.mpr (.inl ⟨operand.reads rest hand, hor⟩)
  | .more operand others => by
      refine reads_disjunction_iff.mpr (.inr ⟨_, _, _, rfl, ?_, others.reads rest hor hand⟩)
      have hfirst := operand.reads (.or :: (others.tokens ++ rest)) (by simp)
      rwa [← List.cons_append, ← List.append_assoc] at hfirst

theorem Conjunction.reads (rest : List ConditionToken) (hand : rest.head? ≠ some .and) :
    ∀ c : Conjunction, Reads conjunction (c.tokens ++ rest) c.formula rest
  | .last operand => reads_conjunction_iff.mpr (.inl ⟨operand.reads rest, hand⟩)
  | .more operand others => by
      refine reads_conjunction_iff.mpr (.inr ⟨_, _, _, rfl, ?_, others.reads rest hand⟩)
      have hfirst := operand.reads (.and :: (others.tokens ++ rest))
      rwa [← List.cons_append, ← List.append_assoc] at hfirst

theorem Operand.reads (rest : List ConditionToken) :
    ∀ u : Operand, Reads operand (u.tokens ++ rest) u.formula rest
  | .symbol name => reads_operand_iff.mpr (.inl ⟨name, rfl, rfl⟩)
  | .not u => reads_operand_iff.mpr (.inr (.inl ⟨_, _, rfl, rfl, u.reads rest⟩))
  | .group inner => by
      refine reads_operand_iff.mpr (.inr (.inr ⟨inner.tokens ++ .closing :: rest, ?_, ?_⟩))
      · simp [Operand.tokens]
      · exact inner.reads (.closing :: rest) (by simp) (by simp)

end

/-! ## What reading finds is derived -/

/-- A derivation of some level of the grammar derives the tokens in front of a rest, and stands
for a formula. -/
def Derives {α : Type} (tokens : α → List ConditionToken) (formula : α → Formula)
    (ts : List ConditionToken) (f : Formula) (rest : List ConditionToken) : Prop :=
  ∃ d, tokens d ++ rest = ts ∧ formula d = f

/-- Where the parts that are read are derived, what they are joined to is derived by the level
above. -/
theorem derives_of_reads_joined {α β : Type} {partTokens : α → List ConditionToken}
    {partFormula : α → Formula} {wholeTokens : β → List ConditionToken}
    {wholeFormula : β → Formula} {sign : ConditionToken} {join : Formula → Formula → Formula}
    {part whole : (ts : List ConditionToken) → Except ConditionError (Reading Formula ts)}
    (last : α → β) (more : α → β → β)
    (hlast : ∀ a, wholeTokens (last a) = partTokens a ∧ wholeFormula (last a) = partFormula a)
    (hmore : ∀ a b, wholeTokens (more a b) = partTokens a ++ sign :: wholeTokens b ∧
      wholeFormula (more a b) = join (partFormula a) (wholeFormula b))
    (hwhole : ∀ ts, whole ts = readJoined sign join (part ts) fun further _ => whole further)
    {ts rest : List ConditionToken} {f : Formula}
    (hpart : ∀ us f rest, us.length ≤ ts.length → Reads part us f rest →
      Derives partTokens partFormula us f rest)
    (h : Reads whole ts f rest) : Derives wholeTokens wholeFormula ts f rest := by
  rcases (reads_joined_iff hwhole).mp h with
    ⟨hfirst, -⟩ | ⟨left, right, further, rfl, hfirst, hothers⟩
  · obtain ⟨a, htokens, hformula⟩ := hpart ts f rest (Nat.le_refl _) hfirst
    exact ⟨last a, (hlast a).1 ▸ htokens, (hlast a).2 ▸ hformula⟩
  · have hlt : further.length < ts.length := shorter_behind hfirst.length_lt
    obtain ⟨a, htokens, hformula⟩ := hpart ts left _ (Nat.le_refl _) hfirst
    obtain ⟨b, htokens', hformula'⟩ := derives_of_reads_joined last more hlast hmore hwhole
      (fun us f rest hle => hpart us f rest (Nat.le_trans hle (Nat.le_of_lt hlt))) hothers
    refine ⟨more a b, ?_, ?_⟩
    · rw [(hmore a b).1, List.append_assoc, List.cons_append, htokens', htokens]
    · rw [(hmore a b).2, hformula, hformula']
termination_by ts.length

mutual

theorem Reads.derives_disjunction {ts rest : List ConditionToken} {f : Formula}
    (h : Reads disjunction ts f rest) :
    Derives Disjunction.tokens Disjunction.formula ts f rest := by
  apply derives_of_reads_joined .last .more (fun _ => ⟨rfl, rfl⟩) (fun _ _ => ⟨rfl, rfl⟩)
    disjunction.eq_def _ h
  intro us f rest hle hread
  exact hread.derives_conjunction
termination_by (ts.length, 2)
decreasing_by exact Prod.Lex.right' _ hle (by decide)

theorem Reads.derives_conjunction {ts rest : List ConditionToken} {f : Formula}
    (h : Reads conjunction ts f rest) :
    Derives Conjunction.tokens Conjunction.formula ts f rest := by
  apply derives_of_reads_joined .last .more (fun _ => ⟨rfl, rfl⟩) (fun _ _ => ⟨rfl, rfl⟩)
    conjunction.eq_def _ h
  intro us f rest hle hread
  exact hread.derives_operand
termination_by (ts.length, 1)
decreasing_by exact Prod.Lex.right' _ hle (by decide)

theorem Reads.derives_operand {ts rest : List ConditionToken} {f : Formula}
    (h : Reads operand ts f rest) : Derives Operand.tokens Operand.formula ts f rest := by
  obtain ⟨name, rfl, hts⟩ | ⟨inner, more, rfl, hts, hinner⟩ | ⟨more, hts, hinner⟩ :=
    reads_operand_iff.mp h
  · exact ⟨.symbol name, hts.symm, rfl⟩
  · obtain ⟨operand, htokens, hformula⟩ := hinner.derives_operand
    refine ⟨.not operand, ?_, congrArg Formula.not hformula⟩
    rw [Operand.tokens, List.cons_append, htokens, hts]
  · obtain ⟨inner, htokens, hformula⟩ := hinner.derives_disjunction
    refine ⟨.group inner, ?_, hformula⟩
    rw [Operand.tokens, List.cons_append, List.append_assoc, List.singleton_append, htokens, hts]
termination_by (ts.length, 0)
decreasing_by
  · exact Prod.Lex.left _ _ (by simp [hts])
  · exact Prod.Lex.left _ _ (by simp [hts])

end

/-! ## Tokens have one derivation -/

mutual

/-- The end of a disjunction is found, when neither of the two signs goes on behind it. -/
theorem Disjunction.eq_of_append {rest rest' : List ConditionToken}
    (hor : rest.head? ≠ some .or) (hand : rest.head? ≠ some .and)
    (hor' : rest'.head? ≠ some .or) (hand' : rest'.head? ≠ some .and) :
    ∀ d d' : Disjunction, d.tokens ++ rest = d'.tokens ++ rest' → d = d' ∧ rest = rest'
  | .last c, .last c', h => by
      obtain ⟨rfl, hrest⟩ := c.eq_of_append hand hand' c' h
      exact ⟨rfl, hrest⟩
  | .last c, .more c' others', h => by
      rw [Disjunction.tokens, Disjunction.tokens, List.append_assoc, List.cons_append] at h
      have hrest := (c.eq_of_append hand (by simp) c' h).2
      simp [hrest] at hor
  | .more c others, .last c', h => by
      rw [Disjunction.tokens, Disjunction.tokens, List.append_assoc, List.cons_append] at h
      have hrest := (c.eq_of_append (by simp) hand' c' h).2
      simp [← hrest] at hor'
  | .more c others, .more c' others', h => by
      rw [Disjunction.tokens, Disjunction.tokens, List.append_assoc, List.cons_append,
        List.append_assoc, List.cons_append] at h
      obtain ⟨rfl, hothers⟩ := c.eq_of_append (by simp) (by simp) c' h
      obtain ⟨rfl, hrest⟩ :=
        others.eq_of_append hor hand hor' hand' others' (List.cons.inj hothers).2
      exact ⟨rfl, hrest⟩

theorem Conjunction.eq_of_append {rest rest' : List ConditionToken}
    (hand : rest.head? ≠ some .and) (hand' : rest'.head? ≠ some .and) :
    ∀ c c' : Conjunction, c.tokens ++ rest = c'.tokens ++ rest' → c = c' ∧ rest = rest'
  | .last u, .last u', h => by
      obtain ⟨rfl, hrest⟩ := u.eq_of_append u' h
      exact ⟨rfl, hrest⟩
  | .last u, .more u' others', h => by
      rw [Conjunction.tokens, Conjunction.tokens, List.append_assoc, List.cons_append] at h
      have hrest := (u.eq_of_append u' h).2
      simp [hrest] at hand
  | .more u others, .last u', h => by
      rw [Conjunction.tokens, Conjunction.tokens, List.append_assoc, List.cons_append] at h
      have hrest := (u.eq_of_append u' h).2
      simp [← hrest] at hand'
  | .more u others, .more u' others', h => by
      rw [Conjunction.tokens, Conjunction.tokens, List.append_assoc, List.cons_append,
        List.append_assoc, List.cons_append] at h
      obtain ⟨rfl, hothers⟩ := u.eq_of_append u' h
      obtain ⟨rfl, hrest⟩ := others.eq_of_append hand hand' others' (List.cons.inj hothers).2
      exact ⟨rfl, hrest⟩

theorem Operand.eq_of_append {rest rest' : List ConditionToken} :
    ∀ u u' : Operand, u.tokens ++ rest = u'.tokens ++ rest' → u = u' ∧ rest = rest'
  | .symbol name, .symbol name', h => by
      cases h
      exact ⟨rfl, rfl⟩
  | .not u, .not u', h => by
      obtain ⟨rfl, hrest⟩ := u.eq_of_append u' (List.cons.inj h).2
      exact ⟨rfl, hrest⟩
  | .group inner, .group inner', h => by
      have htail : inner.tokens ++ [.closing] ++ rest = inner'.tokens ++ [.closing] ++ rest' :=
        (List.cons.inj h).2
      rw [List.append_assoc, List.append_assoc] at htail
      obtain ⟨rfl, hrest⟩ :=
        inner.eq_of_append (by simp) (by simp) (by simp) (by simp) inner' htail
      exact ⟨rfl, (List.cons.inj hrest).2⟩
  | .symbol _, .not _, h | .symbol _, .group _, h | .not _, .symbol _, h | .not _, .group _, h
  | .group _, .symbol _, h | .group _, .not _, h => by cases h

end

theorem Disjunction.eq_of_tokens_eq {d d' : Disjunction} (h : d.tokens = d'.tokens) : d = d' := by
  have happend : d.tokens ++ [] = d'.tokens ++ [] := by rw [h]
  exact (d.eq_of_append (by simp) (by simp) (by simp) (by simp) d' happend).1

/-! ## Reading a condition -/

mutual

theorem Disjunction.tokens_ne_nil : ∀ d : Disjunction, d.tokens ≠ []
  | .last c => c.tokens_ne_nil
  | .more c _ => List.append_ne_nil_of_left_ne_nil c.tokens_ne_nil _

theorem Conjunction.tokens_ne_nil : ∀ c : Conjunction, c.tokens ≠ []
  | .last u => u.tokens_ne_nil
  | .more u _ => List.append_ne_nil_of_left_ne_nil u.tokens_ne_nil _

theorem Operand.tokens_ne_nil : ∀ u : Operand, u.tokens ≠ []
  | .symbol _ => List.cons_ne_nil _ _
  | .not _ => List.cons_ne_nil _ _
  | .group _ => List.cons_ne_nil _ _

end

theorem read_eq_ok_iff {condition : Text} {f : Formula} : read condition = .ok f ↔
    ∃ ts, tokens condition = .ok ts ∧ ts ≠ [] ∧ Reads disjunction ts f [] := by
  unfold read Reads
  constructor
  · intro h
    split at h
    next => cases h
    next => cases h
    next ts hne htokens =>
      split at h
      next => cases h
      next formula hlt hread =>
        cases h
        exact ⟨ts, htokens, hne, hlt, hread⟩
      next => cases h
  · rintro ⟨ts, htokens, hne, hlt, hread⟩
    cases ts with
    | nil => exact absurd rfl hne
    | cons token more => simp only [htokens, hread]

/-- A condition is read exactly if its tokens have a derivation, and as the formula of that. -/
theorem read_eq_ok_iff_derives {condition : Text} {f : Formula} : read condition = .ok f ↔
    ∃ d : Disjunction, Spells d.tokens condition ∧ d.formula = f := by
  rw [read_eq_ok_iff]
  constructor
  · rintro ⟨ts, htokens, -, hreads⟩
    obtain ⟨d, rfl, hformula⟩ := hreads.derives_disjunction
    rw [List.append_nil] at htokens
    exact ⟨d, tokens_eq_ok_iff.mp htokens, hformula⟩
  · rintro ⟨d, hspells, rfl⟩
    refine ⟨d.tokens, tokens_eq_ok_iff.mpr hspells, d.tokens_ne_nil, ?_⟩
    have hreads := d.reads [] (by simp) (by simp)
    rwa [List.append_nil] at hreads

theorem evaluate_eq_ok_iff {defined : List Text} {condition : Text} {value : Bool} :
    evaluate defined condition = .ok value ↔
      ∃ d : Disjunction, Spells d.tokens condition ∧ d.value defined = value := by
  rw [evaluate_eq]
  constructor
  · intro h
    obtain ⟨f, hread, hvalue⟩ := exists_of_map_eq_ok h
    obtain ⟨d, hspells, rfl⟩ := read_eq_ok_iff_derives.mp hread
    exact ⟨d, hspells, (d.eval_formula defined).symm.trans hvalue⟩
  · rintro ⟨d, hspells, rfl⟩
    rw [read_eq_ok_iff_derives.mpr ⟨d, hspells, rfl⟩, ← d.eval_formula defined]
    rfl

end Condition

end Literate
