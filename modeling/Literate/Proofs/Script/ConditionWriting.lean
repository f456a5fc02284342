import Literate.Proofs.Script.ConditionGrammar

/-!
# Writing conditions

A formula is written with parentheses where its operators need them and with any blanks between
the tokens. What is written has a derivation, so that evaluating it gives the truth value of the
formula.
-/

namespace Literate

namespace Condition

/-! ## Joining derivations -/

/-- A disjunction of all the operands of two. -/
def Disjunction.append : Disjunction → Disjunction → Disjunction
  | .last c, e => .more c e
  | .more c others, e => .more c (others.append e)

def Conjunction.append : Conjunction → Conjunction → Conjunction
  | .last u, e => .more u e
  | .more u others, e => .more u (others.append e)

theorem Disjunction.tokens_append :
    ∀ d e : Disjunction, (d.append e).tokens = d.tokens ++ .or :: e.tokens
  | .last _, _ => rfl
  | .more c others, e => by
      simp [Disjunction.append, Disjunction.tokens, others.tokens_append e]

theorem Conjunction.tokens_append :
    ∀ c e : Conjunction, (c.append e).tokens = c.tokens ++ .and :: e.tokens
  | .last _, _ => rfl
  | .more u others, e => by
      simp [Conjunction.append, Conjunction.tokens, others.tokens_append e]

theorem Disjunction.value_append (defined : List Text) :
    ∀ d e : Disjunction, (d.append e).value defined = (d.value defined || e.value defined)
  | .last _, _ => rfl
  | .more c others, e => by
      simp [Disjunction.append, Disjunction.value, others.value_append defined e, Bool.or_assoc]

theorem Conjunction.value_append (defined : List Text) :
    ∀ c e : Conjunction, (c.append e).value defined = (c.value defined && e.value defined)
  | .last _, _ => rfl
  | .more u others, e => by
      simp [Conjunction.append, Conjunction.value, others.value_append defined e, Bool.and_assoc]

end Condition

/-! ## The tokens of a formula -/

/-- The places of the grammar, from the one where every operator may stand to the one where none
may without parentheses. -/
inductive Precedence where
  | disjunction
  | conjunction
  | operand
deriving DecidableEq

def ConditionToken.encloseIf (needed : Prop) [Decidable needed] (ts : List ConditionToken) :
    List ConditionToken :=
  if needed then .opening :: (ts ++ [.closing]) else ts

namespace Formula

/-- The tokens of a formula at some place, with the parentheses that its operators need there. -/
def tokensAt : Formula → Precedence → List ConditionToken
  | .symbol name, _ => [.symbol name]
  | .not operand, _ => .not :: operand.tokensAt .operand
  | .and left right, place =>
      ConditionToken.encloseIf (place = .operand)
        (left.tokensAt .conjunction ++ .and :: right.tokensAt .conjunction)
  | .or left right, place =>
      ConditionToken.encloseIf (place ≠ .disjunction)
        (left.tokensAt .disjunction ++ .or :: right.tokensAt .disjunction)

def tokens (f : Formula) : List ConditionToken :=
  f.tokensAt .disjunction

/-- A formula over names that conditions can have. -/
def IsSound : Formula → Prop
  | .symbol name => (ConditionToken.symbol name).IsSound
  | .not operand => operand.IsSound
  | .and left right | .or left right => left.IsSound ∧ right.IsSound

instance IsSound.decidable : DecidablePred IsSound
  | .symbol name => inferInstanceAs (Decidable (ConditionToken.symbol name).IsSound)
  | .not operand => IsSound.decidable operand
  | .and left right | .or left right =>
      @instDecidableAnd _ _ (IsSound.decidable left) (IsSound.decidable right)

end Formula

theorem ConditionToken.isSound_encloseIf {needed : Prop} [Decidable needed]
    {ts : List ConditionToken} (h : ∀ token ∈ ts, token.IsSound) :
    ∀ token ∈ encloseIf needed ts, token.IsSound := by
  unfold encloseIf
  split
  · refine List.forall_mem_cons.mpr ⟨trivial, List.forall_mem_append.mpr ⟨h, ?_⟩⟩
    exact List.forall_mem_singleton.mpr trivial
  · exact h

namespace Formula

/-- At every place the tokens of a formula over such names are sound. -/
theorem IsSound.tokensAt {f : Formula} (hf : f.IsSound) (place : Precedence) :
    ∀ token ∈ f.tokensAt place, token.IsSound := by
  induction f generalizing place with
  | symbol name => exact List.forall_mem_singleton.mpr hf
  | not operand ih => exact List.forall_mem_cons.mpr ⟨trivial, ih hf .operand⟩
  | and left right ihleft ihright =>
      apply ConditionToken.isSound_encloseIf
      refine List.forall_mem_append.mpr ⟨ihleft hf.1 _, ?_⟩
      exact List.forall_mem_cons.mpr ⟨trivial, ihright hf.2 _⟩
  | or left right ihleft ihright =>
      apply ConditionToken.isSound_encloseIf
      refine List.forall_mem_append.mpr ⟨ihleft hf.1 _, ?_⟩
      exact List.forall_mem_cons.mpr ⟨trivial, ihright hf.2 _⟩

open Condition in
/-- At each place the tokens of a formula have a derivation with the truth value of it. -/
structure IsDerived (f : Formula) : Prop where
  disjunction : ∃ d : Disjunction, d.tokens = f.tokensAt .disjunction ∧
    ∀ defined, d.value defined = f.eval defined
  conjunction : ∃ c : Conjunction, c.tokens = f.tokensAt .conjunction ∧
    ∀ defined, c.value defined = f.eval defined
  operand : ∃ u : Operand, u.tokens = f.tokensAt .operand ∧
    ∀ defined, u.value defined = f.eval defined

theorem isDerived (f : Formula) : f.IsDerived := by
  induction f with
  | symbol name =>
      exact {
        disjunction := ⟨.last (.last (.symbol name)), rfl, fun _ => rfl⟩
        conjunction := ⟨.last (.symbol name), rfl, fun _ => rfl⟩
        operand := ⟨.symbol name, rfl, fun _ => rfl⟩
      }
  | not operand ih =>
      obtain ⟨u, htokens, hvalue⟩ := ih.operand
      have htokens' : ∀ place, (Condition.Operand.not u).tokens = (not operand).tokensAt place :=
        fun _ => congrArg (ConditionToken.not :: ·) htokens
      have hvalue' : ∀ defined, (Condition.Operand.not u).value defined =
          (not operand).eval defined := fun defined => congrArg (!·) (hvalue defined)
      exact {
        disjunction := ⟨.last (.last (.not u)), htokens' _, hvalue'⟩
        conjunction := ⟨.last (.not u), htokens' _, hvalue'⟩
        operand := ⟨.not u, htokens' _, hvalue'⟩
      }
  | and left right ihleft ihright =>
      obtain ⟨c, htokens, hvalue⟩ := ihleft.conjunction
      obtain ⟨e, htokens', hvalue'⟩ := ihright.conjunction
      have happend : (c.append e).tokens = (and left right).tokensAt .conjunction := by
        rw [c.tokens_append, htokens, htokens']
        rfl
      have hand : ∀ defined, (c.append e).value defined = (and left right).eval defined := by
        intro defined
        rw [c.value_append, hvalue, hvalue']
        rfl
      have henclosed := congrArg (ConditionToken.encloseIf True) happend
      exact {
        disjunction := ⟨.last (c.append e), happend, hand⟩
        conjunction := ⟨c.append e, happend, hand⟩
        operand := ⟨.group (.last (c.append e)), henclosed, hand⟩
      }
  | or left right ihleft ihright =>
      obtain ⟨d, htokens, hvalue⟩ := ihleft.disjunction
      obtain ⟨e, htokens', hvalue'⟩ := ihright.disjunction
      have happend : (d.append e).tokens = (or left right).tokensAt .disjunction := by
        rw [d.tokens_append, htokens, htokens']
        rfl
      have hor : ∀ defined, (d.append e).value defined = (or left right).eval defined := by
        intro defined
        rw [d.value_append, hvalue, hvalue']
        rfl
      have henclosed := congrArg (ConditionToken.encloseIf True) happend
      exact {
        disjunction := ⟨d.append e, happend, hor⟩
        conjunction := ⟨.last (.group (d.append e)), henclosed, hor⟩
        operand := ⟨.group (d.append e), henclosed, hor⟩
      }

end Formula

/-! ## Finding what was written -/

namespace Condition

mutual

/-- Derived tokens have no two symbols as neighbours, nor one beside what follows. -/
theorem Disjunction.separated {rest : List ConditionToken} (hrest : Separated rest)
    (hhead : ∀ token ∈ rest.head?, ¬ token.IsSymbol) :
    ∀ d : Disjunction, Separated (d.tokens ++ rest)
  | .last c => c.separated hrest hhead
  | .more c others => by
      rw [Disjunction.tokens, List.append_assoc, List.cons_append]
      have hothers : Separated (.or :: (others.tokens ++ rest)) :=
        (others.separated hrest hhead).cons fun _ _ h => h.1
      exact c.separated hothers (by simp [ConditionToken.IsSymbol])

theorem Conjunction.separated {rest : List ConditionToken} (hrest : Separated rest)
    (hhead : ∀ token ∈ rest.head?, ¬ token.IsSymbol) :
    ∀ c : Conjunction, Separated (c.tokens ++ rest)
  | .last u => u.separated hrest hhead
  | .more u others => by
      rw [Conjunction.tokens, List.append_assoc, List.cons_append]
      have hothers : Separated (.and :: (others.tokens ++ rest)) :=
        (others.separated hrest hhead).cons fun _ _ h => h.1
      exact u.separated hothers (by simp [ConditionToken.IsSymbol])

theorem Operand.separated {rest : List ConditionToken} (hrest : Separated rest)
    (hhead : ∀ token ∈ rest.head?, ¬ token.IsSymbol) :
    ∀ u : Operand, Separated (u.tokens ++ rest)
  | .symbol _ => hrest.cons fun token htoken h => hhead token htoken h.2
  | .not u => (u.separated hrest hhead).cons fun _ _ h => h.1
  | .group inner => by
      rw [Operand.tokens, List.cons_append, List.append_assoc]
      have hclosing : Separated ([.closing] ++ rest) := hrest.cons fun _ _ h => h.1
      have hinner := inner.separated hclosing (by simp [ConditionToken.IsSymbol])
      exact hinner.cons fun _ _ h => h.1

end

end Condition

/-- A formula is found again, with its truth value, however its tokens are spaced. -/
theorem Formula.evaluate_of_spaced {f : Formula} (hf : f.IsSound) {condition : Text}
    (h : Spaced f.tokens condition) (defined : List Text) :
    Condition.evaluate defined condition = .ok (f.eval defined) := by
  obtain ⟨d, htokens, hvalue⟩ := f.isDerived.disjunction
  have hnil : Separated [] := .nil
  have hseparated := d.separated hnil (by simp)
  rw [List.append_nil, htokens] at hseparated
  refine Condition.evaluate_eq_ok_iff.mpr ⟨d, ?_, hvalue defined⟩
  rw [htokens]
  exact h.spells (hf.tokensAt .disjunction) hseparated

/-- A condition is accepted exactly if it spells the tokens of a derivation. There is one at most,
and the condition has its truth value. Errors do not depend on what is defined, and a formula has
its truth value however its tokens are spaced. -/
theorem Condition.evaluate_iff_derives (defined : List Text) (condition : Text) :
    (∀ value, evaluate defined condition = .ok value ↔
      ∃ d : Disjunction, Spells d.tokens condition ∧ d.value defined = value) ∧
    (∀ d d' : Disjunction, Spells d.tokens condition → Spells d'.tokens condition → d = d') ∧
    (∀ other error,
      evaluate defined condition = .error error ↔ evaluate other condition = .error error) ∧
    ∀ f : Formula, f.IsSound → Spaced f.tokens condition →
      evaluate defined condition = .ok (f.eval defined) := by
  refine ⟨?_, ?_, ?_, ?_⟩
  · intro value
    exact evaluate_eq_ok_iff
  · intro d d' h h'
    exact Disjunction.eq_of_tokens_eq (h.unique h')
  · intro other error
    rw [evaluate_eq, evaluate_eq, map_eq_error_iff, map_eq_error_iff]
  · intro f hf h
    exact f.evaluate_of_spaced hf h defined

/-- The formula `!(A && B) || C` with a tab and no other blank but one has one derivation, and a
condition of which nothing is written is rejected. -/
theorem Condition.evaluate_negated_group :
    evaluate [['C']] ['!', '(', 'A', '&', '&', ' ', 'B', ')', '|', '|', '\t', 'C'] = .ok true ∧
    (∃! d : Disjunction,
      Spells d.tokens ['!', '(', 'A', '&', '&', ' ', 'B', ')', '|', '|', '\t', 'C']) ∧
    evaluate [['C']] [] = .error .missing := by
  have hsound : (Formula.or (.not (.and (.symbol ['A']) (.symbol ['B'])))
      (.symbol ['C'])).IsSound := by
    decide
  have hspaced : Spaced (Formula.or (.not (.and (.symbol ['A']) (.symbol ['B'])))
      (.symbol ['C'])).tokens
      ['!', '(', 'A', '&', '&', ' ', 'B', ')', '|', '|', '\t', 'C'] := by
    refine .token (.token (.token (.token (.blank (by decide) (.token (.token (.token ?_)))))))
    exact .blank (by decide) (.token .nil)
  obtain ⟨hderives, hunique, -, hwritten⟩ := evaluate_iff_derives [['C']]
    ['!', '(', 'A', '&', '&', ' ', 'B', ')', '|', '|', '\t', 'C']
  have hvalue := hwritten _ hsound hspaced
  have hmissing : evaluate [] [] = .error .missing := by
    rw [evaluate, tokens]
  refine ⟨hvalue, ?_, ((evaluate_iff_derives [] []).2.2.1 [['C']] .missing).mp hmissing⟩
  obtain ⟨d, hspells, -⟩ := (hderives true).mp hvalue
  exact ⟨d, hspells, fun d' hspells' => hunique d' d hspells' hspells⟩

end Literate
