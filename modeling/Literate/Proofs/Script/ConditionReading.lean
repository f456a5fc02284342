import Literate.Script.Condition

/-!
# Reading a condition and then evaluating it

A condition is evaluated while it is read. It could as well be read into a formula first, which
does not look at the defined symbols. The signs are then read from the right instead of the left,
so a disjunction is a conjunction and a further disjunction. This file shows that the result is
the same: no part of a condition is left out because the others decide the value.
-/

namespace Literate

inductive Formula where
  | symbol (name : Text)
  | not (operand : Formula)
  | and (left right : Formula)
  | or (left right : Formula)
deriving DecidableEq

/-- The truth value of a formula when a symbol is true exactly if it is defined. -/
def Formula.eval (defined : List Text) : Formula → Bool
  | .symbol name => defined.contains name
  | .not operand => !operand.eval defined
  | .and left right => left.eval defined && right.eval defined
  | .or left right => left.eval defined || right.eval defined

namespace Condition

/-! ## Reading -/

/-- What was read first and, if a sign follows it, all that is read behind the sign. -/
def readJoined (sign : ConditionToken) (join : Formula → Formula → Formula)
    {ts : List ConditionToken} (first : Except ConditionError (Reading Formula ts))
    (others : (more : List ConditionToken) → more.length < ts.length →
      Except ConditionError (Reading Formula more)) :
    Except ConditionError (Reading Formula ts) :=
  match first with
  | .error e => .error e
  | .ok ⟨left, [], h⟩ => .ok ⟨left, [], h⟩
  | .ok ⟨left, token :: more, h⟩ =>
      if token = sign then
        match others more (shorter_behind h) with
        | .error e => .error e
        | .ok ⟨right, rest, h'⟩ =>
            .ok ⟨join left right, rest, shorter_trans_behind h' h⟩
      else .ok ⟨left, token :: more, h⟩

mutual

def disjunction (ts : List ConditionToken) : Except ConditionError (Reading Formula ts) :=
  readJoined .or .or (conjunction ts) fun more _ => disjunction more
termination_by (ts.length, 2)
decreasing_by
  · exact Prod.Lex.right _ (by decide)
  · exact Prod.Lex.left _ _ (by assumption)

def conjunction (ts : List ConditionToken) : Except ConditionError (Reading Formula ts) :=
  readJoined .and .and (operand ts) fun more _ => conjunction more
termination_by (ts.length, 1)
decreasing_by
  · exact Prod.Lex.right _ (by decide)
  · exact Prod.Lex.left _ _ (by assumption)

/-- Read an operand: a symbol, a negation or a group. -/
def operand : (ts : List ConditionToken) → Except ConditionError (Reading Formula ts)
  | [] => .error .endsEarly
  | .symbol name :: rest => .ok ⟨.symbol name, rest, Nat.lt_succ_self _⟩
  | .not :: more =>
      match operand more with
      | .error e => .error e
      | .ok ⟨inner, rest, h⟩ => .ok ⟨.not inner, rest, Nat.lt_succ_of_lt h⟩
  | .opening :: more =>
      match disjunction more with
      | .error e => .error e
      | .ok ⟨inner, .closing :: rest, h⟩ =>
          .ok ⟨inner, rest, Nat.lt_succ_of_lt (shorter_behind h)⟩
      | .ok _ => .error .unclosedGroup
  | token :: _ => .error (.unexpected token)
termination_by ts => (ts.length, 0)
decreasing_by
  · exact Prod.Lex.left _ _ (Nat.lt_succ_self _)
  · exact Prod.Lex.left _ _ (Nat.lt_succ_self _)

end

def read (condition : Text) : Except ConditionError Formula :=
  match tokens condition with
  | .error e => .error e
  | .ok [] => .error .missing
  | .ok ts =>
      match disjunction ts with
      | .error e => .error e
      | .ok ⟨formula, [], _⟩ => .ok formula
      | .ok ⟨_, token :: _, _⟩ => .error (.unexpected token)

/-! ## Evaluating what was read -/

namespace Reading

/-- The truth value of a formula that was read. -/
def eval (defined : List Text) {ts : List ConditionToken} (reading : Reading Formula ts) :
    Reading Bool ts :=
  ⟨reading.result.eval defined, reading.rest, reading.shorter⟩

/-- What a reading holds, whatever tokens it was read from. -/
def parts {α : Type} {ts : List ConditionToken} (reading : Reading α ts) :
    α × List ConditionToken :=
  (reading.result, reading.rest)

theorem map_parts_inj {α : Type} {ts : List ConditionToken}
    {first second : Except ConditionError (Reading α ts)}
    (h : first.map parts = second.map parts) : first = second := by
  cases first with
  | error e =>
      cases second with
      | error e' => exact congrArg Except.error (Except.error.inj h)
      | ok reading' => cases h
  | ok reading =>
      cases second with
      | error e' => cases h
      | ok reading' =>
          obtain ⟨result, rest, hshorter⟩ := reading
          obtain ⟨result', rest', hshorter'⟩ := reading'
          cases h
          rfl

end Reading

/-- The value of a part and of all that are joined to it, from the left. -/
def evalJoined (sign : ConditionToken) (join : Bool → Bool → Bool)
    (next : (ts : List ConditionToken) → Except ConditionError (Reading Bool ts))
    (ts : List ConditionToken) : Except ConditionError (Reading Bool ts) :=
  match next ts with
  | .error e => .error e
  | .ok first => joinWhile sign join (fun more _ => next more) first

section Joined

variable {sign : ConditionToken} {join : Bool → Bool → Bool}
  {next : (ts : List ConditionToken) → Except ConditionError (Reading Bool ts)}

/-- A value in front may as well be joined after all behind it are. -/
theorem joinWhile_join (hassoc : ∀ a b c, join (join a b) c = join a (join b c)) (front : Bool)
    {ts us : List ConditionToken} :
    ∀ (value : Bool) (rest : List ConditionToken) (h : rest.length < ts.length)
      (h' : rest.length < us.length),
      (joinWhile sign join (fun more _ => next more)
          (⟨join front value, rest, h⟩ : Reading Bool ts)).map Reading.parts =
        ((joinWhile sign join (fun more _ => next more)
          (⟨value, rest, h'⟩ : Reading Bool us)).map Reading.parts).map
          (Prod.map (join front) id)
  | value, [], h, h' => by
      rw [joinWhile, joinWhile]
      rfl
  | value, token :: more, h, h' => by
      rw [joinWhile, joinWhile]
      by_cases htoken : token = sign
      · rw [if_pos htoken, if_pos htoken]
        cases next more with
        | error e => rfl
        | ok reading =>
            obtain ⟨other, rest, hshorter⟩ := reading
            -- The next round of the loop starts from values of which the same can be said.
            simp only [hassoc]
            exact joinWhile_join hassoc front (join value other) rest _ _
      · rw [if_neg htoken, if_neg htoken]
        rfl
termination_by _ rest => rest.length
decreasing_by exact Nat.lt_succ_of_lt hshorter

theorem evalJoined_of_sign (hassoc : ∀ a b c, join (join a b) c = join a (join b c))
    {left : Bool} {token : ConditionToken} {ts more : List ConditionToken}
    {hshorter : (token :: more).length < ts.length}
    (hleft : next ts = .ok ⟨left, token :: more, hshorter⟩) (htoken : token = sign) :
    (evalJoined sign join next ts).map Reading.parts =
      ((evalJoined sign join next more).map Reading.parts).map (Prod.map (join left) id) := by
  rw [evalJoined, hleft, evalJoined]
  simp only
  rw [joinWhile, if_pos htoken]
  cases next more with
  | error e => rfl
  | ok reading => exact joinWhile_join hassoc left reading.result reading.rest _ reading.shorter

/-- Joining values from the left gives what the formula that is read from the right evaluates to,
if each part gives what its formula does. -/
theorem evalJoined_eq {defined : List Text} {joinFormula : Formula → Formula → Formula}
    {part whole : (ts : List ConditionToken) → Except ConditionError (Reading Formula ts)}
    (hassoc : ∀ a b c, join (join a b) c = join a (join b c))
    (hjoin : ∀ f g, (joinFormula f g).eval defined = join (f.eval defined) (g.eval defined))
    (hwhole : ∀ ts, whole ts = readJoined sign joinFormula (part ts) fun more _ => whole more)
    (ts : List ConditionToken)
    (hnext : ∀ more, more.length ≤ ts.length →
      next more = (part more).map (Reading.eval defined)) :
    evalJoined sign join next ts = (whole ts).map (Reading.eval defined) := by
  have hfirst := hnext ts (Nat.le_refl _)
  rw [hwhole ts]
  cases hpart : part ts with
  | error e =>
      rw [hpart] at hfirst
      rw [evalJoined, hfirst]
      rfl
  | ok first =>
      obtain ⟨left, rest, hshorter⟩ := first
      rw [hpart] at hfirst
      cases rest with
      | nil =>
          rw [evalJoined, hfirst]
          simp only [Except.map, Reading.eval, readJoined]
          rw [joinWhile]
      | cons token more =>
          by_cases htoken : token = sign
          · have hlt : more.length < ts.length := shorter_behind hshorter
            have ih := evalJoined_eq hassoc hjoin hwhole more
              fun further hle => hnext further (Nat.le_trans hle (Nat.le_of_lt hlt))
            apply Reading.map_parts_inj
            rw [evalJoined_of_sign hassoc hfirst htoken, ih, readJoined, if_pos htoken]
            cases whole more with
            | error e => rfl
            | ok others => exact congrArg (fun v => Except.ok (v, others.rest)) (hjoin _ _).symm
          · rw [evalJoined, hfirst]
            simp only [Except.map, Reading.eval, readJoined]
            rw [joinWhile, if_neg htoken, if_neg htoken]
termination_by ts.length

end Joined

mutual

theorem evalDisjunction_eq (defined : List Text) (ts : List ConditionToken) :
    evalDisjunction defined ts = (disjunction ts).map (Reading.eval defined) := by
  have hparts : ∀ more, more.length ≤ ts.length →
      evalConjunction defined more = (conjunction more).map (Reading.eval defined) :=
    fun more hle => evalConjunction_eq defined more
  have hjoined : evalJoined .or (· || ·) (evalConjunction defined) ts =
      (disjunction ts).map (Reading.eval defined) :=
    evalJoined_eq Bool.or_assoc (fun _ _ => rfl) disjunction.eq_def ts hparts
  rw [evalDisjunction]
  exact hjoined
termination_by (ts.length, 2)
decreasing_by exact Prod.Lex.right' _ hle (by decide)

theorem evalConjunction_eq (defined : List Text) (ts : List ConditionToken) :
    evalConjunction defined ts = (conjunction ts).map (Reading.eval defined) := by
  have hparts : ∀ more, more.length ≤ ts.length →
      evalOperand defined more = (operand more).map (Reading.eval defined) :=
    fun more hle => evalOperand_eq defined more
  have hjoined : evalJoined .and (· && ·) (evalOperand defined) ts =
      (conjunction ts).map (Reading.eval defined) :=
    evalJoined_eq Bool.and_assoc (fun _ _ => rfl) conjunction.eq_def ts hparts
  rw [evalConjunction]
  exact hjoined
termination_by (ts.length, 1)
decreasing_by exact Prod.Lex.right' _ hle (by decide)

theorem evalOperand_eq (defined : List Text) :
    ∀ ts, evalOperand defined ts = (operand ts).map (Reading.eval defined)
  | [] => by
      rw [evalOperand, operand]
      rfl
  | .symbol name :: rest => by
      rw [evalOperand, operand]
      rfl
  | .not :: more => by
      rw [evalOperand, operand, evalOperand_eq defined more]
      cases operand more <;> rfl
  | .opening :: more => by
      rw [evalOperand, operand, evalDisjunction_eq defined more]
      cases disjunction more with
      | error e => rfl
      | ok inner =>
          obtain ⟨formula, rest, hshorter⟩ := inner
          cases rest with
          | nil => rfl
          | cons token rest => cases token <;> rfl
  | .and :: _ | .or :: _ | .closing :: _ => by
      rw [evalOperand, operand]
      · rfl
      all_goals simp
termination_by ts => (ts.length, 0)
decreasing_by
  · exact Prod.Lex.left _ _ (Nat.lt_succ_self _)
  · exact Prod.Lex.left _ _ (Nat.lt_succ_self _)

end

/-- Evaluating a condition is to read it and to evaluate the formula then. -/
theorem evaluate_eq (defined : List Text) (condition : Text) :
    evaluate defined condition = (read condition).map (·.eval defined) := by
  rw [evaluate, read]
  cases tokens condition with
  | error e => rfl
  | ok ts =>
      cases ts with
      | nil => rfl
      | cons token more =>
          simp only [evalDisjunction_eq]
          cases disjunction (token :: more) with
          | error e => rfl
          | ok whole =>
              obtain ⟨formula, rest, hshorter⟩ := whole
              cases rest <;> rfl

end Condition

end Literate
