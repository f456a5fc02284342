import Literate.Text.Blank
import Literate.Text.Letter

/-!
# Branch conditions

The condition of a conditional branch is a boolean formula over symbols. It is cut into tokens,
which are evaluated under the set of defined symbols while they are read, by the grammar

    disjunction := conjunction ('||' conjunction)*
    conjunction := operand ('&&' operand)*
    operand := '!' operand | '(' disjunction ')' | symbol

All tokens are read, also where the value is known without them.
-/

namespace Literate

inductive ConditionToken where
  | symbol (name : Text)
  | not
  | and
  | or
  | opening
  | closing
deriving DecidableEq

/-- How a token is written in a condition. -/
def ConditionToken.spelling : ConditionToken → Text
  | .symbol name => name
  | .not => ['!']
  | .and => ['&', '&']
  | .or => ['|', '|']
  | .opening => ['(']
  | .closing => [')']

/-- Why a text is not a condition. -/
inductive ConditionError where
  | missing
  /-- An operator sign that stands once instead of twice. -/
  | singleSign (sign : Char)
  /-- A character that begins no token. -/
  | strayCharacter (character : Char)
  /-- A token where the grammar allows none of its kind. -/
  | unexpected (token : ConditionToken)
  /-- An opening parenthesis whose group is not closed. -/
  | unclosedGroup
  /-- The end of the condition where an operand is needed. -/
  | endsEarly
deriving DecidableEq

def ConditionError.message : ConditionError → String
  | .missing => "missing condition after `#if`"
  | .singleSign sign => "expected `" ++ String.ofList [sign, sign] ++ "` in condition"
  | .strayCharacter c => "unexpected character `" ++ String.ofList [c] ++ "` in condition"
  | .unexpected token => "unexpected `" ++ String.ofList token.spelling ++ "` in condition"
  | .unclosedGroup => "missing `)` in condition"
  | .endsEarly => "condition ends unexpectedly"

def isSymbolChar (c : Char) : Bool := isAlphanumeric c || c == '_'

namespace Condition

/-- Cut a condition into tokens. A symbol runs as far as its characters do. -/
def tokens : Text → Except ConditionError (List ConditionToken)
  | [] => .ok []
  | c :: rest =>
      if isBlank c then tokens rest
      else if c = '!' then (tokens rest).map (.not :: ·)
      else if c = '(' then (tokens rest).map (.opening :: ·)
      else if c = ')' then (tokens rest).map (.closing :: ·)
      else if c = '&' then
        match rest with
        | '&' :: more => (tokens more).map (.and :: ·)
        | _ => .error (.singleSign '&')
      else if c = '|' then
        match rest with
        | '|' :: more => (tokens more).map (.or :: ·)
        | _ => .error (.singleSign '|')
      else if isSymbolChar c then
        (tokens (rest.dropWhile isSymbolChar)).map
          (.symbol (c :: rest.takeWhile isSymbolChar) :: ·)
      else .error (.strayCharacter c)
termination_by t => t.length
decreasing_by
  · exact Nat.lt_succ_self _
  · exact Nat.lt_succ_self _
  · exact Nat.lt_succ_self _
  · exact Nat.lt_succ_self _
  · exact Nat.lt_succ_of_le (Nat.le_succ _)
  · exact Nat.lt_succ_of_le (Nat.le_succ _)
  · exact Nat.lt_succ_of_le (List.dropWhile_suffix _).length_le

/-- What was read from the front of some tokens, with the tokens that follow it. -/
structure Reading (α : Type) (ts : List ConditionToken) where
  result : α
  rest : List ConditionToken
  shorter : rest.length < ts.length

section Shorter

variable {token : ConditionToken} {more rest ts : List ConditionToken}

theorem shorter_behind (h : (token :: more).length < ts.length) : more.length < ts.length :=
  Nat.lt_of_succ_lt h

theorem shorter_trans_behind (h' : rest.length < more.length)
    (h : (token :: more).length < ts.length) : rest.length < ts.length :=
  Nat.lt_trans h' (shorter_behind h)

end Shorter

/-- As long as a sign follows a value, join to it what the next part behind the sign gives. -/
def joinWhile (sign : ConditionToken) (join : Bool → Bool → Bool) {ts : List ConditionToken}
    (next : (more : List ConditionToken) → more.length < ts.length →
      Except ConditionError (Reading Bool more))
    (first : Reading Bool ts) : Except ConditionError (Reading Bool ts) :=
  match first with
  | ⟨_, [], _⟩ => .ok first
  | ⟨value, token :: more, h⟩ =>
      if token = sign then
        match next more (shorter_behind h) with
        | .error e => .error e
        | .ok ⟨other, rest, h'⟩ =>
            joinWhile sign join next ⟨join value other, rest, shorter_trans_behind h' h⟩
      else .ok first
termination_by first.rest.length
decreasing_by exact Nat.lt_succ_of_lt h'

mutual

def evalDisjunction (defined : List Text) (ts : List ConditionToken) :
    Except ConditionError (Reading Bool ts) :=
  match evalConjunction defined ts with
  | .error e => .error e
  | .ok first => joinWhile .or (· || ·) (fun more _ => evalConjunction defined more) first
termination_by (ts.length, 2)
decreasing_by
  · exact Prod.Lex.right _ (by decide)
  · exact Prod.Lex.left _ _ (by assumption)

def evalConjunction (defined : List Text) (ts : List ConditionToken) :
    Except ConditionError (Reading Bool ts) :=
  match evalOperand defined ts with
  | .error e => .error e
  | .ok first => joinWhile .and (· && ·) (fun more _ => evalOperand defined more) first
termination_by (ts.length, 1)
decreasing_by
  · exact Prod.Lex.right _ (by decide)
  · exact Prod.Lex.left _ _ (by assumption)

/-- Evaluate an operand: a symbol, a negation or a group. -/
def evalOperand (defined : List Text) :
    (ts : List ConditionToken) → Except ConditionError (Reading Bool ts)
  | [] => .error .endsEarly
  | .symbol name :: rest => .ok ⟨defined.contains name, rest, Nat.lt_succ_self _⟩
  | .not :: more =>
      match evalOperand defined more with
      | .error e => .error e
      | .ok ⟨value, rest, h⟩ => .ok ⟨!value, rest, Nat.lt_succ_of_lt h⟩
  | .opening :: more =>
      match evalDisjunction defined more with
      | .error e => .error e
      | .ok ⟨value, .closing :: rest, h⟩ =>
          .ok ⟨value, rest, Nat.lt_succ_of_lt (shorter_behind h)⟩
      | .ok _ => .error .unclosedGroup
  | token :: _ => .error (.unexpected token)
termination_by ts => (ts.length, 0)
decreasing_by
  · exact Prod.Lex.left _ _ (Nat.lt_succ_self _)
  · exact Prod.Lex.left _ _ (Nat.lt_succ_self _)

end

/-- The value of a condition when a symbol is true exactly if it is defined. -/
def evaluate (defined : List Text) (condition : Text) : Except ConditionError Bool :=
  match tokens condition with
  | .error e => .error e
  | .ok [] => .error .missing
  | .ok ts =>
      match evalDisjunction defined ts with
      | .error e => .error e
      | .ok ⟨value, [], _⟩ => .ok value
      | .ok ⟨_, token :: _, _⟩ => .error (.unexpected token)

end Condition

end Literate
