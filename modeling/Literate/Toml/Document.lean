import Literate.Toml.Value

/-!
# TOML documents

A document is a sequence of lines that are empty, bind a key, or open a table with a header in
brackets. Line ends matter everywhere but inside of a list.
-/

namespace Literate.Toml

/-- Something read from the front of some tokens, with the tokens that follow it. -/
abbrev Parsed (α : Type) := α × List Token

/-- The fault of not finding something at the front of some tokens. -/
def missing {α : Type} (what : String) (ts : List Token) : Except Fault α :=
  .error ⟨.expected what, ts.head?.map (·.span)⟩

/-- The tokens behind a sign, if they begin with it. -/
def behindSign? (c : Char) : List Token → Option (List Token)
  | token :: rest => if token.lexeme = .sign c then some rest else none
  | [] => none

def skipLineEnds (ts : List Token) : List Token := ts.dropWhile (·.lexeme == .lineEnd)

def isBareKeyChar (c : Char) : Bool := c.isAlphanum || c == '_' || c == '-'

/-- The key that a token is. -/
def key? (token : Token) : Option Key :=
  match token.lexeme with
  | .quoted false content => some ⟨content, token.span⟩
  | .word content => if content.all isBareKeyChar then some ⟨content, token.span⟩ else none
  | _ => none

/-- Read keys with points between them, given the keys that were read already. -/
def dottedKeyFrom (before : List Key) : List Token → Except Fault (Parsed (List Key))
  | [] => missing "a key" []
  | token :: rest =>
      match key? token with
      | none => missing "a key" (token :: rest)
      | some key =>
          match rest with
          | [] => .ok (before ++ [key], [])
          | next :: behind =>
              if next.lexeme = .sign '.' then dottedKeyFrom (before ++ [key]) behind
              else .ok (before ++ [key], next :: behind)

def dottedKey (ts : List Token) : Except Fault (Parsed (List Key)) := dottedKeyFrom [] ts

/-- The words that are truth values or numbers without digits. -/
def namedScalars : List Text := ["true", "false", "inf", "nan"].map String.toList

/-- Whether a word can be a number, a truth value or a time. -/
def isScalarWord (word : Text) : Bool :=
  namedScalars.contains word || word.head?.any fun c => c.isDigit || c == '+' || c == '-'

/-- The tokens behind the fraction of a number. -/
def behindFraction (ts : List Token) : List Token :=
  match behindSign? '.' ts with
  | some (⟨.word _, _⟩ :: rest) => rest
  | _ => ts

mutual

/-- Read a value, with a bound on the depth of its parts. -/
def value : Nat → List Token → Except Fault (Parsed Value)
  | _, [] => missing "a value" []
  | 0, ts => missing "a value" ts
  | fuel + 1, token :: rest =>
      match token.lexeme with
      | .quoted _ content => .ok (.text content, rest)
      | .word word =>
          if isScalarWord word then .ok (.scalar word, behindFraction rest)
          else missing "a value" (token :: rest)
      | .sign c =>
          if c = '[' then (listItems fuel rest).map fun (items, behind) => (.list items, behind)
          else if c = '\x7b' then
            match behindSign? '\x7d' rest with
            | some behind => .ok (.table .braced [], behind)
            | none =>
                (tableItems fuel [] rest).map fun (entries, behind) =>
                  (.table .braced entries, behind)
          else missing "a value" (token :: rest)
      | .lineEnd => missing "a value" (token :: rest)

/-- Read the items of a list up to the closing bracket. A comma may come before it. -/
def listItems : Nat → List Token → Except Fault (Parsed (List Value))
  | 0, ts => missing "`]`" ts
  | fuel + 1, ts =>
      match behindSign? ']' (skipLineEnds ts) with
      | some behind => .ok ([], behind)
      | none => do
          let (item, afterItem) ← value fuel (skipLineEnds ts)
          match behindSign? ',' (skipLineEnds afterItem) with
          | some more =>
              let (items, behind) ← listItems fuel more
              return (item :: items, behind)
          | none =>
              match behindSign? ']' (skipLineEnds afterItem) with
              | some behind => return ([item], behind)
              | none => missing "`,` or `]`" (skipLineEnds afterItem)

/-- Read the entries of a table up to the closing brace, with the entries before them. -/
def tableItems : Nat → Entries → List Token → Except Fault (Parsed Entries)
  | 0, _, ts => missing "a closing brace" ts
  | fuel + 1, before, ts => do
      let (keys, afterKeys) ← dottedKey ts
      match behindSign? '=' afterKeys with
      | none => missing "`=`" afterKeys
      | some atValue => do
          let (item, afterItem) ← value fuel atValue
          let entries ← before.bindDotted item keys
          match behindSign? ',' afterItem with
          | some more => tableItems fuel entries more
          | none =>
              match behindSign? '\x7d' afterItem with
              | some behind => return (entries, behind)
              | none => missing "`,` or a closing brace" afterItem

end

inductive Statement where
  | binding (keys : List Key) (value : Value)
  | header (keys : List Key)

def header (ts : List Token) : Except Fault (Parsed Statement) := do
  let (keys, afterKeys) ← dottedKey ts
  match behindSign? ']' afterKeys with
  | some behind => return (.header keys, behind)
  | none => missing "`]`" afterKeys

/-- Read a key and its value. Each part of a value takes at most two steps into the depth. -/
def binding (ts : List Token) : Except Fault (Parsed Statement) := do
  let (keys, afterKeys) ← dottedKey ts
  match behindSign? '=' afterKeys with
  | none => missing "`=`" afterKeys
  | some atValue => do
      let (item, behind) ← value (2 * atValue.length + 1) atValue
      return (.binding keys item, behind)

def statement (ts : List Token) : Except Fault (Parsed Statement) :=
  match behindSign? '[' ts with
  | some behind => header behind
  | none => binding ts

def statements (ts : List Token) : Except Fault (List Statement) :=
  match ts with
  | [] => .ok []
  | token :: more =>
      if token.lexeme = .lineEnd then statements more
      else do
        let (s, behind) ← statement (token :: more)
        match behind with
        | [] => return [s]
        | next :: rest =>
            if next.lexeme ≠ .lineEnd then missing "the end of the line" (next :: rest)
            else if rest.length ≤ more.length then return s :: (← statements rest)
            else return [s]
termination_by ts.length
decreasing_by
  · exact Nat.lt_succ_self _
  · exact Nat.lt_succ_of_le (by assumption)

/-- Carry out statements in the table of the header before them. -/
def build (header : List Key) (root : Entries) : List Statement → Except Fault Entries
  | [] => .ok root
  | .binding keys item :: rest => do
      build header (← root.inTable (Entries.bindDotted item keys) header) rest
  | .header keys :: rest => do build keys (← root.openTable keys) rest

def read (document : Text) : Except Fault Entries := do
  build [] [] (← statements (← tokens document))

end Literate.Toml
