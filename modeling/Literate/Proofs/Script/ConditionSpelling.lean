import Literate.Proofs.Except
import Literate.Proofs.Text.Blank
import Literate.Script.Condition
import Mathlib.Data.List.Chain

/-!
# How conditions are spelled

A condition is cut into the tokens that spell it, and into no others: between tokens there may be
blanks, and a symbol runs as far as its characters do. Tokens of which no two symbols are
neighbours may be written with any blanks between them, or none.
-/

namespace Literate

/-- A blank is no character of a symbol. -/
theorem isSymbolChar_eq_false_of_isBlank {c : Char} (h : isBlank c = true) :
    isSymbolChar c = false := by
  have hne : c ≠ '_' := by
    rintro rfl
    exact absurd h (by decide)
  simp [isSymbolChar, isAlphanumeric_eq_false_of_isBlank h, hne]

/-! ## Tokens in a text -/

namespace ConditionToken

/-- A token that is a sign or a name made of the characters of symbols. -/
def IsSound : ConditionToken → Prop
  | .symbol name => name ≠ [] ∧ ∀ c ∈ name, isSymbolChar c = true
  | _ => True

instance : DecidablePred IsSound
  | .symbol name =>
      decidable_of_iff (name ≠ [] ∧ name.all isSymbolChar = true) (by rw [List.all_eq_true]; rfl)
  | .not | .and | .or | .opening | .closing => inferInstanceAs (Decidable True)

/-- Whether a token ends in front of a text. A symbol goes on while its characters do. -/
def EndsBefore : ConditionToken → Text → Prop
  | .symbol _, t => ∀ c ∈ t.head?, isSymbolChar c = false
  | _, _ => True

end ConditionToken

/-- Tokens as they are found in a text, with any blanks around them. -/
inductive Spells : List ConditionToken → Text → Prop where
  | nil : Spells [] []
  | blank {tokens : List ConditionToken} {c : Char} {t : Text} (hc : isBlank c = true)
      (h : Spells tokens t) : Spells tokens (c :: t)
  | token {token : ConditionToken} {tokens : List ConditionToken} {t : Text}
      (hsound : token.IsSound) (hends : token.EndsBefore t) (h : Spells tokens t) :
      Spells (token :: tokens) (token.spelling ++ t)

/-- A symbol that was cut off with all the characters that follow. -/
theorem Spells.symbol {c : Char} {rest : Text} {tokens : List ConditionToken}
    (hc : isSymbolChar c = true) (h : Spells tokens (rest.dropWhile isSymbolChar)) :
    Spells (.symbol (c :: rest.takeWhile isSymbolChar) :: tokens) (c :: rest) := by
  have hsound : (ConditionToken.symbol (c :: rest.takeWhile isSymbolChar)).IsSound := by
    refine ⟨List.cons_ne_nil _ _, ?_⟩
    intro d hd
    rcases List.mem_cons.mp hd with rfl | hd
    · exact hc
    · exact List.all_eq_true.mp List.all_takeWhile d hd
  have hends : (ConditionToken.symbol (c :: rest.takeWhile isSymbolChar)).EndsBefore
      (rest.dropWhile isSymbolChar) := by
    intro d hd
    have hhead := List.head?_dropWhile_not isSymbolChar rest
    rw [hd] at hhead
    simpa using hhead
  have hspells := Spells.token hsound hends h
  rwa [ConditionToken.spelling, List.cons_append, List.takeWhile_append_dropWhile] at hspells

/-! ## Cutting a text into tokens -/

namespace Condition

theorem tokens_blank {c : Char} (hc : isBlank c = true) (rest : Text) :
    tokens (c :: rest) = tokens rest := by
  rw [tokens.eq_def]
  simp [hc]

theorem tokens_sign {token : ConditionToken} (htoken : ∀ name, token ≠ .symbol name)
    (rest : Text) : tokens (token.spelling ++ rest) = (tokens rest).map (token :: ·) := by
  rw [tokens.eq_def]
  cases token with
  | symbol name => exact absurd rfl (htoken name)
  | not => simp [ConditionToken.spelling, show isBlank '!' = false by decide]
  | and => simp [ConditionToken.spelling, show isBlank '&' = false by decide]
  | or => simp [ConditionToken.spelling, show isBlank '|' = false by decide]
  | opening => simp [ConditionToken.spelling, show isBlank '(' = false by decide]
  | closing => simp [ConditionToken.spelling, show isBlank ')' = false by decide]

theorem tokens_symbol {name rest : Text} (hsound : (ConditionToken.symbol name).IsSound)
    (hends : (ConditionToken.symbol name).EndsBefore rest) :
    tokens (name ++ rest) = (tokens rest).map (.symbol name :: ·) := by
  obtain ⟨hne, hname⟩ := hsound
  obtain ⟨c, name, rfl⟩ := List.exists_cons_of_ne_nil hne
  have hc := hname c List.mem_cons_self
  have hrun : ∀ d ∈ name, isSymbolChar d = true := fun d hd => hname d (List.mem_cons_of_mem c hd)
  have hblank : isBlank c = false := by
    apply eq_false_of_ne_true
    intro hblank
    simp [isSymbolChar_eq_false_of_isBlank hblank] at hc
  have sign : ∀ d, isSymbolChar d = false → c ≠ d := by
    rintro d hd rfl
    simp [hc] at hd
  have hstop : rest.takeWhile isSymbolChar = [] ∧ rest.dropWhile isSymbolChar = rest := by
    cases rest with
    | nil => exact ⟨rfl, rfl⟩
    | cons d rest => simp [show isSymbolChar d = false from hends d rfl]
  rw [List.cons_append, tokens.eq_def]
  simp [hblank, hc, sign '!' (by decide), sign '(' (by decide), sign ')' (by decide),
    sign '&' (by decide), sign '|' (by decide), List.takeWhile_append_of_pos hrun,
    List.dropWhile_append_of_pos hrun, hstop]

theorem spells_of_tokens {t : Text} {ts : List ConditionToken} (h : tokens t = .ok ts) :
    Spells ts t := by
  fun_induction tokens t generalizing ts with
  | case1 =>
      cases h
      exact .nil
  | case2 c rest hc ih => exact .blank hc (ih h)
  | case3 rest _ ih | case4 rest _ _ ih | case5 rest _ _ _ ih | case6 rest _ _ _ _ ih
  | case8 rest _ _ _ _ _ ih =>
      obtain ⟨more, hmore, rfl⟩ := exists_of_map_eq_ok h
      exact .token trivial trivial (ih hmore)
  | case7 => cases h
  | case9 => cases h
  | case10 c rest _ _ _ _ _ _ hc ih =>
      obtain ⟨more, hmore, rfl⟩ := exists_of_map_eq_ok h
      exact .symbol hc (ih hmore)
  | case11 => cases h

/-- Cutting a condition finds the tokens that spell it. -/
theorem tokens_eq_ok_iff {t : Text} {ts : List ConditionToken} :
    tokens t = .ok ts ↔ Spells ts t := by
  constructor
  · exact spells_of_tokens
  · intro h
    induction h with
    | nil => rw [tokens]
    | blank hc _ ih => rw [tokens_blank hc, ih]
    | @token token tokens t hsound hends _ ih =>
        by_cases htoken : ∃ name, token = .symbol name
        · obtain ⟨name, rfl⟩ := htoken
          rw [ConditionToken.spelling, tokens_symbol hsound hends, ih]
          rfl
        · rw [tokens_sign fun name hname => htoken ⟨name, hname⟩, ih]
          rfl

end Condition

theorem Spells.unique {t : Text} {ts us : List ConditionToken} (h : Spells ts t)
    (hother : Spells us t) : ts = us := by
  rw [← Condition.tokens_eq_ok_iff] at h hother
  exact Except.ok.inj (h.symm.trans hother)

/-! ## Tokens written with blanks between them -/

/-- Tokens written one after the other, with any blanks in front, behind and between. -/
inductive Spaced : List ConditionToken → Text → Prop where
  | nil : Spaced [] []
  | blank {tokens : List ConditionToken} {c : Char} {t : Text} (hc : isBlank c = true)
      (h : Spaced tokens t) : Spaced tokens (c :: t)
  | token {token : ConditionToken} {tokens : List ConditionToken} {t : Text}
      (h : Spaced tokens t) : Spaced (token :: tokens) (token.spelling ++ t)

def ConditionToken.IsSymbol : ConditionToken → Prop
  | .symbol _ => True
  | _ => False

/-- Tokens of which no two symbols are neighbours. -/
def Separated (tokens : List ConditionToken) : Prop :=
  tokens.IsChain fun a b => ¬ (a.IsSymbol ∧ b.IsSymbol)

/-- In front of a text that begins with no symbol every symbol ends. -/
theorem Spaced.head {tokens : List ConditionToken} {t : Text} (h : Spaced tokens t)
    (htokens : ∀ token ∈ tokens.head?, ¬ token.IsSymbol) :
    ∀ c ∈ t.head?, isSymbolChar c = false := by
  intro c hc
  cases h with
  | nil => cases hc
  | blank hblank =>
      cases hc
      exact isSymbolChar_eq_false_of_isBlank hblank
  | @token token =>
      cases token with
      | symbol name => exact absurd trivial (htokens _ rfl)
      | not | and | or | opening | closing =>
          cases hc
          decide

/-- Tokens can be found again however they are spaced, if no two symbols are neighbours. -/
theorem Spaced.spells {tokens : List ConditionToken} {t : Text} (h : Spaced tokens t)
    (hsound : ∀ token ∈ tokens, token.IsSound) (hseparated : Separated tokens) :
    Spells tokens t := by
  induction h with
  | nil => exact .nil
  | blank hc _ ih => exact .blank hc (ih hsound hseparated)
  | @token token tokens t h ih =>
      have hends : token.EndsBefore t := by
        cases token with
        | symbol name =>
            apply h.head
            intro next hnext hsymbol
            obtain ⟨rest, rfl⟩ := List.head?_eq_some_iff.mp hnext
            exact (List.isChain_cons_cons.mp hseparated).1 ⟨trivial, hsymbol⟩
        | not | and | or | opening | closing => trivial
      exact .token (hsound token List.mem_cons_self) hends
        (ih (fun next hnext => hsound next (List.mem_cons_of_mem token hnext)) hseparated.tail)

end Literate
