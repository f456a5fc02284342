import Literate.Text.Letter

/-!
# Literals

Where string, character and number literals end. Each function splits the text at that end.
-/

namespace Literate

/-- The three forms of string literal. -/
inductive StringKind where
  /-- Between double quotes, with a backslash as escape. -/
  | regular
  /-- After an at sign and a double quote; a doubled quote stands for one. -/
  | verbatim
  | triple
deriving DecidableEq

structure Split where
  front : Text
  rest : Text
deriving DecidableEq

/-- The split with more characters in front. -/
def Split.prepend (lead : Text) (split : Split) : Split := ⟨lead ++ split.front, split.rest⟩

/-- Split the body of a string literal behind its closing quote, if the closing quote is
there. A backslash of a regular string hides the character after it. -/
def scanString : StringKind → Text → Option Split
  | _, [] => none
  | .triple, '"' :: '"' :: '"' :: rest => some ⟨['"', '"', '"'], rest⟩
  | .triple, c :: rest => (scanString .triple rest).map (.prepend [c])
  | .regular, ['\\'] => none
  | .regular, '\\' :: c :: rest => (scanString .regular rest).map (.prepend ['\\', c])
  | .regular, '"' :: rest => some ⟨['"'], rest⟩
  | .regular, c :: rest => (scanString .regular rest).map (.prepend [c])
  | .verbatim, '"' :: '"' :: rest => (scanString .verbatim rest).map (.prepend ['"', '"'])
  | .verbatim, '"' :: rest => some ⟨['"'], rest⟩
  | .verbatim, c :: rest => (scanString .verbatim rest).map (.prepend [c])

/-- The most bytes that may stand between an escaped character and the closing quote: those
of an eight-digit code point. -/
def longestEscape : Nat := 8

/-- Split a character literal off the text behind its opening quote. The literal is one
character, or a backslash, a character and at most `longestEscape` further bytes. -/
def scanCharacter : Text → Option Split
  | '\\' :: escaped :: rest =>
      let inner := rest.takeWhile (· != '\'')
      match rest.dropWhile (· != '\'') with
      | quote :: after =>
          if Text.byteSize inner ≤ longestEscape then
            some ⟨'\\' :: escaped :: (inner ++ [quote]), after⟩
          else none
      | [] => none
  | '\\' :: [] => none
  | '\'' :: _ => none
  | c :: '\'' :: rest => some ⟨[c, '\''], rest⟩
  | _ => none

/-- A character that numbers, their suffixes and their digit separators are made of. -/
def isNumberChar (c : Char) : Bool := c.isAlphanum || c == '_'

/-- Split a number off the text. A point belongs to it when a digit follows. -/
def scanNumber : Text → Split
  | [] => ⟨[], []⟩
  | '.' :: d :: rest =>
      if d.isDigit then (scanNumber (d :: rest)).prepend ['.'] else ⟨[], '.' :: d :: rest⟩
  | c :: rest => if isNumberChar c then (scanNumber rest).prepend [c] else ⟨[], c :: rest⟩

theorem scanString_split {kind : StringKind} {t : Text} {s : Split}
    (h : scanString kind t = some s) : t = s.front ++ s.rest := by
  fun_induction scanString kind t generalizing s with
  | case1 => simp at h
  | case2 => simp at h; simp [← h]
  | case4 => simp at h
  | case6 => simp at h; simp [← h]
  | case9 => simp at h; simp [← h]
  | _ =>
      rename_i ih
      obtain ⟨u, hu, rfl⟩ := Option.map_eq_some_iff.1 h
      simp [Split.prepend, ih hu]

theorem scanCharacter_split {t : Text} {s : Split} (h : scanCharacter t = some s) :
    t = s.front ++ s.rest := by
  unfold scanCharacter at h
  split at h
  next escaped rest =>
    simp only at h
    split at h
    next quote after hrest =>
      split at h
      next =>
        cases h
        have := List.takeWhile_append_dropWhile (p := (· != '\'')) (l := rest)
        rw [hrest] at this
        simp [this]
      next => cases h
    next => cases h
  next => cases h
  next => cases h
  next => cases h; rfl
  next => cases h

theorem scanNumber_split (t : Text) : (scanNumber t).front ++ (scanNumber t).rest = t := by
  fun_induction scanNumber t with
  | case1 => rfl
  | case2 d rest h ih => simpa [Split.prepend] using ih
  | case3 => rfl
  | case4 c rest _ h ih => simpa [Split.prepend] using ih
  | case5 => rfl

end Literate
