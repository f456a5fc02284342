import Literate.Text.Basic

/-!
# Numbers in digits

Writing and reading of numbers in base ten and in base sixteen. In base sixteen letters of either
case are read and small ones are written.
-/

namespace Literate

namespace Text

def decimal (n : Nat) : Text := (toString n).toList

/-- The number in some decimal digits. -/
def decimalValue (digits : Text) : Nat :=
  digits.foldl (fun n d => n * 10 + (d.toNat - '0'.toNat)) 0

end Text

def hexDigit? (c : Char) : Option Nat :=
  if c.isDigit then some (c.toNat - '0'.toNat)
  else if 'a' ≤ c ∧ c ≤ 'f' then some (c.toNat - 'a'.toNat + 10)
  else if 'A' ≤ c ∧ c ≤ 'F' then some (c.toNat - 'A'.toNat + 10)
  else none

def isHexDigit (c : Char) : Bool := (hexDigit? c).isSome

/-- The number in some hexadecimal digits. -/
def hexadecimal (digits : Text) : Nat :=
  digits.foldl (fun n d => n * 16 + (hexDigit? d).getD 0) 0

/-- The hexadecimal digits of a number. -/
def hexDigits (n : Nat) : Text := Nat.toDigits 16 n

end Literate
