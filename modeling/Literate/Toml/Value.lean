import Literate.Toml.Token

/-!
# Values and tables of TOML

A table binds keys to values, each key once. How a table came about decides what may still be
added to it: a table that a header merely passes through can be opened by a header of its own,
and one made by dotted keys can get further dotted keys; all other tables are complete.
-/

namespace Literate.Toml

structure Key where
  name : Text
  span : Span
deriving DecidableEq

/-- How a table came about. -/
inductive TableOrigin where
  /-- On the way of a header to a table further in. -/
  | passed
  /-- By a header of its own. -/
  | opened
  /-- By a dotted key. -/
  | dotted
  /-- As a value between braces. -/
  | braced
deriving DecidableEq

/-- A value. Numbers, truth values and times are not told apart. -/
inductive Value where
  | text (content : Text)
  | scalar (spelling : Text)
  | list (items : List Value)
  | table (origin : TableOrigin) (entries : List (Key × Value))

/-- Keys with their values in the order in which they were first bound. -/
abbrev Entries := List (Key × Value)

namespace Entries

/-- The fault of binding a key again. -/
def taken (key : Key) : Fault := ⟨.duplicateKey key.name, some key.span⟩

/-- Change the value of a key; for a key without one, a value is added at the end. -/
def alter (key : Key) (change : Option Value → Except Fault Value) :
    Entries → Except Fault Entries
  | [] => do return [(key, ← change none)]
  | (k, v) :: rest =>
      if k.name = key.name then do return (k, ← change (some v)) :: rest
      else do return (k, v) :: (← alter key change rest)

/-- Bind a key that has no value. -/
def bind (key : Key) (value : Value) : Entries → Except Fault Entries :=
  alter key fun
    | none => .ok value
    | some _ => .error (taken key)

/-- Bind the last of some keys inside the tables that the keys before it name. -/
def bindDotted (value : Value) : List Key → Entries → Except Fault Entries
  | [], entries => .ok entries
  | [key], entries => entries.bind key value
  | key :: more, entries =>
      entries.alter key fun
        | none => (bindDotted value more []).map (.table .dotted)
        | some (.table .dotted inner) => (bindDotted value more inner).map (.table .dotted)
        | some _ => .error (taken key)

/-- Open the table that a header names. -/
def openTable : List Key → Entries → Except Fault Entries
  | [], entries => .ok entries
  | [key], entries =>
      entries.alter key fun
        | none => .ok (.table .opened [])
        | some (.table .passed inner) => .ok (.table .opened inner)
        | some _ => .error (taken key)
  | key :: more, entries =>
      entries.alter key fun
        | none => (openTable more []).map (.table .passed)
        | some (.table .braced _) => .error (taken key)
        | some (.table origin inner) => (openTable more inner).map (.table origin)
        | some _ => .error (taken key)

/-- Change the entries of the table that a header opened. -/
def inTable (change : Entries → Except Fault Entries) : List Key → Entries → Except Fault Entries
  | [], entries => change entries
  | key :: more, entries =>
      entries.alter key fun
        | some (.table origin inner) => (inTable change more inner).map (.table origin)
        | _ => .error (taken key)

end Entries

end Literate.Toml
