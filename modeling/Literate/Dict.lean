import Literate.Text.Basic

/-!
# Sorted dictionaries

A dictionary keeps its entries in increasing order of their keys, with one value for a key.
Putting a value replaces the one that the key had. The order of keys is the order of texts by
code point.
-/

namespace Literate

/-- Keys with their values, in increasing order of the keys. -/
@[ext] structure Dict (α : Type) where
  entries : List (Text × α)
  sorted : entries.Pairwise fun a b => a.1 < b.1
deriving DecidableEq

namespace Dict

variable {α : Type}

def empty : Dict α := ⟨[], .nil⟩

/-- Put an entry into a sorted list of entries. -/
def putEntry (key : Text) (value : α) : List (Text × α) → List (Text × α)
  | [] => [(key, value)]
  | (k, v) :: rest =>
      if key < k then (key, value) :: (k, v) :: rest
      else if key = k then (key, value) :: rest
      else (k, v) :: putEntry key value rest

theorem mem_putEntry {key : Text} {value : α} {entries : List (Text × α)} {entry : Text × α}
    (h : entry ∈ putEntry key value entries) : entry = (key, value) ∨ entry ∈ entries := by
  induction entries with
  | nil => exact .inl (List.mem_singleton.mp h)
  | cons first rest ih =>
      rw [putEntry] at h
      split at h
      · simpa using h
      · split at h
        · rcases List.mem_cons.mp h with h | h
          · exact .inl h
          · exact .inr (List.mem_cons_of_mem first h)
        · rcases List.mem_cons.mp h with rfl | h
          · exact .inr List.mem_cons_self
          · exact (ih h).imp_right (List.mem_cons_of_mem first)

theorem pairwise_putEntry {key : Text} {value : α} {entries : List (Text × α)}
    (h : entries.Pairwise fun a b => a.1 < b.1) :
    (putEntry key value entries).Pairwise fun a b => a.1 < b.1 := by
  induction entries with
  | nil => exact List.pairwise_singleton _ _
  | cons first rest ih =>
      obtain ⟨hfirst, hrest⟩ := List.pairwise_cons.mp h
      rw [putEntry]
      split
      next hlt =>
        refine List.pairwise_cons.mpr ⟨?_, h⟩
        intro entry hentry
        rcases List.mem_cons.mp hentry with rfl | hentry
        · exact hlt
        · exact List.lt_trans hlt (hfirst entry hentry)
      next hge =>
        split
        next heq =>
          subst heq
          exact List.pairwise_cons.mpr ⟨hfirst, hrest⟩
        next hne =>
          refine List.pairwise_cons.mpr ⟨?_, ih hrest⟩
          intro entry hentry
          rcases mem_putEntry hentry with rfl | hentry
          · exact (List.le_iff_lt_or_eq.mp (List.not_lt.mp hge)).resolve_right (Ne.symm hne)
          · exact hfirst entry hentry

/-- Bind a key to a value, in place of the value it had. -/
def put (d : Dict α) (key : Text) (value : α) : Dict α :=
  ⟨putEntry key value d.entries, pairwise_putEntry d.sorted⟩

def get? (d : Dict α) (key : Text) : Option α := d.entries.lookup key

def contains (d : Dict α) (key : Text) : Bool := (d.get? key).isSome

def keys (d : Dict α) : List Text := d.entries.map (·.1)

/-- The dictionary of a list of pairs; of two pairs with one key the later one counts. -/
def ofList (pairs : List (Text × α)) : Dict α :=
  pairs.foldl (fun d pair => d.put pair.1 pair.2) empty

theorem lookup_cons_eq (key k : Text) (value : α) (entries : List (Text × α)) :
    List.lookup k ((key, value) :: entries) = if k = key then some value else entries.lookup k := by
  by_cases h : k = key
  · rw [if_pos h, List.lookup_cons, beq_iff_eq.mpr h]
  · rw [if_neg h, List.lookup_cons, beq_eq_false_iff_ne.mpr h]

theorem lookup_putEntry (key k : Text) (value : α) (entries : List (Text × α)) :
    (putEntry key value entries).lookup k =
      if k = key then some value else entries.lookup k := by
  induction entries with
  | nil => exact lookup_cons_eq key k value []
  | cons entry rest ih =>
      obtain ⟨k', v⟩ := entry
      rw [putEntry]
      split
      next hlt => exact lookup_cons_eq key k value _
      next hge =>
        split
        next heq =>
          subst heq
          rw [lookup_cons_eq, lookup_cons_eq]
          split <;> rfl
        next hne =>
          rw [lookup_cons_eq, ih, lookup_cons_eq]
          by_cases hk : k = k'
          · rw [if_pos hk, if_pos hk, if_neg (hk ▸ Ne.symm hne)]
          · rw [if_neg hk, if_neg hk]

/-- A key that was put answers with its value, and every other key answers as before. -/
theorem get?_put (d : Dict α) (key k : Text) (value : α) :
    (d.put key value).get? k = if k = key then some value else d.get? k :=
  lookup_putEntry key k value d.entries

end Dict

/-- Texts in increasing order and without repetition. -/
def sortedTexts (texts : List Text) : List Text := (Dict.ofList (texts.map (·, ()))).keys

end Literate
