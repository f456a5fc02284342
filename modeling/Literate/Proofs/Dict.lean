import Literate.Dict
import Mathlib.Data.List.Induction

/-!
# Dictionaries and their entries

A dictionary made from a list of pairs answers with the last of the pairs with a key. The entries
of a dictionary, put one after the other, make the dictionary again.
-/

namespace Literate.Dict

variable {α : Type}

/-- A key behind all others goes to the end. -/
theorem putEntry_of_forall_lt {key : Text} {value : α} {entries : List (Text × α)}
    (h : ∀ entry ∈ entries, entry.1 < key) :
    putEntry key value entries = entries ++ [(key, value)] := by
  induction entries with
  | nil => rfl
  | cons entry rest ih =>
      have hlt := h entry List.mem_cons_self
      have hne : key ≠ entry.1 := by
        rintro rfl
        exact List.lt_irrefl _ hlt
      rw [putEntry, if_neg (List.lt_asymm hlt), if_neg hne,
        ih fun next hnext => h next (List.mem_cons_of_mem entry hnext)]
      rfl

theorem entries_foldl_put {d : Dict α} {pairs : List (Text × α)}
    (h : (d.entries ++ pairs).Pairwise fun a b => a.1 < b.1) :
    (pairs.foldl (fun d pair => d.put pair.1 pair.2) d).entries = d.entries ++ pairs := by
  induction pairs generalizing d with
  | nil => simp
  | cons pair rest ih =>
      have hlt : ∀ before ∈ d.entries, before.1 < pair.1 := by
        intro before hbefore
        exact (List.pairwise_append.mp h).2.2 before hbefore pair List.mem_cons_self
      have hput : (d.put pair.1 pair.2).entries = d.entries ++ [pair] :=
        putEntry_of_forall_lt hlt
      rw [List.foldl_cons, ih (by simpa [hput] using h), hput]
      simp

theorem ofList_entries (d : Dict α) : ofList d.entries = d :=
  Dict.ext (entries_foldl_put d.sorted)

theorem contains_iff_mem_keys {d : Dict α} {key : Text} : d.contains key = true ↔ key ∈ d.keys := by
  rw [contains, get?, List.lookup_isSome_iff, keys, List.mem_map]
  constructor
  · rintro ⟨entry, hentry, hkey⟩
    exact ⟨entry, hentry, (eq_of_beq hkey).symm⟩
  · rintro ⟨entry, hentry, rfl⟩
    exact ⟨entry, hentry, BEq.rfl⟩

/-- No key hides another entry of the same key. -/
theorem mem_entries_iff {d : Dict α} {entry : Text × α} :
    entry ∈ d.entries ↔ d.get? entry.1 = some entry.2 := by
  rw [get?, List.lookup_eq_some_iff]
  constructor
  · intro hentry
    obtain ⟨before, behind, hentries⟩ := List.append_of_mem hentry
    refine ⟨before, behind, hentries, ?_⟩
    intro other hother
    have hsorted := d.sorted
    rw [hentries] at hsorted
    have hlt := (List.pairwise_append.mp hsorted).2.2 other hother entry List.mem_cons_self
    rw [bne_iff_ne]
    intro heq
    exact List.lt_irrefl _ (heq ▸ hlt)
  · rintro ⟨before, behind, hentries, -⟩
    rw [hentries]
    exact List.mem_append_right before List.mem_cons_self

/-- Entries in the order of their keys are determined by which entries there are. -/
theorem eq_of_mem_iff {entries others : List (Text × α)}
    (hentries : entries.Pairwise fun a b => a.1 < b.1)
    (hothers : others.Pairwise fun a b => a.1 < b.1)
    (h : ∀ entry, entry ∈ entries ↔ entry ∈ others) : entries = others := by
  have nodup : ∀ {l : List (Text × α)}, (l.Pairwise fun a b => a.1 < b.1) → l.Nodup := by
    intro l hl
    refine hl.imp ?_
    rintro a b hlt rfl
    exact List.lt_irrefl _ hlt
  apply List.Perm.eq_of_pairwise ?_ hentries hothers
  · exact (List.perm_ext_iff_of_nodup (nodup hentries) (nodup hothers)).mpr h
  · intro a b _ _ hab hba
    exact absurd hba (List.lt_asymm hab)

/-- Dictionaries with the same answers are equal. -/
theorem ext_get? {d e : Dict α}
    (h : ∀ key value, d.get? key = some value ↔ e.get? key = some value) : d = e := by
  apply Dict.ext
  apply eq_of_mem_iff d.sorted e.sorted
  intro entry
  rw [mem_entries_iff, h, mem_entries_iff]

/-- The last of the pairs with a key holds a value. -/
def LastOf (pairs : List (Text × α)) (key : Text) (value : α) : Prop :=
  ∃ front back, pairs = front ++ (key, value) :: back ∧ ∀ pair ∈ back, pair.1 ≠ key

theorem lastOf_concat {init : List (Text × α)} {pair : Text × α} {key : Text} {value : α} :
    LastOf (init ++ [pair]) key value ↔
      if key = pair.1 then pair.2 = value else LastOf init key value := by
  constructor
  · rintro ⟨front, back, hpairs, hback⟩
    rcases List.eq_nil_or_concat back with rfl | ⟨back, last, rfl⟩
    · obtain ⟨-, hpair⟩ := List.append_inj' hpairs rfl
      obtain rfl := List.singleton_inj.mp hpair
      simp
    · rw [List.concat_eq_append] at hpairs hback
      have hsplit : init ++ [pair] = (front ++ (key, value) :: back) ++ [last] := by
        simpa using hpairs
      obtain ⟨rfl, hlast⟩ := List.append_inj' hsplit rfl
      obtain rfl := List.singleton_inj.mp hlast
      have hne : key ≠ pair.1 := (hback pair (by simp)).symm
      rw [if_neg hne]
      exact ⟨front, back, rfl, fun other hother => hback other (List.mem_append_left _ hother)⟩
  · intro h
    split at h
    next hkey =>
      subst hkey h
      exact ⟨init, [], rfl, by simp⟩
    next hkey =>
      obtain ⟨front, back, rfl, hback⟩ := h
      refine ⟨front, back ++ [pair], by simp, ?_⟩
      intro other hother
      rcases List.mem_append.mp hother with hother | hother
      · exact hback other hother
      · rw [List.mem_singleton.mp hother]
        exact Ne.symm hkey

/-- Of two pairs with one key the later one counts. -/
theorem get?_ofList {pairs : List (Text × α)} {key : Text} {value : α} :
    (ofList pairs).get? key = some value ↔ LastOf pairs key value := by
  induction pairs using List.reverseRecOn with
  | nil => simp [ofList, empty, get?, LastOf]
  | append_singleton init pair ih =>
      have hput : ofList (init ++ [pair]) = (ofList init).put pair.1 pair.2 := by
        rw [ofList, List.foldl_append]
        rfl
      rw [hput, get?_put, lastOf_concat]
      split
      · rw [Option.some_inj]
      · exact ih

theorem contains_ofList_iff {pairs : List (Text × α)} {key : Text} :
    (ofList pairs).contains key = true ↔ key ∈ pairs.map (·.1) := by
  rw [contains, Option.isSome_iff_exists]
  simp only [get?_ofList]
  constructor
  · rintro ⟨value, front, back, rfl, -⟩
    simp
  · intro hkey
    -- The last of the pairs with the key is found from the end.
    induction pairs using List.reverseRecOn with
    | nil => cases hkey
    | append_singleton init pair ih =>
        simp only [lastOf_concat]
        by_cases hpair : key = pair.1
        · exact ⟨pair.2, by rw [if_pos hpair]⟩
        · obtain ⟨value, hvalue⟩ := ih (by simpa [hpair] using hkey)
          exact ⟨value, by rwa [if_neg hpair]⟩

/-- Among pairs with different keys every pair counts. -/
theorem lastOf_iff_mem {pairs : List (Text × α)} (h : (pairs.map (·.1)).Nodup) {key : Text}
    {value : α} : LastOf pairs key value ↔ (key, value) ∈ pairs := by
  constructor
  · rintro ⟨front, back, rfl, -⟩
    simp
  · intro hmem
    obtain ⟨front, back, rfl⟩ := List.append_of_mem hmem
    refine ⟨front, back, rfl, ?_⟩
    rintro other hother hkey
    rw [List.map_append, List.map_cons] at h
    have hfresh := (List.nodup_cons.mp (List.nodup_append.mp h).2.1).1
    exact hfresh (List.mem_map.mpr ⟨other, hother, hkey⟩)

/-- The entries of a dictionary, in any order, make it again. -/
theorem ofList_perm {d : Dict α} {pairs : List (Text × α)} (hpairs : pairs.Perm d.entries) :
    ofList pairs = d := by
  have hkeys : (d.entries.map (·.1)).Nodup := by
    rw [List.Nodup, List.pairwise_map]
    refine d.sorted.imp ?_
    intro a b hlt heq
    exact List.lt_irrefl _ (heq ▸ hlt)
  apply ext_get?
  intro key value
  rw [get?_ofList, lastOf_iff_mem ((hpairs.map _).nodup_iff.mpr hkeys), hpairs.mem_iff,
    mem_entries_iff]

end Literate.Dict

namespace Literate

theorem mem_sortedTexts {texts : List Text} {t : Text} : t ∈ sortedTexts texts ↔ t ∈ texts := by
  rw [sortedTexts, ← Dict.contains_iff_mem_keys, Dict.contains_ofList_iff, List.map_map]
  simp [Function.comp_def]

theorem pairwise_sortedTexts (texts : List Text) : (sortedTexts texts).Pairwise (· < ·) :=
  List.pairwise_map.mpr (Dict.ofList _).sorted

end Literate
