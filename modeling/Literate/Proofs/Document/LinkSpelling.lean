import Literate.Proofs.Document.LinkTable
import Literate.Proofs.Text.FinalSigma

/-!
# Spellings of a link label

Labels that differ in their blanks and in the case of their letters are spellings of one label.
Their keys are made from whole texts, in which capital sigma has a form of its own at the end of a
word. So two spellings have one key just when that happens at the same places in both, and just
then they are one label to link tables and to the merge policy.
-/

namespace Literate

/-- Labels of the same words, up to the case of each character. -/
def SameSpelling (a b : Text) : Prop :=
  (Text.words a).map lowerEach = (Text.words b).map lowerEach

instance (a b : Text) : Decidable (SameSpelling a b) :=
  inferInstanceAs (Decidable (_ = _))

/-- Labels whose words end in capital sigmas at the same places. -/
def SameFinalSigmas (a b : Text) : Prop :=
  ∀ place, FinalSigmaAt (List.intercalate [' '] (Text.words a)) place ↔
    FinalSigmaAt (List.intercalate [' '] (Text.words b)) place

section Spelling

variable {a b : Text}

theorem SameSpelling.normalizeKey_eq_iff (h : SameSpelling a b) :
    normalizeKey a = normalizeKey b ↔ SameFinalSigmas a b := by
  apply toLower_eq_iff
  rw [lowerEach_intercalate, lowerEach_intercalate, h]

theorem FinalSigmaAt.mem_label {place : Nat}
    (h : FinalSigmaAt (List.intercalate [' '] (Text.words a)) place) : 'Σ' ∈ a := by
  rcases Text.mem_intercalate h.mem with hspace | ⟨word, hword, hmem⟩
  · exact absurd hspace (by decide)
  · exact Text.mem_of_mem_words hword hmem

/-- Without capital sigmas there are no final ones. -/
theorem sameFinalSigmas_of_not_mem (ha : 'Σ' ∉ a) (hb : 'Σ' ∉ b) : SameFinalSigmas a b :=
  fun _ => iff_of_false (fun h => ha h.mem_label) (fun h => hb h.mem_label)

namespace LinkTable

/-- Every table answers to one label with what was defined under the other one. -/
def Finds (a b : Text) : Prop :=
  ∀ (table : LinkTable) definition, (table.insert a definition).get? b = some definition ∧
    (table.insert a definition).contains b = true

/-- Of the definitions of two labels in two comments, merging keeps one for both labels: the later
one if the last definition wins and no comment behind defines them again, and the earlier one if
the first definition wins and no comment in front defines them. -/
def MergesAsOne (a b : Text) : Prop :=
  ∀ (front : List LinkTable) one (middle : List LinkTable) other (back : List LinkTable)
    earlier later,
    let tables := front ++ insert one a earlier :: (middle ++ insert other b later :: back)
    ((∀ table ∈ back, table.contains a = false) →
      ∀ label ∈ [a, b], (merge .lastWins tables).get? label = some later) ∧
    ((∀ table ∈ front, table.contains a = false) →
      ∀ label ∈ [a, b], (merge .firstWins tables).get? label = some earlier)

theorem finds_iff : Finds a b ↔ normalizeKey a = normalizeKey b := by
  constructor
  · intro h
    obtain ⟨-, hcontains⟩ := h empty ⟨[], none⟩
    rw [contains, get?_insert] at hcontains
    split at hcontains
    next hkey => exact hkey.symm
    next => cases hcontains
  · intro hkey table definition
    rw [contains, get?_insert, if_pos hkey.symm]
    exact ⟨rfl, rfl⟩

/-- Labels with one key are the same to a table. -/
theorem get?_congr (table : LinkTable) (h : normalizeKey a = normalizeKey b) :
    table.get? a = table.get? b :=
  congrArg table.dict.get? h

/-- Of two comments that define labels with different keys, the first one still answers to its
own. -/
theorem get?_merge_of_ne (h : normalizeKey a ≠ normalizeKey b) (earlier later : LinkDefinition) :
    (merge .lastWins [empty.insert a earlier, empty.insert b later]).get? a = some earlier := by
  rw [get?, get?_merge]
  apply findSome?_reverse_eq_some_iff_lastDefines.mpr
  refine ⟨[], empty.insert a earlier, [empty.insert b later], rfl, ?_, ?_⟩
  · rw [get?_insert, if_pos rfl]
  · intro table htable
    rw [List.mem_singleton.mp htable, contains_eq_false_iff, get?_insert, if_neg h]
    rfl

theorem mergesAsOne_iff : MergesAsOne a b ↔ normalizeKey a = normalizeKey b := by
  constructor
  · intro h
    by_cases hkey : normalizeKey a = normalizeKey b
    · exact hkey
    · let earlier : LinkDefinition := ⟨['a'], none⟩
      let later : LinkDefinition := ⟨['b'], none⟩
      obtain ⟨hlast, -⟩ := h [] empty [] empty [] earlier later
      have hanswer : some earlier = some later :=
        (get?_merge_of_ne hkey earlier later).symm.trans
          (hlast (List.forall_mem_nil _) a List.mem_cons_self)
      exact absurd hanswer (by decide)
  · intro hkey front one middle other back earlier later tables
    have hsame : ∀ (table : LinkTable), ∀ label ∈ [a, b], table.get? label = table.get? a := by
      intro table label hlabel
      rcases List.mem_pair.mp hlabel with rfl | rfl
      · rfl
      · exact (table.get?_congr hkey).symm
    constructor
    · intro hback label hlabel
      rw [hsame _ label hlabel, get?, get?_merge]
      apply findSome?_reverse_eq_some_iff_lastDefines.mpr
      refine ⟨front ++ insert one a earlier :: middle, insert other b later, back, ?_, ?_, hback⟩
      · simp [tables]
      · rw [get?_insert, if_pos hkey]
    · intro hfront label hlabel
      rw [hsame _ label hlabel, get?, get?_merge]
      apply findSome?_eq_some_iff_firstDefines.mpr
      refine ⟨front, insert one a earlier, middle ++ insert other b later :: back, rfl, ?_, hfront⟩
      rw [get?_insert, if_pos rfl]

end LinkTable

end Spelling

/-- Spellings of one label have one key just when their words end in capital sigmas at the same
places, as they do without capital sigmas. Just then every table finds under one spelling what was
defined under the other one, and merging takes the two for one label. -/
theorem spellings_match {a b : Text} (h : SameSpelling a b) :
    (normalizeKey a = normalizeKey b ↔ SameFinalSigmas a b) ∧
    (LinkTable.Finds a b ↔ SameFinalSigmas a b) ∧
    (LinkTable.MergesAsOne a b ↔ SameFinalSigmas a b) ∧
    ('Σ' ∉ a → 'Σ' ∉ b → SameFinalSigmas a b) := by
  have hkeys := h.normalizeKey_eq_iff
  exact ⟨hkeys, LinkTable.finds_iff.trans hkeys, LinkTable.mergesAsOne_iff.trans hkeys,
    sameFinalSigmas_of_not_mem⟩

/-- A sigma at the end of a word in two spellings, and one that begins a word. -/
theorem spellings_match_capitals :
    let a := " ΣΑΣ  x".toList
    let b := "σαΣ\tX ".toList
    let definition : LinkDefinition := ⟨"u".toList, none⟩
    SameFinalSigmas a b ∧ (LinkTable.empty.insert a definition).get? b = some definition ∧
      LinkTable.MergesAsOne a b := by
  intro a b definition
  have hspelling : SameSpelling a b := by decide +kernel
  obtain ⟨hkeys, hfinds, hmerges, -⟩ := spellings_match hspelling
  have hsame : SameFinalSigmas a b := hkeys.mp (by decide +kernel)
  exact ⟨hsame, (hfinds.mpr hsame .empty definition).1, hmerges.mpr hsame⟩

/-- The word in capital letters ends in a sigma that becomes the final form, which the small letter
is not. -/
theorem spelling_not_found :
    SameSpelling "ασ".toList "ΑΣ".toList ∧
      normalizeKey "ασ".toList = "ασ".toList ∧ normalizeKey "ΑΣ".toList = "ας".toList ∧
      (LinkTable.empty.insert "ασ".toList ⟨"u".toList, none⟩).contains "ΑΣ".toList = false ∧
      (LinkTable.empty.insert "ασ".toList ⟨"u".toList, none⟩).get? "ΑΣ".toList = none := by
  decide +kernel

end Literate
