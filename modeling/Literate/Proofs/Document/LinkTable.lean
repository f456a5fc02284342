import Literate.Proofs.Document.LinkMerge
import Literate.Proofs.Text.LowerCase
import Literate.Proofs.Text.Words

/-!
# Link tables and their keys

A key is normalized when it is put into a table and again whenever it is looked up, but not when
tables are merged. This file shows that it makes no difference how often a key is normalized, and
that a table holds nothing but keys in normal form, however it was made.
-/

namespace Literate

/-- Words in lower case with one space between them. -/
def IsNormalKey (key : Text) : Prop :=
  ∃ ws : List Text, (∀ w ∈ ws, Text.IsWord w) ∧ (∀ c ∈ key, isLowerForm c = true) ∧
    key = List.intercalate [' '] ws

/-- Lower-casing words leaves the spaces between them, and no others. -/
theorem exists_words_lowerAfter {ws : List Text} (h : ∀ w ∈ ws, Text.IsWord w) (before : Text) :
    ∃ vs : List Text, (∀ v ∈ vs, Text.IsWord v) ∧
      lowerAfter before (List.intercalate [' '] ws) = List.intercalate [' '] vs ∧
      (ws ≠ [] → vs ≠ []) := by
  induction ws generalizing before with
  | nil => exact ⟨[], List.forall_mem_nil _, rfl, id⟩
  | cons w more ih =>
      obtain ⟨hw, hmore⟩ := List.forall_mem_cons.mp h
      by_cases hnil : more = []
      · subst hnil
        obtain ⟨v, hlower, hne, hblank⟩ := lowerAfter_append before w []
        have hv : Text.IsWord v := ⟨hne hw.ne_nil, hblank hw.not_isBlank⟩
        refine ⟨[v], List.forall_mem_singleton.mpr hv, ?_, fun _ => List.cons_ne_nil _ _⟩
        simpa [List.intercalate, lowerAfter] using hlower
      · obtain ⟨v, hlower, hne, hblank⟩ :=
          lowerAfter_append before w (' ' :: List.intercalate [' '] more)
        obtain ⟨vs, hvs, hrest, hvsne⟩ := ih hmore (' ' :: (w.reverse ++ before))
        have hv : Text.IsWord v := ⟨hne hw.ne_nil, hblank hw.not_isBlank⟩
        have hspace : isLowerForm ' ' = true :=
          isLowerForm_of_ascii (by decide) (.inl (by decide))
        refine ⟨v :: vs, List.forall_mem_cons.mpr ⟨hv, hvs⟩, ?_, fun _ => List.cons_ne_nil _ _⟩
        rw [List.intercalate_cons_of_ne_nil hnil, List.intercalate_cons_of_ne_nil (hvsne hnil),
          List.append_assoc, List.singleton_append, hlower, lowerAfter_cons_of_isLowerForm hspace,
          hrest, List.append_assoc, List.singleton_append]

theorem isNormalKey_normalizeKey (label : Text) : IsNormalKey (normalizeKey label) := by
  have hwords : ∀ w ∈ Text.words label, Text.IsWord w := fun _ => Text.isWord_of_mem_words
  obtain ⟨vs, hvs, hlower, -⟩ := exists_words_lowerAfter hwords []
  exact ⟨vs, hvs, fun _ => isLowerForm_of_mem_lowerAfter, hlower⟩

theorem IsNormalKey.normalizeKey_eq {key : Text} (h : IsNormalKey key) :
    normalizeKey key = key := by
  obtain ⟨ws, hws, hlower, rfl⟩ := h
  rw [normalizeKey, Text.words_intercalate hws]
  exact lowerAfter_of_isLowerForm [] hlower

theorem normalizeKey_normalizeKey (label : Text) :
    normalizeKey (normalizeKey label) = normalizeKey label :=
  (isNormalKey_normalizeKey label).normalizeKey_eq

namespace LinkTable

/-- A table that is made by defining labels and by merging tables. -/
inductive Reachable : LinkTable → Prop where
  | empty : Reachable .empty
  | insert {table : LinkTable} (htable : Reachable table) (label : Text)
      (definition : LinkDefinition) : Reachable (table.insert label definition)
  | ofList (pairs : List (Text × LinkDefinition)) : Reachable (.ofList pairs)
  | merge (policy : MergePolicy) {tables : List LinkTable}
      (htables : ∀ table ∈ tables, Reachable table) : Reachable (.merge policy tables)

/-- A table whose keys are in normal form. -/
def Normal (table : LinkTable) : Prop := ∀ entry ∈ table.toList, IsNormalKey entry.1

theorem normal_empty : Normal .empty := List.forall_mem_nil _

theorem Normal.insert {table : LinkTable} (h : table.Normal) (label : Text)
    (definition : LinkDefinition) : (table.insert label definition).Normal := by
  intro entry hentry
  rcases Dict.mem_putEntry hentry with rfl | hentry
  · exact isNormalKey_normalizeKey label
  · exact h entry hentry

theorem normal_ofList (pairs : List (Text × LinkDefinition)) : (ofList pairs).Normal := by
  induction pairs using List.reverseRecOn with
  | nil => exact normal_empty
  | append_singleton init pair ih =>
      rw [ofList, List.foldl_append]
      exact ih.insert pair.1 pair.2

/-- Merging makes no entries. -/
theorem exists_mem_of_mem_merge {policy : MergePolicy} {tables : List LinkTable}
    {entry : Text × LinkDefinition} (h : entry ∈ (merge policy tables).toList) :
    ∃ table ∈ tables, entry ∈ table.toList := by
  rw [toList, Dict.mem_entries_iff, get?_merge] at h
  obtain ⟨table, htable, hget⟩ := List.exists_of_findSome?_eq_some h
  exact ⟨table, MergePolicy.mem_asked.mp htable, Dict.mem_entries_iff.mpr hget⟩

theorem normal_merge (policy : MergePolicy) {tables : List LinkTable}
    (h : ∀ table ∈ tables, table.Normal) : (merge policy tables).Normal := by
  intro entry hentry
  obtain ⟨table, htable, hmem⟩ := exists_mem_of_mem_merge hentry
  exact h table htable entry hmem

theorem Reachable.normal {table : LinkTable} (h : table.Reachable) : table.Normal := by
  induction h with
  | empty => exact normal_empty
  | insert _ label definition ih => exact ih.insert label definition
  | ofList pairs => exact normal_ofList pairs
  | merge policy _ ih => exact normal_merge policy ih

/-- A label answers as its key does, however the key is written. -/
theorem get?_insert (table : LinkTable) (label : Text) (definition : LinkDefinition)
    (other : Text) :
    (table.insert label definition).get? other =
      if normalizeKey other = normalizeKey label then some definition else table.get? other :=
  Dict.get?_put table.dict (normalizeKey label) (normalizeKey other) definition

end LinkTable

/-- The keys of a table increase and are in normal form, which normalizing makes of every label and
then keeps. So a table answers to its own keys with what it holds under them, to a label as to its
key, and defining a label changes no other answers. -/
theorem reachable_represents {table : LinkTable} (h : table.Reachable) :
    (table.toList.map (·.1)).Pairwise (· < ·) ∧
    (∀ entry ∈ table.toList, IsNormalKey entry.1 ∧ normalizeKey entry.1 = entry.1 ∧
      table.get? entry.1 = some entry.2) ∧
    (∀ label, table.contains label = true ↔ normalizeKey label ∈ table.toList.map (·.1)) ∧
    (∀ label definition other, (table.insert label definition).get? other =
      if normalizeKey other = normalizeKey label then some definition else table.get? other) ∧
    ∀ label, IsNormalKey (normalizeKey label) ∧
      normalizeKey (normalizeKey label) = normalizeKey label := by
  have hkeys := h.normal
  refine ⟨List.pairwise_map.mpr table.dict.sorted, ?_, ?_, table.get?_insert, ?_⟩
  · intro entry hentry
    have hkey := (hkeys entry hentry).normalizeKey_eq
    refine ⟨hkeys entry hentry, hkey, ?_⟩
    rw [LinkTable.get?, hkey]
    exact Dict.mem_entries_iff.mp hentry
  · intro label
    exact Dict.contains_iff_mem_keys
  · exact fun label => ⟨isNormalKey_normalizeKey label, normalizeKey_normalizeKey label⟩

/-- A table merged from two tables that define one key, with capital letters that have no simple
lower-case form. -/
theorem reachable_represents_merged :
    let table : LinkTable := .merge .firstWins
      [.ofList [("ΣΑΣ \tİ".toList, ⟨"a".toList, none⟩)],
        LinkTable.empty.insert " σας i\u0307".toList ⟨"b".toList, none⟩]
    table.toList.map (·.1) = ["σας i\u0307".toList] ∧
      table.contains " Σας\nİ ".toList = true ∧
      table.get? "σας i\u0307".toList = some ⟨"a".toList, none⟩ := by
  intro table
  have hreachable : table.Reachable := by
    apply LinkTable.Reachable.merge
    intro part hpart
    rcases List.mem_pair.mp hpart with rfl | rfl
    · exact .ofList _
    · exact .insert .empty _ _
  obtain ⟨-, hentries, hcontains, -⟩ := reachable_represents hreachable
  have hkeys : table.toList.map (·.1) = ["σας i\u0307".toList] := by decide +kernel
  have hkey : normalizeKey " Σας\nİ ".toList ∈ table.toList.map (·.1) := by decide +kernel
  refine ⟨hkeys, (hcontains _).mpr hkey, ?_⟩
  exact (hentries ("σας i\u0307".toList, ⟨"a".toList, none⟩) (by decide +kernel)).2.2

end Literate
