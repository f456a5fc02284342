import Literate.Proofs.Document.Directives
import Literate.Proofs.Except

/-!
# Merging link tables

Merging puts the entries of the tables into one table, entry by entry. Seen from one label this is
a choice between the definitions that the tables have for it, and the policy alone says whether the
first or the last of them is chosen.
-/

namespace Literate

/-- The definition that a policy keeps of one that was there and one that comes later. -/
def MergePolicy.choose (policy : MergePolicy) (earlier later : Option LinkDefinition) :
    Option LinkDefinition :=
  match policy with
  | .lastWins => later.or earlier
  | .firstWins => earlier.or later

/-- Tables in the order in which a policy asks them for a definition. -/
def MergePolicy.asked (policy : MergePolicy) (tables : List LinkTable) : List LinkTable :=
  match policy with
  | .lastWins => tables.reverse
  | .firstWins => tables

namespace MergePolicy

theorem findSome?_asked_append (policy : MergePolicy) (answer : LinkTable → Option LinkDefinition)
    (front back : List LinkTable) :
    (policy.asked (front ++ back)).findSome? answer =
      policy.choose ((policy.asked front).findSome? answer)
        ((policy.asked back).findSome? answer) := by
  cases policy with
  | lastWins =>
      rw [asked, asked, asked, List.reverse_append, List.findSome?_append]
      rfl
  | firstWins =>
      rw [asked, asked, asked, List.findSome?_append]
      rfl

theorem findSome?_asked_singleton (policy : MergePolicy)
    (answer : LinkTable → Option LinkDefinition) (table : LinkTable) :
    (policy.asked [table]).findSome? answer = answer table := by
  cases policy <;> simp [asked]

theorem mem_asked {policy : MergePolicy} {tables : List LinkTable} {table : LinkTable} :
    table ∈ policy.asked tables ↔ table ∈ tables := by
  cases policy with
  | lastWins => exact List.mem_reverse
  | firstWins => rfl

end MergePolicy

namespace LinkTable

/-- The first of the tables that have a label defines it. -/
def FirstDefines (tables : List LinkTable) (label : Text) (definition : LinkDefinition) : Prop :=
  ∃ front table back, tables = front ++ table :: back ∧ table.get? label = some definition ∧
    ∀ other ∈ front, other.contains label = false

/-- The last of the tables that have a label defines it. -/
def LastDefines (tables : List LinkTable) (label : Text) (definition : LinkDefinition) : Prop :=
  ∃ front table back, tables = front ++ table :: back ∧ table.get? label = some definition ∧
    ∀ other ∈ back, other.contains label = false

variable {policy : MergePolicy} {tables : List LinkTable} {label : Text}
  {definition : LinkDefinition}

theorem contains_eq_false_iff {table : LinkTable} :
    table.contains label = false ↔ table.get? label = none := by
  rw [contains, Option.isSome_eq_false_iff, Option.isNone_iff_eq_none]

theorem merge_concat (policy : MergePolicy) (tables : List LinkTable) (table : LinkTable) :
    merge policy (tables ++ [table]) = addTable policy (merge policy tables) table := by
  rw [merge, List.foldl_append]
  rfl

/-! ## The definitions of one key -/

theorem get?_addEntry (policy : MergePolicy) (merged : LinkTable) (entry : Text × LinkDefinition)
    (key : Text) :
    (addEntry policy merged entry).dict.get? key =
      policy.choose (merged.dict.get? key) (if key = entry.1 then some entry.2 else none) := by
  by_cases hkey : key = entry.1
  · subst hkey
    cases policy with
    | lastWins => simp [addEntry, Dict.get?_put, MergePolicy.choose]
    | firstWins =>
        cases hmerged : merged.dict.get? entry.1 <;>
          simp [addEntry, Dict.contains, Dict.get?_put, MergePolicy.choose, hmerged]
  · rw [if_neg hkey]
    cases policy with
    | lastWins => simp [addEntry, Dict.get?_put, MergePolicy.choose, hkey]
    | firstWins =>
        rw [addEntry]
        split <;> simp [Dict.get?_put, MergePolicy.choose, hkey]

/-- Entries in the order of their keys hold one definition for a key, which is all that the policy
has to choose from. -/
theorem get?_foldl_addEntry (policy : MergePolicy) {merged : LinkTable}
    {entries : List (Text × LinkDefinition)} (h : entries.Pairwise fun a b => a.1 < b.1)
    (key : Text) :
    (entries.foldl (addEntry policy) merged).dict.get? key =
      policy.choose (merged.dict.get? key) (entries.lookup key) := by
  induction entries generalizing merged with
  | nil => cases policy <;> simp [MergePolicy.choose]
  | cons entry rest ih =>
      obtain ⟨k, definition⟩ := entry
      obtain ⟨hfirst, hrest⟩ := List.pairwise_cons.mp h
      rw [List.foldl_cons, ih hrest, get?_addEntry]
      by_cases hkey : key = k
      · subst hkey
        -- The keys behind are greater, so the policy has no later definition to choose from.
        have hnone : rest.lookup key = none := by
          rw [List.lookup_eq_none_iff]
          intro other hother
          rw [bne_iff_ne]
          intro heq
          exact List.lt_irrefl _ (heq ▸ hfirst other hother)
        cases policy <;> simp [MergePolicy.choose, hnone]
      · have hbeq : (key == k) = false := by simp [hkey]
        cases policy <;> simp [MergePolicy.choose, List.lookup_cons, hkey, hbeq]

theorem get?_addTable (policy : MergePolicy) (merged table : LinkTable) (key : Text) :
    (addTable policy merged table).dict.get? key =
      policy.choose (merged.dict.get? key) (table.dict.get? key) :=
  get?_foldl_addEntry policy table.dict.sorted key

/-- A merged table answers with the first answer of its tables, in the order of the policy. -/
theorem get?_merge (policy : MergePolicy) (tables : List LinkTable) (key : Text) :
    (merge policy tables).dict.get? key =
      (policy.asked tables).findSome? fun table => table.dict.get? key := by
  induction tables using List.reverseRecOn with
  | nil => cases policy <;> rfl
  | append_singleton init table ih =>
      rw [merge_concat, get?_addTable, ih, policy.findSome?_asked_append,
        policy.findSome?_asked_singleton]

/-- Tables that answer alike are equal. -/
theorem ext_get? {table other : LinkTable}
    (h : ∀ key, table.dict.get? key = other.dict.get? key) : table = other := by
  apply LinkTable.ext
  apply Dict.ext_get?
  intro key value
  rw [h key]

theorem findSome?_eq_some_iff_firstDefines :
    (tables.findSome? fun table => table.get? label) = some definition ↔
      FirstDefines tables label definition := by
  simp only [FirstDefines, List.findSome?_eq_some_iff, contains_eq_false_iff]

theorem findSome?_reverse_eq_some_iff_lastDefines :
    (tables.reverse.findSome? fun table => table.get? label) = some definition ↔
      LastDefines tables label definition := by
  rw [List.findSome?_eq_some_iff]
  constructor
  · rintro ⟨back, table, front, htables, htable, hback⟩
    refine ⟨front.reverse, table, back.reverse, ?_, htable, ?_⟩
    · rw [← List.reverse_reverse tables, htables]
      simp
    · intro other hother
      exact contains_eq_false_iff.mpr (hback other (List.mem_reverse.mp hother))
  · rintro ⟨front, table, back, rfl, htable, hback⟩
    refine ⟨back.reverse, table, front.reverse, by simp, htable, ?_⟩
    intro other hother
    exact contains_eq_false_iff.mp (hback other (List.mem_reverse.mp hother))

/-- Merging parts first makes no difference. -/
theorem merge_append (policy : MergePolicy) (front back : List LinkTable) :
    merge policy (front ++ back) = merge policy [merge policy front, merge policy back] := by
  apply ext_get?
  intro key
  rw [get?_merge, get?_merge, ← List.singleton_append, policy.findSome?_asked_append,
    policy.findSome?_asked_append, policy.findSome?_asked_singleton,
    policy.findSome?_asked_singleton, get?_merge, get?_merge]

theorem merge_firstWins (tables : List LinkTable) :
    merge .firstWins tables = merge .lastWins tables.reverse := by
  apply ext_get?
  intro key
  rw [get?_merge, get?_merge, MergePolicy.asked, MergePolicy.asked, List.reverse_reverse]

end LinkTable

/-! ## The links of a script -/

/-- Assembly keeps the tables of the comments, and no other tables. -/
theorem assemble_tables {readProse : Text → Prose} {blocks : List Block} {a : Assembled}
    (h : assemble readProse blocks = .ok a) :
    a.tables = blocks.filterMap (Block.links? readProse) := by
  fun_induction assemble readProse blocks generalizing a with
  | case1 =>
      cases h
      rfl
  | case2 text more prose =>
      rename_i ih
      obtain ⟨b, hb, rfl⟩ := exists_of_map_eq_ok h
      exact congrArg (prose.links :: ·) (ih hb)
  | case3 _ more ih | case5 _ more _ _ ih | case8 _ _ _ _ more ih =>
      obtain ⟨b, hb, rfl⟩ := exists_of_map_eq_ok h
      have htables := ih hb
      exact htables
  | case4 => cases h
  | case6 d hmeaning lines more ih => exact ih h
  | case7 => cases h
  | case9 => cases h

/-- Links are resolved by the merge policy: by the last or by the first of the tables that have a
label, however the tables are grouped. The tables of a script are those of its comments. -/
theorem merge_resolves (policy : MergePolicy) (tables : List LinkTable) :
    (∀ label definition, (LinkTable.merge .lastWins tables).get? label = some definition ↔
      LinkTable.LastDefines tables label definition) ∧
    (∀ label definition, (LinkTable.merge .firstWins tables).get? label = some definition ↔
      LinkTable.FirstDefines tables label definition) ∧
    (∀ label, (LinkTable.merge policy tables).get? label = none ↔
      ∀ table ∈ tables, table.contains label = false) ∧
    (∀ front back, tables = front ++ back → LinkTable.merge policy tables =
      LinkTable.merge policy [LinkTable.merge policy front, LinkTable.merge policy back]) ∧
    LinkTable.merge .firstWins tables = LinkTable.merge .lastWins tables.reverse ∧
    ∀ readProse blocks paragraphs links,
      transformBlocks readProse policy blocks = .ok (paragraphs, links) →
        links = LinkTable.merge policy (blocks.filterMap (Block.links? readProse)) := by
  refine ⟨?_, ?_, ?_, ?_, LinkTable.merge_firstWins tables, ?_⟩
  · intro label definition
    rw [← LinkTable.findSome?_reverse_eq_some_iff_lastDefines, LinkTable.get?,
      LinkTable.get?_merge]
    rfl
  · intro label definition
    rw [← LinkTable.findSome?_eq_some_iff_firstDefines, LinkTable.get?,
      LinkTable.get?_merge]
    rfl
  · intro label
    rw [LinkTable.get?, LinkTable.get?_merge, List.findSome?_eq_none_iff]
    simp only [LinkTable.contains_eq_false_iff, MergePolicy.mem_asked, LinkTable.get?]
  · rintro front back rfl
    exact LinkTable.merge_append policy front back
  · intro readProse blocks paragraphs links h
    obtain ⟨a, ha, hpair⟩ := exists_of_map_eq_ok h
    cases hpair
    rw [assemble_tables ha]

/-- Tables that define one key more than once, and a script of two comments with a snippet between
them. -/
theorem merge_resolves_redefined :
    let one : LinkTable := .ofList [("Docs".toList, ⟨"a".toList, none⟩)]
    let two : LinkTable := .ofList [("docs".toList, ⟨"b".toList, none⟩), ("x".toList, ⟨[], none⟩)]
    let three : LinkTable := .ofList [("x".toList, ⟨"c".toList, none⟩)]
    let readProse : Text → Prose := fun text => ⟨[], if text = ['1'] then one else two⟩
    let blocks : List Block := [.comment ['2'], .snippet [], .comment ['1']]
    (LinkTable.merge .lastWins [one, two, three]).get? "DOCS".toList =
        some ⟨"b".toList, none⟩ ∧
      (LinkTable.merge .firstWins [one, two, three]).get? "DOCS".toList =
        some ⟨"a".toList, none⟩ ∧
      ∃ links, transformBlocks readProse .firstWins blocks = .ok ([], links) ∧
        links = LinkTable.merge .firstWins [two, one] := by
  intro one two three readProse blocks
  obtain ⟨hlast, hfirst, -, -, -, hblocks⟩ := merge_resolves .firstWins [one, two, three]
  refine ⟨(hlast _ _).mpr ?_, (hfirst _ _).mpr ?_, ?_⟩
  · exact ⟨[one], two, [three], rfl, by decide +kernel, by decide +kernel⟩
  · exact ⟨[], one, [two, three], rfl, by decide +kernel, by decide +kernel⟩
  · exact ⟨_, rfl, hblocks readProse blocks [] _ rfl⟩

end Literate
