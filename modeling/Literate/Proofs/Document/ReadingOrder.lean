import Literate.Document.Basic
import Literate.Proofs.Dict
import Mathlib.Data.List.Induction
import Mathlib.Data.List.Nodup

/-!
# The reading order of a document

Every inline element of a document stands at an address: the index of its paragraph, and from there
on the indices on the way down to it. An element is read before the ones inside it and these one
after the other, so that the reading order is the order of addresses as words, and walks through the
tree list elements in that order.
-/

namespace Literate

/-- The way from the root of a tree down to a part of it, as indices of children. -/
abbrev Address := List Nat

/-- What stands in an item of a list, at the index of the item and an address in it. -/
inductive Among {α β : Type} (stands : β → Address → α → Prop) : List β → Address → α → Prop where
  | head {item : β} {items : List β} {place : Address} {element : α}
      (hplace : stands item place element) : Among stands (item :: items) (0 :: place) element
  | tail {item : β} {items : List β} {index : Nat} {place : Address} {element : α}
      (hrest : Among stands items (index :: place) element) :
      Among stands (item :: items) ((index + 1) :: place) element

/-- Where an inline element stands in another one, or is that one itself. -/
inductive Inline.StandsAt : Inline → Address → Inline → Prop where
  | here {inline : Inline} : StandsAt inline [] inline
  | strong {children : List Inline} {place : Address} {element : Inline}
      (hplace : Among StandsAt children place element) : StandsAt (.strong children) place element
  | emphasis {children : List Inline} {place : Address} {element : Inline}
      (hplace : Among StandsAt children place element) : StandsAt (.emphasis children) place element
  | strikethrough {children : List Inline} {place : Address} {element : Inline}
      (hplace : Among StandsAt children place element) :
      StandsAt (.strikethrough children) place element
  | link {dest title : Text} {children : List Inline} {place : Address} {element : Inline}
      (hplace : Among StandsAt children place element) :
      StandsAt (.link dest title children) place element
  | image {dest title : Text} {children : List Inline} {place : Address} {element : Inline}
      (hplace : Among StandsAt children place element) :
      StandsAt (.image dest title children) place element
  | linkReference {key : Text} {children : List Inline} {place : Address} {element : Inline}
      (hplace : Among StandsAt children place element) :
      StandsAt (.linkReference key children) place element
  | imageReference {key : Text} {children : List Inline} {place : Address} {element : Inline}
      (hplace : Among StandsAt children place element) :
      StandsAt (.imageReference key children) place element

/-- Where an inline element stands in a block. The rows of a table follow the row of its headers. -/
inductive Node.Shows : Node → Address → Inline → Prop where
  | paragraph {content : List Inline} {place : Address} {element : Inline}
      (hplace : Among Inline.StandsAt content place element) :
      Shows (.paragraph content) place element
  | heading {level : Nat} {content : List Inline} {place : Address} {element : Inline}
      (hplace : Among Inline.StandsAt content place element) :
      Shows (.heading level content) place element
  | quote {children : List Node} {place : Address} {element : Inline}
      (hplace : Among Shows children place element) : Shows (.quote children) place element
  | table {alignments : List Alignment} {headers : List (List Inline)}
      {rows : List (List (List Inline))} {place : Address} {element : Inline}
      (hplace : Among (Among (Among Inline.StandsAt)) (headers :: rows) place element) :
      Shows (.table alignments headers rows) place element
  | orderedList {start : Nat} {items : List (List Node)} {place : Address} {element : Inline}
      (hplace : Among (Among Shows) items place element) :
      Shows (.orderedList start items) place element
  | bulletList {items : List (List Node)} {place : Address} {element : Inline}
      (hplace : Among (Among Shows) items place element) :
      Shows (.bulletList items) place element

/-- Where an inline element stands in a paragraph, if that is prose. -/
inductive Paragraph.Shows : Paragraph → Address → Inline → Prop where
  | markdown {node : Node} {place : Address} {element : Inline}
      (hplace : node.Shows place element) : Shows (.markdown node) place element

/-- Where a document refers to a link or an image by a key. -/
def Document.RefersAt (d : Document) (place : Address) (key : Text) : Prop :=
  ∃ children, Among Paragraph.Shows d.paragraphs place (.linkReference key children) ∨
    Among Paragraph.Shows d.paragraphs place (.imageReference key children)

/-! ## Elements in the order of their places -/

/-- A list of all elements that stand somewhere, in the order of their places. An element that
stands at several places is listed for each of them. -/
def InOrder {α : Type} (stands : Address → α → Prop) (elements : List α) : Prop :=
  ∃ placed : List (Address × α), placed.map (·.2) = elements ∧
    placed.Pairwise (fun a b => a.1 < b.1) ∧
    ∀ place element, (place, element) ∈ placed ↔ stands place element

namespace InOrder

variable {α β : Type} {stands : Address → α → Prop} {elements : List α}

theorem filterMap (h : InOrder stands elements) (f : α → Option β) :
    InOrder (fun place b => ∃ a, stands place a ∧ f a = some b) (elements.filterMap f) := by
  obtain ⟨placed, rfl, hsorted, hmem⟩ := h
  refine ⟨placed.filterMap fun entry => (f entry.2).map (entry.1, ·), ?_, ?_, ?_⟩
  · rw [List.map_filterMap, List.filterMap_map]
    congr 1
    funext entry
    cases hf : f entry.2 <;> simp [hf]
  · refine List.pairwise_filterMap.mpr (hsorted.imp ?_)
    intro a b hlt
    simp only [Option.map_eq_some_iff, forall_exists_index, and_imp]
    rintro _ c - rfl _ d - rfl
    exact hlt
  · intro place b
    simp only [List.mem_filterMap, Option.map_eq_some_iff, Prod.mk.injEq, Prod.exists]
    constructor
    · rintro ⟨_, a, hentry, b, hb, rfl, rfl⟩
      exact ⟨a, (hmem _ _).mp hentry, hb⟩
    · rintro ⟨a, ha, hb⟩
      exact ⟨place, a, (hmem _ _).mpr ha, b, hb, rfl, rfl⟩

theorem congr {others : Address → α → Prop} (h : InOrder stands elements)
    (hiff : ∀ place element, stands place element ↔ others place element) :
    InOrder others elements := by
  obtain ⟨placed, helements, hsorted, hmem⟩ := h
  exact ⟨placed, helements, hsorted, fun place element => (hmem _ _).trans (hiff _ _)⟩

theorem filter (h : InOrder stands elements) (p : α → Bool) :
    InOrder (fun place a => stands place a ∧ p a = true) (elements.filter p) := by
  rw [← List.filterMap_eq_filter]
  refine (h.filterMap _).congr ?_
  intro place element
  simp only [Option.guard_eq_some_iff]
  constructor
  · rintro ⟨a, ha, rfl, hp⟩
    exact ⟨ha, hp⟩
  · exact fun ⟨ha, hp⟩ => ⟨element, ha, rfl, hp⟩

/-- An element in front of the ones that stand inside it. -/
theorem cons (h : InOrder stands elements) (hinside : ∀ element, ¬ stands [] element) (first : α) :
    InOrder (fun place element => (place = [] ∧ element = first) ∨ stands place element)
      (first :: elements) := by
  obtain ⟨placed, rfl, hsorted, hmem⟩ := h
  refine ⟨([], first) :: placed, rfl, List.pairwise_cons.mpr ⟨?_, hsorted⟩, ?_⟩
  · rintro ⟨place, element⟩ hentry
    cases place with
    | nil => exact absurd ((hmem _ _).mp hentry) (hinside element)
    | cons index place => exact List.nil_lt_cons index place
  · intro place element
    rw [List.mem_cons, hmem, Prod.mk.injEq]

end InOrder

/-! ## Items one after the other -/

/-- The same place with one more item in front. -/
def Address.behindOne : Address → Address
  | [] => []
  | index :: place => (index + 1) :: place

section Among

variable {α β : Type} {stands : β → Address → α → Prop} {item : β} {items : List β}
  {place : Address} {element : α}

theorem not_among_nil : ¬ Among stands [] place element := nofun

theorem Among.exists_cons (h : Among stands items place element) :
    ∃ index rest, place = index :: rest := by
  cases h <;> exact ⟨_, _, rfl⟩

theorem among_cons_iff : Among stands (item :: items) place element ↔
    (∃ rest, 0 :: rest = place ∧ stands item rest element) ∨
      ∃ rest, Address.behindOne rest = place ∧ Among stands items rest element := by
  constructor
  · rintro (hplace | hrest)
    · exact .inl ⟨_, rfl, hplace⟩
    · exact .inr ⟨_, rfl, hrest⟩
  · rintro (⟨rest, rfl, hplace⟩ | ⟨rest, rfl, hrest⟩)
    · exact .head hplace
    · obtain ⟨index, rest, rfl⟩ := hrest.exists_cons
      exact .tail hrest

/-- What stands in the items is read item by item. -/
theorem inOrder_flatMap {read : β → List α}
    (h : ∀ item ∈ items, InOrder (stands item) (read item)) :
    InOrder (Among stands items) (items.flatMap read) := by
  induction items with
  | nil => exact ⟨[], rfl, .nil, by simp [not_among_nil]⟩
  | cons item items ih =>
      obtain ⟨hitem, hitems⟩ := List.forall_mem_cons.mp h
      obtain ⟨front, hfront, hsorted, hmem⟩ := hitem
      obtain ⟨back, hback, hsorted', hmem'⟩ := ih hitems
      have hcons : ∀ entry ∈ back, ∃ index rest, entry.1 = index :: rest := fun entry hentry =>
        ((hmem' entry.1 entry.2).mp hentry).exists_cons
      refine ⟨front.map (fun entry => (0 :: entry.1, entry.2)) ++
        back.map (fun entry => (Address.behindOne entry.1, entry.2)), ?_, ?_, ?_⟩
      · simp [Function.comp_def, hfront, hback]
      · rw [List.pairwise_append, List.pairwise_map, List.pairwise_map]
        refine ⟨hsorted.imp fun hlt => List.cons_lt_cons_iff.mpr (.inr ⟨rfl, hlt⟩), ?_, ?_⟩
        · refine hsorted'.imp_of_mem ?_
          intro a b ha hb hlt
          obtain ⟨i, rest, hi⟩ := hcons a ha
          obtain ⟨j, other, hj⟩ := hcons b hb
          rw [hi, hj, List.cons_lt_cons_iff] at hlt
          simp only [hi, hj, Address.behindOne]
          rw [List.cons_lt_cons_iff]
          exact hlt.imp Nat.succ_lt_succ fun ⟨heq, hrest⟩ => ⟨congrArg Nat.succ heq, hrest⟩
        · simp only [List.mem_map, forall_exists_index, and_imp]
          rintro _ a - rfl _ b hb rfl
          obtain ⟨j, other, hj⟩ := hcons b hb
          simp only [hj, Address.behindOne]
          exact List.cons_lt_cons_iff.mpr (.inl j.succ_pos)
      · intro place element
        rw [among_cons_iff]
        simp [← hmem, ← hmem', and_comm]

end Among

/-! ## Walks -/

namespace Inline

theorem sizeOf_lt_of_mem_children {inline child : Inline} (h : child ∈ inline.children) :
    sizeOf child < sizeOf inline := by
  cases inline <;> simp only [children, List.not_mem_nil] at h
  all_goals
    have := List.sizeOf_lt_of_mem h
    simp only [strong.sizeOf_spec, emphasis.sizeOf_spec, strikethrough.sizeOf_spec,
      link.sizeOf_spec, image.sizeOf_spec, linkReference.sizeOf_spec, imageReference.sizeOf_spec]
    omega

theorem walkAll_eq (content : List Inline) : walkAll content = content.flatMap walk := by
  induction content with
  | nil => rfl
  | cons inline rest ih => rw [walkAll, ih, List.flatMap_cons]

/-- A walk visits an element and then all that is in it. -/
theorem walk_eq (inline : Inline) : inline.walk = inline :: inline.children.flatMap walk := by
  cases inline <;> simp [walk, children, walkAll_eq]

theorem standsAt_iff {inline element : Inline} {place : Address} :
    inline.StandsAt place element ↔
      (place = [] ∧ element = inline) ∨ Among StandsAt inline.children place element := by
  constructor
  · intro h
    cases h with
    | here => exact .inl ⟨rfl, rfl⟩
    | strong hplace | emphasis hplace | strikethrough hplace | link hplace | image hplace
    | linkReference hplace | imageReference hplace => exact .inr hplace
  · rintro (⟨rfl, rfl⟩ | hplace)
    · exact .here
    · cases inline with
      | strong _ => exact .strong hplace
      | emphasis _ => exact .emphasis hplace
      | strikethrough _ => exact .strikethrough hplace
      | link _ _ _ => exact .link hplace
      | image _ _ _ => exact .image hplace
      | linkReference _ _ => exact .linkReference hplace
      | imageReference _ _ => exact .imageReference hplace
      | text _ | code _ | html _ | softBreak | hardBreak => exact absurd hplace not_among_nil

/-- A walk through an element lists it and what is in it in reading order. -/
theorem inOrder_walk (inline : Inline) : InOrder inline.StandsAt inline.walk := by
  have hchildren : InOrder (Among StandsAt inline.children) (inline.children.flatMap walk) :=
    inOrder_flatMap fun child _ => inOrder_walk child
  have houtside : ∀ element, ¬ Among StandsAt inline.children [] element := by
    intro element h
    obtain ⟨index, rest, hnil⟩ := h.exists_cons
    cases hnil
  rw [walk_eq]
  exact (hchildren.cons houtside inline).congr fun _ _ => standsAt_iff.symm
termination_by sizeOf inline
decreasing_by exact sizeOf_lt_of_mem_children ‹_›

theorem inOrder_walkAll (content : List Inline) :
    InOrder (Among StandsAt content) (walkAll content) := by
  rw [walkAll_eq]
  exact inOrder_flatMap fun inline _ => inline.inOrder_walk

end Inline

namespace Node

theorem inlinesAll_eq (nodes : List Node) : inlinesAll nodes = nodes.flatMap inlines := by
  induction nodes with
  | nil => rfl
  | cons node rest ih => rw [inlinesAll, ih, List.flatMap_cons]

theorem inlinesItems_eq (items : List (List Node)) :
    inlinesItems items = items.flatMap fun item => item.flatMap inlines := by
  induction items with
  | nil => rfl
  | cons item rest ih => rw [inlinesItems, ih, List.flatMap_cons, inlinesAll_eq]

theorem inOrder_inlinesItems {items : List (List Node)}
    (h : ∀ item ∈ items, ∀ child ∈ item, InOrder child.Shows child.inlines) :
    InOrder (Among (Among Shows) items) (inlinesItems items) := by
  rw [inlinesItems_eq]
  exact inOrder_flatMap fun item hitem => inOrder_flatMap (h item hitem)

/-- The cells of the headers are read before those of the rows. -/
theorem inOrder_cells (headers : List (List Inline)) (rows : List (List (List Inline))) :
    InOrder (Among (Among (Among Inline.StandsAt)) (headers :: rows))
      ((headers ++ rows.flatten).flatMap Inline.walkAll) := by
  have hcells : (headers ++ rows.flatten).flatMap Inline.walkAll =
      (headers :: rows).flatMap fun row => row.flatMap Inline.walkAll := by
    rw [List.flatMap_append, List.flatMap_cons, ← List.flatMap_id', List.flatMap_assoc]
  rw [hcells]
  exact inOrder_flatMap fun row _ => inOrder_flatMap fun cell _ => Inline.inOrder_walkAll cell

/-- The inline elements of a block are listed in reading order. -/
theorem inOrder_inlines : ∀ node : Node, InOrder node.Shows node.inlines
  | .paragraph content => (Inline.inOrder_walkAll content).congr fun _ _ =>
      ⟨.paragraph, fun | .paragraph hplace => hplace⟩
  | .heading _ content => (Inline.inOrder_walkAll content).congr fun _ _ =>
      ⟨.heading, fun | .heading hplace => hplace⟩
  | .codeBlock _ _ | .html _ | .rule => ⟨[], rfl, .nil, fun _ _ => ⟨nofun, nofun⟩⟩
  | .quote children => by
      have hchildren : InOrder (Among Shows children) (inlinesAll children) := by
        rw [inlinesAll_eq]
        exact inOrder_flatMap fun child hchild => inOrder_inlines child
      exact hchildren.congr fun _ _ => ⟨.quote, fun | .quote hplace => hplace⟩
  | .table _ headers rows => (inOrder_cells headers rows).congr fun _ _ =>
      ⟨.table, fun | .table hplace => hplace⟩
  | .orderedList _ items =>
      (inOrder_inlinesItems fun item hitem child hchild => inOrder_inlines child).congr fun _ _ =>
        ⟨.orderedList, fun | .orderedList hplace => hplace⟩
  | .bulletList items =>
      (inOrder_inlinesItems fun item hitem child hchild => inOrder_inlines child).congr fun _ _ =>
        ⟨.bulletList, fun | .bulletList hplace => hplace⟩
termination_by node => sizeOf node
decreasing_by
  · have := List.sizeOf_lt_of_mem hchild
    simp only [quote.sizeOf_spec]
    omega
  all_goals
    have := Nat.lt_trans (List.sizeOf_lt_of_mem hchild) (List.sizeOf_lt_of_mem hitem)
    simp only [orderedList.sizeOf_spec, bulletList.sizeOf_spec]
    omega

end Node

theorem Paragraph.inOrder_inlines (paragraph : Paragraph) :
    InOrder paragraph.Shows paragraph.inlines := by
  cases paragraph with
  | markdown node =>
      exact node.inOrder_inlines.congr fun _ _ => ⟨.markdown, fun | .markdown hplace => hplace⟩
  | _ => exact ⟨[], rfl, .nil, fun _ _ => ⟨nofun, nofun⟩⟩

/-! ## First occurrences -/

section FirstOccurrences

variable {key : Text} {keys : List Text}

theorem mem_addNew {t : Text} : key ∈ addNew keys t ↔ key ∈ keys ∨ key = t := by
  rw [addNew]
  split
  next h =>
    have hmem : t ∈ keys := by simpa using h
    exact ⟨.inl, fun h => h.elim id fun heq => heq ▸ hmem⟩
  next => simp

theorem mem_foldl_addNew : key ∈ keys.foldl addNew [] ↔ key ∈ keys := by
  induction keys using List.reverseRecOn with
  | nil => rfl
  | append_singleton init last ih => simp [List.foldl_append, mem_addNew, ih]

theorem nodup_foldl_addNew (keys : List Text) : (keys.foldl addNew []).Nodup := by
  induction keys using List.reverseRecOn with
  | nil => exact .nil
  | append_singleton init last ih =>
      rw [List.foldl_append, List.foldl_cons, List.foldl_nil, addNew]
      split
      next => exact ih
      next hnew =>
        rw [← List.concat_eq_append, List.nodup_concat]
        exact ⟨by simpa using hnew, ih⟩

/-- Texts are kept in the order of their first occurrences. -/
theorem pairwise_foldl_addNew {placed : List (Address × Text)}
    (hsorted : placed.Pairwise fun a b => a.1 < b.1) :
    ((placed.map (·.2)).foldl addNew []).Pairwise fun key other =>
      ∃ place, (place, key) ∈ placed ∧ ∀ later, (later, other) ∈ placed → place < later := by
  induction placed using List.reverseRecOn with
  | nil => exact .nil
  | append_singleton init last ih =>
      obtain ⟨hinit, -, hlast⟩ := List.pairwise_append.mp hsorted
      have hbefore : ∀ entry ∈ init, entry.1 < last.1 := fun entry hentry =>
        hlast entry hentry last (List.mem_singleton_self last)
      -- The last entry stands behind all places of a text that occurs in front of it.
      have hkept := (ih hinit).imp fun {key other} ⟨place, hplace, hfirst⟩ =>
        show ∃ place, (place, key) ∈ init ++ [last] ∧
            ∀ later, (later, other) ∈ init ++ [last] → place < later from by
          refine ⟨place, List.mem_append_left _ hplace, ?_⟩
          intro later hlater
          rcases List.mem_append.mp hlater with hlater | hlater
          · exact hfirst later hlater
          · rw [← List.mem_singleton.mp hlater] at hbefore
            exact hbefore _ hplace
      rw [List.map_append, List.foldl_append, List.map_cons, List.map_nil, List.foldl_cons,
        List.foldl_nil, addNew]
      split
      next => exact hkept
      next hnew =>
        refine List.pairwise_append.mpr ⟨hkept, List.pairwise_singleton _ _, ?_⟩
        intro key hkey other hother
        obtain rfl := List.mem_singleton.mp hother
        obtain ⟨entry, hentry, rfl⟩ := List.mem_map.mp (mem_foldl_addNew.mp hkey)
        refine ⟨entry.1, List.mem_append_left _ hentry, ?_⟩
        intro later hlater
        rcases List.mem_append.mp hlater with hlater | hlater
        · have hmem : last.2 ∈ init.map (·.2) := List.mem_map.mpr ⟨_, hlater, rfl⟩
          rw [← mem_foldl_addNew] at hmem
          simp [hmem] at hnew
        · rw [← List.mem_singleton.mp hlater] at hbefore
          exact hbefore _ hentry

/-- The different texts among all those that stand somewhere, in the order of the places at which
they stand first. -/
theorem InOrder.foldl_addNew {stands : Address → Text → Prop} (h : InOrder stands keys) :
    (∀ key, key ∈ keys.foldl addNew [] ↔ ∃ place, stands place key) ∧
      (keys.foldl addNew []).Pairwise fun key other =>
        ∃ place, stands place key ∧ ∀ later, stands later other → place < later := by
  obtain ⟨placed, rfl, hsorted, hmem⟩ := h
  constructor
  · intro key
    simp [mem_foldl_addNew, hmem]
  · simpa only [hmem] using pairwise_foldl_addNew hsorted

end FirstOccurrences

theorem Inline.referenceKey?_eq_some_iff {inline : Inline} {key : Text} :
    inline.referenceKey? = some key ↔
      ∃ children, inline = .linkReference key children ∨ inline = .imageReference key children := by
  cases inline <;> simp [referenceKey?, eq_comm]

/-- The keys that a document refers to are listed in reading order. -/
theorem Document.inOrder_keys (d : Document) :
    InOrder d.RefersAt ((d.paragraphs.flatMap (·.inlines)).filterMap (·.referenceKey?)) := by
  have hinlines : InOrder (Among Paragraph.Shows d.paragraphs)
      (d.paragraphs.flatMap (·.inlines)) :=
    inOrder_flatMap fun paragraph _ => paragraph.inOrder_inlines
  refine (hinlines.filterMap (·.referenceKey?)).congr ?_
  intro place key
  simp only [Inline.referenceKey?_eq_some_iff, RefersAt]
  grind

/-- The unresolved links are the keys that a document refers to and its table has no entry for, once
each, in the order of the places at which the document refers to them first. -/
theorem unresolvedLinks_exact (d : Document) :
    d.unresolvedLinks.Nodup ∧
    (∀ key, key ∈ d.unresolvedLinks ↔
      (∃ place, d.RefersAt place key) ∧ normalizeKey key ∉ d.links.toList.map (·.1)) ∧
    d.unresolvedLinks.Pairwise fun key other =>
      ∃ place, d.RefersAt place key ∧ ∀ later, d.RefersAt later other → place < later := by
  have hlacks : ∀ key, (!d.links.contains key) = true ↔
      normalizeKey key ∉ d.links.toList.map (·.1) := by
    intro key
    rw [Bool.not_eq_true', ← Bool.not_eq_true]
    exact not_congr Dict.contains_iff_mem_keys
  obtain ⟨hmem, hfirst⟩ := (d.inOrder_keys.filter (!d.links.contains ·)).foldl_addNew
  simp only [hlacks, exists_and_right] at hmem hfirst
  refine ⟨nodup_foldl_addNew _, hmem, hfirst.imp_of_mem ?_⟩
  rintro key other - hother ⟨place, ⟨hplace, -⟩, hbefore⟩
  exact ⟨place, hplace, fun later hlater => hbefore later ⟨hlater, ((hmem other).mp hother).2⟩⟩

end Literate
