import Literate.Block.Directive
import Literate.Proofs.Dict
import Literate.Proofs.Script.Nesting
import Literate.Proofs.Text.Blank
import Literate.Proofs.Text.Break
import Literate.Proofs.Text.Occurrence
import Literate.Proofs.Text.Trim
import Mathlib.Data.List.Infix
import Mathlib.Data.List.TakeWhile

/-!
# Directives as they are written

A directive is written on one line with all values in double quotes. This text is read as the
directive again, and it is one comment of its own.
-/

namespace Literate

namespace Directive

/-- An entry as it is written: the key, a colon and the value in double quotes. -/
def writtenEntry (entry : Text × Text) : Text :=
  entry.1 ++ ':' :: '"' :: (entry.2 ++ ['"'])

/-- The entries of a directive as they are written. -/
def writtenEntries (entries : List (Text × Text)) : Text :=
  List.intercalate [',', ' '] (entries.map writtenEntry)

/-- The text of a directive with some entries, in their order. -/
def spelled (entries : List (Text × Text)) : Text :=
  opening ++ ' ' :: (writtenEntries entries ++ ' ' :: closing)

/-- A directive as it is written. -/
def written (options : Dict Text) : Text := spelled options.entries

/-- An entry that can be written: a key, and a value that breaks neither the quotes nor the line
nor the comment around it. -/
structure IsWritable (entry : Text × Text) : Prop where
  key : isKey entry.1 = true
  no_quote : '"' ∉ entry.2
  no_feed : '\n' ∉ entry.2
  no_opener : ¬ ['(', '*'] <:+: entry.2
  no_closer : ¬ ['*', ')'] <:+: entry.2

instance (entry : Text × Text) : Decidable (IsWritable entry) :=
  decidable_of_iff (isKey entry.1 = true ∧ '"' ∉ entry.2 ∧ '\n' ∉ entry.2 ∧
      ¬ ['(', '*'] <:+: entry.2 ∧ ¬ ['*', ')'] <:+: entry.2)
    ⟨fun h => ⟨h.1, h.2.1, h.2.2.1, h.2.2.2.1, h.2.2.2.2⟩, fun h => ⟨h.1, h.2, h.3, h.4, h.5⟩⟩

/-- An entry that is read again as it is written: a key, and a value that breaks neither the
quotes nor the line nor the envelope around it. -/
structure IsSpellable (entry : Text × Text) : Prop where
  key : isKey entry.1 = true
  no_quote : '"' ∉ entry.2
  no_feed : '\n' ∉ entry.2
  no_opening : ¬ opening <:+: entry.2
  no_closing : ¬ closing <:+: entry.2

instance (entry : Text × Text) : Decidable (IsSpellable entry) :=
  decidable_of_iff (isKey entry.1 = true ∧ '"' ∉ entry.2 ∧ '\n' ∉ entry.2 ∧
      ¬ opening <:+: entry.2 ∧ ¬ closing <:+: entry.2)
    ⟨fun h => ⟨h.1, h.2.1, h.2.2.1, h.2.2.2.1, h.2.2.2.2⟩, fun h => ⟨h.1, h.2, h.3, h.4, h.5⟩⟩

theorem IsWritable.isSpellable {entry : Text × Text} (h : IsWritable entry) :
    IsSpellable entry where
  key := h.key
  no_quote := h.no_quote
  no_feed := h.no_feed
  no_opening hoccurs := h.no_opener (List.IsInfix.trans ⟨[], ['*', '*'], rfl⟩ hoccurs)
  no_closing hoccurs := h.no_closer (List.IsInfix.trans ⟨['*', '*'], [], rfl⟩ hoccurs)

/-! ## Characters of keys -/

theorem not_isBlank_of_isKeyChar {c : Char} (h : isKeyChar c = true) : isBlank c = false := by
  refine Bool.eq_false_iff.mpr ?_
  intro hblank
  rw [isKeyChar, isAlphanum_eq_false_of_isBlank hblank, Bool.false_or, Bool.or_eq_true,
    beq_iff_eq, beq_iff_eq] at h
  rcases h with rfl | rfl
  · exact absurd hblank (by decide)
  · exact absurd hblank (by decide)

theorem ne_of_isKeyChar {c : Char} (h : isKeyChar c = true) {d : Char} (hd : isKeyChar d = false) :
    c ≠ d := by
  rintro rfl
  simp [h] at hd

theorem isNoMark_of_isKeyChar {c : Char} (h : isKeyChar c = true) : IsNoMark c :=
  ⟨ne_of_isKeyChar h (by decide), ne_of_isKeyChar h (by decide), ne_of_isKeyChar h (by decide)⟩

/-! ## One entry -/

theorem unquoted_quoted (inner : Text) : unquoted ('"' :: (inner ++ ['"'])) = inner := by
  have hlead : List.isPrefixOf? ['"'] ('"' :: (inner ++ ['"'])) = some (inner ++ ['"']) :=
    List.isPrefixOf?_eq_some_iff_append_eq.mpr rfl
  have htail : List.isSuffixOf? ['"'] (inner ++ ['"']) = some inner :=
    List.isSuffixOf?_eq_some_iff_append_eq.mpr rfl
  simp only [unquoted, hlead, htail, Option.getD_some]

theorem entry?_bare {entry core : Text} (htrim : Text.trim entry = core)
    (hcore : ∀ c ∈ core, isSeparator c = false) :
    entry? entry = if isKey (Text.trim core) then some (Text.trim core, []) else none := by
  have hnot : ∀ c ∈ core, (!isSeparator c) = true := fun c hc => by rw [hcore c hc]; rfl
  have htake : core.takeWhile (!isSeparator ·) = core := List.takeWhile_eq_self_iff.mpr hnot
  have hdrop : core.dropWhile (!isSeparator ·) = [] := List.dropWhile_eq_nil_iff.mpr hnot
  unfold entry?
  simp only [htrim, htake, hdrop]
  rfl

theorem entry?_valued {entry lead rest : Text} {separator : Char}
    (htrim : Text.trim entry = lead ++ separator :: rest)
    (hlead : ∀ c ∈ lead, isSeparator c = false) (hseparator : isSeparator separator = true) :
    entry? entry =
      if isKey (Text.trim lead) then some (Text.trim lead, unquoted (Text.trim rest))
      else none := by
  have hnot : ∀ c ∈ lead, (!isSeparator c) = true := fun c hc => by rw [hlead c hc]; rfl
  unfold entry?
  simp only [htrim, List.takeWhile_append_of_pos hnot, List.dropWhile_append_of_pos hnot,
    List.takeWhile_cons, List.dropWhile_cons, hseparator, Bool.not_true, Bool.false_eq_true,
    if_false, List.append_nil, List.drop_one, List.tail_cons]

/-- A text made of marks of comments, with a star, like both ends of the envelope. -/
structure IsEnd (part : Text) : Prop where
  star : '*' ∈ part
  marks : ∀ c ∈ part, c = '(' ∨ c = '*' ∨ c = ')'

theorem isEnd_opening : IsEnd opening where
  star := by decide
  marks := by
    change ∀ c ∈ ['(', '*', '*', '*'], c = '(' ∨ c = '*' ∨ c = ')'
    simp

theorem isEnd_closing : IsEnd closing where
  star := by decide
  marks := by
    change ∀ c ∈ ['*', '*', '*', ')'], c = '(' ∨ c = '*' ∨ c = ')'
    simp

theorem IsEnd.not_mem {part : Text} (h : IsEnd part) {c : Char}
    (hc : ¬ (c = '(' ∨ c = '*' ∨ c = ')')) : c ∉ part :=
  fun hmem => hc (h.marks c hmem)

theorem IsEnd.not_infix_nil {part : Text} (h : IsEnd part) : ¬ part <:+: [] := by
  intro hoccurs
  have hstar := hoccurs.subset h.star
  simp at hstar

namespace IsSpellable

variable {entry : Text × Text}

theorem key_ne_nil (h : IsSpellable entry) : entry.1 ≠ [] := by
  have hkey := h.key
  rw [isKey, Bool.and_eq_true] at hkey
  simpa using hkey.1

theorem isKeyChar (h : IsSpellable entry) : ∀ c ∈ entry.1, Directive.isKeyChar c = true := by
  have hkey := h.key
  rw [isKey, Bool.and_eq_true] at hkey
  exact List.all_eq_true.mp hkey.2

theorem trimmed_key (h : IsSpellable entry) : Text.Trimmed entry.1 where
  head := fun c hc => not_isBlank_of_isKeyChar (h.isKeyChar c (List.mem_of_mem_head? hc))
  last := fun c hc => not_isBlank_of_isKeyChar (h.isKeyChar c (List.mem_of_mem_getLast? hc))

theorem trimmed_quoted (value : Text) : Text.Trimmed ('"' :: (value ++ ['"'])) := by
  have hlast : ('"' :: (value ++ ['"'])).getLast? = some '"' := by
    rw [← List.cons_append, List.getLast?_concat]
  exact .of_ends rfl hlast (by decide) (by decide)

theorem trimmed (h : IsSpellable entry) : Text.Trimmed (writtenEntry entry) where
  head := by
    obtain ⟨c, key, hkey⟩ := List.exists_cons_of_ne_nil h.key_ne_nil
    intro d hd
    apply h.trimmed_key.head d
    rw [hkey]
    rw [writtenEntry, hkey] at hd
    exact hd
  last := by
    intro c hc
    have hend : writtenEntry entry = (entry.1 ++ ':' :: '"' :: entry.2) ++ ['"'] := by
      simp [writtenEntry]
    rw [hend, List.getLast?_concat] at hc
    obtain rfl := Option.mem_some.mp hc
    decide

/-- A written entry is read as the entry, also with blanks in front of it. -/
theorem entry?_eq (h : IsSpellable entry) (lead : Text) (hlead : lead.all isBlank = true) :
    entry? (lead ++ writtenEntry entry) = some entry := by
  have htrim := Text.trim_append h.trimmed lead [] hlead rfl
  have hkey : ∀ c ∈ entry.1, isSeparator c = false := by
    intro c hc
    have hcolon := ne_of_isKeyChar (h.isKeyChar c hc) (d := ':') (by decide)
    have hequals := ne_of_isKeyChar (h.isKeyChar c hc) (d := '=') (by decide)
    simp [isSeparator, hcolon, hequals]
  rw [List.append_nil, writtenEntry] at htrim
  rw [writtenEntry, entry?_valued htrim hkey (by decide), Text.trim_of_trimmed h.trimmed_key,
    Text.trim_of_trimmed (trimmed_quoted entry.2), unquoted_quoted, h.key]
  rfl

theorem no_feed_written (h : IsSpellable entry) : '\n' ∉ writtenEntry entry := by
  have hkey : '\n' ∉ entry.1 := fun hmem => absurd (h.isKeyChar _ hmem) (by decide)
  simp [writtenEntry, hkey, h.no_feed]

/-- A text with a star that begins or ends a mark occurs in a written entry only in the value. -/
theorem infix_value (h : IsSpellable entry) {part : Text} (hpart : IsEnd part)
    (hoccurs : part <:+: writtenEntry entry) : part <:+: entry.2 := by
  rcases Text.infix_append_cons (hpart.not_mem (by decide)) hoccurs with hkey | hrest
  · exact absurd (h.isKeyChar _ (hkey.subset hpart.star)) (by decide)
  have hquote : '"' ∉ part := hpart.not_mem (by decide)
  have hinner : part <:+: entry.2 ++ '"' :: [] :=
    (Text.infix_append_cons (s := []) hquote hrest).resolve_left hpart.not_infix_nil
  exact (Text.infix_append_cons hquote hinner).resolve_right hpart.not_infix_nil

end IsSpellable

theorem IsWritable.unmarked {entry : Text × Text} (h : IsWritable entry) :
    Unmarked (writtenEntry entry) := by
  have hkey : Unmarked entry.1 :=
    unmarked_of_isNoMark fun c hc => isNoMark_of_isKeyChar (h.isSpellable.isKeyChar c hc)
  have hvalue : Unmarked entry.2 := unmarked_of_not_infix h.no_opener h.no_closer
  have hquote : IsNoMark '"' := by decide
  have hcolon : IsNoMark ':' := by decide
  exact hkey.append hcolon ⟨hquote.begins _, hvalue.append hquote trivial⟩

/-! ## Several entries -/

theorem entriesFrom_ne_nil (quoted : Bool) (t : Text) : entriesFrom quoted t ≠ [] := by
  cases t with
  | nil => simp [entriesFrom]
  | cons c t =>
      rw [entriesFrom]
      split
      · simp
      · split <;> simp

theorem entriesFrom_cons {quoted : Bool} {c : Char} (h : ¬ (c = ',' ∧ quoted = false)) (t : Text) :
    entriesFrom quoted (c :: t) =
      (entriesFrom (if c = '"' then !quoted else quoted) t).modifyHead (c :: ·) := by
  rw [entriesFrom, if_neg h]
  cases hentries : entriesFrom (if c = '"' then !quoted else quoted) t with
  | nil => exact absurd hentries (entriesFrom_ne_nil _ _)
  | cons entry more => rfl

/-- Text without quotes, and without commas unless it is quoted, belongs to one entry. -/
theorem entriesFrom_append {quoted : Bool} {s : Text}
    (h : ∀ c ∈ s, c ≠ '"' ∧ (c = ',' → quoted = true)) (t : Text) :
    entriesFrom quoted (s ++ t) = (entriesFrom quoted t).modifyHead (s ++ ·) := by
  induction s with
  | nil => cases hentries : entriesFrom quoted t <;> simp [hentries]
  | cons c s ih =>
      obtain ⟨hquote, hcomma⟩ := h c List.mem_cons_self
      have hnot : ¬ (c = ',' ∧ quoted = false) := by
        rintro ⟨rfl, hquoted⟩
        simp [hcomma rfl] at hquoted
      rw [List.cons_append, entriesFrom_cons hnot, if_neg hquote,
        ih fun d hd => h d (List.mem_cons_of_mem c hd), List.modifyHead_modifyHead]
      rfl

/-- A written entry is one entry together with what follows it up to the next comma. -/
theorem IsSpellable.entriesFrom_eq {entry : Text × Text} (h : IsSpellable entry) (t : Text) :
    entriesFrom false (writtenEntry entry ++ t) =
      (entriesFrom false t).modifyHead (writtenEntry entry ++ ·) := by
  have hkey : ∀ c ∈ entry.1, c ≠ '"' ∧ (c = ',' → false = true) := by
    intro c hc
    refine ⟨ne_of_isKeyChar (h.isKeyChar c hc) (by decide), fun hcomma => ?_⟩
    exact absurd hcomma (ne_of_isKeyChar (h.isKeyChar c hc) (by decide))
  have hvalue : ∀ c ∈ entry.2, c ≠ '"' ∧ (c = ',' → true = true) := by
    intro c hc
    refine ⟨?_, fun _ => rfl⟩
    rintro rfl
    exact h.no_quote hc
  rw [writtenEntry, List.append_assoc, entriesFrom_append hkey]
  simp only [List.cons_append, List.append_assoc, List.nil_append]
  rw [entriesFrom_cons (by simp), entriesFrom_cons (by simp)]
  simp only [if_true, if_neg (show ¬ ':' = '"' by decide), Bool.not_false]
  rw [entriesFrom_append hvalue, entriesFrom_cons (by simp)]
  simp [List.modifyHead_modifyHead, Function.comp_def]

theorem writtenEntries_singleton (entry : Text × Text) :
    writtenEntries [entry] = writtenEntry entry := by
  rw [writtenEntries, List.map_singleton, List.intercalate_singleton]

theorem writtenEntries_cons_cons (first next : Text × Text) (more : List (Text × Text)) :
    writtenEntries (first :: next :: more) =
      writtenEntry first ++ ',' :: ' ' :: writtenEntries (next :: more) := by
  simp [writtenEntries, List.intercalate_cons_cons]

/-- Between commas the written entries are found again, with blanks in front of all but the
first. -/
theorem entriesFrom_writtenEntries {first : Text × Text} {more : List (Text × Text)}
    (h : ∀ entry ∈ first :: more, IsSpellable entry) :
    entriesFrom false (writtenEntries (first :: more)) =
      writtenEntry first :: more.map (fun entry => ' ' :: writtenEntry entry) := by
  have hfirst := h first List.mem_cons_self
  induction more generalizing first with
  | nil =>
      have hsingle := hfirst.entriesFrom_eq []
      rw [List.append_nil] at hsingle
      rw [writtenEntries_singleton, hsingle]
      simp [entriesFrom]
  | cons next more ih =>
      have hmore := ih (fun entry hentry => h entry (List.mem_cons_of_mem first hentry))
        (h next (by simp))
      have hcomma : entriesFrom false (',' :: ' ' :: writtenEntries (next :: more)) =
          [] :: (entriesFrom false (writtenEntries (next :: more))).modifyHead (' ' :: ·) := by
        rw [entriesFrom, if_pos ⟨rfl, rfl⟩, entriesFrom_cons (by simp)]
        rfl
      rw [writtenEntries_cons_cons, hfirst.entriesFrom_eq, hcomma, hmore]
      simp

theorem unmarked_writtenEntries {entries : List (Text × Text)}
    (h : ∀ entry ∈ entries, IsWritable entry) : Unmarked (writtenEntries entries) := by
  have hcomma : IsNoMark ',' := by decide
  have hblank : IsNoMark ' ' := by decide
  induction entries with
  | nil => trivial
  | cons first more ih =>
      have hfirst := (h first List.mem_cons_self).unmarked
      have hmore := ih fun entry hentry => h entry (List.mem_cons_of_mem first hentry)
      cases more with
      | nil => rwa [writtenEntries_singleton]
      | cons next more =>
          rw [writtenEntries_cons_cons]
          exact hfirst.append hcomma ⟨hblank.begins _, hmore⟩

/-! ## The whole directive -/

/-- Options that can be written as a directive. -/
structure CanBeWritten (options : Dict Text) : Prop where
  ne_nil : options.entries ≠ []
  writable : ∀ entry ∈ options.entries, IsWritable entry

instance (options : Dict Text) : Decidable (CanBeWritten options) :=
  decidable_of_iff (options.entries ≠ [] ∧ ∀ entry ∈ options.entries, IsWritable entry)
    ⟨fun h => ⟨h.1, h.2⟩, fun h => ⟨h.1, h.2⟩⟩

theorem writtenEntry_ne_nil (entry : Text × Text) : writtenEntry entry ≠ [] := by
  simp [writtenEntry]

theorem writtenEntries_ne_nil {entries : List (Text × Text)} (h : entries ≠ []) :
    writtenEntries entries ≠ [] := by
  obtain ⟨first, more, rfl⟩ := List.exists_cons_of_ne_nil h
  cases more with
  | nil =>
      rw [writtenEntries_singleton]
      exact writtenEntry_ne_nil first
  | cons next more => simp [writtenEntries_cons_cons]

theorem writtenEntries_trimmed {entries : List (Text × Text)}
    (h : ∀ entry ∈ entries, IsSpellable entry) : Text.Trimmed (writtenEntries entries) := by
  induction entries with
  | nil => exact ⟨by simp [writtenEntries], by simp [writtenEntries]⟩
  | cons first more ih =>
      have hfirst := (h first List.mem_cons_self).trimmed
      have hmore := ih fun entry hentry => h entry (List.mem_cons_of_mem first hentry)
      cases more with
      | nil => rwa [writtenEntries_singleton]
      | cons next more =>
          rw [writtenEntries_cons_cons]
          exact hfirst.surround hmore (writtenEntry_ne_nil first)
            (writtenEntries_ne_nil (by simp)) [',', ' ']

/-- Written entries with blanks in front of them are read one by one. -/
theorem mapM_entry?_written {entries : List (Text × Text)}
    (h : ∀ entry ∈ entries, IsSpellable entry) :
    (entries.map fun entry => ' ' :: writtenEntry entry).mapM entry? = some entries := by
  induction entries with
  | nil => rfl
  | cons first more ih =>
      have hfirst := (h first List.mem_cons_self).entry?_eq [' '] (by decide)
      rw [List.map_cons, List.mapM_cons,
        ih fun entry hentry => h entry (List.mem_cons_of_mem first hentry)]
      rw [List.singleton_append] at hfirst
      rw [hfirst]
      rfl

theorem no_feed_writtenEntries {entries : List (Text × Text)}
    (h : ∀ entry ∈ entries, IsSpellable entry) : '\n' ∉ writtenEntries entries := by
  induction entries with
  | nil => simp [writtenEntries]
  | cons first more ih =>
      have hfirst := (h first List.mem_cons_self).no_feed_written
      have hmore := ih fun entry hentry => h entry (List.mem_cons_of_mem first hentry)
      cases more with
      | nil => rwa [writtenEntries_singleton]
      | cons next more => simp [writtenEntries_cons_cons, hfirst, hmore]

/-- An end of the envelope occurs in written entries only in one of the values. -/
theorem infix_writtenEntries {entries : List (Text × Text)}
    (h : ∀ entry ∈ entries, IsSpellable entry) {part : Text} (hpart : IsEnd part)
    (hoccurs : part <:+: writtenEntries entries) : ∃ entry ∈ entries, part <:+: entry.2 := by
  induction entries with
  | nil => exact absurd hoccurs hpart.not_infix_nil
  | cons first more ih =>
      have hfirst := fun hin => (h first List.mem_cons_self).infix_value hpart hin
      cases more with
      | nil =>
          rw [writtenEntries_singleton] at hoccurs
          exact ⟨first, List.mem_cons_self, hfirst hoccurs⟩
      | cons next more =>
          rw [writtenEntries_cons_cons] at hoccurs
          rcases Text.infix_append_cons (hpart.not_mem (by decide)) hoccurs with hin | hrest
          · exact ⟨first, List.mem_cons_self, hfirst hin⟩
          have hblank : ' ' ∉ part := hpart.not_mem (by decide)
          have hmore := (Text.infix_append_cons (s := []) hblank hrest).resolve_left
            hpart.not_infix_nil
          obtain ⟨entry, hentry, hin⟩ :=
            ih (fun entry hentry => h entry (List.mem_cons_of_mem first hentry)) hmore
          exact ⟨entry, List.mem_cons_of_mem first hentry, hin⟩

theorem spelled_eq (entries : List (Text × Text)) :
    spelled entries = opening ++ ((' ' :: (writtenEntries entries ++ [' '])) ++ closing) := by
  simp [spelled]

/-- Neither end of the envelope occurs once more in what stands between them. -/
theorem not_occursIn_body {entries : List (Text × Text)}
    (h : ∀ entry ∈ entries, IsSpellable entry) {part : Text} (hpart : IsEnd part)
    (hvalue : ∀ entry ∈ entries, ¬ part <:+: entry.2) :
    Text.occursIn part (' ' :: (writtenEntries entries ++ [' '])) = false := by
  rw [Bool.eq_false_iff, Ne, Text.occursIn_iff]
  intro hoccurs
  have hblank : ' ' ∉ part := hpart.not_mem (by decide)
  have hrest := (Text.infix_append_cons (s := []) hblank hoccurs).resolve_left hpart.not_infix_nil
  have hentries := (Text.infix_append_cons (t := []) hblank hrest).resolve_right
    hpart.not_infix_nil
  obtain ⟨entry, hentry, hin⟩ := infix_writtenEntries h hpart hentries
  exact hvalue entry hentry hin

/-- What stands between the ends of the envelope. -/
theorem body?_spelled {entries : List (Text × Text)} (hne : entries ≠ [])
    (h : ∀ entry ∈ entries, IsSpellable entry) :
    body? (spelled entries) = some (writtenEntries entries) := by
  have htrim : Text.trim (spelled entries) = spelled entries := by
    have hopening : Text.Trimmed opening := .of_ends rfl rfl (by decide) (by decide)
    have hclosing : Text.Trimmed closing := .of_ends rfl rfl (by decide) (by decide)
    rw [spelled_eq]
    exact Text.trim_of_trimmed (hopening.surround hclosing (by decide) (by decide) _)
  have hlead := List.isPrefixOf?_eq_some_iff_append_eq.mpr (spelled_eq entries).symm
  have htail : List.isSuffixOf? closing ((' ' :: (writtenEntries entries ++ [' '])) ++ closing) =
      some (' ' :: (writtenEntries entries ++ [' '])) :=
    List.isSuffixOf?_eq_some_iff_append_eq.mpr rfl
  have hfeed : (' ' :: (writtenEntries entries ++ [' '])).contains '\n' = false := by
    simpa using no_feed_writtenEntries h
  have hbody : Text.trim (' ' :: (writtenEntries entries ++ [' '])) = writtenEntries entries :=
    Text.trim_append (writtenEntries_trimmed h) [' '] [' '] (by decide) (by decide)
  have hopening := not_occursIn_body h isEnd_opening fun entry hentry => (h entry hentry).no_opening
  have hclosing := not_occursIn_body h isEnd_closing fun entry hentry => (h entry hentry).no_closing
  have hsome : (writtenEntries entries).isEmpty = false := by
    simpa using writtenEntries_ne_nil hne
  rw [body?, htrim]
  simp only [Option.bind_eq_bind, hlead, htail, Option.bind_some, hfeed, hopening, hclosing,
    Bool.or_self, Bool.false_eq_true, if_false, hbody, hsome]

/-- A directive is read as the entries it was written from. -/
theorem pairs?_spelled {entries : List (Text × Text)} (hne : entries ≠ [])
    (h : ∀ entry ∈ entries, IsSpellable entry) : pairs? (spelled entries) = some entries := by
  rw [pairs?, body?_spelled hne h]
  obtain ⟨first, more, rfl⟩ := List.exists_cons_of_ne_nil hne
  have hfirst := (h first List.mem_cons_self).entry?_eq [] rfl
  have hmore := mapM_entry?_written fun entry hentry => h entry (List.mem_cons_of_mem first hentry)
  have hcut : Directive.entries (writtenEntries (first :: more)) = _ :=
    entriesFrom_writtenEntries h
  rw [List.nil_append] at hfirst
  rw [Option.bind_eq_bind, Option.bind_some, hcut, List.mapM_cons, hfirst, hmore]
  rfl

namespace CanBeWritten

variable {options : Dict Text}

theorem spellable (h : CanBeWritten options) : ∀ entry ∈ options.entries, IsSpellable entry :=
  fun entry hentry => (h.writable entry hentry).isSpellable

theorem withoutReturn_written (options : Dict Text) :
    withoutReturn (written options) = written options := by
  have hend : written options =
      (opening ++ ' ' :: (writtenEntries options.entries ++ " ***".toList)) ++ [')'] := by
    simp [written, spelled, closing]
  apply withoutReturn_of_getLast?_ne
  rw [hend, List.getLast?_concat]
  simp

/-- A written directive is read as the options it was written from. -/
theorem parse_written (h : CanBeWritten options) (span : Span) :
    parse (written options) span = some ⟨options, span⟩ := by
  have hpairs : pairs? (written options) = some options.entries :=
    pairs?_spelled h.ne_nil h.spellable
  rw [parse, hpairs, Option.map_some, Dict.ofList_entries]

/-- A written directive is one comment. -/
theorem scanComment_written (h : CanBeWritten options) :
    scanComment 0 (written options) = .closed (written options) [] := by
  have hblank : IsNoMark ' ' := by decide
  have hentries := (unmarked_writtenEntries h.writable).scanComment_eq 1
  have hclosing : scanComment 1 closing = .closed closing [] := by decide
  have hstars : scanComment 0 ['(', '*', '*', '*'] = .unclosed 1 := by decide
  have hwritten : written options =
      ['(', '*', '*', '*'] ++ ' ' :: (writtenEntries options.entries ++ ' ' :: closing) := rfl
  rw [hwritten, scanComment_append_of_unclosed hstars hblank,
    scanComment_append_of_unclosed hentries hblank, hclosing]
  simp [CommentScan.prepend]

theorem no_feed (h : CanBeWritten options) : '\n' ∉ written options := by
  have hopening : '\n' ∉ opening := by decide
  have hclosing : '\n' ∉ closing := by decide
  simp [written, spelled, hopening, hclosing, no_feed_writtenEntries h.spellable]

end CanBeWritten

end Directive

end Literate
