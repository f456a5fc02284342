import Literate.Proofs.Block.DirectiveText
import Mathlib.Algebra.Group.Nat.Even
import Mathlib.Data.List.Forall2

/-!
# The grammar of directives

A directive is an envelope around entries, which are cut apart at the commas with an even number
of double quotes in front of them. Exactly the texts of this grammar are read as directives, and
the options hold for each key the value of the last entry with that key.
-/

namespace Literate.Directive

/-! ## The entries of a body -/

/-- A comma, given by the text on either side of it, ends one entry and begins the next. -/
def CommaBetween (entries : List Text) (front back : Text) : Prop :=
  ∃ first rest, first ≠ [] ∧ rest ≠ [] ∧ entries = first ++ rest ∧
    List.intercalate [','] first = front ∧ List.intercalate [','] rest = back

/-- A text cut into entries at the commas with an even number of double quotes in front of them.
Some double quotes may stand in front of the text already. -/
structure CutAtCommas (quotes : Nat) (body : Text) (entries : List Text) : Prop where
  ne_nil : entries ≠ []
  joined : List.intercalate [','] entries = body
  cut_iff : ∀ front back, body = front ++ ',' :: back →
    (CommaBetween entries front back ↔ Even (quotes + front.count '"'))

theorem commaBetween_nil_cons {entries : List Text} (h : entries ≠ []) {back : Text} :
    CommaBetween ([] :: entries) [] back ↔ List.intercalate [','] entries = back := by
  constructor
  · rintro ⟨first, rest, hfirst, hrest, hentries, hfront, hback⟩
    obtain ⟨entry, more, rfl⟩ := List.exists_cons_of_ne_nil hfirst
    obtain ⟨rfl, rfl⟩ := List.cons.inj hentries
    cases more with
    | nil => exact hback
    | cons next more => simp [List.intercalate_cons_cons] at hfront
  · rintro rfl
    exact ⟨[[]], entries, by simp, h, rfl, rfl, rfl⟩

theorem commaBetween_nil_cons_cons {entries : List Text} {front back : Text} :
    CommaBetween ([] :: entries) (',' :: front) back ↔ CommaBetween entries front back := by
  constructor
  · rintro ⟨first, rest, hfirst, hrest, hentries, hfront, hback⟩
    obtain ⟨entry, more, rfl⟩ := List.exists_cons_of_ne_nil hfirst
    obtain ⟨rfl, rfl⟩ := List.cons.inj hentries
    cases more with
    | nil => simp at hfront
    | cons next more =>
        refine ⟨next :: more, rest, by simp, hrest, rfl, ?_, hback⟩
        simpa [List.intercalate_cons_cons] using hfront
  · rintro ⟨first, rest, hfirst, hrest, rfl, rfl, rfl⟩
    exact ⟨[] :: first, rest, by simp, hrest, rfl, List.intercalate_cons_of_ne_nil hfirst, rfl⟩

/-- The first entry goes on in front of the commas. -/
theorem commaBetween_cons {c : Char} {entry : Text} {more : List Text} {front back : Text} :
    CommaBetween ((c :: entry) :: more) (c :: front) back ↔
      CommaBetween (entry :: more) front back := by
  constructor
  · rintro ⟨first, rest, hfirst, hrest, hentries, hfront, hback⟩
    obtain ⟨head, others, rfl⟩ := List.exists_cons_of_ne_nil hfirst
    obtain ⟨rfl, rfl⟩ := List.cons.inj hentries
    rw [List.intercalate_cons_cons_left] at hfront
    exact ⟨entry :: others, rest, by simp, hrest, rfl, (List.cons.inj hfront).2, hback⟩
  · rintro ⟨first, rest, hfirst, hrest, hentries, hfront, hback⟩
    obtain ⟨head, others, rfl⟩ := List.exists_cons_of_ne_nil hfirst
    obtain ⟨rfl, rfl⟩ := List.cons.inj hentries
    refine ⟨(c :: entry) :: others, rest, by simp, hrest, rfl, ?_, hback⟩
    rw [List.intercalate_cons_cons_left, hfront]

theorem not_commaBetween_cons {c : Char} {entry : Text} {more : List Text} {back : Text} :
    ¬ CommaBetween ((c :: entry) :: more) [] back := by
  rintro ⟨first, rest, hfirst, -, hentries, hfront, -⟩
  obtain ⟨head, others, rfl⟩ := List.exists_cons_of_ne_nil hfirst
  obtain ⟨rfl, rfl⟩ := List.cons.inj hentries
  simp at hfront

/-- A comma outside double quotes ends an empty entry. -/
theorem cutAtCommas_comma {quotes : Nat} (h : Even quotes) {body : Text} {entries : List Text} :
    CutAtCommas quotes (',' :: body) ([] :: entries) ↔ CutAtCommas quotes body entries := by
  constructor
  · rintro ⟨-, hjoined, hcut⟩
    have hne : entries ≠ [] := by
      rintro rfl
      simp at hjoined
    have hbody : List.intercalate [','] entries = body := by
      simpa [List.intercalate_cons_of_ne_nil hne] using hjoined
    refine ⟨hne, hbody, ?_⟩
    rintro front back rfl
    have hiff := hcut (',' :: front) back rfl
    rw [commaBetween_nil_cons_cons] at hiff
    simpa using hiff
  · rintro ⟨hne, hjoined, hcut⟩
    refine ⟨by simp, by simp [List.intercalate_cons_of_ne_nil hne, hjoined], ?_⟩
    intro front back hbody
    cases front with
    | nil =>
        obtain ⟨-, rfl⟩ := List.cons.inj hbody
        simp [commaBetween_nil_cons hne, hjoined, h]
    | cons c front =>
        obtain ⟨rfl, rfl⟩ := List.cons.inj hbody
        rw [commaBetween_nil_cons_cons, hcut front back rfl]
        simp

/-- Every other character belongs to the first entry. -/
theorem cutAtCommas_cons {quotes : Nat} {c : Char} (h : ¬ (c = ',' ∧ Even quotes)) {body : Text}
    {entry : Text} {more : List Text} :
    CutAtCommas quotes (c :: body) ((c :: entry) :: more) ↔
      CutAtCommas (quotes + [c].count '"') body (entry :: more) := by
  have hcount : ∀ front : Text,
      quotes + (c :: front).count '"' = quotes + [c].count '"' + front.count '"' := by
    intro front
    rw [← List.singleton_append, List.count_append, Nat.add_assoc]
  constructor
  · rintro ⟨-, hjoined, hcut⟩
    rw [List.intercalate_cons_cons_left] at hjoined
    refine ⟨by simp, (List.cons.inj hjoined).2, ?_⟩
    rintro front back rfl
    have hiff := hcut (c :: front) back rfl
    rwa [commaBetween_cons, hcount] at hiff
  · rintro ⟨-, hjoined, hcut⟩
    refine ⟨by simp, by rw [List.intercalate_cons_cons_left, hjoined], ?_⟩
    intro front back hbody
    cases front with
    | nil =>
        obtain ⟨rfl, -⟩ := List.cons.inj hbody
        refine iff_of_false not_commaBetween_cons ?_
        intro heven
        exact h ⟨rfl, by simpa using heven⟩
    | cons d front =>
        obtain ⟨rfl, rfl⟩ := List.cons.inj hbody
        rw [commaBetween_cons, hcut front back rfl, hcount front]

theorem cutAtCommas_nil {quotes : Nat} {entries : List Text} :
    CutAtCommas quotes [] entries ↔ entries = [[]] := by
  constructor
  · rintro ⟨hne, hjoined, -⟩
    obtain ⟨entry, more, rfl⟩ := List.exists_cons_of_ne_nil hne
    cases more with
    | nil =>
        rw [List.intercalate_singleton] at hjoined
        rw [hjoined]
    | cons next more => simp [List.intercalate_cons_cons] at hjoined
  · rintro rfl
    exact ⟨by simp, rfl, by simp⟩

/-- What the first entry of a cut begins with. -/
theorem CutAtCommas.cases_cons {quotes : Nat} {c : Char} {body : Text} {entries : List Text}
    (h : CutAtCommas quotes (c :: body) entries) :
    (c = ',' ∧ Even quotes ∧ ∃ more, entries = [] :: more) ∨
      (¬ (c = ',' ∧ Even quotes) ∧ ∃ entry more, entries = (c :: entry) :: more) := by
  obtain ⟨entry, more, rfl⟩ := List.exists_cons_of_ne_nil h.ne_nil
  have hjoined := h.joined
  cases entry with
  | nil =>
      -- An empty first entry ends at a comma, which is the first character.
      cases more with
      | nil => simp at hjoined
      | cons next more =>
          rw [List.intercalate_cons_cons] at hjoined
          obtain ⟨rfl, hbody⟩ := List.cons.inj hjoined
          have heven := (h.cut_iff [] body rfl).mp
            ((commaBetween_nil_cons (by simp)).mpr hbody)
          exact .inl ⟨rfl, by simpa using heven, next :: more, rfl⟩
  | cons d entry =>
      rw [List.intercalate_cons_cons_left] at hjoined
      obtain ⟨rfl, -⟩ := List.cons.inj hjoined
      refine .inr ⟨?_, entry, more, rfl⟩
      rintro ⟨rfl, heven⟩
      exact not_commaBetween_cons ((h.cut_iff [] body rfl).mpr (by simpa using heven))

theorem even_count_quote {c : Char} {quotes : Nat} {quoted : Bool}
    (h : quoted = false ↔ Even quotes) :
    (if c = '"' then !quoted else quoted) = false ↔ Even (quotes + [c].count '"') := by
  by_cases hc : c = '"'
  · rw [if_pos hc, hc, List.count_singleton_self, Nat.even_add_one, ← h]
    simp
  · rw [if_neg hc, List.count_singleton, if_neg (by simpa using hc), Nat.add_zero, h]

/-- The entries of a body are its cut at the commas. -/
theorem cutAtCommas_iff {quotes : Nat} {quoted : Bool} (h : quoted = false ↔ Even quotes)
    {body : Text} {entries : List Text} :
    CutAtCommas quotes body entries ↔ entriesFrom quoted body = entries := by
  induction body generalizing quotes quoted entries with
  | nil => rw [cutAtCommas_nil, entriesFrom, eq_comm]
  | cons c body ih =>
      by_cases hcomma : c = ',' ∧ quoted = false
      · have hquotes : Even quotes := h.mp hcomma.2
        rw [entriesFrom, if_pos hcomma]
        obtain ⟨rfl, -⟩ := hcomma
        constructor
        · intro hcut
          obtain ⟨-, -, more, rfl⟩ | ⟨hnot, -⟩ := hcut.cases_cons
          · rw [(ih h).mp ((cutAtCommas_comma hquotes).mp hcut)]
          · exact absurd ⟨rfl, hquotes⟩ hnot
        · rintro rfl
          exact (cutAtCommas_comma hquotes).mpr ((ih h).mpr rfl)
      · have hnot : ¬ (c = ',' ∧ Even quotes) := by rwa [← h]
        have hnext := even_count_quote (c := c) h
        rw [entriesFrom_cons hcomma]
        constructor
        · intro hcut
          obtain ⟨hc, heven, -⟩ | ⟨-, entry, more, rfl⟩ := hcut.cases_cons
          · exact absurd ⟨hc, heven⟩ hnot
          · rw [(ih hnext).mp ((cutAtCommas_cons hnot).mp hcut)]
            rfl
        · rintro rfl
          obtain ⟨entry, more, hentries⟩ := List.exists_cons_of_ne_nil
            (entriesFrom_ne_nil (if c = '"' then !quoted else quoted) body)
          rw [hentries]
          exact (cutAtCommas_cons hnot).mpr ((ih hnext).mpr hentries)

/-! ## One entry -/

/-- A value without the double quotes around it, if both are there. -/
inductive Unquotes : Text → Text → Prop
  | quoted (inner : Text) : Unquotes ('"' :: (inner ++ ['"'])) inner
  | bare {value : Text} (h : ∀ inner, value ≠ '"' :: (inner ++ ['"'])) : Unquotes value value

/-- A text that may name an option. -/
structure NamesOption (key : Text) : Prop where
  ne_nil : key ≠ []
  chars : ∀ c ∈ key, c.isAlphanum = true ∨ c = '-' ∨ c = '_'

/-- The pair that an entry stands for. -/
inductive EntryDenotes : Text → Text × Text → Prop
  | bare {entry key : Text} (trims : Text.TrimsTo entry key) (names : NamesOption key) :
      EntryDenotes entry (key, [])
  | valued {entry lead rest key raw value : Text} {separator : Char}
      (trims : Text.TrimsTo entry (lead ++ separator :: rest))
      (separates : separator = ':' ∨ separator = '=') (no_colon : ':' ∉ lead)
      (no_equals : '=' ∉ lead) (key_trims : Text.TrimsTo lead key) (names : NamesOption key)
      (value_trims : Text.TrimsTo rest raw) (unquotes : Unquotes raw value) :
      EntryDenotes entry (key, value)

theorem unquoted_bare {value : Text} (h : ∀ inner, value ≠ '"' :: (inner ++ ['"'])) :
    unquoted value = value := by
  rw [unquoted]
  split
  next rest hlead =>
    have hnone : List.isSuffixOf? ['"'] rest = none := by
      rw [Option.eq_none_iff_forall_ne_some]
      intro inner htail
      rw [List.isSuffixOf?_eq_some_iff_append_eq] at htail
      rw [List.isPrefixOf?_eq_some_iff_append_eq, ← htail] at hlead
      exact h inner hlead.symm
    rw [hnone]
    rfl
  next => rfl

theorem unquotes_iff {value inner : Text} : Unquotes value inner ↔ unquoted value = inner := by
  constructor
  · rintro (_ | hbare)
    · exact unquoted_quoted inner
    · exact unquoted_bare hbare
  · rintro rfl
    by_cases h : ∃ inner, value = '"' :: (inner ++ ['"'])
    · obtain ⟨inner, rfl⟩ := h
      rw [unquoted_quoted]
      exact .quoted inner
    · have hbare := not_exists.mp h
      rw [unquoted_bare hbare]
      exact .bare hbare

theorem isKeyChar_iff {c : Char} :
    isKeyChar c = true ↔ c.isAlphanum = true ∨ c = '-' ∨ c = '_' := by
  simp [isKeyChar, or_assoc]

theorem isKey_iff {key : Text} : isKey key = true ↔ NamesOption key := by
  rw [isKey, Bool.and_eq_true, List.all_eq_true]
  constructor
  · rintro ⟨hne, hchars⟩
    exact ⟨by simpa using hne, fun c hc => isKeyChar_iff.mp (hchars c hc)⟩
  · rintro ⟨hne, hchars⟩
    exact ⟨by simpa using hne, fun c hc => isKeyChar_iff.mpr (hchars c hc)⟩

theorem isSeparator_iff {c : Char} : isSeparator c = true ↔ c = ':' ∨ c = '=' := by
  simp [isSeparator]

theorem isSeparator_eq_false_of_not_mem {lead : Text} (hcolon : ':' ∉ lead) (hequals : '=' ∉ lead)
    {c : Char} (hc : c ∈ lead) : isSeparator c = false := by
  refine Bool.eq_false_iff.mpr ?_
  intro hseparator
  rcases isSeparator_iff.mp hseparator with rfl | rfl
  · exact hcolon hc
  · exact hequals hc

/-- A text without separator, or its part up to the first separator and the part behind. -/
theorem separator_cases (t : Text) :
    (∀ c ∈ t, isSeparator c = false) ∨ ∃ lead separator rest, t = lead ++ separator :: rest ∧
      (∀ c ∈ lead, isSeparator c = false) ∧ isSeparator separator = true := by
  induction t with
  | nil => exact .inl (by simp)
  | cons c t ih =>
      cases hc : isSeparator c with
      | true => exact .inr ⟨[], c, t, rfl, by simp, hc⟩
      | false =>
          obtain hnone | ⟨lead, separator, rest, rfl, hlead, hseparator⟩ := ih
          · exact .inl (List.forall_mem_cons.mpr ⟨hc, hnone⟩)
          · exact .inr ⟨c :: lead, separator, rest, rfl, List.forall_mem_cons.mpr ⟨hc, hlead⟩,
              hseparator⟩

theorem NamesOption.not_isSeparator {key : Text} (h : NamesOption key) :
    ∀ c ∈ key, isSeparator c = false := by
  intro c hc
  refine Bool.eq_false_iff.mpr ?_
  intro hseparator
  have hchar := h.chars c hc
  rcases isSeparator_iff.mp hseparator with rfl | rfl <;> exact absurd hchar (by decide)

/-- An entry is read as the pair it stands for. -/
theorem entryDenotes_iff {entry : Text} {pair : Text × Text} :
    EntryDenotes entry pair ↔ entry? entry = some pair := by
  constructor
  · rintro (⟨trims, names⟩ | ⟨trims, separates, no_colon, no_equals, key_trims, names,
      value_trims, unquotes⟩)
    · rw [entry?_bare (Text.trimsTo_iff.mp trims) names.not_isSeparator,
        Text.trim_of_trimmed trims.trimmed, if_pos (isKey_iff.mpr names)]
    · rw [entry?_valued (Text.trimsTo_iff.mp trims)
        (fun c hc => isSeparator_eq_false_of_not_mem no_colon no_equals hc)
        (isSeparator_iff.mpr separates), Text.trimsTo_iff.mp key_trims,
        if_pos (isKey_iff.mpr names), Text.trimsTo_iff.mp value_trims, unquotes_iff.mp unquotes]
  · intro hentry
    have htrims := Text.trimsTo_trim entry
    obtain hnone | ⟨lead, separator, rest, hcore, hlead, hseparator⟩ :=
      separator_cases (Text.trim entry)
    · rw [entry?_bare rfl hnone, Text.trim_of_trimmed htrims.trimmed] at hentry
      split at hentry
      next hkey =>
        obtain rfl := Option.some.inj hentry
        exact .bare htrims (isKey_iff.mp hkey)
      next => contradiction
    · rw [entry?_valued hcore hlead hseparator] at hentry
      split at hentry
      next hkey =>
        obtain rfl := Option.some.inj hentry
        have hnot : ∀ c, isSeparator c = true → c ∉ lead := by
          intro c hc hmem
          rw [hlead c hmem] at hc
          contradiction
        exact .valued (hcore ▸ htrims) (isSeparator_iff.mp hseparator) (hnot ':' rfl)
          (hnot '=' rfl) (Text.trimsTo_trim lead) (isKey_iff.mp hkey) (Text.trimsTo_trim rest)
          (unquotes_iff.mpr rfl)
      next => contradiction

/-! ## The whole directive -/

/-- A text is the envelope around a body on one line, which holds neither end of the envelope. -/
structure Envelops (t body : Text) : Prop where
  trims : Text.TrimsTo t (opening ++ (body ++ closing))
  no_feed : '\n' ∉ body
  no_opening : ¬ opening <:+: body
  no_closing : ¬ closing <:+: body

theorem envelops_iff {t body : Text} :
    Envelops t body ↔ Text.trim t = opening ++ (body ++ closing) ∧
      (body.contains '\n' || Text.occursIn opening body || Text.occursIn closing body) = false := by
  rw [Bool.or_eq_false_iff, Bool.or_eq_false_iff, Bool.eq_false_iff, Bool.eq_false_iff,
    Bool.eq_false_iff, Ne, Ne, Ne, List.contains_iff_mem, Text.occursIn_iff, Text.occursIn_iff,
    ← Text.trimsTo_iff]
  exact ⟨fun h => ⟨h.1, ⟨h.2, h.3⟩, h.4⟩, fun h => ⟨h.1, h.2.1.1, h.2.1.2, h.2.2⟩⟩

theorem body?_eq_some_iff {t core : Text} :
    body? t = some core ↔ ∃ body, Envelops t body ∧ Text.TrimsTo body core ∧ core ≠ [] := by
  have hguard : ∀ body : Text, (if body.contains '\n' || Text.occursIn opening body ||
      Text.occursIn closing body then none
      else if (Text.trim body).isEmpty then none else some (Text.trim body)) = some core ↔
      (body.contains '\n' || Text.occursIn opening body || Text.occursIn closing body) = false ∧
        Text.TrimsTo body core ∧ core ≠ [] := by
    intro body
    rw [Text.trimsTo_iff]
    cases body.contains '\n' || Text.occursIn opening body || Text.occursIn closing body with
    | true => simp
    | false =>
        simp only [Bool.false_eq_true, if_false, true_and]
        split
        next hempty =>
          rw [List.isEmpty_iff] at hempty
          simp only [hempty, reduceCtorEq, false_iff, not_and, not_not]
          exact Eq.symm
        next hempty =>
          rw [List.isEmpty_iff] at hempty
          rw [Option.some_inj]
          exact ⟨fun h => ⟨h, h ▸ hempty⟩, And.left⟩
  simp only [body?, Option.bind_eq_bind, Option.bind_eq_some_iff,
    List.isPrefixOf?_eq_some_iff_append_eq, List.isSuffixOf?_eq_some_iff_append_eq, hguard,
    envelops_iff]
  constructor
  · rintro ⟨rest, htrim, body, rfl, hnot, hbody⟩
    exact ⟨body, ⟨htrim.symm, hnot⟩, hbody⟩
  · rintro ⟨body, ⟨htrim, hnot⟩, hbody⟩
    exact ⟨body ++ closing, htrim.symm, body, rfl, hnot, hbody⟩

/-- A text of the grammar, with the pairs that its entries stand for. -/
def Denotes (t : Text) (pairs : List (Text × Text)) : Prop :=
  ∃ body core entries, Envelops t body ∧ Text.TrimsTo body core ∧ core ≠ [] ∧
    CutAtCommas 0 core entries ∧ List.Forall₂ EntryDenotes entries pairs

theorem mapM_eq_some_iff {α β : Type} {f : α → Option β} {xs : List α} {ys : List β} :
    xs.mapM f = some ys ↔ List.Forall₂ (fun x y => f x = some y) xs ys := by
  induction xs generalizing ys with
  | nil => simp [eq_comm]
  | cons x xs ih =>
      simp only [List.mapM_cons, Option.bind_eq_bind, Option.bind_eq_some_iff,
        List.forall₂_cons_left_iff, ← ih]
      constructor
      · rintro ⟨y, hy, more, hmore, hys⟩
        exact ⟨y, more, hy, hmore, (Option.some.inj hys).symm⟩
      · rintro ⟨y, more, hy, hmore, rfl⟩
        exact ⟨y, hy, more, hmore, rfl⟩

theorem denotes_iff {t : Text} {pairs : List (Text × Text)} :
    Denotes t pairs ↔ pairs? t = some pairs := by
  have hcut : ∀ core cut, CutAtCommas 0 core cut ↔ entries core = cut :=
    fun core cut => cutAtCommas_iff (by simp)
  simp only [pairs?, Option.bind_eq_bind, Option.bind_eq_some_iff, body?_eq_some_iff,
    mapM_eq_some_iff, ← entryDenotes_iff]
  constructor
  · rintro ⟨body, core, cut, henvelops, htrims, hne, hentries, hpairs⟩
    rw [← (hcut core cut).mp hentries] at hpairs
    exact ⟨core, ⟨body, henvelops, htrims, hne⟩, hpairs⟩
  · rintro ⟨core, ⟨body, henvelops, htrims, hne⟩, hpairs⟩
    exact ⟨body, core, _, henvelops, htrims, hne, (hcut core _).mpr rfl, hpairs⟩

/-- Exactly the texts of the grammar are read as directives. The options hold for each key the
value of the last entry with that key, and nothing else. So a directive that is written from
options, with its entries in any order, is read as the same options. -/
theorem parse_exact (text : Text) (span : Span) :
    ((parse text span).isSome ↔ ∃ pairs, Denotes text pairs) ∧
      (∀ d, parse text span = some d ↔ d.span = span ∧
        ∃ pairs, Denotes text pairs ∧
          ∀ key value, d.get? key = some value ↔ Dict.LastOf pairs key value) ∧
      ∀ (options : Dict Text) (entries : List (Text × Text)), options.entries ≠ [] →
        (∀ entry ∈ options.entries, IsSpellable entry) →
        entries.Perm options.entries → text = spelled entries →
        parse text span = some ⟨options, span⟩ := by
  refine ⟨?_, ?_, ?_⟩
  · rw [parse, Option.isSome_map, Option.isSome_iff_exists]
    exact exists_congr fun pairs => denotes_iff.symm
  · intro d
    rw [parse, Option.map_eq_some_iff]
    constructor
    · rintro ⟨pairs, hpairs, rfl⟩
      exact ⟨rfl, pairs, denotes_iff.mpr hpairs, fun key value => Dict.get?_ofList⟩
    · rintro ⟨rfl, pairs, hdenotes, hget⟩
      refine ⟨pairs, denotes_iff.mp hdenotes, ?_⟩
      have hoptions : Dict.ofList pairs = d.options :=
        Dict.ext_get? fun key value => Dict.get?_ofList.trans (hget key value).symm
      rw [hoptions]
  · rintro options entries hne hspellable hperm rfl
    have hentries : entries ≠ [] := fun hnil => hne (List.nil_perm.mp (hnil ▸ hperm))
    have hspells : ∀ entry ∈ entries, IsSpellable entry :=
      fun entry hentry => hspellable entry (hperm.mem_iff.mp hentry)
    rw [parse, pairs?_spelled hentries hspells, Option.map_some, Dict.ofList_perm hperm]

/-- Options with a value that looks like the end of an entry. -/
def sampleOptions : Dict Text := .ofList [("name".toList, "a, b=(c".toList), ("hide".toList, [])]

theorem parse_exact_unordered :
    sampleOptions.entries ≠ [] ∧ (∀ entry ∈ sampleOptions.entries, IsSpellable entry) ∧
      sampleOptions.entries.reverse.Perm sampleOptions.entries ∧
      parse "(*** name:\"a, b=(c\", hide:\"\" ***)".toList ⟨0, 33⟩ =
        some ⟨sampleOptions, ⟨0, 33⟩⟩ :=
  ⟨by decide, by decide +kernel, List.reverse_perm _,
    (parse_exact _ _).2.2 sampleOptions sampleOptions.entries.reverse (by decide)
      (by decide +kernel) (List.reverse_perm _) (by decide +kernel)⟩

end Literate.Directive
