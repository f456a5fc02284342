import Literate.Script.Tokenized
import Mathlib.Data.List.Infix

/-!
# Line breaks

A source is its physical lines with a line feed between neighbours, and possibly one more line
feed at the end. Everything that is proved along a source is proved by induction on this
relation, so that no other proof looks at the function that cuts the source.
-/

namespace Literate

theorem utf8Size_feed : ('\n' : Char).utf8Size = 1 := by decide

namespace Text

theorem intercalate_append (separator : Text) {front back : List Text} (hfront : front ≠ [])
    (hback : back ≠ []) : separator.intercalate (front ++ back) =
      separator.intercalate front ++ separator ++ separator.intercalate back := by
  induction front with
  | nil => exact absurd rfl hfront
  | cons t front ih =>
      rw [List.cons_append, List.intercalate_cons_of_ne_nil (by simp [hback])]
      by_cases h : front = []
      · simp [h]
      · rw [ih h, List.intercalate_cons_of_ne_nil h]
        simp

theorem mem_intercalate {separator : Text} {ts : List Text} {c : Char}
    (h : c ∈ separator.intercalate ts) : c ∈ separator ∨ ∃ t ∈ ts, c ∈ t := by
  induction ts with
  | nil => cases h
  | cons t ts ih =>
      by_cases hnil : ts = []
      · subst hnil
        rw [List.intercalate_singleton] at h
        exact .inr ⟨t, List.mem_cons_self, h⟩
      · rw [List.intercalate_cons_of_ne_nil hnil] at h
        rcases List.mem_append.mp h with h | h
        · rcases List.mem_append.mp h with h | h
          · exact .inr ⟨t, List.mem_cons_self, h⟩
          · exact .inl h
        · obtain hmem | ⟨u, hu, hmem⟩ := ih h
          · exact .inl hmem
          · exact .inr ⟨u, List.mem_cons_of_mem t hu, hmem⟩

theorem intercalate_append_cons (separator s t : Text) (ts : List Text) :
    separator.intercalate ((s ++ t) :: ts) = s ++ separator.intercalate (t :: ts) := by
  induction s with
  | nil => rfl
  | cons c s ih => rw [List.cons_append, List.intercalate_cons_cons_left, ih, List.cons_append]

/-- Texts without the separator are joined by one separator fewer than there are texts. -/
theorem count_intercalate {separator : Char} (t : Text) {ts : List Text}
    (hfree : ∀ piece ∈ t :: ts, separator ∉ piece) :
    (List.intercalate [separator] (t :: ts)).count separator = ts.length := by
  induction ts generalizing t with
  | nil => simpa using List.count_eq_zero_of_not_mem (hfree t (by simp))
  | cons next ts ih =>
      have hnext := ih next fun piece hpiece => hfree piece (List.mem_cons_of_mem t hpiece)
      have ht := List.count_eq_zero_of_not_mem (hfree t (by simp))
      rw [List.intercalate_cons_cons, List.count_append, List.count_append, hnext, ht]
      simp [Nat.add_comm]

theorem not_mem_of_mem_splitOn {separator : Char} {t piece : Text}
    (h : piece ∈ t.splitOn separator) : separator ∉ piece := by
  induction t generalizing piece with
  | nil =>
      rw [List.splitOn_nil] at h
      rw [List.mem_singleton.mp h]
      exact List.not_mem_nil
  | cons c t ih =>
      rw [List.splitOn_cons_eq_if_modifyHead] at h
      by_cases hc : c = separator
      · rw [if_pos (beq_iff_eq.mpr hc)] at h
        rcases List.mem_cons.mp h with rfl | hmem
        · exact List.not_mem_nil
        · exact ih hmem
      · rw [if_neg (by simpa using hc)] at h
        cases hsplit : t.splitOn separator with
        | nil => exact absurd hsplit (List.splitOn_ne_nil separator t)
        | cons first more =>
            rw [hsplit] at h ih
            rcases List.mem_cons.mp h with rfl | hmem
            · have hfirst := ih List.mem_cons_self
              simpa [Ne.symm hc] using hfirst
            · exact ih (List.mem_cons_of_mem first hmem)

/-- A beginning without the separator belongs to the first piece. -/
theorem splitOn_append_of_not_mem {separator : Char} {lead : Text} (h : separator ∉ lead)
    (t : Text) : (lead ++ t).splitOn separator = (t.splitOn separator).modifyHead (lead ++ ·) := by
  induction lead with
  | nil => cases hsplit : t.splitOn separator <;> simp [hsplit]
  | cons c lead ih =>
      have hc : ¬ (c == separator) = true := fun hc => h (beq_iff_eq.mp hc ▸ List.mem_cons_self)
      rw [List.cons_append, List.splitOn_cons_eq_if_modifyHead, if_neg hc,
        ih fun hmem => h (List.mem_cons_of_mem c hmem), List.modifyHead_modifyHead]
      rfl

/-- An end without the separator belongs to the last piece. -/
theorem exists_splitOn_append {separator : Char} {tail : Text} (h : separator ∉ tail) (t : Text) :
    ∃ init last, t.splitOn separator = init ++ [last] ∧
      (t ++ tail).splitOn separator = init ++ [last ++ tail] := by
  induction t with
  | nil => exact ⟨[], [], List.splitOn_nil separator, List.splitOn_eq_singleton h⟩
  | cons c t ih =>
      obtain ⟨init, last, hsplit, happend⟩ := ih
      rw [List.cons_append, List.splitOn_cons_eq_if_modifyHead,
        List.splitOn_cons_eq_if_modifyHead, hsplit, happend]
      by_cases hc : c = separator
      · exact ⟨[] :: init, last, by simp [hc], by simp [hc]⟩
      · cases init with
        | nil => exact ⟨[], c :: last, by simp [hc], by simp [hc]⟩
        | cons first init => exact ⟨(c :: first) :: init, last, by simp [hc], by simp [hc]⟩

end Text

theorem withoutReturn_append_return (t : Text) : withoutReturn (t ++ ['\r']) = t := by
  rw [withoutReturn, List.isSuffixOf?_eq_some_iff_append_eq.mpr rfl]
  rfl

theorem withoutReturn_of_getLast?_ne {raw : Text} (h : raw.getLast? ≠ some '\r') :
    withoutReturn raw = raw := by
  unfold withoutReturn
  cases htail : List.isSuffixOf? ['\r'] raw with
  | some t =>
      obtain rfl := List.isSuffixOf?_eq_some_iff_append_eq.mp htail
      simp at h
  | none => rfl

/-- A physical line is its text and at most one carriage return. -/
theorem withoutReturn_append (raw : Text) :
    raw = withoutReturn raw ++ (if raw.getLast? = some '\r' then ['\r'] else []) := by
  by_cases h : raw.getLast? = some '\r'
  · obtain ⟨t, rfl⟩ := List.getLast?_eq_some_iff.mp h
    rw [if_pos h, withoutReturn_append_return]
  · rw [if_neg h, withoutReturn_of_getLast?_ne h, List.append_nil]

theorem byteSize_withoutReturn_le (raw : Text) :
    Text.byteSize (withoutReturn raw) ≤ Text.byteSize raw := by
  have h := congrArg Text.byteSize (withoutReturn_append raw)
  rw [Text.byteSize_append] at h
  omega

/-- A source breaks into physical lines. The last line may end with a line feed too. -/
inductive LineBreaks : List Text → Text → Prop where
  | last {raw : Text} (hraw : '\n' ∉ raw) : LineBreaks [raw] raw
  | ended {raw : Text} (hraw : '\n' ∉ raw) : LineBreaks [raw] (raw ++ ['\n'])
  | more {raw rest : Text} {raws : List Text} (hraw : '\n' ∉ raw)
      (hrest : LineBreaks raws rest) : LineBreaks (raw :: raws) (raw ++ '\n' :: rest)

theorem physicalLines_of_not_mem {source : Text} (h : '\n' ∉ source) :
    physicalLines source = [source] := by
  have hlast : source.getLast? ≠ some '\n' := fun hlast => h (List.mem_of_getLast? hlast)
  rw [physicalLines, if_neg hlast, List.splitOn_eq_singleton h]

theorem physicalLines_ended {raw : Text} (h : '\n' ∉ raw) :
    physicalLines (raw ++ ['\n']) = [raw] := by
  rw [physicalLines, if_pos (by simp), 
    List.splitOn_append_cons_self_of_not_mem h]
  rfl

theorem physicalLines_more {raw rest : Text} (h : '\n' ∉ raw) (hrest : rest ≠ []) :
    physicalLines (raw ++ '\n' :: rest) = raw :: physicalLines rest := by
  have hlast : (raw ++ '\n' :: rest).getLast? = rest.getLast? := by
    obtain ⟨c, rest, rfl⟩ := List.exists_cons_of_ne_nil hrest
    simp [List.getLast?_append, List.getLast?_cons]
  simp only [physicalLines, hlast, 
    List.splitOn_append_cons_self_of_not_mem h]
  split
  · exact List.dropLast_cons_of_ne_nil (List.splitOn_ne_nil _ _)
  · rfl

/-- The function that cuts a source into lines breaks it as it should. -/
theorem physicalLines_breaks (source : Text) : LineBreaks (physicalLines source) source := by
  by_cases hmem : '\n' ∈ source
  · obtain ⟨raw, rest, hsource, hraw⟩ := List.eq_append_cons_of_mem hmem
    by_cases hrest : rest = []
    · rw [hsource, hrest, physicalLines_ended hraw]
      exact .ended hraw
    · rw [hsource, physicalLines_more hraw hrest]
      exact .more hraw (physicalLines_breaks rest)
  · rw [physicalLines_of_not_mem hmem]
    exact .last hmem
termination_by source.length
decreasing_by simp [hsource]; omega

/-- The bytes that physical lines take up, each with one line feed behind it. -/
def rawSize : List Text → Nat
  | [] => 0
  | raw :: raws => Text.byteSize raw + 1 + rawSize raws

@[simp] theorem rawSize_nil : rawSize [] = 0 := rfl

@[simp] theorem rawSize_cons (raw : Text) (raws : List Text) :
    rawSize (raw :: raws) = Text.byteSize raw + 1 + rawSize raws := rfl

@[simp] theorem rawSize_append (front back : List Text) :
    rawSize (front ++ back) = rawSize front + rawSize back := by
  induction front with
  | nil => simp
  | cons raw front ih => simp [ih, Nat.add_assoc]

/-- Lines with a line feed behind each of them. -/
def feedLines (lines : List Text) : Text := lines.flatMap (· ++ ['\n'])

@[simp] theorem feedLines_nil : feedLines [] = [] := rfl

theorem feedLines_cons (line : Text) (lines : List Text) :
    feedLines (line :: lines) = line ++ '\n' :: feedLines lines := by
  simp [feedLines]

theorem feedLines_ne_nil {lines : List Text} (h : lines ≠ []) : feedLines lines ≠ [] := by
  obtain ⟨line, lines, rfl⟩ := List.exists_cons_of_ne_nil h
  simp [feedLines_cons]

@[simp] theorem byteSize_feedLines (lines : List Text) :
    Text.byteSize (feedLines lines) = rawSize lines := by
  induction lines with
  | nil => rfl
  | cons line lines ih => simp [feedLines_cons, ih, utf8Size_feed, Nat.add_assoc]

theorem count_feedLines {lines : List Text} (h : ∀ line ∈ lines, '\n' ∉ line) :
    (feedLines lines).count '\n' = lines.length := by
  induction lines with
  | nil => rfl
  | cons line lines ih =>
      have hline := List.count_eq_zero_of_not_mem (h line List.mem_cons_self)
      have hlines := ih fun other hother => h other (List.mem_cons_of_mem line hother)
      rw [feedLines_cons, List.count_append, hline, List.count_cons_self, hlines,
        List.length_cons, Nat.zero_add]

/-- Lines with a line feed behind each of them are the physical lines of what they make. -/
theorem physicalLines_feedLines {lines : List Text} (hne : lines ≠ [])
    (hfree : ∀ line ∈ lines, '\n' ∉ line) : physicalLines (feedLines lines) = lines := by
  induction lines with
  | nil => exact absurd rfl hne
  | cons line more ih =>
      have hline := hfree line List.mem_cons_self
      by_cases hmore : more = []
      · rw [hmore, feedLines_cons, feedLines_nil, physicalLines_ended hline]
      · have hrest := ih hmore fun other hother => hfree other (List.mem_cons_of_mem line hother)
        rw [feedLines_cons, physicalLines_more hline (feedLines_ne_nil hmore), hrest]

/-- Lines with a line feed behind each of them are the first physical lines of a source that goes
on behind them. -/
theorem physicalLines_feedLines_append {lines : List Text} (hfree : ∀ line ∈ lines, '\n' ∉ line)
    {rest : Text} (hrest : rest ≠ []) :
    physicalLines (feedLines lines ++ rest) = lines ++ physicalLines rest := by
  induction lines with
  | nil => rfl
  | cons line more ih =>
      have hline := hfree line List.mem_cons_self
      have hmore := ih fun other hother => hfree other (List.mem_cons_of_mem line hother)
      rw [feedLines_cons, List.append_assoc, List.cons_append,
        physicalLines_more hline (List.append_ne_nil_of_right_ne_nil _ hrest), hmore,
        List.cons_append]

/-- A source with a line feed at its end is its physical lines with a line feed behind each. -/
theorem feedLines_physicalLines {source : Text} (h : source.getLast? = some '\n') :
    feedLines (physicalLines source) = source := by
  obtain ⟨raw, rest, hsource, hraw⟩ := List.eq_append_cons_of_mem (List.mem_of_getLast? h)
  by_cases hrest : rest = []
  · rw [hsource, hrest, physicalLines_ended hraw, feedLines_cons, feedLines_nil]
  · have hlast : rest.getLast? = some '\n' := by
      obtain ⟨c, tail, rfl⟩ := List.exists_cons_of_ne_nil hrest
      simpa [hsource, List.getLast?_append, List.getLast?_cons] using h
    rw [hsource, physicalLines_more hraw hrest, feedLines_cons, feedLines_physicalLines hlast]
termination_by source.length
decreasing_by simp [hsource]; omega

/-- Lines with line feeds between them are the physical lines of the source that they make,
when the last of them is not empty. -/
theorem physicalLines_intercalate {init : List Text} {last : Text}
    (hfree : ∀ line ∈ init ++ [last], '\n' ∉ line) (hlast : last ≠ []) :
    physicalLines (List.intercalate ['\n'] (init ++ [last])) = init ++ [last] := by
  have hend : (List.intercalate ['\n'] (init ++ [last])).getLast? ≠ some '\n' := by
    have hlastFree : last.getLast? ≠ some '\n' := fun h =>
      hfree last (by simp) (List.mem_of_getLast? h)
    by_cases hinit : init = []
    · simpa [hinit] using hlastFree
    · rw [Text.intercalate_append _ hinit (by simp), List.intercalate_singleton,
        List.getLast?_append, List.getLast?_eq_some_getLast hlast]
      rw [List.getLast?_eq_some_getLast hlast] at hlastFree
      simpa using hlastFree
  rw [physicalLines, if_neg hend, List.splitOn_intercalate _ hfree (by simp)]

namespace LineBreaks

variable {raws : List Text} {source : Text}

theorem ne_nil (h : LineBreaks raws source) : raws ≠ [] := by
  cases h <;> simp

theorem not_mem (h : LineBreaks raws source) : ∀ raw ∈ raws, '\n' ∉ raw := by
  induction h with
  | last hraw => simpa using hraw
  | ended hraw => simpa using hraw
  | more hraw _ ih => simpa using ⟨hraw, ih⟩

theorem not_mem_withoutReturn (h : LineBreaks raws source) {raw : Text} (hraw : raw ∈ raws) :
    '\n' ∉ withoutReturn raw := by
  intro hmem
  apply h.not_mem raw hraw
  rw [withoutReturn_append raw]
  exact List.mem_append_left _ hmem

/-- In front of some physical lines stand the lines before them, each with its line feed, and
the rest of the source breaks into the lines behind. -/
theorem behind {front back : List Text} (h : LineBreaks (front ++ back) source)
    (hback : back ≠ []) : ∃ rest, source = feedLines front ++ rest ∧ LineBreaks back rest := by
  induction front generalizing source with
  | nil => exact ⟨source, rfl, h⟩
  | cons first front ih =>
      have hne : front ++ back ≠ [] := List.append_ne_nil_of_right_ne_nil front hback
      generalize hlines : first :: front ++ back = lines at h
      cases h with
      | last => exact absurd (List.cons.inj hlines).2 hne
      | ended => exact absurd (List.cons.inj hlines).2 hne
      | @more opening _ _ _ hrest =>
          obtain ⟨rfl, rfl⟩ := List.cons.inj hlines
          obtain ⟨rest, rfl, hbreaks⟩ := ih hrest
          exact ⟨rest, by simp [feedLines_cons], hbreaks⟩

/-- Without a line feed at the end, the last physical line is what stands behind the others. -/
theorem eq_feedLines_append {init : List Text} {last source : Text}
    (h : LineBreaks (init ++ [last]) source) (hend : source.getLast? ≠ some '\n') :
    source = feedLines init ++ last := by
  obtain ⟨rest, rfl, hrest⟩ := h.behind (by simp)
  generalize hraws : [last] = raws at hrest
  cases hrest with
  | last => rw [(List.cons.inj hraws).1]
  | ended => simp at hend
  | more _ hmore => exact absurd (List.cons.inj hraws).2.symm hmore.ne_nil

/-- What stands in front of some physical lines takes up the bytes of the lines before them, and
the rest of the source breaks into the lines behind. -/
theorem suffix {front back : List Text} (h : LineBreaks (front ++ back) source)
    (hback : back ≠ []) : ∃ before rest, source = before ++ rest ∧
      Text.byteSize before = rawSize front ∧ LineBreaks back rest := by
  obtain ⟨rest, hsource, hbreaks⟩ := h.behind hback
  exact ⟨feedLines front, rest, hsource, byteSize_feedLines front, hbreaks⟩

theorem head_append {raw : Text} {back : List Text} (h : LineBreaks (raw :: back) source) :
    ∃ after, source = raw ++ after := by
  cases h with
  | last => exact ⟨[], by simp⟩
  | ended => exact ⟨['\n'], rfl⟩
  | @more _ rest _ _ _ => exact ⟨'\n' :: rest, rfl⟩

/-- A physical line starts in its source behind the lines before it and their line feeds. -/
theorem split {front back : List Text} {raw : Text}
    (h : LineBreaks (front ++ raw :: back) source) :
    ∃ before after, source = before ++ raw ++ after ∧ Text.byteSize before = rawSize front := by
  obtain ⟨before, rest, rfl, hsize, hbreaks⟩ := h.suffix (by simp)
  obtain ⟨after, rfl⟩ := hbreaks.head_append
  exact ⟨before, after, by simp, hsize⟩

end LineBreaks

/-- Behind a line feed the physical lines of a source begin anew. -/
theorem physicalLines_append {front back : Text} (hfront : front.getLast? = some '\n')
    (hback : back ≠ []) :
    physicalLines (front ++ back) = physicalLines front ++ physicalLines back := by
  have h := physicalLines_feedLines_append (physicalLines_breaks front).not_mem hback
  rwa [feedLines_physicalLines hfront] at h

/-! ## Places on lines -/

namespace Text

theorem takeBytes_add (s t : Text) (j : Nat) :
    takeBytes (byteSize s + j) (s ++ t) = s ++ takeBytes j t := by
  induction s with
  | nil => simp
  | cons c s ih => simp [takeBytes, Nat.add_assoc, ih]

/-- As many bytes as a text has at most are taken from the text alone. -/
theorem takeBytes_isPrefix {s : Text} {j : Nat} (h : j ≤ byteSize s) (t : Text) :
    takeBytes j (s ++ t) <+: s := by
  induction s generalizing j with
  | nil =>
      obtain rfl : j = 0 := Nat.le_zero.mp h
      cases t with
      | nil => exact List.prefix_rfl
      | cons c t =>
          have hnone : takeBytes 0 (c :: t) = [] := if_neg (Nat.not_le.mpr c.utf8Size_pos)
          exact ⟨[], congrArg (· ++ []) hnone⟩
  | cons c s ih =>
      rw [List.cons_append, takeBytes]
      split
      next hsize =>
        rw [byteSize_cons] at h
        exact (List.prefix_cons_inj c).mpr (ih (by omega))
      next => exact List.nil_prefix

end Text

/-- The number of line feeds in front of a place. -/
def feedsBefore (source : Text) (place : Nat) : Nat := (Text.takeBytes place source).count '\n'

/-- In front of a place on a line there is one line feed for each line before. -/
theorem LineBreaks.feedsBefore_eq {front back : List Text} {raw source : Text}
    (h : LineBreaks (front ++ raw :: back) source) {j : Nat} (hj : j ≤ Text.byteSize raw) :
    feedsBefore source (rawSize front + j) = front.length := by
  have hfree := h.not_mem
  obtain ⟨rest, rfl, hbreaks⟩ := h.behind (by simp)
  obtain ⟨after, rfl⟩ := hbreaks.head_append
  have hline : (Text.takeBytes j (raw ++ after)).count '\n' = 0 :=
    List.count_eq_zero_of_not_mem fun hmem =>
      hfree raw (by simp) ((Text.takeBytes_isPrefix hj after).subset hmem)
  rw [feedsBefore, ← byteSize_feedLines, Text.takeBytes_add, List.count_append, hline,
    count_feedLines fun line hline => hfree line (List.mem_append_left _ hline), Nat.add_zero]

end Literate
