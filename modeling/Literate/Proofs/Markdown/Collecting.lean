import Literate.Proofs.Markdown.EventStream

/-!
# Collecting well-nested events

Each collector takes exactly the events of the content it stands for: it goes on behind them as if
they had not been there, with their nodes in front. So the collectors find their way back to the
element around them at any depth, and the nodes of well-nested events, written out, are what is
kept of those events.
-/

namespace Literate.Markdown

/-- What a collector collects, and the events it leaves. -/
def outcome {α : Type} (collect : (events : List Event) → Collected α events)
    (events : List Event) : α × List Event :=
  ((collect events).value, (collect events).rest)

theorem outcome_map {α β : Type} {collect : (events : List Event) → Collected α events}
    {events rest : List Event} {value : α} (h : outcome collect events = (value, rest))
    (f : α → β) : (((collect events).map f).value, ((collect events).map f).rest) =
      (f value, rest) :=
  congrArg (Prod.map f id) h

/-- The collector takes the events as the values, in front of what it makes of more events. -/
def Takes {α : Type} (collect : (events : List Event) → Collected (List α) events)
    (given : List Event) (values : List α) (more : List Event) : Prop :=
  outcome collect (given ++ more) = (outcome collect more).map (values ++ ·) id

section Takes

variable {α : Type} {collect : (events : List Event) → Collected (List α) events}
  {given more rest : List Event} {values : List α}

theorem Takes.nil (more : List Event) : Takes collect [] [] more := rfl

theorem Takes.append {front back : List Event} {frontValues backValues : List α}
    (hfront : Takes collect front frontValues (back ++ more))
    (hback : Takes collect back backValues more) :
    Takes collect (front ++ back) (frontValues ++ backValues) more := by
  have hback : _ = _ := hback
  rw [Takes, List.append_assoc, hfront, hback]
  simp [Prod.map]

/-- A collector that takes events in front of the end of its content stops there. -/
theorem Takes.ends (h : Takes collect given values more)
    (hends : outcome collect more = ([], rest)) :
    outcome collect (given ++ more) = (values, rest) := by
  rw [h, hends, Prod.map_apply, List.append_nil, id]

end Takes

section Steps

variable {event : Event} {rest more : List Event}

theorem closes_closing (tag : Tag) : (Event.closing tag).closes tag.kind := by
  simp [Event.closes]

theorem collectRaw_closes (tag : Tag) (more : List Event) :
    outcome (collectRaw tag.kind) (.closing tag :: more) = ([], more) := by
  simp [outcome, collectRaw, closes_closing, Collected.behind, Collected.pure]

theorem collectRaw_step {kind : TagKind} (hopen : event.closes kind = false) (more : List Event) :
    outcome (collectRaw kind) (event :: more) =
      (outcome (collectRaw kind) more).map (event.rawText ++ ·) id := by
  simp [outcome, collectRaw, hopen, Collected.behind, Collected.map]

theorem collectInlines_closes (tag : Tag) (more : List Event) :
    outcome (collectInlines tag.kind) (.closing tag :: more) = ([], more) := by
  rw [outcome, collectInlines]
  simp [closes_closing, Collected.behind, Collected.pure]

theorem collectInlines_step {kind : TagKind} {first : Option Inline}
    (hopen : event.closes kind = false)
    (hfirst : outcome (collectInline event) rest = (first, more)) :
    outcome (collectInlines kind) (event :: rest) =
      (outcome (collectInlines kind) more).map (first.toList ++ ·) id := by
  obtain ⟨rfl, rfl⟩ := Prod.mk.inj hfirst
  rw [outcome, collectInlines]
  simp [hopen, outcome, Collected.behind, Collected.andThen, Collected.map]

theorem collectRun_stop (hstop : startsRun rest = false) :
    outcome collectRun rest = ([], rest) := by
  cases rest with
  | nil => simp [outcome, collectRun, Collected.pure]
  | cons event rest =>
    have hplain : event.isInline = false := by simpa [startsRun] using hstop
    rw [outcome, collectRun]
    simp [hplain, Collected.pure]

theorem collectRun_step {first : Option Inline} (hinline : event.isInline)
    (hfirst : outcome (collectInline event) rest = (first, more)) :
    outcome collectRun (event :: rest) = (outcome collectRun more).map (first.toList ++ ·) id := by
  obtain ⟨rfl, rfl⟩ := Prod.mk.inj hfirst
  rw [outcome, collectRun]
  simp [hinline, outcome, Collected.behind, Collected.andThen, Collected.map]

theorem collectBlocks_closes (tag : Tag) (more : List Event) :
    outcome (collectBlocks (some tag.kind)) (.closing tag :: more) = ([], more) := by
  rw [outcome, collectBlocks]
  simp [closes_closing, Collected.behind, Collected.pure]

theorem collectBlocks_step {stop : Option TagKind} {first : Option Node}
    (hopen : ∀ kind, event.closes kind = false)
    (hfirst : outcome (collectBlock event) rest = (first, more)) :
    outcome (collectBlocks stop) (event :: rest) =
      (outcome (collectBlocks stop) more).map (first.toList ++ ·) id := by
  obtain ⟨rfl, rfl⟩ := Prod.mk.inj hfirst
  have hgoes : stop.any (event.closes ·) = false := by cases stop <;> simp [hopen]
  rw [outcome, collectBlocks]
  simp [hgoes, outcome, Collected.behind, Collected.andThen, Collected.map]

/-- Running text among blocks is collected as one paragraph. -/
theorem collectBlock_run (hinline : event.isInline) (rest : List Event) :
    outcome (collectBlock event) rest =
      (outcome collectRun (event :: rest)).map (fun text => some (.paragraph text)) id := by
  rw [collectRun_step hinline rfl, outcome, collectBlock]
  · simp [hinline, outcome, Collected.andThen, Collected.map]
  all_goals
    intros
    subst_vars
    cases hinline

theorem collectItems_closes (start : Option Nat) (more : List Event) :
    outcome collectItems (.closing (.list start) :: more) = ([], more) := by
  rw [outcome, collectItems]
  · simp [Event.closes, Tag.kind, Collected.behind, Collected.pure]
  · simp

theorem collectItems_step {item : List Node}
    (hitem : outcome (collectBlocks (some .item)) rest = (item, more)) :
    outcome collectItems (.opening .item :: rest) =
      (outcome collectItems more).map (item :: ·) id := by
  obtain ⟨rfl, rfl⟩ := Prod.mk.inj hitem
  rw [outcome, collectItems]
  simp [outcome, Collected.behind, Collected.andThen, Collected.map]

end Steps

section Table

variable {cells : TableCells} {row : List (List Inline)} {rest more : List Event}

theorem collectTable_closes (alignments : List Alignment) (more : List Event) :
    outcome (collectTable cells row) (.closing (.table alignments) :: more) = (cells, more) := by
  rw [outcome, collectTable]
  simp [Tag.kind, Collected.behind, Collected.pure]

theorem collectTable_head :
    outcome (collectTable cells row) (.closing .tableHead :: more) =
      outcome (collectTable { cells with headers := row } []) more := by
  rw [outcome, collectTable]
  simp [outcome, Tag.kind, Collected.behind]

theorem collectTable_row :
    outcome (collectTable cells row) (.closing .tableRow :: more) =
      outcome (collectTable { cells with rows := cells.rows ++ [row] } []) more := by
  rw [outcome, collectTable]
  simp [outcome, Tag.kind, Collected.behind]

/-- A head or a row opens without an effect of its own. -/
theorem collectTable_opens {tag : Tag} (htag : tag ≠ .tableCell) :
    outcome (collectTable cells row) (.opening tag :: more) =
      outcome (collectTable cells row) more := by
  rw [outcome, collectTable]
  · simp [outcome, Collected.behind]
  · simp
  · simpa using htag

theorem collectTable_cell {cell : List Inline}
    (hcell : outcome (collectInlines .tableCell) rest = (cell, more)) :
    outcome (collectTable cells row) (.opening .tableCell :: rest) =
      outcome (collectTable cells (row ++ [cell])) more := by
  obtain ⟨rfl, rfl⟩ := Prod.mk.inj hcell
  rw [outcome, collectTable]
  simp [outcome, Collected.behind, Collected.andThen]

end Table

/-- What the collector of a content makes of events, and the events of what it made. -/
def Reads : Content → List Event → List Event → Prop
  | .prose, given, kept => ∃ inlines, Inline.eventsAll inlines = kept ∧
      ∀ kind more, Takes (collectInlines kind) given inlines more
  | .run, given, kept => ∃ inlines, Inline.eventsAll inlines = kept ∧
      ∀ more, startsRun more = false → outcome collectRun (given ++ more) = (inlines, more)
  | .flow, given, kept => ∃ nodes, Node.eventsAll nodes = kept ∧
      ∀ stop more, startsRun more = false → Takes (collectBlocks stop) given nodes more
  | .items, given, kept => ∃ items, Node.eventsItems items = kept ∧
      ∀ more, Takes collectItems given items more
  | .head, given, kept => ∃ headers rows,
      within .tableHead (Node.cellEvents headers) ++ Node.rowEvents rows = kept ∧
      ∀ more, outcome (collectTable ⟨[], []⟩ []) (given ++ more) =
        outcome (collectTable ⟨headers, rows⟩ []) more
  | .rows, given, kept => ∃ rows, Node.rowEvents rows = kept ∧
      ∀ headers before more, outcome (collectTable ⟨headers, before⟩ []) (given ++ more) =
        outcome (collectTable ⟨headers, before ++ rows⟩ []) more
  | .cells, given, kept => ∃ cells, Node.cellEvents cells = kept ∧
      ∀ table row more, outcome (collectTable table row) (given ++ more) =
        outcome (collectTable table (row ++ cells)) more
  | .code, given, kept => ∃ content, [.text content] = kept ∧
      ∀ kind more, Takes (collectRaw kind) given content more
  | .html, given, kept => ∃ content, [.html content] = kept ∧
      ∀ kind more, Takes (collectRaw kind) given content more

/-- Running text in front of the closing of its element is collected up to there. -/
theorem Reads.prose_closed {inner kept : List Event} (h : Reads .prose inner kept) :
    ∃ inlines, Inline.eventsAll inlines = kept ∧ ∀ tag more,
      outcome (collectInlines tag.kind) (inner ++ .closing tag :: more) = (inlines, more) := by
  obtain ⟨inlines, rfl, htakes⟩ := h
  exact ⟨inlines, rfl, fun tag more => (htakes _ _).ends (collectInlines_closes tag more)⟩

/-- Blocks in front of the closing of their element are collected up to there. -/
theorem Reads.flow_closed {inner kept : List Event} (h : Reads .flow inner kept) :
    ∃ nodes, Node.eventsAll nodes = kept ∧ ∀ tag more,
      outcome (collectBlocks (some tag.kind)) (inner ++ .closing tag :: more) = (nodes, more) := by
  obtain ⟨nodes, rfl, htakes⟩ := h
  exact ⟨nodes, rfl, fun tag more => (htakes _ _ rfl).ends (collectBlocks_closes tag more)⟩

/-- The event and the events behind it, up to the end of its element, make an inline element. -/
def MakesInline (event : Event) (rest kept : List Event) : Prop :=
  ∃ element : Inline, element.events = kept ∧
    ∀ more, outcome (collectInline event) (rest ++ more) = (some element, more)

theorem collectInline_leaf {event : Event} (hleaf : ∀ tag, event ≠ .opening tag)
    (rest : List Event) : outcome (collectInline event) rest = (event.inline?, rest) := by
  rw [outcome, collectInline]
  · simp [Collected.pure]
  · exact hleaf

theorem makesInline_leaf {event : Event} (hprose : event.isProse) :
    MakesInline event [] [event] := by
  have hleaf : ∀ tag, event ≠ .opening tag := by
    rintro tag rfl
    cases hprose
  suffices h : ∃ element : Inline, element.events = [event] ∧ event.inline? = some element by
    obtain ⟨element, hevents, helement⟩ := h
    exact ⟨element, hevents, fun more => by rw [collectInline_leaf hleaf, helement]; rfl⟩
  cases event with
  | text content => exact ⟨.text content, rfl, rfl⟩
  | code content => exact ⟨.code content, rfl, rfl⟩
  | inlineHtml content => exact ⟨.html content, rfl, rfl⟩
  | softBreak => exact ⟨.softBreak, rfl, rfl⟩
  | hardBreak => exact ⟨.hardBreak, rfl, rfl⟩
  | _ => cases hprose

theorem Tag.events_of_inline? {tag : Tag} {element : List Inline → Inline}
    (helement : tag.inline? = some element) (inlines : List Inline) :
    (element inlines).events = within tag.kept (Inline.eventsAll inlines) := by
  cases tag with
  | link target => cases target <;> cases helement <;> rfl
  | image target => cases target <;> cases helement <;> rfl
  | strong | emphasis | strikethrough => cases helement; rfl
  | _ => cases helement

theorem Tag.content_of_inline {tag : Tag} (hinline : tag.inline?.isSome) :
    tag.content = .prose := by
  cases tag <;> first | rfl | cases hinline

theorem makesInline_element {tag : Tag} {inner kept : List Event}
    (hinline : tag.inline?.isSome) (inside : Reads tag.content inner kept) :
    MakesInline (.opening tag) (inner ++ [.closing tag]) (within tag.kept kept) := by
  rw [Tag.content_of_inline hinline] at inside
  obtain ⟨inlines, rfl, hinner⟩ := inside.prose_closed
  obtain ⟨element, helement⟩ := Option.isSome_iff_exists.mp hinline
  refine ⟨element inlines, Tag.events_of_inline? helement inlines, fun more => ?_⟩
  rw [List.append_assoc, List.singleton_append, outcome, collectInline, helement]
  exact outcome_map (hinner tag more) _

theorem isInline_of_isProse {event : Event} (hprose : event.isProse) : event.isInline := by
  cases event <;> first | rfl | cases hprose

theorem closes_of_isInline {event : Event} (hinline : event.isInline) (kind : TagKind) :
    event.closes kind = false := by
  cases event <;> first | rfl | cases hinline

namespace Reads

variable {event : Event} {rest kept given keptBehind : List Event}

theorem prose_cons (hfirst : MakesInline event rest kept)
    (hopen : ∀ kind, event.closes kind = false) (behind : Reads .prose given keptBehind) :
    Reads .prose (event :: (rest ++ given)) (kept ++ keptBehind) := by
  obtain ⟨element, rfl, hfirst⟩ := hfirst
  obtain ⟨inlines, rfl, htakes⟩ := behind
  refine ⟨element :: inlines, rfl, fun kind more => ?_⟩
  have hstep : Takes (collectInlines kind) (event :: rest) [element] (given ++ more) :=
    collectInlines_step (hopen kind) (hfirst (given ++ more))
  exact hstep.append (htakes kind more)

theorem run_cons (hfirst : MakesInline event rest kept) (hinline : event.isInline)
    (behind : Reads .run given keptBehind) :
    Reads .run (event :: (rest ++ given)) (kept ++ keptBehind) := by
  obtain ⟨element, rfl, hfirst⟩ := hfirst
  obtain ⟨inlines, rfl, htakes⟩ := behind
  refine ⟨element :: inlines, rfl, fun more hstop => ?_⟩
  have hstep := collectRun_step hinline (hfirst (given ++ more))
  simp [hstep, htakes more hstop]

theorem flow_cons {node : Node} (hopen : ∀ kind, event.closes kind = false)
    (hfirst : ∀ more, startsRun more = false →
      outcome (collectBlock event) (rest ++ (given ++ more)) = (some node, given ++ more))
    (behind : Reads .flow given keptBehind) :
    Reads .flow (event :: (rest ++ given)) (node.events ++ keptBehind) := by
  obtain ⟨nodes, rfl, htakes⟩ := behind
  refine ⟨node :: nodes, rfl, fun stop more hstop => ?_⟩
  have hstep : Takes (collectBlocks stop) (event :: rest) [node] (given ++ more) :=
    collectBlocks_step hopen (hfirst more hstop)
  exact hstep.append (htakes stop more hstop)

/-- A task mark among blocks is passed over. -/
theorem flow_mark (hmark : event.isTaskMark) (behind : Reads .flow given kept) :
    Reads .flow (event :: given) kept := by
  obtain ⟨nodes, rfl, htakes⟩ := behind
  refine ⟨nodes, rfl, fun stop more hstop => ?_⟩
  cases event with
  | taskMark checked =>
    have hfirst : outcome (collectBlock (.taskMark checked)) (given ++ more) =
        (none, given ++ more) := by
      rw [outcome, collectBlock] <;> simp [Event.isInline, Event.inline?, Collected.pure]
    have hstep : Takes (collectBlocks stop) [.taskMark checked] [] (given ++ more) :=
      collectBlocks_step (fun _ => rfl) hfirst
    exact hstep.append (htakes stop more hstop)
  | _ => cases hmark

/-- A task mark in running text is passed over. -/
theorem prose_mark (hmark : event.isTaskMark) (behind : Reads .prose given kept) :
    Reads .prose (event :: given) kept := by
  obtain ⟨inlines, rfl, htakes⟩ := behind
  refine ⟨inlines, rfl, fun kind more => ?_⟩
  cases event with
  | taskMark checked =>
    have hfirst : outcome (collectInline (.taskMark checked)) (given ++ more) =
        (none, given ++ more) := collectInline_leaf (by simp) _
    have hstep : Takes (collectInlines kind) [.taskMark checked] [] (given ++ more) :=
      collectInlines_step rfl hfirst
    exact hstep.append (htakes kind more)
  | _ => cases hmark

theorem cells_cons {tag : Tag} {inner keptInner : List Event} (hcell : tag = .tableCell)
    (inside : Reads tag.content inner keptInner) (behind : Reads .cells given kept) :
    Reads .cells (within tag inner ++ given) (within tag.kept keptInner ++ kept) := by
  subst hcell
  obtain ⟨cell, rfl, hcell⟩ := inside.prose_closed
  obtain ⟨cells, rfl, hcells⟩ := behind
  refine ⟨cell :: cells, rfl, fun table row more => ?_⟩
  have hstep : outcome (collectTable table row)
      (.opening .tableCell :: (inner ++ .closing .tableCell :: (given ++ more))) =
        outcome (collectTable table (row ++ [cell])) (given ++ more) :=
    collectTable_cell (hcell .tableCell (given ++ more))
  simpa [within, hcells] using hstep

/-- The cells of a head or a row stand in front of its closing. -/
theorem table_part {tag : Tag} {inner keptInner : List Event} (htag : tag ≠ .tableCell)
    (inside : Reads .cells inner keptInner) :
    ∃ cells, Node.cellEvents cells = keptInner ∧ ∀ table more,
      outcome (collectTable table []) (within tag inner ++ more) =
        outcome (collectTable table cells) (.closing tag :: more) := by
  obtain ⟨cells, rfl, hcells⟩ := inside
  refine ⟨cells, rfl, fun table more => ?_⟩
  have hopens : outcome (collectTable table []) (.opening tag :: (inner ++ .closing tag :: more)) =
      outcome (collectTable table []) (inner ++ .closing tag :: more) := collectTable_opens htag
  simpa [within, hcells] using hopens

theorem rows_cons {tag : Tag} {inner keptInner : List Event} (hrow : tag = .tableRow)
    (inside : Reads tag.content inner keptInner) (behind : Reads .rows given kept) :
    Reads .rows (within tag inner ++ given) (within tag.kept keptInner ++ kept) := by
  subst hrow
  have hnot : Tag.tableRow ≠ .tableCell := by simp
  obtain ⟨cells, rfl, hpart⟩ := table_part hnot inside
  obtain ⟨rows, rfl, hrows⟩ := behind
  refine ⟨cells :: rows, rfl, fun headers before more => ?_⟩
  rw [List.append_assoc, hpart, collectTable_row, hrows]
  simp

theorem head_rows {tag : Tag} {inner keptInner : List Event} (hhead : tag = .tableHead)
    (inside : Reads tag.content inner keptInner) (behind : Reads .rows given kept) :
    Reads .head (within tag inner ++ given) (within tag.kept keptInner ++ kept) := by
  subst hhead
  have hnot : Tag.tableHead ≠ .tableCell := by simp
  obtain ⟨cells, rfl, hpart⟩ := table_part hnot inside
  obtain ⟨rows, rfl, hrows⟩ := behind
  refine ⟨cells, rows, rfl, fun more => ?_⟩
  rw [List.append_assoc, hpart, collectTable_head, hrows]
  simp

theorem items_cons {tag : Tag} {inner keptInner : List Event} (hitem : tag = .item)
    (inside : Reads tag.content inner keptInner) (behind : Reads .items given kept) :
    Reads .items (within tag inner ++ given) (within tag.kept keptInner ++ kept) := by
  subst hitem
  obtain ⟨item, rfl, hitem⟩ := inside.flow_closed
  obtain ⟨items, rfl, hbehind⟩ := behind
  refine ⟨item :: items, rfl, fun more => ?_⟩
  have hstep : Takes collectItems (within .item inner) [item] (given ++ more) := by
    simpa [Takes, within] using collectItems_step (hitem .item (given ++ more))
  exact hstep.append (hbehind more)

theorem raw {whole : Text → Event} {content : Content} (hraw : content.raw? = some whole)
    (hpieces : ∀ piece ∈ given, piece.isRaw) :
    Reads content given [whole (given.flatMap Event.rawText)] := by
  have htakes : ∀ kind more, Takes (collectRaw kind) given (given.flatMap Event.rawText) more := by
    intro kind more
    induction given with
    | nil => exact .nil more
    | cons piece given ih =>
      have hopen : piece.closes kind = false := by
        have := hpieces piece (by simp)
        cases piece <;> first | rfl | cases this
      have hstep : Takes (collectRaw kind) [piece] piece.rawText (given ++ more) :=
        collectRaw_step hopen _
      exact hstep.append (ih fun piece hpiece => hpieces piece (by simp [hpiece]))
  cases content with
  | code => cases hraw; exact ⟨_, rfl, htakes⟩
  | html => cases hraw; exact ⟨_, rfl, htakes⟩
  | _ => cases hraw

/-- What the element of a block tag is collected to. -/
theorem block {tag : Tag} {inner keptInner : List Event} (hblock : tag.isBlock)
    (inside : Reads tag.content inner keptInner) :
    ∃ node : Node, node.events = within tag.kept keptInner ∧ ∀ more,
      outcome (collectBlock (.opening tag)) (inner ++ .closing tag :: more) =
        (some node, more) := by
  cases tag with
  | paragraph =>
    obtain ⟨inlines, rfl, hinner⟩ := inside.prose_closed
    refine ⟨.paragraph inlines, rfl, fun more => ?_⟩
    rw [outcome, collectBlock]
    exact outcome_map (hinner .paragraph more) _
  | heading level =>
    obtain ⟨inlines, rfl, hinner⟩ := inside.prose_closed
    refine ⟨.heading level inlines, rfl, fun more => ?_⟩
    rw [outcome, collectBlock]
    exact outcome_map (hinner (.heading level) more) _
  | quote =>
    obtain ⟨nodes, rfl, hinner⟩ := inside.flow_closed
    refine ⟨.quote nodes, rfl, fun more => ?_⟩
    rw [outcome, collectBlock]
    exact outcome_map (hinner .quote more) _
  | codeBlock info =>
    obtain ⟨content, rfl, htakes⟩ := inside
    refine ⟨.codeBlock (language? info) content, rfl, fun more => ?_⟩
    have hinner := (htakes _ _).ends (collectRaw_closes (.codeBlock info) more)
    rw [outcome, collectBlock]
    exact outcome_map hinner _
  | htmlBlock =>
    obtain ⟨content, rfl, htakes⟩ := inside
    refine ⟨.html content, rfl, fun more => ?_⟩
    have hinner := (htakes _ _).ends (collectRaw_closes .htmlBlock more)
    rw [outcome, collectBlock]
    exact outcome_map hinner _
  | list start =>
    obtain ⟨items, rfl, htakes⟩ := inside
    refine ⟨listNode start items, by cases start <;> rfl, fun more => ?_⟩
    have hinner := (htakes _).ends (collectItems_closes start more)
    rw [outcome, collectBlock]
    exact outcome_map hinner _
  | table alignments =>
    obtain ⟨headers, rows, rfl, htable⟩ := inside
    refine ⟨.table alignments headers rows, rfl, fun more => ?_⟩
    have hinner := (htable _).trans (collectTable_closes alignments more)
    rw [outcome, collectBlock]
    exact outcome_map hinner _
  | _ => cases hblock

/-- The running text in front of other blocks makes a paragraph. -/
theorem flow_run {text keptText : List Event} (inside : Reads .run text keptText)
    (hstarts : startsRun text) (hstop : startsRun given = false) (behind : Reads .flow given kept) :
    Reads .flow (text ++ given) (within .paragraph keptText ++ kept) := by
  obtain ⟨inlines, rfl, hrun⟩ := inside
  cases text with
  | nil => cases hstarts
  | cons event rest =>
    have hinline : event.isInline := by simpa [startsRun] using hstarts
    have hfirst : ∀ more, startsRun more = false → outcome (collectBlock event)
        (rest ++ (given ++ more)) = (some (.paragraph inlines), given ++ more) := by
      intro more hmore
      have hbehind : startsRun (given ++ more) = false := by
        cases given with
        | nil => exact hmore
        | cons => exact hstop
      rw [collectBlock_run hinline, ← List.cons_append, hrun _ hbehind]
      rfl
    exact flow_cons (closes_of_isInline hinline) hfirst behind

theorem flow_rule (behind : Reads .flow given kept) :
    Reads .flow (.rule :: given) (.rule :: kept) := by
  have hfirst : ∀ more, startsRun more = false →
      outcome (collectBlock .rule) ([] ++ (given ++ more)) = (some .rule, given ++ more) := by
    intro more _
    rw [outcome, collectBlock]
    rfl
  exact flow_cons (fun _ => rfl) hfirst behind

theorem flow_element {tag : Tag} {inner keptInner : List Event} (hblock : tag.isBlock)
    (inside : Reads tag.content inner keptInner) (behind : Reads .flow given kept) :
    Reads .flow (within tag inner ++ given) (within tag.kept keptInner ++ kept) := by
  obtain ⟨node, hevents, hnode⟩ := inside.block hblock
  rw [← hevents]
  have hfirst : ∀ more, startsRun more = false → outcome (collectBlock (.opening tag))
      ((inner ++ [.closing tag]) ++ (given ++ more)) = (some node, given ++ more) := by
    intro more _
    simpa using hnode (given ++ more)
  exact flow_cons (fun _ => rfl) hfirst behind

end Reads

theorem Kept.startsRun_eq {text keptText : List Event} (h : Kept .run text keptText)
    (hnonempty : text ≠ []) : startsRun text := by
  cases h with
  | nil => exact absurd rfl hnonempty
  | leaf admits => exact isInline_of_isProse admits
  | mark admits goes => exact isInline_of_isProse admits
  | element holds => exact holds
  | raw raw => cases raw

/-- The collectors make of given events what is kept of them. -/
theorem Kept.reads {content : Content} {given kept : List Event} (h : Kept content given kept) :
    Reads content given kept := by
  -- One collector for each content, so each rule of the grammar is split by the content it is in.
  induction h with
  | @nil content ends =>
    cases content with
    | prose => exact ⟨[], rfl, fun _ more => .nil more⟩
    | run => exact ⟨[], rfl, fun _ hstop => collectRun_stop hstop⟩
    | flow => exact ⟨[], rfl, fun _ more _ => .nil more⟩
    | items => exact ⟨[], rfl, fun more => .nil more⟩
    | rows => exact ⟨[], rfl, fun _ before _ => by rw [List.append_nil]; rfl⟩
    | cells => exact ⟨[], rfl, fun _ row _ => by rw [List.append_nil]; rfl⟩
    | head | code | html => cases ends
  | @leaf content event given kept admits stays _ ih =>
    cases content with
    | prose =>
      have hprose : event.isProse := by simpa [Content.admits, stays] using admits
      exact ih.prose_cons (makesInline_leaf hprose)
        (closes_of_isInline (isInline_of_isProse hprose))
    | run => exact ih.run_cons (makesInline_leaf admits) (isInline_of_isProse admits)
    | flow =>
      have hrule : event = .rule := by simpa [Content.admits, stays] using admits
      subst hrule
      exact ih.flow_rule
    | _ => cases admits
  | @mark content event given kept admits goes _ ih =>
    cases content with
    | prose => exact ih.prose_mark goes
    | run =>
      cases event with
      | taskMark => cases admits
      | _ => cases goes
    | flow => exact ih.flow_mark goes
    | _ => cases admits
  | @element content tag inner keptInner given kept holds _ _ ihInside ihBehind =>
    cases content with
    | prose => exact ihBehind.prose_cons (makesInline_element holds ihInside) (fun _ => rfl)
    | run => exact ihBehind.run_cons (makesInline_element holds ihInside) holds
    | flow => exact ihInside.flow_element holds ihBehind
    | items => exact ihInside.items_cons (by simpa [Content.holds] using holds) ihBehind
    | head => exact ihInside.head_rows (by simpa [Content.holds] using holds) ihBehind
    | rows => exact ihInside.rows_cons (by simpa [Content.holds] using holds) ihBehind
    | cells => exact ihInside.cells_cons (by simpa [Content.holds] using holds) ihBehind
    | code | html => cases holds
  | run inside nonempty longest _ ihInside ihBehind =>
    exact ihInside.flow_run (inside.startsRun_eq nonempty) longest ihBehind
  | raw raw each => exact .raw raw each

example : Node.eventsAll (nodesOfEvents ([.rule, .taskMark true, .text ['a'], .softBreak] ++
      within (.link (.unresolved ['B', ' ', ' ', 'c'])) [.code ['d']] ++
      within (.codeBlock (some ['e', ' ', 'f'])) [.text ['g'], .text ['h']])) =
    [.rule] ++ within .paragraph ([.text ['a'], .softBreak] ++
      within (.link (.unresolved ['b', ' ', 'c'])) [.code ['d']]) ++
      within (.codeBlock (some ['e'])) [.text ['g', 'h']] := by cbv

end Literate.Markdown
