import Literate.Script.Branch

/-!
# Which opening lines are open

Each opening line is followed on its own over the controlling lines behind it: how many branches
stand open in it, how often it was switched, and whether it was closed. The lines that are still
open decide which lines are active and which controlling lines are wrong. The stack of branches
that lexing keeps tracks them.
-/

namespace Literate

/-- A controlling line at its place. -/
structure ControlLine where
  span : Span
  line : BranchLine
deriving DecidableEq

/-- An opening line that is open behind some controlling lines. -/
structure OpenLine where
  span : Span
  condition : Text
  /-- How many opening lines behind it are open. -/
  inner : Nat
  /-- How many switches stood behind it in no branch but its own. -/
  switches : Nat
deriving DecidableEq

/-- What an opening line begins. -/
def ControlLine.opened? : ControlLine → Option OpenLine
  | ⟨span, .opens condition⟩ => some ⟨span, condition, 0, 0⟩
  | _ => none

namespace OpenLine

/-- An open line behind one more controlling line, if that does not close it. -/
def after? (opened : OpenLine) : BranchLine → Option OpenLine
  | .opens _ => some { opened with inner := opened.inner + 1 }
  | .switches =>
      if opened.inner = 0 then some { opened with switches := opened.switches + 1 }
      else some opened
  | .closes =>
      if opened.inner = 0 then none else some { opened with inner := opened.inner - 1 }

/-- An open line behind several more, if none of them closes it. -/
def behind? (opened : OpenLine) (controls : List ControlLine) : Option OpenLine :=
  controls.foldlM (fun opened control => opened.after? control.line) opened

/-- Before its first switch an open line selects if its condition is true, and from there on if
its condition is not. -/
def Selects (defined : List Text) (opened : OpenLine) : Prop :=
  Condition.evaluate defined opened.condition = .ok true ↔ opened.switches = 0

end OpenLine

/-- The opening lines that are open behind some controlling lines, innermost first. -/
def openLines : List ControlLine → List OpenLine
  | [] => []
  | control :: more => openLines more ++ (control.opened?.bind (·.behind? more)).toList

def AllSelect (defined : List Text) (opens : List OpenLine) : Prop :=
  ∀ opened ∈ opens, opened.Selects defined

theorem allSelect_cons {defined : List Text} {opened : OpenLine} {opens : List OpenLine} :
    AllSelect defined (opened :: opens) ↔ opened.Selects defined ∧ AllSelect defined opens :=
  List.forall_mem_cons

theorem openLines_append_singleton (before : List ControlLine) (control : ControlLine) :
    openLines (before ++ [control]) =
      control.opened?.toList ++ (openLines before).filterMap (·.after? control.line) := by
  induction before with
  | nil => simp [openLines, OpenLine.behind?]
  | cons first before ih =>
      have hfirst : (first.opened?.bind (·.behind? (before ++ [control]))).toList =
          (first.opened?.bind (·.behind? before)).toList.filterMap (·.after? control.line) := by
        cases first.opened? with
        | none => rfl
        | some opened =>
            simp only [Option.bind_some, OpenLine.behind?, List.foldlM_append]
            cases before.foldlM (fun opened control => opened.after? control.line) opened with
            | none => rfl
            | some opened => cases h : opened.after? control.line <;> simp [h]
      rw [List.cons_append, openLines, openLines, ih, hfirst, List.append_assoc,
        List.filterMap_append]

theorem ControlLine.opened?_eq_some_iff {control : ControlLine} {opened : OpenLine} :
    control.opened? = some opened ↔
      control = ⟨opened.span, .opens opened.condition⟩ ∧ opened.inner = 0 ∧
        opened.switches = 0 := by
  obtain ⟨span, line⟩ := control
  obtain ⟨span', condition, inner, switches⟩ := opened
  cases line <;> simp [opened?, and_assoc, eq_comm]

/-- Behind one more controlling line, that line is open if it opens, and so is every line that it
does not close. -/
theorem mem_openLines_append_singleton {before : List ControlLine} {control : ControlLine}
    {opened : OpenLine} : opened ∈ openLines (before ++ [control]) ↔
      control.opened? = some opened ∨
        ∃ earlier ∈ openLines before, earlier.after? control.line = some opened := by
  rw [openLines_append_singleton, List.mem_append, Option.mem_toList, List.mem_filterMap]

/-- Behind a controlling line an open line is the same one. It has one more switch if the line is
a switch in no branch but its own. -/
theorem OpenLine.of_after? {opened opened' : OpenLine} {line : BranchLine}
    (h : opened.after? line = some opened') :
    opened'.span = opened.span ∧ opened'.condition = opened.condition ∧
      (opened'.switches = opened.switches ∨
        line = .switches ∧ opened.inner = 0 ∧ opened'.switches = opened.switches + 1) := by
  cases line with
  | opens condition =>
      cases h
      exact ⟨rfl, rfl, .inl rfl⟩
  | switches =>
      rw [after?] at h
      split at h
      next hinner =>
        cases h
        exact ⟨rfl, rfl, .inr ⟨rfl, hinner, rfl⟩⟩
      next =>
        cases h
        exact ⟨rfl, rfl, .inl rfl⟩
  | closes =>
      rw [after?] at h
      split at h <;> cases h
      exact ⟨rfl, rfl, .inl rfl⟩

/-! ## Wrong controlling lines -/

instance (result : Except ConditionError Bool) : Decidable (result = .ok true) :=
  match result with
  | .ok true => isTrue rfl
  | .ok false => isFalse (by simp)
  | .error _ => isFalse (by simp)

instance (defined : List Text) (opened : OpenLine) : Decidable (opened.Selects defined) :=
  inferInstanceAs (Decidable (_ ↔ _))

instance (defined : List Text) (opens : List OpenLine) : Decidable (AllSelect defined opens) :=
  inferInstanceAs (Decidable (∀ opened ∈ opens, opened.Selects defined))

/-- What is wrong with a controlling line where some lines are open. -/
def BranchLine.fault? (defined : List Text) (opens : List OpenLine) :
    BranchLine → Option LexCause
  | .opens condition =>
      if AllSelect defined opens then
        match Condition.evaluate defined condition with
        | .error e => some (.malformedCondition e)
        | .ok _ => none
      else none
  | .switches =>
      if opens = [] then some .switchOutside
      else if ∃ opened ∈ opens, opened.inner = 0 ∧ 0 < opened.switches then some .switchTwice
      else none
  | .closes => if opens = [] then some .closeOutside else none

def ControlLine.problems (defined : List Text) (opens : List OpenLine) (control : ControlLine) :
    List LexProblem :=
  (control.line.fault? defined opens).toList.map (⟨·, control.span⟩)

/-- What is wrong with controlling lines, one after the other, behind others. -/
def controlProblems (defined : List Text) (before : List ControlLine) :
    List ControlLine → List LexProblem
  | [] => []
  | control :: more =>
      control.problems defined (openLines before) ++
        controlProblems defined (before ++ [control]) more

/-! ## The stack of branches -/

section Tracks

variable {defined : List Text} {inner : Nat} {opens : List OpenLine} {branches : List Branch}

/-- A branch of the stack shows how a line is open. It knows whether the lines outside select, and
only if they do whether its condition holds. What it keeps as active is no more than both. -/
structure Branch.Shows (defined : List Text) (outer : List OpenLine) (opened : OpenLine)
    (branch : Branch) : Prop where
  span_eq : branch.span = opened.span
  switched_iff : branch.switched = true ↔ 0 < opened.switches
  outerActive_iff : branch.outerActive = true ↔ AllSelect defined outer
  holds_iff : AllSelect defined outer →
    (branch.holds = true ↔ Condition.evaluate defined opened.condition = .ok true)
  active_eq : branch.active = (branch.outerActive && (branch.holds != branch.switched))

namespace Branch

variable {outer other : List OpenLine} {opened : OpenLine} {branch : Branch}

theorem shows_opened {span : Span} {condition : Text} {outerActive holds : Bool}
    (houter : outerActive = true ↔ AllSelect defined outer)
    (hholds : AllSelect defined outer →
      (holds = true ↔ Condition.evaluate defined condition = .ok true)) :
    (Branch.opened span outerActive holds).Shows defined outer ⟨span, condition, 0, 0⟩ where
  span_eq := rfl
  switched_iff := by simp [Branch.opened]
  outerActive_iff := houter
  holds_iff := hholds
  active_eq := by simp [Branch.opened]

/-- The flag that one branch keeps stands for what all open lines select. -/
theorem Shows.active_iff (h : branch.Shows defined outer opened) :
    branch.active = true ↔ AllSelect defined (opened :: outer) := by
  rw [h.active_eq, Bool.and_eq_true, h.outerActive_iff, allSelect_cons, And.comm]
  refine and_congr_left fun houter => ?_
  have hswitched := h.switched_iff
  have hholds := h.holds_iff houter
  simp only [OpenLine.Selects, ← hholds]
  cases hb : branch.switched <;> cases branch.holds <;> simp_all <;> omega

theorem Shows.switch (h : branch.Shows defined outer opened) :
    branch.switch.Shows defined outer { opened with switches := opened.switches + 1 } where
  span_eq := h.span_eq
  switched_iff := by simp [Branch.switch]
  outerActive_iff := h.outerActive_iff
  holds_iff := h.holds_iff
  active_eq := by simp [Branch.switch]

/-- The number of inner branches makes no difference, and neither does what the lines outside are
if they select as much. -/
theorem Shows.shift (h : branch.Shows defined outer opened)
    (houter : AllSelect defined other ↔ AllSelect defined outer) (inner : Nat) :
    branch.Shows defined other { opened with inner := inner } where
  span_eq := h.span_eq
  switched_iff := h.switched_iff
  outerActive_iff := h.outerActive_iff.trans houter.symm
  holds_iff hother := h.holds_iff (houter.mp hother)
  active_eq := h.active_eq

end Branch

/-- A stack of branches that shows open lines, each with one more open line in it than the one
before. -/
inductive Tracks (defined : List Text) : Nat → List OpenLine → List Branch → Prop where
  | nil {inner : Nat} : Tracks defined inner [] []
  | cons {inner : Nat} {opened : OpenLine} {outer : List OpenLine} {branch : Branch}
      {branches : List Branch} (hinner : opened.inner = inner)
      (hshows : branch.Shows defined outer opened) (h : Tracks defined (inner + 1) outer branches) :
      Tracks defined inner (opened :: outer) (branch :: branches)

namespace Tracks

theorem map_span (h : Tracks defined inner opens branches) :
    branches.map (·.span) = opens.map (·.span) := by
  induction h with
  | nil => rfl
  | cons _ hshows _ ih => rw [List.map_cons, List.map_cons, hshows.span_eq, ih]

theorem exists_inner_eq (h : Tracks defined inner opens branches) :
    ∀ opened ∈ opens, ∃ n, opened.inner = inner + n := by
  induction h with
  | nil => simp
  | @cons inner opened outer branch branches hinner hshows h ih =>
      intro o ho
      rcases List.mem_cons.mp ho with rfl | ho
      · exact ⟨0, hinner⟩
      · obtain ⟨n, hn⟩ := ih o ho
        exact ⟨n + 1, by omega⟩

/-- Lines are active exactly if all open lines select. -/
theorem isActive_iff (h : Tracks defined inner opens branches) :
    isActive branches = true ↔ AllSelect defined opens := by
  cases h with
  | nil => simp [isActive, AllSelect]
  | cons _ hshows _ => exact hshows.active_iff

/-- A controlling line that changes nothing but the numbers of inner branches. -/
theorem shift (h : Tracks defined inner opens branches) (line : BranchLine) (inner' : Nat)
    (hafter : ∀ n, ∀ opened : OpenLine, opened.inner = inner + n →
      opened.after? line = some { opened with inner := inner' + n }) :
    Tracks defined inner' (opens.filterMap (·.after? line)) branches ∧
      (AllSelect defined (opens.filterMap (·.after? line)) ↔ AllSelect defined opens) := by
  induction h generalizing inner' with
  | nil => exact ⟨.nil, .rfl⟩
  | @cons inner opened outer branch branches hinner hshows h ih =>
      have hopened := hafter 0 opened hinner
      obtain ⟨houter, hselects⟩ := ih (inner' + 1) fun n o ho => by
        rw [hafter (n + 1) o (by omega), Nat.add_assoc, Nat.add_comm n]
      rw [List.filterMap_cons, hopened]
      constructor
      · exact .cons rfl (hshows.shift hselects _) houter
      · rw [allSelect_cons, allSelect_cons, hselects]
        rfl

/-- Behind an opening line every open line has one more open in it. -/
theorem shift_opens (h : Tracks defined 0 opens branches) (condition : Text) :
    Tracks defined 1 (opens.filterMap (·.after? (.opens condition))) branches ∧
      (AllSelect defined (opens.filterMap (·.after? (.opens condition))) ↔
        AllSelect defined opens) := by
  refine h.shift (.opens condition) 1 fun n opened hopened => ?_
  rw [OpenLine.after?, hopened, Nat.zero_add, Nat.add_comm]

/-- A switch leaves every open line but the innermost as it is. -/
theorem shift_switches (h : Tracks defined 1 opens branches) :
    Tracks defined 1 (opens.filterMap (·.after? .switches)) branches ∧
      (AllSelect defined (opens.filterMap (·.after? .switches)) ↔ AllSelect defined opens) := by
  refine h.shift .switches 1 fun n opened hopened => ?_
  rw [OpenLine.after?, if_neg (by omega), ← hopened]

/-- Behind a closing line every open line but the innermost has one less open in it. -/
theorem shift_closes (h : Tracks defined 1 opens branches) :
    Tracks defined 0 (opens.filterMap (·.after? .closes)) branches := by
  refine (h.shift .closes 0 fun n opened hopened => ?_).1
  rw [OpenLine.after?, if_neg (by omega), hopened, Nat.add_comm 1, Nat.add_sub_cancel, Nat.zero_add]

/-- Lexing a controlling line keeps track of the open lines. -/
theorem apply (h : Tracks defined 0 opens branches) (control : ControlLine) :
    Tracks defined 0 (control.opened?.toList ++ opens.filterMap (·.after? control.line))
      (applyBranchLine defined branches control.span control.line).1 := by
  obtain ⟨span, line⟩ := control
  cases line with
  | opens condition =>
      obtain ⟨houter, hselects⟩ := h.shift_opens condition
      have hactive := h.isActive_iff.trans hselects.symm
      simp only [applyBranchLine]
      split
      next hyes =>
        have hall : true = true ↔ _ := iff_of_true rfl (hactive.mp hyes)
        split
        next value heval => exact .cons rfl (Branch.shows_opened hall (by simp [heval])) houter
        next e heval => exact .cons rfl (Branch.shows_opened hall (by simp [heval])) houter
      next hno =>
        have hall := mt hactive.mpr hno
        exact .cons rfl (Branch.shows_opened (by simp [hall]) fun h => absurd h hall) houter
  | switches =>
      cases h with
      | nil => exact .nil
      | @cons _ opened outer branch branches hinner hshows h =>
          obtain ⟨houter, hselects⟩ := h.shift_switches
          have hopened : opened.after? .switches =
              some { opened with switches := opened.switches + 1 } := if_pos hinner
          have hshows' := hshows.shift hselects opened.inner
          simp only [ControlLine.opened?, Option.toList_none, List.nil_append, List.filterMap_cons,
            hopened, applyBranchLine]
          split
          next hswitched =>
            -- A second switch changes nothing that the branch shows.
            refine .cons hinner { hshows' with switched_iff := by simp [hswitched] } houter
          next => exact .cons hinner hshows'.switch houter
  | closes =>
      cases h with
      | nil => exact .nil
      | @cons _ opened outer branch branches hinner hshows h =>
          have hopened : opened.after? .closes = none := if_pos hinner
          simp only [ControlLine.opened?, Option.toList_none, List.nil_append, List.filterMap_cons,
            hopened, applyBranchLine]
          exact h.shift_closes

/-- Lexing a controlling line reports what is wrong with it. -/
theorem problems_eq (h : Tracks defined 0 opens branches) (control : ControlLine) :
    (applyBranchLine defined branches control.span control.line).2 =
      control.problems defined opens := by
  obtain ⟨span, line⟩ := control
  have hactive := h.isActive_iff
  unfold ControlLine.problems BranchLine.fault?
  cases line with
  | opens condition =>
      simp only [applyBranchLine, hactive]
      split
      next => split <;> simp [*]
      next => rfl
  | switches =>
      cases h with
      | nil => rfl
      | @cons _ opened outer branch branches hinner hshows h =>
          have hinnermost : (∃ o ∈ opened :: outer, o.inner = 0 ∧ 0 < o.switches) ↔
              branch.switched = true := by
            rw [hshows.switched_iff]
            constructor
            · rintro ⟨o, ho, hzero, hlt⟩
              rcases List.mem_cons.mp ho with rfl | ho
              · exact hlt
              · obtain ⟨n, hn⟩ := h.exists_inner_eq o ho
                omega
            · exact fun hlt => ⟨opened, List.mem_cons_self, hinner, hlt⟩
          simp only [applyBranchLine, hinnermost, reduceCtorEq, if_false]
          split <;> rfl
  | closes => cases h <;> rfl

end Tracks

end Tracks

end Literate
