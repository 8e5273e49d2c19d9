import SlopOS.Base.Trace
import SlopOS.Shell.ScrollSizes

/-!
# Runs of layout operations

Any number of layouts, each with its own output and configuration, and any sequence of
the public operations on them, including the two that pass windows from one layout to
another.  `Performed` collects what one operation does; the structure of every layout
and the windows it holds follow by induction over the calls.
-/

namespace SlopOS.Shell

open Machine CountedArray
open Function (update_of_ne update_self update_eq_self)

variable {COLUMNS WINDOWS : Nat} {reply : LayoutReply}

/-! ## Operations on one layout -/

/-- The public operations on one layout.  Those that only fill in `None` or a direction
are covered by the arguments. -/
inductive LayoutOp where
  | setReservedTop (reservedTop : UInt16)
  | focusWindow (window : UInt32)
  | openWindowWithProperties (window : UInt32) (width height : Option ColumnWidth)
      (display : Option ColumnDisplay)
  | consumeWindow (window : UInt32)
  | consumeWindowIntoColumn
  | expelWindowFromColumnWithDisplay (display : Option ColumnDisplay)
  | consumeOrExpelFocusedWindowLeftWithDisplay (display : Option ColumnDisplay)
  | consumeOrExpelFocusedWindowRightWithDisplay (display : Option ColumnDisplay)
  | toggleFocusedColumnTabbedDisplay
  | closeWindow (window : UInt32)
  | focusColumnLeft
  | focusColumnRight
  | focusColumnFirst
  | focusColumnLast
  | moveColumnLeft
  | moveColumnRight
  | moveColumnToFirst
  | moveColumnToLast
  | focusWindowUp
  | focusWindowDown
  | moveWindowUp
  | moveWindowDown
  | changeFocusedWindowHeight (change : ColumnWidthChange)
  | resetFocusedWindowHeight
  | switchPresetWindowHeight (backwards : Bool)
  | switchPresetColumnWidth (backwards : Bool)
  | toggleMaximizeFocusedColumn
  | setWindowMaximized (window : UInt32) (maximized : Bool)
  | setWindowMaximizedToEdges (window : UInt32) (maximized : Bool)
  | toggleMaximizeFocusedWindowToEdgesWithDisplay (display : Option ColumnDisplay)
  | changeFocusedColumnWidth (change : ColumnWidthChange)
  | setFocusedColumnWidth (width : ColumnWidth)
  | scrollBy (delta : Int32)
  | centerFocusedColumn
  | centerVisibleColumns
  | expandFocusedColumnToAvailableWidth

/-- What a call returns. -/
inductive LayoutReply where
  | silent
  | flag (changed : Bool)
  | result (value : Except LayoutError Unit)
  | flagged (value : Except LayoutError Bool)

/-- The reply says that nothing was changed: `false`, `Ok(false)` or `Err`. -/
def LayoutReply.declined : LayoutReply → Bool
  | .silent => false
  | .flag changed => !changed
  | .result (.ok _) => false
  | .result (.error _) => true
  | .flagged (.ok changed) => !changed
  | .flagged (.error _) => true

/-- All operations but those that open, consume or close a window. -/
def LayoutOp.keepsWindows : LayoutOp → Bool
  | .openWindowWithProperties .. => false
  | .consumeWindow _ => false
  | .closeWindow _ => false
  | _ => true

namespace ScrollLayout

variable (s : ScrollLayout COLUMNS WINDOWS)

def perform : LayoutOp → Except Panic (LayoutReply × ScrollLayout COLUMNS WINDOWS)
  | .setReservedTop reservedTop => do
    let (changed, s) ← s.setReservedTop reservedTop
    return (.flag changed, s)
  | .focusWindow window => .ok (.result (s.focusWindow window).1, (s.focusWindow window).2)
  | .openWindowWithProperties window width height display =>
    let opened := s.openWindowWithProperties window width height display
    .ok (.result opened.1, opened.2)
  | .consumeWindow window => .ok (.result (s.consumeWindow window).1, (s.consumeWindow window).2)
  | .consumeWindowIntoColumn =>
    .ok (.flag s.consumeWindowIntoColumn.1, s.consumeWindowIntoColumn.2)
  | .expelWindowFromColumnWithDisplay display =>
    let moved := s.expelWindowFromColumnWithDisplay display
    .ok (.flag moved.1, moved.2)
  | .consumeOrExpelFocusedWindowLeftWithDisplay display =>
    let moved := s.consumeOrExpelFocusedWindowLeftWithDisplay display
    .ok (.flag moved.1, moved.2)
  | .consumeOrExpelFocusedWindowRightWithDisplay display =>
    let moved := s.consumeOrExpelFocusedWindowRightWithDisplay display
    .ok (.flag moved.1, moved.2)
  | .toggleFocusedColumnTabbedDisplay =>
    .ok (.flag s.toggleFocusedColumnTabbedDisplay.1, s.toggleFocusedColumnTabbedDisplay.2)
  | .closeWindow window => .ok (.result (s.closeWindow window).1, (s.closeWindow window).2)
  | .focusColumnLeft => .ok (.flag s.focusColumnLeft.1, s.focusColumnLeft.2)
  | .focusColumnRight => .ok (.flag s.focusColumnRight.1, s.focusColumnRight.2)
  | .focusColumnFirst => .ok (.flag s.focusColumnFirst.1, s.focusColumnFirst.2)
  | .focusColumnLast => .ok (.flag s.focusColumnLast.1, s.focusColumnLast.2)
  | .moveColumnLeft => .ok (.flag s.moveColumnLeft.1, s.moveColumnLeft.2)
  | .moveColumnRight => .ok (.flag s.moveColumnRight.1, s.moveColumnRight.2)
  | .moveColumnToFirst => .ok (.flag s.moveColumnToFirst.1, s.moveColumnToFirst.2)
  | .moveColumnToLast => .ok (.flag s.moveColumnToLast.1, s.moveColumnToLast.2)
  | .focusWindowUp => .ok (.flag s.focusWindowUp.1, s.focusWindowUp.2)
  | .focusWindowDown => .ok (.flag s.focusWindowDown.1, s.focusWindowDown.2)
  | .moveWindowUp => .ok (.flag s.moveWindowUp.1, s.moveWindowUp.2)
  | .moveWindowDown => .ok (.flag s.moveWindowDown.1, s.moveWindowDown.2)
  | .changeFocusedWindowHeight change => do
    let (value, s) ← s.changeFocusedWindowHeight change
    return (.flagged value, s)
  | .resetFocusedWindowHeight =>
    .ok (.flag s.resetFocusedWindowHeight.1, s.resetFocusedWindowHeight.2)
  | .switchPresetWindowHeight backwards => do
    let (changed, s) ← s.switchPresetWindowHeightInDirection backwards
    return (.flag changed, s)
  | .switchPresetColumnWidth backwards => do
    let (changed, s) ← s.switchPresetColumnWidthInDirection backwards
    return (.flag changed, s)
  | .toggleMaximizeFocusedColumn =>
    .ok (.flag s.toggleMaximizeFocusedColumn.1, s.toggleMaximizeFocusedColumn.2)
  | .setWindowMaximized window maximized =>
    let set := s.setWindowMaximized window maximized
    .ok (.flagged set.1, set.2)
  | .setWindowMaximizedToEdges window maximized =>
    let set := s.setWindowMaximizedToEdges window maximized
    .ok (.flagged set.1, set.2)
  | .toggleMaximizeFocusedWindowToEdgesWithDisplay display =>
    let toggled := s.toggleMaximizeFocusedWindowToEdgesWithDisplay display
    .ok (.flag toggled.1, toggled.2)
  | .changeFocusedColumnWidth change =>
    .ok (.flagged (s.changeFocusedColumnWidth change).1, (s.changeFocusedColumnWidth change).2)
  | .setFocusedColumnWidth width =>
    .ok (.result (s.setFocusedColumnWidth width).1, (s.setFocusedColumnWidth width).2)
  | .scrollBy delta => .ok (.silent, s.scrollBy delta)
  | .centerFocusedColumn => .ok (.flag s.centerFocusedColumn.1, s.centerFocusedColumn.2)
  | .centerVisibleColumns => do
    let (changed, s) ← s.centerVisibleColumns
    return (.flag changed, s)
  | .expandFocusedColumnToAvailableWidth => do
    let (changed, s) ← s.expandFocusedColumnToAvailableWidth
    return (.flag changed, s)

/-- Where a reply of no change can be relied on.  A change of height clears the flag of a
column that is maximized to the edges before it looks at the heights; a change of width or
of a flag brings the view back to the focused column even if nothing else changes. -/
def Steady : LayoutOp → Prop
  | .changeFocusedWindowHeight _ => ¬ s.EdgeStack
  | .switchPresetWindowHeight _ => ¬ s.EdgeStack
  | .setWindowMaximized .. => s.visibleOffset = s.viewOffset
  | .setWindowMaximizedToEdges .. => s.visibleOffset = s.viewOffset
  | .changeFocusedColumnWidth _ => s.visibleOffset = s.viewOffset
  | _ => True

variable {s} {s' : ScrollLayout COLUMNS WINDOWS} {op : LayoutOp}

theorem new_wellFormed (outputWidth outputHeight reservedTop : UInt16) (config : LayoutConfig) :
    (new outputWidth outputHeight reservedTop config :
      ScrollLayout COLUMNS WINDOWS).WellFormed := by
  have unused : ∀ i,
      read (Vector.replicate COLUMNS (Column.empty : Column WINDOWS)) i = .empty := by
    intro i
    rw [read_replicate]
    split
    · rfl
    · rfl
  exact ⟨⟨Nat.zero_le _, fun i below => absurd below (Nat.not_lt_zero i), fun i _ => unused i⟩,
    .inr ⟨rfl, rfl⟩, List.nodup_nil⟩

/-- What an operation that returns has done. -/
structure Performed (s : ScrollLayout COLUMNS WINDOWS) (op : LayoutOp) (reply : LayoutReply)
    (s' : ScrollLayout COLUMNS WINDOWS) : Prop where
  wellFormed : s'.WellFormed
  windows : op.keepsWindows = true → s'.windows.Perm s.windows
  quiet : WINDOWS ≤ 32767 → s.Steady op → reply.declined = true → Looks s s'

theorem WellFormed.refused (wf : s.WellFormed) (reply : LayoutReply) : Performed s op reply s :=
  ⟨wf, fun _ => List.Perm.refl _, fun _ _ _ => Looks.refl s⟩

/-- A reply that reports a change. -/
theorem Rearranged.performed (arranged : Rearranged s s') (reports : reply.declined = false) :
    Performed s op reply s' :=
  ⟨arranged.wellFormed, fun _ => arranged.windows,
    fun _ _ declined => Bool.noConfusion (reports.symm.trans declined)⟩

theorem WellFormed.attempted (wf : s.WellFormed) {outcome : Bool × ScrollLayout COLUMNS WINDOWS}
    (attempted : Attempted s outcome) : Performed s op (.flag outcome.1) outcome.2 := by
  rcases attempted with rfl | ⟨s', rfl, arranged⟩
  · exact wf.refused _
  · exact arranged.performed rfl

theorem Reviewed.performed {outcome : Except LayoutError Bool × ScrollLayout COLUMNS WINDOWS}
    (reviewed : Reviewed s outcome) (steady : s.Steady op → s.visibleOffset = s.viewOffset) :
    Performed s op (.flagged outcome.1) outcome.2 := by
  obtain ⟨arranged, unchanged⟩ := reviewed
  refine ⟨arranged.wellFormed, fun _ => arranged.windows, fun _ rests declined => ?_⟩
  have quiet : outcome.1 ≠ .ok true := by
    intro changed
    rw [changed] at declined
    cases declined
  rcases unchanged quiet with same | same
  · rw [same]
    exact Looks.refl s
  · rw [same, looks_visible (steady rests)]
    exact Looks.refl s

theorem WellFormed.setFocusedColumnWidth_performed (wf : s.WellFormed) (width : ColumnWidth) :
    Performed s (.setFocusedColumnWidth width) (.result (s.setFocusedColumnWidth width).1)
      (s.setFocusedColumnWidth width).2 := by
  obtain ⟨arranged, -⟩ := wf.changeFocusedColumnWidth_cases (.set width)
  unfold setFocusedColumnWidth
  dsimp only
  cases replied : (s.changeFocusedColumnWidth (.set width)).1 with
  | ok changed => exact arranged.performed rfl
  | error error =>
    have same : (s.changeFocusedColumnWidth (.set width)).2 = s := by
      unfold changeFocusedColumnWidth at replied ⊢
      split
      case isTrue => rfl
      case isFalse possible =>
        rw [if_neg possible] at replied
        cases replied
    rw [same]
    exact wf.refused _

/-- Everything that an operation can do.  None panics while columns hold at most 32767
windows. -/
theorem WellFormed.performed (wf : s.WellFormed) (space : 0 < WINDOWS) (op : LayoutOp) :
    (s.perform op).Ends (fun r => Performed s op r.1 r.2) fun _ => 32767 < WINDOWS := by
  cases op
  case setReservedTop reservedTop =>
    exact (wf.setReservedTop_ends reservedTop).bind fun _ tried => wf.attempted tried.1
  case changeFocusedWindowHeight change =>
    refine (wf.changeFocusedWindowHeight_ends change).bind ?_
    rintro ⟨value, layout⟩ ⟨arranged, looks, -⟩
    refine ⟨arranged.wellFormed, fun _ => arranged.windows, fun small steady declined => ?_⟩
    refine looks small steady ?_
    rintro rfl
    cases declined
  case switchPresetWindowHeight backwards =>
    refine (wf.switchPresetWindowHeightInDirection_ends backwards).bind ?_
    rintro ⟨changed, layout⟩ ⟨arranged, looks⟩
    exact ⟨arranged.wellFormed, fun _ => arranged.windows, fun small steady declined =>
      looks small steady ((Bool.not_eq_true' _).mp declined)⟩
  case switchPresetColumnWidth backwards =>
    exact (wf.switchPresetColumnWidthInDirection_ends backwards).bind fun _ => wf.attempted
  case centerVisibleColumns => exact wf.centerVisibleColumns_ends.bind fun _ => wf.attempted
  case expandFocusedColumnToAvailableWidth =>
    exact wf.expandFocusedColumnToAvailableWidth_ends.bind fun _ => wf.attempted
  -- The other operations cannot panic.
  all_goals show Performed s _ _ _
  case focusWindow window =>
    rcases wf.focusWindow_cases with ⟨-, same⟩ | ⟨-, s', same, arranged⟩
    · rw [same]
      exact wf.refused _
    · rw [same]
      exact arranged.performed rfl
  case openWindowWithProperties window width height display =>
    rcases wf.openWindowWithProperties_cases space width height display with
      ⟨error, same⟩ | ⟨s', same, opened⟩
    · rw [same]
      exact wf.refused _
    · rw [same]
      exact ⟨opened.wellFormed, nofun, fun _ _ declined => Bool.noConfusion declined⟩
  case consumeWindow window =>
    rcases wf.consumeWindow_cases with ⟨error, same⟩ | ⟨s', same, opened⟩
    · rw [same]
      exact wf.refused _
    · rw [same]
      exact ⟨opened.wellFormed, nofun, fun _ _ declined => Bool.noConfusion declined⟩
  case closeWindow window =>
    rcases wf.closeWindow_cases with ⟨-, same⟩ | ⟨-, s', same, closed⟩
    · rw [same]
      exact wf.refused _
    · rw [same]
      exact ⟨closed.wellFormed, nofun, fun _ _ declined => Bool.noConfusion declined⟩
  case resetFocusedWindowHeight =>
    obtain ⟨arranged, looks⟩ := wf.resetFocusedWindowHeight_cases
    exact ⟨arranged.wellFormed, fun _ => arranged.windows, fun _ _ declined =>
      looks ((Bool.not_eq_true' _).mp declined)⟩
  case setWindowMaximized window maximized =>
    exact (wf.setWindowMaximized_cases maximized).performed id
  case setWindowMaximizedToEdges window maximized =>
    exact (wf.setWindowMaximizedToEdges_cases maximized).performed id
  case changeFocusedColumnWidth change =>
    exact (wf.changeFocusedColumnWidth_cases change).performed id
  case setFocusedColumnWidth width => exact wf.setFocusedColumnWidth_performed width
  case scrollBy delta => exact (wf.view _).performed rfl
  case consumeWindowIntoColumn => exact wf.attempted wf.consumeWindowIntoColumn_cases
  case expelWindowFromColumnWithDisplay display =>
    exact wf.attempted (wf.expelWindowFromColumnWithDisplay_cases display)
  case consumeOrExpelFocusedWindowLeftWithDisplay display =>
    exact wf.attempted (wf.consumeOrExpelFocusedWindowLeftWithDisplay_cases display)
  case consumeOrExpelFocusedWindowRightWithDisplay display =>
    exact wf.attempted (wf.consumeOrExpelFocusedWindowRightWithDisplay_cases display)
  case toggleFocusedColumnTabbedDisplay =>
    exact wf.attempted wf.toggleFocusedColumnTabbedDisplay_cases
  case focusColumnLeft => exact wf.attempted wf.focusColumnLeft_cases
  case focusColumnRight => exact wf.attempted wf.focusColumnRight_cases
  case focusColumnFirst => exact wf.attempted wf.focusColumnFirst_cases
  case focusColumnLast => exact wf.attempted wf.focusColumnLast_cases
  case moveColumnLeft => exact wf.attempted wf.moveColumnLeft_cases
  case moveColumnRight => exact wf.attempted wf.moveColumnRight_cases
  case moveColumnToFirst => exact wf.attempted wf.moveColumnToFirst_cases
  case moveColumnToLast => exact wf.attempted wf.moveColumnToLast_cases
  case focusWindowUp => exact wf.attempted wf.focusWindowUp_cases
  case focusWindowDown => exact wf.attempted wf.focusWindowDown_cases
  case moveWindowUp => exact wf.attempted wf.moveWindowUp_cases
  case moveWindowDown => exact wf.attempted wf.moveWindowDown_cases
  case toggleMaximizeFocusedColumn => exact wf.attempted wf.toggleMaximizeFocusedColumn_cases
  case toggleMaximizeFocusedWindowToEdgesWithDisplay display =>
    exact wf.attempted (wf.toggleMaximizeFocusedWindowToEdgesWithDisplay_cases display)
  case centerFocusedColumn => exact wf.attempted wf.centerFocusedColumn_cases

end ScrollLayout

/-! ## Several layouts -/

section Layouts

variable {ι : Type} [DecidableEq ι]

/-- What a layout is made from. -/
structure LayoutSetup where
  outputWidth : UInt16
  outputHeight : UInt16
  reservedTop : UInt16
  config : LayoutConfig

/-- A call on one of the layouts, or on two different ones. -/
inductive LayoutCall (ι : Type) where
  | on (i : ι) (op : LayoutOp)
  | moveFocusedColumnTo (source destination : ι) (distinct : source ≠ destination)
  | moveFocusedWindowToWithDisplay (source destination : ι) (distinct : source ≠ destination)
      (display : Option ColumnDisplay)

abbrev Layouts (ι : Type) (COLUMNS WINDOWS : Nat) := ι → ScrollLayout COLUMNS WINDOWS

namespace Layouts

variable (layouts : Layouts ι COLUMNS WINDOWS)

def new (setup : ι → LayoutSetup) : Layouts ι COLUMNS WINDOWS := fun i =>
  .new (setup i).outputWidth (setup i).outputHeight (setup i).reservedTop (setup i).config

/-- Both layouts of a move. -/
def put (source destination : ι) (s d : ScrollLayout COLUMNS WINDOWS) :
    Layouts ι COLUMNS WINDOWS :=
  Function.update (Function.update layouts source s) destination d

/-- A call that panics ends the program; no layout is looked at afterwards. -/
def call : LayoutCall ι → Layouts ι COLUMNS WINDOWS × Except Panic LayoutReply
  | .on i op =>
    match (layouts i).perform op with
    | .error panic => (layouts, .error panic)
    | .ok (reply, s) => (Function.update layouts i s, .ok reply)
  | .moveFocusedColumnTo source destination _ =>
    match (layouts source).moveFocusedColumnTo (layouts destination) with
    | (value, s, d) => (layouts.put source destination s d, .ok (.flagged value))
  | .moveFocusedWindowToWithDisplay source destination _ display =>
    match (layouts source).moveFocusedWindowToWithDisplay (layouts destination) display with
    | .error panic => (layouts, .error panic)
    | .ok (value, s, d) => (layouts.put source destination s d, .ok (.flagged value))

variable (setup : ι → LayoutSetup) (calls : List (LayoutCall ι))

/-- The layouts after `calls` on new ones. -/
def reached : Layouts ι COLUMNS WINDOWS :=
  Trace.run call (new setup) calls

abbrev Event (ι : Type) (COLUMNS WINDOWS : Nat) :=
  Trace.Event (Layouts ι COLUMNS WINDOWS) (LayoutCall ι) (Except Panic LayoutReply)

def history : List (Event ι COLUMNS WINDOWS) :=
  Trace.events call (new setup) calls

variable {layouts} {heights : Vector UInt16 WINDOWS} {s : ScrollLayout COLUMNS WINDOWS}
  {destination source : ι}

theorem call_on {i : ι} {op : LayoutOp} (performed : (layouts i).perform op = .ok (reply, s)) :
    layouts.call (.on i op) = (Function.update layouts i s, .ok reply) := by
  rw [call, performed]

theorem reached_snoc {setup : ι → LayoutSetup} {calls : List (LayoutCall ι)} {i : ι} {op : LayoutOp}
    (performed : (reached setup calls i).perform op = .ok (reply, s)) :
    reached setup (calls ++ [.on i op]) i = s := by
  rw [reached, Trace.run_append]
  show ((reached setup calls : Layouts ι COLUMNS WINDOWS).call (.on i op)).1 i = s
  rw [call_on performed]
  exact update_self ..

theorem put_self :
    layouts.put source destination (layouts source) (layouts destination) = layouts := by
  rw [put, update_eq_self, update_eq_self]

section

variable {d : ScrollLayout COLUMNS WINDOWS}

theorem put_source (distinct : source ≠ destination) :
    layouts.put source destination s d source = s := by
  rw [put, update_of_ne distinct, update_self]

theorem put_destination : layouts.put source destination s d destination = d :=
  update_self ..

/-- A property of the two layouts and of all others holds of all. -/
theorem forall_put {holds : ι → ScrollLayout COLUMNS WINDOWS → Prop} (atSource : holds source s)
    (atDestination : holds destination d) (others : ∀ i, holds i (layouts i)) (i : ι) :
    holds i (layouts.put source destination s d i) := by
  unfold put
  rcases eq_or_ne i destination with rfl | different
  · rw [update_self]
    exact atDestination
  rw [update_of_ne different]
  rcases eq_or_ne i source with rfl | different
  · rw [update_self]
    exact atSource
  · rw [update_of_ne different]
    exact others i

end

/-- The call is one whose reply of no change can be relied on. -/
def Steady (layouts : Layouts ι COLUMNS WINDOWS) : LayoutCall ι → Prop
  | .on i op => (layouts i).Steady op
  | _ => True

/-- The windows that a call must keep: those of the layout, or those of both layouts. -/
def Balanced (before after : Layouts ι COLUMNS WINDOWS) : LayoutCall ι → Prop
  | .on i op => op.keepsWindows = true → (after i).windows.Perm (before i).windows
  | .moveFocusedColumnTo source destination _ =>
    ((after source).windows ++ (after destination).windows).Perm
      ((before source).windows ++ (before destination).windows)
  | .moveFocusedWindowToWithDisplay source destination _ _ =>
    ((after source).windows ++ (after destination).windows).Perm
      ((before source).windows ++ (before destination).windows)

/-- The layouts that a call does not name. -/
def Apart (i : ι) : LayoutCall ι → Prop
  | .on j _ => i ≠ j
  | .moveFocusedColumnTo source destination _ => i ≠ source ∧ i ≠ destination
  | .moveFocusedWindowToWithDisplay source destination _ _ => i ≠ source ∧ i ≠ destination

/-- What a call on well-formed layouts does. -/
structure Answered (e : Event ι COLUMNS WINDOWS) : Prop where
  returns : WINDOWS ≤ 32767 → ∃ reply, e.reply = .ok reply
  balanced : Balanced e.before e.after e.operation
  others : ∀ i, Apart i e.operation → e.after i = e.before i
  quiet : WINDOWS ≤ 32767 → e.before.Steady e.operation → ∀ reply, e.reply = .ok reply →
    reply.declined = true → ∀ i, ScrollLayout.Looks (e.before i) (e.after i)

/-- Windows that pass from one layout to another stay in the union. -/
theorem passed_perm {d s' d' : ScrollLayout COLUMNS WINDOWS} (passed : s.Passed d s' d') :
    (s'.windows ++ d'.windows).Perm (s.windows ++ d.windows) := by
  obtain ⟨moved, left, received⟩ := passed.windows
  have swapped : (s'.windows ++ (moved ++ d.windows)).Perm (moved ++ s'.windows ++ d.windows) := by
    rw [← List.append_assoc]
    exact List.perm_append_comm.append_right _
  exact (received.append_left _).trans (swapped.trans (left.symm.append_right _))

/-- The layouts of a move that is refused stay; otherwise windows pass over. -/
theorem Answered.of_move {operation : LayoutCall ι} {value : Except LayoutError Bool}
    {d : ScrollLayout COLUMNS WINDOWS} (distinct : source ≠ destination)
    (apart : ∀ i, Apart i operation → i ≠ source ∧ i ≠ destination)
    (balanced : ∀ after : Layouts ι COLUMNS WINDOWS,
      ((after source).windows ++ (after destination).windows).Perm
        ((layouts source).windows ++ (layouts destination).windows) →
      Balanced layouts after operation) (outcome : (s = layouts source ∧ d = layouts destination) ∨
      (value = .ok true ∧ (layouts source).Passed (layouts destination) s d)) :
    Answered ⟨layouts, operation, .ok (.flagged value), layouts.put source destination s d⟩ where
  returns _ := ⟨_, rfl⟩
  balanced := by
    refine balanced _ ?_
    show ((layouts.put source destination s d source).windows ++
      (layouts.put source destination s d destination).windows).Perm _
    rw [put_source distinct, put_destination]
    rcases outcome with ⟨rfl, rfl⟩ | ⟨-, passed⟩
    · exact List.Perm.refl _
    · exact passed_perm passed
  others i unnamed := by
    obtain ⟨notSource, notDestination⟩ := apart i unnamed
    show Function.update (Function.update layouts source s) destination d i = layouts i
    rw [update_of_ne notDestination, update_of_ne notSource]
  quiet _ _ reply replied declined i := by
    cases replied
    rcases outcome with ⟨rfl, rfl⟩ | ⟨rfl, -⟩
    · show (layouts i).Looks (layouts.put source destination _ _ i)
      rw [put_self]
      exact .refl _
    · cases declined

/-- One call on well-formed layouts. -/
theorem call_answered (space : 0 < WINDOWS) (wf : ∀ i, (layouts i).WellFormed)
    (operation : LayoutCall ι) : (∀ i, ((layouts.call operation).1 i).WellFormed) ∧
      Answered (Trace.event call layouts operation) := by
  cases operation with
  | on i op =>
    unfold Trace.event
    have done := (wf i).performed space op
    cases performed : (layouts i).perform op with
    | error panic =>
      have called : layouts.call (.on i op) = (layouts, .error panic) := by
        rw [call, performed]
      rw [called]
      rw [performed] at done
      exact ⟨wf, fun small => absurd done (not_lt.mpr small), fun _ => List.Perm.refl _,
        fun _ _ => rfl, fun _ _ _ _ _ j => .refl _⟩
    | ok outcome =>
      obtain ⟨reply, s⟩ := outcome
      have done := done.of_eq_ok performed
      rw [call_on performed]
      refine ⟨fun j => ?_, fun _ => ⟨_, rfl⟩, fun keeps => ?_, fun j different =>
        update_of_ne different _ _, fun small steady reply' replied declined j => ?_⟩
      · show (Function.update layouts i s j).WellFormed
        rcases eq_or_ne j i with rfl | different
        · rw [update_self]
          exact done.wellFormed
        · rw [update_of_ne different]
          exact wf j
      · show (Function.update layouts i s i).windows.Perm _
        rw [update_self]
        exact done.windows keeps
      · cases replied
        show (layouts j).Looks (Function.update layouts i s j)
        rcases eq_or_ne j i with rfl | different
        · rw [update_self]
          exact done.quiet small steady declined
        · rw [update_of_ne different]
          exact .refl _
  | moveFocusedColumnTo source destination distinct =>
    unfold Trace.event call
    dsimp only
    rcases (wf source).moveFocusedColumnTo_cases (wf destination) with
      ⟨value, moved, -⟩ | ⟨s, d, moved, passed⟩
    · rw [moved]
      exact ⟨forall_put (wf source) (wf destination) wf,
        .of_move distinct (fun _ => id) (fun _ => id) (.inl ⟨rfl, rfl⟩)⟩
    · rw [moved]
      exact ⟨forall_put passed.source passed.destination wf,
        .of_move distinct (fun _ => id) (fun _ => id) (.inr ⟨rfl, passed⟩)⟩
  | moveFocusedWindowToWithDisplay source destination distinct display =>
    unfold Trace.event call
    dsimp only
    rcases (wf source).moveFocusedWindowToWithDisplay_cases (wf destination) display with
      ⟨value, moved, -⟩ | ⟨s, d, moved, passed⟩
    · rw [moved]
      exact ⟨forall_put (wf source) (wf destination) wf,
        .of_move distinct (fun _ => id) (fun _ => id) (.inl ⟨rfl, rfl⟩)⟩
    · rw [moved]
      exact ⟨forall_put passed.source passed.destination wf,
        .of_move distinct (fun _ => id) (fun _ => id) (.inr ⟨rfl, passed⟩)⟩

theorem reached_answered (space : 0 < WINDOWS) (setup : ι → LayoutSetup)
    (calls : List (LayoutCall ι)) :
    (∀ i, (reached setup calls i : ScrollLayout COLUMNS WINDOWS).WellFormed) ∧
      ∀ e ∈ (history setup calls : List (Event ι COLUMNS WINDOWS)), Answered e :=
  Trace.holds_always (fun (layouts : Layouts ι COLUMNS WINDOWS) record =>
      (∀ i, (layouts i).WellFormed) ∧ ∀ e ∈ record, Answered e)
    (fun operation holds =>
      have answered := call_answered space holds.1 operation
      ⟨answered.1, Trace.forall_mem_snoc holds.2 answered.2⟩)
    ⟨fun _ => ScrollLayout.new_wellFormed .., List.forall_mem_nil _⟩ calls

/-! ## A column of 32768 windows -/

/-- No output height, and gaps of 65535 pixels. -/
def stackSetup : LayoutSetup := ⟨0, 0, 0, { LayoutConfig.default with gaps := 65535 }⟩

/-- One column with the windows `0` to `n`. -/
def stackCalls (n : Nat) : List (LayoutCall Unit) :=
  .on () (.openWindowWithProperties 0 none none none) ::
    (List.range n).map fun k => .on () (.consumeWindow (UInt32.ofNat (k + 1)))

structure Stack (n : Nat) (s : ScrollLayout 1 WINDOWS) : Prop where
  gaps : s.config.gaps = 65535
  available : s.availableHeight = 0
  columnCount : s.columnCount = 1
  focusedColumn : s.focusedColumn = 0
  windowCount : (s.column 0).windowCount = n + 1
  focusedWindow : (s.column 0).focusedWindow = n
  display : (s.column 0).display = .normal
  heights : read (s.column 0).windowHeights 0 = 0
  windows : ∀ row ≤ n, read (s.column 0).windows row = UInt32.ofNat row

theorem stack_zero (space : 0 < WINDOWS) :
    Stack 0 (reached (fun _ => stackSetup) (stackCalls 0) () : ScrollLayout 1 WINDOWS) := by
  have opened : (reached (fun _ => stackSetup) (stackCalls 0) () : ScrollLayout 1 WINDOWS) =
      { (ScrollLayout.new 0 0 0 stackSetup.config : ScrollLayout 1 WINDOWS).insertColumn 0
        (.single 0 _ .normal) with focusedColumn := 0 }.ensureFocusedVisible := rfl
  rw [opened]
  generalize ColumnWidth.resolve _ _ _ = width
  have stored : (({ (ScrollLayout.new 0 0 0 stackSetup.config :
      ScrollLayout 1 WINDOWS).insertColumn 0 (.single 0 width .normal) with
      focusedColumn := 0 }).ensureFocusedVisible).column 0 = .single 0 width .normal :=
    read_write_same Nat.one_pos
  refine ⟨rfl, rfl, rfl, rfl, ?_, ?_, ?_, ?_, fun row low => ?_⟩
  · rw [stored]; rfl
  · rw [stored]; rfl
  · rw [stored]; rfl
  · exact Column.read_zeros
  · obtain rfl : row = 0 := Nat.le_zero.mp low
    exact read_write_same space

theorem Stack.consume {n : Nat} {s : ScrollLayout 1 WINDOWS} (stack : Stack n s)
    (wf : s.WellFormed) (room : n + 1 < WINDOWS) (small : WINDOWS ≤ 4294967296) :
    Stack (n + 1) (s.consumeWindow (UInt32.ofNat (n + 1))).2 := by
  have fresh : UInt32.ofNat (n + 1) ∉ s.windows := by
    intro present
    obtain ⟨i, inUse, row, inColumn, same⟩ := (ScrollLayout.mem_windows wf.toShaped).mp present
    obtain rfl : i = 0 := by
      have := stack.columnCount
      omega
    rw [stack.windowCount] at inColumn
    rw [stack.windows row (by omega), ← UInt32.toNat_inj, UInt32.toNat_ofNat_of_lt' (by
      show row < 4294967296
      omega), UInt32.toNat_ofNat_of_lt' (by
      show n + 1 < 4294967296
      omega)] at same
    omega
  have consumed : (s.consumeWindow (UInt32.ofNat (n + 1))).2 =
      s.setColumn 0 ((s.column 0).consume (UInt32.ofNat (n + 1))) := by
    have count := stack.columnCount
    have focus := stack.focusedColumn
    have windowCount := stack.windowCount
    unfold ScrollLayout.consumeWindow
    rw [(ScrollLayout.rejectDuplicate_eq_ok wf.toShaped).mpr fresh]
    rw [if_neg (by omega), focus, if_neg (by omega)]
    rfl
  have stored : (s.setColumn 0 ((s.column 0).consume (UInt32.ofNat (n + 1)))).column 0 =
      (s.column 0).consume (UInt32.ofNat (n + 1)) :=
    ScrollLayout.column_setColumn_same Nat.one_pos
  rw [consumed]
  refine ⟨stack.gaps, stack.available, stack.columnCount, stack.focusedColumn, ?_, ?_, ?_, ?_,
    fun row low => ?_⟩
  · rw [stored]
    exact congrArg (· + 1) stack.windowCount
  · rw [stored]
    exact stack.windowCount
  · rw [stored]
    exact stack.display
  · rw [stored]
    exact Column.read_zeros
  · rw [stored]
    show read (write (s.column 0).windows (s.column 0).windowCount _) row = _
    rw [stack.windowCount, read_write room]
    split
    case isTrue same => rw [same]
    case isFalse earlier => exact stack.windows row (by omega)

theorem stack_reached (n : Nat) (room : n < WINDOWS) (small : WINDOWS ≤ 4294967296) :
    Stack n (reached (fun _ => stackSetup) (stackCalls n) () : ScrollLayout 1 WINDOWS) := by
  induction n with
  | zero => exact stack_zero room
  | succ n ih =>
    have wf : (reached (fun _ => stackSetup) (stackCalls n) () :
        ScrollLayout 1 WINDOWS).WellFormed :=
      (reached_answered (Nat.zero_lt_of_lt room) _ _).1 ()
    have next : stackCalls (n + 1) =
        stackCalls n ++ [.on () (.consumeWindow (UInt32.ofNat (n + 1)))] := by
      unfold stackCalls
      rw [List.range_succ, List.map_append, List.map_singleton, List.cons_append]
    rw [next, reached, Trace.run_append]
    exact (ih (by omega)).consume wf room small

/-- The equal heights of 32768 windows: the gaps take more than 31 bits and the height comes
out as the largest of 16 bits. -/
theorem Stack.resolved {s : ScrollLayout 1 32768} (stack : Stack 32767 s) {row : Nat}
    (inUse : row < 32768) : read (s.resolvedWindowHeights 0) row = 65535 := by
  unfold ScrollLayout.resolvedWindowHeights
  dsimp only
  rw [stack.display, stack.heights, stack.windowCount, stack.gaps, stack.available]
  exact ScrollLayout.read_fill _ inUse inUse

theorem foldl_takeFrom_done {focus count : Nat} (offsets : List Nat) :
    offsets.foldl (ScrollLayout.takeFrom focus count) (heights, 0) = (heights, 0) := by
  induction offsets with
  | nil => rfl
  | cons offset rest ih =>
    exact ih

theorem take_first {focus count : Nat} (wraps : (focus + 1) % count = 0)
    (full : read heights 0 = 65535) :
    ScrollLayout.takeFrom focus count (heights, 1) 1 = (write heights 0 65534, 0) := by
  have amount : min ((65535 : UInt16).i32.saturatingAdd (-1)) 1 = 1 := by decide
  have left : (65535 : UInt16) - (1 : Int32).u16 = 65534 := by decide
  unfold ScrollLayout.takeFrom
  dsimp only
  rw [if_neg (by decide), wraps, full, amount, left, Int32.sub_self]

section

variable {focus count : Nat} (wraps : (focus + 1) % (count + 2) = 0) (full : read heights 0 = 65535)
include wraps full

theorem take_one :
    ScrollLayout.takePixels heights focus (count + 2) 1 = (write heights 0 65534, 0) := by
  unfold ScrollLayout.takePixels
  rw [show count + 2 - 1 = count + 1 from rfl, List.range'_succ, List.foldl_cons,
    take_first wraps full, foldl_takeFrom_done]

/-- One pixel more for the last window: the first gives it, and the 65536 pixels do not fit
the height. -/
theorem share_overflows :
    ScrollLayout.shareHeights heights focus (count + 2) (65535 : UInt16).i32 65536 =
      write (write heights 0 65534) focus 0 := by
  have delta : (65536 : Int32) - (65535 : UInt16).i32 = 1 := by decide
  have stored : ((65535 : UInt16).i32 + 1 - 0).u16 = 0 := by decide
  unfold ScrollLayout.shareHeights
  dsimp only
  rw [delta, if_pos (by decide), take_one wraps full, stored]

end

/-- The height of the last of 32768 windows, set to one pixel more. -/
theorem Stack.storeHeight {s : ScrollLayout 1 32768} (stack : Stack 32767 s) (was : Bool) :
    ∃ value s', s.storeHeight was (.adjustFixed 1) = .ok (value, s') ∧ s'.columnCount = 1 ∧
      (s'.column 0).windowCount = 32768 ∧ (s'.column 0).display = .normal ∧
      (s'.column 0).windowHeights = write (write (s.resolvedWindowHeights 0) 0 65534) 32767 0 := by
  have same : ∀ row < 32768, read (s.resolvedWindowHeights 0) row = 65535 :=
    fun row inUse => stack.resolved inUse
  have clamped : checkedClamp 65536 1
      (ScrollLayout.heightLimit (s.resolvedWindowHeights 0) 32768) = .ok 65536 := by
    have sum : ((held (s.resolvedWindowHeights 0) 32768).foldl
        (fun sum height => sum + height.i32) (0 : Int32)).toInt = 2147450880 := by
      have total : pixels (s.resolvedWindowHeights 0) 32768 = 2147450880 :=
        pixels_const (le_refl _) same
      have zero : (0 : Int32).toInt = 0 := rfl
      unfold pixels at total
      rw [toInt_sum (Int.le_of_eq zero.symm) (by rw [zero, total]; omega), total]
      rfl
    have limit : ScrollLayout.heightLimit (s.resolvedWindowHeights 0) 32768 = 2147418113 := by
      unfold ScrollLayout.heightLimit
      rw [← Int32.toInt_inj, Int32.toInt_sub, sum]
      rfl
    rw [limit]
    rfl
  unfold ScrollLayout.heightLimit at clamped
  unfold ScrollLayout.storeHeight
  rw [stack.focusedColumn]
  dsimp only
  rw [stack.windowCount, stack.focusedWindow, stack.display, same 32767 (by omega), if_neg (by
    decide), show s.requestedHeight (65535 : UInt16).i32 (.adjustFixed 1) = 65536 from rfl, clamped]
  simp only [bind, Except.bind]
  rw [share_overflows (show (32767 + 1) % (32766 + 2) = 0 from rfl) (same 0 (by omega))]
  have updated : ∀ heights : Vector UInt16 32768, (s.modifyColumn 0 ({ · with
      windowHeights := heights })).column 0 = { s.column 0 with windowHeights := heights } :=
    fun heights => ScrollLayout.column_setColumn_same Nat.one_pos
  refine ⟨_, _, rfl, stack.columnCount, ?_, ?_, ?_⟩
  · rw [updated]
    exact stack.windowCount
  · rw [updated]
    exact stack.display
  · rw [updated]

/-- A column of 32768 windows in which the focused one has lost its height. -/
theorem Stack.heights_mixed {s : ScrollLayout 1 32768} (stack : Stack 32767 s) :
    ∃ value s', s.changeFocusedWindowHeight (.adjustFixed 1) = .ok (value, s') ∧
      s'.columnCount = 1 ∧ (s'.column 0).windowCount = 32768 ∧
      read (s'.column 0).windowHeights 32767 = 0 ∧ read (s'.column 0).windowHeights 1 = 65535 ∧
      read (s'.resolvedWindowHeights 0) 32767 = 0 := by
  have stored : (s.modifyColumn 0 ({ · with maximizedToEdges := false })).column 0 =
      { s.column 0 with maximizedToEdges := false } :=
    ScrollLayout.column_setColumn_same Nat.one_pos
  have cleared : Stack 32767 (s.modifyColumn 0 ({ · with maximizedToEdges := false })) := by
    refine ⟨stack.gaps, stack.available, stack.columnCount, stack.focusedColumn, ?_, ?_, ?_, ?_,
      fun row low => ?_⟩
    · rw [stored]
      exact stack.windowCount
    · rw [stored]
      exact stack.focusedWindow
    · rw [stored]
      exact stack.display
    · rw [stored]
      exact stack.heights
    · rw [stored]
      exact stack.windows row low
  obtain ⟨value, s', changed, columns, count, display, heights⟩ :=
    cleared.storeHeight (s.column 0).maximizedToEdges
  have lost : read (s'.column 0).windowHeights 32767 = 0 := by
    rw [heights]
    exact read_write_same (by omega)
  refine ⟨value, s', ?_, columns, count, lost, ?_, ?_⟩
  · unfold ScrollLayout.changeFocusedWindowHeight
    rw [stack.columnCount, stack.focusedColumn]
    exact changed
  · rw [heights, read_write_other, read_write_other]
    exact cleared.resolved (by omega)
  · rwa [ScrollLayout.resolved_explicit (by rw [display]; decide)]
    rw [heights, read_write_other, read_write_same (by omega)]
    decide

/-! ## Reachable layouts -/

/-- The structure of a layout in terms of its arrays. -/
structure Structured (s : ScrollLayout COLUMNS WINDOWS) : Prop where
  capacity : s.columnCount ≤ COLUMNS
  columns : ∀ i < s.columnCount, 1 ≤ (s.column i).windowCount ∧
    (s.column i).windowCount ≤ WINDOWS ∧ (s.column i).focusedWindow < (s.column i).windowCount
  heights : WINDOWS ≤ 32767 → ∀ i < s.columnCount,
    (∀ row < (s.column i).windowCount, read (s.column i).windowHeights row = 0) ∨
      ∀ row < (s.column i).windowCount, 0 < read (s.column i).windowHeights row
  focus : s.focusedColumn < s.columnCount ∨ s.columnCount = 0 ∧ s.focusedColumn = 0
  unique : s.windows.Nodup
  unused : ∀ i, s.columnCount ≤ i → s.column i = .empty

theorem structured_of_wellFormed (wf : s.WellFormed) : Structured s where
  capacity := wf.capacity
  columns i inUse :=
    have sound := wf.columns i inUse
    ⟨sound.nonempty, sound.capacity, sound.focus⟩
  heights small i inUse := by
    have sound := wf.columns i inUse
    rcases sound.heights small with zero | ⟨positive, -⟩
    · exact .inl fun row below => zero _ (read_mem_held below sound.capacity)
    · exact .inr fun row below => positive _ (read_mem_held below sound.capacity)
  focus := wf.focus
  unique := wf.unique
  unused := wf.unused

/-- An output of 100 pixels square. -/
def squareSetup : LayoutSetup := ⟨100, 100, 0, .default⟩

/-- Two windows in one column. -/
def pairCalls : List (LayoutCall Unit) :=
  [.on () (.openWindowWithProperties 1 none none none), .on () (.consumeWindow 2)]

/-- Three windows side by side, the second focused. -/
def rowCalls : List (LayoutCall Unit) :=
  [.on () (.openWindowWithProperties 1 none none none),
    .on () (.openWindowWithProperties 2 none none none),
    .on () (.openWindowWithProperties 3 none none none), .on () .focusColumnLeft]

end Layouts

end Layouts

end SlopOS.Shell
