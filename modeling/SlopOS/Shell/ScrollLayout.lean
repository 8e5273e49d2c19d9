import Mathlib.Data.Vector.Basic
import SlopOS.Base.CountedArray
import SlopOS.Shell.Config

/-!
# The scrolling layout

`ScrollLayout` of `crates/shell/src/lib.rs`: a row of columns, each a stack of
windows, in arrays of fixed capacity.  An operation takes the layout to its reply
and the layout afterwards; one that can panic does so in `Except Panic`.  The
wrappers that only fill in `None` (`open_window`, `expel_window_from_column`, …) are
the operations below with `none` for the arguments they leave out.
-/

namespace SlopOS.Shell

open Machine CountedArray

inductive LayoutError where
  | duplicateWindow
  | columnCapacity
  | windowCapacity
  | unknownWindow
  | noFocusedWindow
  deriving DecidableEq, Repr

structure Rect where
  x : Int32
  y : Int32
  width : UInt16
  height : UInt16
  deriving DecidableEq, Repr

structure TabbedColumnInfo where
  activeTab : Nat
  tabCount : Nat
  deriving DecidableEq, Repr

structure Column (WINDOWS : Nat) where
  windows : Vector UInt32 WINDOWS
  windowHeights : Vector UInt16 WINDOWS
  windowCount : Nat
  focusedWindow : Nat
  width : UInt16
  maximized : Bool
  maximizedToEdges : Bool
  display : ColumnDisplay
  tabbedHeight : UInt16
  deriving DecidableEq

structure ScrollLayout (COLUMNS WINDOWS : Nat) where
  config : LayoutConfig
  outputWidth : UInt16
  outputHeight : UInt16
  reservedTop : UInt16
  columns : Vector (Column WINDOWS) COLUMNS
  columnCount : Nat
  focusedColumn : Nat
  viewOffset : Int32
  deriving DecidableEq

variable {COLUMNS WINDOWS : Nat}

/-! ## Columns -/

namespace Column

def empty : Column WINDOWS where
  windows := Vector.replicate _ 0
  windowHeights := Vector.replicate _ 0
  windowCount := 0
  focusedWindow := 0
  width := 0
  maximized := false
  maximizedToEdges := false
  display := .normal
  tabbedHeight := 0

instance : Inhabited (Column WINDOWS) := ⟨empty⟩

variable (column : Column WINDOWS)

def resetWindowHeights : Column WINDOWS :=
  { column with windowHeights := Vector.replicate _ 0, tabbedHeight := 0 }

/-- A new column for one window. -/
def single (window : UInt32) (width : UInt16) (display : ColumnDisplay) : Column WINDOWS :=
  { (empty : Column WINDOWS) with
    windows := write empty.windows 0 window, windowCount := 1, width, display }

/-- The loop that closes the gap a window leaves in its column. -/
def removeRow (row : Nat) : Column WINDOWS :=
  { column with
    windows := shiftDown column.windows row (column.windowCount - 1)
    windowCount := column.windowCount - 1 }

/-- A window consumed into the column: it comes last and gets the focus. -/
def consume (window : UInt32) : Column WINDOWS :=
  ({ column with
    windows := write column.windows column.windowCount window
    windowCount := column.windowCount + 1
    focusedWindow := column.windowCount
    maximizedToEdges := false } : Column WINDOWS).resetWindowHeights

end Column

namespace ScrollLayout

def new (outputWidth outputHeight reservedTop : UInt16) (config : LayoutConfig) :
    ScrollLayout COLUMNS WINDOWS where
  config
  outputWidth
  outputHeight
  reservedTop := min reservedTop outputHeight
  columns := Vector.replicate _ .empty
  columnCount := 0
  focusedColumn := 0
  viewOffset := 0

variable (s : ScrollLayout COLUMNS WINDOWS)

/-! ## Geometry -/

def column (index : Nat) : Column WINDOWS := read s.columns index

def availableHeight : UInt16 := s.outputHeight.saturatingSub s.reservedTop

/-- The height left for a single window between two gaps. -/
def maximumSingle : UInt16 := s.availableHeight.saturatingSub (s.config.gaps.saturatingMul 2)

def maximizedColumnWidth : UInt16 :=
  max (s.outputWidth.saturatingSub (s.config.gaps.saturatingMul 2)) 1

def effectiveColumnWidth (columnIndex : Nat) : UInt16 :=
  if (s.column columnIndex).maximizedToEdges then max s.outputWidth 1
  else if (s.column columnIndex).maximized then s.maximizedColumnWidth
  else (s.column columnIndex).width

def columnStart (columnIndex : Nat) : Int32 :=
  (List.range columnIndex).foldl
    (fun x index => x + ((s.effectiveColumnWidth index).i32 + s.config.gaps.i32)) s.config.gaps.i32

def maximumViewOffset : Int32 :=
  if s.columnCount = 0 then 0
  else
    let last := s.columnCount - 1
    max (s.columnStart last + (s.effectiveColumnWidth last).i32 + s.config.gaps.i32
      - s.outputWidth.i32) 0

/-- The view offset that `ensure_focused_visible` leaves. -/
def visibleOffset : Int32 :=
  if s.columnCount = 0 then 0
  else
    let start := s.columnStart s.focusedColumn
    if (s.column s.focusedColumn).maximizedToEdges then start
    else
      let stop := start + (s.effectiveColumnWidth s.focusedColumn).i32
      let outputWidth := s.outputWidth.i32
      let gap := s.config.gaps.i32
      let centered := (start + stop) / 2 - outputWidth / 2
      let shouldCenter := s.config.centerFocusedColumn = .always
        ∨ (s.config.alwaysCenterSingleColumn = true ∧ s.columnCount = 1)
        ∨ (s.config.centerFocusedColumn = .onOverflow
          ∧ (start < s.viewOffset + gap ∨ stop > s.viewOffset + outputWidth - gap))
      if shouldCenter then centered
      else if start < s.viewOffset + gap then max (start - gap) 0
      else if stop > s.viewOffset + outputWidth - gap then
        min (stop - outputWidth + gap) s.maximumViewOffset
      else s.viewOffset

def ensureFocusedVisible : ScrollLayout COLUMNS WINDOWS :=
  { s with viewOffset := s.visibleOffset }

def resolvedWindowHeights (columnIndex : Nat) : Vector UInt16 WINDOWS :=
  let column := s.column columnIndex
  let fill (height : UInt16) : Vector UInt16 WINDOWS :=
    Vector.ofFn fun row => if row.val < column.windowCount then height else 0
  if column.display = .tabbed then
    let maximum := max s.maximumSingle 1
    fill (if column.tabbedHeight = 0 then maximum else min column.tabbedHeight maximum)
  else if column.windowCount = 0 ∨ read column.windowHeights 0 ≠ 0 then
    column.windowHeights
  else
    -- `window_count as i32` keeps the low 32 bits, and the product wraps.
    let totalGaps := s.config.gaps.i32 * (Int32.ofNat column.windowCount + 1)
    let equalHeight := (s.availableHeight.i32 - totalGaps) / Int32.ofNat column.windowCount
    fill (clamp equalHeight 1 65535).u16

/-! ## Queries -/

/-- `focused_window`: the focused column is looked up with `get`, so an index outside
the array gives `None`. -/
def focusedWindow : Option UInt32 :=
  match s.columns[s.focusedColumn]? with
  | none => none
  | some column =>
    if column.windowCount = 0 then none else some (read column.windows column.focusedWindow)

section

variable (window : UInt32)

def findWindow : Option (Nat × Nat) :=
  (List.range s.columnCount).findSome? fun columnIndex =>
    ((List.range (s.column columnIndex).windowCount).find? fun windowIndex =>
      read (s.column columnIndex).windows windowIndex == window).map (columnIndex, ·)

def rejectDuplicate : Except LayoutError Unit :=
  if (s.findWindow window).isSome then .error .duplicateWindow else .ok ()

def windowIsVisible : Bool :=
  match s.findWindow window with
  | none => false
  | some (column, row) =>
    (s.column column).display == .normal || (s.column column).focusedWindow == row

def tabbedColumnInfo : Option TabbedColumnInfo :=
  match s.findWindow window with
  | none => none
  | some (column, _) =>
    if (s.column column).display = .tabbed then
      some ⟨(s.column column).focusedWindow, (s.column column).windowCount⟩
    else none

def tileRect : Except LayoutError Rect :=
  match s.findWindow window with
  | none => .error .unknownWindow
  | some (columnIndex, windowIndex) =>
    if (s.column columnIndex).maximizedToEdges then
      .ok ⟨0, s.reservedTop.i32, s.outputWidth, s.availableHeight⟩
    else
      let gaps := s.config.gaps.i32
      let x := s.columnStart columnIndex - s.viewOffset
      let heights := s.resolvedWindowHeights columnIndex
      if (s.column columnIndex).display = .tabbed then
        .ok ⟨x, s.reservedTop.i32 + gaps, s.effectiveColumnWidth columnIndex,
          read heights windowIndex⟩
      else
        let above := (held heights windowIndex).foldl (fun sum height => sum + (height.i32 + gaps)) 0
        .ok ⟨x, s.reservedTop.i32 + gaps + above, s.effectiveColumnWidth columnIndex,
          read heights windowIndex⟩

end

def isEmpty : Bool := s.columnCount == 0

/-! ## Edits of the row of columns -/

variable (index : Nat) (column : Column WINDOWS)

def setColumn : ScrollLayout COLUMNS WINDOWS :=
  { s with columns := write s.columns index column }

def modifyColumn (change : Column WINDOWS → Column WINDOWS) : ScrollLayout COLUMNS WINDOWS :=
  s.setColumn index (change (s.column index))

/-- The columns from `index` on move right and `column` takes the place. -/
def insertColumn : ScrollLayout COLUMNS WINDOWS :=
  { s with
    columns := write (shiftUp s.columns index s.columnCount) index column
    columnCount := s.columnCount + 1 }

/-- The columns behind `index` move left and the last place is emptied. -/
def removeColumn : ScrollLayout COLUMNS WINDOWS :=
  { s with
    columns := write (shiftDown s.columns index (s.columnCount - 1)) (s.columnCount - 1) .empty
    columnCount := s.columnCount - 1 }

/-- Where a new column goes: behind the focused one. -/
def insertAt : Nat := if s.columnCount = 0 then 0 else s.focusedColumn + 1

/-! ## The reserved strip at the top -/

section

variable (column : Column WINDOWS) (maximumTotal : UInt16) (total : UInt32)

/-- One round of the rescaling: the row keeps at least one pixel and leaves one for
every window below it. -/
def scaleRow (state : Vector UInt16 WINDOWS × UInt16) (index : Nat) :
    Except Panic (Vector UInt16 WINDOWS × UInt16) := do
  let (heights, remaining) := state
  let windowsLeft := UInt16.ofNat (column.windowCount - index - 1)
  let scaled ←
    if index + 1 = column.windowCount then pure remaining
    else do
      let share := (read heights index).toUInt32 * maximumTotal.toUInt32 / total
      let scaled ← checkedClamp share 1 (remaining.saturatingSub windowsLeft).toUInt32
      pure scaled.toUInt16
  pure (write heights index scaled, remaining.saturatingSub scaled)

/-- The heights of a column scaled down to `maximumTotal`. -/
def rescaled : Except Panic (Vector UInt16 WINDOWS × UInt16) :=
  (List.range column.windowCount).foldlM (scaleRow column maximumTotal total)
    (column.windowHeights, maximumTotal)

end

/-- The sum of the explicit heights, saturating at `u32::MAX`. -/
def explicitTotal : UInt32 :=
  (held column.windowHeights column.windowCount).foldl
    (fun sum height => UInt32.ofNat (min (sum.toNat + height.toNat) 4294967295)) 0

/-- A tabbed height is capped to the room of a single window. -/
def capTabbed (maximumSingle : UInt16) (column : Column WINDOWS) : Column WINDOWS :=
  if column.tabbedHeight ≠ 0 then { column with tabbedHeight := min column.tabbedHeight maximumSingle }
  else column

/-- Explicit heights are scaled down where they exceed the room. -/
def fitHeights (availableHeight gaps : UInt16) (column : Column WINDOWS) :
    Except Panic (Column WINDOWS) :=
  if column.windowCount = 0 ∨ read column.windowHeights 0 = 0 then .ok column
  else
    let count := UInt16.ofNat column.windowCount
    let maximumTotal := max (availableHeight.saturatingSub (gaps.saturatingMul (count + 1))) count
    let total := explicitTotal column
    if total ≤ maximumTotal.toUInt32 then .ok column
    else do
      let (heights, _) ← rescaled column maximumTotal total
      return { column with windowHeights := heights }

def fitColumn (availableHeight gaps maximumSingle : UInt16) (column : Column WINDOWS) :
    Except Panic (Column WINDOWS) :=
  fitHeights availableHeight gaps (capTabbed maximumSingle column)

/-- The column at `index` of `layout` fitted to the sizes of `s`. -/
def fitAt (layout : ScrollLayout COLUMNS WINDOWS) (index : Nat) :
    Except Panic (ScrollLayout COLUMNS WINDOWS) := do
  let column ← fitColumn s.availableHeight s.config.gaps (max s.maximumSingle 1)
    (layout.column index)
  pure (layout.setColumn index column)

def setReservedTop (reservedTop : UInt16) :
    Except Panic (Bool × ScrollLayout COLUMNS WINDOWS) :=
  let reservedTop := min reservedTop s.outputHeight
  if s.reservedTop = reservedTop then .ok (false, s)
  else do
    let s := { s with reservedTop }
    let s ← (List.range s.columnCount).foldlM s.fitAt s
    return (true, s)

/-! ## Opening, consuming and closing windows -/

section

variable (window : UInt32)

def focusWindow : Except LayoutError Unit × ScrollLayout COLUMNS WINDOWS :=
  match s.findWindow window with
  | none => (.error .unknownWindow, s)
  | some (column, row) =>
    (.ok (), ({ s with focusedColumn := column }.modifyColumn column
      ({ · with focusedWindow := row })).ensureFocusedVisible)

section

variable (width height : Option ColumnWidth) (display : Option ColumnDisplay)

/-- The column that `open_window_with_properties` opens. -/
def openedColumn : Column WINDOWS :=
  let column : Column WINDOWS := .single window
    ((width.getD s.config.defaultColumnWidth).resolve s.outputWidth s.config.gaps)
    (display.getD s.config.defaultColumnDisplay)
  match height.filter (· ≠ .client) with
  | none => column
  | some height =>
    let height := clamp (height.resolve s.availableHeight s.config.gaps) 1 (max s.maximumSingle 1)
    if column.display = .tabbed then { column with tabbedHeight := height }
    else { column with windowHeights := write column.windowHeights 0 height }

def openWindowWithProperties : Except LayoutError Unit × ScrollLayout COLUMNS WINDOWS :=
  match s.rejectDuplicate window with
  | .error error => (.error error, s)
  | .ok () =>
    if s.columnCount = COLUMNS then (.error .columnCapacity, s)
    else
      let inserted := s.insertColumn s.insertAt (s.openedColumn window width height display)
      (.ok (), { inserted with focusedColumn := s.insertAt }.ensureFocusedVisible)

end

def openWindow : Except LayoutError Unit × ScrollLayout COLUMNS WINDOWS :=
  s.openWindowWithProperties window none none none

def consumeWindow : Except LayoutError Unit × ScrollLayout COLUMNS WINDOWS :=
  match s.rejectDuplicate window with
  | .error error => (.error error, s)
  | .ok () =>
    if s.columnCount = 0 ∨ COLUMNS ≤ s.focusedColumn then (.error .noFocusedWindow, s)
    else if (s.column s.focusedColumn).windowCount = WINDOWS then (.error .windowCapacity, s)
    else (.ok (), s.modifyColumn s.focusedColumn (·.consume window))

def closeWindow : Except LayoutError Unit × ScrollLayout COLUMNS WINDOWS :=
  match s.findWindow window with
  | none => (.error .unknownWindow, s)
  | some (columnIndex, windowIndex) =>
    let column := (s.column columnIndex).removeRow windowIndex
    let column := { column with
      focusedWindow := min column.focusedWindow (column.windowCount - 1) }.resetWindowHeights
    let s := s.setColumn columnIndex column
    let s := if column.windowCount = 0 then
        let s := s.removeColumn columnIndex
        { s with focusedColumn := min s.focusedColumn (s.columnCount - 1) }
      else s
    (.ok (), s.ensureFocusedVisible)

end

/-! ## Moving windows between columns -/

variable (window : UInt32) (display : Option ColumnDisplay)

/-- The column of a window that leaves its column: the width stays. -/
def expelledColumn : Column WINDOWS :=
  .single window (s.column s.focusedColumn).width (display.getD s.config.defaultColumnDisplay)

def extractFocusedWindowToSide (left : Bool) (display : Option ColumnDisplay) :
    Bool × ScrollLayout COLUMNS WINDOWS :=
  let source := s.column s.focusedColumn
  if s.columnCount = 0 ∨ s.columnCount = COLUMNS ∨ source.windowCount ≤ 1 then (false, s)
  else
    let row := source.focusedWindow
    let window := read source.windows row
    let rest := { source.removeRow row with
      windowHeights := shiftDown source.windowHeights row (source.windowCount - 1)
      focusedWindow := min row (source.windowCount - 1 - 1) }.resetWindowHeights
    let destination := if left then s.focusedColumn else s.focusedColumn + 1
    let moved := (s.setColumn s.focusedColumn rest).insertColumn destination
      (s.expelledColumn window display)
    (true, { moved with focusedColumn := destination }.ensureFocusedVisible)

def consumeFocusedSingletonIntoAdjacent (left : Bool) : Bool × ScrollLayout COLUMNS WINDOWS :=
  let source := s.focusedColumn
  let target := if left then source - 1 else source + 1
  if (s.column target).windowCount = WINDOWS then (false, s)
  else
    let window := read (s.column source).windows 0
    let destination := if left then source - 1 else source
    let merged := (s.removeColumn source).modifyColumn destination (·.consume window)
    (true, { merged with focusedColumn := destination }.ensureFocusedVisible)

section

variable (display : Option ColumnDisplay)

def expelWindowFromColumnWithDisplay : Bool × ScrollLayout COLUMNS WINDOWS :=
  let source := s.column s.focusedColumn
  if s.columnCount = 0 ∨ s.columnCount = COLUMNS ∨ source.windowCount ≤ 1 then (false, s)
  else
    let window := read source.windows (source.windowCount - 1)
    let left := { source with
      windowCount := source.windowCount - 1
      focusedWindow := min source.focusedWindow (source.windowCount - 1 - 1) }.resetWindowHeights
    let moved := (s.setColumn s.focusedColumn left).insertColumn (s.focusedColumn + 1)
      (s.expelledColumn window display)
    (true, moved.ensureFocusedVisible)

def consumeOrExpelFocusedWindowLeftWithDisplay : Bool × ScrollLayout COLUMNS WINDOWS :=
  if s.columnCount = 0 then (false, s)
  else if 1 < (s.column s.focusedColumn).windowCount then s.extractFocusedWindowToSide true display
  else if s.focusedColumn = 0 then (false, s)
  else s.consumeFocusedSingletonIntoAdjacent true

def consumeOrExpelFocusedWindowRightWithDisplay : Bool × ScrollLayout COLUMNS WINDOWS :=
  if s.columnCount = 0 then (false, s)
  else if 1 < (s.column s.focusedColumn).windowCount then s.extractFocusedWindowToSide false display
  else if s.columnCount ≤ s.focusedColumn + 1 then (false, s)
  else s.consumeFocusedSingletonIntoAdjacent false

end

def consumeWindowIntoColumn : Bool × ScrollLayout COLUMNS WINDOWS :=
  if s.columnCount = 0 ∨ s.columnCount ≤ s.focusedColumn + 1 then (false, s)
  else
    let destination := s.focusedColumn
    let source := destination + 1
    if (s.column destination).windowCount = WINDOWS then (false, s)
    else
      let window := read (s.column source).windows 0
      let taken := (s.column source).removeRow 0
      let taken := { taken with
        focusedWindow := min (taken.focusedWindow - 1) (taken.windowCount - 1)
        maximizedToEdges := false }.resetWindowHeights
      let s := (s.setColumn source taken).modifyColumn destination (·.consume window)
      let s := if taken.windowCount = 0 then s.removeColumn source else s
      (true, s.ensureFocusedVisible)

def toggleFocusedColumnTabbedDisplay : Bool × ScrollLayout COLUMNS WINDOWS :=
  if s.columnCount = 0 then (false, s)
  else
    (true, s.modifyColumn s.focusedColumn fun column =>
      { column with display := if column.display = .normal then .tabbed else .normal })

/-! ## Focus and order of the columns -/

def focusColumnLeft : Bool × ScrollLayout COLUMNS WINDOWS :=
  if s.focusedColumn = 0 ∨ s.columnCount = 0 then (false, s)
  else (true, { s with focusedColumn := s.focusedColumn - 1 }.ensureFocusedVisible)

def focusColumnRight : Bool × ScrollLayout COLUMNS WINDOWS :=
  if s.columnCount = 0 ∨ s.columnCount ≤ s.focusedColumn + 1 then (false, s)
  else (true, { s with focusedColumn := s.focusedColumn + 1 }.ensureFocusedVisible)

def focusColumnFirst : Bool × ScrollLayout COLUMNS WINDOWS :=
  if s.columnCount = 0 ∨ s.focusedColumn = 0 then (false, s)
  else (true, { s with focusedColumn := 0 }.ensureFocusedVisible)

def focusColumnLast : Bool × ScrollLayout COLUMNS WINDOWS :=
  if s.columnCount = 0 ∨ s.focusedColumn + 1 = s.columnCount then (false, s)
  else (true, { s with focusedColumn := s.columnCount - 1 }.ensureFocusedVisible)

def moveColumnLeft : Bool × ScrollLayout COLUMNS WINDOWS :=
  if s.focusedColumn = 0 ∨ s.columnCount = 0 then (false, s)
  else
    (true, { s with
      columns := swap s.columns s.focusedColumn (s.focusedColumn - 1)
      focusedColumn := s.focusedColumn - 1 }.ensureFocusedVisible)

def moveColumnRight : Bool × ScrollLayout COLUMNS WINDOWS :=
  if s.columnCount = 0 ∨ s.columnCount ≤ s.focusedColumn + 1 then (false, s)
  else
    (true, { s with
      columns := swap s.columns s.focusedColumn (s.focusedColumn + 1)
      focusedColumn := s.focusedColumn + 1 }.ensureFocusedVisible)

/-- `for index in (1..=source).rev()` moves every column before the focused one right. -/
def moveColumnToFirst : Bool × ScrollLayout COLUMNS WINDOWS :=
  if s.columnCount = 0 ∨ s.focusedColumn = 0 then (false, s)
  else
    (true, { s with
      columns := write (shiftUp s.columns 0 s.focusedColumn) 0 (s.column s.focusedColumn)
      focusedColumn := 0 }.ensureFocusedVisible)

def moveColumnToLast : Bool × ScrollLayout COLUMNS WINDOWS :=
  if s.columnCount = 0 ∨ s.focusedColumn + 1 = s.columnCount then (false, s)
  else
    (true, { s with
      columns := write (shiftDown s.columns s.focusedColumn (s.columnCount - 1)) (s.columnCount - 1)
        (s.column s.focusedColumn)
      focusedColumn := s.columnCount - 1 }.ensureFocusedVisible)

/-! ## Moves to another layout -/

def moveFocusedColumnTo (destination : ScrollLayout COLUMNS WINDOWS) :
    Except LayoutError Bool × ScrollLayout COLUMNS WINDOWS × ScrollLayout COLUMNS WINDOWS :=
  if s.columnCount = 0 then (.ok false, s, destination)
  else if destination.columnCount = COLUMNS then (.error .columnCapacity, s, destination)
  else
    let column := s.column s.focusedColumn
    if (held column.windows column.windowCount).any fun window =>
        (destination.findWindow window).isSome then
      (.error .duplicateWindow, s, destination)
    else
      let received := destination.insertColumn destination.insertAt column
      let received := { received with focusedColumn := destination.insertAt }.ensureFocusedVisible
      let left := s.removeColumn s.focusedColumn
      let left := { left with focusedColumn := min s.focusedColumn (left.columnCount - 1) }
      (.ok true, left.ensureFocusedVisible, received)

/-- The column of a window that goes to another layout: width and maximization stay. -/
def movedColumn (source : Column WINDOWS) (window : UInt32) (display : ColumnDisplay) :
    Column WINDOWS :=
  { Column.single window source.width display with
    maximized := source.maximized, maximizedToEdges := source.maximizedToEdges }

def moveFocusedWindowToWithDisplay (destination : ScrollLayout COLUMNS WINDOWS)
    (display : Option ColumnDisplay) :
    Except Panic
      (Except LayoutError Bool × ScrollLayout COLUMNS WINDOWS × ScrollLayout COLUMNS WINDOWS) :=
  if s.columnCount = 0 then .ok (.ok false, s, destination)
  else if destination.columnCount = COLUMNS then .ok (.error .columnCapacity, s, destination)
  else
    let source := s.column s.focusedColumn
    let window := read source.windows source.focusedWindow
    match destination.rejectDuplicate window with
    | .error error => .ok (.error error, s, destination)
    | .ok () =>
      let column := movedColumn source window
        (display.getD destination.config.defaultColumnDisplay)
      let received := destination.insertColumn destination.insertAt column
      let received := { received with focusedColumn := destination.insertAt }.ensureFocusedVisible
      match s.closeWindow window with
      | (.error _, _) => .error (.expect "focused source window remains present until transfer")
      | (.ok (), left) => .ok (.ok true, left, received)

/-! ## Focus and order within the column -/

def focusWindowUp : Bool × ScrollLayout COLUMNS WINDOWS :=
  let column := s.column s.focusedColumn
  if column.windowCount = 0 ∨ column.focusedWindow = 0 then (false, s)
  else (true, s.setColumn s.focusedColumn { column with focusedWindow := column.focusedWindow - 1 })

def focusWindowDown : Bool × ScrollLayout COLUMNS WINDOWS :=
  let column := s.column s.focusedColumn
  if column.windowCount = 0 ∨ column.windowCount ≤ column.focusedWindow + 1 then (false, s)
  else (true, s.setColumn s.focusedColumn { column with focusedWindow := column.focusedWindow + 1 })

/-- The focused window of `column` exchanged with the one in `row`. -/
def exchangeRow (row : Nat) : Column WINDOWS :=
  { column with
    windows := swap column.windows column.focusedWindow row
    windowHeights := swap column.windowHeights column.focusedWindow row
    focusedWindow := row }

def moveWindowUp : Bool × ScrollLayout COLUMNS WINDOWS :=
  let column := s.column s.focusedColumn
  if column.windowCount = 0 ∨ column.focusedWindow = 0 then (false, s)
  else (true, s.setColumn s.focusedColumn (exchangeRow column (column.focusedWindow - 1)))

def moveWindowDown : Bool × ScrollLayout COLUMNS WINDOWS :=
  let column := s.column s.focusedColumn
  if column.windowCount = 0 ∨ column.windowCount ≤ column.focusedWindow + 1 then (false, s)
  else (true, s.setColumn s.focusedColumn (exchangeRow column (column.focusedWindow + 1)))

/-! ## Heights -/

/-- The height asked for, given the height `previous` that the window has. -/
def requestedHeight (previous : Int32) : ColumnWidthChange → Int32
  | .set height => (height.resolve s.availableHeight s.config.gaps).i32
  | .adjustProportion thousandths =>
    previous.saturatingAdd
      ((s.availableHeight.saturatingSub s.config.gaps).i32.saturatingMul thousandths.toInt32 / 1000)
  | .adjustFixed pixels => previous.saturatingAdd pixels

/-- One round: pixels taken from the window `offset` places further, down to one pixel.
A round after nothing remains is the `break`. -/
def takeFrom (focusedWindow windowCount : Nat) (state : Vector UInt16 WINDOWS × Int32)
    (offset : Nat) : Vector UInt16 WINDOWS × Int32 :=
  let (heights, remaining) := state
  if remaining = 0 then (heights, remaining)
  else
    let index := (focusedWindow + offset) % windowCount
    let available := (read heights index).i32.saturatingAdd (-1)
    let taken := min available remaining
    (write heights index (read heights index - taken.u16), remaining - taken)

section

variable (heights : Vector UInt16 WINDOWS) (focusedWindow windowCount : Nat)

/-- The pixels `delta` taken from the other windows, in turn. -/
def takePixels (delta : Int32) : Vector UInt16 WINDOWS × Int32 :=
  (List.range' 1 (windowCount - 1)).foldl (takeFrom focusedWindow windowCount) (heights, delta)

/-- The heights once the focused window goes from `previous` to `target`. -/
def shareHeights (previous target : Int32) : Vector UInt16 WINDOWS :=
  let delta := target - previous
  if delta > 0 then
    let (heights, remaining) := takePixels heights focusedWindow windowCount delta
    write heights focusedWindow (previous + delta - remaining).u16
  else
    let released := -delta
    let heights := write heights focusedWindow target.u16
    let recipient := (focusedWindow + 1) % windowCount
    write heights recipient (min ((read heights recipient).i32.saturatingAdd released) 65535).u16

end

/-- `change_focused_window_height` once the column is no longer maximized to the edges. -/
def storeHeight (wasMaximizedToEdges : Bool) (change : ColumnWidthChange) :
    Except Panic (Except LayoutError Bool × ScrollLayout COLUMNS WINDOWS) :=
  let columnIndex := s.focusedColumn
  let windowCount := (s.column columnIndex).windowCount
  if windowCount = 0 then .ok (.error .noFocusedWindow, s)
  else
    let focusedWindow := (s.column columnIndex).focusedWindow
    let heights := s.resolvedWindowHeights columnIndex
    let previous := (read heights focusedWindow).i32
    let requested := s.requestedHeight previous change
    let single := (clamp requested 1 (max s.maximumSingle 1).i32).u16
    if (s.column columnIndex).display = .tabbed then
      .ok (.ok (wasMaximizedToEdges || single != previous.u16),
        s.modifyColumn columnIndex ({ · with tabbedHeight := single }))
    else if windowCount = 1 then
      .ok (.ok (wasMaximizedToEdges || single != previous.u16),
        s.modifyColumn columnIndex fun column =>
          { column with windowHeights := write column.windowHeights 0 single })
    else do
      let totalHeight := (held heights windowCount).foldl (fun sum height => sum + height.i32) 0
      let target ← checkedClamp requested 1 (totalHeight - (Int32.ofNat windowCount - 1))
      -- The flag that was cleared is not part of the reply here.
      if target - previous = 0 then
        return (.ok false, s)
      else
        let heights := shareHeights heights focusedWindow windowCount previous target
        return (.ok (wasMaximizedToEdges || read heights focusedWindow != previous.u16),
          s.modifyColumn columnIndex ({ · with windowHeights := heights }))

def changeFocusedWindowHeight (change : ColumnWidthChange) :
    Except Panic (Except LayoutError Bool × ScrollLayout COLUMNS WINDOWS) :=
  if s.columnCount = 0 then .ok (.error .noFocusedWindow, s)
  else
    (s.modifyColumn s.focusedColumn ({ · with maximizedToEdges := false })).storeHeight
      (s.column s.focusedColumn).maximizedToEdges change

def resetFocusedWindowHeight : Bool × ScrollLayout COLUMNS WINDOWS :=
  if s.columnCount = 0 then (false, s)
  else
    let column := s.column s.focusedColumn
    let changed := column.tabbedHeight != 0
      || (held column.windowHeights column.windowCount).any (· != 0)
    (column.maximizedToEdges || changed,
      s.setColumn s.focusedColumn { column with maximizedToEdges := false }.resetWindowHeights)

def switchPresetWindowHeightInDirection (backwards : Bool) :
    Except Panic (Bool × ScrollLayout COLUMNS WINDOWS) :=
  if s.columnCount = 0 ∨ s.config.presetWindowHeights.isEmpty then .ok (false, s)
  else
    let column := s.column s.focusedColumn
    if column.windowCount ≤ column.focusedWindow then .ok (false, s)
    else do
      let current := read (s.resolvedWindowHeights s.focusedColumn) column.focusedWindow
      let presets := s.config.presetWindowHeights
      let height ← expect "preset index stays within the fixed list"
        (presets.get (nextPresetIndex presets current s.availableHeight s.config.gaps backwards))
      let (reply, s) ← s.changeFocusedWindowHeight (.set height)
      return (reply.toOption.getD false, s)

/-! ## Widths -/

def switchPresetColumnWidthInDirection (backwards : Bool) :
    Except Panic (Bool × ScrollLayout COLUMNS WINDOWS) :=
  if s.columnCount = 0 ∨ s.config.presetColumnWidths.isEmpty then .ok (false, s)
  else do
    let presets := s.config.presetColumnWidths
    let current := s.effectiveColumnWidth s.focusedColumn
    let column := s.column s.focusedColumn
    let preset ← expect "preset index stays within the fixed list"
      (presets.get (nextPresetIndex presets current s.outputWidth s.config.gaps backwards))
    let width := preset.resolve s.outputWidth s.config.gaps
    if width = current ∧ column.maximized = false ∧ column.maximizedToEdges = false then
      return (false, s)
    return (true, (s.setColumn s.focusedColumn
      { column with width, maximized := false, maximizedToEdges := false }).ensureFocusedVisible)

def toggleMaximizeFocusedColumn : Bool × ScrollLayout COLUMNS WINDOWS :=
  if s.columnCount = 0 then (false, s)
  else
    (true, (s.modifyColumn s.focusedColumn fun column =>
      if column.maximizedToEdges then { column with maximizedToEdges := false, maximized := false }
      else { column with maximized := !column.maximized }).ensureFocusedVisible)

def setWindowMaximized (maximized : Bool) :
    Except LayoutError Bool × ScrollLayout COLUMNS WINDOWS :=
  match s.findWindow window with
  | none => (.error .unknownWindow, s)
  | some (columnIndex, _) =>
    (.ok ((s.column columnIndex).maximized != maximized),
      (s.modifyColumn columnIndex ({ · with maximized })).ensureFocusedVisible)

def setWindowMaximizedToEdges (maximized : Bool) :
    Except LayoutError Bool × ScrollLayout COLUMNS WINDOWS :=
  match s.findWindow window with
  | none => (.error .unknownWindow, s)
  | some (columnIndex, _) =>
    (.ok ((s.column columnIndex).maximizedToEdges != maximized),
      (s.modifyColumn columnIndex ({ · with maximizedToEdges := maximized })).ensureFocusedVisible)

def toggleMaximizeFocusedWindowToEdgesWithDisplay : Bool × ScrollLayout COLUMNS WINDOWS :=
  if s.columnCount = 0 then (false, s)
  else if (s.column s.focusedColumn).maximizedToEdges then
    (true, (s.modifyColumn s.focusedColumn ({ · with maximizedToEdges := false })).ensureFocusedVisible)
  else
    let extracted := if 1 < (s.column s.focusedColumn).windowCount then
        s.extractFocusedWindowToSide false display else (true, s)
    if extracted.1 = false then (false, extracted.2)
    else
      (true, (extracted.2.modifyColumn extracted.2.focusedColumn
        ({ · with maximizedToEdges := true })).ensureFocusedVisible)

def changeFocusedColumnWidth (change : ColumnWidthChange) :
    Except LayoutError Bool × ScrollLayout COLUMNS WINDOWS :=
  if s.columnCount = 0 ∨ COLUMNS ≤ s.focusedColumn then (.error .noFocusedWindow, s)
  else
    let column := s.column s.focusedColumn
    let previous := if column.maximizedToEdges then s.outputWidth
      else if column.maximized then s.maximizedColumnWidth else column.width
    let adjusted := match change with
      | .set width => (width.resolve s.outputWidth s.config.gaps).i32
      | .adjustProportion thousandths =>
        previous.i32.saturatingAdd
          ((s.outputWidth.saturatingSub s.config.gaps).i32 * thousandths.toInt32 / 1000)
      | .adjustFixed pixels => previous.i32.saturatingAdd pixels
    let width := (clamp adjusted 1 65535).u16
    (.ok (column.maximized || column.maximizedToEdges || width != previous),
      (s.setColumn s.focusedColumn
        { column with width, maximized := false, maximizedToEdges := false }).ensureFocusedVisible)

def setFocusedColumnWidth (width : ColumnWidth) :
    Except LayoutError Unit × ScrollLayout COLUMNS WINDOWS :=
  let (reply, s) := s.changeFocusedColumnWidth (.set width)
  (reply.map fun _ => (), s)

/-! ## The view -/

def scrollBy (delta : Int32) : ScrollLayout COLUMNS WINDOWS :=
  { s with viewOffset := clamp (s.viewOffset.saturatingAdd delta) 0 s.maximumViewOffset }

def centerFocusedColumn : Bool × ScrollLayout COLUMNS WINDOWS :=
  if s.columnCount = 0 then (false, s)
  else
    let start := s.columnStart s.focusedColumn
    let stop := start + (s.effectiveColumnWidth s.focusedColumn).i32
    let centered := (start + stop) / 2 - s.outputWidth.i32 / 2
    (centered != s.viewOffset, { s with viewOffset := centered })

/-- What the loop over the columns inside the view finds. -/
structure VisibleScan where
  widthTaken : Int32 := 0
  leftmostStart : Option Int32 := none
  activeVisible : Bool := false
  nonActiveVisible : Bool := false

/-- The columns that lie inside the view, up to the first that ends behind it. -/
def scanVisible : List Nat → VisibleScan → VisibleScan
  | [], scan => scan
  | index :: rest, scan =>
    let start := s.columnStart index
    let width := (s.effectiveColumnWidth index).i32
    let gap := s.config.gaps.i32
    if start < s.viewOffset + gap then scanVisible rest scan
    else if start + width + gap > s.viewOffset + s.outputWidth.i32 then scan
    else
      scanVisible rest
        { widthTaken := scan.widthTaken + (width + gap)
          leftmostStart := scan.leftmostStart.orElse fun _ => some start
          activeVisible := scan.activeVisible || index == s.focusedColumn
          nonActiveVisible := scan.nonActiveVisible || index != s.focusedColumn }

def centerVisibleColumns : Except Panic (Bool × ScrollLayout COLUMNS WINDOWS) :=
  if s.columnCount = 0 ∨ s.config.centerFocusedColumn = .always
      ∨ (s.config.alwaysCenterSingleColumn = true ∧ s.columnCount = 1) then .ok (false, s)
  else
    let scan := s.scanVisible (List.range s.columnCount) {}
    if scan.activeVisible = false then .ok (false, s)
    else do
      let freeSpace := s.outputWidth.i32 - scan.widthTaken + s.config.gaps.i32
      let leftmost ← expect "a visible active column has a left edge" scan.leftmostStart
      let centered := leftmost - freeSpace / 2
      return (centered != s.viewOffset, { s with viewOffset := centered })

def expandFocusedColumnToAvailableWidth : Except Panic (Bool × ScrollLayout COLUMNS WINDOWS) :=
  if s.columnCount = 0 ∨ (s.column s.focusedColumn).maximized then .ok (false, s)
  else
    let gap := s.config.gaps.i32
    let scan := s.scanVisible (List.range s.columnCount) {}
    let available := s.outputWidth.i32 - gap - scan.widthTaken
    if scan.activeVisible = false ∨ available ≤ 0 then .ok (false, s)
    else if scan.nonActiveVisible = false then
      .ok (true, (s.modifyColumn s.focusedColumn ({ · with maximized := true })).ensureFocusedVisible)
    else do
      let s := s.modifyColumn s.focusedColumn fun column =>
        { column with width := (column.width.i32.saturatingAdd available).u16 }
      let leftmost ← expect "a visible active column has a left edge" scan.leftmostStart
      return (true, { s with viewOffset := leftmost - gap }.ensureFocusedVisible)

end ScrollLayout

end SlopOS.Shell
