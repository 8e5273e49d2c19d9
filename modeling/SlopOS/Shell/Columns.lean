import SlopOS.Shell.ScrollLayout

/-!
# The windows of a layout

`Column.tiles` lists the windows of a column and `ScrollLayout.windows` those of a
layout, in the order of the arrays.  Every operation edits the row of columns by
`setColumn`, `insertColumn` and `removeColumn`; here each edit is described column by
column and by what it does to the list of windows.
-/

namespace SlopOS.Shell

open Machine CountedArray

variable {COLUMNS WINDOWS : Nat}

/-! ## Columns -/

namespace Column

def tiles (column : Column WINDOWS) : List UInt32 := held column.windows column.windowCount

/-- The heights stored for the windows of the column. -/
def explicitHeights (column : Column WINDOWS) : List UInt16 :=
  held column.windowHeights column.windowCount

/-- No window has an explicit height, or every window has a positive one and together
they are those of windows that share a 16-bit height, or of windows one pixel high. -/
def Uniform (column : Column WINDOWS) : Prop :=
  (∀ height ∈ column.explicitHeights, height = 0) ∨
    ((∀ height ∈ column.explicitHeights, 0 < height) ∧
      (column.explicitHeights.map UInt16.toNat).sum < 65535 + column.windowCount)

/-- A used column.  With more than 32767 windows the arithmetic of the equal heights
leaves 32 bits, so the heights are only claimed below that. -/
structure Sound (column : Column WINDOWS) : Prop where
  nonempty : 0 < column.windowCount
  capacity : column.windowCount ≤ WINDOWS
  focus : column.focusedWindow < column.windowCount
  heights : WINDOWS ≤ 32767 → column.Uniform

variable {column column' : Column WINDOWS} {row : Nat} {window : UInt32}

section

variable (inUse : row < column.windowCount) (capacity : column.windowCount ≤ WINDOWS)
include inUse capacity

theorem tiles_removeRow : (column.removeRow row).tiles = column.tiles.eraseIdx row :=
  held_shiftDown inUse capacity

theorem perm_removeRow :
    column.tiles.Perm (read column.windows row :: (column.removeRow row).tiles) := by
  rw [tiles_removeRow inUse capacity]
  exact perm_cons_eraseIdx inUse capacity

/-- A column that is empty once `row` is gone. -/
theorem tiles_only (emptied : column.windowCount - 1 = 0) :
    column.tiles = [read column.windows row] := by
  have rest : (column.removeRow row).tiles = [] := by
    rw [tiles, show (column.removeRow row).windowCount = 0 from emptied, held_zero]
  have perm := perm_removeRow inUse capacity
  rwa [rest, List.perm_singleton] at perm

end

theorem tiles_single (room : 0 < WINDOWS) (width : UInt16) (display : ColumnDisplay) :
    (single window width display : Column WINDOWS).tiles = [window] := by
  have appended := held_append (v := (empty : Column WINDOWS).windows) (x := window) room
  rwa [held_zero] at appended

theorem tiles_consume (room : column.windowCount < WINDOWS) :
    (column.consume window).tiles = column.tiles ++ [window] :=
  held_append room

/-- The last window split off. -/
theorem tiles_last (inUse : 0 < column.windowCount) (capacity : column.windowCount ≤ WINDOWS) :
    column.tiles = held column.windows (column.windowCount - 1) ++
      [read column.windows (column.windowCount - 1)] := by
  obtain ⟨count, counted⟩ : ∃ count, column.windowCount = count + 1 :=
    Nat.exists_eq_add_one.mpr inUse
  rw [tiles, counted]
  exact held_succ (by omega)

theorem uniform_of_zero (zero : ∀ row < column.windowCount, read column.windowHeights row = 0) :
    column.Uniform := by
  refine .inl fun height member => ?_
  rw [explicitHeights, List.mem_iff_getElem?] at member
  obtain ⟨row, found⟩ := member
  rw [getElem?_held] at found
  split at found
  case isTrue inUse => exact (Option.some.inj found).symm.trans (zero row inUse.1)
  case isFalse => cases found

theorem read_zeros {n i : Nat} : read (Vector.replicate n (0 : UInt16)) i = 0 := by
  rw [read_replicate]
  split
  · rfl
  · rfl

theorem sound_reset (nonempty : 0 < column.windowCount) (capacity : column.windowCount ≤ WINDOWS)
    (focus : column.focusedWindow < column.windowCount) : column.resetWindowHeights.Sound :=
  ⟨nonempty, capacity, focus, fun _ => uniform_of_zero fun _ _ => read_zeros⟩

/-- A column that lost a window and has others left. -/
theorem Sound.shrink (sound : column.Sound) (count : column'.windowCount = column.windowCount - 1)
    (remaining : column.windowCount - 1 ≠ 0)
    (focus : column'.focusedWindow ≤ column.windowCount - 1 - 1) :
    column'.resetWindowHeights.Sound := by
  have capacity := sound.capacity
  exact sound_reset (by omega) (by omega) (by omega)

theorem sound_single (room : 0 < WINDOWS) (width : UInt16) (display : ColumnDisplay) :
    (single window width display : Column WINDOWS).Sound :=
  ⟨Nat.one_pos, room, Nat.one_pos, fun _ => uniform_of_zero fun _ _ => read_zeros⟩

theorem Sound.consume (room : column.windowCount < WINDOWS) : (column.consume window).Sound :=
  sound_reset (Nat.succ_pos _) room (Nat.lt_succ_self _)

/-- A column whose windows, heights and focus stay. -/
theorem Sound.of_same (sound : column.Sound)
    (heights : column'.windowHeights = column.windowHeights)
    (count : column'.windowCount = column.windowCount)
    (focus : column'.focusedWindow < column'.windowCount) : column'.Sound := by
  refine ⟨count ▸ sound.nonempty, count ▸ sound.capacity, focus, fun bound => ?_⟩
  have uniform := sound.heights bound
  rwa [Uniform, explicitHeights, ← heights, ← count] at uniform

end Column

/-! ## Edits of the row -/

namespace ScrollLayout

variable {s : ScrollLayout COLUMNS WINDOWS} {i j : Nat} {c c' : Column WINDOWS}

section

variable (s : ScrollLayout COLUMNS WINDOWS)

def used : List (Column WINDOWS) := held s.columns s.columnCount

def windows : List UInt32 := s.used.flatMap Column.tiles

/-- The windows outside the column at `i`. -/
def others (i : Nat) : List UInt32 :=
  (s.used.eraseIdx i).flatMap Column.tiles

end

@[simp] theorem columnCount_setColumn : (s.setColumn i c).columnCount = s.columnCount := rfl

theorem column_setColumn_same (inside : i < COLUMNS) : (s.setColumn i c).column i = c :=
  read_write_same inside

theorem column_setColumn_other (different : i ≠ j) : (s.setColumn i c).column j = s.column j :=
  read_write_other different

theorem focusedWindow_eq_some (focus : s.focusedColumn = i) (inside : i < COLUMNS)
    (stored : s.column i = c) (nonempty : 0 < c.windowCount) :
    s.focusedWindow = some (read c.windows c.focusedWindow) := by
  subst focus stored
  unfold column CountedArray.read at nonempty ⊢
  rw [focusedWindow, Vector.getElem?_eq_getElem inside] at *
  exact if_neg nonempty.ne'

theorem used_setColumn : (s.setColumn i c).used = s.used.set i c := held_write

@[simp] theorem others_setColumn : (s.setColumn i c).others i = s.others i := by
  rw [others, used_setColumn, List.eraseIdx_set_eq, others]

section

variable (inUse : i < s.columnCount) (capacity : s.columnCount ≤ COLUMNS)
include inUse capacity

theorem column_removeColumn : (s.removeColumn i).column j = if j < i then s.column j
      else if j + 1 < s.columnCount then s.column (j + 1)
      else if j + 1 = s.columnCount then .empty else s.column j := by
  unfold removeColumn column
  by_cases last : j + 1 = s.columnCount
  · obtain rfl : j = s.columnCount - 1 := by omega
    rw [read_write_same (by omega), if_neg (by omega), if_neg (by omega), if_pos (by omega)]
  rw [read_write_other, read_shiftDown (by omega)]
  rcases lt_or_ge j i with below | above
  · rw [if_neg (by omega), if_pos below]
  · rw [if_neg (by omega : ¬ j < i), if_neg last]
    exact if_congr (by omega) rfl rfl

theorem used_removeColumn : (s.removeColumn i).used = s.used.eraseIdx i := by
  rw [used, used, ← held_shiftDown inUse capacity]
  exact held_write_beyond (le_refl _)

/-- The windows, with those of the column at `i` in front. -/
theorem windows_perm : s.windows.Perm ((s.column i).tiles ++ s.others i) := by
  have front := (perm_cons_eraseIdx (v := s.columns) inUse capacity).flatMap_right Column.tiles
  rwa [List.flatMap_cons] at front

theorem windows_setColumn : (s.setColumn i c).windows.Perm (c.tiles ++ s.others i) := by
  have split := windows_perm (s := s.setColumn i c) inUse capacity
  rwa [column_setColumn_same (by omega), others_setColumn] at split

theorem windows_removeColumn : (s.removeColumn i).windows = s.others i := by
  rw [windows, used_removeColumn inUse capacity, others]

theorem removeColumn_setColumn : (s.setColumn i c).removeColumn i = s.removeColumn i := by
  have columns : ((s.setColumn i c).removeColumn i).columns = (s.removeColumn i).columns := by
    apply ext_read
    intro j inside
    have left := column_removeColumn (s := s.setColumn i c) (j := j) inUse capacity
    have right := column_removeColumn (j := j) inUse capacity
    refine left.trans (Eq.trans ?_ right.symm)
    rw [columnCount_setColumn]
    rcases lt_trichotomy j i with below | rfl | above
    · rw [if_pos below, if_pos below, column_setColumn_other (by omega)]
    · rw [column_setColumn_other (by omega : j ≠ j + 1), if_neg (lt_irrefl j), if_neg (lt_irrefl j)]
      rcases (by omega : j + 1 < s.columnCount ∨ j + 1 = s.columnCount) with later | last
      · rw [if_pos later, if_pos later]
      · rw [if_pos last, if_pos last]
    · rw [column_setColumn_other (by omega : i ≠ j + 1), column_setColumn_other (by omega : i ≠ j)]
  exact congrArg (fun columns => { s.removeColumn i with columns }) columns

end

theorem length_used (capacity : s.columnCount ≤ COLUMNS) : s.used.length = s.columnCount :=
  length_held capacity

section

variable (position : i ≤ s.columnCount) (room : s.columnCount < COLUMNS)
include position room

theorem column_insertColumn :
    (s.insertColumn i c).column j = if j < i then s.column j else if j = i then c
      else if j ≤ s.columnCount then s.column (j - 1) else s.column j := by
  unfold insertColumn column
  rcases lt_trichotomy j i with below | rfl | above
  · have kept : ¬ (i < j ∧ j ≤ s.columnCount) := by omega
    rw [if_pos below, read_write_other, read_shiftUp room, if_neg kept]
  · rw [if_neg (lt_irrefl j), if_pos rfl, read_write_same (by omega)]
  · rw [if_neg (by omega), if_neg (by omega), read_write_other, read_shiftUp room]
    exact if_congr (by omega) rfl rfl

theorem used_insertColumn : (s.insertColumn i c).used = s.used.insertIdx i c :=
  held_shiftUp position room

theorem windows_insertColumn : (s.insertColumn i c).windows.Perm (c.tiles ++ s.windows) := by
  have bound : i ≤ s.used.length := by rwa [length_used (by omega)]
  have front := (List.perm_insertIdx c s.used bound).flatMap_right Column.tiles
  rw [← used_insertColumn position room] at front
  exact front

end

theorem column_setColumn (inside : i < COLUMNS) :
    (s.setColumn i c).column j = if i = j then c else s.column j :=
  read_write inside

theorem setColumn_comm (different : i ≠ j) (left : i < COLUMNS) (right : j < COLUMNS) :
    (s.setColumn i c).setColumn j c' = (s.setColumn j c').setColumn i c := by
  have columns : ((s.setColumn i c).setColumn j c').columns =
      ((s.setColumn j c').setColumn i c).columns := by
    apply ext_read
    intro k inside
    change read (write (write s.columns i c) j c') k = read (write (write s.columns j c') i c) k
    rw [read_write right, read_write left, read_write left, read_write right]
    by_cases first : i = k
    · rw [if_pos first, if_pos first, if_neg (by omega)]
    · rw [if_neg first, if_neg first]
  exact congrArg (fun columns => { s with columns }) columns

/-- A column before the removed one may be changed before or after. -/
theorem removeColumn_setColumn_before (before : j < i) (inUse : i < s.columnCount)
    (capacity : s.columnCount ≤ COLUMNS) :
    (s.setColumn j c).removeColumn i = (s.removeColumn i).setColumn j c := by
  have columns : ((s.setColumn j c).removeColumn i).columns =
      ((s.removeColumn i).setColumn j c).columns := by
    apply ext_read
    intro k inside
    have left := column_removeColumn (s := s.setColumn j c) (j := k) inUse capacity
    have right : ((s.removeColumn i).setColumn j c).column k = _ := column_setColumn (by omega)
    refine left.trans (Eq.trans ?_ right.symm)
    rw [columnCount_setColumn, column_removeColumn inUse capacity]
    rcases eq_or_ne j k with rfl | other
    · rw [if_pos rfl, if_pos before, column_setColumn_same (by omega)]
    rw [if_neg other, column_setColumn_other other]
    rcases eq_or_ne j (k + 1) with rfl | next
    · rw [if_pos (by omega), if_pos (by omega)]
    · rw [column_setColumn_other next]
  exact congrArg (fun columns => { s.removeColumn i with columns }) columns

/-- What was stored in the removed column is lost; what was stored before it stays. -/
theorem removeColumn_setColumn_pair (before : j < i) (inUse : i < s.columnCount)
    (capacity : s.columnCount ≤ COLUMNS) :
    ((s.setColumn i c).setColumn j c').removeColumn i = (s.removeColumn i).setColumn j c' := by
  rw [setColumn_comm (by omega) (by omega) (by omega),
    removeColumn_setColumn (by exact inUse) (by exact capacity),
    removeColumn_setColumn_before before inUse capacity]

end ScrollLayout

end SlopOS.Shell
