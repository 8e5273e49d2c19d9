import SlopOS.Shell.Columns

/-!
# The structure every layout keeps

`WellFormed` is the structural invariant.  An operation either rearranges the
windows, opens one or closes one; `Rearranged`, `Opened` and `Closed` say so
together with the invariant afterwards.
-/

namespace SlopOS.Shell.ScrollLayout

open Machine CountedArray

variable {COLUMNS WINDOWS : Nat} {s s' s'' : ScrollLayout COLUMNS WINDOWS} {i j : Nat}
  {c : Column WINDOWS} {w : UInt32}

/-- The arrays: used columns in front, unused ones empty. -/
structure Shaped (s : ScrollLayout COLUMNS WINDOWS) : Prop where
  capacity : s.columnCount ≤ COLUMNS
  columns : ∀ i < s.columnCount, (s.column i).Sound
  unused : ∀ i, s.columnCount ≤ i → s.column i = .empty

structure WellFormed (s : ScrollLayout COLUMNS WINDOWS) : Prop extends Shaped s where
  focus : s.focusedColumn < s.columnCount ∨ s.columnCount = 0 ∧ s.focusedColumn = 0
  unique : s.windows.Nodup

structure Rearranged (s s' : ScrollLayout COLUMNS WINDOWS) : Prop where
  wellFormed : s'.WellFormed
  windows : s'.windows.Perm s.windows

structure Opened (w : UInt32) (s s' : ScrollLayout COLUMNS WINDOWS) : Prop where
  wellFormed : s'.WellFormed
  windows : s'.windows.Perm (w :: s.windows)

structure Closed (w : UInt32) (s s' : ScrollLayout COLUMNS WINDOWS) : Prop where
  wellFormed : s'.WellFormed
  windows : s.windows.Perm (w :: s'.windows)

/-! ## The search for a window -/

theorem mem_windows (shaped : s.Shaped) :
    w ∈ s.windows ↔ ∃ i < s.columnCount, ∃ row < (s.column i).windowCount,
      read (s.column i).windows row = w := by
  rw [windows, List.mem_flatMap]
  constructor
  · rintro ⟨column, member, tile⟩
    obtain ⟨i, inUse, rfl⟩ := (mem_held shaped.capacity).mp member
    exact ⟨i, inUse, (mem_held (shaped.columns i inUse).capacity).mp tile⟩
  · rintro ⟨i, inUse, tile⟩
    exact ⟨s.column i, read_mem_held inUse shaped.capacity,
      (mem_held (shaped.columns i inUse).capacity).mpr tile⟩

theorem findWindow_eq_some {row : Nat} (found : s.findWindow w = some (i, row)) :
    i < s.columnCount ∧ row < (s.column i).windowCount ∧ read (s.column i).windows row = w := by
  obtain ⟨index, inUse, hit⟩ := List.exists_of_findSome?_eq_some found
  obtain ⟨row', inColumn, same⟩ := Option.map_eq_some_iff.mp hit
  cases same
  have matched := List.find?_some inColumn
  exact ⟨List.mem_range.mp inUse, List.mem_range.mp (List.mem_of_find?_eq_some inColumn),
    beq_iff_eq.mp matched⟩

section

variable (shaped : s.Shaped)
include shaped

theorem findWindow_eq_none : s.findWindow w = none ↔ w ∉ s.windows := by
  rw [mem_windows shaped, findWindow, List.findSome?_eq_none_iff]
  constructor
  · rintro missing ⟨i, inUse, row, inColumn, same⟩
    have absent := Option.map_eq_none_iff.mp (missing i (List.mem_range.mpr inUse))
    exact List.find?_eq_none.mp absent row (List.mem_range.mpr inColumn) (beq_iff_eq.mpr same)
  · intro absent i inUse
    refine Option.map_eq_none_iff.mpr (List.find?_eq_none.mpr fun row inColumn same => ?_)
    exact absent ⟨i, List.mem_range.mp inUse, row, List.mem_range.mp inColumn, beq_iff_eq.mp same⟩

theorem rejectDuplicate_eq_ok : s.rejectDuplicate w = .ok () ↔ w ∉ s.windows := by
  rw [← findWindow_eq_none shaped, rejectDuplicate]
  cases s.findWindow w with
  | none => simp
  | some place => simp

/-! ## Edits that keep the shape -/

theorem Shaped.setColumn (inUse : i < s.columnCount) (sound : c.Sound) :
    (s.setColumn i c).Shaped := by
  have inside : i < COLUMNS := lt_of_lt_of_le inUse shaped.capacity
  refine ⟨shaped.capacity, fun j used => ?_, fun j unused => ?_⟩
  · rw [column_setColumn inside]
    split
    · exact sound
    · exact shaped.columns j used
  · rw [columnCount_setColumn] at unused
    rw [column_setColumn_other (by omega)]
    exact shaped.unused j unused

theorem Shaped.insertColumn (position : i ≤ s.columnCount) (room : s.columnCount < COLUMNS)
    (sound : c.Sound) : (s.insertColumn i c).Shaped := by
  refine ⟨room, fun j used => ?_, fun j unused => ?_⟩
  · have used : j < s.columnCount + 1 := used
    rw [column_insertColumn position room]
    split
    · exact shaped.columns j (by omega)
    split
    · exact sound
    · rw [if_pos (by omega)]
      exact shaped.columns (j - 1) (by omega)
  · have unused : s.columnCount + 1 ≤ j := unused
    rw [column_insertColumn position room, if_neg (by omega), if_neg (by omega), if_neg (by omega)]
    exact shaped.unused j (by omega)

theorem Shaped.removeColumn (inUse : i < s.columnCount) : (s.removeColumn i).Shaped := by
  refine ⟨le_trans (Nat.sub_le _ _) shaped.capacity, fun j used => ?_, fun j unused => ?_⟩
  · have used : j < s.columnCount - 1 := used
    rw [column_removeColumn inUse shaped.capacity]
    split
    · exact shaped.columns j (by omega)
    · rw [if_pos (by omega)]
      exact shaped.columns (j + 1) (by omega)
  · have unused : s.columnCount - 1 ≤ j := unused
    rw [column_removeColumn inUse shaped.capacity, if_neg (by omega), if_neg (by omega)]
    split
    · rfl
    · exact shaped.unused j (by omega)

/-- Focus and view are not part of the shape. -/
theorem Shaped.refocus (focusedColumn : Nat) (viewOffset : Int32) :
    Shaped { s with focusedColumn, viewOffset } :=
  ⟨shaped.capacity, shaped.columns, shaped.unused⟩

end

/-! ## Rearranging -/

theorem Rearranged.trans (first : Rearranged s s') (second : Rearranged s' s'') :
    Rearranged s s'' :=
  ⟨second.wellFormed, second.windows.trans first.windows⟩

namespace WellFormed

variable (wf : s.WellFormed)
include wf

theorem rearranged : Rearranged s s := ⟨wf, List.Perm.refl _⟩

theorem of_perm (shaped : s'.Shaped)
    (focus : s'.focusedColumn < s'.columnCount ∨ s'.columnCount = 0 ∧ s'.focusedColumn = 0)
    (windows : s'.windows.Perm s.windows) : Rearranged s s' :=
  ⟨⟨shaped, focus, windows.nodup_iff.mpr wf.unique⟩, windows⟩

/-- Only the view moves. -/
theorem view (viewOffset : Int32) : Rearranged s { s with viewOffset } :=
  ⟨⟨⟨wf.capacity, wf.columns, wf.unused⟩, wf.focus, wf.unique⟩, List.Perm.refl _⟩

theorem visible : s.ensureFocusedVisible.WellFormed :=
  (wf.view _).wellFormed

theorem focused_lt (used : s.columnCount ≠ 0) : s.focusedColumn < s.columnCount := by
  rcases wf.focus with inside | ⟨none, -⟩
  · exact inside
  · exact absurd none used

/-- A column is exchanged for one with the same windows. -/
theorem setColumn (inUse : i < s.columnCount) (sound : c.Sound)
    (tiles : c.tiles.Perm (s.column i).tiles) : Rearranged s (s.setColumn i c) := by
  refine wf.of_perm (wf.toShaped.setColumn inUse sound) wf.focus ?_
  exact (windows_setColumn inUse wf.capacity).trans
    ((tiles.append_right _).trans (windows_perm inUse wf.capacity).symm)

/-- The focused column with other flags, width or focus. -/
theorem retouch (inUse : i < s.columnCount) (windows : c.windows = (s.column i).windows)
    (heights : c.windowHeights = (s.column i).windowHeights)
    (count : c.windowCount = (s.column i).windowCount) (focus : c.focusedWindow < c.windowCount) :
    Rearranged s (s.setColumn i c) := by
  refine wf.setColumn inUse ((wf.columns i inUse).of_same heights count focus) ?_
  rw [Column.tiles, windows, count, Column.tiles]

end WellFormed

theorem Rearranged.visible (arranged : Rearranged s s') : Rearranged s s'.ensureFocusedVisible :=
  arranged.trans (arranged.wellFormed.view _)

theorem Rearranged.focusAt (arranged : Rearranged s s') (inUse : i < s'.columnCount) :
    Rearranged s { s' with focusedColumn := i } :=
  ⟨⟨arranged.wellFormed.toShaped.refocus i _, .inl inUse, arranged.wellFormed.unique⟩,
    arranged.windows⟩

/-! ## Opening -/

theorem Opened.visible (opened : Opened w s s') : Opened w s s'.ensureFocusedVisible :=
  ⟨opened.wellFormed.visible, opened.windows⟩

theorem WellFormed.insertAt_le (wf : s.WellFormed) : s.insertAt ≤ s.columnCount := by
  unfold insertAt
  split
  · exact Nat.zero_le _
  case isFalse used => exact wf.focused_lt used

theorem WellFormed.insertColumn (wf : s.WellFormed) (position : i ≤ s.columnCount)
    (space : s.columnCount < COLUMNS) (sound : c.Sound) (unique : (c.tiles ++ s.windows).Nodup) :
    WellFormed { s.insertColumn i c with focusedColumn := i } :=
  ⟨(wf.toShaped.insertColumn position space sound).refocus i _, .inl (Nat.lt_succ_of_le position),
    (windows_insertColumn position space).nodup_iff.mpr unique⟩

/-- A new column for one window. -/
theorem WellFormed.insert (wf : s.WellFormed) (position : i ≤ s.columnCount)
    (room : s.columnCount ≠ COLUMNS) (sound : c.Sound) (tiles : c.tiles = [w])
    (fresh : w ∉ s.windows) : Opened w s { s.insertColumn i c with focusedColumn := i } := by
  have space : s.columnCount < COLUMNS := lt_of_le_of_ne wf.capacity room
  have unique : (c.tiles ++ s.windows).Nodup := tiles ▸ List.nodup_cons.mpr ⟨fresh, wf.unique⟩
  have windows := windows_insertColumn (c := c) position space
  rw [tiles] at windows
  exact ⟨wf.insertColumn position space sound unique, windows⟩

/-- A window consumed into the column at `i`. -/
theorem WellFormed.give (wf : s.WellFormed) (inUse : i < s.columnCount) (stored : s.column i = c)
    (room : c.windowCount ≠ WINDOWS) (fresh : w ∉ s.windows) :
    Opened w s (s.setColumn i (c.consume w)) := by
  subst stored
  have space := lt_of_le_of_ne (wf.columns i inUse).capacity room
  have windows : (s.setColumn i ((s.column i).consume w)).windows.Perm (w :: s.windows) := by
    refine (windows_setColumn inUse wf.capacity).trans ?_
    rw [Column.tiles_consume space, List.append_assoc]
    exact List.perm_middle.trans ((windows_perm inUse wf.capacity).symm.cons w)
  exact ⟨⟨wf.toShaped.setColumn inUse (.consume space), wf.focus,
    windows.nodup_iff.mpr (List.nodup_cons.mpr ⟨fresh, wf.unique⟩)⟩, windows⟩

/-! ## Closing -/

theorem Closed.fresh (closed : Closed w s s') (wf : s.WellFormed) : w ∉ s'.windows :=
  (List.nodup_cons.mp (closed.windows.nodup_iff.mp wf.unique)).1

theorem Closed.visible (closed : Closed w s s') : Closed w s s'.ensureFocusedVisible :=
  ⟨closed.wellFormed.visible, closed.windows⟩

/-- A window taken out of its column and put elsewhere. -/
theorem Closed.opened (closed : Closed w s s') (opened : Opened w s' s'') : Rearranged s s'' :=
  ⟨opened.wellFormed, opened.windows.trans closed.windows.symm⟩

namespace WellFormed

variable (wf : s.WellFormed) (inUse : i < s.columnCount)
include wf inUse

/-- A column that loses a window and keeps others. -/
theorem take (sound : c.Sound) (tiles : (s.column i).tiles.Perm (w :: c.tiles)) :
    Closed w s (s.setColumn i c) := by
  have windows : s.windows.Perm (w :: (s.setColumn i c).windows) :=
    (windows_perm inUse wf.capacity).trans ((tiles.append_right _).trans
      ((windows_setColumn inUse wf.capacity).symm.cons w))
  exact ⟨⟨wf.toShaped.setColumn inUse sound, wf.focus,
    (List.nodup_cons.mp (windows.nodup_iff.mp wf.unique)).2⟩, windows⟩

theorem removeColumn (focus : j < s.columnCount - 1 ∨ s.columnCount - 1 = 0 ∧ j = 0) :
    WellFormed { s.removeColumn i with focusedColumn := j } ∧
      s.windows.Perm ((s.column i).tiles ++ (s.removeColumn i).windows) := by
  have windows : s.windows.Perm ((s.column i).tiles ++ (s.removeColumn i).windows) := by
    rw [windows_removeColumn inUse wf.capacity]
    exact windows_perm inUse wf.capacity
  exact ⟨⟨(wf.toShaped.removeColumn inUse).refocus j _, focus,
    (List.nodup_append.mp (windows.nodup_iff.mp wf.unique)).2.1⟩, windows⟩

/-- A column that goes with its only window. -/
theorem drop (tiles : (s.column i).tiles = [w])
    (focus : j < s.columnCount - 1 ∨ s.columnCount - 1 = 0 ∧ j = 0) :
    Closed w s { s.removeColumn i with focusedColumn := j } := by
  obtain ⟨wellFormed, windows⟩ := wf.removeColumn inUse focus
  rw [tiles] at windows
  exact ⟨wellFormed, windows⟩

/-- A window that goes from the column at `i` to the end of the column at `j`. -/
theorem transfer (inUse' : j < s.columnCount) (different : i ≠ j) (sound : c.Sound)
    (tiles : (s.column i).tiles.Perm (w :: c.tiles)) (room : (s.column j).windowCount ≠ WINDOWS) :
    Rearranged s ((s.setColumn i c).modifyColumn j (·.consume w)) := by
  have closed := wf.take inUse sound tiles
  exact closed.opened (closed.wellFormed.give inUse' rfl
    (by rwa [column_setColumn_other different]) (closed.fresh wf))

/-- A window that leaves the column at `i` for a column of its own. -/
theorem split (position : j ≤ s.columnCount) (room : s.columnCount ≠ COLUMNS)
    (sound : c.Sound) (tiles : (s.column i).tiles.Perm (w :: c.tiles)) {c' : Column WINDOWS}
    (sound' : c'.Sound) (tiles' : c'.tiles = [w]) :
    Rearranged s { (s.setColumn i c).insertColumn j c' with focusedColumn := j } := by
  have closed := wf.take inUse sound tiles
  exact closed.opened (closed.wellFormed.insert position room sound' tiles' (closed.fresh wf))

end WellFormed

/-! ## Reordering the row -/

theorem WellFormed.reorder (wf : s.WellFormed) {columns : Vector (Column WINDOWS) COLUMNS}
    (perm : (held columns s.columnCount).Perm s.used)
    (unused : ∀ i, s.columnCount ≤ i → read columns i = s.column i) (inUse : j < s.columnCount) :
    Rearranged s { s with columns, focusedColumn := j } := by
  refine wf.of_perm ⟨wf.capacity, fun i used => ?_, fun i free => ?_⟩ (.inl inUse)
    (perm.flatMap_right Column.tiles)
  · have member := perm.mem_iff.mp (read_mem_held used wf.capacity)
    obtain ⟨k, used', same⟩ := (mem_held wf.capacity).mp member
    change (read columns i).Sound
    rw [← same]
    exact wf.columns k used'
  · exact (unused i free).trans (wf.unused i free)

end SlopOS.Shell.ScrollLayout
