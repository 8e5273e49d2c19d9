import SlopOS.Shell.ScrollInvariant

/-!
# Operations that move windows and columns

One lemma per operation says everything it can do: it is refused and the layout
stays as it is, or it succeeds and rearranges, opens or closes.
-/

namespace SlopOS.Shell.ScrollLayout

open Machine CountedArray

variable {COLUMNS WINDOWS : Nat} {s d : ScrollLayout COLUMNS WINDOWS} {w : UInt32}

/-- An operation that is refused without effect, or succeeds and rearranges. -/
def Attempted (s : ScrollLayout COLUMNS WINDOWS) (outcome : Bool × ScrollLayout COLUMNS WINDOWS) :
    Prop :=
  outcome = (false, s) ∨ ∃ s', outcome = (true, s') ∧ Rearranged s s'

/-- The layout is left alone where the condition holds. -/
theorem Attempted.unless {condition : Prop} [Decidable condition]
    {outcome : Bool × ScrollLayout COLUMNS WINDOWS} (otherwise : ¬ condition → Attempted s outcome) :
    Attempted s (if condition then (false, s) else outcome) := by
  split
  case isTrue => exact .inl rfl
  case isFalse possible => exact otherwise possible

/-! ## Opening and closing -/

section

variable (wf : s.WellFormed)
include wf

theorem WellFormed.focusWindow_cases :
    (w ∉ s.windows ∧ s.focusWindow w = (.error .unknownWindow, s)) ∨
      (w ∈ s.windows ∧ ∃ s', s.focusWindow w = (.ok (), s') ∧ Rearranged s s') := by
  unfold focusWindow
  split
  case h_1 missing => exact .inl ⟨(findWindow_eq_none wf.toShaped).mp missing, rfl⟩
  case h_2 column row found =>
  obtain ⟨inUse, inColumn, same⟩ := findWindow_eq_some found
  refine .inr ⟨(mem_windows wf.toShaped).mpr ⟨column, inUse, row, inColumn, same⟩, _, rfl, ?_⟩
  have retouched := wf.retouch (c := { s.column column with focusedWindow := row }) inUse rfl rfl
    rfl inColumn
  exact (retouched.focusAt inUse).visible

theorem WellFormed.consumeWindow_cases : (∃ error, s.consumeWindow w = (.error error, s)) ∨
      ∃ s', s.consumeWindow w = (.ok (), s') ∧ Opened w s s' := by
  unfold consumeWindow
  split
  case h_1 error _ => exact .inl ⟨error, rfl⟩
  case h_2 accepted =>
  have fresh := (rejectDuplicate_eq_ok wf.toShaped).mp accepted
  split
  case isTrue => exact .inl ⟨_, rfl⟩
  case isFalse focused =>
  split
  case isTrue => exact .inl ⟨_, rfl⟩
  case isFalse room =>
    exact .inr ⟨_, rfl, wf.give (wf.focused_lt fun none => focused (.inl none)) rfl room fresh⟩

theorem WellFormed.closeWindow_cases :
    (w ∉ s.windows ∧ s.closeWindow w = (.error .unknownWindow, s)) ∨
      (w ∈ s.windows ∧ ∃ s', s.closeWindow w = (.ok (), s') ∧ Closed w s s') := by
  unfold closeWindow
  split
  case h_1 missing => exact .inl ⟨(findWindow_eq_none wf.toShaped).mp missing, rfl⟩
  case h_2 i row found =>
  obtain ⟨inUse, inColumn, same⟩ := findWindow_eq_some found
  have sound := wf.columns i inUse
  have tiles := Column.perm_removeRow inColumn sound.capacity
  rw [same] at tiles
  refine .inr ⟨(mem_windows wf.toShaped).mpr ⟨i, inUse, row, inColumn, same⟩, _, rfl, ?_⟩
  apply Closed.visible
  split
  case isTrue emptied =>
    have only := Column.tiles_only inColumn sound.capacity emptied
    rw [same] at only
    rw [removeColumn_setColumn inUse wf.capacity]
    refine wf.drop inUse only ?_
    change min s.focusedColumn (s.columnCount - 1 - 1) < s.columnCount - 1 ∨
      s.columnCount - 1 = 0 ∧ min s.focusedColumn (s.columnCount - 1 - 1) = 0
    omega
  case isFalse remaining =>
    exact wf.take inUse (sound.shrink rfl remaining (Nat.min_le_right _ _)) tiles

/-- Closing `w` shifts the focused window: `w` is above it in its column, or alone in a
column further left.  The focus is a pair of indices that `close_window` does not adapt. -/
def Shifts (s : ScrollLayout COLUMNS WINDOWS) (w : UInt32) : Prop :=
  ∃ i row, s.findWindow w = some (i, row) ∧
    (i = s.focusedColumn ∧ row < (s.column i).focusedWindow ∨
      i < s.focusedColumn ∧ (s.column i).windowCount = 1)

namespace WellFormed

theorem closeWindow_focus (present : w ∈ s.windows) (other : s.focusedWindow ≠ some w)
    (stays : ¬ s.Shifts w) : (s.closeWindow w).2.focusedWindow = s.focusedWindow := by
  unfold closeWindow
  split
  case h_1 missing => exact absurd present ((findWindow_eq_none wf.toShaped).mp missing)
  case h_2 i row found =>
  obtain ⟨inUse, inColumn, same⟩ := findWindow_eq_some found
  have focused := wf.focused_lt (by omega)
  have capacity := wf.capacity
  have sound := wf.columns _ focused
  have inside : s.focusedColumn < COLUMNS := by omega
  rw [focusedWindow_eq_some rfl inside rfl sound.nonempty] at other ⊢
  have distinct : ¬ (i = s.focusedColumn ∧ row = (s.column i).focusedWindow) := by
    rintro ⟨rfl, rfl⟩
    exact other (congrArg some same)
  dsimp only
  split
  case isTrue emptied =>
    have emptied : (s.column i).windowCount - 1 = 0 := emptied
    have later : s.focusedColumn < i := by
      by_contra earlier
      rcases eq_or_ne i s.focusedColumn with rfl | elsewhere
      · have focus := sound.focus
        omega
      · exact stays ⟨i, row, found, .inr ⟨by omega, by omega⟩⟩
    rw [removeColumn_setColumn inUse capacity]
    have index : min s.focusedColumn (s.columnCount - 1 - 1) = s.focusedColumn := by omega
    exact focusedWindow_eq_some index inside
      ((column_removeColumn inUse capacity).trans (if_pos later)) sound.nonempty
  case isFalse remaining =>
    have remaining : (s.column i).windowCount - 1 ≠ 0 := remaining
    rcases eq_or_ne i s.focusedColumn with rfl | elsewhere
    · have above : (s.column s.focusedColumn).focusedWindow < row := by
        by_contra below
        exact stays ⟨_, row, found, .inl ⟨rfl, by omega⟩⟩
      have room := sound.capacity
      refine Eq.trans (focusedWindow_eq_some rfl inside (column_setColumn_same inside)
        (Nat.pos_of_ne_zero remaining)) (congrArg some ?_)
      have row : min (s.column s.focusedColumn).focusedWindow
        ((s.column s.focusedColumn).windowCount - 1 - 1) = _ := Nat.min_eq_left (by omega)
      exact (congrArg _ row).trans ((read_shiftDown (by omega)).trans (if_neg (by omega)))
    · exact focusedWindow_eq_some rfl inside (column_setColumn_other elsewhere) sound.nonempty

/-! ## Between columns -/

/-- The column of an expelled window. -/
theorem expelled (used : s.columnCount ≠ 0) (display : Option ColumnDisplay) :
    (s.expelledColumn w display).Sound ∧ (s.expelledColumn w display).tiles = [w] := by
  have sound := wf.columns _ (wf.focused_lt used)
  have room : 0 < WINDOWS := lt_of_lt_of_le sound.nonempty sound.capacity
  exact ⟨Column.sound_single room _ _, Column.tiles_single room _ _⟩

theorem extractFocusedWindowToSide_cases (left : Bool) (display : Option ColumnDisplay) :
    Attempted s (s.extractFocusedWindowToSide left display) := by
  refine .unless fun several => ?_
  have inUse := wf.focused_lt fun none => several (.inl none)
  have sound := wf.columns _ inUse
  have tiles := Column.perm_removeRow sound.focus sound.capacity
  obtain ⟨sound', tiles'⟩ := wf.expelled (by omega) display
  refine .inr ⟨_, rfl, Rearranged.visible ?_⟩
  refine wf.split inUse ?_ (by omega)
    (sound.shrink rfl (by omega) (Nat.min_le_right _ _)) tiles sound' tiles'
  split
  · omega
  · omega

theorem consumeFocusedSingletonIntoAdjacent_cases (left : Bool)
    (single : (s.column s.focusedColumn).windowCount ≤ 1)
    (neighbour : if left then s.focusedColumn ≠ 0 else s.focusedColumn + 1 < s.columnCount)
    (used : s.columnCount ≠ 0) : Attempted s (s.consumeFocusedSingletonIntoAdjacent left) := by
  have inUse := wf.focused_lt used
  have capacity := wf.capacity
  have sound := wf.columns _ inUse
  have only := Column.tiles_only sound.nonempty sound.capacity (by omega)
  unfold consumeFocusedSingletonIntoAdjacent
  cases left with
  | true =>
    simp only [if_true] at neighbour ⊢
    refine .unless fun room => ?_
    refine .inr ⟨_, rfl, Rearranged.visible ?_⟩
    have closed := wf.drop (j := s.focusedColumn - 1) inUse only (by omega)
    have stored : (s.removeColumn s.focusedColumn).column (s.focusedColumn - 1) =
        s.column (s.focusedColumn - 1) := by
      rw [column_removeColumn inUse capacity, if_pos (by omega)]
    rw [modifyColumn, stored]
    exact closed.opened (closed.wellFormed.give (by change _ < s.columnCount - 1; omega) stored
      room (closed.fresh wf))
  | false =>
    simp only [Bool.false_eq_true, if_false] at neighbour ⊢
    refine .unless fun room => ?_
    refine .inr ⟨_, rfl, Rearranged.visible ?_⟩
    have closed := wf.drop (j := s.focusedColumn) inUse only (by omega)
    have stored : (s.removeColumn s.focusedColumn).column s.focusedColumn =
        s.column (s.focusedColumn + 1) := by
      rw [column_removeColumn inUse capacity, if_neg (lt_irrefl _), if_pos neighbour]
    rw [modifyColumn, stored]
    exact closed.opened (closed.wellFormed.give (by change _ < s.columnCount - 1; omega) stored
      room (closed.fresh wf))

section

variable (display : Option ColumnDisplay)

theorem expelWindowFromColumnWithDisplay_cases :
    Attempted s (s.expelWindowFromColumnWithDisplay display) := by
  refine .unless fun several => ?_
  have inUse := wf.focused_lt fun none => several (.inl none)
  have sound := wf.columns _ inUse
  obtain ⟨sound', tiles'⟩ := wf.expelled (w := read (s.column s.focusedColumn).windows
    ((s.column s.focusedColumn).windowCount - 1)) (by omega) display
  refine .inr ⟨_, rfl, Rearranged.visible ?_⟩
  have tiles := Column.tiles_last sound.nonempty sound.capacity
  have shrunk : Column.Sound (Column.resetWindowHeights { s.column s.focusedColumn with
      windowCount := (s.column s.focusedColumn).windowCount - 1
      focusedWindow := min (s.column s.focusedColumn).focusedWindow
        ((s.column s.focusedColumn).windowCount - 1 - 1) }) :=
    sound.shrink rfl (by omega) (Nat.min_le_right _ _)
  have arranged := wf.split inUse (by omega : s.focusedColumn + 1 ≤ s.columnCount) (by omega) shrunk
    (by rw [tiles]; exact List.perm_append_singleton _ _) sound' tiles'
  exact arranged.focusAt (by change s.focusedColumn < s.columnCount + 1; omega)

theorem consumeOrExpelFocusedWindowLeftWithDisplay_cases :
    Attempted s (s.consumeOrExpelFocusedWindowLeftWithDisplay display) := by
  refine .unless fun used => ?_
  split
  case isTrue => exact wf.extractFocusedWindowToSide_cases true display
  case isFalse single =>
    refine .unless fun notFirst => ?_
    exact wf.consumeFocusedSingletonIntoAdjacent_cases true (by omega) notFirst used

theorem consumeOrExpelFocusedWindowRightWithDisplay_cases :
    Attempted s (s.consumeOrExpelFocusedWindowRightWithDisplay display) := by
  refine .unless fun used => ?_
  split
  case isTrue => exact wf.extractFocusedWindowToSide_cases false display
  case isFalse single =>
  refine .unless fun notLast => ?_
  exact wf.consumeFocusedSingletonIntoAdjacent_cases false (by omega)
    (by simpa using notLast) used

end

theorem consumeWindowIntoColumn_cases : Attempted s s.consumeWindowIntoColumn := by
  refine .unless fun several => ?_
  have inUse : s.focusedColumn + 1 < s.columnCount := by omega
  have capacity := wf.capacity
  refine .unless fun room => ?_
  refine .inr ⟨_, rfl, Rearranged.visible ?_⟩
  have sound := wf.columns _ inUse
  have tiles := Column.perm_removeRow sound.nonempty sound.capacity
  split
  case isTrue emptied =>
    have only := Column.tiles_only sound.nonempty sound.capacity emptied
    have closed := wf.drop (j := s.focusedColumn) inUse only (by omega)
    have stored : (s.removeColumn (s.focusedColumn + 1)).column s.focusedColumn =
        s.column s.focusedColumn := by
      rw [column_removeColumn inUse capacity, if_pos (Nat.lt_succ_self _)]
    rw [modifyColumn, column_setColumn_other (by omega),
      removeColumn_setColumn_pair (Nat.lt_succ_self _) inUse capacity]
    exact closed.opened (closed.wellFormed.give (by change _ < s.columnCount - 1; omega) stored
      room (closed.fresh wf))
  case isFalse remaining =>
    exact wf.transfer inUse (by omega) (by omega)
      (sound.shrink rfl remaining (Nat.min_le_right _ _)) tiles room

/-! ## Focus and order of the columns -/

theorem focusColumnLeft_cases : Attempted s s.focusColumnLeft := by
  refine .unless fun possible => ?_
  have inUse := wf.focused_lt fun none => possible (.inr none)
  exact .inr ⟨_, rfl, (wf.rearranged.focusAt (by omega)).visible⟩

theorem focusColumnRight_cases : Attempted s s.focusColumnRight := by
  refine .unless fun possible => ?_
  exact .inr ⟨_, rfl, (wf.rearranged.focusAt (by omega)).visible⟩

theorem focusColumnFirst_cases : Attempted s s.focusColumnFirst := by
  refine .unless fun possible => ?_
  exact .inr ⟨_, rfl, (wf.rearranged.focusAt (by omega)).visible⟩

theorem focusColumnLast_cases : Attempted s s.focusColumnLast := by
  refine .unless fun possible => ?_
  exact .inr ⟨_, rfl, (wf.rearranged.focusAt (by omega)).visible⟩

/-- The focused column exchanged with another used one. -/
theorem swapColumns {i : Nat} (inUse : i < s.columnCount) :
    Rearranged s { s with columns := swap s.columns s.focusedColumn i, focusedColumn := i } := by
  have capacity := wf.capacity
  have focused := wf.focused_lt (by omega)
  refine wf.reorder (held_swap_perm focused inUse capacity) (fun k unused => ?_) inUse
  change read (swap s.columns s.focusedColumn i) k = read s.columns k
  rw [read_swap (by omega) (by omega), if_neg (by omega), if_neg (by omega)]

theorem moveColumnLeft_cases : Attempted s s.moveColumnLeft := by
  refine .unless fun possible => ?_
  have inUse := wf.focused_lt fun none => possible (.inr none)
  exact .inr ⟨_, rfl, (wf.swapColumns (by omega)).visible⟩

theorem moveColumnRight_cases : Attempted s s.moveColumnRight := by
  refine .unless fun possible => ?_
  exact .inr ⟨_, rfl, (wf.swapColumns (by omega)).visible⟩

theorem moveColumnToFirst_cases : Attempted s s.moveColumnToFirst := by
  refine .unless fun possible => ?_
  have inUse := wf.focused_lt fun none => possible (.inl none)
  have capacity := wf.capacity
  refine .inr ⟨_, rfl, (wf.reorder ?_ (fun k unused => ?_) (by omega)).visible⟩
  · rw [column, held_to_front inUse capacity]
    exact (perm_cons_eraseIdx inUse capacity).symm
  · have kept : ¬ (0 < k ∧ k ≤ s.focusedColumn) := by omega
    rw [read_write_other, read_shiftUp (by omega), if_neg kept, column]

theorem moveColumnToLast_cases : Attempted s s.moveColumnToLast := by
  refine .unless fun possible => ?_
  have inUse := wf.focused_lt fun none => possible (.inl none)
  have capacity := wf.capacity
  refine .inr ⟨_, rfl, (wf.reorder ?_ (fun k unused => ?_) (by omega)).visible⟩
  · rw [column, held_to_back inUse capacity]
    exact (List.perm_append_singleton _ _).trans (perm_cons_eraseIdx inUse capacity).symm
  · rw [read_write_other, read_shiftDown (by omega), if_neg (by omega), column]

/-! ## Within the column -/

/-- The focused column, when it holds a window. -/
theorem focused_used (filled : (s.column s.focusedColumn).windowCount ≠ 0) :
    s.focusedColumn < s.columnCount := by
  refine wf.focused_lt fun none => filled ?_
  rw [wf.unused _ (by omega)]
  rfl

theorem focusWindowUp_cases : Attempted s s.focusWindowUp := by
  refine .unless fun possible => ?_
  have inUse := wf.focused_used fun none => possible (.inl none)
  have focus := (wf.columns _ inUse).focus
  refine .inr ⟨_, rfl, wf.retouch inUse rfl rfl rfl ?_⟩
  change (s.column s.focusedColumn).focusedWindow - 1 < (s.column s.focusedColumn).windowCount
  omega

theorem focusWindowDown_cases : Attempted s s.focusWindowDown := by
  refine .unless fun possible => ?_
  have inUse := wf.focused_used fun none => possible (.inl none)
  refine .inr ⟨_, rfl, wf.retouch inUse rfl rfl rfl ?_⟩
  change (s.column s.focusedColumn).focusedWindow + 1 < (s.column s.focusedColumn).windowCount
  omega

end WellFormed

end

/-- The heights move with the windows, so they stay uniform. -/
theorem sound_exchangeRow {column : Column WINDOWS} (sound : column.Sound) {row : Nat}
    (inColumn : row < column.windowCount) :
    (exchangeRow column row).Sound ∧ (exchangeRow column row).tiles.Perm column.tiles := by
  have heights : (exchangeRow column row).explicitHeights.Perm column.explicitHeights :=
    held_swap_perm sound.focus inColumn sound.capacity
  refine ⟨⟨sound.nonempty, sound.capacity, inColumn, fun bound => ?_⟩,
    held_swap_perm sound.focus inColumn sound.capacity⟩
  rcases sound.heights bound with zero | ⟨positive, total⟩
  · exact .inl fun height member => zero height (heights.mem_iff.mp member)
  · refine .inr ⟨fun height member => positive height (heights.mem_iff.mp member), ?_⟩
    exact (heights.map UInt16.toNat).sum_nat.trans_lt total

theorem WellFormed.moveWindowUp_cases (wf : s.WellFormed) : Attempted s s.moveWindowUp := by
  refine .unless fun possible => ?_
  have inUse := wf.focused_used fun none => possible (.inl none)
  have focus := (wf.columns _ inUse).focus
  obtain ⟨sound, tiles⟩ := sound_exchangeRow (wf.columns _ inUse)
    (by omega : (s.column s.focusedColumn).focusedWindow - 1 < _)
  exact .inr ⟨_, rfl, wf.setColumn inUse sound tiles⟩

theorem WellFormed.moveWindowDown_cases (wf : s.WellFormed) : Attempted s s.moveWindowDown := by
  refine .unless fun possible => ?_
  have inUse := wf.focused_used fun none => possible (.inl none)
  obtain ⟨sound, tiles⟩ := sound_exchangeRow (wf.columns _ inUse)
    (by omega : (s.column s.focusedColumn).focusedWindow + 1 < _)
  exact .inr ⟨_, rfl, wf.setColumn inUse sound tiles⟩

/-! ## Between layouts -/

/-- Windows that go from `s` to `d`. -/
structure Passed (s d s' d' : ScrollLayout COLUMNS WINDOWS) : Prop where
  source : s'.WellFormed
  destination : d'.WellFormed
  windows : ∃ moved, s.windows.Perm (moved ++ s'.windows) ∧ d'.windows.Perm (moved ++ d.windows)

theorem WellFormed.moveFocusedColumnTo_cases (wf : s.WellFormed) (wf' : d.WellFormed) :
    (∃ reply, s.moveFocusedColumnTo d = (reply, s, d) ∧ reply ≠ .ok true) ∨
      ∃ s' d', s.moveFocusedColumnTo d = (.ok true, s', d') ∧ Passed s d s' d' := by
  unfold moveFocusedColumnTo
  split
  case isTrue => exact .inl ⟨_, rfl, nofun⟩
  case isFalse used =>
  split
  case isTrue => exact .inl ⟨_, rfl, nofun⟩
  case isFalse room =>
  dsimp only
  split
  case isTrue => exact .inl ⟨_, rfl, nofun⟩
  case isFalse distinct =>
  have inUse := wf.focused_lt used
  have space := lt_of_le_of_ne wf'.capacity room
  have sound := wf.columns _ inUse
  have fresh : ∀ w ∈ (s.column s.focusedColumn).tiles, w ∉ d.windows := by
    intro w member present
    have found : (d.findWindow w).isSome = true := by
      cases missing : d.findWindow w with
      | none => exact absurd present ((findWindow_eq_none wf'.toShaped).mp missing)
      | some place => rfl
    exact distinct (List.any_eq_true.mpr ⟨w, member, found⟩)
  obtain ⟨left, taken⟩ := wf.removeColumn (j := min s.focusedColumn (s.columnCount - 1 - 1))
    inUse (by omega)
  have columnUnique := (List.nodup_append.mp (taken.nodup_iff.mp wf.unique)).1
  have unique : ((s.column s.focusedColumn).tiles ++ d.windows).Nodup := by
    refine List.nodup_append.mpr ⟨columnUnique, wf'.unique, ?_⟩
    rintro w member v present rfl
    exact fresh w member present
  have received := wf'.insertColumn wf'.insertAt_le space sound unique
  exact .inr ⟨_, _, rfl, left.visible, received.visible,
    ⟨_, taken, windows_insertColumn wf'.insertAt_le space⟩⟩

theorem sound_movedColumn (room : 0 < WINDOWS) (source : Column WINDOWS) (display : ColumnDisplay) :
    (movedColumn source w display).Sound ∧ (movedColumn source w display).tiles = [w] := by
  have single : (Column.single w source.width display : Column WINDOWS).Sound :=
    Column.sound_single room source.width display
  exact ⟨single.of_same rfl rfl Nat.one_pos, Column.tiles_single room source.width display⟩

theorem WellFormed.moveFocusedWindowToWithDisplay_cases (wf : s.WellFormed) (wf' : d.WellFormed)
    (display : Option ColumnDisplay) :
    (∃ reply, s.moveFocusedWindowToWithDisplay d display = .ok (reply, s, d) ∧ reply ≠ .ok true) ∨
      ∃ s' d', s.moveFocusedWindowToWithDisplay d display = .ok (.ok true, s', d') ∧
        Passed s d s' d' := by
  unfold moveFocusedWindowToWithDisplay
  split
  case isTrue => exact .inl ⟨_, rfl, nofun⟩
  case isFalse used =>
  split
  case isTrue => exact .inl ⟨_, rfl, nofun⟩
  case isFalse room =>
  dsimp only
  split
  case h_1 => exact .inl ⟨_, rfl, nofun⟩
  case h_2 accepted =>
  have inUse := wf.focused_lt used
  have sound := wf.columns _ inUse
  have space : 0 < WINDOWS := lt_of_lt_of_le sound.nonempty sound.capacity
  have present := (mem_windows wf.toShaped).mpr ⟨_, inUse, _, sound.focus, rfl⟩
  have fresh := (rejectDuplicate_eq_ok wf'.toShaped).mp accepted
  rcases wf.closeWindow_cases with ⟨missing, -⟩ | ⟨-, s', closing, closed⟩
  · exact absurd present missing
  obtain ⟨sound', tiles'⟩ := sound_movedColumn space (s.column s.focusedColumn)
    (display.getD d.config.defaultColumnDisplay)
  have opened := wf'.insert wf'.insertAt_le room sound' tiles' fresh
  rw [closing]
  exact .inr ⟨_, _, rfl, closed.wellFormed, opened.visible.wellFormed,
    ⟨[_], closed.windows, opened.visible.windows⟩⟩

end SlopOS.Shell.ScrollLayout
