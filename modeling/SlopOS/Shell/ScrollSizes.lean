import SlopOS.Shell.Heights
import SlopOS.Shell.ScrollMoves

/-!
# Operations that change sizes and the view

As in `ScrollMoves`, one lemma per operation says what it can do.  The operations that
change heights can meet a `clamp` with its bounds out of order only in columns of more
than 32767 windows.
-/

namespace SlopOS.Shell.ScrollLayout

open Machine CountedArray

variable {COLUMNS WINDOWS : Nat} {s : ScrollLayout COLUMNS WINDOWS} {w : UInt32}
  {s' : ScrollLayout COLUMNS WINDOWS} {i : Nat} {changed : Bool} {onError : Panic → Prop}

/-! ## Opening -/

section

variable (wf : s.WellFormed)
include wf

theorem WellFormed.openWindowWithProperties_cases (space : 0 < WINDOWS)
    (width height : Option ColumnWidth) (display : Option ColumnDisplay) :
    (∃ error, s.openWindowWithProperties w width height display = (.error error, s)) ∨
      ∃ s', s.openWindowWithProperties w width height display = (.ok (), s') ∧ Opened w s s' := by
  unfold openWindowWithProperties
  split
  case h_1 error _ => exact .inl ⟨error, rfl⟩
  case h_2 accepted =>
  have fresh := (rejectDuplicate_eq_ok wf.toShaped).mp accepted
  split
  case isTrue => exact .inl ⟨_, rfl⟩
  case isFalse room =>
    obtain ⟨sound, tiles⟩ := openedColumn_sound s space w width height display
    exact .inr ⟨_, rfl, (wf.insert wf.insertAt_le room sound tiles fresh).visible⟩

/-! ## The reserved strip -/

theorem WellFormed.reserve (reservedTop : UInt16) : Rearranged s { s with reservedTop } :=
  ⟨⟨⟨wf.capacity, wf.columns, wf.unused⟩, wf.focus, wf.unique⟩, List.Perm.refl _⟩

/-- The explicit heights of the column fitted under a strip of `top` pixels. -/
def FittedAt (s : ScrollLayout COLUMNS WINDOWS) (top : UInt16) (s' : ScrollLayout COLUMNS WINDOWS)
    (i : Nat) : Prop :=
  read (s.column i).windowHeights 0 ≠ 0 →
    Fitted (s.outputHeight.toNat - top.toNat) s.config.gaps (s.column i).windowCount
      (s.column i).windowHeights (s'.column i).windowHeights

/-- Only a column of more than 32767 windows panics. -/
theorem WellFormed.setReservedTop_ends (top : UInt16) :
    (s.setReservedTop top).Ends (fun r => Attempted s r ∧
      (WINDOWS ≤ 32767 → r.1 = true → ∀ i < s.columnCount, s.FittedAt top r.2 i))
      fun _ => 32767 < WINDOWS := by
  unfold setReservedTop
  dsimp only
  split
  case isTrue => exact ⟨.inl rfl, fun _ => nofun⟩
  case isFalse =>
  -- The columns so far are fitted, the others as they were.
  refine (Except.Ends.foldlM_range
    (p := fun k layout => Rearranged s layout ∧ layout.columnCount = s.columnCount ∧
      (∀ j ≥ k, layout.column j = s.column j) ∧
      (WINDOWS ≤ 32767 → ∀ j < k, s.FittedAt top layout j))
    ⟨wf.reserve (min top s.outputHeight), rfl, fun _ _ => rfl, fun _ _ => nofun⟩ ?_).bind
    fun _ fitted => ⟨.inr ⟨_, rfl, fitted.1⟩, fun small _ => fitted.2.2.2 small⟩
  rintro k below layout ⟨arranged, count, later, earlier⟩
  have inUse : k < layout.columnCount := by rw [count]; exact below
  have inside : k < COLUMNS := lt_of_lt_of_le below wf.capacity
  refine (fitColumn_ends (arranged.wellFormed.columns k inUse) _ _ _).bind ?_
  rintro column ⟨sound, tiles, fits⟩
  refine ⟨arranged.trans (arranged.wellFormed.setColumn inUse sound (tiles ▸ List.Perm.refl _)),
    count, fun j after => ?_, fun small j before => ?_⟩
  · rw [column_setColumn_other (by omega)]
    exact later j (by omega)
  rcases Nat.lt_succ_iff_lt_or_eq.mp before with earlierRow | rfl
  · unfold FittedAt
    rw [column_setColumn_other (by omega)]
    exact earlier small j earlierRow
  · unfold FittedAt
    rw [column_setColumn_same inside]
    have fits := fits small
    have room : ({ s with reservedTop := min top s.outputHeight } :
        ScrollLayout COLUMNS WINDOWS).availableHeight.toNat = s.outputHeight.toNat - top.toNat := by
      rw [availableHeight, UInt16.toNat_saturatingSub, UInt16.toNat_min]
      dsimp only
      omega
    rwa [later j (le_refl j), room] at fits

end

/-! ## Layouts that look the same -/

/-- What can be seen of a layout. -/
structure Looks (s s' : ScrollLayout COLUMNS WINDOWS) : Prop where
  focusedWindow : s'.focusedWindow = s.focusedWindow
  windowIsVisible : ∀ w, s'.windowIsVisible w = s.windowIsVisible w
  tileRect : ∀ w, s'.tileRect w = s.tileRect w
  viewOffset : s'.viewOffset = s.viewOffset

theorem Looks.refl (s : ScrollLayout COLUMNS WINDOWS) : Looks s s :=
  ⟨rfl, fun _ => rfl, fun _ => rfl, rfl⟩

theorem setColumn_column (inside : i < COLUMNS) : s.setColumn i (s.column i) = s := by
  have columns : write s.columns i (read s.columns i) = s.columns := by
    apply ext_read
    intro j _
    rw [read_write inside]
    split
    case isTrue same => rw [same]
    case isFalse => rfl
  exact congrArg (fun columns => { s with columns }) columns

/-- A column that differs in stored heights only, where they resolve to the same. -/
theorem WellFormed.looks_setColumn (wf : s.WellFormed) (inUse : i < s.columnCount)
    {windowHeights : Vector UInt16 WINDOWS} {tabbedHeight : UInt16} {c : Column WINDOWS}
    (stored : c = { s.column i with windowHeights, tabbedHeight })
    (heights : (s.setColumn i c).column i = c → ∀ row < (s.column i).windowCount,
      read ((s.setColumn i c).resolvedWindowHeights i) row =
        read (s.resolvedWindowHeights i) row) : Looks s (s.setColumn i c) := by
  have inside : i < COLUMNS := lt_of_lt_of_le inUse wf.capacity
  have same : (s.setColumn i c).column i = c := column_setColumn_same inside
  have heights := heights same
  have other : ∀ j, i ≠ j → (s.setColumn i c).column j = s.column j :=
    fun j different => column_setColumn_other different
  -- Each field that the geometry reads is the same in every column.
  have field : ∀ {α : Type} (f : Column WINDOWS → α),
      f { s.column i with windowHeights, tabbedHeight } = f (s.column i) →
      ∀ j, f ((s.setColumn i c).column j) = f (s.column j) := by
    intro α f unchanged j
    rcases eq_or_ne i j with rfl | different
    · rw [same, stored, unchanged]
    · rw [other j different]
  have windows := field Column.windows rfl
  have count := field Column.windowCount rfl
  have focus := field Column.focusedWindow rfl
  have edges := field Column.maximizedToEdges rfl
  have display := field Column.display rfl
  have find : ∀ w, (s.setColumn i c).findWindow w = s.findWindow w := by
    intro w
    refine congrArg (fun test => (List.range s.columnCount).findSome? test) (funext fun j => ?_)
    rw [windows j, count j]
  have effective : ∀ j, (s.setColumn i c).effectiveColumnWidth j = s.effectiveColumnWidth j := by
    intro j
    unfold effectiveColumnWidth
    rw [edges j, field Column.maximized rfl j, field Column.width rfl j]
    rfl
  have start : ∀ j, (s.setColumn i c).columnStart j = s.columnStart j := by
    intro j
    unfold columnStart
    simp only [effective]
    rfl
  have resolved : ∀ j, j ≠ i → (s.setColumn i c).resolvedWindowHeights j =
      s.resolvedWindowHeights j := by
    intro j different
    unfold resolvedWindowHeights
    rw [other j (symm different)]
    rfl
  refine ⟨?_, fun w => ?_, fun w => ?_, rfl⟩
  · have focused := wf.focused_lt (by omega)
    have bound : s.focusedColumn < COLUMNS := lt_of_lt_of_le focused wf.capacity
    have nonempty := (wf.columns _ focused).nonempty
    rw [focusedWindow_eq_some rfl bound rfl nonempty,
      focusedWindow_eq_some (s := s.setColumn i c) rfl bound rfl (by rwa [count]), windows, focus]
    rfl
  · unfold windowIsVisible
    rw [find]
    cases s.findWindow w with
    | none => rfl
    | some place =>
      dsimp only
      rw [display, focus]
  · unfold tileRect
    rw [find]
    cases found : s.findWindow w with
    | none => rfl
    | some place =>
      obtain ⟨j, row⟩ := place
      obtain ⟨-, inColumn, -⟩ := findWindow_eq_some found
      have shown : ∀ k ≤ row, read ((s.setColumn i c).resolvedWindowHeights j) k =
          read (s.resolvedWindowHeights j) k := by
        intro k below
        rcases eq_or_ne j i with rfl | different
        · exact heights k (by omega)
        · rw [resolved j different]
      have above : held ((s.setColumn i c).resolvedWindowHeights j) row =
          held (s.resolvedWindowHeights j) row :=
        held_congr fun k below => shown k (le_of_lt below)
      dsimp only
      rw [edges, display, start, effective, shown row (le_refl row), above]
      rfl

/-- Only the view is brought back to the focused column, where it is already. -/
theorem looks_visible (rests : s.visibleOffset = s.viewOffset) : s.ensureFocusedVisible = s := by
  unfold ensureFocusedVisible
  rw [rests]

/-! ## Heights -/

/-- A height between one pixel and the room of a single window. -/
theorem single_positive (requested : Int32) :
    0 < (clamp requested 1 (max s.maximumSingle 1).i32).u16.toNat := by
  have maximum := one_le_maximum s.maximumSingle
  have bound := (max s.maximumSingle 1).toNat_lt
  have one' : (1 : Int32).toInt = 1 := rfl
  have clamped := clamp_i32 (x := requested) (by
    rw [UInt16.toInt_i32]
    exact Int.ofNat_le.mpr maximum : (1 : Int32).toInt ≤ (max s.maximumSingle 1).i32.toInt)
  rw [UInt16.toInt_i32] at clamped
  have value := Int32.toNat_u16 (a := clamp requested 1 (max s.maximumSingle 1).i32) (by omega)
    (by omega)
  omega

/-- The height of every window of a tabbed column. -/
def tabHeight (s : ScrollLayout COLUMNS WINDOWS) (tabbedHeight : UInt16) : UInt16 :=
  if tabbedHeight = 0 then max s.maximumSingle 1 else min tabbedHeight (max s.maximumSingle 1)

theorem read_resolved_tabbed {row : Nat} (tabbed : (s.column i).display = .tabbed)
    (capacity : (s.column i).windowCount ≤ WINDOWS) (inUse : row < (s.column i).windowCount) :
    read (s.resolvedWindowHeights i) row = s.tabHeight (s.column i).tabbedHeight := by
  unfold resolvedWindowHeights
  rw [if_pos tabbed]
  exact read_fill _ inUse (by omega)

/-- Storing the height that a tabbed column shows anyway. -/
theorem tabHeight_tabHeight (tabbedHeight : UInt16) :
    s.tabHeight (s.tabHeight tabbedHeight) = s.tabHeight tabbedHeight := by
  have maximum := one_le_maximum s.maximumSingle
  have one : (1 : UInt16).toNat = 1 := rfl
  have zero : (0 : UInt16).toNat = 0 := rfl
  have bounded : 0 < (s.tabHeight tabbedHeight).toNat ∧
      (s.tabHeight tabbedHeight).toNat ≤ (max s.maximumSingle 1).toNat := by
    unfold tabHeight
    split
    · omega
    case isFalse positive =>
      rw [← UInt16.toNat_inj] at positive
      rw [UInt16.toNat_min]
      omega
  generalize s.tabHeight tabbedHeight = height at bounded
  have positive : height ≠ 0 := by
    rw [Ne, ← UInt16.toNat_inj]
    omega
  rw [tabHeight, if_neg positive, ← UInt16.toNat_inj, UInt16.toNat_min]
  omega

section

variable (wf : s.WellFormed) {i : Nat} (inUse : i < s.columnCount) {height : UInt16}
include wf inUse

theorem WellFormed.storeTabbed (height : UInt16) : Rearranged s (s.setColumn i
      { s.column i with tabbedHeight := height }) :=
  wf.retouch inUse rfl rfl rfl (wf.columns _ inUse).focus

/-- Storing in a tabbed column. -/
theorem WellFormed.looks_tabbed (tabbed : (s.column i).display = .tabbed)
    (same : height = read (s.resolvedWindowHeights i) (s.column i).focusedWindow) :
    Looks s (s.setColumn i { s.column i with tabbedHeight := height }) := by
  have sound := wf.columns _ inUse
  rw [read_resolved_tabbed tabbed sound.capacity sound.focus] at same
  refine wf.looks_setColumn inUse rfl fun stored row below => ?_
  rw [read_resolved_tabbed (by rw [stored]; exact tabbed) (by rw [stored]; exact sound.capacity)
    (by rw [stored]; exact below), stored, read_resolved_tabbed tabbed sound.capacity below, same]
  exact tabHeight_tabHeight _

/-- Storing the height that a single window has anyway. -/
theorem WellFormed.looks_single (normal : (s.column i).display ≠ .tabbed)
    (single : (s.column i).windowCount = 1) (positive : 0 < height.toNat)
    (same : height = read (s.resolvedWindowHeights i) (s.column i).focusedWindow) :
    Looks s (s.setColumn i { s.column i with
      windowHeights := write (s.column i).windowHeights 0 height }) := by
  have sound := wf.columns _ inUse
  have focus := sound.focus
  have capacity := sound.capacity
  refine wf.looks_setColumn inUse rfl fun stored row below => ?_
  obtain rfl : row = 0 := by omega
  have first : (s.column i).focusedWindow = 0 := by omega
  rw [first] at same
  have nonzero : height ≠ 0 := by
    rintro rfl
    exact absurd positive (lt_irrefl 0)
  have explicit : read (write (s.column i).windowHeights 0 height) 0 = height :=
    read_write_same (by omega)
  rw [← same]
  unfold resolvedWindowHeights
  rw [stored]
  rw [if_neg normal, if_pos (.inr (by rw [explicit]; exact nonzero)), explicit]

end

/-- What the focused window may have at most: the others keep one pixel each. -/
def heightLimit (heights : Vector UInt16 WINDOWS) (count : Nat) : Int32 :=
  (held heights count).foldl (fun sum height => sum + height.i32) 0 - (Int32.ofNat count - 1)

theorem toInt_heightLimit (small : WINDOWS ≤ 32767) {heights : Vector UInt16 WINDOWS} {count : Nat}
    (several : 2 ≤ count) (capacity : count ≤ WINDOWS) (fair : Fair heights count) :
    (heightLimit heights count).toInt = pixels heights count - (count - 1) := by
  have total := fair.total
  have exact : (Int32.ofNat count).toInt = count := Int32.toInt_ofNat_of_lt (by omega)
  have one : (1 : Int32).toInt = 1 := rfl
  have zero : (0 : Int32).toInt = 0 := rfl
  have sum : ((held heights count).foldl (fun sum height => sum + height.i32) (0 : Int32)).toInt =
      pixels heights count := by
    unfold pixels at total ⊢
    rw [toInt_sum (Int.le_of_eq zero.symm) (by rw [zero]; omega)]
    omega
  exact Int32.toInt_sub_of_range sum (Int32.toInt_sub_of_range exact one)

/-- The windows of a column share the pixels they had, with at least one each. -/
structure Redistributed (s : ScrollLayout COLUMNS WINDOWS) (i : Nat)
    (s' : ScrollLayout COLUMNS WINDOWS) : Prop where
  positive : ∀ row < (s.column i).windowCount, 0 < (read (s'.resolvedWindowHeights i) row).toNat
  total : pixels (s'.resolvedWindowHeights i) (s.column i).windowCount =
    pixels (s.resolvedWindowHeights i) (s.column i).windowCount

theorem resolved_explicit (normal : (s.column i).display ≠ .tabbed)
    (explicit : read (s.column i).windowHeights 0 ≠ 0) :
    s.resolvedWindowHeights i = (s.column i).windowHeights := by
  unfold resolvedWindowHeights
  rw [if_neg normal, if_pos (.inr explicit)]

theorem WellFormed.redistributed (wf : s.WellFormed) {i : Nat} (inUse : i < s.columnCount)
    (normal : (s.column i).display ≠ .tabbed) {heights : Vector UInt16 WINDOWS}
    (positive : ∀ row < (s.column i).windowCount, 0 < (read heights row).toNat)
    (total : pixels heights (s.column i).windowCount =
      pixels (s.resolvedWindowHeights i) (s.column i).windowCount) :
    s.Redistributed i (s.setColumn i { s.column i with windowHeights := heights }) := by
  have stored : (s.setColumn i { s.column i with windowHeights := heights }).column i =
      { s.column i with windowHeights := heights } :=
    column_setColumn_same (lt_of_lt_of_le inUse wf.capacity)
  have explicit : read heights 0 ≠ 0 := by
    intro zero
    have first := positive 0 (wf.columns _ inUse).nonempty
    rw [zero] at first
    exact lt_irrefl 0 first
  have resolved : (s.setColumn i { s.column i with windowHeights := heights }).resolvedWindowHeights
      i = heights := by
    rw [resolved_explicit (by rwa [stored]) (by rwa [stored]), stored]
  exact ⟨by rwa [resolved], by rwa [resolved]⟩

section

variable (wf : s.WellFormed) {i : Nat} (inUse : i < s.columnCount)
  (normal : (s.column i).display ≠ .tabbed) (several : 2 ≤ (s.column i).windowCount)
include wf inUse normal several

/-- The heights of several windows shared out anew. -/
theorem WellFormed.storeSeveral {requested target : Int32} {heights : Vector UInt16 WINDOWS}
    (clamped : checkedClamp requested 1 (heightLimit (s.resolvedWindowHeights i)
      (s.column i).windowCount) = .ok target)
    (changed : shareHeights (s.resolvedWindowHeights i) (s.column i).focusedWindow
      (s.column i).windowCount (read (s.resolvedWindowHeights i) (s.column i).focusedWindow).i32
      target = heights) :
    Rearranged s (s.setColumn i { s.column i with windowHeights := heights }) ∧
      (WINDOWS ≤ 32767 → ((read heights (s.column i).focusedWindow).toNat : Int) = target.toInt ∧
        s.Redistributed i (s.setColumn i { s.column i with windowHeights := heights })) := by
  subst changed
  have sound := wf.columns _ inUse
  obtain ⟨low, high⟩ := checkedClamp_i32 clamped
  have shared (small : WINDOWS ≤ 32767) := by
    have fair := resolved_fair small sound normal
    have limit := toInt_heightLimit small several sound.capacity fair
    have one : (1 : Int32).toInt = 1 := rfl
    exact shareHeights_fair several sound.focus sound.capacity fair
      (UInt16.toInt_i32 _) (show 1 ≤ target.toInt by omega) (by omega)
  refine ⟨wf.setColumn inUse ⟨sound.nonempty, sound.capacity, sound.focus, fun small => ?_⟩
    (List.Perm.refl _), fun small => ?_⟩
  · exact Column.uniform_of_fair sound.capacity (shared small).1
  obtain ⟨fair, focused, total⟩ := shared small
  exact ⟨focused, wf.redistributed inUse normal fair.positive total⟩

/-- The bounds of the clamp are in order. -/
theorem WellFormed.clamps (requested : Int32) :
    (checkedClamp requested 1 (heightLimit (s.resolvedWindowHeights i)
      (s.column i).windowCount)).Ends (fun target => checkedClamp requested 1 (heightLimit
        (s.resolvedWindowHeights i) (s.column i).windowCount) = .ok target)
      fun _ => 32767 < WINDOWS := by
  have sound := wf.columns _ inUse
  have one : (1 : Int32).toInt = 1 := rfl
  unfold checkedClamp
  split
  case isTrue reversed =>
    refine not_le.mp fun small => ?_
    have fair := resolved_fair small sound normal
    have least := count_le_pixels sound.capacity fair.positive
    rw [Int32.lt_iff_toInt_lt, toInt_heightLimit small several sound.capacity fair] at reversed
    omega
  case isFalse => rfl

end

/-- What storing a height can do.  A column that was maximized to the edges reports the
change, unless several windows share it. -/
theorem WellFormed.storeHeight_ends (wf : s.WellFormed) (used : s.columnCount ≠ 0) (was : Bool)
    (change : ColumnWidthChange) : (s.storeHeight was change).Ends
      (fun r => Rearranged s r.2 ∧ (WINDOWS ≤ 32767 → r.1 ≠ .ok true → Looks s r.2) ∧
        (was = true → (s.column s.focusedColumn).display = .tabbed ∨
          (s.column s.focusedColumn).windowCount = 1 → r.1 = .ok true) ∧
        (WINDOWS ≤ 32767 → (s.column s.focusedColumn).display ≠ .tabbed →
          (s.column s.focusedColumn).windowCount ≠ 1 → s.Redistributed s.focusedColumn r.2))
      fun _ => 32767 < WINDOWS := by
  have inUse := wf.focused_lt used
  have sound := wf.columns _ inUse
  have nonempty := sound.nonempty
  unfold storeHeight
  dsimp only
  rw [if_neg (by omega), Int32.u16_i32]
  split
  case isTrue tabbed =>
    refine ⟨wf.storeTabbed inUse _, fun _ quiet => wf.looks_tabbed inUse tabbed ?_, ?_,
      fun _ normal => absurd tabbed normal⟩
    · by_contra different
      exact quiet (congrArg Except.ok (by rw [bne_iff_ne.mpr different, Bool.or_true]))
    · rintro rfl -
      rfl
  case isFalse normal =>
  split
  case isTrue single =>
    have positive := single_positive (s := s) (s.requestedHeight (read
      (s.resolvedWindowHeights s.focusedColumn) (s.column s.focusedColumn).focusedWindow).i32 change)
    refine ⟨wf.setColumn inUse (Column.sound_height sound single positive) (List.Perm.refl _),
      fun _ quiet => wf.looks_single inUse normal single positive ?_, ?_,
      fun _ _ several => absurd single several⟩
    · by_contra different
      exact quiet (congrArg Except.ok (by rw [bne_iff_ne.mpr different, Bool.or_true]))
    · rintro rfl -
      rfl
  case isFalse notSingle =>
  have shared {p : Prop} : (s.column s.focusedColumn).display = .tabbed ∨
      (s.column s.focusedColumn).windowCount = 1 → p :=
    fun few => absurd few (not_or.mpr ⟨normal, notSingle⟩)
  have clamps := wf.clamps inUse normal (by omega) (s.requestedHeight (read
    (s.resolvedWindowHeights s.focusedColumn) (s.column s.focusedColumn).focusedWindow).i32 change)
  refine clamps.bind fun target clamped => ?_
  split
  case isTrue =>
    exact ⟨wf.rearranged, fun _ _ => Looks.refl s, fun _ => shared,
      fun small _ _ => ⟨(resolved_fair small sound normal).positive, rfl⟩⟩
  case isFalse moved =>
    obtain ⟨arranged, exact⟩ := wf.storeSeveral inUse normal (by omega) clamped rfl
    refine ⟨arranged, fun small quiet => ?_, fun _ => shared, fun small _ _ => (exact small).2⟩
    -- A target other than the present height shows in the reply.
    exfalso
    refine quiet (congrArg Except.ok ?_)
    rw [Bool.or_eq_true, bne_iff_ne]
    refine .inr fun same => moved ?_
    have value := (exact small).1
    rw [same] at value
    rw [← Int32.toInt_inj, Int32.toInt_sub, UInt16.toInt_i32, value, Int.sub_self]
    rfl

/-- The focused column is maximized to the edges and holds several windows one above the
other. -/
def EdgeStack (s : ScrollLayout COLUMNS WINDOWS) : Prop :=
  (s.column s.focusedColumn).maximizedToEdges = true ∧
    (s.column s.focusedColumn).display = .normal ∧ 2 ≤ (s.column s.focusedColumn).windowCount

instance : Decidable s.EdgeStack := inferInstanceAs (Decidable (_ ∧ _ ∧ _))

section

variable (wf : s.WellFormed)
include wf

/-- The focused column leaves the edges. -/
theorem WellFormed.clearEdges (used : s.columnCount ≠ 0) :
    Rearranged s (s.modifyColumn s.focusedColumn ({ · with maximizedToEdges := false })) :=
  have inUse := wf.focused_lt used
  wf.retouch inUse rfl rfl rfl (wf.columns _ inUse).focus

theorem WellFormed.changeFocusedWindowHeight_ends (change : ColumnWidthChange) :
    (s.changeFocusedWindowHeight change).Ends (fun r => Rearranged s r.2 ∧
      (WINDOWS ≤ 32767 → ¬ s.EdgeStack → r.1 ≠ .ok true → Looks s r.2) ∧
      (WINDOWS ≤ 32767 → s.columnCount ≠ 0 → (s.column s.focusedColumn).display ≠ .tabbed →
        2 ≤ (s.column s.focusedColumn).windowCount → s.Redistributed s.focusedColumn r.2))
      fun _ => 32767 < WINDOWS := by
  unfold changeFocusedWindowHeight
  split
  case isTrue none =>
    exact ⟨wf.rearranged, fun _ _ _ => Looks.refl s, fun _ used => absurd none used⟩
  case isFalse used =>
  have inUse := wf.focused_lt used
  have inside : s.focusedColumn < COLUMNS := lt_of_lt_of_le inUse wf.capacity
  have cleared := wf.clearEdges used
  have stored : (s.modifyColumn s.focusedColumn ({ · with maximizedToEdges := false })).column
      s.focusedColumn = { s.column s.focusedColumn with maximizedToEdges := false } :=
    column_setColumn_same inside
  refine (cleared.wellFormed.storeHeight_ends used _ change).imp ?_ fun _ => id
  rintro r ⟨arranged, looks, reports, shares⟩
  refine ⟨cleared.trans arranged, fun small notStacked quiet => ?_,
    fun small _ normal several => ?_⟩
  rotate_left
  · have count := congrArg Column.windowCount stored
    have resolved : (s.modifyColumn s.focusedColumn ({ · with
        maximizedToEdges := false })).resolvedWindowHeights s.focusedColumn =
        s.resolvedWindowHeights s.focusedColumn := by
      unfold resolvedWindowHeights
      rw [stored]
      rfl
    obtain ⟨positive, total⟩ := shares small
      (fun tabbed => normal ((congrArg Column.display stored).symm.trans tabbed))
      (ne_of_gt (lt_of_lt_of_eq several count.symm))
    exact ⟨fun row below => positive row (lt_of_lt_of_eq below count.symm),
      count ▸ resolved ▸ total⟩
  cases was : (s.column s.focusedColumn).maximizedToEdges with
  | false =>
    -- Clearing a flag that is not set does nothing.
    have same : s.modifyColumn s.focusedColumn ({ · with maximizedToEdges := false }) = s := by
      refine Eq.trans (congrArg (s.setColumn s.focusedColumn) ?_) (setColumn_column inside)
      rw [← was]
    rw [same] at looks
    exact looks small quiet
  | true =>
    refine absurd (reports was ?_) quiet
    show (column _ s.focusedColumn).display = .tabbed ∨
      (column _ s.focusedColumn).windowCount = 1
    rw [stored]
    have nonempty := (wf.columns _ inUse).nonempty
    cases display : (s.column s.focusedColumn).display with
    | tabbed => exact .inl rfl
    | normal =>
      refine .inr ?_
      by_contra several
      have several : (s.column s.focusedColumn).windowCount ≠ 1 := several
      exact notStacked ⟨was, display, by omega⟩

/-- Resetting heights that are not set. -/
theorem WellFormed.looks_reset {i : Nat} (inUse : i < s.columnCount)
    (tabbed : (s.column i).tabbedHeight = 0)
    (heights : ∀ row < (s.column i).windowCount, read (s.column i).windowHeights row = 0) :
    Looks s (s.setColumn i (s.column i).resetWindowHeights) := by
  have sound := wf.columns _ inUse
  refine wf.looks_setColumn inUse rfl fun stored row below => ?_
  have first := heights 0 sound.nonempty
  have nonempty : (s.column i).windowCount ≠ 0 := ne_of_gt sound.nonempty
  unfold resolvedWindowHeights
  rw [stored]
  simp only [Column.resetWindowHeights, tabbed, first, nonempty, Column.read_zeros]
  rfl

theorem WellFormed.resetFocusedWindowHeight_cases : Rearranged s s.resetFocusedWindowHeight.2 ∧
      (s.resetFocusedWindowHeight.1 = false → Looks s s.resetFocusedWindowHeight.2) := by
  unfold resetFocusedWindowHeight
  split
  case isTrue => exact ⟨wf.rearranged, fun _ => Looks.refl s⟩
  case isFalse used =>
  have inUse := wf.focused_lt used
  have sound := wf.columns _ inUse
  refine ⟨wf.setColumn inUse (Column.sound_reset sound.nonempty sound.capacity sound.focus)
    (List.Perm.refl _), fun quiet => ?_⟩
  dsimp only at quiet ⊢
  rw [Bool.or_eq_false_iff, Bool.or_eq_false_iff, bne_eq_false_iff_eq, List.any_eq_false] at quiet
  obtain ⟨edges, tabbed, heights⟩ := quiet
  have looks := wf.looks_reset inUse tabbed fun row below => by
    have zero := heights _ (read_mem_held below sound.capacity)
    rwa [bne_iff_ne, not_not] at zero
  have same : ({ s.column s.focusedColumn with maximizedToEdges := false } : Column WINDOWS) =
      s.column s.focusedColumn := by
    rw [← edges]
  rw [same]
  exact looks

end

theorem preset_ok {presets : PresetSizes} (present : presets.isEmpty = false)
    (current viewSize gap : UInt16) (backwards : Bool) (message : String) : ∃ width, expect message
      (presets.get (nextPresetIndex presets current viewSize gap backwards)) = .ok width := by
  obtain ⟨width, found⟩ :=
    PresetSizes.get_isSome (nextPresetIndex_lt present current viewSize gap backwards)
  exact ⟨width, by rw [found]; rfl⟩

namespace WellFormed

variable (wf : s.WellFormed)
include wf

theorem switchPresetWindowHeightInDirection_ends (backwards : Bool) :
    (s.switchPresetWindowHeightInDirection backwards).Ends (fun r => Rearranged s r.2 ∧
      (WINDOWS ≤ 32767 → ¬ s.EdgeStack → r.1 = false → Looks s r.2))
      fun _ => 32767 < WINDOWS := by
  unfold switchPresetWindowHeightInDirection
  split
  case isTrue => exact ⟨wf.rearranged, fun _ _ _ => Looks.refl s⟩
  case isFalse possible =>
  dsimp only
  split
  case isTrue => exact ⟨wf.rearranged, fun _ _ _ => Looks.refl s⟩
  case isFalse =>
  refine .of_ok (preset_ok (Bool.eq_false_iff.mpr fun empty => possible (.inr empty)) ..)
    fun height => ?_
  refine (wf.changeFocusedWindowHeight_ends (.set height)).bind ?_
  rintro ⟨reply, layout⟩ ⟨arranged, looks, -⟩
  refine ⟨arranged, fun small notStacked quiet => looks small notStacked ?_⟩
  rintro rfl
  cases quiet

/-! ## Widths and flags -/

/-- The flags and the width of a used column are exchanged. -/
theorem reflag (inUse : i < s.columnCount) (width : UInt16)
    (maximized maximizedToEdges : Bool) (display : ColumnDisplay) : Rearranged s (s.setColumn i
      { s.column i with width, maximized, maximizedToEdges, display }) :=
  wf.retouch inUse rfl rfl rfl (wf.columns _ inUse).focus

theorem switchPresetColumnWidthInDirection_ends (backwards : Bool) :
    (s.switchPresetColumnWidthInDirection backwards).Ends (Attempted s) onError := by
  unfold switchPresetColumnWidthInDirection
  split
  case isTrue => exact .inl rfl
  case isFalse possible =>
  refine .of_ok (preset_ok (Bool.eq_false_iff.mpr fun empty => possible (.inr empty)) ..)
    fun width => ?_
  dsimp only
  split
  case isTrue => exact .inl rfl
  case isFalse =>
    have inUse := wf.focused_lt fun none => possible (.inl none)
    exact .inr ⟨_, rfl, (wf.reflag inUse _ _ _ _).visible⟩

theorem toggleFocusedColumnTabbedDisplay_cases :
    Attempted s s.toggleFocusedColumnTabbedDisplay := by
  refine .unless fun used => ?_
  exact .inr ⟨_, rfl, wf.reflag (wf.focused_lt used) _ _ _ _⟩

theorem toggleMaximizeFocusedColumn_cases :
    Attempted s s.toggleMaximizeFocusedColumn := by
  refine .unless fun used => ?_
  have inUse := wf.focused_lt used
  refine .inr ⟨_, rfl, Rearranged.visible ?_⟩
  dsimp only [modifyColumn]
  split
  case isTrue => exact wf.reflag inUse _ _ _ _
  case isFalse => exact wf.reflag inUse _ _ _ _

end WellFormed

/-- A refused operation or one whose reply tells whether it changed a column, where the view
is brought back to the focused column in any case. -/
def Reviewed (s : ScrollLayout COLUMNS WINDOWS)
    (outcome : Except LayoutError Bool × ScrollLayout COLUMNS WINDOWS) : Prop :=
  Rearranged s outcome.2 ∧ (outcome.1 ≠ .ok true → outcome.2 = s ∨
    outcome.2 = s.ensureFocusedVisible)

/-- A layout with windows has a column. -/
theorem Rearranged.used (arranged : Rearranged s s') (wf : s.WellFormed) (used : s.columnCount ≠ 0)
    : s'.columnCount ≠ 0 := by
  intro none
  have inUse := wf.focused_lt used
  have present := (mem_windows wf.toShaped).mpr ⟨_, inUse, 0, (wf.columns _ inUse).nonempty, rfl⟩
  obtain ⟨i, below, -⟩ :=
    (mem_windows arranged.wellFormed.toShaped).mp (arranged.windows.mem_iff.mpr present)
  omega

namespace WellFormed

variable (wf : s.WellFormed)
include wf

theorem reviewed {c : Column WINDOWS} (inUse : i < s.columnCount)
    (arranged : Rearranged s (s.setColumn i c)) (quiet : changed = false → c = s.column i) :
    Reviewed s (.ok changed, (s.setColumn i c).ensureFocusedVisible) := by
  refine ⟨arranged.visible, fun declined => .inr (congrArg ensureFocusedVisible ?_)⟩
  rw [quiet (Bool.eq_false_iff.mpr fun same => declined (congrArg Except.ok same))]
  exact setColumn_column (lt_of_lt_of_le inUse wf.capacity)

theorem setWindowMaximized_cases (maximized : Bool) :
    Reviewed s (s.setWindowMaximized w maximized) := by
  unfold setWindowMaximized
  split
  case h_1 => exact ⟨wf.rearranged, fun _ => .inl rfl⟩
  case h_2 i row found =>
  obtain ⟨inUse, -⟩ := findWindow_eq_some found
  refine wf.reviewed inUse (wf.reflag inUse _ _ _ _) fun quiet => ?_
  rw [← bne_eq_false_iff_eq.mp quiet]

theorem setWindowMaximizedToEdges_cases (maximized : Bool) :
    Reviewed s (s.setWindowMaximizedToEdges w maximized) := by
  unfold setWindowMaximizedToEdges
  split
  case h_1 => exact ⟨wf.rearranged, fun _ => .inl rfl⟩
  case h_2 i row found =>
  obtain ⟨inUse, -⟩ := findWindow_eq_some found
  refine wf.reviewed inUse (wf.reflag inUse _ _ _ _) fun quiet => ?_
  rw [← bne_eq_false_iff_eq.mp quiet]

theorem changeFocusedColumnWidth_cases (change : ColumnWidthChange) :
    Reviewed s (s.changeFocusedColumnWidth change) := by
  unfold changeFocusedColumnWidth
  split
  case isTrue => exact ⟨wf.rearranged, fun _ => .inl rfl⟩
  case isFalse possible =>
  have inUse := wf.focused_lt fun none => possible (.inl none)
  refine wf.reviewed inUse (wf.reflag inUse _ _ _ _) fun quiet => ?_
  rw [Bool.or_eq_false_iff, Bool.or_eq_false_iff, bne_eq_false_iff_eq] at quiet
  obtain ⟨⟨normal, inner⟩, width⟩ := quiet
  rw [width, normal, inner]
  conv_rhs => rw [show s.column s.focusedColumn = { s.column s.focusedColumn with
    maximized := (s.column s.focusedColumn).maximized
    maximizedToEdges := (s.column s.focusedColumn).maximizedToEdges } from rfl, normal, inner]
  rfl

theorem toggleMaximizeFocusedWindowToEdgesWithDisplay_cases
    (display : Option ColumnDisplay) :
    Attempted s (s.toggleMaximizeFocusedWindowToEdgesWithDisplay display) := by
  refine .unless fun used => ?_
  split
  case isTrue => exact .inr ⟨_, rfl, (wf.clearEdges used).visible⟩
  case isFalse =>
  have extracted : Attempted s (if 1 < (s.column s.focusedColumn).windowCount then
      s.extractFocusedWindowToSide false display else (true, s)) := by
    split
    case isTrue => exact wf.extractFocusedWindowToSide_cases false display
    case isFalse => exact .inr ⟨s, rfl, wf.rearranged⟩
  rcases extracted with refused | ⟨layout, done, arranged⟩
  · rw [refused]
    exact .inl rfl
  · rw [done]
    have inUse := arranged.wellFormed.focused_lt (arranged.used wf used)
    exact .inr ⟨_, rfl, (arranged.trans (arranged.wellFormed.reflag inUse _ _ _ _)).visible⟩

/-! ## The view -/

/-- The reply tells whether the view moves. -/
theorem viewed (viewOffset : Int32) :
    Attempted s (viewOffset != s.viewOffset, { s with viewOffset }) := by
  rcases eq_or_ne viewOffset s.viewOffset with rfl | different
  · rw [bne_self_eq_false]
    exact .inl rfl
  · rw [bne_iff_ne.mpr different]
    exact .inr ⟨_, rfl, wf.view viewOffset⟩

theorem centerFocusedColumn_cases : Attempted s s.centerFocusedColumn := by
  unfold centerFocusedColumn
  split
  case isTrue => exact .inl rfl
  case isFalse => exact wf.viewed _

end WellFormed

theorem scanVisible_leftmost (indices : List Nat) (scan : VisibleScan)
    (found : scan.activeVisible = true → scan.leftmostStart.isSome = true) :
    (s.scanVisible indices scan).activeVisible = true →
      (s.scanVisible indices scan).leftmostStart.isSome = true := by
  fun_induction scanVisible s indices scan with
  | case1 => exact found
  | case2 index rest scan start gap before ih => exact ih found
  | case3 => exact found
  | case4 index rest scan start width gap _ _ ih =>
    refine ih fun _ => ?_
    cases scan.leftmostStart <;> rfl

/-- A visible focused column is among the columns that the scan saw. -/
theorem visible_left {message : String}
    (visible : (s.scanVisible (List.range s.columnCount) {}).activeVisible = true) :
    ∃ start, expect message (s.scanVisible (List.range s.columnCount) {}).leftmostStart =
      .ok start := by
  obtain ⟨start, found⟩ := Option.isSome_iff_exists.mp (scanVisible_leftmost _ {}
    (fun active => Bool.noConfusion active) visible)
  exact ⟨start, by rw [found]; rfl⟩

theorem WellFormed.centerVisibleColumns_ends (wf : s.WellFormed) :
    s.centerVisibleColumns.Ends (Attempted s) onError := by
  unfold centerVisibleColumns
  split
  case isTrue => exact .inl rfl
  case isFalse =>
  dsimp only
  split
  case isTrue => exact .inl rfl
  case isFalse visible => exact .of_ok (visible_left ((Bool.not_eq_false _).mp visible)) fun _ => wf.viewed _

theorem WellFormed.expandFocusedColumnToAvailableWidth_ends (wf : s.WellFormed) :
    s.expandFocusedColumnToAvailableWidth.Ends (Attempted s) onError := by
  unfold expandFocusedColumnToAvailableWidth
  split
  case isTrue => exact .inl rfl
  case isFalse possible =>
  have inUse := wf.focused_lt fun none => possible (.inl none)
  dsimp only
  split
  case isTrue => exact .inl rfl
  case isFalse wide =>
  split
  case isTrue => exact .inr ⟨_, rfl, (wf.reflag inUse _ _ _ _).visible⟩
  case isFalse =>
  refine .of_ok (visible_left (Bool.of_not_eq_false fun hidden => wide (.inl hidden))) fun _ => ?_
  have widened := wf.reflag inUse ((s.column s.focusedColumn).width.i32.saturatingAdd
    (s.outputWidth.i32 - s.config.gaps.i32 -
      (s.scanVisible (List.range s.columnCount) {}).widthTaken)).u16
    (s.column s.focusedColumn).maximized (s.column s.focusedColumn).maximizedToEdges
    (s.column s.focusedColumn).display
  exact .inr ⟨_, rfl, (widened.trans (widened.wellFormed.view _)).visible⟩

end SlopOS.Shell.ScrollLayout
