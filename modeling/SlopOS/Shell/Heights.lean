import SlopOS.Base.Fallible
import SlopOS.Shell.Columns

/-!
# Window heights

The heights that windows in one column get are positive and share 16 bits of
pixels.  The two computations that store new heights, the rescaling when the strip at
the top grows and the change of one window's height, keep that for up to 32767
windows; so no `clamp` in them meets bounds in the wrong order.
-/

namespace SlopOS.Shell

open Machine CountedArray

variable {COLUMNS WINDOWS : Nat}

/-! ## Sums of heights -/

/-- The pixels of the first `count` heights. -/
def pixels (heights : Vector UInt16 WINDOWS) (count : Nat) : Nat :=
  ((held heights count).map UInt16.toNat).sum

/-- Positive heights of windows that share 16 bits of pixels or are one pixel high. -/
structure Fair (heights : Vector UInt16 WINDOWS) (count : Nat) : Prop where
  positive : ∀ row < count, 0 < (read heights row).toNat
  total : pixels heights count < 65535 + count

variable {heights heights' : Vector UInt16 WINDOWS} {count row : Nat} {x : UInt16}
  {column : Column WINDOWS}

theorem pixels_write (heights : Vector UInt16 WINDOWS) (x : UInt16) (inUse : row < count)
    (capacity : count ≤ WINDOWS) : pixels (write heights row x) count + (read heights row).toNat =
      pixels heights count + x.toNat := by
  have before := ((perm_cons_eraseIdx (v := heights) inUse capacity).map UInt16.toNat).sum_nat
  have after := ((held_write_perm (v := heights) (x := x) inUse capacity).map UInt16.toNat).sum_nat
  rw [List.map_cons, List.sum_cons] at before after
  unfold pixels
  omega

theorem pixels_append (room : count < WINDOWS) :
    pixels (write heights count x) (count + 1) = pixels heights count + x.toNat := by
  rw [pixels, held_append room, pixels]
  simp

theorem pixels_const (capacity : count ≤ WINDOWS) (same : ∀ row < count, read heights row = x) :
    pixels heights count = count * x.toNat := by
  have constant : (held heights count).map UInt16.toNat = List.replicate count x.toNat := by
    apply List.eq_replicate_iff.mpr
    refine ⟨by rw [List.length_map, length_held capacity], fun pixel member => ?_⟩
    obtain ⟨height, held, rfl⟩ := List.mem_map.mp member
    obtain ⟨row, inUse, rfl⟩ := (mem_held capacity).mp held
    rw [same row inUse]
  rw [pixels, constant, List.sum_replicate_nat]

theorem count_le_pixels (capacity : count ≤ WINDOWS)
    (positive : ∀ row < count, 0 < (read heights row).toNat) : count ≤ pixels heights count := by
  have bound : ((held heights count).map UInt16.toNat).length ≤
      ((held heights count).map UInt16.toNat).sum := by
    apply List.length_le_sum_of_one_le
    intro pixel member
    obtain ⟨height, held, rfl⟩ := List.mem_map.mp member
    obtain ⟨row, inUse, rfl⟩ := (mem_held capacity).mp held
    exact positive row inUse
  rwa [List.length_map, length_held capacity] at bound

/-- The `i32` sum of the heights does not overflow. -/
theorem toInt_sum {list : List UInt16} {start : Int32} (nonneg : 0 ≤ start.toInt)
    (small : start.toInt + (list.map UInt16.toNat).sum < 2147483648) :
    (list.foldl (fun sum height => sum + height.i32) start).toInt =
      start.toInt + (list.map UInt16.toNat).sum := by
  induction list generalizing start with
  | nil => simp
  | cons height rest ih =>
    rw [List.map_cons, List.sum_cons] at small ⊢
    have added := Int32.toInt_add_of_range (a := start) rfl height.toInt_i32
    rw [List.foldl_cons, ih (by omega) (by omega)]
    omega

/-! ## Columns with fair heights -/

theorem Column.uniform_of_fair (capacity : column.windowCount ≤ WINDOWS)
    (fair : Fair column.windowHeights column.windowCount) : column.Uniform := by
  refine .inr ⟨fun height member => ?_, fair.total⟩
  obtain ⟨row, inUse, rfl⟩ := (mem_held capacity).mp member
  exact fair.positive row inUse

theorem Column.fair_of_uniform (capacity : column.windowCount ≤ WINDOWS) (uniform : column.Uniform)
    (nonempty : 0 < column.windowCount) (explicit : read column.windowHeights 0 ≠ 0) :
    Fair column.windowHeights column.windowCount := by
  rcases uniform with zero | ⟨positive, total⟩
  · exact absurd (zero _ (read_mem_held nonempty capacity)) explicit
  · exact ⟨fun row inUse => positive _ (read_mem_held inUse capacity), total⟩

/-! ## Rescaling -/

namespace ScrollLayout

/-- After `rows` rows, the rows so far and what remains make up the maximum, and every
row left can still get a pixel. -/
structure Scaling (column : Column WINDOWS) (maximumTotal : UInt16) (rows : Nat)
    (state : Vector UInt16 WINDOWS × UInt16) : Prop where
  positive : ∀ row < column.windowCount, 0 < (read state.1 row).toNat
  balance : pixels state.1 rows + state.2.toNat = maximumTotal.toNat
  left : column.windowCount - rows ≤ state.2.toNat

section

variable {maximumTotal : UInt16} {total : UInt32} (small : WINDOWS ≤ 32767)
  (capacity : column.windowCount ≤ WINDOWS)
include small capacity

theorem Scaling.step {rows : Nat} {state : Vector UInt16 WINDOWS × UInt16}
    (scaling : Scaling column maximumTotal rows state) (inUse : rows < column.windowCount) :
    (scaleRow column maximumTotal total state rows).Ends
      (fun state => Scaling column maximumTotal (rows + 1) state ∧
        (rows + 1 = column.windowCount → state.2 = 0)) fun _ => False := by
  obtain ⟨heights, remaining⟩ := state
  have balance : pixels heights rows + remaining.toNat = maximumTotal.toNat := scaling.balance
  have left : column.windowCount - rows ≤ remaining.toNat := scaling.left
  -- Whatever the row gets lies between one pixel and what the rows below can spare.
  have written : ∀ scaled : UInt16, 1 ≤ scaled.toNat → scaled.toNat ≤ remaining.toNat →
      column.windowCount - (rows + 1) ≤ remaining.toNat - scaled.toNat →
      Scaling column maximumTotal (rows + 1)
        (write heights rows scaled, remaining.saturatingSub scaled) := by
    intro scaled pixel enough spare
    refine ⟨fun row used => ?_, ?_, ?_⟩
    · change 0 < (read (write heights rows scaled) row).toNat
      rw [read_write]
      split
      · exact pixel
      · exact scaling.positive row used
    · change pixels (write heights rows scaled) (rows + 1) + (remaining.saturatingSub scaled).toNat = _
      rw [pixels_append (by omega), UInt16.toNat_saturatingSub]
      omega
    · change _ ≤ (remaining.saturatingSub scaled).toNat
      rwa [UInt16.toNat_saturatingSub]
  unfold scaleRow
  dsimp only
  by_cases last : rows + 1 = column.windowCount
  · rw [if_pos last]
    exact ⟨written remaining (by omega) (le_refl _) (by omega), fun _ =>
      UInt16.toNat_inj.mp (by rw [UInt16.toNat_saturatingSub, Nat.sub_self]; rfl)⟩
  rw [if_neg last]
  have windowsLeft : (UInt16.ofNat (column.windowCount - rows - 1)).toNat =
      column.windowCount - rows - 1 := by
    rw [UInt16.toNat_ofNat']
    omega
  have spare : (remaining.saturatingSub
      (UInt16.ofNat (column.windowCount - rows - 1))).toUInt32.toNat =
      remaining.toNat - (column.windowCount - rows - 1) := by
    rw [UInt16.toNat_toUInt32, UInt16.toNat_saturatingSub, windowsLeft]
  have bound := remaining.toNat_lt
  have ordered : ¬ (remaining.saturatingSub
      (UInt16.ofNat (column.windowCount - rows - 1))).toUInt32 < 1 := by
    rw [UInt32.lt_iff_toNat_lt]
    change ¬ _ < 1
    omega
  rw [checkedClamp, if_neg ordered]
  have ordered' : (1 : UInt32).toNat ≤ (remaining.saturatingSub
      (UInt16.ofNat (column.windowCount - rows - 1))).toUInt32.toNat := by
    change 1 ≤ _
    omega
  have clamped := clamp_u32 ordered' (x :=
    (read heights rows).toUInt32 * maximumTotal.toUInt32 / total)
  have one : (1 : UInt32).toNat = 1 := rfl
  refine ⟨written _ ?_ ?_ ?_, fun same => absurd same last⟩
  all_goals rw [UInt32.toNat_toUInt16, Nat.mod_eq_of_lt (by omega)]
  · omega
  · omega
  · omega

theorem rescaled_ends (fair : Fair column.windowHeights column.windowCount)
    (share : column.windowCount ≤ maximumTotal.toNat) (nonempty : 0 < column.windowCount) :
    (rescaled column maximumTotal total).Ends (fun state => Fair state.1 column.windowCount ∧
      pixels state.1 column.windowCount = maximumTotal.toNat) fun _ => False := by
  have start : Scaling column maximumTotal 0 (column.windowHeights, maximumTotal) :=
    ⟨fair.positive, by simp [pixels], share⟩
  have folded := Except.Ends.foldlM_range (f := scaleRow column maximumTotal total)
    (p := fun rows state => Scaling column maximumTotal rows state ∧
      (rows = column.windowCount → state.2 = 0))
    ⟨start, fun none => absurd none (ne_of_lt nonempty)⟩
    fun rows inUse state scaling => scaling.1.step small capacity inUse
  have bound := maximumTotal.toNat_lt
  refine folded.imp ?_ fun _ => id
  rintro state ⟨scaling, spent⟩
  have balance := scaling.balance
  rw [spent rfl] at balance
  exact ⟨⟨scaling.positive, by omega⟩, balance⟩

end

/-! ## Changing one height -/

/-- After some rounds of `takePixels`: what was taken is missing from the sum, and while
pixels remain to be taken, every window asked so far is one pixel high. -/
structure Taking (heights : Vector UInt16 WINDOWS) (focus count : Nat) (delta : Int32) (rounds : Nat)
    (state : Vector UInt16 WINDOWS × Int32) : Prop where
  focused : read state.1 focus = read heights focus
  positive : ∀ row < count, 0 < (read state.1 row).toNat
  nonneg : 0 ≤ state.2.toInt
  balance : (pixels state.1 count : Int) + delta.toInt = pixels heights count + state.2.toInt
  drained : state.2 ≠ 0 → ∀ offset, 1 ≤ offset → offset ≤ rounds →
    (read state.1 ((focus + offset) % count)).toNat = 1

variable {focus : Nat} {state : Vector UInt16 WINDOWS × Int32} {delta : Int32}

theorem offset_ne {count offset : Nat} (inUse : focus < count) (low : 1 ≤ offset)
    (high : offset < count) : (focus + offset) % count ≠ focus := by
  intro same
  rcases lt_or_ge (focus + offset) count with inside | wrapped
  · rw [Nat.mod_eq_of_lt inside] at same
    omega
  · rw [Nat.mod_eq_sub_mod wrapped, Nat.mod_eq_of_lt (by omega)] at same
    omega

theorem Taking.step {rounds : Nat} (taking : Taking heights focus count delta rounds state)
    (inUse : focus < count) (capacity : count ≤ WINDOWS) (bound : rounds + 1 < count) :
    Taking heights focus count delta (rounds + 1) (takeFrom focus count state (rounds + 1)) := by
  obtain ⟨current, remaining⟩ := state
  unfold takeFrom
  dsimp only
  split
  case isTrue done =>
    exact ⟨taking.focused, taking.positive, taking.nonneg, taking.balance,
      fun more => absurd done more⟩
  case isFalse more =>
    have elsewhere := offset_ne inUse (Nat.le_add_left 1 rounds) bound
    have place : (focus + (rounds + 1)) % count < count := Nat.mod_lt _ (by omega)
    generalize atIndex : (focus + (rounds + 1)) % count = index at elsewhere place
    have height := taking.positive index place
    have small := (read current index).toNat_lt
    have nonneg := taking.nonneg
    have balance := taking.balance
    dsimp only at height nonneg balance small
    -- What is taken leaves at least one pixel.
    have available : ((read current index).i32.saturatingAdd (-1)).toInt =
        (read current index).toNat - 1 := by
      have minus : (-1 : Int32).toInt = -1 := rfl
      rw [Int32.toInt_saturatingAdd, UInt16.toInt_i32]
      omega
    have taken : (min ((read current index).i32.saturatingAdd (-1)) remaining).toInt =
        min ((read current index).toNat - 1 : Int) remaining.toInt := by
      rw [Int32.toInt_min, available]
    generalize min ((read current index).i32.saturatingAdd (-1)) remaining = amount at taken
    have amount16 : (amount.u16.toNat : Int) = amount.toInt := Int32.toNat_u16 (by omega) (by omega)
    have rest : (read current index - amount.u16).toNat =
        (read current index).toNat - amount.u16.toNat :=
      UInt16.toNat_sub_of_le _ _ (by rw [UInt16.le_iff_toNat_le]; omega)
    have bound := remaining.toInt_lt
    have left := Int32.toInt_sub_of_range (a := remaining) (b := amount) rfl rfl
    have sum := pixels_write current (read current index - amount.u16) place capacity
    refine ⟨?_, fun row used => ?_, ?_, ?_, fun still offset low high => ?_⟩
    · exact (read_write_other elsewhere).trans taking.focused
    · change 0 < (read (write current index _) row).toNat
      rw [read_write]
      split
      · omega
      · exact taking.positive row used
    · change 0 ≤ (remaining - amount).toInt
      omega
    · change (pixels (write current index _) count : Int) + delta.toInt =
        pixels heights count + (remaining - amount).toInt
      omega
    · change (read (write current index _) _).toNat = 1
      have drained : amount.toInt = (read current index).toNat - 1 := by
        by_contra other
        refine still ?_
        change remaining - amount = 0
        rw [← Int32.toInt_inj]
        change _ = (0 : Int)
        omega
      rw [read_write]
      split
      · omega
      case isFalse different =>
        refine taking.drained more offset low ?_
        rcases lt_or_eq_of_le high with earlier | rfl
        · omega
        · exact absurd atIndex.symm different

theorem takePixels_taking (delta : Int32) (inUse : focus < count) (capacity : count ≤ WINDOWS)
    (fair : Fair heights count) (positive : 0 ≤ delta.toInt) :
    Taking heights focus count delta (count - 1) (takePixels heights focus count delta) := by
  unfold takePixels
  generalize limit : count - 1 = rounds
  have below : rounds < count := by omega
  clear limit
  induction rounds with
  | zero =>
    exact ⟨rfl, fair.positive, positive, rfl, fun _ offset low high => absurd low (by omega)⟩
  | succ rounds ih =>
    rw [List.range'_concat, List.foldl_append, Nat.one_mul, Nat.add_comm 1 rounds]
    exact (ih (by omega)).step inUse capacity below

/-- The other windows together have what the focused one may take. -/
theorem Taking.complete (taking : Taking heights focus count delta (count - 1) state)
    (inUse : focus < count) (capacity : count ≤ WINDOWS)
    (enough : (read heights focus).toNat + delta.toInt + (count - 1) ≤ pixels heights count) :
    state.2.toInt = 0 := by
  by_contra remaining
  have more : state.2 ≠ 0 := by
    intro none
    rw [none] at remaining
    exact remaining rfl
  have ones : ∀ row < count, read (write state.1 focus 1) row = 1 := by
    intro row used
    rw [read_write]
    split
    · rfl
    case isFalse other =>
      -- Every other row is some number of places further.
      rw [← UInt16.toNat_inj]
      rcases lt_or_ge focus row with after | before
      · have drained := taking.drained more (row - focus) (by omega) (by omega)
        rwa [Nat.add_sub_cancel' (by omega), Nat.mod_eq_of_lt used] at drained
      · have drained := taking.drained more (count - focus + row) (by omega) (by omega)
        rwa [show focus + (count - focus + row) = count + row by omega, Nat.add_mod_left,
          Nat.mod_eq_of_lt used] at drained
  have sum := pixels_write state.1 1 inUse capacity
  rw [pixels_const capacity ones, taking.focused] at sum
  have one : (1 : UInt16).toNat = 1 := rfl
  have balance := taking.balance
  have nonneg := taking.nonneg
  rw [one] at sum
  omega

theorem shareHeights_fair {previous target : Int32} (several : 2 ≤ count) (inUse : focus < count)
    (capacity : count ≤ WINDOWS) (fair : Fair heights count)
    (stored : previous.toInt = (read heights focus).toNat) (low : 1 ≤ target.toInt)
    (high : target.toInt + (count - 1) ≤ pixels heights count) :
    Fair (shareHeights heights focus count previous target) count ∧
      ((read (shareHeights heights focus count previous target) focus).toNat : Int) = target.toInt ∧
      pixels (shareHeights heights focus count previous target) count = pixels heights count := by
  have total := fair.total
  have height16 := (read heights focus).toNat_lt
  have delta := Int32.toInt_sub_of_range (a := target) (b := previous) rfl rfl
  have zero : (0 : Int32).toInt = 0 := rfl
  unfold shareHeights
  dsimp only
  split
  case isTrue grows =>
    rw [gt_iff_lt, Int32.lt_iff_toInt_lt] at grows
    have taking := takePixels_taking (target - previous) inUse capacity fair (by omega)
    have complete := taking.complete inUse capacity (by omega)
    generalize takePixels heights focus count (target - previous) = state at taking complete
    have value := Int32.toInt_sub_of_range (Int32.toInt_add_of_range (a := previous) rfl delta)
      complete
    have value16 := Int32.toNat_u16 (a := previous + (target - previous) - state.2) (by omega)
      (by omega)
    have written := pixels_write state.1 (previous + (target - previous) - state.2).u16 inUse capacity
    have balance := taking.balance
    rw [taking.focused] at written
    refine ⟨⟨fun row used => ?_, by omega⟩, ?_, by omega⟩
    · rw [read_write]
      split
      · omega
      · exact taking.positive row used
    · rw [read_write_same (by omega)]
      omega
  case isFalse shrinks =>
    rw [gt_iff_lt, Int32.lt_iff_toInt_lt] at shrinks
    have elsewhere := offset_ne inUse (le_refl 1) (by omega)
    have place : (focus + 1) % count < count := Nat.mod_lt _ (by omega)
    generalize (focus + 1) % count = recipient at elsewhere place
    have released : (-(target - previous)).toInt = previous.toInt - target.toInt := by
      rw [Int32.toInt_neg_of_range (by omega)]
      omega
    have target16 := Int32.toNat_u16 (a := target) (by omega) (by omega)
    have first := pixels_write heights target.u16 inUse capacity
    have kept : read (write heights focus target.u16) recipient = read heights recipient :=
      read_write_other (symm elsewhere)
    have old := fair.positive recipient place
    have given : (min ((read heights recipient).i32.saturatingAdd (-(target - previous)))
        65535).toInt = min ((read heights recipient).toNat + (previous.toInt - target.toInt)) 65535 := by
      have limit : (65535 : Int32).toInt = 65535 := rfl
      rw [Int32.toInt_min, Int32.toInt_saturatingAdd, UInt16.toInt_i32]
      omega
    rw [kept]
    generalize min ((read heights recipient).i32.saturatingAdd (-(target - previous))) 65535 = sum
      at given
    have given16 := Int32.toNat_u16 (a := sum) (by omega) (by omega)
    have second (height : UInt16) :=
      pixels_write (write heights focus target.u16) height place capacity
    have positive : ∀ height : UInt16, 0 < height.toNat → ∀ row < count,
        0 < (read (write (write heights focus target.u16) recipient height) row).toNat := by
      intro height some row used
      rw [read_write]
      split
      · exact some
      rw [read_write]
      split
      · omega
      · exact fair.positive row used
    rw [kept] at second
    -- The others have a pixel each, so what is released fits the recipient.
    have least := count_le_pixels capacity (positive 1 Nat.one_pos)
    have one : (1 : UInt16).toNat = 1 := rfl
    have all := second sum.u16
    have few := second 1
    refine ⟨⟨positive _ (by omega), by omega⟩, ?_, by omega⟩
    rw [read_write_other elsewhere, read_write_same (by omega)]
    exact target16

/-! ## The heights a column resolves to -/

theorem read_fill {capacity count row : Nat} (height : UInt16) (inUse : row < count)
    (inside : row < capacity) :
    read (Vector.ofFn fun place : Fin capacity => if place.val < count then height else 0) row =
      height := by
  rw [CountedArray.read, Vector.getElem?_ofFn, dif_pos inside]
  exact if_pos inUse

theorem resolved_fair {s : ScrollLayout COLUMNS WINDOWS} {i : Nat} (small : WINDOWS ≤ 32767)
    (sound : (s.column i).Sound) (normal : (s.column i).display ≠ .tabbed) :
    Fair (s.resolvedWindowHeights i) (s.column i).windowCount := by
  have capacity := sound.capacity
  have nonempty := sound.nonempty
  unfold resolvedWindowHeights
  dsimp only
  rw [if_neg normal]
  split
  case isTrue explicit =>
    rcases explicit with none | some
    · omega
    · exact Column.fair_of_uniform capacity (sound.heights small) nonempty some
  case isFalse equal =>
    generalize (s.column i).windowCount = count at capacity nonempty
    have exact : (Int32.ofNat count).toInt = count := Int32.toInt_ofNat_of_lt (by omega)
    have one : (1 : Int32).toInt = 1 := rfl
    have next := Int32.toInt_add_of_range exact one
    have gap := s.config.gaps.toNat_lt
    have product : (s.config.gaps.toNat : Int) * (count + 1) ≤ 65535 * 32768 :=
      Int.mul_le_mul (by omega) (by omega) (by omega) (by omega)
    have nonneg : 0 ≤ (s.config.gaps.toNat : Int) * (count + 1) :=
      Int.mul_nonneg (by omega) (by omega)
    have gaps := Int32.toInt_mul_of_range s.config.gaps.toInt_i32 next
    have available := s.availableHeight.toNat_lt
    have rest := Int32.toInt_sub_of_range s.availableHeight.toInt_i32 gaps
    generalize s.availableHeight.i32 - s.config.gaps.i32 * (Int32.ofNat count + 1) = space at rest
    have quotient := Int32.toInt_div_of_pos (a := space) (b := Int32.ofNat count) (by omega)
    have limit : (65535 : Int32).toInt = 65535 := rfl
    have clamped := clamp_i32 (x := space / Int32.ofNat count)
      (by decide : (1 : Int32).toInt ≤ (65535 : Int32).toInt)
    rw [quotient, exact] at clamped
    have height16 := Int32.toNat_u16 (a := clamp (space / Int32.ofNat count) 1 65535) (by omega)
      (by omega)
    generalize clamp (space / Int32.ofNat count) 1 65535 = height at clamped height16
    have filled : ∀ row < count, read (Vector.ofFn fun place : Fin WINDOWS =>
        if place.val < count then height.u16 else 0) row = height.u16 :=
      fun row inUse => read_fill height.u16 inUse (by omega)
    refine ⟨fun row inUse => ?_, ?_⟩
    · rw [filled row inUse]
      omega
    rw [pixels_const capacity filled]
    -- One pixel each, or the quotient times the divisor.
    rcases Int.le_total (space.toInt.tdiv count) 1 with low | high
    · have pixel : height.u16.toNat = 1 := by omega
      rw [pixel]
      omega
    have share : (count : Int) * space.toInt.tdiv count ≤ space.toInt := by
      have positive : 0 ≤ space.toInt := by
        by_contra negative
        have quotient := Int.tdiv_nonneg (a := -space.toInt) (b := count) (by omega) (by omega)
        rw [Int.neg_tdiv] at quotient
        omega
      exact Int.mul_tdiv_self_le positive
    have bound : (count * height.u16.toNat : Int) ≤ count * space.toInt.tdiv count :=
      Int.mul_le_mul_of_nonneg_left (by omega) (by omega)
    omega

/-! ## Columns with new heights -/

theorem one_le_maximum (height : UInt16) : (1 : UInt16).toNat ≤ (max height 1).toNat := by
  rw [UInt16.toNat_max]
  exact le_max_right _ _

/-- A single window with an explicit height. -/
theorem Column.sound_height (sound : column.Sound) (single : column.windowCount = 1)
    (positive : 0 < x.toNat) :
    Column.Sound { column with windowHeights := write column.windowHeights 0 x } := by
  have capacity := sound.capacity
  refine ⟨sound.nonempty, capacity, sound.focus, fun _ => Column.uniform_of_fair capacity ?_⟩
  rw [single]
  have bound := x.toNat_lt
  refine ⟨fun row inUse => ?_, ?_⟩
  · obtain rfl : row = 0 := by omega
    rwa [read_write_same (by omega)]
  · rw [pixels_append (by omega)]
    simp only [pixels, held_zero, List.map_nil, List.sum_nil]
    omega

theorem openedColumn_sound (s : ScrollLayout COLUMNS WINDOWS) (room : 0 < WINDOWS) (w : UInt32)
    (width height : Option ColumnWidth) (display : Option ColumnDisplay) :
    (s.openedColumn w width height display).Sound ∧
      (s.openedColumn w width height display).tiles = [w] := by
  unfold openedColumn
  generalize (width.getD s.config.defaultColumnWidth).resolve s.outputWidth s.config.gaps = pixels
  generalize display.getD s.config.defaultColumnDisplay = shown
  have single : (Column.single w pixels shown : Column WINDOWS).Sound :=
    Column.sound_single room pixels shown
  have tiles : (Column.single w pixels shown : Column WINDOWS).tiles = [w] :=
    Column.tiles_single room pixels shown
  dsimp only
  split
  case h_1 => exact ⟨single, tiles⟩
  case h_2 size _ =>
  split
  · exact ⟨single.of_same rfl rfl Nat.one_pos, tiles⟩
  have clamped := clamp_u16 (x := size.resolve s.availableHeight s.config.gaps)
    (one_le_maximum s.maximumSingle)
  have one : (1 : UInt16).toNat = 1 := rfl
  exact ⟨Column.sound_height single rfl (by omega), tiles⟩

/-- The `u32` sum of the heights does not saturate. -/
theorem toNat_explicitTotal (small : pixels column.windowHeights column.windowCount < 4294967296) :
    (explicitTotal column).toNat = pixels column.windowHeights column.windowCount := by
  have sums : ∀ (list : List UInt16) (start : UInt32),
      start.toNat + (list.map UInt16.toNat).sum < 4294967296 → (list.foldl (fun sum height =>
        UInt32.ofNat (min (sum.toNat + height.toNat) 4294967295)) start).toNat =
        start.toNat + (list.map UInt16.toNat).sum := by
    intro list
    induction list with
    | nil => exact fun _ _ => rfl
    | cons height rest ih =>
      intro start small
      rw [List.map_cons, List.sum_cons] at small ⊢
      have added : (UInt32.ofNat (min (start.toNat + height.toNat) 4294967295)).toNat =
          start.toNat + height.toNat := by
        rw [UInt32.toNat_ofNat']
        omega
      rw [List.foldl_cons, ih _ (by omega), added, Nat.add_assoc]
  exact (sums _ 0 (by rwa [UInt32.toNat_zero, Nat.zero_add])).trans (Nat.zero_add _)

/-- The room of `count` windows: what the gaps leave, and one pixel each at least. -/
theorem toNat_maximumTotal (available gaps : UInt16) (small : count ≤ 32767) :
    (max (available.saturatingSub (gaps.saturatingMul (UInt16.ofNat count + 1)))
      (UInt16.ofNat count)).toNat = max count (available.toNat - (count + 1) * gaps.toNat) := by
  have exact : (UInt16.ofNat count + 1).toNat = count + 1 := by
    have one : (1 : UInt16).toNat = 1 := rfl
    rw [UInt16.toNat_add, UInt16.toNat_ofNat']
    omega
  have bound := available.toNat_lt
  rw [UInt16.toNat_max, UInt16.toNat_saturatingSub, UInt16.saturatingMul, exact, Nat.mul_comm,
    UInt16.toNat_ofNat', UInt16.toNat_ofNat']
  generalize (count + 1) * gaps.toNat = product
  omega

/-- Explicit heights fitted into `available` pixels with the gaps: all positive, and scaled
down only as far as needed. -/
structure Fitted (available : Nat) (gaps : UInt16) (count : Nat)
    (heights heights' : Vector UInt16 WINDOWS) : Prop where
  positive : ∀ row < count, 0 < (read heights' row).toNat
  total : pixels heights' count =
    min (pixels heights count) (max count (available - (count + 1) * gaps.toNat))

/-- Explicit heights that are scaled down; only a column of more than 32767 windows panics. -/
theorem rescaled_fits (sound : column.Sound)
    (explicit : ¬ (column.windowCount = 0 ∨ read column.windowHeights 0 = 0)) (space : UInt16)
    (total : UInt32) :
    (rescaled column (max space (UInt16.ofNat column.windowCount)) total).Ends
      (fun state => WINDOWS ≤ 32767 → Fair state.1 column.windowCount ∧
        pixels state.1 column.windowCount = (max space (UInt16.ofNat column.windowCount)).toNat)
      fun _ => 32767 < WINDOWS := by
  have capacity := sound.capacity
  rcases lt_or_ge 32767 WINDOWS with large | small
  · exact .of_forall (fun _ small => absurd large (not_lt.mpr small)) fun _ => large
  have fair := Column.fair_of_uniform capacity (sound.heights small) sound.nonempty
    fun zero => explicit (.inr zero)
  refine (rescaled_ends small capacity fair ?_ sound.nonempty).imp (fun _ fair _ => fair)
    fun _ => False.elim
  rw [UInt16.toNat_max, UInt16.toNat_ofNat']
  omega

/-- Explicit heights are scaled down where they exceed the room. -/
theorem fitHeights_ends (sound : column.Sound) (available gaps : UInt16) :
    (fitHeights available gaps column).Ends
      (fun column' => column'.Sound ∧ column'.tiles = column.tiles ∧
        (WINDOWS ≤ 32767 → read column.windowHeights 0 ≠ 0 →
          Fitted available.toNat gaps column.windowCount column.windowHeights
            column'.windowHeights)) fun _ => 32767 < WINDOWS := by
  have capacity := sound.capacity
  unfold fitHeights
  split
  case isTrue unset =>
    refine ⟨sound, rfl, fun _ explicit => absurd unset (not_or.mpr ⟨?_, explicit⟩)⟩
    exact ne_of_gt sound.nonempty
  case isFalse explicit =>
  dsimp only
  have room (small : WINDOWS ≤ 32767) := toNat_maximumTotal available gaps
    (le_trans capacity small)
  have fair (small : WINDOWS ≤ 32767) := Column.fair_of_uniform capacity (sound.heights small)
    sound.nonempty fun zero => explicit (.inr zero)
  have sum (small : WINDOWS ≤ 32767) : (explicitTotal column).toNat =
      pixels column.windowHeights column.windowCount := by
    have total := (fair small).total
    exact toNat_explicitTotal (by omega)
  split
  case isTrue enough =>
    refine ⟨sound, rfl, fun small _ => ⟨(fair small).positive, ?_⟩⟩
    rw [UInt32.le_iff_toNat_le, UInt16.toNat_toUInt32, room small, sum small] at enough
    exact (Nat.min_eq_left enough).symm
  case isFalse exceeds =>
  refine (rescaled_fits sound explicit _ _).bind fun state fits => ?_
  refine ⟨⟨sound.nonempty, capacity, sound.focus,
    fun small => Column.uniform_of_fair capacity (fits small).1⟩, rfl, fun small _ =>
    ⟨(fits small).1.positive, ?_⟩⟩
  rw [UInt32.le_iff_toNat_le, UInt16.toNat_toUInt32, room small, sum small] at exceeds
  exact ((fits small).2.trans (room small)).trans (Nat.min_eq_right (Nat.le_of_not_le exceeds)).symm

/-- A column fitted under a taller strip keeps its windows.  The tabbed height is not among
the explicit heights. -/
theorem fitColumn_ends (sound : column.Sound) (available gaps single : UInt16) :
    (fitColumn available gaps single column).Ends
      (fun column' => column'.Sound ∧ column'.tiles = column.tiles ∧
        (WINDOWS ≤ 32767 → read column.windowHeights 0 ≠ 0 →
          Fitted available.toNat gaps column.windowCount column.windowHeights
            column'.windowHeights)) fun _ => 32767 < WINDOWS := by
  unfold fitColumn capTabbed
  split
  · have capped : Column.Sound { column with tabbedHeight := min column.tabbedHeight single } :=
      sound.of_same rfl rfl sound.focus
    exact fitHeights_ends capped available gaps
  · exact fitHeights_ends sound available gaps

end ScrollLayout

end SlopOS.Shell
