import SlopOS.Base.Fallible
import SlopOS.Desktop.WallpaperBanks

/-!
# PNG scanline filters

`unfilter_scanlines` of `crates/shell/src/png.rs` undoes the filters in place, byte by byte,
from the neighbours that are already reconstructed.  `filtered` is the filter of the PNG
specification, from the raw neighbours.  No index leaves the rows, so that a buffer is a
function.
-/

namespace SlopOS.Png

open Desktop (PngError)
open Function (update update_self update_of_ne)

/-- The `i32` values lie between -255 and 510. -/
def paeth (left up upperLeft : UInt8) : UInt8 :=
  let estimate : Int := left.toNat + up.toNat - upperLeft.toNat
  let leftDistance := (estimate - left.toNat).natAbs
  let upDistance := (estimate - up.toNat).natAbs
  let upperLeftDistance := (estimate - upperLeft.toNat).natAbs
  if leftDistance ≤ upDistance ∧ leftDistance ≤ upperLeftDistance then left
  else if upDistance ≤ upperLeftDistance then up else upperLeft

def predictor (filter left up upperLeft : UInt8) : Except PngError UInt8 :=
  match filter.toNat with
  | 0 => .ok 0
  | 1 => .ok left
  | 2 => .ok up
  | 3 => .ok ((left.toUInt16 + up.toUInt16) / 2).toUInt8
  | 4 => .ok (paeth left up upperLeft)
  | _ => .error .invalidFilter

/-- What the filter types 0 to 4 subtract from a byte, given the bytes to its left, above it
and above that. -/
def predicted (type left up upperLeft : UInt8) : UInt8 :=
  match type.toNat with
  | 0 => 0
  | 1 => left
  | 2 => up
  | 3 => UInt8.ofNat ((left.toNat + up.toNat) / 2)
  | _ => paeth left up upperLeft

/-- The sizes that the decoder passes; it has neither empty rows nor pixels of no bytes. -/
structure RowFormat where
  rowBytes : Nat
  bytesPerPixel : Nat
  wide : 0 < rowBytes
  pixel : 0 < bytesPerPixel

namespace RowFormat

section

variable (f : RowFormat)

def stride : Nat := f.rowBytes + 1

/-- The byte in front of `row` tells its filter type. -/
def filterByte (bytes : Nat → UInt8) (row : Nat) : UInt8 := bytes (row * f.stride)

/-- The bytes to the left of a byte, above it and above that; zero outside the image. -/
def neighbours (bytes : Nat → UInt8) (row column : Nat) : UInt8 × UInt8 × UInt8 :=
  let index := row * f.stride + 1 + column
  (if f.bytesPerPixel ≤ column then bytes (index - f.bytesPerPixel) else 0,
    if 0 < row then bytes (index - f.stride) else 0,
    if 0 < row ∧ f.bytesPerPixel ≤ column then bytes (index - f.stride - f.bytesPerPixel) else 0)

/-- One byte of `row`. -/
def unfilterByte (row : Nat) (filter : UInt8) (bytes : Nat → UInt8) (column : Nat) :
    Except PngError (Nat → UInt8) := do
  let index := row * f.stride + 1 + column
  let (left, up, upperLeft) := f.neighbours bytes row column
  let predictor ← predictor filter left up upperLeft
  return update bytes index (bytes index + predictor)

def unfilterRow (bytes : Nat → UInt8) (row : Nat) : Except PngError (Nat → UInt8) :=
  (List.range f.rowBytes).foldlM (f.unfilterByte row (f.filterByte bytes row)) bytes

def unfilterScanlines (bytes : Nat → UInt8) (height : Nat) : Except PngError (Nat → UInt8) :=
  (List.range height).foldlM f.unfilterRow bytes

variable (raw : Nat → UInt8)

/-- The filtered scanlines.  The filter bytes stay. -/
def filtered (index : Nat) : UInt8 :=
  let row := index / f.stride
  let (left, up, upperLeft) := f.neighbours raw row (index % f.stride - 1)
  if index % f.stride = 0 then raw index
  else raw index - predicted (f.filterByte raw row) left up upperLeft

/-- The buffer once everything before `done` is reconstructed. -/
def partway (done index : Nat) : UInt8 := if index < done then raw index else f.filtered raw index

end

variable {f : RowFormat} {height row column done index : Nat} {raw bytes : Nat → UInt8}
  {filter left up upperLeft : UInt8}

theorem predictor_valid (valid : filter ≤ 4) :
    predictor filter left up upperLeft = .ok (predicted filter left up upperLeft) := by
  have few : filter.toNat ≤ 4 := valid
  unfold predictor predicted
  generalize filter.toNat = type at few
  match type with
  | 0 | 1 | 2 | 4 => rfl
  | 3 =>
    refine congrArg Except.ok (UInt8.toNat_inj.mp ?_)
    simp [UInt16.toNat_add]
    omega

theorem predictor_invalid (invalid : 4 < filter) :
    predictor filter left up upperLeft = .error .invalidFilter := by
  have many : 4 < filter.toNat := invalid
  unfold predictor
  generalize filter.toNat = type at many
  match type with
  | _ + 5 => rfl

theorem partway_succ :
    update (f.partway raw index) index (raw index) = f.partway raw (index + 1) := by
  funext k
  unfold partway
  rcases eq_or_ne k index with rfl | other
  · rw [update_self, if_pos (Nat.lt_succ_self _)]
  · rw [update_of_ne other]
    exact if_congr (by omega) rfl rfl

/-- A filter byte is the same in both. -/
theorem partway_filter : f.partway raw (row * f.stride) = f.partway raw (row * f.stride + 1) := by
  funext index
  unfold partway
  rcases eq_or_ne index (row * f.stride) with rfl | other
  · rw [if_neg (Nat.lt_irrefl _), if_pos (Nat.lt_succ_self _)]
    exact if_pos (Nat.mul_mod_left _ _)
  · exact if_congr (by omega) rfl rfl

theorem place_mod (inside : column < f.rowBytes) :
    (row * f.stride + 1 + column) % f.stride = 1 + column := by
  rw [Nat.add_assoc, Nat.mul_comm, Nat.mul_add_mod, Nat.mod_eq_of_lt (by rw [stride]; omega)]

/-- One byte is reconstructed from neighbours that are. -/
theorem unfilterByte_partway (inside : column < f.rowBytes) (valid : f.filterByte raw row ≤ 4)
    (here : index = row * f.stride + 1 + column) :
    f.unfilterByte row (f.filterByte raw row) (f.partway raw index) column =
      .ok (f.partway raw (index + 1)) := by
  have pixel := f.pixel
  have stride : f.stride = f.rowBytes + 1 := rfl
  have modulo : index % f.stride = 1 + column := here ▸ place_mod inside
  have quotient : index / f.stride = row := by
    rw [here, Nat.add_assoc, Nat.mul_comm, Nat.mul_add_div (by omega),
      Nat.div_eq_of_lt (by omega), Nat.add_zero]
  have current : f.filtered raw index = _ := if_neg (by omega)
  have earlier : ∀ {k}, k < index → f.partway raw index k = raw k := fun before => if_pos before
  have same : f.neighbours (f.partway raw index) row column = f.neighbours raw row column :=
    congrArg₂ Prod.mk (ite_congr rfl (fun _ => earlier (by omega)) fun _ => rfl)
      (congrArg₂ Prod.mk (ite_congr rfl (fun _ => earlier (by omega)) fun _ => rfl)
        (ite_congr rfl (fun _ => earlier (by omega)) fun _ => rfl))
  unfold unfilterByte
  dsimp only
  rw [same, predictor_valid valid, ← here]
  refine congrArg Except.ok (Eq.trans (congrArg _ ?_) partway_succ)
  rw [partway, if_neg (Nat.lt_irrefl _), current, quotient, modulo, Nat.add_sub_cancel_left]
  exact UInt8.sub_add_cancel _ _

theorem unfilterRow_partway (valid : f.filterByte raw row ≤ 4) :
    f.unfilterRow (f.partway raw (row * f.stride)) row =
      .ok (f.partway raw ((row + 1) * f.stride)) := by
  have next : (row + 1) * f.stride = row * f.stride + 1 + f.rowBytes := by
    rw [Nat.succ_mul, stride]
    omega
  have filter : f.filterByte (f.partway raw (row * f.stride)) row = f.filterByte raw row := by
    rw [partway_filter]
    exact if_pos (Nat.lt_succ_self _)
  unfold unfilterRow
  rw [filter, partway_filter, next]
  exact Except.foldlM_range_ok (g := fun column => f.partway raw (row * f.stride + 1 + column))
    fun column inside => unfilterByte_partway inside valid rfl

/-- A row that is accepted has a filter type of the specification, and no filter byte is
written. -/
theorem unfilterRow_filter (k : Nat) : (f.unfilterRow bytes row).Ends
    (fun bytes' => f.filterByte bytes' k = f.filterByte bytes k ∧ f.filterByte bytes row ≤ 4)
    (· = .invalidFilter) := by
  have wide := f.wide
  refine (Except.Ends.foldlM_range (p := fun done bytes' =>
    f.filterByte bytes' k = f.filterByte bytes k ∧ (0 < done → f.filterByte bytes row ≤ 4))
    ⟨rfl, nofun⟩ fun column inside bytes' kept => ?_).imp (fun _ kept => ⟨kept.1, kept.2 wide⟩)
    fun _ => id
  unfold unfilterByte
  dsimp only
  by_cases valid : f.filterByte bytes row ≤ 4
  · rw [predictor_valid valid]
    have elsewhere : row * f.stride + 1 + column ≠ k * f.stride := by
      intro same
      have modulo : (row * f.stride + 1 + column) % f.stride = 1 + column := place_mod inside
      rw [same, Nat.mul_mod_left] at modulo
      omega
    refine ⟨Eq.trans ?_ kept.1, fun _ => valid⟩
    exact update_of_ne elsewhere.symm _ _
  · rw [predictor_invalid (UInt8.not_le.mp valid)]
    rfl

/-- Unfiltering gives back the scanlines that were filtered, and a filter byte above 4 is
refused. -/
theorem unfilter_inverts_filter (f : RowFormat) (height : Nat) (raw : Nat → UInt8) :
    ((∀ row < height, f.filterByte raw row ≤ 4) →
      ∃ bytes, f.unfilterScanlines (f.filtered raw) height = .ok bytes ∧
        ∀ index < height * f.stride, bytes index = raw index) ∧
    ((∃ row < height, 4 < f.filterByte raw row) →
      f.unfilterScanlines raw height = .error .invalidFilter) := by
  constructor
  · intro valid
    have first : f.filtered raw = f.partway raw (0 * f.stride) :=
      funext fun index => (if_neg (by omega)).symm
    rw [first]
    exact ⟨_, Except.foldlM_range_ok
      fun row below => unfilterRow_partway (valid row below), fun index inside => if_pos inside⟩
  · rintro ⟨row, below, invalid⟩
    have ends : (f.unfilterScanlines raw height).Ends (fun _ => f.filterByte raw row ≤ 4)
        (· = .invalidFilter) := by
      refine (Except.Ends.foldlM_range (p := fun done bytes =>
        f.filterByte bytes row = f.filterByte raw row ∧ (row < done → f.filterByte raw row ≤ 4))
        ⟨rfl, nofun⟩ fun done _ bytes kept => ?_).imp (fun _ kept => kept.2 below) fun _ => id
      refine (unfilterRow_filter row).imp (fun bytes' after => ⟨after.1.trans kept.1, fun _ => ?_⟩)
        fun _ => id
      rcases eq_or_ne row done with rfl | other
      · exact kept.1 ▸ after.2
      · exact kept.2 (by omega)
    cases result : f.unfilterScanlines raw height with
    | error e =>
      rw [result] at ends
      exact congrArg Except.error ends
    | ok bytes => exact absurd (ends.of_eq_ok result) (UInt8.not_le.mpr invalid)

end RowFormat

end SlopOS.Png
