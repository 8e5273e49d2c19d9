import SlopOS.Base.Machine

/-!
# Layout configuration

The data of `crates/shell/src/lib.rs` that the niri layout is configured with, its
defaults, and the sizes a configured width stands for (`ColumnWidth::resolve`).
-/

namespace SlopOS.Shell

open Machine

def DEFAULT_GAPS : UInt16 := 16
def DEFAULT_FOCUS_RING_WIDTH : UInt16 := 4
def DEFAULT_ACTIVE_COLOR : UInt32 := 0x7fc8ff
def DEFAULT_INACTIVE_COLOR : UInt32 := 0x505050
def DEFAULT_BORDER_COLOR : UInt32 := 0xffc87f
def DEFAULT_BACKGROUND_COLOR : UInt32 := 0x101426
def DEFAULT_SHADOW_SOFTNESS : UInt16 := 30
def DEFAULT_SHADOW_SPREAD : Int16 := 5
def MAX_PRESET_SIZES : Nat := 8

inductive CenterFocusedColumn where
  | never
  | always
  | onOverflow
  deriving DecidableEq, Repr

inductive ColumnDisplay where
  | normal
  | tabbed
  deriving DecidableEq, Repr

inductive ColumnWidth where
  | proportion (thousandths : UInt16)
  | fixed (width : UInt16)
  | client
  deriving DecidableEq, Repr

inductive ColumnWidthChange where
  | set (width : ColumnWidth)
  | adjustProportion (thousandths : Int16)
  | adjustFixed (pixels : Int32)
  deriving DecidableEq, Repr

/-! ## Sizes -/

def ColumnWidth.resolve (width : ColumnWidth) (viewSize gap : UInt16) : UInt16 :=
  match width with
  | .proportion thousandths =>
    let full := (viewSize.saturatingSub gap).toUInt32
    let share := full * thousandths.toUInt32 / 1000
    let rest := if share ≤ gap.toUInt32 then 0 else share - gap.toUInt32
    (clamp rest 1 65535).toUInt16
  | .fixed width => width
  | .client => viewSize / 2

/-- A list of at most eight sizes, in a fixed array. -/
structure PresetSizes where
  entries : Vector ColumnWidth MAX_PRESET_SIZES
  length : Nat
  bounded : length ≤ MAX_PRESET_SIZES
  deriving DecidableEq

inductive ConfigError where
  | missingLayout
  | unexpectedEnd
  | invalidNumber
  | invalidColor
  | invalidCenterPolicy
  | invalidColumnDisplay
  | invalidColumnWidth
  | invalidFocusRing
  | invalidShadow
  deriving DecidableEq, Repr

namespace PresetSizes

def empty : PresetSizes := ⟨Vector.replicate _ .client, 0, Nat.zero_le _⟩

def push (sizes : PresetSizes) (width : ColumnWidth) : Except ConfigError PresetSizes :=
  if full : sizes.length = MAX_PRESET_SIZES then
    .error .invalidColumnWidth
  else
    .ok ⟨sizes.entries.setIfInBounds sizes.length width, sizes.length + 1,
      Nat.lt_of_le_of_ne sizes.bounded full⟩

def defaults : PresetSizes :=
  ⟨#v[.proportion 333, .proportion 500, .proportion 667, .client, .client, .client, .client,
    .client], 3, by decide⟩

def isEmpty (sizes : PresetSizes) : Bool := sizes.length == 0

def get (sizes : PresetSizes) (index : Nat) : Option ColumnWidth :=
  sizes.entries[index]?.filter fun _ => index < sizes.length

theorem get_isSome {sizes : PresetSizes} {index : Nat} (inside : index < sizes.length) :
    ∃ width, sizes.get index = some width := by
  have stored : index < MAX_PRESET_SIZES := lt_of_lt_of_le inside sizes.bounded
  exact ⟨sizes.entries[index], by simp [get, stored, inside]⟩

end PresetSizes

/-- The preset after the one that resolves to `current`, or else the next larger or
smaller one. -/
def nextPresetIndex (presets : PresetSizes) (current viewSize gap : UInt16) (backwards : Bool) :
    Nat :=
  let length := presets.length
  let resolves (test : UInt16 → Bool) (index : Nat) : Bool :=
    (presets.get index).any fun size => test (size.resolve viewSize gap)
  match (List.range length).find? (resolves fun size => size == current) with
  | some index =>
    if backwards then (index + length - 1) % length else (index + 1) % length
  | none =>
    if backwards then
      ((List.range length).reverse.find? (resolves fun size => size < current)).getD (length - 1)
    else
      ((List.range length).find? (resolves fun size => size > current)).getD 0

theorem nextPresetIndex_lt {presets : PresetSizes} (present : presets.isEmpty = false)
    (current viewSize gap : UInt16) (backwards : Bool) :
    nextPresetIndex presets current viewSize gap backwards < presets.length := by
  have positive : 0 < presets.length := by
    rw [PresetSizes.isEmpty, beq_eq_false_iff_ne] at present
    omega
  unfold nextPresetIndex
  dsimp only
  generalize (List.range presets.length).find? _ = exact
  cases exact with
  | some index =>
    dsimp only
    split
    · exact Nat.mod_lt _ positive
    · exact Nat.mod_lt _ positive
  | none =>
    dsimp only
    split
    · cases found : (List.range presets.length).reverse.find? _ with
      | none => exact Nat.sub_lt positive Nat.one_pos
      | some index =>
        exact List.mem_range.mp (List.mem_reverse.mp (List.mem_of_find?_eq_some found))
    · cases found : (List.range presets.length).find? _ with
      | none => exact positive
      | some index => exact List.mem_range.mp (List.mem_of_find?_eq_some found)

/-! ## The configuration -/

structure FocusRing where
  enabled : Bool
  width : UInt16
  activeColor : UInt32
  inactiveColor : UInt32
  deriving DecidableEq, Repr

structure Border where
  enabled : Bool
  width : UInt16
  activeColor : UInt32
  inactiveColor : UInt32
  deriving DecidableEq, Repr

structure ShadowColor where
  rgb : UInt32
  opacity : UInt16
  deriving DecidableEq, Repr

structure Shadow where
  enabled : Bool
  offsetX : Int32
  offsetY : Int32
  softness : UInt16
  spread : Int16
  drawBehindWindow : Bool
  color : ShadowColor
  inactiveColor : Option ShadowColor
  deriving DecidableEq, Repr

structure LayoutConfig where
  gaps : UInt16
  centerFocusedColumn : CenterFocusedColumn
  alwaysCenterSingleColumn : Bool
  defaultColumnDisplay : ColumnDisplay
  defaultColumnWidth : ColumnWidth
  presetColumnWidths : PresetSizes
  presetWindowHeights : PresetSizes
  focusRing : FocusRing
  border : Border
  shadow : Shadow
  backgroundColor : UInt32
  deriving DecidableEq

/-- `LayoutConfig::default`. -/
def LayoutConfig.default : LayoutConfig where
  gaps := DEFAULT_GAPS
  centerFocusedColumn := .never
  alwaysCenterSingleColumn := false
  defaultColumnDisplay := .normal
  defaultColumnWidth := .proportion 500
  presetColumnWidths := .defaults
  presetWindowHeights := .defaults
  focusRing := ⟨true, DEFAULT_FOCUS_RING_WIDTH, DEFAULT_ACTIVE_COLOR, DEFAULT_INACTIVE_COLOR⟩
  border := ⟨false, DEFAULT_FOCUS_RING_WIDTH, DEFAULT_BORDER_COLOR, DEFAULT_INACTIVE_COLOR⟩
  shadow := ⟨false, 0, 5, DEFAULT_SHADOW_SOFTNESS, DEFAULT_SHADOW_SPREAD, false, ⟨0, 467⟩, none⟩
  backgroundColor := DEFAULT_BACKGROUND_COLOR

end SlopOS.Shell
