import Mathlib.Data.BitVec

/-!
# Fixed-width arithmetic as a release build computes it

The operators of `UInt16`, `UInt32` and `Int32` wrap, as Rust's do without overflow
checks.  The conversions, the saturating operations and `clamp` are defined here,
with their values as natural numbers or integers.
-/

/-- Where a Rust program stops without a result. -/
inductive Machine.Panic where
  | clamp
  | expect (message : String)
  deriving DecidableEq, Repr

namespace UInt16

def saturatingSub (a b : UInt16) : UInt16 := if a ≤ b then 0 else a - b

def saturatingMul (a b : UInt16) : UInt16 := UInt16.ofNat (min (a.toNat * b.toNat) 65535)

/-- `i32::from`. -/
def i32 (a : UInt16) : Int32 := Int32.ofNat a.toNat

@[simp] theorem toNat_saturatingSub (a b : UInt16) :
    (a.saturatingSub b).toNat = a.toNat - b.toNat := by
  unfold saturatingSub
  split
  case isTrue below =>
    exact (Nat.sub_eq_zero_of_le below).symm
  case isFalse above =>
    exact UInt16.toNat_sub_of_le a b (by rw [UInt16.le_iff_toNat_le] at above ⊢; omega)

theorem toInt_i32 (a : UInt16) : a.i32.toInt = a.toNat :=
  Int32.toInt_ofNat_of_lt (by have := a.toNat_lt; omega)

end UInt16

namespace Int32

def saturate (x : Int) : Int32 := Int32.ofInt (max (-2147483648) (min x 2147483647))

def saturatingAdd (a b : Int32) : Int32 := saturate (a.toInt + b.toInt)

def saturatingMul (a b : Int32) : Int32 := saturate (a.toInt * b.toInt)

/-- `as u16`. -/
def u16 (a : Int32) : UInt16 := UInt16.ofInt a.toInt

theorem bmod_of_range {x : Int} (low : -2147483648 ≤ x) (high : x < 2147483648) :
    x.bmod (2 ^ 32) = x := by
  apply Int.bmod_eq_of_le
  · omega
  · omega

variable {a b : Int32}

section

variable {m n : Int} (left : a.toInt = m) (right : b.toInt = n)
include left right

theorem toInt_add_of_range (low : -2147483648 ≤ m + n := by omega)
    (high : m + n < 2147483648 := by omega) : (a + b).toInt = m + n := by
  rw [Int32.toInt_add, left, right, bmod_of_range low high]

theorem toInt_sub_of_range (low : -2147483648 ≤ m - n := by omega)
    (high : m - n < 2147483648 := by omega) : (a - b).toInt = m - n := by
  rw [Int32.toInt_sub, left, right, bmod_of_range low high]

theorem toInt_mul_of_range (low : -2147483648 ≤ m * n := by omega)
    (high : m * n < 2147483648 := by omega) : (a * b).toInt = m * n := by
  rw [Int32.toInt_mul, left, right, bmod_of_range low high]

end

/-- A quotient by a positive number fits. -/
theorem toInt_div_of_pos (positive : 0 < b.toInt) : (a / b).toInt = a.toInt.tdiv b.toInt := by
  have low := a.le_toInt
  have high := a.toInt_lt
  have quotient : -2147483648 ≤ a.toInt.tdiv b.toInt ∧ a.toInt.tdiv b.toInt < 2147483648 := by
    rcases Int.le_total 0 a.toInt with nonneg | nonpos
    · have below := Int.tdiv_le_self b.toInt nonneg
      have above := Int.tdiv_nonneg nonneg (Int.le_of_lt positive)
      omega
    obtain ⟨k, negated⟩ : ∃ k : Int, a.toInt = -k := ⟨-a.toInt, by omega⟩
    have below := Int.tdiv_le_self (a := k) b.toInt (by omega)
    have above := Int.tdiv_nonneg (a := k) (by omega) (Int.le_of_lt positive)
    rw [negated, Int.neg_tdiv]
    omega
  rw [Int32.toInt_div, bmod_of_range quotient.1 quotient.2]

theorem toInt_neg_of_range (high : -2147483648 < a.toInt) : (-a).toInt = -a.toInt := by
  have low := a.toInt_lt
  rw [Int32.toInt_neg, bmod_of_range (by omega) (by omega)]

theorem toInt_saturate {x : Int} : (saturate x).toInt = max (-2147483648) (min x 2147483647) := by
  unfold saturate
  rw [Int32.toInt_ofInt_of_le]
  · omega
  · omega

theorem toInt_saturatingAdd :
    (a.saturatingAdd b).toInt = max (-2147483648) (min (a.toInt + b.toInt) 2147483647) :=
  toInt_saturate

theorem toNat_u16 (low : 0 ≤ a.toInt) (high : a.toInt < 65536) : (a.u16.toNat : Int) = a.toInt := by
  unfold u16 UInt16.ofInt
  rw [UInt16.toNat_ofNat']
  omega

@[simp] theorem u16_i32 (a : UInt16) : a.i32.u16 = a := by
  have bound := a.toNat_lt
  have value := toNat_u16 (a := a.i32) (by rw [UInt16.toInt_i32]; omega)
    (by rw [UInt16.toInt_i32]; omega)
  rw [UInt16.toInt_i32] at value
  exact UInt16.toNat_inj.mp (by omega)

theorem toInt_min : (min a b).toInt = min a.toInt b.toInt := by
  change (if a ≤ b then a else b).toInt = _
  split
  case isTrue below => rw [Int32.le_iff_toInt_le] at below; omega
  case isFalse above => rw [Int32.le_iff_toInt_le] at above; omega

end Int32

namespace Machine

/-- `Ord::clamp` where the bounds are known to be in order. -/
def clamp {α : Type} [LT α] [DecidableLT α] (x low high : α) : α :=
  if x < low then low else if high < x then high else x

/-- The value of a clamped number, read in a linear order. -/
theorem clamp_value {α β : Type} [LT α] [DecidableLT α] [LinearOrder β] {x low high : α}
    (value : α → β) (lt : ∀ {a b : α}, a < b ↔ value a < value b)
    (ordered : value low ≤ value high) :
    value (clamp x low high) = max (value low) (min (value x) (value high)) := by
  unfold clamp
  simp only [lt]
  split
  case isTrue below => rw [max_eq_left (min_le_of_left_le below.le)]
  case isFalse above =>
  split
  case isTrue beyond => rw [min_eq_right beyond.le, max_eq_right ordered]
  case isFalse inside => rw [min_eq_left (not_lt.mp inside), max_eq_right (not_lt.mp above)]

theorem clamp_i32 {x low high : Int32} (ordered : low.toInt ≤ high.toInt) :
    (clamp x low high).toInt = max low.toInt (min x.toInt high.toInt) :=
  clamp_value Int32.toInt Int32.lt_iff_toInt_lt ordered

theorem clamp_u16 {x low high : UInt16} (ordered : low.toNat ≤ high.toNat) :
    (clamp x low high).toNat = max low.toNat (min x.toNat high.toNat) :=
  clamp_value UInt16.toNat UInt16.lt_iff_toNat_lt ordered

theorem clamp_u32 {x low high : UInt32} (ordered : low.toNat ≤ high.toNat) :
    (clamp x low high).toNat = max low.toNat (min x.toNat high.toNat) :=
  clamp_value UInt32.toNat UInt32.lt_iff_toNat_lt ordered

/-- `Ord::clamp`, which panics on bounds that are not in order. -/
def checkedClamp {α : Type} [LT α] [DecidableLT α] (x low high : α) : Except Panic α :=
  if high < low then .error .clamp else .ok (clamp x low high)

theorem checkedClamp_i32 {x low high target : Int32}
    (clamped : checkedClamp x low high = .ok target) :
    low.toInt ≤ target.toInt ∧ target.toInt ≤ high.toInt := by
  unfold checkedClamp at clamped
  split at clamped
  case isTrue => cases clamped
  case isFalse ordered =>
  cases clamped
  rw [Int32.lt_iff_toInt_lt] at ordered
  rw [clamp_i32 (by omega)]
  omega

/-- `Option::expect`. -/
def expect {α : Type} (message : String) : Option α → Except Panic α
  | some a => .ok a
  | none => .error (.expect message)

end Machine
