import Mathlib.Data.BitVec
import Mathlib.Data.List.GetD
import SlopOS.Base.ByteCodec

/-!
# Bitmaps

A byte string as a set of bits, the lowest bit of the first byte being bit 0.  Flipping a
bit moves the count of the clear bits by one, and flipping it back restores the bytes.
-/

/-! ## One bit of a word -/

namespace BitVec

theorem and_bit_ne_zero {width : Nat} (word : BitVec width) {position : Nat}
    (inside : position < width) :
    (word &&& BitVec.ofNat width 1 <<< position != 0) = word.getLsbD position := by
  rw [← BitVec.twoPow_eq, BitVec.and_twoPow]
  split
  case isTrue set =>
    have nonzero : BitVec.twoPow width position ≠ 0 := by
      intro zero
      have bit := congrArg (·.getLsbD position) zero
      simp [inside] at bit
    rw [set]
    simpa using nonzero
  case isFalse clear => simpa using clear

theorem getLsbD_assign {width : Nat} (word : BitVec width) (value : Bool) {position other : Nat}
    (inside : position < width) (otherInside : other < width) :
    (if value then word ||| BitVec.ofNat width 1 <<< position
      else word &&& ~~~(BitVec.ofNat width 1 <<< position)).getLsbD other =
      if other = position then value else word.getLsbD other := by
  rw [← BitVec.twoPow_eq]
  by_cases same : other = position
  · cases value <;> simp [same, inside]
  · cases value <;> simp [same, otherInside]

end BitVec

namespace Bitmap

open ByteCodec List

def bit (bytes : Bytes) (index : Nat) : Bool :=
  bytes.getD (index / 8) 0#8 &&& 1#8 <<< (index % 8) != 0

variable (bytes : Bytes) (index : Nat) (value : Bool)

/-- The byte string with one bit set or cleared. -/
def setBit : Bytes :=
  let byte := bytes.getD (index / 8) 0#8
  let mask := 1#8 <<< (index % 8)
  bytes.set (index / 8) (if value then byte ||| mask else byte &&& ~~~mask)

/-- How many of the first `count` bits are clear. -/
def clearBits (count : Nat) : Nat :=
  (List.range count).countP fun index => !bit bytes index

/-- How many clear bits the first `count` bits end with. -/
def trailingClear (count : Nat) : Nat :=
  ((List.range count).reverse.takeWhile fun index => !bit bytes index).length

/-- The byte strings differ in one bit, which has the value now. -/
structure Flipped (bytes bytes' : Bytes) (index : Nat) (value : Bool) : Prop where
  length : bytes'.length = bytes.length
  old : bit bytes index = !value
  bits : ∀ other, bit bytes' other = if other = index then value else bit bytes other

section Bits

variable {bytes bytes' : Bytes} {index count : Nat}

theorem bit_eq (bytes : Bytes) (index : Nat) :
    bit bytes index = (bytes.getD (index / 8) 0#8).getLsbD (index % 8) :=
  BitVec.and_bit_ne_zero _ (Nat.mod_lt _ (by decide))

theorem setBit_length : (setBit bytes index value).length = bytes.length :=
  length_set

theorem bit_setBit (inside : index / 8 < bytes.length) (other : Nat) :
    bit (setBit bytes index value) other = if other = index then value else bit bytes other := by
  have place (index : Nat) : index % 8 < 8 := Nat.mod_lt _ (by decide)
  rw [bit_eq, bit_eq]
  unfold setBit
  by_cases byte : other / 8 = index / 8
  · have here : (other = index) = (other % 8 = index % 8) := by
      rw [eq_iff_iff]
      omega
    rw [byte, getD_eq_getElem _ _ (by rwa [length_set]), getElem_set_self]
    simp only [here, BitVec.getLsbD_assign _ value (place index) (place other)]
  · rw [getD_eq_getElem?_getD, getElem?_set_ne (symm byte),
      ← getD_eq_getElem?_getD, if_neg fun same => byte (congrArg (· / 8) same)]

/-- Byte strings of one length with the same bits are the same. -/
theorem eq_of_bits (length : bytes.length = bytes'.length)
    (bits : ∀ index, bit bytes index = bit bytes' index) : bytes = bytes' := by
  refine ext_getElem length fun place inside inside' => ?_
  refine BitVec.eq_of_getLsbD_eq fun position below => ?_
  have same := bits (8 * place + position)
  rw [bit_eq, bit_eq, Nat.mul_add_div (by decide), Nat.div_eq_of_lt below, Nat.add_zero,
    Nat.mul_add_mod, Nat.mod_eq_of_lt below, getD_eq_getElem _ _ inside,
    getD_eq_getElem _ _ inside'] at same
  exact same

theorem setBit_setBit (value value' : Bool) (inside : index / 8 < bytes.length)
    (old : bit bytes index = value') : setBit (setBit bytes index value) index value' = bytes := by
  refine eq_of_bits (by rw [setBit_length, setBit_length]) fun other => ?_
  rw [bit_setBit _ (by rwa [setBit_length]), bit_setBit _ inside]
  split
  case isTrue same => rw [same, old]
  case isFalse => rfl

/-- Two predicates that differ at one number of a range only. -/
theorem countP_flip {p q : Nat → Bool} (inside : index < count) (here : p index = true)
    (gone : q index = false) (same : ∀ other, other ≠ index → p other = q other) :
    (range count).countP p = (range count).countP q + 1 := by
  induction count with
  | zero => cases inside
  | succ count ih =>
    rw [range_succ, countP_append, countP_append, countP_singleton, countP_singleton]
    by_cases last : index = count
    · obtain rfl := last
      have earlier : (range index).countP p = (range index).countP q := by
        refine countP_congr fun other member => ?_
        rw [same other (ne_of_lt (mem_range.mp member))]
      rw [earlier, here, gone]
      rfl
    · rw [same count (symm last)]
      omega

/-- The count of the clear bits after a bit was flipped. -/
theorem clearBits_setBit (inside : index / 8 < bytes.length) (below : index < count)
    (old : bit bytes index = !value) :
    if value then clearBits bytes count = clearBits (setBit bytes index value) count + 1
    else clearBits (setBit bytes index value) count = clearBits bytes count + 1 := by
  have bits := bit_setBit value inside
  cases value with
  | true =>
    refine countP_flip below (by rw [old]; rfl) (by rw [bits, if_pos rfl]; rfl) ?_
    intro other different
    rw [bits, if_neg different]
  | false =>
    refine countP_flip below (by rw [bits, if_pos rfl]; rfl) (by rw [old]; rfl) ?_
    intro other different
    rw [bits, if_neg different]

/-- The clear bits at the end, from the highest bit that is set. -/
theorem trailingClear_eq (bytes : Bytes) (count : Nat) : trailingClear bytes count =
    count - ((range count).reverse.find? (bit bytes)).elim 0 (· + 1) := by
  unfold trailingClear
  induction count with
  | zero => rfl
  | succ count ih =>
    rw [range_succ, reverse_append, reverse_singleton, singleton_append, takeWhile_cons, find?_cons]
    cases set : bit bytes count with
    | true => exact (Nat.sub_self _).symm
    | false =>
      have bound : ((range count).reverse.find? (bit bytes)).elim 0 (· + 1) ≤ count := by
        cases found : (range count).reverse.find? (bit bytes) with
        | none => exact Nat.zero_le _
        | some highest =>
          exact mem_range.mp (mem_reverse.mp (mem_of_find?_eq_some found))
      rw [Bool.not_false, if_pos rfl, length_cons, ih, Nat.sub_add_comm bound]

theorem clearBits_le (bytes : Bytes) (count : Nat) : clearBits bytes count ≤ count :=
  countP_le_length.trans_eq length_range

end Bits

end Bitmap
