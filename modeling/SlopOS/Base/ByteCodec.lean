import Mathlib.Data.List.Basic
import Mathlib.Tactic.Ring

/-!
# Byte strings with words at fixed offsets

Slices of a byte string, in-place overwriting, and words of a whole number of
bytes in either byte order.  Every lemma says what a read returns after a write:
the written word at the same place, the old bytes away from it.
-/

namespace ByteCodec

open List

abbrev Bytes := List (BitVec 8)

instance byte_lawful : LawfulBEq (BitVec 8) := inferInstance

/-! ## Slices -/

def slice (bytes : Bytes) (offset count : Nat) : Option Bytes :=
  if offset + count ≤ bytes.length then some ((bytes.drop offset).take count) else none

/-- `bytes` with `data` copied over it from `offset` on. -/
def splice (bytes : Bytes) (offset : Nat) (data : Bytes) : Bytes :=
  bytes.take offset ++ data ++ bytes.drop (offset + data.length)

section Splice

variable {bytes bytes' data found data' : Bytes} {offset count : Nat}

/-- Bytes that agree one by one have the same slices. -/
theorem take_drop_congr (same : ∀ i, offset ≤ i → i < offset + count → bytes'[i]? = bytes[i]?) :
    (bytes'.drop offset).take count = (bytes.drop offset).take count := by
  apply ext_getElem?
  intro i
  rw [getElem?_take, getElem?_take]
  split
  · rw [getElem?_drop, getElem?_drop, same _ (by omega) (by omega)]
  · rfl

theorem drop_congr (same : ∀ i, offset ≤ i → bytes'[i]? = bytes[i]?) :
    bytes'.drop offset = bytes.drop offset := by
  refine ext_getElem? fun i => ?_
  rw [getElem?_drop, getElem?_drop, same _ (by omega)]

theorem slice_eq_some_iff : slice bytes offset count = some found ↔
      offset + count ≤ bytes.length ∧ (bytes.drop offset).take count = found := by
  unfold slice
  split
  · simp [*]
  · simp [*]

theorem slice_length (read : slice bytes offset count = some found) : found.length = count := by
  obtain ⟨inside, rfl⟩ := slice_eq_some_iff.mp read
  simp only [length_take, length_drop]
  omega

section

variable (inside : offset + data.length ≤ bytes.length)
include inside

theorem splice_length : (splice bytes offset data).length = bytes.length := by
  simp only [splice, length_append, length_take, length_drop]
  omega

/-- The bytes of a spliced string, one by one. -/
theorem getElem?_splice (i : Nat) : (splice bytes offset data)[i]? =
      if offset ≤ i ∧ i < offset + data.length then data[i - offset]? else bytes[i]? := by
  have front : (bytes.take offset).length = offset := by
    rw [length_take]
    omega
  unfold splice
  rw [append_assoc, getElem?_append, front]
  by_cases before : i < offset
  · rw [if_pos before, if_neg (by omega), getElem?_take, if_pos before]
  rw [if_neg before, getElem?_append]
  by_cases within : i - offset < data.length
  · rw [if_pos within, if_pos (by omega)]
  · rw [if_neg within, if_neg (by omega), getElem?_drop]
    congr 1
    omega

theorem slice_splice_same : slice (splice bytes offset data) offset data.length = some data := by
  have front : (bytes.take offset).length = offset := by
    rw [length_take]
    omega
  refine slice_eq_some_iff.mpr ⟨by rw [splice_length inside]; exact inside, ?_⟩
  unfold splice
  rw [append_assoc, drop_append_of_le_length (le_of_eq front.symm),
    drop_of_length_le (le_of_eq front), nil_append, take_left]

/-- A slice away from the splice reads the old bytes. -/
theorem slice_splice_disjoint {at_ : Nat}
    (apart : at_ + count ≤ offset ∨ offset + data.length ≤ at_) :
    slice (splice bytes offset data) at_ count = slice bytes at_ count := by
  have same : ((splice bytes offset data).drop at_).take count = (bytes.drop at_).take count :=
    take_drop_congr fun i _ _ => by rw [getElem?_splice inside, if_neg (by omega)]
  unfold slice
  rw [splice_length inside, same]

theorem splice_splice (same : data'.length = data.length) :
    splice (splice bytes offset data) offset data' = splice bytes offset data' := by
  apply ext_getElem?
  intro i
  rw [getElem?_splice (by rw [splice_length inside]; omega), getElem?_splice inside,
    getElem?_splice (by omega)]
  split
  · rfl
  · rw [if_neg (by omega)]

theorem splice_comm {offset' : Nat} (inside' : offset' + data'.length ≤ bytes.length)
    (apart : offset + data.length ≤ offset' ∨ offset' + data'.length ≤ offset) :
    splice (splice bytes offset data) offset' data' =
      splice (splice bytes offset' data') offset data := by
  apply ext_getElem?
  intro i
  rw [getElem?_splice (by rw [splice_length inside]; omega), getElem?_splice inside,
    getElem?_splice (by rw [splice_length inside']; omega), getElem?_splice inside']
  split_ifs
  all_goals first | rfl | omega

end

/-- Writing back what is there changes nothing. -/
theorem splice_slice (read : slice bytes offset count = some data) :
    splice bytes offset data = bytes := by
  have length := slice_length read
  obtain ⟨inside, rfl⟩ := slice_eq_some_iff.mp read
  apply ext_getElem?
  intro i
  rw [getElem?_splice (by omega)]
  split
  · rw [getElem?_take, if_pos (by omega), getElem?_drop]
    congr 1
    omega
  · rfl

end Splice

/-! ## Words -/

def fromLE : Bytes → Nat
  | [] => 0
  | byte :: rest => byte.toNat + 256 * fromLE rest

def toLE : Nat → Nat → Bytes
  | 0, _ => []
  | width + 1, value => BitVec.ofNat 8 value :: toLE width (value / 256)

@[simp] theorem toLE_length (width value : Nat) : (toLE width value).length = width := by
  induction width generalizing value with
  | zero => rfl
  | succ width ih => rw [toLE, length_cons, ih]

theorem fromLE_lt (bytes : Bytes) : fromLE bytes < 256 ^ bytes.length := by
  induction bytes with
  | nil => decide
  | cons byte rest ih =>
    rw [fromLE, length_cons]
    omega

theorem fromLE_toLE (width value : Nat) : fromLE (toLE width value) = value % 256 ^ width := by
  induction width generalizing value with
  | zero => rw [pow_zero, Nat.mod_one]; rfl
  | succ width ih =>
    rw [toLE, fromLE, ih, BitVec.toNat_ofNat, pow_succ 256 width, Nat.mul_comm (256 ^ width),
      Nat.mod_mul]

theorem toLE_fromLE (bytes : Bytes) : toLE bytes.length (fromLE bytes) = bytes := by
  induction bytes with
  | nil => rfl
  | cons byte rest ih =>
    rw [fromLE, length_cons, toLE]
    congr 1
    · apply BitVec.eq_of_toNat_eq
      rw [BitVec.toNat_ofNat]
      omega
    · rw [show (byte.toNat + 256 * fromLE rest) / 256 = fromLE rest by omega, ih]

/-- The two byte orders. -/
inductive Order where
  | little
  | big
  deriving DecidableEq, Repr

def Order.arrange : Order → Bytes → Bytes
  | .little, bytes => bytes
  | .big, bytes => bytes.reverse

variable (order : Order) (bytes : Bytes)

@[simp] theorem Order.arrange_length : (order.arrange bytes).length = bytes.length := by
  cases order with
  | little => rfl
  | big => exact length_reverse

@[simp] theorem Order.arrange_arrange : order.arrange (order.arrange bytes) = bytes := by
  cases order with
  | little => rfl
  | big => exact reverse_reverse bytes

/-- The bytes of a word. -/
def encode (width : Nat) (value : BitVec (8 * width)) : Bytes :=
  order.arrange (toLE width value.toNat)

def decode (width : Nat) (bytes : Bytes) : BitVec (8 * width) :=
  BitVec.ofNat (8 * width) (fromLE (order.arrange bytes))

section Words

variable {order : Order} {width : Nat}

@[simp] theorem encode_length (value : BitVec (8 * width)) :
    (encode order width value).length = width := by
  rw [encode, Order.arrange_length, toLE_length]

@[simp] theorem decode_encode (value : BitVec (8 * width)) :
    decode order width (encode order width value) = value := by
  apply BitVec.eq_of_toNat_eq
  have bound := value.isLt
  rw [decode, encode, Order.arrange_arrange, fromLE_toLE, BitVec.toNat_ofNat]
  rw [Nat.pow_mul] at bound ⊢
  rw [Nat.mod_mod, Nat.mod_eq_of_lt bound]

theorem encode_decode {bytes : Bytes} (length : bytes.length = width) :
    encode order width (decode order width bytes) = bytes := by
  have bound := fromLE_lt (order.arrange bytes)
  rw [Order.arrange_length, length] at bound
  have whole : (decode order width bytes).toNat = fromLE (order.arrange bytes) := by
    rw [decode, BitVec.toNat_ofNat, Nat.pow_mul]
    exact Nat.mod_eq_of_lt bound
  have back := toLE_fromLE (order.arrange bytes)
  rw [Order.arrange_length, length] at back
  rw [encode, whole, back, Order.arrange_arrange]

section

variable (order : Order) (width : Nat) (bytes : Bytes) (offset : Nat)

/-- The word at `offset`, with missing bytes read as none. -/
def wordAt : BitVec (8 * width) :=
  decode order width ((bytes.drop offset).take width)

/-- The word at `offset`. -/
def readWord : Option (BitVec (8 * width)) :=
  (slice bytes offset width).map (decode order width)

/-- `bytes` with the word at `offset` replaced. -/
def writeWord (value : BitVec (8 * width)) : Bytes :=
  splice bytes offset (encode order width value)

end

variable {bytes : Bytes} {offset : Nat}

theorem readWord_eq (inside : offset + width ≤ bytes.length) :
    readWord order width bytes offset = some (wordAt order width bytes offset) := by
  unfold readWord slice
  rw [if_pos inside]
  rfl

section

variable (value : BitVec (8 * width)) (inside : offset + width ≤ bytes.length)
include inside

theorem writeWord_length : (writeWord order width bytes offset value).length = bytes.length :=
  splice_length (by rw [encode_length]; exact inside)

theorem readWord_writeWord :
    readWord order width (writeWord order width bytes offset value) offset = some value := by
  have read : slice (splice bytes offset (encode order width value)) offset
      (encode order width value).length = some (encode order width value) :=
    slice_splice_same (by rw [encode_length]; exact inside)
  rw [encode_length] at read
  rw [readWord, writeWord, read, Option.map_some, decode_encode]

/-- A slice away from a written word reads the old bytes. -/
theorem slice_writeWord {at_ count : Nat} (apart : at_ + count ≤ offset ∨ offset + width ≤ at_) :
    slice (writeWord order width bytes offset value) at_ count = slice bytes at_ count :=
  slice_splice_disjoint (by rw [encode_length]; exact inside) (by rw [encode_length]; exact apart)

theorem wordAt_writeWord :
    wordAt order width (writeWord order width bytes offset value) offset = value := by
  have read : readWord order width (writeWord order width bytes offset value) offset = some value :=
    readWord_writeWord value inside
  rw [readWord_eq (by rw [writeWord_length value inside]; exact inside)] at read
  exact Option.some.inj read

theorem take_drop_writeWord {at_ count : Nat} (bound : at_ + count ≤ bytes.length)
    (apart : at_ + count ≤ offset ∨ offset + width ≤ at_) :
    ((writeWord order width bytes offset value).drop at_).take count =
      (bytes.drop at_).take count := by
  have same : slice (writeWord order width bytes offset value) at_ count = slice bytes at_ count :=
    slice_writeWord value inside apart
  unfold slice at same
  rw [writeWord_length value inside, if_pos bound, if_pos bound] at same
  exact Option.some.inj same

end

/-- The bytes of the word that is there. -/
theorem slice_eq_encode (inside : offset + width ≤ bytes.length) :
    slice bytes offset width = some (encode order width (wordAt order width bytes offset)) := by
  have sliced : slice bytes offset width = some ((bytes.drop offset).take width) := if_pos inside
  rw [wordAt, encode_decode (slice_length sliced), sliced]

/-- Writing back the word that is there changes nothing. -/
theorem writeWord_wordAt (inside : offset + width ≤ bytes.length) :
    writeWord order width bytes offset (wordAt order width bytes offset) = bytes :=
  splice_slice (slice_eq_encode inside)

theorem writeWord_writeWord (value value' : BitVec (8 * width))
    (inside : offset + width ≤ bytes.length) :
    writeWord order width (writeWord order width bytes offset value) offset value' =
      writeWord order width bytes offset value' :=
  splice_splice (by rw [encode_length]; exact inside) (by rw [encode_length, encode_length])

end Words

/-! ## Stores one after another -/

/-- `bytes'` holds the data of every store and is `bytes` elsewhere. -/
structure Stored (stores : List (Nat × Bytes)) (bytes bytes' : Bytes) : Prop where
  length : bytes'.length = bytes.length
  data : ∀ store ∈ stores, slice bytes' store.1 store.2.length = some store.2
  frame : ∀ i, (∀ store ∈ stores, i < store.1 ∨ store.1 + store.2.length ≤ i) →
    bytes'[i]? = bytes[i]?

/-- Two stores that do not overlap. -/
def Apart (store store' : Nat × Bytes) : Prop :=
  store.1 + store.2.length ≤ store'.1 ∨ store'.1 + store'.2.length ≤ store.1

def storeAll (stores : List (Nat × Bytes)) : Bytes :=
  stores.foldl (fun bytes store => splice bytes store.1 store.2) bytes

section Stores

variable {stores : List (Nat × Bytes)} {bytes bytes' : Bytes} {offset count width : Nat}
  {order : Order}

section

variable (fits : ∀ store ∈ stores, store.1 + store.2.length ≤ bytes.length)
include fits

theorem storeAll_length : (storeAll bytes stores).length = bytes.length := by
  induction stores generalizing bytes with
  | nil => rfl
  | cons store stores ih =>
    have here := splice_length (fits store mem_cons_self)
    exact (ih fun later member => here.symm ▸ fits later (mem_cons_of_mem _ member)).trans here

theorem stored_storeAll (apart : stores.Pairwise Apart) :
    Stored stores bytes (storeAll bytes stores) := by
  induction stores generalizing bytes with
  | nil => exact ⟨rfl, nofun, fun _ _ => rfl⟩
  | cons store stores ih =>
    obtain ⟨others, apart⟩ := pairwise_cons.mp apart
    have here := fits store mem_cons_self
    obtain ⟨-, data, frame⟩ := @ih (splice bytes store.1 store.2)
      (fun later member => by
        rw [splice_length here]
        exact fits later (mem_cons_of_mem _ member)) apart
    have total := storeAll_length fits
    refine ⟨total, ?_, ?_⟩
    · intro other member
      rcases mem_cons.mp member with rfl | member
      · have inside : other.1 + other.2.length ≤ bytes.length := here
        refine slice_eq_some_iff.mpr ⟨total.symm ▸ inside, ?_⟩
        refine (take_drop_congr fun i after before => frame i fun later member => ?_).trans
          (slice_eq_some_iff.mp (slice_splice_same here)).2
        have away := others later member
        unfold Apart at away
        omega
      · exact data other member
    · intro i outside
      refine (frame i fun other member => outside other (mem_cons_of_mem _ member)).trans ?_
      have away := outside store mem_cons_self
      rw [getElem?_splice here, if_neg (by omega)]

end

/-- Stores of one width are apart when their offsets are. -/
theorem pairwise_apart (lengths : ∀ store ∈ stores, store.2.length = width)
    (apart : (stores.map Prod.fst).Pairwise fun a b => a + width ≤ b ∨ b + width ≤ a) :
    stores.Pairwise Apart := by
  refine (pairwise_map.mp apart).imp_of_mem fun first second away => ?_
  unfold Apart
  rwa [lengths _ first, lengths _ second]

namespace Stored

section

variable (stored : Stored stores bytes bytes')
include stored

theorem word {value : BitVec (8 * width)} (member : (offset, encode order width value) ∈ stores) :
    wordAt order width bytes' offset = value := by
  have read := (slice_eq_some_iff.mp (stored.data _ member)).2
  rw [encode_length] at read
  rw [wordAt, read, decode_encode]

theorem slice_kept
    (away : ∀ store ∈ stores, offset + count ≤ store.1 ∨ store.1 + store.2.length ≤ offset) :
    (bytes'.drop offset).take count = (bytes.drop offset).take count := by
  refine take_drop_congr fun i after before => stored.frame i fun store member => ?_
  have := away store member
  omega

theorem word_kept
    (away : ∀ store ∈ stores, offset + width ≤ store.1 ∨ store.1 + store.2.length ≤ offset) :
    wordAt order width bytes' offset = wordAt order width bytes offset := by
  rw [wordAt, stored.slice_kept away]
  rfl

/-- A byte is back after a second round of stores at the same places, if the second round
stores what was there. -/
theorem restored {stores' : List (Nat × Bytes)} {bytes'' : Bytes} {i : Nat}
    (again : Stored stores' bytes' bytes'')
    (places : ∀ store ∈ stores, ∃ store' ∈ stores', store'.1 = store.1 ∧
      store'.2.length = store.2.length)
    (held : ∀ store ∈ stores', store.1 ≤ i → i < store.1 + store.2.length →
      slice bytes store.1 store.2.length = some store.2) : bytes''[i]? = bytes[i]? := by
  by_cases away : ∀ store ∈ stores', i < store.1 ∨ store.1 + store.2.length ≤ i
  · rw [again.frame i away]
    refine stored.frame i fun store member => ?_
    obtain ⟨store', member', same, length⟩ := places store member
    rw [← same, ← length]
    exact away store' member'
  · obtain ⟨store, member, here⟩ : ∃ store ∈ stores',
        ¬ (i < store.1 ∨ store.1 + store.2.length ≤ i) := by simpa using away
    have old := (slice_eq_some_iff.mp (held store member (by omega) (by omega))).2
    have new := (slice_eq_some_iff.mp (again.data store member)).2
    have byte := congrArg (·[i - store.1]?) (new.trans old.symm)
    simp only [getElem?_take, getElem?_drop] at byte
    rwa [if_pos (by omega), if_pos (by omega), show store.1 + (i - store.1) = i by omega] at byte

end

end Stored

end Stores

end ByteCodec
