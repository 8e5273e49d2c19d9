import SlopOS.Base.Bitmap
import SlopOS.Ext4.Inode

/-!
# Allocation of blocks and inodes

A bitmap and the descriptor of its group change together: one bit, the counts that follow
from it and the checksums of both.  The stores are made in place, one after another, so a
store that does not fit leaves those before it behind.
-/

namespace SlopOS.Ext4

open ByteCodec Bitmap List

def FEATURE_READ_ONLY_COMPAT_BIGALLOC : BitVec 32 := 0x0200#32
def GROUP_FLAG_INODE_UNINITIALIZED : BitVec 16 := 0x0001#16
def GROUP_FLAG_BLOCK_UNINITIALIZED : BitVec 16 := 0x0002#16

/-- `write_u16` into a buffer that the caller keeps, whatever the result. -/
def storeU16 (offset : Nat) (value : BitVec 16) : EStateM ParseError Bytes Unit := fun bytes =>
  match writeU16 bytes offset value with
  | .ok stored => .ok () stored
  | .error e => .error e bytes

def storeWords : List (Nat × BitVec 16) → EStateM ParseError Bytes Unit
  | [] => pure ()
  | word :: words => storeU16 word.1 word.2 >>= fun _ => storeWords words

def refreshGroupDescriptorChecksum (groupIndex : BitVec 32) (s : Superblock) :
    EStateM ParseError Bytes Unit := fun descriptor =>
  if s.hasMetadataChecksums then
    if descriptor.length < 32 then .error .truncated descriptor
    else (storeU16 30 0#16 >>= fun _ => do
      let zeroed ← get
      let checksum := crc32c (crc32c s.checksumSeed (leBytes32 groupIndex)) zeroed
      storeU16 30 (checksum.setWidth 16)) descriptor
  else .ok () descriptor

/-- A 32-bit field whose halves are stored apart. -/
structure SplitField where
  low : Nat
  high : Nat
  value : BitVec 32

def SplitField.words (f : SplitField) : List (Nat × BitVec 16) :=
  [(f.low, f.value.setWidth 16), (f.high, (f.value >>> 16).setWidth 16)]

/-- What the functions for blocks and for inodes do not have in common: the bytes of the
bitmap, the flag of a group without one, where its checksum is stored, the numbers of the
group, the error for a number outside it, and the counts that are stored and compared. -/
structure GroupBits where
  size : Nat
  uninitialized : BitVec 16
  low : Nat
  high : Nat
  overflows : Bool
  first : Nat
  count : Nat
  outside : ParseError
  free : GroupDescriptor → BitVec 32
  counts : Bytes → BitVec 32 → List SplitField
  accepts : Bytes → BitVec 32 → GroupDescriptor → Bool

structure GroupBuffers where
  bitmap : Bytes
  descriptor : Bytes
  deriving DecidableEq

def bitmapIntact (g : GroupBits) (s : Superblock) (bitmap descriptor : Bytes) :
    Except ParseError Bool :=
  if s.hasMetadataChecksums then do
    let low ← readU16 descriptor g.low
    let high ← readU16 descriptor g.high
    return joinHalves16 low high == crc32c s.checksumSeed (bitmap.take g.size)
  else .ok true

/-- One less, or one more up to the size of the group. -/
def adjustCount (allocated : Bool) (count : BitVec 32) (limit : Nat) :
    Except ParseError (BitVec 32) :=
  if allocated then if count = 0#32 then throw .invalidGeometry else .ok (count - 1#32)
  else if count.toNat + 1 < 2 ^ 32 ∧ count.toNat + 1 ≤ limit then .ok (count + 1#32)
  else throw .invalidGeometry

/-- All that happens before the first store: the bit to be flipped and the new count. -/
def planAllocation (g : GroupBits) (groupIndex : BitVec 32) (number : Nat) (allocated : Bool)
    (s : Superblock) (buffers : GroupBuffers) : Except ParseError (Nat × BitVec 32) :=
  if buffers.descriptor.length < s.descriptorSize.toNat ∨ buffers.bitmap.length < g.size then
    throw .truncated
  else do
    let descriptor ← GroupDescriptor.parse buffers.descriptor groupIndex s
    let bytes := buffers.descriptor.take s.descriptorSize.toNat
    let flags ← readU16 bytes 18
    if flags &&& g.uninitialized ≠ 0#16 then throw .unsupportedFeature
    else
      let intact ← bitmapIntact g s buffers.bitmap bytes
      if intact = false then throw .invalidChecksum
      else if g.overflows then throw .invalidGeometry
      else if number < g.first ∨ g.count ≤ number - g.first then throw g.outside
      else if bit buffers.bitmap (number - g.first) = allocated then throw .invalidGeometry
      else
        let free ← adjustCount allocated (g.free descriptor) g.count
        return (number - g.first, free)

/-- The fields stored with a new bitmap and a new count. -/
def GroupBits.fields (g : GroupBits) (s : Superblock) (bitmap : Bytes) (free : BitVec 32) :
    List SplitField :=
  g.counts bitmap free ++ if s.hasMetadataChecksums then
    [⟨g.low, g.high, crc32c s.checksumSeed (bitmap.take g.size)⟩] else []

section

variable (groupIndex : BitVec 32) (s : Superblock) (fields : List SplitField)

def storeFields : EStateM ParseError Bytes Unit := do
  storeWords (fields.flatMap SplitField.words)
  refreshGroupDescriptorChecksum groupIndex s

/-- The descriptor is parsed again after the stores. -/
def storeDescriptor (accepts : GroupDescriptor → Bool) : EStateM ParseError Bytes Unit :=
  storeFields groupIndex s fields >>= fun _ descriptor =>
    match GroupDescriptor.parse descriptor groupIndex s with
    | .error e => .error e descriptor
    | .ok updated =>
      if accepts updated then .ok () descriptor else .error .invalidGeometry descriptor

end

/-- The body of both functions. -/
def setAllocation (g : GroupBits) (groupIndex : BitVec 32) (number : Nat) (allocated : Bool)
    (s : Superblock) : EStateM ParseError GroupBuffers Unit := fun buffers =>
  match planAllocation g groupIndex number allocated s buffers with
  | .error e => .error e buffers
  | .ok (index, free) =>
    let bitmap := setBit buffers.bitmap index allocated
    let rest := buffers.descriptor.drop s.descriptorSize.toNat
    match storeDescriptor groupIndex s (g.fields s bitmap free) (g.accepts bitmap free)
        (buffers.descriptor.take s.descriptorSize.toNat) with
    | .error e descriptor => .error e ⟨bitmap, descriptor ++ rest⟩
    | .ok _ descriptor => .ok () ⟨bitmap, descriptor ++ rest⟩

/-! ## Blocks -/

section

variable (s : Superblock) (groupIndex : BitVec 32)

/-- The first block of a group; a 32-bit number and the product of two fit 64 bits. -/
def Superblock.groupFirst : Nat :=
  s.firstDataBlock.toNat + groupIndex.toNat * s.blocksPerGroup.toNat

def Superblock.groupBlocks : Nat :=
  min (s.blockCount.toNat - s.groupFirst groupIndex) s.blocksPerGroup.toNat

def Superblock.blockBits : GroupBits where
  size := s.blocksPerGroup.toNat / 8
  uninitialized := GROUP_FLAG_BLOCK_UNINITIALIZED
  low := 24
  high := 56
  overflows := false
  first := s.groupFirst groupIndex
  count := s.groupBlocks groupIndex
  outside := .invalidGeometry
  free := GroupDescriptor.freeBlockCount
  counts _ free := [⟨12, 44, free⟩]
  accepts _ free updated := updated.freeBlockCount = free

end

def setBlockAllocation (groupIndex : BitVec 32) (physicalBlock : BitVec 64) (allocated : Bool)
    (s : Superblock) : EStateM ParseError GroupBuffers Unit := fun buffers =>
  if s.featureReadOnlyCompat &&& FEATURE_READ_ONLY_COMPAT_BIGALLOC ≠ 0#32 ∨
      s.blocksPerGroup.toNat % 8 ≠ 0 then .error .unsupportedFeature buffers
  else
    setAllocation (s.blockBits groupIndex) groupIndex physicalBlock.toNat allocated s buffers

/-! ## Inodes -/

def Superblock.groupInodeCount (s : Superblock) (groupIndex : BitVec 32) : Nat :=
  min (s.inodeCount.toNat - groupIndex.toNat * s.inodesPerGroup.toNat) s.inodesPerGroup.toNat

/-- The inodes after the last one in use, found by a scan from the end of the group. -/
def unusedInodes (bitmap : Bytes) (groupInodeCount : Nat) : Nat :=
  let highestAllocated := (List.range groupInodeCount).reverse.find? (bit bitmap)
  groupInodeCount - highestAllocated.elim 0 (· + 1)

def Superblock.inodeBits (s : Superblock) (groupIndex : BitVec 32) : GroupBits where
  size := s.inodesPerGroup.toNat / 8
  uninitialized := GROUP_FLAG_INODE_UNINITIALIZED
  low := 26
  high := 58
  overflows := 2 ^ 32 ≤ groupIndex.toNat * s.inodesPerGroup.toNat + 1
  first := groupIndex.toNat * s.inodesPerGroup.toNat + 1
  count := s.groupInodeCount groupIndex
  outside := .invalidInode
  free := GroupDescriptor.freeInodeCount
  counts bitmap free :=
    [⟨14, 46, free⟩, ⟨28, 50, BitVec.ofNat 32 (unusedInodes bitmap (s.groupInodeCount groupIndex))⟩]
  accepts bitmap free updated := updated.freeInodeCount = free ∧
    updated.unusedInodeCount.toNat = unusedInodes bitmap (s.groupInodeCount groupIndex)

def setInodeAllocation (groupIndex inodeNumber : BitVec 32) (allocated : Bool) (s : Superblock) :
    EStateM ParseError GroupBuffers Unit := fun buffers =>
  if s.inodesPerGroup.toNat % 8 ≠ 0 then .error .unsupportedFeature buffers
  else setAllocation (s.inodeBits groupIndex) groupIndex inodeNumber.toNat allocated s buffers

/-! ## The halves of a field -/

theorem joinHalves16_eq_iff {low high : BitVec 16} {value : BitVec 32} :
    joinHalves16 low high = value ↔
      low = value.setWidth 16 ∧ high = (value >>> 16).setWidth 16 := by
  unfold joinHalves16
  constructor
  · rintro rfl
    constructor
    · ext i inside
      simp
    · ext i inside
      have fits : 16 + i < 32 ∧ i < 32 := by omega
      simp [inside, fits]
  · rintro ⟨rfl, rfl⟩
    ext i inside
    by_cases half : i < 16
    · simp [half, inside]
    · have place : 16 + (i - 16) = i ∧ i - 16 < 16 := by omega
      simp [half, inside, place]

/-! ## The stores into a descriptor -/

/-- The bytes that a stored word takes. -/
def asStore (word : Nat × BitVec 16) : Nat × Bytes := (word.1, encode .little 2 word.2)

section

variable (groupIndex : BitVec 32) (s : Superblock) (fields : List SplitField)

/-- The words of a list of fields, and the checksum of the descriptor that holds them. -/
def updates (bytes : Bytes) : List (Nat × BitVec 16) :=
  fields.flatMap SplitField.words ++
    if s.hasMetadataChecksums then [(30, groupDescriptorChecksum bytes groupIndex s)] else []

/-- The descriptor holds the fields and its checksum, and nothing else changed. -/
def Updated (bytes bytes' : Bytes) : Prop :=
  Stored ((updates groupIndex s fields bytes').map asStore) bytes bytes'

end

/-- The words a list of fields takes, with that of the descriptor's checksum. -/
def fieldOffsets (fields : List SplitField) : List Nat :=
  (fields.flatMap fun f => [f.low, f.high]) ++ [30]

section Stores

variable {bytes bytes' : Bytes} {groupIndex : BitVec 32} {s : Superblock}
  {fields fields' : List SplitField} {store : Nat × Bytes}

/-- A step that succeeds hands its value and its buffer on. -/
theorem step_bind {α β : Type} {step : EStateM ParseError Bytes α} {bytes' : Bytes} {value : α}
    (done : step bytes = .ok value bytes') (next : α → EStateM ParseError Bytes β) :
    (step >>= next) bytes = next value bytes' := by
  show EStateM.bind _ _ bytes = _
  unfold EStateM.bind
  rw [done]

theorem storeU16_eq {offset : Nat} {value : BitVec 16} (inside : offset + 2 ≤ bytes.length) :
    storeU16 offset value bytes = .ok () (setU16 bytes offset value) := by
  unfold storeU16
  rw [writeU16_eq inside]

theorem storeWords_eq {words : List (Nat × BitVec 16)}
    (fits : ∀ word ∈ words, word.1 + 2 ≤ bytes.length) :
    storeWords words bytes = .ok () (storeAll bytes (words.map asStore)) := by
  induction words generalizing bytes with
  | nil => rfl
  | cons word words ih =>
    have here := fits word mem_cons_self
    unfold storeWords
    rw [step_bind (storeU16_eq here)]
    exact ih fun other member => by
      rw [setU16_length _ here]
      exact fits other (mem_cons_of_mem _ member)

/-- The checksum of a descriptor does not depend on the word that stores it. -/
theorem groupDescriptorChecksum_congr (same : ∀ i, i < 30 ∨ 32 ≤ i → bytes'[i]? = bytes[i]?) :
    groupDescriptorChecksum bytes' groupIndex s = groupDescriptorChecksum bytes groupIndex s := by
  have start : bytes'.take 30 = bytes.take 30 :=
    @take_drop_congr bytes bytes' 0 30 fun i _ before => same i (by omega)
  have rest : bytes'.drop 32 = bytes.drop 32 := drop_congr fun i after => same i (.inr after)
  unfold groupDescriptorChecksum
  rw [start, rest]

/-- Zeroing the word and running over all bytes is what the parser computes in pieces. -/
theorem groupDescriptorChecksum_eq : groupDescriptorChecksum bytes groupIndex s =
    (crc32c (crc32c s.checksumSeed (leBytes32 groupIndex)) (setU16 bytes 30 0#16)).setWidth 16 := by
  unfold setU16 writeWord splice
  rw [crc32c_append, crc32c_append]
  rfl

/-- The refresh stores the checksum of all other bytes. -/
theorem refresh_eq (long : 32 ≤ bytes.length) : refreshGroupDescriptorChecksum groupIndex s bytes =
      .ok () (storeAll bytes ((updates groupIndex s [] bytes).map asStore)) := by
  unfold refreshGroupDescriptorChecksum updates
  split
  · rw [if_neg (by omega)]
    rw [step_bind (storeU16_eq long)]
    refine (storeU16_eq (by rw [setU16_length _ long]; exact long)).trans ?_
    rw [groupDescriptorChecksum_eq]
    exact congrArg (EStateM.Result.ok ()) (splice_splice (by simpa using long) (by simp))
  · rfl

theorem updates_offsets (bytes : Bytes) :
    ((updates groupIndex s fields bytes).map asStore).map Prod.fst =
      (fields.flatMap fun f => [f.low, f.high]) ++ if s.hasMetadataChecksums then [30] else [] := by
  unfold updates
  rw [map_map, map_append, map_flatMap]
  congr 1
  split
  · rfl
  · rfl

theorem updates_sublist (bytes : Bytes) :
    Sublist (((updates groupIndex s fields bytes).map asStore).map Prod.fst)
      (fieldOffsets fields) := by
  rw [updates_offsets]
  refine Sublist.append (Sublist.refl _) ?_
  split
  · exact Sublist.refl _
  · exact nil_sublist _

theorem updates_length (member : store ∈ (updates groupIndex s fields bytes).map asStore) :
    store.2.length = 2 := by
  obtain ⟨word, -, rfl⟩ := mem_map.mp member
  exact @encode_length .little 2 word.2

theorem updates_congr (same : ∀ i, i < 30 ∨ 32 ≤ i → bytes'[i]? = bytes[i]?) :
    updates groupIndex s fields bytes' = updates groupIndex s fields bytes := by
  unfold updates
  rw [groupDescriptorChecksum_congr same]

theorem storeFields_ok (groupIndex : BitVec 32) (s : Superblock)
    (fits : ∀ offset ∈ fieldOffsets fields, offset + 2 ≤ bytes.length)
    (apart : (fieldOffsets fields).Pairwise fun a b => a + 2 ≤ b ∨ b + 2 ≤ a) :
    ∃ bytes', storeFields groupIndex s fields bytes = .ok () bytes' ∧
      Updated groupIndex s fields bytes bytes' := by
  have inside (bytes'' : Bytes) (store : Nat × Bytes)
      (member : store ∈ (updates groupIndex s fields bytes'').map asStore) :
      store.1 + store.2.length ≤ bytes.length := by
    rw [updates_length member]
    exact fits _ ((updates_sublist bytes'').subset (mem_map_of_mem member))
  have words : storeWords (fields.flatMap SplitField.words) bytes = .ok () (storeAll bytes
      ((fields.flatMap SplitField.words).map asStore)) := storeWords_eq fun word member =>
    inside bytes _ (mem_map_of_mem (mem_append_left _ member))
  generalize middle_eq : storeAll bytes ((fields.flatMap SplitField.words).map asStore) = middle
    at words
  have stored : Stored ((updates groupIndex s fields middle).map asStore) bytes
      (storeAll bytes ((updates groupIndex s fields middle).map asStore)) :=
    stored_storeAll (inside middle)
      (pairwise_apart (fun _ => updates_length) (apart.sublist (updates_sublist middle)))
  have split : storeAll bytes ((updates groupIndex s fields middle).map asStore) =
      storeAll middle ((updates groupIndex s [] middle).map asStore) := by
    rw [← middle_eq]
    unfold storeAll updates
    rw [map_append, foldl_append]
    rfl
  have long : 32 ≤ bytes.length := fits 30 (mem_append_right _ mem_cons_self)
  have length : middle.length = bytes.length := by
    rw [← middle_eq]
    exact storeAll_length fun store member => inside bytes store (by
      unfold updates
      rw [map_append]
      exact mem_append_left _ member)
  refine ⟨storeAll middle ((updates groupIndex s [] middle).map asStore), ?_, ?_⟩
  · unfold storeFields
    rw [step_bind words]
    exact refresh_eq (by omega)
  · rw [split] at stored
    unfold Updated
    rwa [updates_congr fun i outside => ?_]
    unfold updates
    split
    · refine (getElem?_splice ?_ i).trans (if_neg ?_)
      all_goals simp [asStore]
      all_goals omega
    · rfl

namespace Updated

theorem places (bytes : Bytes) (member : store ∈ (updates groupIndex s fields bytes).map asStore) :
    store.1 ∈ fieldOffsets fields :=
  (updates_sublist bytes).subset (mem_map_of_mem member)

variable (updated : Updated groupIndex s fields bytes bytes')
include updated

theorem field {f : SplitField} (member : f ∈ fields) :
    joinHalves16 (u16 bytes' f.low) (u16 bytes' f.high) = f.value := by
  have words {word : Nat × BitVec 16} (listed : word ∈ f.words) :
      asStore word ∈ (updates groupIndex s fields bytes').map asStore :=
    mem_map_of_mem (mem_append_left _ (mem_flatMap.mpr ⟨f, member, listed⟩))
  exact joinHalves16_eq_iff.mpr
    ⟨updated.word (words (.head _)), updated.word (words (.tail _ (.head _)))⟩

theorem sum (sums : s.hasMetadataChecksums = true) :
    u16 bytes' 30 = groupDescriptorChecksum bytes' groupIndex s := by
  have listed : (30, groupDescriptorChecksum bytes' groupIndex s) ∈
      updates groupIndex s fields bytes' := by
    unfold updates
    rw [if_pos sums]
    exact mem_append_right _ mem_cons_self
  exact updated.word (mem_map_of_mem listed)

theorem kept {width offset : Nat}
    (away : ∀ place ∈ fieldOffsets fields, offset + width ≤ place ∨ place + 2 ≤ offset) :
    wordAt .little width bytes' offset = wordAt .little width bytes offset :=
  updated.word_kept fun store member => by
    rw [updates_length member]
    exact away _ (places bytes' member)

/-- Storing the fields that were there restores a descriptor. -/
theorem restore {bytes'' : Bytes} (again : Updated groupIndex s fields' bytes' bytes'')
    (same : fields'.flatMap (fun f => [f.low, f.high]) = fields.flatMap fun f => [f.low, f.high])
    (fits : ∀ offset ∈ fieldOffsets fields', offset + 2 ≤ bytes.length)
    (held : ∀ f ∈ fields', joinHalves16 (u16 bytes f.low) (u16 bytes f.high) = f.value)
    (sum : s.hasMetadataChecksums = true →
      u16 bytes 30 = groupDescriptorChecksum bytes groupIndex s) : bytes'' = bytes := by
  have back {i : Nat} (listed : ∀ word ∈ updates groupIndex s fields' bytes'',
      word.1 ≤ i → i < word.1 + 2 → u16 bytes word.1 = word.2) : bytes''[i]? = bytes[i]? := by
    refine Stored.restored updated again (fun store member => ?_) fun store member after before => ?_
    · have offset := mem_map_of_mem (f := Prod.fst) member
      rw [updates_offsets, ← same, ← updates_offsets bytes''] at offset
      obtain ⟨store', member', same⟩ := mem_map.mp offset
      exact ⟨store', member', same, (updates_length member').trans (updates_length member).symm⟩
    · rw [updates_length member] at before ⊢
      have inside := fits _ (places bytes'' member)
      obtain ⟨word, listed', rfl⟩ := mem_map.mp member
      rw [slice_eq_encode inside]
      exact congrArg (fun value => some (encode .little 2 value)) (listed word listed' after before)
  have field (word : Nat × BitVec 16) (member : word ∈ fields'.flatMap SplitField.words) :
      u16 bytes word.1 = word.2 := by
    obtain ⟨f, listed, place⟩ := mem_flatMap.mp member
    obtain ⟨low, high⟩ := joinHalves16_eq_iff.mp (held f listed)
    rcases mem_pair.mp place with rfl | rfl
    · exact low
    · exact high
  have outside (i : Nat) (away : i < 30 ∨ 32 ≤ i) : bytes''[i]? = bytes[i]? := by
    refine back fun word member after before => ?_
    rcases mem_append.mp member with member | member
    · exact field word member
    split at member
    · obtain rfl := mem_singleton.mp member
      omega
    · cases member
  refine ext_getElem? fun i => back fun word member _ _ => ?_
  rcases mem_append.mp member with member | member
  · exact field word member
  split at member
  case isTrue sums =>
    obtain rfl := mem_singleton.mp member
    rw [groupDescriptorChecksum_congr outside]
    exact sum sums
  case isFalse => cases member

end Updated

end Stores

/-! ## The descriptor before and after -/

section Parse

variable {bytes bytes' rest : Bytes} {groupIndex : BitVec 32} {s : Superblock}

section

variable (bytes : Bytes) (groupIndex : BitVec 32) (s : Superblock)

/-- The fields of a descriptor with both halves of every word. -/
def GroupDescriptor.fields :
    GroupDescriptor where
  groupIndex
  blockBitmapBlock :=
    joinHalves (u32 bytes 0) (bif has64Bit s.featureIncompat then u32 bytes 32 else 0#32)
  inodeBitmapBlock :=
    joinHalves (u32 bytes 4) (bif has64Bit s.featureIncompat then u32 bytes 36 else 0#32)
  inodeTableBlock :=
    joinHalves (u32 bytes 8) (bif has64Bit s.featureIncompat then u32 bytes 40 else 0#32)
  freeBlockCount := joinHalves16 (u16 bytes 12) (u16 bytes 44)
  freeInodeCount := joinHalves16 (u16 bytes 14) (u16 bytes 46)
  usedDirectoryCount := joinHalves16 (u16 bytes 16) (u16 bytes 48)
  unusedInodeCount := joinHalves16 (u16 bytes 28) (u16 bytes 50)
  checksum := u16 bytes 30

/-- The first error of the parse. -/
def GroupDescriptor.reject : Option ParseError :=
  let table := (GroupDescriptor.fields bytes groupIndex s).inodeTableBlock
  if s.hasMetadataChecksums ∧ groupDescriptorChecksum bytes groupIndex s ≠ u16 bytes 30 then
    some .invalidChecksum
  else if table = 0#64 ∨ s.blockCount.toNat ≤ table.toNat then some .invalidGeometry
  else none

end

theorem readU16OrZero_eq (inside : offset + 2 ≤ bytes.length) :
    readU16OrZero bytes offset = u16 bytes offset := by
  unfold readU16OrZero
  rw [readU16_eq inside]

theorem GroupDescriptor.parse_eq (groupIndex : BitVec 32) (rest : Bytes)
    (length : bytes.length = s.descriptorSize.toNat)
    (wide : 64 ≤ s.descriptorSize.toNat) : parse (bytes ++ rest) groupIndex s =
      verdict (reject bytes groupIndex s) (fields bytes groupIndex s) := by
  unfold parse
  dsimp only
  rw [if_neg (by rw [length_append]; omega), take_left' length, readU16_eq]
  refine check_eq_verdict fun _ => ?_
  simp (disch := omega) only [readU32_eq, readIf_ok, ok_bind]
  refine check_eq_verdict fun _ => ?_
  simp (disch := omega) only [readU16_eq, readU16OrZero_eq, ok_bind]
  rfl

/-- The words that an allocation may change. -/
def countOffsets : List Nat := [12, 14, 24, 26, 28, 30, 44, 46, 50, 56, 58]

section

variable {fields : List SplitField} (updated : Updated groupIndex s fields bytes bytes')
  (within : ∀ offset ∈ fieldOffsets fields, offset ∈ countOffsets)
include updated within

theorem Updated.fields_eq :
    GroupDescriptor.fields bytes' groupIndex s = { GroupDescriptor.fields bytes groupIndex s with
      freeBlockCount := joinHalves16 (u16 bytes' 12) (u16 bytes' 44)
      freeInodeCount := joinHalves16 (u16 bytes' 14) (u16 bytes' 46)
      unusedInodeCount := joinHalves16 (u16 bytes' 28) (u16 bytes' 50)
      checksum := u16 bytes' 30 } := by
  have kept {offset : Nat} (width : Nat)
      (away : ∀ place ∈ countOffsets, offset + width ≤ place ∨ place + 2 ≤ offset) :
      wordAt .little width bytes' offset = wordAt .little width bytes offset :=
    updated.kept fun place member => away place (within place member)
  have wide (offset : Nat) (away : ∀ place ∈ countOffsets, offset + 4 ≤ place ∨ place + 2 ≤ offset) :
      u32 bytes' offset = u32 bytes offset := kept 4 away
  have narrow (offset : Nat)
      (away : ∀ place ∈ countOffsets, offset + 2 ≤ place ∨ place + 2 ≤ offset) :
      u16 bytes' offset = u16 bytes offset := kept 2 away
  unfold GroupDescriptor.fields
  rw [wide 0 (by decide), wide 4 (by decide), wide 8 (by decide), wide 32 (by decide),
    wide 36 (by decide), wide 40 (by decide), narrow 16 (by decide), narrow 48 (by decide)]

theorem Updated.accepted (accepted : GroupDescriptor.reject bytes groupIndex s = none) :
    GroupDescriptor.reject bytes' groupIndex s = none := by
  unfold GroupDescriptor.reject at accepted ⊢
  rw [updated.fields_eq within]
  rw [ite_some_eq_none_iff] at accepted ⊢
  exact ⟨fun ⟨sums, wrong⟩ => wrong (updated.sum sums).symm, accepted.2⟩

end

end Parse

/-! ## One allocation -/

/-- The words that an allocation may change. -/
def GroupBits.changed (g : GroupBits) : List Nat :=
  fieldOffsets (g.counts [] 0#32 ++ [⟨g.low, g.high, 0#32⟩])

/-- What the two functions have to provide for the common body. -/
structure GroupBits.Lawful (g : GroupBits) (groupIndex : BitVec 32) (s : Superblock) : Prop where
  whole : g.count ≤ 8 * g.size
  within : ∀ offset ∈ g.changed, offset ∈ countOffsets
  apart : g.changed.Pairwise fun a b => a + 2 ≤ b ∨ b + 2 ≤ a
  places : ∀ bitmap free, (g.counts bitmap free).flatMap (fun f => [f.low, f.high]) =
    (g.counts [] 0#32).flatMap fun f => [f.low, f.high]
  read : ∀ bitmap free bytes, (∀ f ∈ g.counts bitmap free,
      joinHalves16 (u16 bytes f.low) (u16 bytes f.high) = f.value) →
    g.free (GroupDescriptor.fields bytes groupIndex s) = free ∧
      g.accepts bitmap free (GroupDescriptor.fields bytes groupIndex s) = true

/-- The checks before the first store, in one place. -/
structure GroupBits.Planned (g : GroupBits) (groupIndex : BitVec 32) (number : Nat)
    (allocated : Bool) (s : Superblock) (bitmap bytes : Bytes) (index : Nat) (free : BitVec 32) :
    Prop where
  room : g.size ≤ bitmap.length
  accepted : GroupDescriptor.reject bytes groupIndex s = none
  flags : u16 bytes 18 &&& g.uninitialized = 0#16
  intact : s.hasMetadataChecksums = true →
    joinHalves16 (u16 bytes g.low) (u16 bytes g.high) = crc32c s.checksumSeed (bitmap.take g.size)
  small : g.overflows = false
  first : g.first ≤ number
  place : number - g.first = index
  below : index < g.count
  old : bit bitmap index = !allocated
  count : adjustCount allocated (g.free (GroupDescriptor.fields bytes groupIndex s)) g.count =
    .ok free

section Allocate

variable {g : GroupBits} {groupIndex : BitVec 32} {s : Superblock} {number index limit : Nat}
  {allocated : Bool} {free : BitVec 32} {bitmap bytes rest : Bytes} {buffers' : GroupBuffers}

/-- Every word of a count lies in a descriptor of 64 bytes. -/
theorem countOffsets_inside (member : offset ∈ countOffsets) : offset + 2 ≤ 64 := by
  revert offset
  decide

/-- The checksum of the bitmap in an updated descriptor. -/
theorem Updated.sum_field {bytes' : Bytes}
    (updated : Updated groupIndex s (g.fields s bitmap free) bytes bytes')
    (sums : s.hasMetadataChecksums = true) : joinHalves16 (u16 bytes' g.low) (u16 bytes' g.high) =
      crc32c s.checksumSeed (bitmap.take g.size) := by
  refine updated.field (f := ⟨g.low, g.high, _⟩) (mem_append_right _ ?_)
  rw [if_pos sums]
  exact mem_singleton_self _

/-- Allocating takes one from the count, and freeing gives it back. -/
theorem adjustCount_true {count : BitVec 32} (bounded : count.toNat ≤ limit)
    (adjusted : adjustCount true count limit = .ok free) :
    count.toNat = free.toNat + 1 ∧ adjustCount false free limit = .ok count := by
  unfold adjustCount at adjusted ⊢
  rw [if_pos rfl, Except.ite_throw_eq_ok_iff] at adjusted
  obtain ⟨nonzero, less⟩ := adjusted
  obtain rfl := Except.ok.inj less
  have small : (count - 1#32).toNat + 1 = count.toNat := by bv_omega
  refine ⟨small.symm, ?_⟩
  rw [if_neg Bool.false_ne_true, small, if_pos ⟨count.isLt, bounded⟩, BitVec.sub_add_cancel]

theorem adjustCount_false {count : BitVec 32} (adjusted : adjustCount false count limit = .ok free)
    : free.toNat = count.toNat + 1 := by
  unfold adjustCount at adjusted
  rw [if_neg Bool.false_ne_true] at adjusted
  split at adjusted
  case isTrue small =>
    obtain rfl := Except.ok.inj adjusted
    bv_omega
  case isFalse => cases adjusted

/-- What a call leaves behind when it succeeds: one bit of the group is flipped, the count
is that of the clear bits, the descriptor and the bitmap pass their checksums, and no other
byte of the descriptor changed. -/
structure GroupBits.Booked (g : GroupBits) (groupIndex : BitVec 32) (number : Nat)
    (allocated : Bool) (s : Superblock) (buffers buffers' : GroupBuffers) (d' : GroupDescriptor) :
    Prop where
  first : g.first ≤ number
  below : number - g.first < g.count
  flipped : Flipped buffers.bitmap buffers'.bitmap (number - g.first) allocated
  count : (g.free d').toNat = clearBits buffers'.bitmap g.count
  parsed : GroupDescriptor.parse buffers'.descriptor groupIndex s = .ok d'
  intact : bitmapIntact g s buffers'.bitmap
    (buffers'.descriptor.take s.descriptorSize.toNat) = .ok true
  length : buffers'.descriptor.length = buffers.descriptor.length
  frame : ∀ i, (∀ offset ∈ g.changed, i < offset ∨ offset + 2 ≤ i) →
    buffers'.descriptor[i]? = buffers.descriptor[i]?

section

variable (lawful : g.Lawful groupIndex s)
include lawful

theorem GroupBits.Lawful.fieldPlaces (bitmap : Bytes) (free : BitVec 32) :
    (g.fields s bitmap free).flatMap (fun f => [f.low, f.high]) =
      (g.counts [] 0#32).flatMap (fun f => [f.low, f.high]) ++
        if s.hasMetadataChecksums then [g.low, g.high] else [] := by
  unfold fields
  rw [flatMap_append, lawful.places]
  split
  · rfl
  · rfl

theorem GroupBits.Lawful.changes (bitmap : Bytes) (free : BitVec 32) :
    Sublist (fieldOffsets (g.fields s bitmap free)) g.changed := by
  unfold changed fieldOffsets
  rw [lawful.fieldPlaces, flatMap_append]
  refine Sublist.append (Sublist.append (Sublist.refl _) ?_) (Sublist.refl _)
  split
  · exact Sublist.refl _
  · exact nil_sublist _

theorem GroupBits.Lawful.within_fields {offset : Nat}
    (member : offset ∈ fieldOffsets (g.fields s bitmap free)) : offset ∈ countOffsets :=
  lawful.within offset ((lawful.changes bitmap free).subset member)

theorem GroupBits.Lawful.sum_within : g.low ∈ countOffsets ∧ g.high ∈ countOffsets := by
  constructor
  · exact lawful.within _ (by simp [changed, fieldOffsets])
  · exact lawful.within _ (by simp [changed, fieldOffsets])

/-- What the new counts are read as. -/
theorem GroupBits.Lawful.updated {bytes' : Bytes}
    (updated : Updated groupIndex s (g.fields s bitmap free) bytes bytes') :
    g.free (GroupDescriptor.fields bytes' groupIndex s) = free ∧
      g.accepts bitmap free (GroupDescriptor.fields bytes' groupIndex s) = true :=
  lawful.read bitmap free bytes' fun _ member => updated.field (mem_append_left _ member)

/-- The words beside the changed ones are kept. -/
theorem GroupBits.Lawful.keeps {bytes' : Bytes} {places : List Nat} (changed : g.changed = places)
    (updated : Updated groupIndex s (g.fields s bitmap free) bytes bytes') (offset : Nat)
    (away : ∀ place ∈ places, offset + 2 ≤ place ∨ place + 2 ≤ offset) :
    u16 bytes' offset = u16 bytes offset :=
  updated.kept fun place member => away place (changed ▸ (lawful.changes _ _).subset member)

section

variable (plan : g.Planned groupIndex number allocated s bitmap bytes index free)
include plan

theorem GroupBits.Planned.inside : index / 8 < bitmap.length := by
  have whole := lawful.whole
  have below := plan.below
  have room := plan.room
  omega

/-- The count follows the bit. -/
theorem GroupBits.Planned.clearBits_eq
    (consistent : (g.free (GroupDescriptor.fields bytes groupIndex s)).toNat =
      clearBits bitmap g.count) :
    free.toNat = clearBits (setBit bitmap index allocated) g.count := by
  have flipped := clearBits_setBit allocated (plan.inside lawful) plan.below plan.old
  have count := plan.count
  cases allocated with
  | true =>
    have step := (adjustCount_true (by rw [consistent]; exact clearBits_le _ _) count).1
    rw [if_pos rfl] at flipped
    omega
  | false =>
    have step := adjustCount_false count
    rw [if_neg Bool.false_ne_true] at flipped
    omega

end

variable (wide : 64 ≤ s.descriptorSize.toNat)
include wide

theorem planAllocation_ok_iff (length : bytes.length = s.descriptorSize.toNat) :
    planAllocation g groupIndex number allocated s ⟨bitmap, bytes ++ rest⟩ = .ok (index, free) ↔
      g.Planned groupIndex number allocated s bitmap bytes index free := by
  have low := countOffsets_inside lawful.sum_within.1
  have high := countOffsets_inside lawful.sum_within.2
  have intact : bitmapIntact g s bitmap bytes = .ok (!s.hasMetadataChecksums ||
      joinHalves16 (u16 bytes g.low) (u16 bytes g.high) ==
        crc32c s.checksumSeed (bitmap.take g.size)) := by
    unfold bitmapIntact
    rw [readU16_eq, readU16_eq]
    cases s.hasMetadataChecksums with
    | true => rfl
    | false => rfl
  unfold planAllocation
  dsimp only
  rw [Except.ite_throw_eq_ok_iff, GroupDescriptor.parse_eq groupIndex rest length wide,
    take_left' length, readU16_eq, intact]
  cases rejected : GroupDescriptor.reject bytes groupIndex s with
  | some e =>
    constructor
    · rintro ⟨-, done⟩
      cases done
    · intro plan
      cases rejected.symm.trans plan.accepted
  | none =>
    simp only [verdict, ok_bind, Except.ite_throw_eq_ok_iff, Except.bind_eq_ok_iff,
      Except.pure_eq_ok_iff, length_append, not_or, not_lt, Prod.mk.injEq]
    constructor
    · rintro ⟨⟨-, room⟩, flags, sum, small, ⟨first, below⟩, old, count, adjusted, rfl, rfl⟩
      refine ⟨room, rejected, by simpa using flags, fun sums => ?_, by simpa using small, first,
        rfl, by omega, ?_, adjusted⟩
      · simpa [sums] using sum
      · cases allocated <;> simpa using old
    · rintro ⟨room, -, flags, sum, small, first, rfl, below, old, adjusted⟩
      refine ⟨⟨by omega, room⟩, by simpa using flags, ?_, by simpa using small, ⟨first, by omega⟩,
        ?_, free, adjusted, rfl, rfl⟩
      · cases sums : s.hasMetadataChecksums with
        | true => simp [sum sums]
        | false => simp
      · rw [old]
        cases allocated <;> decide

/-- With both halves in the descriptor no store fails, and the new descriptor is accepted. -/
theorem setAllocation_planned (rest : Bytes) (length : bytes.length = s.descriptorSize.toNat)
    (plan : g.Planned groupIndex number allocated s bitmap bytes index free) :
    ∃ bytes', setAllocation g groupIndex number allocated s ⟨bitmap, bytes ++ rest⟩ =
        .ok () ⟨setBit bitmap index allocated, bytes' ++ rest⟩ ∧
      Updated groupIndex s (g.fields s (setBit bitmap index allocated) free) bytes bytes' := by
  obtain ⟨bytes', stored, updated⟩ := storeFields_ok groupIndex s
    (fun offset member => show offset + 2 ≤ bytes.length by
      have := countOffsets_inside (lawful.within_fields member)
      omega)
    (lawful.apart.sublist (lawful.changes _ _))
  refine ⟨bytes', ?_, updated⟩
  have length' : bytes'.length = s.descriptorSize.toNat := updated.length.trans length
  have parsed := GroupDescriptor.parse_eq groupIndex [] length' wide
  rw [updated.accepted (fun _ => lawful.within_fields) plan.accepted, append_nil] at parsed
  have accepts := (lawful.updated updated).2
  have run : storeDescriptor groupIndex s (g.fields s (setBit bitmap index allocated) free)
      (g.accepts (setBit bitmap index allocated) free) bytes = .ok () bytes' := by
    refine (step_bind stored _).trans ?_
    rw [parsed]
    exact if_pos accepts
  unfold setAllocation
  rw [(planAllocation_ok_iff lawful wide length).mpr plan]
  dsimp only
  rw [take_left' length, drop_left' length, run]

/-- A call either fails before the first store or does all of it. -/
theorem setAllocation_cases (buffers : GroupBuffers) :
    (∃ e, setAllocation g groupIndex number allocated s buffers = .error e buffers) ∨
      ∃ bitmap bytes rest index free bytes', buffers = ⟨bitmap, bytes ++ rest⟩ ∧
        bytes.length = s.descriptorSize.toNat ∧
        g.Planned groupIndex number allocated s bitmap bytes index free ∧
        Updated groupIndex s (g.fields s (setBit bitmap index allocated) free) bytes bytes' ∧
        setAllocation g groupIndex number allocated s buffers =
          .ok () ⟨setBit bitmap index allocated, bytes' ++ rest⟩ := by
  cases planned : planAllocation g groupIndex number allocated s buffers with
  | error e =>
    refine .inl ⟨e, ?_⟩
    unfold setAllocation
    rw [planned]
  | ok result =>
    obtain ⟨index, free⟩ := result
    obtain ⟨bitmap, descriptor⟩ := buffers
    have long : s.descriptorSize.toNat ≤ descriptor.length := by
      have checked := (Except.ite_throw_eq_ok_iff.mp planned).1
      dsimp only at checked
      omega
    have length : (descriptor.take s.descriptorSize.toNat).length = s.descriptorSize.toNat :=
      length_take_of_le long
    have split := take_append_drop s.descriptorSize.toNat descriptor
    rw [← split] at planned ⊢
    have plan := (planAllocation_ok_iff lawful wide length).mp planned
    obtain ⟨bytes', done, updated⟩ := setAllocation_planned lawful wide _ length plan
    exact .inr ⟨bitmap, _, _, index, free, bytes', rfl, length, plan, updated, done⟩

/-- Freeing what was allocated finds the counts and the checksums of before. -/
theorem setAllocation_restore (length : bytes.length = s.descriptorSize.toNat)
    (plan : g.Planned groupIndex number true s bitmap bytes index free) {bytes' : Bytes}
    (updated : Updated groupIndex s (g.fields s (setBit bitmap index true) free) bytes bytes')
    (bounded : (g.free (GroupDescriptor.fields bytes groupIndex s)).toNat ≤ g.count)
    (held : ∀ f ∈ g.counts bitmap (g.free (GroupDescriptor.fields bytes groupIndex s)),
      joinHalves16 (u16 bytes f.low) (u16 bytes f.high) = f.value) :
    setAllocation g groupIndex number false s ⟨setBit bitmap index true, bytes' ++ rest⟩ =
      .ok () ⟨bitmap, bytes ++ rest⟩ := by
  have within {offset : Nat} (member : offset ∈ fieldOffsets
      (g.fields s (setBit bitmap index true) free)) := lawful.within_fields member
  have counts := (lawful.updated updated).1
  have place := plan.inside lawful
  have back : g.Planned groupIndex number false s (setBit bitmap index true) bytes' index
      (g.free (GroupDescriptor.fields bytes groupIndex s)) := by
    refine ⟨by rw [setBit_length]; exact plan.room, updated.accepted (fun _ => within)
      plan.accepted, ?_, fun sums => ?_, plan.small, plan.first, plan.place, plan.below, ?_, ?_⟩
    · have kept : u16 bytes' 18 = u16 bytes 18 := updated.kept fun offset member => by
        have known := within member
        clear member
        revert offset
        decide
      rw [kept, plan.flags]
    · exact updated.sum_field sums
    · rw [bit_setBit _ place, if_pos rfl]
      rfl
    · rw [counts]
      exact (adjustCount_true bounded plan.count).2
  obtain ⟨bytes'', done, again⟩ := setAllocation_planned lawful wide rest
    (updated.length.trans length) back
  have restored : setBit (setBit bitmap index true) index false = bitmap :=
    setBit_setBit true false place plan.old
  rw [restored] at done again
  rw [done, updated.restore again (by rw [lawful.fieldPlaces, lawful.fieldPlaces])]
  · intro offset member
    have := countOffsets_inside (lawful.within_fields member)
    omega
  · intro f member
    rcases mem_append.mp member with member | member
    · exact held f member
    split at member
    case isTrue sums =>
      obtain rfl := mem_singleton.mp member
      exact plan.intact sums
    case isFalse => cases member
  · intro sums
    have accepted := plan.accepted
    have checked := (ite_some_eq_none_iff.mp accepted).1
    by_contra wrong
    exact checked ⟨sums, fun same => wrong same.symm⟩

theorem setAllocation_exact {d : GroupDescriptor} {buffers : GroupBuffers}
    (parsed : GroupDescriptor.parse buffers.descriptor groupIndex s = .ok d)
    (consistent : (g.free d).toNat = clearBits buffers.bitmap g.count)
    (held : ∀ bytes, GroupDescriptor.fields bytes groupIndex s = d →
      ∀ f ∈ g.counts buffers.bitmap (g.free d),
        joinHalves16 (u16 bytes f.low) (u16 bytes f.high) = f.value)
    (done : setAllocation g groupIndex number allocated s buffers = .ok () buffers') :
    ∃ bytes bytes' free, GroupDescriptor.fields bytes groupIndex s = d ∧
      Updated groupIndex s (g.fields s buffers'.bitmap free) bytes bytes' ∧
      g.Booked groupIndex number allocated s buffers buffers'
        (GroupDescriptor.fields bytes' groupIndex s) ∧ (allocated = true →
        setAllocation g groupIndex number false s buffers' = .ok () buffers) := by
  rcases setAllocation_cases lawful wide buffers with ⟨e, failed⟩ | ⟨bitmap, bytes, rest, index,
    free, bytes', rfl, length, plan, updated, success⟩
  · cases failed.symm.trans done
  obtain rfl : (⟨setBit bitmap index allocated, bytes' ++ rest⟩ : GroupBuffers) = buffers' := by
    cases success.symm.trans done
    rfl
  have length' : bytes'.length = s.descriptorSize.toNat := updated.length.trans length
  have within (offset : Nat) (member : offset ∈ fieldOffsets
      (g.fields s (setBit bitmap index allocated) free)) := lawful.within_fields member
  obtain rfl : GroupDescriptor.fields bytes groupIndex s = d := by
    rw [GroupDescriptor.parse_eq groupIndex rest length wide, plan.accepted] at parsed
    exact Except.ok.inj parsed
  have low := countOffsets_inside lawful.sum_within.1
  have high := countOffsets_inside lawful.sum_within.2
  refine ⟨bytes, bytes', free, rfl, updated, ?_, ?_⟩
  · have counts := (lawful.updated updated).1
    have flipped : Flipped bitmap (setBit bitmap index allocated) index allocated :=
      ⟨setBit_length _, plan.old, bit_setBit _ (plan.inside lawful)⟩
    refine ⟨plan.first, by rw [plan.place]; exact plan.below, by rw [plan.place]; exact flipped,
      ?_, ?_, ?_, by rw [length_append, length_append, updated.length], ?_⟩
    · rw [counts]
      exact plan.clearBits_eq lawful consistent
    · rw [GroupDescriptor.parse_eq groupIndex rest length' wide,
        updated.accepted within plan.accepted]
      rfl
    · rw [take_left' length']
      unfold bitmapIntact
      rw [readU16_eq, readU16_eq]
      split
      case isTrue sums =>
        rw [ok_bind, ok_bind, updated.sum_field sums, beq_self_eq_true]
        rfl
      case isFalse => rfl
    · intro i away
      have kept := updated.frame i fun store member => by
        rw [updates_length member]
        exact away _ ((lawful.changes _ _).subset (Updated.places bytes' member))
      rw [getElem?_append, getElem?_append, updated.length, kept]
  · rintro rfl
    refine setAllocation_restore lawful wide length plan updated ?_ (held bytes rfl)
    rw [consistent]
    exact clearBits_le _ _

end

end Allocate

/-! ## A small filesystem -/

/-- A superblock of 64 blocks and 16 inodes in one group. -/
def superblockImage (inodeSize descriptorSize featureIncompat : BitVec 32) : Bytes :=
  let words : List (Nat × BitVec 32) := [(0, 16#32), (4, 64#32), (32, 64#32), (40, 16#32),
    (56, 0x0001ef53#32), (76, 1#32), (88, inodeSize), (96, featureIncompat),
    (252, descriptorSize <<< 16)]
  words.foldl (fun bytes word => setU32 bytes word.1 word.2) (List.replicate 1024 0#8)

def wideImage : Bytes := superblockImage 256#32 64#32 FEATURE_INCOMPAT_64BIT

/-- The layout with wide descriptors. -/
def wideSuperblock : Superblock := Superblock.fields wideImage

/-- The descriptor of a group with nothing in use and its inode table at block 5. -/
def emptyDescriptor (size : Nat) : Bytes :=
  setU16 (setU32 (setU32 (List.replicate size 0#8) 8 5#32) 12 0x00100040#32) 28 16#16

def emptyBlocks (size : Nat) : GroupBuffers := ⟨List.replicate 8 0#8, emptyDescriptor size⟩

def emptyInodes (size : Nat) : GroupBuffers := ⟨List.replicate 2 0#8, emptyDescriptor size⟩

theorem emptyDescriptor_parse : GroupDescriptor.parse (emptyDescriptor 64) 0#32 wideSuperblock =
    .ok (GroupDescriptor.fields (emptyDescriptor 64) 0#32 wideSuperblock) := by
  decide +kernel

instance resultDecidableEq {ε σ α : Type} [DecidableEq ε] [DecidableEq σ] [DecidableEq α] :
    DecidableEq (EStateM.Result ε σ α)
  | .ok a s, .ok b t => decidable_of_iff' _ (.of_eq (EStateM.Result.ok.injEq a s b t))
  | .error a s, .error b t => decidable_of_iff' _ (.of_eq (EStateM.Result.error.injEq a s b t))
  | .ok .., .error .. | .error .., .ok .. => isFalse nofun

/-- The state that a call leaves behind. -/
def left {ε σ α : Type} : EStateM.Result ε σ α → σ
  | .ok _ state => state
  | .error _ state => state

/-! ## Both functions -/

section Members

variable {groupIndex : BitVec 32} {s : Superblock}

theorem blockBits_lawful (groupIndex : BitVec 32)
    {p : Prop} (supported : ¬ (p ∨ s.blocksPerGroup.toNat % 8 ≠ 0)) :
    (s.blockBits groupIndex).Lawful groupIndex s where
  whole := by
    have small : (s.blockBits groupIndex).count ≤ s.blocksPerGroup.toNat := Nat.min_le_right _ _
    show _ ≤ 8 * (s.blocksPerGroup.toNat / 8)
    omega
  within := by
    show ∀ offset ∈ [12, 44, 24, 56, 30], offset ∈ countOffsets
    decide
  apart := by
    show [12, 44, 24, 56, 30].Pairwise _
    decide
  places _ _ := rfl
  read bitmap free bytes stored := by
    have count := stored ⟨12, 44, free⟩ mem_cons_self
    exact ⟨count, decide_eq_true count⟩

theorem groupInodeCount_lt (groupIndex : BitVec 32) : s.groupInodeCount groupIndex < 2 ^ 32 :=
  lt_of_le_of_lt (Nat.min_le_right _ _) s.inodesPerGroup.isLt

theorem inodeBits_lawful (groupIndex : BitVec 32) (whole : s.inodesPerGroup.toNat % 8 = 0) :
    (s.inodeBits groupIndex).Lawful groupIndex s where
  whole := by
    have small : (s.inodeBits groupIndex).count ≤ s.inodesPerGroup.toNat := Nat.min_le_right _ _
    show _ ≤ 8 * (s.inodesPerGroup.toNat / 8)
    omega
  within := by
    show ∀ offset ∈ [14, 46, 28, 50, 26, 58, 30], offset ∈ countOffsets
    decide
  apart := by
    show [14, 46, 28, 50, 26, 58, 30].Pairwise _
    decide
  places _ _ := rfl
  read bitmap free bytes stored := by
    have count := stored ⟨14, 46, free⟩ mem_cons_self
    have unused := stored ⟨28, 50, _⟩ (mem_cons_of_mem _ mem_cons_self)
    refine ⟨count, decide_eq_true ⟨count, ?_⟩⟩
    show (joinHalves16 (u16 bytes 28) (u16 bytes 50)).toNat = _
    rw [unused]
    exact Nat.mod_eq_of_lt (lt_of_le_of_lt (Nat.sub_le _ _) (groupInodeCount_lt groupIndex))

variable {allocated : Bool} {d : GroupDescriptor} {buffers buffers' : GroupBuffers} {bytes : Bytes}

/-- **Block allocation**: the bit, the count and the checksums change together, nothing else
does, and freeing an allocated block restores the bitmap and the descriptor. -/
theorem setBlockAllocation_books {physicalBlock : BitVec 64} (wide : 64 ≤ s.descriptorSize.toNat)
    (parsed : GroupDescriptor.parse buffers.descriptor groupIndex s = .ok d)
    (consistent : d.freeBlockCount.toNat = clearBits buffers.bitmap (s.groupBlocks groupIndex))
    (done : setBlockAllocation groupIndex physicalBlock allocated s buffers = .ok () buffers') :
    ∃ d', (s.blockBits groupIndex).Booked groupIndex physicalBlock.toNat allocated s buffers
        buffers' d' ∧ d' = { d with freeBlockCount := d'.freeBlockCount, checksum := d'.checksum } ∧
      (allocated = true →
        setBlockAllocation groupIndex physicalBlock false s buffers' = .ok () buffers) := by
  unfold setBlockAllocation at done ⊢
  split at done
  case isTrue => cases done
  case isFalse supported =>
  have lawful := blockBits_lawful groupIndex supported
  obtain ⟨bytes, bytes', free, rfl, updated, booked, back⟩ := setAllocation_exact lawful wide
    parsed consistent (fun bytes same f member => by
      obtain rfl := mem_singleton.mp member
      rw [← same]
      rfl) done
  refine ⟨_, booked, ?_, fun allocating => by rw [if_neg supported]; exact back allocating⟩
  have changed : (s.blockBits groupIndex).changed = [12, 44, 24, 56, 30] := rfl
  have kept := lawful.keeps changed updated
  rw [updated.fields_eq fun _ => lawful.within_fields, kept 14 (by decide),
    kept 46 (by decide), kept 28 (by decide), kept 50 (by decide)]
  rfl

theorem empty_block_returned :
    ∃ buffers', setBlockAllocation 0#32 7#64 true wideSuperblock (emptyBlocks 64) =
        .ok () buffers' ∧
      setBlockAllocation 0#32 7#64 false wideSuperblock buffers' = .ok () (emptyBlocks 64) := by
  have done : setBlockAllocation 0#32 7#64 true wideSuperblock (emptyBlocks 64) =
      .ok () (left (setBlockAllocation 0#32 7#64 true wideSuperblock (emptyBlocks 64))) := by
    decide +kernel
  have parsed : GroupDescriptor.parse (emptyBlocks 64).descriptor 0#32 wideSuperblock = .ok _ :=
    emptyDescriptor_parse
  obtain ⟨d', -, -, back⟩ :=
    setBlockAllocation_books (by decide +kernel) parsed (by decide +kernel) done
  exact ⟨_, done, back rfl⟩

/-- **Inode allocation**: the free count and the count of the inodes that were never used
follow the bitmap, and freeing an allocated inode restores the bitmap and the descriptor. -/
theorem setInodeAllocation_books {inodeNumber : BitVec 32} (wide : 64 ≤ s.descriptorSize.toNat)
    (parsed : GroupDescriptor.parse buffers.descriptor groupIndex s = .ok d)
    (consistent : d.freeInodeCount.toNat = clearBits buffers.bitmap (s.groupInodeCount groupIndex))
    (trailing : d.unusedInodeCount.toNat =
      trailingClear buffers.bitmap (s.groupInodeCount groupIndex))
    (done : setInodeAllocation groupIndex inodeNumber allocated s buffers = .ok () buffers') :
    ∃ d', (s.inodeBits groupIndex).Booked groupIndex inodeNumber.toNat allocated s buffers
        buffers' d' ∧ d'.unusedInodeCount.toNat =
        trailingClear buffers'.bitmap (s.groupInodeCount groupIndex) ∧ d' = { d with
        freeInodeCount := d'.freeInodeCount
        unusedInodeCount := d'.unusedInodeCount
        checksum := d'.checksum } ∧ (allocated = true →
        setInodeAllocation groupIndex inodeNumber false s buffers' = .ok () buffers) := by
  unfold setInodeAllocation at done ⊢
  split at done
  case isTrue => cases done
  case isFalse supported =>
  have lawful := inodeBits_lawful groupIndex (not_not.mp supported)
  obtain ⟨bytes, bytes', free, rfl, updated, booked, back⟩ := setAllocation_exact lawful wide
    parsed consistent (fun bytes same f member => by
      rcases mem_pair.mp member with rfl | rfl
      · rw [← same]
        rfl
      · rw [trailingClear_eq, ← same] at trailing
        exact BitVec.eq_of_toNat_eq (trailing.trans (Nat.mod_eq_of_lt (lt_of_le_of_lt
          (Nat.sub_le _ _) (groupInodeCount_lt groupIndex))).symm)) done
  refine ⟨_, booked, ?_, ?_, fun allocating => by rw [if_neg supported]; exact back allocating⟩
  · rw [trailingClear_eq]
    exact (of_decide_eq_true (lawful.updated updated).2).2
  · have changed : (s.inodeBits groupIndex).changed = [14, 46, 28, 50, 26, 58, 30] := rfl
    have kept := lawful.keeps changed updated
    rw [updated.fields_eq fun _ => lawful.within_fields, kept 12 (by decide), kept 44 (by decide)]
    rfl

theorem empty_inode_returned :
    ∃ buffers', setInodeAllocation 0#32 11#32 true wideSuperblock (emptyInodes 64) =
        .ok () buffers' ∧
      setInodeAllocation 0#32 11#32 false wideSuperblock buffers' = .ok () (emptyInodes 64) := by
  have done : setInodeAllocation 0#32 11#32 true wideSuperblock (emptyInodes 64) =
      .ok () (left (setInodeAllocation 0#32 11#32 true wideSuperblock (emptyInodes 64))) := by
    decide +kernel
  have parsed : GroupDescriptor.parse (emptyInodes 64).descriptor 0#32 wideSuperblock = .ok _ :=
    emptyDescriptor_parse
  obtain ⟨d', -, -, -, back⟩ := setInodeAllocation_books (by decide +kernel) parsed
    (by decide +kernel) (by decide +kernel) done
  exact ⟨_, done, back rfl⟩

/-! ## Errors -/

/-- The sizes that the superblock's parser accepts. -/
theorem Superblock.sizes (accepted : parse bytes = .ok s) :
    (128 ≤ s.inodeSize.toNat ∧ isPowerOfTwo s.inodeSize.toNat = true) ∧
      32 ≤ s.descriptorSize.toNat ∧ isPowerOfTwo s.descriptorSize.toNat = true := by
  obtain ⟨-, passed, rfl⟩ := parseInternal_ok_iff.mp accepted
  unfold reject at passed
  simp only [ite_some_eq_none_iff, not_or, not_not, not_lt] at passed
  obtain ⟨-, -, inode, -, descriptor, -⟩ := passed
  exact ⟨⟨inode.1, inode.2.1⟩, descriptor.1, descriptor.2.1⟩

theorem Superblock.descriptorSize_cases (accepted : parse bytes = .ok s) :
    s.descriptorSize.toNat = 32 ∨ 64 ≤ s.descriptorSize.toNat := by
  have power : ∀ size < 64, 32 ≤ size → isPowerOfTwo size = true → size = 32 := by decide
  obtain ⟨-, lower, whole⟩ := sizes accepted
  by_cases below : s.descriptorSize.toNat < 64
  · exact .inl (power _ below lower whole)
  · exact .inr (not_lt.mp below)

theorem readAs_short {order : Order} {width : Nat} (short : bytes.length < offset + width) :
    readAs order width bytes offset = .error .truncated := by
  unfold readAs readWord slice
  rw [if_neg (by omega)]
  rfl

/-- A descriptor of 32 bytes has no upper halves: the wide fields and the checksum of the
bitmap are missing before anything is stored. -/
theorem planAllocation_narrow {g : GroupBits} {number : Nat} (high : 32 ≤ g.high)
    (narrow : s.descriptorSize.toNat = 32)
    (featured : has64Bit s.featureIncompat = true ∨ s.hasMetadataChecksums = true)
    (result : Nat × BitVec 32) :
    planAllocation g groupIndex number allocated s buffers ≠ .ok result := by
  intro planned
  obtain ⟨-, planned⟩ := Except.ite_throw_eq_ok_iff.mp planned
  obtain ⟨d, parsed, planned⟩ := Except.bind_ok planned
  obtain ⟨flags, -, planned⟩ := Except.bind_ok planned
  obtain ⟨-, planned⟩ := Except.ite_throw_eq_ok_iff.mp planned
  obtain ⟨intact, checked, -⟩ := Except.bind_ok planned
  have short : (buffers.descriptor.take s.descriptorSize.toNat).length ≤ 32 := by
    rw [narrow]
    exact length_take_le _ _
  rcases featured with wide | sums
  · obtain ⟨-, parsed⟩ := Except.ite_throw_eq_ok_iff.mp parsed
    obtain ⟨sum, -, parsed⟩ := Except.bind_ok parsed
    obtain ⟨-, parsed⟩ := Except.ite_throw_eq_ok_iff.mp parsed
    obtain ⟨upper, read, -⟩ := Except.bind_ok parsed
    rw [wide] at read
    cases read.symm.trans (readAs_short (by omega))
  · unfold bitmapIntact at checked
    rw [if_pos sums] at checked
    obtain ⟨low, -, checked⟩ := Except.bind_ok checked
    obtain ⟨upper, read, -⟩ := Except.bind_ok checked
    cases read.symm.trans (readAs_short (by omega))

theorem setAllocation_atomic {g : GroupBits} {number : Nat} {e : ParseError}
    (lawful : g.Lawful groupIndex s) (high : 32 ≤ g.high)
    (accepted : Superblock.parse bytes = .ok s)
    (featured : has64Bit s.featureIncompat = true ∨ s.hasMetadataChecksums = true)
    (failed : setAllocation g groupIndex number allocated s buffers = .error e buffers') :
    buffers' = buffers := by
  rcases Superblock.descriptorSize_cases accepted with narrow | wide
  · unfold setAllocation at failed
    cases planned : planAllocation g groupIndex number allocated s buffers with
    | ok result => exact absurd planned (planAllocation_narrow high narrow featured result)
    | error e' =>
      rw [planned] at failed
      cases failed
      rfl
  · rcases setAllocation_cases lawful wide buffers with ⟨e', known⟩ | ⟨_, _, _, _, _, _, -, -, -, -,
      known⟩
    · cases known.symm.trans failed
      rfl
    · cases known.symm.trans failed

end Members

end SlopOS.Ext4
