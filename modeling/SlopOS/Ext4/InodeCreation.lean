import SlopOS.Ext4.Allocation

/-!
# New inodes

A regular file without data is written over a zeroed inode, sealed with its checksum and parsed
again.  The checksum has 32 bits and its upper half has a place only in an inode with extra
fields: there the seal is the one the parser asks for, and the new inode is always accepted.
-/

namespace SlopOS.Ext4

open ByteCodec List

/-- A read of the buffer that is being written. -/
def observe {α : Type} (read : Bytes → Except ParseError α) : EStateM ParseError Bytes α :=
  fun bytes =>
    match read bytes with
    | .ok value => .ok value bytes
    | .error e => .error e bytes

/-- `write_u16` and `write_u32` one after another, up to the first that does not fit. -/
def storeEach : List (Nat × Bytes) → EStateM ParseError Bytes Unit
  | [] => pure ()
  | store :: stores => fun bytes =>
    if store.1 + store.2.length ≤ bytes.length then
      storeEach stores (splice bytes store.1 store.2)
    else .error .truncated bytes

def refreshInodeChecksum (inodeNumber : BitVec 32) (s : Superblock) :
    EStateM ParseError Bytes Unit :=
  if s.hasMetadataChecksums then do
    let generation ← observe (readU32 · 100)
    let checksum ← observe (inodeChecksum · inodeNumber generation s)
    storeU16 124 (checksum.setWidth 16)
    let hasHigh ← observe hasHighChecksum
    if hasHigh then storeU16 130 ((checksum >>> 16).setWidth 16) else pure ()
  else pure ()

def leBytes16 (value : BitVec 16) : Bytes := encode .little 2 value

def emptyInodeStores (inodeSize : Nat) (permissions : BitVec 16)
    (timestamp generation : BitVec 32) : List (Nat × Bytes) :=
  [(0, leBytes16 (REGULAR_FILE_MODE ||| permissions)), (8, leBytes32 timestamp),
    (12, leBytes32 timestamp), (16, leBytes32 timestamp), (26, leBytes16 1#16),
    (32, leBytes32 INODE_FLAG_EXTENTS), (40, leBytes16 EXTENT_HEADER_MAGIC),
    (42, leBytes16 0#16), (44, leBytes16 4#16), (46, leBytes16 0#16), (48, leBytes32 0#32),
    (100, leBytes32 generation)] ++
    if 160 ≤ inodeSize then [(128, leBytes16 32#16), (144, leBytes32 timestamp)] else []

/-- The written inode is parsed again and compared. -/
def isEmptyRegular (inodeNumber generation : BitVec 32) (s : Superblock) (inode : Bytes) :
    Except ParseError Bool := do
  let parsed ← Inode.parse inode inodeNumber s
  if ¬ parsed.isRegularFile ∨ parsed.size ≠ 0#64 ∨ parsed.blockCount512 ≠ 0#64 ∨
      parsed.generation ≠ generation then return false
  else
    let depth ← parsed.extentDepth
    if depth ≠ 0 then return false
    else
      let links ← readU16 inode 26
      return links = 1#16

section

variable (inodeNumber : BitVec 32) (s : Superblock) (permissions : BitVec 16)
  (timestamp generation : BitVec 32)

def fillEmptyInode : EStateM ParseError Bytes Unit := do
  storeEach (emptyInodeStores s.inodeSize.toNat permissions timestamp generation)
  refreshInodeChecksum inodeNumber s
  let accepted ← observe (isEmptyRegular inodeNumber generation s)
  if accepted then pure () else throw .invalidInode

def initializeEmptyRegularInode : EStateM ParseError Bytes Unit := fun bytes =>
  let inodeSize := s.inodeSize.toNat
  if inodeNumber = 0#32 ∨ s.inodeCount.toNat < inodeNumber.toNat ∨ bytes.length < inodeSize ∨
      permissions &&& ~~~0x0fff#16 ≠ 0#16 then .error .invalidInode bytes
  else
    match fillEmptyInode inodeNumber s permissions timestamp generation
        (List.replicate inodeSize 0#8) with
    | .error e inode => .error e (inode ++ bytes.drop inodeSize)
    | .ok _ inode => .ok () (inode ++ bytes.drop inodeSize)

end

/-! ## Stores and reads that succeed -/

section Steps

variable {α : Type} {bytes : Bytes}

theorem storeEach_eq {stores : List (Nat × Bytes)}
    (fits : ∀ store ∈ stores, store.1 + store.2.length ≤ bytes.length) :
    storeEach stores bytes = .ok () (storeAll bytes stores) := by
  induction stores generalizing bytes with
  | nil => rfl
  | cons store stores ih =>
    have here := fits store mem_cons_self
    unfold storeEach
    rw [if_pos here]
    exact ih fun later member => by
      rw [splice_length here]
      exact fits later (mem_cons_of_mem _ member)

theorem observe_eq {read : Bytes → Except ParseError α} {value : α}
    (done : read bytes = .ok value) : observe read bytes = .ok value bytes := by
  unfold observe
  rw [done]

end Steps

/-! ## The checksum of an inode -/

/-- Whether the upper half of the checksum has a place. -/
def highAt (inode : Bytes) : Bool := 131 < inode.length ∧ 4 ≤ (u16 inode 128).toNat

/-- The stores that seal an inode with its checksum. -/
def sealStores (high : Bool) (checksum : BitVec 32) : List (Nat × Bytes) :=
  (124, leBytes16 (checksum.setWidth 16)) ::
    if high then [(130, leBytes16 ((checksum >>> 16).setWidth 16))] else []

def sealed (inode : Bytes) (checksum : BitVec 32) : Bytes :=
  storeAll inode (sealStores (highAt inode) checksum)

theorem hasHighChecksum_eq (inode : Bytes) : hasHighChecksum inode = .ok (highAt inode) := by
  unfold hasHighChecksum highAt
  split
  · rename_i long
    rw [readU16_eq]
    simp [Except.map, long]
  · rename_i short
    simp [short]

section Checksum

variable {inode inode' : Bytes} {inodeNumber checksum : BitVec 32} {s : Superblock}

/-- Before the checksum an inode is the same. -/
structure SameFront (inode inode' : Bytes) : Prop where
  length : inode'.length = inode.length
  front : ∀ i < 124, inode'[i]? = inode[i]?

theorem SameFront.word (same : SameFront inode inode') {width offset : Nat}
    (before : offset + width ≤ 124) :
    wordAt .little width inode' offset = wordAt .little width inode offset :=
  congrArg (decode .little width) (take_drop_congr fun i _ _ => same.front i (by omega))

section

variable (long : 128 ≤ inode.length) (checksum : BitVec 32)
include long

theorem sealed_stored :
    Stored (sealStores (highAt inode) checksum) inode (sealed inode checksum) := by
  have wide : highAt inode = true → 131 < inode.length := fun high => (of_decide_eq_true high).1
  refine stored_storeAll ?_ ?_
  · unfold sealStores leBytes16
    split
    · simp
      have := wide ‹_›
      omega
    · simp
      omega
  · unfold sealStores leBytes16
    split
    · simp [Apart]
    · simp

/-- The bytes that the stores leave alone. -/
theorem sealed_kept {i : Nat}
    (away : i < 124 ∨ 126 ≤ i ∧ (i < 130 ∨ 132 ≤ i ∨ highAt inode = false)) :
    (sealed inode checksum)[i]? = inode[i]? := by
  refine (sealed_stored long checksum).frame i ?_
  unfold sealStores leBytes16
  split
  · simp_all
    omega
  · simp
    omega

theorem sealed_front : SameFront inode (sealed inode checksum) :=
  ⟨(sealed_stored long checksum).length, fun _ before => sealed_kept long checksum (.inl before)⟩

end

theorem highAt_congr (length : inode'.length = inode.length)
    (same : ∀ i, 128 ≤ i → i < 130 → inode'[i]? = inode[i]?) : highAt inode' = highAt inode := by
  have word : u16 inode' 128 = u16 inode 128 := congrArg (decode .little 2) (take_drop_congr same)
  unfold highAt
  rw [length, word]

theorem highAt_sealed (long : 128 ≤ inode.length) (checksum : BitVec 32) :
    highAt (sealed inode checksum) = highAt inode :=
  highAt_congr (sealed_front long checksum).length fun i _ _ =>
    sealed_kept long checksum (by omega)

/-- The checksum skips the places where it is stored. -/
theorem inodeChecksum_sealed (long : 128 ≤ inode.length) (checksum generation : BitVec 32) :
    inodeChecksum (sealed inode checksum) inodeNumber generation s =
      inodeChecksum inode inodeNumber generation s := by
  have start : (sealed inode checksum).take 124 = inode.take 124 :=
    @take_drop_congr _ _ 0 124 fun i _ _ => sealed_kept long checksum (by omega)
  unfold inodeChecksum
  rw [(sealed_front long checksum).length, hasHighChecksum_eq, hasHighChecksum_eq,
    highAt_sealed long, start]
  cases high : highAt inode with
  | true =>
    have middle : ((sealed inode checksum).drop 126).take 4 = (inode.drop 126).take 4 :=
      take_drop_congr fun i _ _ => sealed_kept long checksum (by omega)
    have rest : (sealed inode checksum).drop 132 = inode.drop 132 :=
      drop_congr fun i _ => sealed_kept long checksum (by omega)
    rw [middle, rest]
    rfl
  | false =>
    have rest : (sealed inode checksum).drop 126 = inode.drop 126 :=
      drop_congr fun i after => sealed_kept long checksum (.inr ⟨after, .inr (.inr high)⟩)
    rw [rest]
    rfl

theorem inodeStoredChecksum_sealed (long : 128 ≤ inode.length) :
    inodeStoredChecksum (sealed inode checksum) = .ok (joinHalves16 (checksum.setWidth 16)
      (bif highAt inode then (checksum >>> 16).setWidth 16 else 0#16)) := by
  have stored := sealed_stored long checksum
  have length := stored.length
  have low : u16 (sealed inode checksum) 124 = checksum.setWidth 16 := stored.word (mem_cons_self)
  unfold inodeStoredChecksum
  rw [readU16_eq, hasHighChecksum_eq, highAt_sealed long, low]
  cases high : highAt inode with
  | true =>
    have high : u16 (sealed inode checksum) 130 = (checksum >>> 16).setWidth 16 :=
      stored.word (by simp [sealStores, high, leBytes16])
    have wide := of_decide_eq_true ‹highAt inode = true›
    rw [readU16_eq, high]
    rfl
  | false => rfl

/-- The refresh stores the checksum of all other bytes. -/
theorem refreshInodeChecksum_eq (checksums : s.hasMetadataChecksums = true)
    (long : 128 ≤ inode.length)
    (computed : inodeChecksum inode inodeNumber (u32 inode 100) s = .ok checksum) :
    refreshInodeChecksum inodeNumber s inode = .ok () (sealed inode checksum) := by
  have low : storeU16 124 (checksum.setWidth 16) inode = .ok () _ := storeU16_eq (by omega)
  have length := setU16_length (checksum.setWidth 16) (show 124 + 2 ≤ inode.length by omega)
  have same : highAt (setU16 inode 124 (checksum.setWidth 16)) = highAt inode :=
    highAt_congr length fun i _ _ => (getElem?_splice (by rw [encode_length]; omega) i).trans
      (if_neg (by rw [encode_length]; omega))
  unfold refreshInodeChecksum
  rw [if_pos checksums, step_bind (observe_eq readU32_eq),
    step_bind (observe_eq computed), step_bind low, step_bind (observe_eq (hasHighChecksum_eq _)),
    same]
  unfold sealed sealStores
  cases high : highAt inode with
  | true =>
    have wide := of_decide_eq_true high
    exact storeU16_eq (by omega)
  | false => rfl

/-- What a refresh leaves: the test of the parser succeeds if the upper half has a place, and
fails if there is an upper half without one. -/
theorem refreshInodeChecksum_exact (inodeNumber : BitVec 32) (s : Superblock)
    (long : 128 ≤ inode.length) :
    ∃ inode', refreshInodeChecksum inodeNumber s inode = .ok () inode' ∧ SameFront inode inode' ∧
      ((s.hasMetadataChecksums = true → highAt inode = true) →
        inodeChecksumMatches inode' inodeNumber (u32 inode' 100) s = .ok true) ∧
      ∀ checksum, s.hasMetadataChecksums = true → highAt inode = false →
        inodeChecksum inode inodeNumber (u32 inode 100) s = .ok checksum →
        (checksum >>> 16).setWidth 16 ≠ 0#16 →
        inodeChecksumMatches inode' inodeNumber (u32 inode' 100) s = .ok false := by
  by_cases checksums : s.hasMetadataChecksums = true
  swap
  · refine ⟨inode, ?_, ⟨rfl, fun _ _ => rfl⟩, fun _ => if_neg checksums,
      fun _ given => absurd given checksums⟩
    unfold refreshInodeChecksum
    rw [if_neg checksums]
    rfl
  obtain ⟨checksum, computed⟩ : ∃ checksum,
      inodeChecksum inode inodeNumber (u32 inode 100) s = .ok checksum := by
    unfold inodeChecksum
    rw [if_neg (by omega), hasHighChecksum_eq, ok_bind]
    split
    · exact ⟨_, rfl⟩
    · exact ⟨_, rfl⟩
  have stamp : u32 (sealed inode checksum) 100 = u32 inode 100 :=
    (sealed_front long checksum).word (by omega)
  have test : inodeChecksumMatches (sealed inode checksum) inodeNumber
      (u32 (sealed inode checksum) 100) s = .ok (checksum == joinHalves16 (checksum.setWidth 16)
        (bif highAt inode then (checksum >>> 16).setWidth 16 else 0#16)) := by
    unfold inodeChecksumMatches
    rw [if_pos checksums, stamp, inodeChecksum_sealed long, computed,
      inodeStoredChecksum_sealed long]
    rfl
  refine ⟨_, refreshInodeChecksum_eq checksums long computed, sealed_front long checksum, ?_, ?_⟩
  · intro wide
    rw [test, wide checksums]
    exact congrArg Except.ok (beq_iff_eq.mpr (joinHalves16_eq_iff.mpr ⟨rfl, rfl⟩).symm)
  intro other _ narrow found upper
  cases computed.symm.trans found
  rw [test, narrow]
  refine congrArg Except.ok (beq_eq_false_iff_ne.mpr fun same => upper ?_)
  exact (joinHalves16_eq_iff.mp same.symm).2.symm

/-! ## The parser -/

/-- The fields of an inode that is long enough. -/
def Inode.fields (inodeNumber : BitVec 32) (inode : Bytes) : Inode where
  number := inodeNumber
  mode := u16 inode 0
  uid := joinHalves16 (u16 inode 2) (u16 inode 120)
  gid := joinHalves16 (u16 inode 24) (u16 inode 122)
  size := joinHalves (u32 inode 4) (u32 inode 108)
  blockCount512 := joinHalves (u32 inode 28) ((u16 inode 116).setWidth 32)
  flags := u32 inode 32
  generation := u32 inode 100
  extentRoot := (inode.drop 40).take 60

theorem Inode.parse_eq {intact : Bool} (size : inode.length = s.inodeSize.toNat)
    (long : 128 ≤ inode.length)
    (number : inodeNumber ≠ 0#32 ∧ inodeNumber.toNat ≤ s.inodeCount.toNat)
    (test : inodeChecksumMatches inode inodeNumber (u32 inode 100) s = .ok intact) :
    parse inode inodeNumber s =
      if intact = false then .error .invalidChecksum else .ok (fields inodeNumber inode) := by
  have whole : inode.take s.inodeSize.toNat = inode := take_of_length_le size.le
  unfold parse
  rw [if_neg (not_or.mpr ⟨number.1, by omega⟩), if_neg (by omega), whole]
  simp (disch := omega) only [readU16_eq, readU32_eq, readU16OrZero_eq, ok_bind, test]
  rfl

end Checksum

/-! ## The new inode -/

theorem wordAt_zero (width size offset : Nat) :
    wordAt .little width (replicate size 0#8) offset = BitVec.ofNat (8 * width) 0 := by
  have zero : ∀ count, fromLE (replicate count 0#8) = 0 := by
    intro count
    induction count with
    | zero => rfl
    | succ count ih => simp [replicate_succ, fromLE, ih]
  unfold wordAt decode Order.arrange
  rw [drop_replicate, take_replicate, zero]

/-- A word of the extent root is a word of the inode. -/
theorem u16_extentRoot (inode : Bytes) {offset : Nat} (inside : offset + 2 ≤ 60) :
    u16 ((inode.drop 40).take 60) offset = u16 inode (40 + offset) := by
  unfold u16 wordAt
  rw [drop_take, drop_drop, take_take, Nat.min_eq_left (by omega)]

section Creation

variable {inode : Bytes} {inodeNumber timestamp generation : BitVec 32} {s : Superblock}
  {permissions : BitVec 16} {inodeSize : Nat}

theorem emptyInodeStores_fit (long : 128 ≤ inodeSize) {store : Nat × Bytes}
    (member : store ∈ emptyInodeStores inodeSize permissions timestamp generation) :
    store.1 + store.2.length ≤ (replicate inodeSize 0#8).length := by
  revert store
  unfold emptyInodeStores leBytes16 leBytes32
  split
  · simp [-cons_append]
    omega
  · simp
    omega

/-- The new inode before its checksum is stored. -/
def emptyInode (inodeSize : Nat) (permissions : BitVec 16) (timestamp generation : BitVec 32) :
    Bytes :=
  storeAll (List.replicate inodeSize 0#8)
    (emptyInodeStores inodeSize permissions timestamp generation)

theorem emptyInode_stored (long : 128 ≤ inodeSize) :
    Stored (emptyInodeStores inodeSize permissions timestamp generation)
      (replicate inodeSize 0#8) (emptyInode inodeSize permissions timestamp generation) := by
  refine stored_storeAll (fun _ => emptyInodeStores_fit long) ?_
  unfold emptyInodeStores leBytes16 leBytes32
  split
  · simp [Apart]
  · simp [Apart]

/-- The new inode passes the comparisons, sealed or not. -/
theorem emptyInode_regular (long : 128 ≤ inodeSize) (valid : permissions &&& ~~~0x0fff#16 = 0#16)
    (same : SameFront (emptyInode inodeSize permissions timestamp generation) inode) :
    (u16 inode 26 = 1#16 ∧ (Inode.fields inodeNumber inode).extentDepth = .ok 0) ∧
    (Inode.fields inodeNumber inode).isRegularFile = true ∧
    (Inode.fields inodeNumber inode).size = 0#64 ∧
    (Inode.fields inodeNumber inode).blockCount512 = 0#64 ∧
    (Inode.fields inodeNumber inode).generation = generation := by
  have stored := @emptyInode_stored timestamp generation permissions inodeSize long
  have length : inode.length = inodeSize := same.length.trans (stored.length.trans length_replicate)
  have written : ∀ {width offset : Nat} {value : BitVec (8 * width)}, offset + width ≤ 124 →
      (offset, encode .little width value) ∈
        emptyInodeStores inodeSize permissions timestamp generation →
      wordAt .little width inode offset = value := fun before member =>
    (same.word before).trans (stored.word member)
  have blank : ∀ {width offset : Nat}, offset + width ≤ 124 →
      (∀ store ∈ emptyInodeStores inodeSize permissions timestamp generation,
        offset + width ≤ store.1 ∨ store.1 + store.2.length ≤ offset) →
      wordAt .little width inode offset = BitVec.ofNat (8 * width) 0 := fun before away =>
    (same.word before).trans ((stored.word_kept away).trans (wordAt_zero _ _ _))
  unfold emptyInodeStores leBytes16 leBytes32 at written blank
  have mode : u16 inode 0 = REGULAR_FILE_MODE ||| permissions := written (by decide) (by simp)
  have links : u16 inode 26 = 1#16 := written (by decide) (by simp)
  have flags : u32 inode 32 = INODE_FLAG_EXTENTS := written (by decide) (by simp)
  have magic : u16 inode 40 = EXTENT_HEADER_MAGIC := written (by decide) (by simp)
  have entries : u16 inode 42 = 0#16 := written (by decide) (by simp)
  have maximum : u16 inode 44 = 4#16 := written (by decide) (by simp)
  have depth : u16 inode 46 = 0#16 := written (by decide) (by simp)
  have stamp : u32 inode 100 = generation := written (by decide) (by simp)
  have zeros : u32 inode 4 = 0#32 ∧ u32 inode 108 = 0#32 ∧ u32 inode 28 = 0#32 ∧
      u16 inode 116 = 0#16 := by
    refine ⟨blank (by decide) ?_, blank (by decide) ?_, blank (by decide) ?_, blank (by decide) ?_⟩
    all_goals split <;> simp
  have root : ((inode.drop 40).take 60).length = 60 := by
    simp only [length_take, length_drop]
    omega
  have mask : ~~~0x0fff#16 = MODE_TYPE_MASK := by decide
  unfold Inode.extentDepth Inode.extentHeader parseExtentHeader Inode.isRegularFile Inode.fields
  dsimp only
  refine ⟨⟨links, ?_⟩, ?_, ?_, ?_, stamp⟩
  · rw [flags, if_neg (by decide)]
    simp (disch := omega) only [readU16_eq, ok_bind, u16_extentRoot, magic, entries, maximum, depth]
    decide
  · rw [mode, BitVec.and_comm, BitVec.and_or_distrib_left, BitVec.and_comm _ permissions, ← mask,
      valid]
    decide
  · rw [zeros.1, zeros.2.1]
    decide
  · rw [zeros.2.2.1, zeros.2.2.2]
    decide

theorem isEmptyRegular_ok (size : 128 ≤ s.inodeSize.toNat)
    (valid : permissions &&& ~~~0x0fff#16 = 0#16)
    (same : SameFront (emptyInode s.inodeSize.toNat permissions timestamp generation) inode)
    (parsed : Inode.parse inode inodeNumber s = .ok (Inode.fields inodeNumber inode)) :
    isEmptyRegular inodeNumber generation s inode = .ok true := by
  have length : inode.length = s.inodeSize.toNat :=
    same.length.trans ((emptyInode_stored size).length.trans length_replicate)
  obtain ⟨⟨links, depth⟩, regular, empty, blocks, stamp⟩ := emptyInode_regular size valid same
  unfold isEmptyRegular
  rw [parsed, ok_bind, if_neg, depth, readU16_eq, links]
  · rfl
  · rw [regular, empty, blocks, stamp]
    simp

/-- What becomes of the new inode. -/
theorem initializeEmptyRegularInode_exact {bytes : Bytes} (long : 128 ≤ s.inodeSize.toNat)
    (number : inodeNumber ≠ 0#32 ∧ inodeNumber.toNat ≤ s.inodeCount.toNat)
    (valid : permissions &&& ~~~0x0fff#16 = 0#16) (buffer : s.inodeSize.toNat ≤ bytes.length) :
    ∃ bytes', ((s.hasMetadataChecksums = true → 160 ≤ s.inodeSize.toNat) →
        initializeEmptyRegularInode inodeNumber s permissions timestamp generation bytes =
          .ok () bytes') ∧ ∀ checksum, s.hasMetadataChecksums = true → s.inodeSize.toNat = 128 →
        inodeChecksum (emptyInode s.inodeSize.toNat permissions timestamp generation) inodeNumber
          generation s = .ok checksum → (checksum >>> 16).setWidth 16 ≠ 0#16 →
        initializeEmptyRegularInode inodeNumber s permissions timestamp generation bytes =
          .error .invalidChecksum bytes' := by
  have stored := @emptyInode_stored timestamp generation permissions _ long
  have length := stored.length.trans length_replicate
  obtain ⟨inode, refreshed, same, wide, narrow⟩ :=
    refreshInodeChecksum_exact inodeNumber s (long.trans length.ge)
  have size := same.length.trans length
  have filled : storeEach _ (replicate s.inodeSize.toNat 0#8) =
    .ok () (emptyInode s.inodeSize.toNat permissions timestamp generation) :=
    storeEach_eq fun _ => emptyInodeStores_fit long
  have guard : ¬ (inodeNumber = 0#32 ∨ s.inodeCount.toNat < inodeNumber.toNat ∨
      bytes.length < s.inodeSize.toNat ∨ permissions &&& ~~~0x0fff#16 ≠ 0#16) := by
    simp only [number.1, valid, false_or, ne_eq, not_true_eq_false, or_false]
    omega
  have run : ∀ {accepted : Except ParseError Bool},
      isEmptyRegular inodeNumber generation s inode = accepted →
      fillEmptyInode inodeNumber s permissions timestamp generation
        (replicate s.inodeSize.toNat 0#8) =
        match accepted with
        | .ok true => .ok () inode
        | .ok false => .error .invalidInode inode
        | .error e => .error e inode := by
    intro accepted checked
    unfold fillEmptyInode
    rw [step_bind filled, step_bind refreshed]
    show EStateM.bind _ _ inode = _
    unfold EStateM.bind observe
    rw [checked]
    rcases accepted with e | _ | _
    · rfl
    · rfl
    · rfl
  refine ⟨inode ++ bytes.drop s.inodeSize.toNat, fun room => ?_,
    fun checksum checksums short computed upper => ?_⟩
  · have high : s.hasMetadataChecksums = true →
        highAt (emptyInode s.inodeSize.toNat permissions timestamp generation) = true := by
      intro checksums
      have extra : u16 (emptyInode s.inodeSize.toNat permissions timestamp generation) 128 =
        32#16 := stored.word (mem_append_right _ (by simp [room checksums, leBytes16]))
      have large := room checksums
      exact decide_eq_true ⟨by omega, by rw [extra]; decide⟩
    have parsed := Inode.parse_eq size (by omega) number (wide high)
    unfold initializeEmptyRegularInode
    rw [if_neg guard, run (isEmptyRegular_ok long valid same parsed)]
  · have stamp : u32 (emptyInode s.inodeSize.toNat permissions timestamp generation) 100 =
        generation := stored.word (by simp [emptyInodeStores, leBytes32])
    have small : highAt (emptyInode s.inodeSize.toNat permissions timestamp generation) = false :=
      decide_eq_false (by omega)
    have parsed := Inode.parse_eq size (by omega) number
      (narrow checksum checksums small (stamp.symm ▸ computed) upper)
    have failed : isEmptyRegular inodeNumber generation s inode = .error .invalidChecksum := by
      unfold isEmptyRegular
      rw [parsed]
      rfl
    unfold initializeEmptyRegularInode
    rw [if_neg guard, run failed]

theorem permissions_valid (bound : permissions.toNat < 0x1000) :
    permissions &&& ~~~0x0fff#16 = 0#16 := by
  apply BitVec.eq_of_getLsbD_eq
  intro i inside
  have low : ∀ i < 12, (~~~0x0fff#16).getLsbD i = false := by decide
  rw [BitVec.getLsbD_and, BitVec.getLsbD_zero]
  by_cases small : i < 12
  · rw [low i small, Bool.and_false]
  · have above : permissions.toNat < 2 ^ i :=
      bound.trans_le (Nat.pow_le_pow_right Nat.two_pos (show 12 ≤ i by omega))
    rw [BitVec.getLsbD, Nat.testBit_lt_two_pow above, Bool.false_and]

theorem Superblock.inodeSize_cases {image : Bytes} (accepted : parse image = .ok s) :
    s.inodeSize.toNat = 128 ∨ 256 ≤ s.inodeSize.toNat := by
  have power : ∀ size < 128, isPowerOfTwo (128 + size) = true → size = 0 := by decide +kernel
  obtain ⟨⟨lower, whole⟩, -⟩ := sizes accepted
  by_cases below : s.inodeSize.toNat < 256
  · have zero := power (s.inodeSize.toNat - 128) (by omega)
    rw [Nat.add_sub_cancel' lower] at zero
    exact .inl (by have := zero whole; omega)
  · exact .inr (not_lt.mp below)

/-- A layout with checksums and inodes of the given size. -/
def unsealedImage (inodeSize : BitVec 32) : Bytes :=
  setU32 (setU32 (superblockImage inodeSize 0#32 0#32) 100
    FEATURE_READ_ONLY_COMPAT_METADATA_CHECKSUM) 372 0x0100#32

def sealedImage (inodeSize : BitVec 32) : Bytes :=
  setU32 (unsealedImage inodeSize) 1020
    (crc32c (BitVec.allOnes 32) ((unsealedImage inodeSize).take 1020))

def sealedSuperblock (inodeSize : BitVec 32) : Superblock :=
  Superblock.fields (sealedImage inodeSize)

theorem sealedImage_accepted {inodeSize : BitVec 32}
    (known : inodeSize = 128#32 ∨ inodeSize = 256#32) :
    Superblock.parse (sealedImage inodeSize) = .ok (sealedSuperblock inodeSize) := by
  have intact : crc32c (BitVec.allOnes 32) ((sealedImage inodeSize).take 1020) =
      u32 (sealedImage inodeSize) 1020 := by
    have inside : 1020 + 4 ≤ (unsealedImage inodeSize).length := by
      rcases known with rfl | rfl
      · decide +kernel
      · decide +kernel
    unfold sealedImage
    rw [u32_setU32 _ inside]
    exact congrArg (crc32c _) (@take_drop_setU32 _ 1020 0 1020 _ inside (by omega) (by omega))
  refine Superblock.parseInternal_ok_iff.mpr ⟨?_, ?_, rfl⟩
  · rcases known with rfl | rfl
    · decide +kernel
    · decide +kernel
  unfold Superblock.reject
  simp only [ite_some_eq_none_iff]
  refine ⟨?_, ?_, ?_, ?_, ?_, ?_, fun bad => bad.2 intact, ?_, ?_, trivial⟩
  all_goals
    rcases known with rfl | rfl
    · decide +kernel
    · decide +kernel

/-- The first inode of 128 bytes, summed up in three runs. -/
theorem first_inode_checksum : inodeChecksum (emptyInode 128 0#16 0#32 0#32) 1#32 0#32
    (sealedSuperblock 128#32) = .ok 0xd2b26d30#32 := by
  have length : (emptyInode 128 0#16 0#32 0#32).length = 128 := by decide +kernel
  have start : crc32c (crc32c (sealedSuperblock 128#32).checksumSeed (leBytes32 1#32))
      (leBytes32 0#32) = 842559030#32 := by decide +kernel
  have runs : (emptyInode 128 0#16 0#32 0#32).take 124 = (emptyInode 128 0#16 0#32 0#32).take 48 ++
        (((emptyInode 128 0#16 0#32 0#32).drop 48).take 48 ++ replicate 28 0#8) := by
    decide +kernel
  have first : crc32c 842559030#32 ((emptyInode 128 0#16 0#32 0#32).take 48) = 2484416247#32 := by
    decide +kernel
  have second : crc32c 2484416247#32 (((emptyInode 128 0#16 0#32 0#32).drop 48).take 48) =
      2552967522#32 := by decide +kernel
  have third : crc32c 2552967522#32 (replicate 28 0#8) = 1822364234#32 := by decide +kernel
  have rest : (emptyInode 128 0#16 0#32 0#32).drop 126 = [0#8, 0#8] := by decide +kernel
  have last : crc32c (crc32c 1822364234#32 [0#8, 0#8]) [0#8, 0#8] = 0xd2b26d30#32 := by
    decide +kernel
  generalize emptyInode 128 0#16 0#32 0#32 = inode at *
  have narrow : hasHighChecksum inode = .ok false := if_neg (by omega)
  unfold inodeChecksum
  rw [if_neg (by omega), narrow]
  dsimp only
  rw [start, runs, crc32c_append, crc32c_append, first, second, third, rest, last]
  rfl

end Creation

end SlopOS.Ext4
