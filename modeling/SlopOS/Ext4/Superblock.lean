import SlopOS.Ext4.Words

/-!
# The ext4 superblock

Parsing with and without the recovery flag, and the in-place update that sets or
clears it.  The update succeeds on every superblock that parses for recovery, and
setting then clearing the flag gives the bytes back.
-/

namespace SlopOS.Ext4

open ByteCodec

def SUPERBLOCK_SIZE : Nat := 1024
def SUPERBLOCK_MAGIC : BitVec 16 := 0xef53#16
def FEATURE_INCOMPAT_RECOVER : BitVec 32 := 0x0004#32
def FEATURE_INCOMPAT_64BIT : BitVec 32 := 0x0080#32
def FEATURE_INCOMPAT_CHECKSUM_SEED : BitVec 32 := 0x2000#32
def FEATURE_READ_ONLY_COMPAT_METADATA_CHECKSUM : BitVec 32 := 0x0400#32
def FEATURE_INCOMPAT_FILETYPE : BitVec 32 := 0x0002#32
def FEATURE_INCOMPAT_EXTENTS : BitVec 32 := 0x0040#32
def FEATURE_INCOMPAT_FLEX_BG : BitVec 32 := 0x0200#32
def SUPPORTED_INCOMPAT_FEATURES : BitVec 32 :=
  FEATURE_INCOMPAT_FILETYPE ||| FEATURE_INCOMPAT_RECOVER ||| FEATURE_INCOMPAT_EXTENTS |||
    FEATURE_INCOMPAT_64BIT ||| FEATURE_INCOMPAT_FLEX_BG ||| FEATURE_INCOMPAT_CHECKSUM_SEED
def FILESYSTEM_STATE_CLEAN : BitVec 16 := 0x0001#16

def has64Bit (featureIncompat : BitVec 32) : Bool :=
  featureIncompat &&& FEATURE_INCOMPAT_64BIT ≠ 0#32

def hasChecksumSeed (featureIncompat : BitVec 32) : Bool :=
  featureIncompat &&& FEATURE_INCOMPAT_CHECKSUM_SEED ≠ 0#32

def hasMetadataChecksum (featureReadOnlyCompat : BitVec 32) : Bool :=
  featureReadOnlyCompat &&& FEATURE_READ_ONLY_COMPAT_METADATA_CHECKSUM ≠ 0#32

structure Superblock where
  inodeCount : BitVec 32
  blockCount : BitVec 64
  freeBlockCount : BitVec 64
  freeInodeCount : BitVec 32
  firstDataBlock : BitVec 32
  blockSize : BitVec 32
  blocksPerGroup : BitVec 32
  inodesPerGroup : BitVec 32
  state : BitVec 16
  errors : BitVec 16
  revision : BitVec 32
  inodeSize : BitVec 16
  descriptorSize : BitVec 16
  featureCompat : BitVec 32
  featureIncompat : BitVec 32
  featureReadOnlyCompat : BitVec 32
  uuid : Bytes
  volumeName : Bytes
  checksumType : BitVec 8
  checksum : BitVec 32
  checksumSeed : BitVec 32
  journalInode : BitVec 32
  deriving DecidableEq, Repr

/-- A 64-bit count from its two halves. -/
def joinHalves (low high : BitVec 32) : BitVec 64 :=
  low.setWidth 64 ||| (high.setWidth 64 <<< 32)

/-- A field that is read only with the feature, and has a default without it. -/
def readIf {width : Nat} (feature : Bool) (read : Except ParseError (BitVec width))
    (default : BitVec width) : Except ParseError (BitVec width) :=
  if feature then read else .ok default

variable (bytes : Bytes)

def Superblock.parseInternal (allowRecovery : Bool) : Except ParseError Superblock :=
  if bytes.length < SUPERBLOCK_SIZE then throw .truncated
  else do
    let magic ← readU16 bytes 56
    if magic ≠ SUPERBLOCK_MAGIC then throw .invalidMagic
    else
      let logarithm ← readU32 bytes 24
      if 6 < logarithm.toNat then throw .invalidBlockSize
      else
        let blockSize : BitVec 32 := 1024#32 <<< logarithm.toNat
        let revision ← readU32 bytes 76
        let inodeSize ← readIf (revision ≠ 0#32) (readU16 bytes 88) 128#16
        if inodeSize.toNat < 128 ∨ ¬ isPowerOfTwo inodeSize.toNat ∨
            blockSize.toNat < inodeSize.toNat then throw .invalidInodeSize
        else
          let featureIncompat ← readU32 bytes 96
          let featureReadOnlyCompat ← readU32 bytes 100
          if featureIncompat &&& ~~~SUPPORTED_INCOMPAT_FEATURES ≠ 0#32 then
            throw .unsupportedFeature
          else
            let descriptorSize ← readIf (has64Bit featureIncompat) (readU16 bytes 254) 32#16
            if descriptorSize.toNat < 32 ∨ ¬ isPowerOfTwo descriptorSize.toNat ∨
                blockSize.toNat < descriptorSize.toNat then throw .invalidDescriptorSize
            else
              let blockCountLow ← readU32 bytes 4
              let freeBlockCountLow ← readU32 bytes 12
              let blockCountHigh ← readIf (has64Bit featureIncompat) (readU32 bytes 336) 0#32
              let freeBlockCountHigh ←
                readIf (has64Bit featureIncompat) (readU32 bytes 344) 0#32
              let uuid := (bytes.drop 104).take 16
              let volumeName := (bytes.drop 120).take 16
              let checksumType := bytes.getD 373 0#8
              let checksum ← readU32 bytes 1020
              let checksumSeed ←
                readIf (hasChecksumSeed featureIncompat) (readU32 bytes 624)
                  (crc32c (BitVec.allOnes 32) uuid)
              if hasMetadataChecksum featureReadOnlyCompat ∧ checksumType ≠ 1#8 then
                throw .unsupportedChecksum
              else if hasMetadataChecksum featureReadOnlyCompat ∧
                  crc32c (BitVec.allOnes 32) (bytes.take 1020) ≠ checksum then
                throw .invalidChecksum
              else
                let inodeCount ← readU32 bytes 0
                let blocksPerGroup ← readU32 bytes 32
                let inodesPerGroup ← readU32 bytes 40
                let blockCount := joinHalves blockCountLow blockCountHigh
                let freeBlockCount := joinHalves freeBlockCountLow freeBlockCountHigh
                let firstDataBlock ← readU32 bytes 20
                if inodeCount = 0#32 ∨ blockCount.toNat ≤ firstDataBlock.toNat ∨
                    blockCount.toNat < freeBlockCount.toNat ∨ blocksPerGroup = 0#32 ∨
                    inodesPerGroup = 0#32 then throw .invalidGeometry
                else
                  let state ← readU16 bytes 58
                  if state &&& FILESYSTEM_STATE_CLEAN = 0#16 ∨
                      (¬ allowRecovery ∧
                        featureIncompat &&& FEATURE_INCOMPAT_RECOVER ≠ 0#32) then
                    throw .dirtyFilesystem
                  else
                    let freeInodeCount ← readU32 bytes 16
                    let errors ← readU16 bytes 60
                    let featureCompat ← readU32 bytes 92
                    let journalInode ← readU32 bytes 224
                    return {
                      inodeCount, blockCount, freeBlockCount, freeInodeCount, firstDataBlock,
                      blockSize, blocksPerGroup, inodesPerGroup, state, errors, revision,
                      inodeSize, descriptorSize, featureCompat, featureIncompat,
                      featureReadOnlyCompat, uuid, volumeName, checksumType, checksum,
                      checksumSeed, journalInode }

def Superblock.parse : Except ParseError Superblock :=
  Superblock.parseInternal bytes false

def Superblock.parseForRecovery : Except ParseError Superblock :=
  Superblock.parseInternal bytes true

def Superblock.hasMetadataChecksums (s : Superblock) : Bool :=
  hasMetadataChecksum s.featureReadOnlyCompat

/-- The checksum over the first 1020 bytes, rewritten when the filesystem has one. -/
def refreshChecksum (superblock : Superblock) (bytes : Bytes) : Except ParseError Bytes :=
  if superblock.hasMetadataChecksums then
    writeU32 bytes 1020 (crc32c (BitVec.allOnes 32) (bytes.take 1020))
  else .ok bytes

def setSuperblockRecovery (required : Bool) : Except ParseError Bytes := do
  let superblock ← Superblock.parseInternal bytes true
  let featureIncompat :=
    if required then superblock.featureIncompat ||| FEATURE_INCOMPAT_RECOVER
    else superblock.featureIncompat &&& ~~~FEATURE_INCOMPAT_RECOVER
  let bytes ← writeU32 bytes 96 featureIncompat
  let bytes ← refreshChecksum superblock bytes
  let _ ← Superblock.parseInternal bytes true
  return bytes

/-! ## The parse as one decision -/

section Fields

variable (bytes : Bytes)

def inodeSizeAt : BitVec 16 := bif u32 bytes 76 ≠ 0#32 then u16 bytes 88 else 128#16

def descriptorSizeAt : BitVec 16 := bif has64Bit (u32 bytes 96) then u16 bytes 254 else 32#16

def blockCountHighAt : BitVec 32 := bif has64Bit (u32 bytes 96) then u32 bytes 336 else 0#32

def freeBlockCountHighAt : BitVec 32 := bif has64Bit (u32 bytes 96) then u32 bytes 344 else 0#32

def checksumSeedAt : BitVec 32 :=
  bif hasChecksumSeed (u32 bytes 96) then u32 bytes 624
  else crc32c (BitVec.allOnes 32) ((bytes.drop 104).take 16)

/-- The fields of a buffer that is long enough. -/
def Superblock.fields : Superblock where
  inodeCount := u32 bytes 0
  blockCount := joinHalves (u32 bytes 4) (blockCountHighAt bytes)
  freeBlockCount := joinHalves (u32 bytes 12) (freeBlockCountHighAt bytes)
  freeInodeCount := u32 bytes 16
  firstDataBlock := u32 bytes 20
  blockSize := 1024#32 <<< (u32 bytes 24).toNat
  blocksPerGroup := u32 bytes 32
  inodesPerGroup := u32 bytes 40
  state := u16 bytes 58
  errors := u16 bytes 60
  revision := u32 bytes 76
  inodeSize := inodeSizeAt bytes
  descriptorSize := descriptorSizeAt bytes
  featureCompat := u32 bytes 92
  featureIncompat := u32 bytes 96
  featureReadOnlyCompat := u32 bytes 100
  uuid := (bytes.drop 104).take 16
  volumeName := (bytes.drop 120).take 16
  checksumType := bytes.getD 373 0#8
  checksum := u32 bytes 1020
  checksumSeed := checksumSeedAt bytes
  journalInode := u32 bytes 224

/-- The first error of the parse. -/
def Superblock.reject (allowRecovery : Bool) : Option ParseError :=
  if u16 bytes 56 ≠ SUPERBLOCK_MAGIC then some .invalidMagic
  else if 6 < (u32 bytes 24).toNat then some .invalidBlockSize
  else if (inodeSizeAt bytes).toNat < 128 ∨ ¬ isPowerOfTwo (inodeSizeAt bytes).toNat ∨
      (1024#32 <<< (u32 bytes 24).toNat).toNat < (inodeSizeAt bytes).toNat then
    some .invalidInodeSize
  else if u32 bytes 96 &&& ~~~SUPPORTED_INCOMPAT_FEATURES ≠ 0#32 then some .unsupportedFeature
  else if (descriptorSizeAt bytes).toNat < 32 ∨ ¬ isPowerOfTwo (descriptorSizeAt bytes).toNat ∨
      (1024#32 <<< (u32 bytes 24).toNat).toNat < (descriptorSizeAt bytes).toNat then
    some .invalidDescriptorSize
  else if hasMetadataChecksum (u32 bytes 100) ∧ bytes.getD 373 0#8 ≠ 1#8 then
    some .unsupportedChecksum
  else if hasMetadataChecksum (u32 bytes 100) ∧
      crc32c (BitVec.allOnes 32) (bytes.take 1020) ≠ u32 bytes 1020 then some .invalidChecksum
  else if u32 bytes 0 = 0#32 ∨
      (joinHalves (u32 bytes 4) (blockCountHighAt bytes)).toNat ≤ (u32 bytes 20).toNat ∨
      (joinHalves (u32 bytes 4) (blockCountHighAt bytes)).toNat <
        (joinHalves (u32 bytes 12) (freeBlockCountHighAt bytes)).toNat ∨
      u32 bytes 32 = 0#32 ∨ u32 bytes 40 = 0#32 then some .invalidGeometry
  else if u16 bytes 58 &&& FILESYSTEM_STATE_CLEAN = 0#16 ∨
      (¬ allowRecovery ∧ u32 bytes 96 &&& FEATURE_INCOMPAT_RECOVER ≠ 0#32) then
    some .dirtyFilesystem
  else none

end Fields

variable {α : Type} {allowRecovery : Bool} {value : α}

/-- A read in the buffer hands its word on. -/
theorem ok_bind {γ : Type} (value : α) (f : α → Except ParseError γ) :
    ((Except.ok value : Except ParseError α) >>= f) = f value := rfl

theorem readIf_ok {width : Nat} (feature : Bool) (value default : BitVec width) :
    readIf feature (.ok value) default = .ok (bif feature then value else default) := by
  cases feature with
  | true => rfl
  | false => rfl

/-- The outcome of a parse from its first error. -/
def verdict {α : Type} (reject : Option ParseError) (value : α) : Except ParseError α :=
  match reject with
  | some e => .error e
  | none => .ok value

/-- One check of a parse against one step of its decision. -/
theorem check_eq_verdict {c : Prop} [Decidable c] {e : ParseError} {rest : Except ParseError α}
    {reject : Option ParseError} (same : ¬ c → rest = verdict reject value) :
    (if c then throw e else rest) = verdict (if c then some e else reject) value := by
  by_cases bad : c
  · rw [if_pos bad, if_pos bad]
    rfl
  · rw [if_neg bad, if_neg bad]
    exact same bad

theorem Superblock.parseInternal_eq {bytes : Bytes} (long : SUPERBLOCK_SIZE ≤ bytes.length) :
    parseInternal bytes allowRecovery = verdict (reject bytes allowRecovery) (fields bytes) := by
  unfold SUPERBLOCK_SIZE at long
  unfold parseInternal
  rw [if_neg (by unfold SUPERBLOCK_SIZE; omega)]
  rw [readU16_eq]
  refine check_eq_verdict fun _ => ?_
  rw [readU32_eq]
  refine check_eq_verdict fun _ => ?_
  rw [readU32_eq, ok_bind, readU16_eq, readIf_ok]
  refine check_eq_verdict fun _ => ?_
  rw [readU32_eq, readU32_eq]
  refine check_eq_verdict fun _ => ?_
  rw [readU16_eq, readIf_ok]
  refine check_eq_verdict fun _ => ?_
  rw [readU32_eq, ok_bind, readU32_eq, ok_bind, readU32_eq, readIf_ok, ok_bind, readU32_eq,
    readIf_ok, ok_bind, readU32_eq, ok_bind, readU32_eq, readIf_ok, ← checksumSeedAt, ok_bind]
  refine check_eq_verdict fun _ => ?_
  refine check_eq_verdict fun _ => ?_
  rw [readU32_eq, readU32_eq, readU32_eq, ok_bind, readU32_eq, ok_bind]
  refine check_eq_verdict fun _ => ?_
  rw [readU16_eq]
  refine check_eq_verdict fun _ => ?_
  rw [readU32_eq, readU16_eq, readU32_eq, ok_bind, readU32_eq, ok_bind]
  rfl

theorem Superblock.parseInternal_ok_iff {bytes : Bytes} {s : Superblock} :
    parseInternal bytes allowRecovery = .ok s ↔
      SUPERBLOCK_SIZE ≤ bytes.length ∧ reject bytes allowRecovery = none ∧ s = fields bytes := by
  by_cases long : SUPERBLOCK_SIZE ≤ bytes.length
  · rw [parseInternal_eq long]
    cases rejected : reject bytes allowRecovery with
    | some e => simp [verdict]
    | none => simp [verdict, long, eq_comm]
  · unfold parseInternal
    rw [if_pos (by omega)]
    simp [long, Except.throw_ne_ok]

/-! ## Setting and clearing the recovery flag -/

/-- The buffer with the feature word replaced and the checksum refreshed. -/
def stamp (feature : BitVec 32) : Bytes :=
  if hasMetadataChecksum (u32 bytes 100) then
    setU32 (setU32 bytes 96 feature) 1020
      (crc32c (BitVec.allOnes 32) ((setU32 bytes 96 feature).take 1020))
  else setU32 bytes 96 feature

/-- The feature word with the recovery flag set or cleared. -/
def withRecovery (feature : BitVec 32) (required : Bool) : BitVec 32 :=
  if required then feature ||| FEATURE_INCOMPAT_RECOVER
  else feature &&& ~~~FEATURE_INCOMPAT_RECOVER

section Stamp

variable {bytes : Bytes} {feature : BitVec 32} {at_ : Nat}

section

variable (long : SUPERBLOCK_SIZE ≤ bytes.length)
include long

/-- A stamp stores the feature word and, with checksums, the checksum. -/
theorem stored_stamp :
    Stored ((96, encode .little 4 feature) :: if hasMetadataChecksum (u32 bytes 100) then
      [(1020, encode .little 4 (crc32c (BitVec.allOnes 32) ((setU32 bytes 96 feature).take 1020)))]
      else []) bytes (stamp bytes feature) := by
  unfold SUPERBLOCK_SIZE at long
  unfold stamp
  split
  · exact stored_storeAll (by simp; omega) (by simp [Apart])
  · exact stored_storeAll (by simp; omega) (by simp)

theorem stamp_length : (stamp bytes feature).length = bytes.length := (stored_stamp long).length

/-- Bytes away from the feature word and the checksum are kept. -/
theorem stamp_take_drop {count : Nat} (apart : at_ + count ≤ 96 ∨ (100 ≤ at_ ∧ at_ + count ≤ 1020))
    : ((stamp bytes feature).drop at_).take count = (bytes.drop at_).take count :=
  (stored_stamp long).slice_kept (by split <;> simp <;> omega)

theorem u16_stamp (apart : at_ + 2 ≤ 96 ∨ (100 ≤ at_ ∧ at_ + 2 ≤ 1020)) :
    u16 (stamp bytes feature) at_ = u16 bytes at_ :=
  congrArg (decode .little 2) (stamp_take_drop long apart)

theorem u32_stamp (apart : at_ + 4 ≤ 96 ∨ (100 ≤ at_ ∧ at_ + 4 ≤ 1020)) :
    u32 (stamp bytes feature) at_ = u32 bytes at_ :=
  congrArg (decode .little 4) (stamp_take_drop long apart)

theorem getD_stamp : (stamp bytes feature).getD 373 0#8 = bytes.getD 373 0#8 := by
  have same := (@stored_stamp bytes feature long).frame 373 (by split <;> simp)
  rw [List.getD_eq_getElem?_getD, List.getD_eq_getElem?_getD, same]

theorem u32_stamp_feature :
    u32 (stamp bytes feature) 96 = feature := (stored_stamp long).word List.mem_cons_self

end

/-- A later checksum write leaves the bytes it covers alone. -/
theorem take_setU32_checksum (value : BitVec 32) (long : SUPERBLOCK_SIZE ≤ bytes.length) :
    (setU32 bytes 1020 value).take 1020 = bytes.take 1020 := by
  unfold SUPERBLOCK_SIZE at long
  have front : ((setU32 bytes 1020 value).drop 0).take 1020 = (bytes.drop 0).take 1020 :=
    take_drop_setU32 value (by omega) (by omega) (by omega)
  exact front

section

variable (long : SUPERBLOCK_SIZE ≤ bytes.length)
include long

/-- The stored checksum is the one the parse computes. -/
theorem crc_stamp (guarded : hasMetadataChecksum (u32 bytes 100) = true) :
    crc32c (BitVec.allOnes 32) ((stamp bytes feature).take 1020) =
      u32 (stamp bytes feature) 1020 := by
  have length : (setU32 bytes 96 feature).length = bytes.length :=
    setU32_length feature (by unfold SUPERBLOCK_SIZE at long; omega)
  unfold stamp
  rw [if_pos guarded, take_setU32_checksum _ (by rw [length]; exact long)]
  exact (u32_setU32 _ (by unfold SUPERBLOCK_SIZE at long; omega)).symm

theorem stamp_stamp (feature' : BitVec 32) :
    stamp (stamp bytes feature) feature' = stamp bytes feature' := by
  have short := long
  unfold SUPERBLOCK_SIZE at short
  have length : (setU32 bytes 96 feature).length = bytes.length := setU32_length feature
  have length' : (setU32 bytes 96 feature').length = bytes.length :=
    setU32_length feature' (by omega)
  have same : u32 (stamp bytes feature) 100 = u32 bytes 100 := u32_stamp long (by omega)
  have flags : setU32 (setU32 bytes 96 feature) 96 feature' = setU32 bytes 96 feature' :=
    setU32_setU32 _ _
  rw [stamp, same]
  unfold stamp
  by_cases guarded : hasMetadataChecksum (u32 bytes 100) = true
  · have moved (checksum : BitVec 32) :
        setU32 (setU32 (setU32 bytes 96 feature) 1020 checksum) 96 feature' =
          setU32 (setU32 bytes 96 feature') 1020 checksum := by
      rw [setU32_comm _ _ (by omega) (by omega) (by omega), flags]
    rw [if_pos guarded, if_pos guarded, if_pos guarded, moved,
      take_setU32_checksum _ (by rw [length']; exact long), setU32_setU32 _ _]
  · rw [if_neg guarded, if_neg guarded, if_neg guarded, flags]

/-- A stamp with the feature word that is there keeps a buffer whose checksum is right. -/
theorem stamp_self (intact : hasMetadataChecksum (u32 bytes 100) = true →
      crc32c (BitVec.allOnes 32) (bytes.take 1020) = u32 bytes 1020) :
    stamp bytes (u32 bytes 96) = bytes := by
  unfold SUPERBLOCK_SIZE at long
  unfold stamp
  rw [setU32_u32 (by omega)]
  split
  · next guarded => rw [intact guarded, setU32_u32 (by omega)]
  · rfl

end

variable {required : Bool}

/-- The flag bit is the one asked for, and the others are kept. -/
theorem getLsbD_withRecovery {i : Nat} (bound : i < 32) :
    (withRecovery feature required).getLsbD i =
      if FEATURE_INCOMPAT_RECOVER.getLsbD i then required else feature.getLsbD i := by
  unfold withRecovery
  cases required with
  | true =>
    rw [if_pos rfl, BitVec.getLsbD_or]
    cases FEATURE_INCOMPAT_RECOVER.getLsbD i with
    | true => exact Bool.or_true _
    | false => exact Bool.or_false _
  | false =>
    rw [if_neg Bool.false_ne_true, BitVec.getLsbD_and, BitVec.getLsbD_not, decide_eq_true bound]
    cases FEATURE_INCOMPAT_RECOVER.getLsbD i with
    | true => exact Bool.and_false _
    | false => exact Bool.and_true _

/-- The recovery flag is no other feature. -/
theorem withRecovery_and (other : BitVec 32) (apart : other &&& FEATURE_INCOMPAT_RECOVER = 0#32) :
    withRecovery feature required &&& other = feature &&& other := by
  apply BitVec.eq_of_getLsbD_eq
  intro i bound
  have bit := congrArg (·.getLsbD i) apart
  simp only [BitVec.getLsbD_and] at bit
  rw [BitVec.getLsbD_and, BitVec.getLsbD_and, getLsbD_withRecovery bound]
  generalize other.getLsbD i = o, FEATURE_INCOMPAT_RECOVER.getLsbD i = flag at bit ⊢
  cases o <;> simp_all

theorem withRecovery_supported (supported : feature &&& ~~~SUPPORTED_INCOMPAT_FEATURES = 0#32) :
    withRecovery feature required &&& ~~~SUPPORTED_INCOMPAT_FEATURES = 0#32 := by
  rw [withRecovery_and _ (by decide), supported]

theorem has64Bit_withRecovery : has64Bit (withRecovery feature required) = has64Bit feature := by
  unfold has64Bit
  rw [withRecovery_and _ (by decide)]

theorem hasChecksumSeed_withRecovery :
    hasChecksumSeed (withRecovery feature required) = hasChecksumSeed feature := by
  unfold hasChecksumSeed
  rw [withRecovery_and _ (by decide)]

theorem withRecovery_flag : (withRecovery feature required &&& FEATURE_INCOMPAT_RECOVER ≠ 0#32) ↔
    required = true := by
  have flag : withRecovery feature required &&& FEATURE_INCOMPAT_RECOVER =
      if required then FEATURE_INCOMPAT_RECOVER else 0#32 := by
    apply BitVec.eq_of_getLsbD_eq
    intro i bound
    rw [BitVec.getLsbD_and, getLsbD_withRecovery bound]
    cases required <;> cases set : FEATURE_INCOMPAT_RECOVER.getLsbD i <;> simp [set]
  rw [flag]
  cases required <;> decide

/-- Clearing a flag that is not set changes nothing. -/
theorem withRecovery_false_of_clear (clear : feature &&& FEATURE_INCOMPAT_RECOVER = 0#32) :
    withRecovery feature false = feature := by
  apply BitVec.eq_of_getLsbD_eq
  intro i bound
  have bit := congrArg (·.getLsbD i) clear
  simp only [BitVec.getLsbD_and] at bit
  rw [getLsbD_withRecovery bound]
  generalize feature.getLsbD i = set, FEATURE_INCOMPAT_RECOVER.getLsbD i = flag at bit ⊢
  cases set <;> simp_all

theorem withRecovery_withRecovery (required' : Bool) :
    withRecovery (withRecovery feature required) required' = withRecovery feature required' := by
  apply BitVec.eq_of_getLsbD_eq
  intro i bound
  rw [getLsbD_withRecovery bound, getLsbD_withRecovery bound, getLsbD_withRecovery bound]
  split
  · rfl
  · rfl

theorem ite_some_eq_none_iff {c : Prop} [Decidable c] {rest : Option α} :
    (if c then some value else rest) = none ↔ ¬ c ∧ rest = none := by
  split
  · simp [*]
  · simp [*]

/-- The fields that a change of the recovery flag leaves alone. -/
theorem fields_stamp (long : SUPERBLOCK_SIZE ≤ bytes.length) :
    Superblock.fields (stamp bytes (withRecovery (u32 bytes 96) required)) =
      { Superblock.fields bytes with
        featureIncompat := withRecovery (u32 bytes 96) required
        checksum := u32 (stamp bytes (withRecovery (u32 bytes 96) required)) 1020 } := by
  have feature : u32 (stamp bytes (withRecovery (u32 bytes 96) required)) 96 =
      withRecovery (u32 bytes 96) required := u32_stamp_feature long
  unfold Superblock.fields
  simp (disch := omega) only [inodeSizeAt, descriptorSizeAt, blockCountHighAt,
    freeBlockCountHighAt, checksumSeedAt, feature, has64Bit_withRecovery,
    hasChecksumSeed_withRecovery, u16_stamp long, u32_stamp long, getD_stamp long,
    stamp_take_drop long]

/-- A superblock that parses for recovery still does so with the flag changed, and
parses as clean exactly when the flag is cleared. -/
theorem reject_stamp (long : SUPERBLOCK_SIZE ≤ bytes.length)
    (accepted : Superblock.reject bytes true = none) (allowRecovery : Bool) :
    Superblock.reject (stamp bytes (withRecovery (u32 bytes 96) required)) allowRecovery =
      if required ∧ ¬ allowRecovery then some .dirtyFilesystem else none := by
  have feature : u32 (stamp bytes (withRecovery (u32 bytes 96) required)) 96 =
      withRecovery (u32 bytes 96) required := u32_stamp_feature long
  unfold Superblock.reject at accepted
  simp only [ite_some_eq_none_iff] at accepted
  obtain ⟨magic, size, inodes, supported, descriptors, kind, checksum, geometry, clean, -⟩ :=
    accepted
  unfold Superblock.reject
  simp (disch := omega) only [inodeSizeAt, descriptorSizeAt, blockCountHighAt,
    freeBlockCountHighAt, feature, has64Bit_withRecovery, u16_stamp long, u32_stamp long,
    getD_stamp long] at inodes descriptors geometry ⊢
  have stillSupported :
      ¬ (withRecovery (u32 bytes 96) required &&& ~~~SUPPORTED_INCOMPAT_FEATURES ≠ 0#32) := by
    rw [not_not] at supported ⊢
    exact withRecovery_supported supported
  have stillIntact : ¬ (hasMetadataChecksum (u32 bytes 100) = true ∧ crc32c (BitVec.allOnes 32)
        ((stamp bytes (withRecovery (u32 bytes 96) required)).take 1020) ≠
        u32 (stamp bytes (withRecovery (u32 bytes 96) required)) 1020) := by
    intro broken
    exact broken.2 (crc_stamp long broken.1)
  rw [if_neg magic, if_neg size, if_neg inodes, if_neg stillSupported, if_neg descriptors,
    if_neg kind, if_neg stillIntact, if_neg geometry]
  have state : ¬ (u16 bytes 58 &&& FILESYSTEM_STATE_CLEAN = 0#16) := fun dirty =>
    clean (.inl dirty)
  simp only [state, withRecovery_flag]
  cases required <;> cases allowRecovery <;> rfl

end Stamp

/-! ## The update as a stamp -/

section Update

variable {bytes : Bytes} {s : Superblock} {required : Bool}

/-- The update succeeds whenever the superblock parses for recovery. -/
theorem setSuperblockRecovery_eq (parsed : Superblock.parseForRecovery bytes = .ok s) :
    setSuperblockRecovery bytes required =
      .ok (stamp bytes (withRecovery s.featureIncompat required)) := by
  obtain ⟨long, accepted, rfl⟩ := Superblock.parseInternal_ok_iff.mp parsed
  have short := long
  unfold SUPERBLOCK_SIZE at short
  have length : (setU32 bytes 96 (withRecovery (u32 bytes 96) required)).length = bytes.length :=
    setU32_length _
  have stamped : refreshChecksum (Superblock.fields bytes)
      (setU32 bytes 96 (withRecovery (u32 bytes 96) required)) =
        .ok (stamp bytes (withRecovery (u32 bytes 96) required)) := by
    unfold refreshChecksum stamp
    rw [writeU32_eq]
    show (if hasMetadataChecksum (u32 bytes 100) then _ else _) = _
    split
    · rfl
    · rfl
  have reparsed : Superblock.parseInternal
      (stamp bytes (withRecovery (u32 bytes 96) required)) true = .ok (Superblock.fields
        (stamp bytes (withRecovery (u32 bytes 96) required))) := by
    refine Superblock.parseInternal_ok_iff.mpr ⟨by rw [stamp_length long]; exact long, ?_, rfl⟩
    rw [reject_stamp long accepted, if_neg (by simp)]
  unfold setSuperblockRecovery
  unfold Superblock.parseForRecovery at parsed
  rw [parsed]
  show (writeU32 bytes 96 (withRecovery (u32 bytes 96) required) >>= _) = _
  rw [writeU32_eq, ok_bind, stamped, ok_bind, reparsed]
  rfl

theorem setSuperblockRecovery_ok {result : Bytes}
    (done : setSuperblockRecovery bytes required = .ok result) :
    ∃ s, Superblock.parseForRecovery bytes = .ok s ∧
      result = stamp bytes (withRecovery s.featureIncompat required) := by
  have started := done
  obtain ⟨s, parsed, -⟩ := Except.bind_ok started
  rw [setSuperblockRecovery_eq parsed] at done
  cases done
  exact ⟨s, parsed, rfl⟩

/-- What a clean parse accepts, the recovery parse accepts with the same fields. -/
theorem Superblock.parse_ok_iff : parse bytes = .ok s ↔ parseForRecovery bytes = .ok s ∧
      s.featureIncompat &&& FEATURE_INCOMPAT_RECOVER = 0#32 := by
  unfold parse parseForRecovery
  rw [parseInternal_ok_iff, parseInternal_ok_iff]
  unfold reject
  simp only [ite_some_eq_none_iff, not_or, not_and, Bool.false_eq_true, not_false_eq_true,
    not_true_eq_false, false_implies, true_implies, and_true, not_not]
  constructor
  · intro clean
    obtain ⟨long, ⟨magic, size, inodes, supported, descriptors, kind, checksum, geometry, state,
      flag⟩, rfl⟩ := clean
    exact ⟨⟨long, ⟨magic, size, inodes, supported, descriptors, kind, checksum, geometry, state⟩,
      rfl⟩, flag⟩
  · intro recoverable
    obtain ⟨⟨long, ⟨magic, size, inodes, supported, descriptors, kind, checksum, geometry, state⟩,
      rfl⟩, flag⟩ := recoverable
    exact ⟨long, ⟨magic, size, inodes, supported, descriptors, kind, checksum, geometry, state,
      flag⟩, rfl⟩

/-- The superblock read back after the update. -/
def Superblock.stamped (s : Superblock) (bytes : Bytes) (required : Bool) : Superblock :=
  { s with
    featureIncompat := withRecovery s.featureIncompat required
    checksum := u32 (stamp bytes (withRecovery s.featureIncompat required)) 1020 }

section

variable (parsed : Superblock.parseForRecovery bytes = .ok s)
include parsed

theorem parseForRecovery_stamp :
    Superblock.parseForRecovery (stamp bytes (withRecovery s.featureIncompat required)) =
      .ok (s.stamped bytes required) := by
  obtain ⟨long, accepted, rfl⟩ := Superblock.parseInternal_ok_iff.mp parsed
  refine Superblock.parseInternal_ok_iff.mpr ⟨by rw [stamp_length long]; exact long, ?_, ?_⟩
  · show Superblock.reject (stamp bytes (withRecovery (u32 bytes 96) required)) true = none
    rw [reject_stamp long accepted, if_neg (by simp)]
  · exact (fields_stamp long).symm

/-- With the flag set the clean parse reports a dirty filesystem. -/
theorem parse_stamp_true : Superblock.parse (stamp bytes (withRecovery s.featureIncompat true)) =
      .error .dirtyFilesystem := by
  obtain ⟨long, accepted, rfl⟩ := Superblock.parseInternal_ok_iff.mp parsed
  show Superblock.parseInternal (stamp bytes (withRecovery (u32 bytes 96) true)) false = _
  rw [Superblock.parseInternal_eq (by rw [stamp_length long]; exact long), reject_stamp long
    accepted]
  rfl

/-- With the flag cleared it parses. -/
theorem parse_stamp_false : Superblock.parse (stamp bytes (withRecovery s.featureIncompat false)) =
      .ok (s.stamped bytes false) := by
  refine Superblock.parse_ok_iff.mpr ⟨parseForRecovery_stamp parsed, ?_⟩
  by_contra set
  exact Bool.false_ne_true (withRecovery_flag.mp set)

end

/-- Setting the flag of a clean superblock and clearing it again gives the bytes back. -/
theorem stamp_stamp_of_clean (clean : Superblock.parse bytes = .ok s) :
    stamp (stamp bytes (withRecovery s.featureIncompat true))
      (withRecovery (withRecovery s.featureIncompat true) false) = bytes := by
  obtain ⟨parsed, flag⟩ := Superblock.parse_ok_iff.mp clean
  obtain ⟨long, accepted, rfl⟩ := Superblock.parseInternal_ok_iff.mp parsed
  unfold Superblock.reject at accepted
  simp only [ite_some_eq_none_iff] at accepted
  obtain ⟨-, -, -, -, -, -, checksum, -⟩ := accepted
  rw [stamp_stamp long, withRecovery_withRecovery, withRecovery_false_of_clear flag]
  refine stamp_self long fun guarded => ?_
  by_contra broken
  exact checksum ⟨guarded, broken⟩

end Update

end SlopOS.Ext4
