import SlopOS.Ext4.JournalFormat

/-!
# Filesystem blocks

Buffers of 4096 bytes with the in-place updates of the journal code: the recovery
flag of the superblock in block 0, the state of the journal superblock, and the
escaped copies in the data records.
-/

namespace SlopOS.Filesystem

open ByteCodec Ext4 List

def BLOCK_SIZE : Nat := 4096
def SUPERBLOCK_OFFSET : Nat := 1024

structure Block where
  bytes : Bytes
  size : bytes.length = BLOCK_SIZE

variable {b : Block}

theorem Block.ext {a : Block} (same : a.bytes = b.bytes) : a = b := by
  cases a
  cases b
  cases same
  rfl

/-- Blocks are compared byte by byte, as the source compares slices. -/
instance : DecidableEq Block := fun a b =>
  decidable_of_iff ((a.bytes == b.bytes) = true)
    ⟨fun same => Block.ext (beq_iff_eq.mp same), fun same => beq_iff_eq.mpr (congrArg _ same)⟩

def Block.zero : Block := ⟨List.replicate BLOCK_SIZE 0#8, length_replicate⟩

instance : Inhabited Block := ⟨Block.zero⟩

/-- A whole-block buffer.  The in-place updates keep the length, so the error is
never taken. -/
def Block.ofBytes (bytes : Bytes) : Except ParseError Block :=
  if size : bytes.length = BLOCK_SIZE then .ok ⟨bytes, size⟩ else .error .truncated

/-- The superblock inside filesystem block 0. -/
def Block.superblock (b : Block) : Bytes := (b.bytes.drop SUPERBLOCK_OFFSET).take SUPERBLOCK_SIZE

def Block.setRecovery (b : Block) (required : Bool) : Except ParseError Block := do
  let superblock ← setSuperblockRecovery b.superblock required
  Block.ofBytes (splice b.bytes SUPERBLOCK_OFFSET superblock)

def Block.setJournalState (b : Block) (sequence start : BitVec 32) : Except ParseError Block := do
  let bytes ← setJournalSuperblockState b.bytes sequence start
  Block.ofBytes bytes

def Block.encodeData (home : Block) : Except ParseError (Block × Bool) := do
  let encoded ← encodeJournalDataBlock home.bytes
  let data ← Block.ofBytes encoded.1
  return (data, encoded.2)

def Block.decodeData (data : Block) (tag : JournalTag) : Except ParseError Block := do
  let bytes ← decodeJournalTagData data.bytes tag
  Block.ofBytes bytes

/-! ## The recovery flag -/

section Recovery

variable {r : Block} {sb : Superblock} {required : Bool} {bytes : Bytes}

theorem Block.superblock_length (b : Block) : b.superblock.length = SUPERBLOCK_SIZE := by
  have size := b.size
  rw [superblock, length_take, length_drop, size]
  rfl

theorem Block.slice_superblock (b : Block) :
    slice b.bytes SUPERBLOCK_OFFSET SUPERBLOCK_SIZE = some b.superblock :=
  slice_eq_some_iff.mpr ⟨by rw [b.size]; decide, rfl⟩

/-- The block with another superblock. -/
def Block.withSuperblock (b : Block) (superblock : Bytes)
    (sized : superblock.length = SUPERBLOCK_SIZE) : Block :=
  ⟨splice b.bytes SUPERBLOCK_OFFSET superblock, by
    rw [splice_length (by rw [sized, b.size]; decide), b.size]⟩

theorem Block.superblock_withSuperblock (b : Block) {superblock : Bytes}
    (sized : superblock.length = SUPERBLOCK_SIZE) :
    (b.withSuperblock superblock sized).superblock = superblock := by
  have read : slice (splice b.bytes SUPERBLOCK_OFFSET superblock) SUPERBLOCK_OFFSET
      superblock.length = some superblock :=
    slice_splice_same (by rw [sized, b.size]; decide)
  rw [sized] at read
  exact (slice_eq_some_iff.mp read).2

theorem Block.ofBytes_eq (size : bytes.length = BLOCK_SIZE) :
    ofBytes bytes = .ok ⟨bytes, size⟩ := dif_pos size

theorem Block.ofBytes_eq_ok_iff {block : Block} :
    ofBytes bytes = .ok block ↔ bytes = block.bytes := by
  constructor
  · intro sized
    unfold ofBytes at sized
    split at sized <;> cases sized
    rfl
  · rintro rfl
    exact ofBytes_eq block.size

section

variable (b : Block) (feature : BitVec 32)

theorem Block.stamp_length : (stamp b.superblock feature).length = SUPERBLOCK_SIZE := by
  rw [Ext4.stamp_length (by rw [b.superblock_length]), b.superblock_length]

/-- The block with the feature word of its superblock replaced. -/
def Block.stamped : Block :=
  b.withSuperblock (stamp b.superblock feature) (b.stamp_length feature)

theorem Block.superblock_stamped : (b.stamped feature).superblock = stamp b.superblock feature :=
  b.superblock_withSuperblock _

end

theorem Block.setRecovery_eq (parsed : Superblock.parseForRecovery b.superblock = .ok sb) :
    b.setRecovery required = .ok (b.stamped (withRecovery sb.featureIncompat required)) := by
  unfold setRecovery
  rw [setSuperblockRecovery_eq parsed]
  exact ofBytes_eq _

theorem Block.setRecovery_ok_iff : b.setRecovery required = .ok r ↔
    ∃ sb, Superblock.parseForRecovery b.superblock = .ok sb ∧
      r = b.stamped (withRecovery sb.featureIncompat required) := by
  constructor
  · intro done
    have started := done
    obtain ⟨bytes, updated, -⟩ := Except.bind_ok started
    obtain ⟨sb, parsed, -⟩ := setSuperblockRecovery_ok updated
    rw [setRecovery_eq parsed] at done
    exact ⟨sb, parsed, (Except.ok.inj done).symm⟩
  · rintro ⟨sb, parsed, rfl⟩
    exact setRecovery_eq parsed

/-- A block whose superblock was just flagged is dirty and can be recovered. -/
theorem Block.flagged (done : b.setRecovery true = .ok r) :
    Superblock.parse r.superblock = .error .dirtyFilesystem ∧
      ∃ sb, Superblock.parseForRecovery r.superblock = .ok sb := by
  obtain ⟨sb, parsed, rfl⟩ := setRecovery_ok_iff.mp done
  rw [superblock_stamped]
  exact ⟨parse_stamp_true parsed, _, parseForRecovery_stamp parsed⟩

theorem Block.cleared (done : b.setRecovery false = .ok r) :
    ∃ sb, Superblock.parse r.superblock = .ok sb := by
  obtain ⟨sb, parsed, rfl⟩ := setRecovery_ok_iff.mp done
  rw [superblock_stamped]
  exact ⟨_, parse_stamp_false parsed⟩

theorem Block.setRecovery_of_flagged (done : b.setRecovery true = .ok r) (required : Bool) :
    ∃ r', r.setRecovery required = .ok r' := by
  obtain ⟨sb, parsed⟩ := (flagged done).2
  exact ⟨_, setRecovery_eq parsed⟩

theorem Block.setRecovery_of_clean (clean : Superblock.parse b.superblock = .ok sb)
    (required : Bool) : ∃ r, b.setRecovery required = .ok r :=
  ⟨_, setRecovery_eq (Superblock.parse_ok_iff.mp clean).1⟩

theorem Block.stamped_stamped (b : Block) (feature feature' : BitVec 32) :
    (b.stamped feature).stamped feature' = b.stamped feature' := by
  apply ext
  show splice (splice b.bytes SUPERBLOCK_OFFSET _) SUPERBLOCK_OFFSET _ = _
  rw [splice_splice (by rw [b.stamp_length, b.size]; decide)
    (by rw [stamp_length, stamp_length]), superblock_stamped,
    stamp_stamp (by rw [b.superblock_length])]
  rfl

/-- The last update of the flag decides. -/
theorem Block.setRecovery_again (done : b.setRecovery required = .ok r) (required' : Bool) :
    r.setRecovery required' = b.setRecovery required' := by
  obtain ⟨sb, parsed, rfl⟩ := setRecovery_ok_iff.mp done
  have reparsed : Superblock.parseForRecovery
      (b.stamped (withRecovery sb.featureIncompat required)).superblock =
        .ok (sb.stamped b.superblock required) := by
    rw [superblock_stamped]
    exact parseForRecovery_stamp parsed
  rw [setRecovery_eq reparsed, setRecovery_eq parsed, stamped_stamped]
  exact congrArg (fun feature => Except.ok (b.stamped feature)) (withRecovery_withRecovery required')

/-- Setting the flag of a clean block and clearing it gives the block back. -/
theorem Block.setRecovery_setRecovery (clean : Superblock.parse b.superblock = .ok sb)
    (done : b.setRecovery true = .ok r) : r.setRecovery false = .ok b := by
  obtain ⟨parsed, -⟩ := Superblock.parse_ok_iff.mp clean
  have back : stamp b.superblock (withRecovery sb.featureIncompat false) = b.superblock := by
    have twice := stamp_stamp_of_clean clean
    rwa [stamp_stamp (by rw [b.superblock_length]), withRecovery_withRecovery] at twice
  rw [setRecovery_again done, setRecovery_eq parsed]
  congr 1
  apply ext
  exact (congrArg (splice b.bytes SUPERBLOCK_OFFSET) back).trans
    (splice_slice b.slice_superblock)

/-- A superblock buffer without its recovery flag and checksum. -/
def unflagged (superblock : Bytes) : Bytes :=
  setU32 (setU32 superblock 96 (withRecovery (u32 superblock 96) false)) 1020 0#32

/-- The same contents apart from the recovery flag and the checksum of the superblock. -/
def Block.SameUnflagged (a b : Block) : Prop :=
  splice a.bytes SUPERBLOCK_OFFSET (unflagged a.superblock) =
    splice b.bytes SUPERBLOCK_OFFSET (unflagged b.superblock)

theorem unflagged_stamp (long : SUPERBLOCK_SIZE ≤ bytes.length) :
    unflagged (stamp bytes (withRecovery (u32 bytes 96) required)) = unflagged bytes := by
  have short := long
  unfold SUPERBLOCK_SIZE at short
  unfold unflagged
  rw [u32_stamp_feature long, withRecovery_withRecovery]
  generalize withRecovery (u32 bytes 96) required = feature
  generalize withRecovery (u32 bytes 96) false = cleared
  have length : (setU32 bytes 96 feature).length = bytes.length := setU32_length _
  have length' : (setU32 bytes 96 cleared).length = bytes.length := setU32_length _
  unfold stamp
  split
  · next guarded =>
    generalize crc32c (BitVec.allOnes 32) (take 1020 (setU32 bytes 96 feature)) = checksum
    have moved : setU32 (setU32 (setU32 bytes 96 feature) 1020 checksum) 96 cleared =
        setU32 (setU32 bytes 96 cleared) 1020 checksum := by
      rw [setU32_comm checksum cleared (by omega) (by omega) (by omega), setU32_setU32 _ _]
    rw [moved, setU32_setU32 _ _]
  · rw [setU32_setU32 _ _]

theorem unflagged_length (long : SUPERBLOCK_SIZE ≤ bytes.length) :
    (unflagged bytes).length = bytes.length := by
  unfold SUPERBLOCK_SIZE at long
  have first (feature : BitVec 32) : (setU32 bytes 96 feature).length = bytes.length :=
    setU32_length _
  rw [unflagged, setU32_length _ (by rw [first]; omega), first]

theorem Block.sameUnflagged_of_setRecovery (done : b.setRecovery required = .ok r) :
    r.SameUnflagged b := by
  obtain ⟨sb, parsed, rfl⟩ := setRecovery_ok_iff.mp done
  obtain ⟨long, -, rfl⟩ := Superblock.parseInternal_ok_iff.mp parsed
  have same : unflagged (b.stamped (withRecovery (u32 b.superblock 96) required)).superblock =
      unflagged b.superblock := by
    rw [superblock_stamped]
    exact unflagged_stamp long
  show splice (splice b.bytes SUPERBLOCK_OFFSET _) SUPERBLOCK_OFFSET _ = _
  rw [show (Superblock.fields b.superblock).featureIncompat = u32 b.superblock 96 from rfl, same]
  exact splice_splice (by rw [b.stamp_length, b.size]; decide)
    (by rw [unflagged_length long, b.stamp_length, b.superblock_length])

end Recovery

/-! ## The journal superblock -/

theorem Block.setJournalState_ok {r : Block} {sequence start : BitVec 32}
    (done : b.setJournalState sequence start = .ok r) :
    ∃ j, JournalSuperblock.parse b.bytes = .ok j ∧ sequence ≠ 0#32 ∧
      startOutside start j.firstLogBlock j.maxLength = false ∧
      JournalSuperblock.parse r.bytes = .ok { j with sequence, start } := by
  obtain ⟨bytes, updated, sized⟩ := Except.bind_ok done
  obtain ⟨j, parsed, nonzero, inside, rfl⟩ := setJournalSuperblockState_ok updated
  have length := (stored_stampState (JournalSuperblock.parse_ok_iff.mp parsed).1 sequence start).length
  rw [ofBytes_eq (by rw [length, b.size])] at sized
  cases sized
  exact ⟨j, parsed, nonzero, inside, JournalSuperblock.parse_stampState parsed inside⟩

theorem Block.setJournalState_of_parse {j : JournalSuperblock}
    (parsed : JournalSuperblock.parse b.bytes = .ok j) {sequence start : BitVec 32}
    (nonzero : sequence ≠ 0#32) (inside : startOutside start j.firstLogBlock j.maxLength = false) :
    ∃ r, b.setJournalState sequence start = .ok r := by
  have length := (stored_stampState (JournalSuperblock.parse_ok_iff.mp parsed).1 sequence start).length
  refine ⟨⟨stampState b.bytes sequence start, by rw [length, b.size]⟩, ?_⟩
  unfold setJournalState
  rw [setJournalSuperblockState_eq parsed inside nonzero]
  exact ofBytes_eq _

theorem startOutside_zero (first maximum : BitVec 32) :
    startOutside 0#32 first maximum = false := rfl

/-! ## Data records -/

/-- The home block a record stands for. -/
def Block.decoded (data : Block) (escaped : Bool) : Block :=
  if escaped then
    ⟨magicBytes ++ data.bytes.drop 4, by
      rw [length_append, length_drop, data.size]
      rfl⟩
  else data

theorem Block.decodeData_eq (data : Block) (tag : JournalTag) :
    data.decodeData tag = .ok (data.decoded tag.escaped) := by
  have long : ¬ data.bytes.length < 4 := by
    rw [data.size]
    decide
  unfold decodeData decodeJournalTagData
  rw [if_neg long]
  cases tag.escaped with
  | true => exact ofBytes_eq _
  | false => exact ofBytes_eq data.size

theorem journalLength_block (b : Block) : journalLength b.bytes.length = true := by
  rw [b.size]
  decide

/-- Every block has a record, and the record stands for the block. -/
theorem Block.encodeData_spec (home : Block) :
    ∃ data escaped, home.encodeData = .ok (data, escaped) ∧ data.decoded escaped = home := by
  obtain ⟨bytes, escaped, encoded, length, decodes⟩ :=
    encodeJournalDataBlock_spec (journalLength_block home)
  have size : bytes.length = BLOCK_SIZE := length.trans home.size
  refine ⟨⟨bytes, size⟩, escaped, ?_, ?_⟩
  · unfold encodeData
    rw [encoded, ok_bind, ofBytes_eq size]
    rfl
  have decoded := decodeData_eq ⟨bytes, size⟩ ⟨0#32, escaped⟩
  unfold decodeData at decoded
  rw [decodes 0#32, ok_bind, ofBytes_eq home.size] at decoded
  exact (Except.ok.inj decoded).symm

section

variable {home data : Block} {escaped : Bool} (encoded : home.encodeData = .ok (data, escaped))
include encoded

theorem Block.decoded_of_encodeData : data.decoded escaped = home := by
  obtain ⟨data', escaped', encoded', decodes⟩ := home.encodeData_spec
  rw [encoded] at encoded'
  cases encoded'
  exact decodes

/-- A cleared record stands for the block of a record only when that record is zero. -/
theorem Block.eq_zero_of_decoded (same : zero.decoded escaped = home) : data = zero := by
  have long := journalLength_block home
  unfold encodeData encodeJournalDataBlock at encoded
  rw [if_neg (by rw [long]; decide)] at encoded
  split at encoded
  · rw [ok_bind] at encoded
    obtain ⟨block, sized, done⟩ := Except.bind_ok encoded
    cases done
    have bytes := ofBytes_eq_ok_iff.mp sized
    apply ext
    rw [← bytes, ← same]
    rfl
  · rw [ok_bind] at encoded
    obtain ⟨block, sized, done⟩ := Except.bind_ok encoded
    cases done
    apply ext
    rw [← ofBytes_eq_ok_iff.mp sized, ← same]
    rfl

end

/-! ## Zero blocks -/

theorem Block.eq_zero_of_all (all : b.bytes.all (· == 0#8) = true) : b = zero := by
  apply ext
  show b.bytes = replicate BLOCK_SIZE 0#8
  rw [← b.size]
  refine eq_replicate_of_mem fun byte member => ?_
  exact beq_iff_eq.mp (all_eq_true.mp all byte member)

theorem Block.zero_all : zero.bytes.all (· == 0#8) = true := by
  rw [all_eq_true]
  intro byte member
  rw [eq_of_mem_replicate member]
  rfl

theorem take_drop_zero {offset count : Nat} (inside : offset + count ≤ BLOCK_SIZE) :
    (Block.zero.bytes.drop offset).take count = replicate count 0#8 := by
  show ((replicate BLOCK_SIZE 0#8).drop offset).take count = _
  rw [drop_replicate, take_replicate, Nat.min_eq_left (by omega)]

/-- A cleared descriptor does not parse. -/
theorem descriptor_zero : JournalDescriptorBlock.parse Block.zero.bytes = .error .invalidMagic := by
  unfold JournalDescriptorBlock.parse
  rw [if_neg (by rw [Block.zero.size]; decide), readBeU32_eq (by rw [Block.zero.size]; decide),
    ok_bind, readBeU32_eq (by rw [Block.zero.size]; decide), ok_bind]
  rfl

/-- A cleared commit record does not parse. -/
theorem commit_zero : JournalCommit.parse Block.zero.bytes = .error .invalidMagic := by
  unfold JournalCommit.parse
  rw [if_neg (by rw [Block.zero.size]; decide), readBeU32_eq (by rw [Block.zero.size]; decide),
    ok_bind, readBeU32_eq (by rw [Block.zero.size]; decide), ok_bind]
  rfl

theorem Block.superblock_zero_decoded (escaped : Bool) :
    (zero.decoded escaped).superblock = replicate SUPERBLOCK_SIZE 0#8 := by
  have plain : zero.superblock = replicate SUPERBLOCK_SIZE 0#8 := take_drop_zero (by decide)
  cases escaped with
  | false => exact plain
  | true =>
    rw [← plain]
    show (((magicBytes ++ zero.bytes.drop 4).drop SUPERBLOCK_OFFSET).take _) = _
    rfl

/-- A cleared record of block 0 is no superblock. -/
theorem parse_zero_decoded (escaped : Bool) (allowRecovery : Bool) :
    Superblock.parseInternal (Block.zero.decoded escaped).superblock allowRecovery =
      .error .invalidMagic := by
  rw [Block.superblock_zero_decoded]
  have length : (replicate SUPERBLOCK_SIZE 0#8).length = SUPERBLOCK_SIZE := length_replicate
  rw [Superblock.parseInternal_eq (by rw [length])]
  rfl

end SlopOS.Filesystem
