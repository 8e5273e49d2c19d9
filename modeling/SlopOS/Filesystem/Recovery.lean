import SlopOS.Filesystem.Device

/-!
# Mounting and journal replay

`Ext4Mount::mount`: the superblock, the first group descriptor, the journal inode
with its extent, and the replay of the one transaction the journal can hold.  The
stages that write are programs of their own, shared with the commit path where the
source repeats them.
-/

namespace SlopOS.Filesystem

open ByteCodec CrashDisk Ext4
open Program (require expect expectSome)

def MULTI_TRANSACTION_MAX_BLOCKS : Nat := 8

structure JournalProbe where
  physicalBlock : Nat
  superblock : JournalSuperblock
  deriving DecidableEq, Repr

structure JournalRecovery where
  replayed : Bool
  sequence : BitVec 32
  start : BitVec 32
  tagCount : Nat
  targetBlock : BitVec 32
  escaped : Bool
  nextSequence : BitVec 32
  deriving DecidableEq, Repr

structure Ext4Mount where
  superblock : Superblock
  group0 : GroupDescriptor
  cache : BlockCache
  recovery : Option JournalRecovery
  deriving DecidableEq

/-! ## Finding the journal -/

variable (device : BlockDevice) (superblock : Superblock)

def readGroupDescriptor (groupIndex : BitVec 32)
    (cache : BlockCache) : Io (GroupDescriptor × BlockCache) := do
  let location ← expect (superblock.groupDescriptorLocation groupIndex)
    "ext4 group descriptor location is invalid"
  let (block, cache) ← cache.readBlock device superblock location.block
  require (location.offset + superblock.descriptorSize.toNat ≤ BLOCK_SIZE)
    "ext4 group descriptor crosses the read block"
  let descriptor ← expect
    (GroupDescriptor.parse
      ((block.bytes.drop location.offset).take superblock.descriptorSize.toNat)
      groupIndex superblock)
    "ext4 group descriptor validation failed"
  return (descriptor, cache)

/-- The geometry and identity a journal superblock must have. -/
def journalMatches (journal : JournalSuperblock) (blocks : Nat) : Bool :=
  journal.blockSize = superblock.blockSize ∧ journal.maxLength.toNat = blocks ∧
    journal.firstLogBlock = 1#32 ∧ journal.sequence ≠ 0#32 ∧
    ¬ (superblock.featureIncompat &&& FEATURE_INCOMPAT_RECOVER = 0#32 ∧ journal.start ≠ 0#32) ∧
    journal.error = 0#32 ∧ journal.userCount = 1#32 ∧ journal.uuid = superblock.uuid

section

variable (mount : Ext4Mount) (device : BlockDevice)

/-- The descriptor of the inode's group; group 0 is kept by the mount. -/
def Ext4Mount.readGroup (groupIndex : BitVec 32) : Io (GroupDescriptor × BlockCache) :=
  if groupIndex = 0#32 then .pure (mount.group0, mount.cache)
  else readGroupDescriptor device mount.superblock groupIndex mount.cache

def Ext4Mount.readInode (inodeNumber : BitVec 32) : Io (Inode × Ext4Mount) := do
  let groupIndex ← expect (mount.superblock.inodeGroup inodeNumber)
    "ext4 inode number is invalid"
  let (group, cache) ← mount.readGroup device groupIndex
  let location ← expect (mount.superblock.inodeLocation inodeNumber group)
    "ext4 inode location is invalid"
  let (block, cache) ← cache.readBlock device mount.superblock location.block
  require (location.offset + mount.superblock.inodeSize.toNat ≤ BLOCK_SIZE)
    "ext4 inode crosses the read block"
  let inode ← expect
    (Inode.parse ((block.bytes.drop location.offset).take mount.superblock.inodeSize.toNat)
      inodeNumber mount.superblock)
    "ext4 inode validation failed"
  return (inode, { mount with cache })

def Ext4Mount.probeJournal : Io (JournalProbe × Ext4Mount) := do
  require (mount.superblock.journalInode = JOURNAL_INODE)
    "ext4 internal journal inode is unsupported"
  let (inode, mount) ← mount.readInode device JOURNAL_INODE
  require (inode.isRegularFile && inode.extentDepth.toOption = some 0)
    "ext4 journal inode layout is unsupported"
  let found ← expect (inode.extentForLogicalBlock 0) "ext4 journal extent is invalid"
  let extent ← expectSome found "ext4 journal extent is missing"
  let expectedBlocks := inode.size.toNat / mount.superblock.blockSize.toNat
  require
    (inode.size.toNat % mount.superblock.blockSize.toNat = 0 ∧ extent.logicalBlock = 0#32 ∧
      extent.unwritten = false ∧ extent.blockCount = expectedBlocks)
    "ext4 journal extent geometry is unsupported"
  let (block, cache) ← mount.cache.readBlock device mount.superblock extent.physicalBlock
  let superblock ← expect (JournalSuperblock.parse block.bytes)
    "JBD2 superblock validation failed"
  require (journalMatches mount.superblock superblock expectedBlocks)
    "JBD2 journal geometry or identity mismatch"
  return (⟨extent.physicalBlock, superblock⟩, { mount with cache })

end

/-! ## Stages shared by commit and replay -/

variable (journal : JournalProbe) (journalEnd : Nat)

/-- A target that may not be overwritten: outside the filesystem, in the journal or
named before. -/
def targetUnsafe (seen : List Nat) (target : Nat) : Bool :=
  superblock.blockCount.toNat ≤ target ∨
    (journal.physicalBlock ≤ target ∧ target < journalEnd) ∨ target ∈ seen

/-- The blocks of a transaction with `count` targets: descriptor, data, commit. -/
def recordBlocks (descriptorBlock count : Nat) : List Nat :=
  (List.range (count + 2)).map (descriptorBlock + ·)

/-- The contents for block 0, when it is a target. -/
def superblockHome (homes : List (Nat × Block)) : Option Block :=
  (homes.find? (·.1 == 0)).map (·.2)

def installHomes (homes : List (Nat × Block)) (mismatch : String) : Io Unit := do
  writeBlocks device superblock homes
  device.flush
  verifyBlocks device superblock mismatch homes

/-- The records are cleared and the journal is marked empty before one flush. -/
def checkpointRecords (records : List Nat)
    (journalSector : Nat) (journalBlock : Block) : Io Unit := do
  writeBlocks device superblock (records.map (·, Block.zero))
  device.write journalSector journalBlock
  device.flush

/-- The sequence number after this one. -/
def nextSequence (sequence : BitVec 32) (message : String) : Io (BitVec 32) :=
  expectSome
    (if sequence.toNat + 1 < 2 ^ 32 then some (sequence + 1#32) else none) message

/-- The failure messages of one way to retire a transaction. -/
structure RetireMessages where
  homeReadback : String
  sequenceOverflow : String
  checkpointUpdate : String
  flagClearing : String

/-- A committed transaction is retired: homes, checkpoint, and the recovery flag last.
Returns the next sequence number and the two superblocks as written. -/
def retireTransaction
    (filesystemSector journalSector descriptorBlock : Nat) (filesystemBlock journalBlock : Block)
    (homes : List (Nat × Block)) (sequence : BitVec 32) (messages : RetireMessages) :
    Io (BitVec 32 × Block × Block) := do
  installHomes device superblock homes messages.homeReadback
  let next ← nextSequence sequence messages.sequenceOverflow
  let checkpointed ← expect (journalBlock.setJournalState next 0#32)
    messages.checkpointUpdate
  checkpointRecords device superblock (recordBlocks descriptorBlock homes.length) journalSector
    checkpointed
  let cleared ← expect
    (((superblockHome homes).getD filesystemBlock).setRecovery false) messages.flagClearing
  device.write filesystemSector cleared
  device.flush
  return (next, checkpointed, cleared)

def BlockCache.invalidateAll (cache : BlockCache) (blocks : List Nat) : BlockCache :=
  blocks.foldl BlockCache.invalidate cache

/-! ## Replay -/

/-- The parse of a superblock whose recovery flag is set. -/
def superblockActive (block : Block) : Bool :=
  Superblock.parse block.superblock = .error .dirtyFilesystem ∧
    (Superblock.parseForRecovery block.superblock).isOk

/-- An inactive journal: only the recovery flag is cleared. -/
def discardInactiveJournal (mount : Ext4Mount) (journal : JournalProbe) :
    Io (JournalRecovery × Ext4Mount) := do
  let filesystemSector ← blockToSector mount.superblock 0
  let filesystemBlock ← device.read filesystemSector
  let cleared ← expect (filesystemBlock.setRecovery false)
    "inactive JBD2 recovery cleanup failed"
  device.write filesystemSector cleared
  device.flush
  let readback ← device.read filesystemSector
  let cleanSuperblock ← expect (Superblock.parse readback.superblock)
    "inactive JBD2 recovery readback failed"
  require (readback = cleared) "inactive JBD2 recovery cleanup mismatch"
  return (
    { replayed := false, sequence := journal.superblock.sequence
      start := journal.superblock.start, tagCount := 0, targetBlock := 0#32, escaped := false
      nextSequence := journal.superblock.sequence },
    { mount with superblock := cleanSuperblock })

/-- A home block decoded from its record. -/
structure ReplayedHome where
  target : Nat
  home : Block
  escaped : Bool

/-- The loop that decodes the data records from tag `index` on. -/
def decodeHomes (descriptor : JournalDescriptorBlock) :
    Nat → List Nat → List Block → Io (List ReplayedHome)
  | _, _, [] => .pure []
  | index, seen, data :: rest => do
      let tag ← expect (descriptor.tag index) "JBD2 recovery tag validation failed"
      let target := tag.targetBlock.toNat
      require (targetUnsafe superblock journal journalEnd seen target = false)
        "JBD2 recovery target block is unsafe"
      let home ← expect (data.decodeData tag) "JBD2 recovery data decoding failed"
      let others ←
        decodeHomes descriptor (index + 1) (target :: seen) rest
      return ⟨target, home, tag.escaped⟩ :: others

/-- The transaction read from the journal; nothing is written. -/
structure ReplayPlan where
  filesystemSector : Nat
  journalSector : Nat
  descriptorBlock : Nat
  filesystemBlock : Block
  journalBlock : Block
  replayed : List ReplayedHome

def ReplayPlan.homes (plan : ReplayPlan) : List (Nat × Block) :=
  plan.replayed.map fun r => (r.target, r.home)

def replayMessages : RetireMessages where
  homeReadback := "JBD2 recovery home-block readback mismatch"
  sequenceOverflow := "JBD2 recovery sequence overflow"
  checkpointUpdate := "JBD2 recovery checkpoint update failed"
  flagClearing := "ext4 recovery flag clearing failed"

section

variable (device : BlockDevice) (mount : Ext4Mount) (journal : JournalProbe)

def scanTransaction : Io ReplayPlan := do
  let descriptorBlock ← checkedAdd journal.physicalBlock journal.superblock.start.toNat
    "JBD2 recovery descriptor block overflow"
  let journalEnd ← checkedAdd journal.physicalBlock journal.superblock.maxLength.toNat
    "JBD2 recovery extent overflow"
  let filesystemSector ← blockToSector mount.superblock 0
  let journalSector ← blockToSector mount.superblock journal.physicalBlock
  let filesystemBlock ← device.read filesystemSector
  require (Superblock.parse filesystemBlock.superblock = .error .dirtyFilesystem)
    "JBD2 recovery requires the ext4 recovery flag"
  let journalBlock ← device.read journalSector
  require (JournalSuperblock.parse journalBlock.bytes = .ok journal.superblock)
    "JBD2 recovery superblock changed during mount"
  let descriptorData ← readBlock device mount.superblock descriptorBlock
  let descriptor ← expect (JournalDescriptorBlock.parse descriptorData.bytes)
    "JBD2 recovery descriptor validation failed"
  require
    (descriptor.sequence = journal.superblock.sequence ∧
      descriptor.uuid = mount.superblock.uuid ∧ descriptor.tagCount ≠ 0 ∧
      descriptor.tagCount ≤ MULTI_TRANSACTION_MAX_BLOCKS)
    "JBD2 recovery descriptor identity mismatch"
  let commitBlock ← checkedAdd descriptorBlock (1 + descriptor.tagCount)
    "JBD2 recovery commit block overflow"
  require (commitBlock < journalEnd) "wrapped JBD2 recovery transaction is unsupported"
  let data ← readBlocks device mount.superblock
    ((List.range descriptor.tagCount).map (descriptorBlock + 1 + ·))
  let commitData ← readBlock device mount.superblock commitBlock
  let commit ← expect (JournalCommit.parse commitData.bytes)
    "JBD2 recovery commit validation failed"
  require (commit.sequence = journal.superblock.sequence)
    "JBD2 recovery commit sequence mismatch"
  let replayed ← decodeHomes mount.superblock journal journalEnd descriptor 0 [] data
  let plan : ReplayPlan :=
    ⟨filesystemSector, journalSector, descriptorBlock, filesystemBlock, journalBlock, replayed⟩
  require ((superblockHome plan.homes).all superblockActive)
    "JBD2 recovery superblock home is not active"
  return plan

def replayActiveJournal : Io (JournalRecovery × Ext4Mount) := do
  let plan ← scanTransaction device mount journal
  let (next, checkpointed, cleared) ← retireTransaction device mount.superblock
    plan.filesystemSector plan.journalSector plan.descriptorBlock plan.filesystemBlock
    plan.journalBlock plan.homes journal.superblock.sequence replayMessages
  let journalReadback ← device.read plan.journalSector
  let readbackSuperblock ← expect (JournalSuperblock.parse journalReadback.bytes)
    "JBD2 recovery checkpoint readback failed"
  require
    (journalReadback = checkpointed ∧ readbackSuperblock.sequence = next ∧
      readbackSuperblock.start = 0#32)
    "JBD2 recovery checkpoint state mismatch"
  let readback ← device.read plan.filesystemSector
  let cleanSuperblock ← expect (Superblock.parse readback.superblock)
    "ext4 recovery cleanup validation failed"
  require (readback = cleared) "ext4 recovery cleanup readback mismatch"
  return (
    { replayed := true, sequence := journal.superblock.sequence
      start := journal.superblock.start, tagCount := plan.replayed.length
      targetBlock := BitVec.ofNat 32 ((plan.replayed.map (·.target)).headD 0)
      escaped := (plan.replayed.map (·.escaped)).headD false, nextSequence := next },
    { mount with
      superblock := cleanSuperblock
      cache := (mount.cache.invalidateAll (plan.homes.map (·.1))).invalidate
        journal.physicalBlock })

end

def Ext4Mount.replayJournalTransaction (mount : Ext4Mount) (device : BlockDevice)
    (journal : JournalProbe) : Io (JournalRecovery × Ext4Mount) :=
  if journal.superblock.start = 0#32 then discardInactiveJournal device mount journal
  else replayActiveJournal device mount journal

/-! ## Mount -/

/-- The superblock, and whether the journal has to be replayed. -/
def readMountSuperblock (bytes : Bytes) : Io (Superblock × Bool) :=
  match Superblock.parse bytes with
  | .ok superblock => .pure (superblock, false)
  | .error .dirtyFilesystem => do
      let superblock ← expect (Superblock.parseForRecovery bytes)
        "ext4 recovery superblock is invalid"
      require (superblock.featureIncompat &&& FEATURE_INCOMPAT_RECOVER ≠ 0#32)
        "ext4 dirty state has no replayable journal"
      return (superblock, true)
  | .error _ => .fail "ext4 superblock validation failed"

/-- The mount up to the decision to recover. -/
def openMount : Io (Ext4Mount × Bool) := do
  let bytes ← device.readSuperblock
  let (superblock, recoveryRequired) ← readMountSuperblock bytes
  require (superblock.blockSize.toNat = BLOCK_SIZE)
    "ext4 mount requires a 4096-byte block size"
  let (group0, cache) ← readGroupDescriptor device superblock 0#32 BlockCache.new
  return (⟨superblock, group0, cache, none⟩, recoveryRequired)

/-- The recovery of a mount whose superblock asks for it. -/
def Ext4Mount.recover (mount : Ext4Mount) (device : BlockDevice) : Io Ext4Mount := do
  let (journal, mount) ← mount.probeJournal device
  let (recovery, mount) ← mount.replayJournalTransaction device journal
  return { mount with recovery := some recovery }

def Ext4Mount.mount : Io Ext4Mount := do
  let (mount, recoveryRequired) ← openMount device
  if recoveryRequired then mount.recover device else return mount

/-! ## What the mount reads

Up to the replay nothing is written, and every block that is used was read from the
disk as it is. -/

section Reads

variable {device : BlockDevice} {superblock : Superblock} {mount : Ext4Mount} {cache : BlockCache}
  {crash : Disk Block → Prop} {s : State Block}

theorem ensures_readGroupDescriptor {groupIndex : BitVec 32}
    {post : GroupDescriptor × BlockCache → State Block → Prop}
    (size : superblock.blockSize = 4096#32) (safe : s.Safe crash) (consistent : cache.Consistent s.view)
    (next : ∀ group cache', BlockCache.Consistent cache' s.view → post (group, cache') s) :
    (readGroupDescriptor device superblock groupIndex cache).Ensures crash post s := by
  refine .expect fun location _ => ?_
  refine .bind (ensures_cacheRead size safe consistent fun cache' consistent' => ?_)
  refine .require fun _ => ?_
  refine .expect fun group _ => ?_
  exact ⟨safe, next group cache' consistent'⟩

theorem ensures_readInode {inodeNumber : BitVec 32} {post : Inode × Ext4Mount → State Block → Prop}
    (size : mount.superblock.blockSize = 4096#32) (safe : s.Safe crash)
    (consistent : mount.cache.Consistent s.view)
    (next : ∀ inode cache, BlockCache.Consistent cache s.view → post (inode, { mount with cache }) s) :
    (mount.readInode device inodeNumber).Ensures crash post s := by
  have continued {groupIndex : BitVec 32} {post : GroupDescriptor × BlockCache → State Block → Prop}
      (next : ∀ group cache', BlockCache.Consistent cache' s.view → post (group, cache') s) :
      (mount.readGroup device groupIndex).Ensures crash post s := by
    unfold Ext4Mount.readGroup
    split
    · exact ⟨safe, next _ _ consistent⟩
    · exact ensures_readGroupDescriptor size safe consistent next
  refine .expect fun groupIndex _ => ?_
  refine .bind (continued fun group cache' consistent' => ?_)
  refine .expect fun location _ => ?_
  refine .bind (ensures_cacheRead size safe consistent' fun cache'' consistent'' => ?_)
  refine .require fun _ => ?_
  refine .expect fun inode _ => ?_
  exact ⟨safe, next inode cache'' consistent''⟩

/-- The journal superblock that is found is the one on the disk. -/
theorem ensures_probeJournal {post : JournalProbe × Ext4Mount → State Block → Prop}
    (size : mount.superblock.blockSize = 4096#32) (safe : s.Safe crash)
    (consistent : mount.cache.Consistent s.view)
    (next : ∀ journal cache, BlockCache.Consistent cache s.view →
      JournalSuperblock.parse (s.view journal.physicalBlock).bytes = .ok journal.superblock →
      post (journal, { mount with cache }) s) :
    (mount.probeJournal device).Ensures crash post s := by
  refine .require fun _ => ?_
  refine .bind (ensures_readInode size safe consistent fun inode cache consistent' => ?_)
  refine .require fun _ => ?_
  refine .expect fun found _ => ?_
  refine .bind (Program.ensures_expectSome fun extent _ => ?_)
  refine .require fun _ => ?_
  refine .bind (ensures_cacheRead size safe consistent' fun cache' kept => ?_)
  refine .expect fun superblock parsed => ?_
  refine .require fun _ => ?_
  exact ⟨safe, next ⟨extent.physicalBlock, superblock⟩ cache' kept parsed⟩

/-- A mount asks for recovery exactly when the superblock is dirty. -/
theorem ensures_openMount {post : Ext4Mount × Bool → State Block → Prop} (safe : s.Safe crash)
    (next : ∀ mount recoveryRequired, mount.superblock.blockSize = 4096#32 →
      mount.cache.Consistent s.view →
      (recoveryRequired = true → Superblock.parse (s.view 0).superblock = .error .dirtyFilesystem) →
      (recoveryRequired = false → Superblock.parse (s.view 0).superblock = .ok mount.superblock) →
      post (mount, recoveryRequired) s) :
    (openMount device).Ensures crash post s := by
  have opened (superblock : Superblock) (recoveryRequired : Bool)
      (dirty : recoveryRequired = true →
        Superblock.parse (s.view 0).superblock = .error .dirtyFilesystem)
      (clean : recoveryRequired = false →
        Superblock.parse (s.view 0).superblock = .ok superblock) :
      (do
        require (superblock.blockSize.toNat = BLOCK_SIZE)
          "ext4 mount requires a 4096-byte block size"
        let (group0, cache) ← readGroupDescriptor device superblock 0#32 BlockCache.new
        return ((⟨superblock, group0, cache, none⟩ : Ext4Mount), recoveryRequired)).Ensures
          crash post s := by
    refine .require fun sized => ?_
    have size : superblock.blockSize = 4096#32 := BitVec.eq_of_toNat_eq (of_decide_eq_true sized)
    refine .bind (ensures_readGroupDescriptor size safe
      (BlockCache.consistent_new _) fun group cache consistent => ?_)
    exact ⟨safe, next _ recoveryRequired size consistent dirty clean⟩
  refine Program.Ensures.bind
    (Program.Ensures.bind (Program.ensures_require fun _ => ⟨safe, ?_⟩))
  refine Program.Ensures.bind ?_
  unfold readMountSuperblock
  cases parsed : Superblock.parse (s.view 0).superblock with
  | ok sb =>
    exact ⟨safe, opened sb false (fun absurd => by cases absurd) fun _ => parsed⟩
  | error e =>
    cases e with
    | dirtyFilesystem =>
      refine .expect fun sb _ => ?_
      refine .require fun _ => ?_
      exact ⟨safe, opened sb true (fun _ => parsed) fun absurd => by cases absurd⟩
    | _ => exact safe

end Reads

end SlopOS.Filesystem
