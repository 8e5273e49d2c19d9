import SlopOS.Filesystem.Recovery

/-!
# Journal transactions

The two commit paths: one for up to eight targets, block 0 among them, and one for a
single target.  They prepare the records without writing, and then go through
the same stages: flag, journal superblock, records, commit record, homes, checkpoint.
Only the single path clears its records after the checkpoint is durable.
-/

namespace SlopOS.Filesystem

open ByteCodec CrashDisk Ext4
open Program (require expect)

/-- What both paths compute before they write. -/
structure CommitPlan where
  filesystemSector : Nat
  journalSector : Nat
  descriptorBlock : Nat
  commitBlock : Nat
  /-- Block 0 with the recovery flag set. -/
  filesystemBlock : Block
  /-- The journal superblock as it was read. -/
  journalBlock : Block
  descriptor : Block
  data : List Block
  commit : Block
  homes : List (Nat × Block)

/-- The data records with their blocks. -/
def CommitPlan.dataRecords (plan : CommitPlan) : List (Nat × Block) :=
  plan.data.mapIdx fun index data => (plan.descriptorBlock + 1 + index, data)

def CommitPlan.records (plan : CommitPlan) : List (Nat × Block) :=
  (plan.descriptorBlock, plan.descriptor) :: plan.dataRecords ++ [(plan.commitBlock, plan.commit)]

/-! ## Preparation -/

/-- The targets are checked in order against those before them. -/
def targetsSafe (superblock : Superblock) (journal : JournalProbe) (journalEnd : Nat) :
    List Nat → List Nat → Bool
  | _, [] => true
  | seen, target :: rest =>
      !targetUnsafe superblock journal journalEnd seen target &&
        targetsSafe superblock journal journalEnd (target :: seen) rest

/-- A loop that checks blocks to be zero. -/
def requireEmpty (device : BlockDevice) (superblock : Superblock) (message : String) :
    List Nat → Io Unit
  | [] => .pure ()
  | block :: rest => do
      let data ← readBlock device superblock block
      require (data.bytes.all (· == 0#8)) message
      requireEmpty device superblock message rest

/-- Block 0 as it goes to its home: with the recovery flag set. -/
def activateHome (home : Nat × Block) : Io (Nat × Block) :=
  if home.1 = 0 then do
    let desired ← expect (home.2.setRecovery true)
      "multi-block JBD2 home superblock activation failed"
    return (0, desired)
  else .pure home

def activateHomes : List (Nat × Block) → Io (List (Nat × Block))
  | [] => .pure []
  | home :: rest => do
      let home ← activateHome home
      let others ← activateHomes rest
      return home :: others

/-- A home block with its tag. -/
structure EncodedHome where
  target : BitVec 32
  data : Block
  escaped : Bool

/-- The loop that encodes the data records. -/
def encodeHomes : List (Nat × Block) → Io (List EncodedHome)
  | [] => .pure []
  | (target, home) :: rest => do
      require (target < 2 ^ 32) "multi-block JBD2 target exceeds 32 bits"
      let encoded ← expect home.encodeData "multi-block JBD2 data encoding failed"
      let others ← encodeHomes rest
      return ⟨BitVec.ofNat 32 target, encoded.1, encoded.2⟩ :: others

/-- A descriptor or commit buffer, one block long. -/
def blockOf (result : Except ParseError Bytes) : Except ParseError Block :=
  result >>= Block.ofBytes

variable (device : BlockDevice) (mount : Ext4Mount) (journal : JournalProbe)
  (sequence : BitVec 32)

def planMultiBlock (homes : List (Nat × Block)) : Io CommitPlan := do
  require (homes.length ≠ 0 ∧ homes.length ≤ MULTI_TRANSACTION_MAX_BLOCKS)
    "multi-block JBD2 transaction capacity is unsupported"
  let filesystemSector ← blockToSector mount.superblock 0
  let journalSector ← blockToSector mount.superblock journal.physicalBlock
  let descriptorBlock ← checkedAdd journal.physicalBlock journal.superblock.firstLogBlock.toNat
    "multi-block JBD2 descriptor overflow"
  let commitBlock ← checkedAdd descriptorBlock (1 + homes.length)
    "multi-block JBD2 commit overflow"
  let journalEnd ← checkedAdd journal.physicalBlock journal.superblock.maxLength.toNat
    "multi-block JBD2 extent overflow"
  require (commitBlock < journalEnd) "multi-block JBD2 transaction exceeds journal extent"
  require (targetsSafe mount.superblock journal journalEnd [] (homes.map (·.1)))
    "multi-block JBD2 target is unsafe"
  let filesystemBlock ← device.read filesystemSector
  require (Superblock.parse filesystemBlock.superblock).isOk
    "multi-block JBD2 transaction requires a clean filesystem"
  let journalBlock ← device.read journalSector
  let initial ← expect (JournalSuperblock.parse journalBlock.bytes)
    "multi-block JBD2 initial state is invalid"
  require (initial.sequence = sequence ∧ initial.start = 0#32)
    "multi-block JBD2 initial sequence mismatch"
  requireEmpty device mount.superblock "multi-block JBD2 record block is not empty"
    (recordBlocks descriptorBlock homes.length)
  let activated ← expect (filesystemBlock.setRecovery true)
    "multi-block JBD2 recovery activation failed"
  let homes ← activateHomes homes
  let encoded ← encodeHomes homes
  let descriptor ← expect
    (blockOf (encodeJournalDescriptorBlock BLOCK_SIZE sequence (encoded.map (·.target))
      (encoded.map (·.escaped)) mount.superblock.uuid))
    "multi-block JBD2 descriptor encoding failed"
  let commit ← expect (blockOf (encodeJournalCommitBlock BLOCK_SIZE sequence))
    "multi-block JBD2 commit encoding failed"
  return {
    filesystemSector, journalSector, descriptorBlock, commitBlock, filesystemBlock := activated
    journalBlock, descriptor, data := encoded.map (·.data), commit, homes }

/-! ## Stages -/

/-- The failure messages of one commit path. -/
structure CommitMessages where
  stateActivation : String
  activeFilesystem : String
  activeInvalid : String
  activeState : String
  recordReadback : String
  retire : RetireMessages
  finalInvalid : String
  finalState : String

/-- The recovery flag and then the journal superblock, each made durable. -/
def activateJournal (plan : CommitPlan) (messages : CommitMessages) : Io Block := do
  device.write plan.filesystemSector plan.filesystemBlock
  device.flush
  let active ← expect
    (plan.journalBlock.setJournalState sequence journal.superblock.firstLogBlock)
    messages.stateActivation
  device.write plan.journalSector active
  device.flush
  return active

/-- The records, and after a flush the commit record. -/
def writeRecords (superblock : Superblock) (plan : CommitPlan) : Io Unit := do
  writeBlocks device superblock ((plan.descriptorBlock, plan.descriptor) :: plan.dataRecords)
  device.flush
  writeBlock device superblock plan.commitBlock plan.commit
  device.flush

/-- The read-back of the journal after the commit record. -/
def verifyActive (superblock : Superblock) (journal : JournalProbe) (sequence : BitVec 32)
    (plan : CommitPlan) (active : Block) (messages : CommitMessages) : Io Unit := do
  let filesystemBlock ← device.read plan.filesystemSector
  require
    (filesystemBlock = plan.filesystemBlock ∧
      Superblock.parse filesystemBlock.superblock = .error .dirtyFilesystem)
    messages.activeFilesystem
  let journalBlock ← device.read plan.journalSector
  let parsed ← expect (JournalSuperblock.parse journalBlock.bytes) messages.activeInvalid
  require
    (journalBlock = active ∧ parsed.sequence = sequence ∧
      parsed.start = journal.superblock.firstLogBlock)
    messages.activeState
  verifyBlocks device superblock messages.recordReadback plan.records

/-- The journal superblock is read back as `expected`, inactive with sequence `next`. -/
def verifyFinalJournal (plan : CommitPlan) (expected : Block) (next : BitVec 32)
    (messages : CommitMessages) : Io Unit := do
  let journalBlock ← device.read plan.journalSector
  let parsed ← expect (JournalSuperblock.parse journalBlock.bytes) messages.finalInvalid
  require (journalBlock = expected ∧ parsed.sequence = next ∧ parsed.start = 0#32)
    messages.finalState

/-! ## Several targets -/

def multiBlockMessages : CommitMessages where
  stateActivation := "multi-block JBD2 state activation failed"
  activeFilesystem := "multi-block JBD2 active filesystem state mismatch"
  activeInvalid := "multi-block JBD2 active state is invalid"
  activeState := "multi-block JBD2 active state mismatch"
  recordReadback := "multi-block JBD2 record readback mismatch"
  retire := {
    homeReadback := "multi-block JBD2 home readback mismatch"
    sequenceOverflow := "multi-block JBD2 sequence overflow"
    checkpointUpdate := "multi-block JBD2 checkpoint update failed"
    flagClearing := "multi-block JBD2 recovery clearing failed" }
  finalInvalid := "multi-block JBD2 final state is invalid"
  finalState := "multi-block JBD2 final state mismatch"

/-- Homes, checkpoint and final superblock. -/
def finishMultiBlock (plan : CommitPlan) (active : Block) : Io (BitVec 32 × Ext4Mount) := do
  let (next, checkpointed, cleared) ← retireTransaction device mount.superblock
    plan.filesystemSector plan.journalSector plan.descriptorBlock plan.filesystemBlock active
    plan.homes sequence multiBlockMessages.retire
  let readback ← device.read plan.filesystemSector
  let cleanSuperblock ← expect (Superblock.parse readback.superblock)
    "multi-block JBD2 final superblock is invalid"
  require (readback = cleared) "multi-block JBD2 final superblock mismatch"
  verifyFinalJournal device plan checkpointed next multiBlockMessages
  return (next, {
    mount with
    superblock := cleanSuperblock
    cache := (mount.cache.invalidateAll (plan.homes.map (·.1))).invalidate
      journal.physicalBlock })

def Ext4Mount.commitMultiBlockJournalTransaction (mount : Ext4Mount) (device : BlockDevice)
    (journal : JournalProbe) (sequence : BitVec 32) (homes : List (Nat × Block)) :
    Io (BitVec 32 × Ext4Mount) := do
  let plan ← planMultiBlock device mount journal sequence homes
  let active ← activateJournal device journal sequence plan multiBlockMessages
  writeRecords device mount.superblock plan
  verifyActive device mount.superblock journal sequence plan active multiBlockMessages
  finishMultiBlock device mount journal sequence plan active

/-! ## One target -/

def singleBlockMessages : CommitMessages where
  stateActivation := "JBD2 transaction state activation failed"
  activeFilesystem := "JBD2 transaction recovery readback mismatch"
  activeInvalid := "JBD2 transaction active state is invalid"
  activeState := "JBD2 transaction active state mismatch"
  recordReadback := "JBD2 transaction record readback mismatch"
  retire := {
    homeReadback := "JBD2 transaction home-block readback mismatch"
    sequenceOverflow := "JBD2 transaction sequence overflow"
    checkpointUpdate := "JBD2 transaction checkpoint update failed"
    flagClearing := "JBD2 transaction recovery clearing failed" }
  finalInvalid := "JBD2 transaction final state is invalid"
  finalState := "JBD2 transaction final state mismatch"

def encodeSingleBlock (sequence target : BitVec 32) (uuid : Bytes) (home : Block) :
    Except ParseError (Block × Block × Block) := do
  let (descriptor, data, commit) ←
    encodeSingleBlockJournalTransaction sequence target uuid home.bytes
  let descriptor ← Block.ofBytes descriptor
  let data ← Block.ofBytes data
  let commit ← Block.ofBytes commit
  return (descriptor, data, commit)

/-- The home buffer is one block by its type, so the length check of the source holds. -/
def planSingleBlock (target : Nat) (home : Block) : Io CommitPlan := do
  let filesystemSector ← blockToSector mount.superblock 0
  let journalSector ← blockToSector mount.superblock journal.physicalBlock
  let descriptorBlock ← checkedAdd journal.physicalBlock journal.superblock.firstLogBlock.toNat
    "JBD2 transaction descriptor overflow"
  let _ ← checkedAdd descriptorBlock 1 "JBD2 transaction data overflow"
  let commitBlock ← checkedAdd descriptorBlock 2 "JBD2 transaction commit overflow"
  let journalEnd ← checkedAdd journal.physicalBlock journal.superblock.maxLength.toNat
    "JBD2 transaction extent overflow"
  require (commitBlock < journalEnd) "JBD2 transaction exceeds journal extent"
  let filesystemBlock ← device.read filesystemSector
  require (Superblock.parse filesystemBlock.superblock).isOk
    "JBD2 transaction requires a clean ext4 superblock"
  let journalBlock ← device.read journalSector
  let initial ← expect (JournalSuperblock.parse journalBlock.bytes)
    "JBD2 transaction initial state is invalid"
  require (initial.sequence = sequence ∧ initial.start = 0#32)
    "JBD2 transaction initial sequence mismatch"
  requireEmpty device mount.superblock "JBD2 transaction record block is not empty"
    (recordBlocks descriptorBlock 1)
  require (target < 2 ^ 32) "JBD2 transaction target exceeds 32 bits"
  let (descriptor, data, commit) ← expect
    (encodeSingleBlock sequence (BitVec.ofNat 32 target) mount.superblock.uuid home)
    "JBD2 transaction encoding failed"
  let activated ← expect (filesystemBlock.setRecovery true)
    "JBD2 transaction recovery activation failed"
  return {
    filesystemSector, journalSector, descriptorBlock, commitBlock, filesystemBlock := activated
    journalBlock, descriptor, data := [data], commit, homes := [(target, home)] }

/-- The parse of the records that were read back. -/
def verifyIdentity (target : Nat) (plan : CommitPlan) : Io Unit := do
  let descriptor ← expect (JournalDescriptor.parse plan.descriptor.bytes)
    "JBD2 transaction descriptor is invalid"
  let commit ← expect (JournalCommit.parse plan.commit.bytes)
    "JBD2 transaction commit is invalid"
  require
    (descriptor.sequence = sequence ∧ descriptor.targetBlock = BitVec.ofNat 32 target ∧
      descriptor.uuid = mount.superblock.uuid ∧ commit.sequence = sequence)
    "JBD2 transaction identity mismatch"

/-- The checkpoint of the single path: each step is durable before the next, and the
records are cleared last. -/
def finishSingleBlock (plan : CommitPlan) (active : Block) : Io (BitVec 32 × Ext4Mount) := do
  installHomes device mount.superblock plan.homes singleBlockMessages.retire.homeReadback
  let next ← nextSequence sequence singleBlockMessages.retire.sequenceOverflow
  let checkpointed ← expect (active.setJournalState next 0#32)
    singleBlockMessages.retire.checkpointUpdate
  device.write plan.journalSector checkpointed
  device.flush
  let cleared ← expect (plan.filesystemBlock.setRecovery false)
    singleBlockMessages.retire.flagClearing
  device.write plan.filesystemSector cleared
  device.flush
  writeBlocks device mount.superblock
    ((recordBlocks plan.descriptorBlock 1).map (·, Block.zero))
  device.flush
  let readback ← device.read plan.filesystemSector
  require (readback = cleared ∧ (Superblock.parse readback.superblock).isOk)
    "JBD2 transaction final ext4 state mismatch"
  verifyFinalJournal device plan checkpointed next singleBlockMessages
  return (next, { mount with cache := mount.cache.invalidateAll (plan.homes.map (·.1)) })

def Ext4Mount.commitSingleBlockJournalTransaction (mount : Ext4Mount) (device : BlockDevice)
    (journal : JournalProbe) (sequence : BitVec 32) (target : Nat) (home : Block) :
    Io (BitVec 32 × Ext4Mount) := do
  let plan ← planSingleBlock device mount journal sequence target home
  let active ← activateJournal device journal sequence plan singleBlockMessages
  writeRecords device mount.superblock plan
  verifyActive device mount.superblock journal sequence plan active singleBlockMessages
  verifyIdentity mount sequence target plan
  finishSingleBlock device mount sequence plan active

end SlopOS.Filesystem
