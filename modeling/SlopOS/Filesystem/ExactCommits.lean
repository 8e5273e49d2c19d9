import SlopOS.Filesystem.Completion
import SlopOS.Base.Trace

/-!
# Commits without crashes

A run of commits that no crash cuts, each with the sequence number that the one before
returned.  `Retired` says where a single commit leaves the whole disk, the journal
included; a clean disk with an empty record area is clean again after each call, so
the run never stops.
-/

namespace SlopOS.Filesystem

open ByteCodec CrashDisk Ext4 Function PreparedTransaction State

variable {block : Nat}

/-! ## One call -/

section Call

variable {call : CommitCall} {device : BlockDevice} {mount : Ext4Mount} {journal : JournalProbe}
  {sequence : BitVec 32} {disk d : Disk Block} {limit : Nat}

/-- Each target holds what was supplied, block 0 with the flag cleared and its checksum
renewed, and no other block outside the journal has changed. -/
structure CommitCall.Stored (call : CommitCall) (journal : JournalProbe) (before after : Disk Block) :
    Prop where
  contents : ∀ home ∈ call.homes, home.1 ≠ 0 → after home.1 = home.2
  superblock : ∀ home ∈ call.homes, home.1 = 0 → home.2.setRecovery false = .ok (after 0)
  kept : ∀ block, block ∉ call.homes.map (·.1) →
    ¬ (journal.physicalBlock ≤ block ∧
      block < journal.physicalBlock + journal.superblock.maxLength.toNat) →
    after block = before block

section

variable {tx : PreparedTransaction} (commit : CommitOf mount journal sequence disk call.homes tx)
  (finished : tx.Finished d)
include commit finished

theorem CommitOf.stored : call.Stored journal disk d where
  contents home member nonzero := by
    have held := commit.holds_new finished member
    rwa [HoldsContents, if_neg nonzero] at held
  superblock home member zero := by
    obtain ⟨written, inside, target, contents⟩ := commit.activates.exists_written member
    rw [HomeContents, if_pos zero, tx.home_zero inside (target.trans zero)] at contents
    rw [← Block.setRecovery_again contents]
    exact finished.2
  kept _ untargeted outside := commit.kept finished untargeted outside

/-- The journal is inactive with the next sequence number. -/
theorem CommitOf.journal_next : JournalSuperblock.parse (d journal.physicalBlock).bytes =
      .ok { journal.superblock with sequence := sequence + 1#32, start := 0#32 } := by
  obtain ⟨j, parsed, -, -, checkpointed⟩ := Block.setJournalState_ok finished.1.journal
  rw [tx.parse_active] at parsed
  cases parsed
  rw [commit.journal, commit.sequence] at checkpointed
  rw [checkpointed, activeSuperblock, commit.journal]

end

end Call

/-! ## Runs of calls -/

/-- A mounted filesystem between two commits. -/
structure CommitState where
  mount : Ext4Mount
  sequence : BitVec 32
  disk : Disk Block

/-- One commit with the sequence number at hand; the reply is the number it returns. -/
def commitStep (device : BlockDevice) (journal : JournalProbe) (s : CommitState)
    (call : CommitCall) : CommitState × Option (BitVec 32) :=
  match (call.program s.mount device journal s.sequence).run (State.settled s.disk) with
  | .ok ((next, mount), final) => (⟨mount, next, final.view⟩, some next)
  | .error _ => (s, none)

/-- The blocks of the journal that records of up to eight targets take. -/
def InRecordArea (journal : JournalProbe) (block : Nat) : Prop :=
  journal.physicalBlock + journal.superblock.firstLogBlock.toNat ≤ block ∧
    block < journal.physicalBlock + journal.superblock.firstLogBlock.toNat +
      (MULTI_TRANSACTION_MAX_BLOCKS + 2) ∧
    block < journal.physicalBlock + journal.superblock.maxLength.toNat

/-- The superblock parses as clean, the journal is inactive with the sequence number at
hand, and the record area is zero. -/
structure CommitState.Clean (s : CommitState) (probe : JournalProbe) : Prop extends
    CleanDisk s.mount probe s.sequence s.disk where
  nonzero : s.sequence ≠ 0#32
  records : ∀ block, InRecordArea probe block → s.disk block = Block.zero

/-- A call that is placed, with new contents of block 0 for blocks of the same size. -/
structure CommitCall.Proper (call : CommitCall) (device : BlockDevice) (journal : JournalProbe)
    (limit : Nat) (s : CommitState) : Prop extends
    call.Placed device s.mount.superblock journal s.sequence limit where
  blockSize : ∀ home ∈ call.homes, home.1 = 0 →
    ∀ sb, Superblock.parseForRecovery home.2.superblock = .ok sb → sb.blockSize = 4096#32

section Run

variable {call : CommitCall} {device : BlockDevice} {journal : JournalProbe} {limit : Nat}
  {s : CommitState} {superblock : Superblock}

theorem CommitCall.Placed.inRecordArea {sequence : BitVec 32}
    (placed : call.Placed device superblock journal sequence limit) (record : block ∈ recordBlocks
      (journal.physicalBlock + journal.superblock.firstLogBlock.toNat) call.homes.length) :
    InRecordArea journal block := by
  have few := placed.count.2
  have room := placed.room
  rw [mem_recordBlocks] at record
  unfold InRecordArea
  omega

/-- The new superblock is for the same block size. -/
theorem CommitCall.Proper.keeps_blockSize (proper : call.Proper device journal limit s)
    (clean : s.Clean journal) {d : Disk Block} (stored : call.Stored journal s.disk d)
    (parsed : Superblock.parse (d 0).superblock = .ok superblock) :
    superblock.blockSize = 4096#32 := by
  by_cases target : 0 ∈ call.homes.map (·.1)
  · obtain ⟨home, member, zero⟩ := List.mem_map.mp target
    obtain ⟨sb, contents, written⟩ :=
      Block.setRecovery_ok_iff.mp (stored.superblock home member zero)
    rw [written, Block.superblock_stamped, parse_stamp_false contents] at parsed
    cases parsed
    exact proper.blockSize home member zero sb contents
  · have positive := clean.positive
    rw [stored.kept 0 target (by omega), clean.superblock] at parsed
    cases parsed
    exact clean.toCleanDisk.blockSize

/-- The call returned the next sequence number, stored what it was given, and left the
disk clean with that number. -/
structure Completes (journal : JournalProbe)
    (e : Trace.Event CommitState CommitCall (Option (BitVec 32))) : Prop where
  reply : e.reply = some (e.before.sequence + 1#32)
  sequence : e.after.sequence = e.before.sequence + 1#32
  stored : e.operation.Stored journal e.before.disk e.after.disk
  clean : e.after.Clean journal

theorem CommitState.Clean.step (clean : s.Clean journal)
    (proper : call.Proper device journal limit s) :
    Completes journal (Trace.event (commitStep device journal) s call) := by
  obtain ⟨⟨next, mount⟩, final, ran⟩ := proper.returns clean.toCleanDisk clean.nonzero
    fun block record => clean.records block (proper.inRecordArea record)
  obtain ⟨tx, commit, small, rfl, d, rfl, retired, parsed⟩ :=
    (CommitCall.ensures clean.toCleanDisk proper.single).returns ran
  have stored := commit.stored retired.finished
  have same := commit.sequence
  have first : tx.plan.descriptorBlock =
      journal.physicalBlock + journal.superblock.firstLogBlock.toNat := by
    rw [tx.descriptorBlock, commit.journal]
  have positive := clean.positive
  have stepped : commitStep device journal s call =
      (⟨mount, s.sequence + 1#32, d⟩, some (s.sequence + 1#32)) := by
    unfold commitStep
    rw [ran, same]
    rfl
  unfold Trace.event
  rw [stepped]
  refine ⟨rfl, rfl, stored, ⟨proper.keeps_blockSize clean stored parsed, parsed, positive,
    commit.journal_next retired.finished⟩, ?_, fun block area => ?_⟩
  · have successor := proper.successor
    intro zero
    have value := congrArg BitVec.toNat zero
    rw [BitVec.toNat_add, show (1#32).toNat = 1 from rfl, Nat.mod_eq_of_lt successor] at value
    exact absurd value (Nat.succ_ne_zero _)
  · by_cases record : block ∈ recordBlocks tx.plan.descriptorBlock tx.plan.homes.length
    · exact retired.records block record
    have gt := tx.descriptorBlock_gt
    rw [commit.journal] at gt
    obtain ⟨low, -, high⟩ := id area
    have inside : tx.InJournal block := by
      rw [InJournal, commit.journal]
      omega
    show d block = Block.zero
    rw [retired.rest block inside (by rw [commit.journal]; omega) record, commit.disk]
    exact clean.records block area

theorem CommitState.Clean.step_sequence (clean : s.Clean journal)
    (proper : call.Proper device journal limit s) :
    (commitStep device journal s call).1.sequence = s.sequence + 1#32 :=
  (clean.step proper).sequence

/-- The successor is the last thing a commit needs and may not have. -/
theorem CommitState.Clean.exhausted (clean : s.Clean journal)
    (single : ∀ target home, call = .single target home → SingleTarget journal target)
    (last : 2 ^ 32 ≤ s.sequence.toNat + 1) : (commitStep device journal s call).2 = none := by
  unfold commitStep
  split
  · next next mount final ran =>
    obtain ⟨tx, commit, small, -⟩ := (CommitCall.ensures clean.toCleanDisk single).returns ran
    rw [commit.sequence] at small
    omega
  · rfl

end Run

/-! ## The small filesystem -/

def smallStart : CommitState := ⟨smallMount, 1#32, smallDisk⟩

theorem smallDisk_records (area : InRecordArea smallProbe block) :
    smallDisk block = Block.zero := by
  obtain ⟨low, -, high⟩ := area
  exact smallDisk_log low high

theorem smallStart_clean : smallStart.Clean smallProbe :=
  ⟨smallDisk_clean, by decide, fun _ area => smallDisk_records area⟩

theorem smallHomes_nonzero : ∀ home ∈ smallHomes, home.1 ≠ 0 := by decide

theorem smallHomes_proper : (CommitCall.multi smallHomes).Proper smallDevice smallProbe 10
    smallStart where
  count := by decide
  room := by rw [smallProbe_geometry.1, smallProbe_geometry.2]; decide
  several := by
    rintro homes same
    cases same
    decide +kernel
  single := nofun
  small := by decide
  contents home member zero := absurd zero (smallHomes_nonzero home member)
  successor := by decide
  fits := ⟨rfl, by decide, by decide⟩
  journalEnd := by rw [smallProbe_geometry.2]; decide
  below := by decide
  blockSize home member zero := absurd zero (smallHomes_nonzero home member)

theorem oldContents_proper {s : CommitState} (second : s.sequence = 2#32) :
    (CommitCall.single 8 oldContents).Proper smallDevice smallProbe 10 s := by
  obtain ⟨first, last⟩ := smallProbe_geometry
  have nonzero : ∀ home ∈ [(8, oldContents)], home.1 ≠ 0 := by decide
  exact {
    count := ⟨Nat.one_ne_zero, by decide⟩
    room := by rw [first, last]; decide
    several := nofun
    single := by
      rintro target home same
      cases same
      refine ⟨by decide, ?_⟩
      decide
    small := by decide
    contents := fun home member zero => absurd zero (nonzero home member)
    successor := by rw [second]; decide
    fits := ⟨rfl, by decide, by decide⟩
    journalEnd := by rw [last]; decide
    below := by decide
    blockSize := fun home member zero => absurd zero (nonzero home member) }

/-- A commit of two blocks and then one of a single block. -/
theorem smallCommits_proper : Trace.Admits (commitStep smallDevice smallProbe)
    (fun s call => call.Proper smallDevice smallProbe 10 s) smallStart
    [.multi smallHomes, .single 8 oldContents] := by
  refine Trace.admits_cons.mpr ⟨smallHomes_proper, Trace.admits_cons.mpr ⟨?_, ?_⟩⟩
  · refine oldContents_proper ?_
    rw [smallStart_clean.step_sequence smallHomes_proper]
    rfl
  · exact fun _ member => absurd member List.not_mem_nil

/-- The journal superblock with the last sequence number. -/
def lastJournal : Block := Block.patches [
  (0, beBytes JOURNAL_MAGIC), (4, beBytes 4#32), (12, beBytes 4096#32), (16, beBytes 5#32),
  (20, beBytes 1#32), (24, beBytes 0xffffffff#32), (64, beBytes 1#32)]

def lastDisk : Disk Block := Function.update smallDisk 3 lastJournal

def lastStart : CommitState := ⟨smallMount, 0xffffffff#32, lastDisk⟩

theorem lastStart_clean : lastStart.Clean smallProbe where
  blockSize := smallDisk_clean.blockSize
  superblock := smallDisk_clean.superblock
  positive := by decide
  journal := JournalSuperblock.parse_ok_iff.mpr
    ⟨by rw [Block.size]; decide, by decide +kernel, by decide +kernel⟩
  nonzero := by decide
  records block area := by
    have other : block ≠ 3 := by
      obtain ⟨low, -⟩ := area
      have low : 4 ≤ block := low
      omega
    exact (update_of_ne other _ _).trans (smallDisk_records area)

end SlopOS.Filesystem
