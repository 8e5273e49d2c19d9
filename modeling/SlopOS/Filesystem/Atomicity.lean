import SlopOS.Filesystem.Replay

/-!
# Crash atomicity of multi-block transactions

A commit is cut at any point and the disk is mounted until one mount returns.  If
every mounted disk still has its journal where the commit found it, and no data
record is gone while the records around it are there, then all targets are old or all
are new.  The checkpoint clears the records and empties the journal before one
flush, so the second condition can fail.
-/

namespace SlopOS.Filesystem

open ByteCodec CrashDisk Ext4 List State

/-! ## Crashes of the commit -/

variable {tx : PreparedTransaction}

section Commit

variable {device : BlockDevice} {mount : Ext4Mount} {journal : JournalProbe}
  {sequence : BitVec 32} {homes : List (Nat × Block)} {disk c d : Disk Block}

theorem PreparedTransaction.ensures_finishMultiBlock (size : mount.superblock.blockSize = 4096#32) :
    (finishMultiBlock device mount tx.journal tx.sequence tx.plan tx.active).Ensures tx.Reachable
      tx.Ended (settled tx.committed) := by
  unfold finishMultiBlock verifyFinalJournal
  rw [tx.filesystemSector, tx.journalSector]
  refine .bind (ensures_retireTransaction size tx.logged_committed rfl
    fun checkpointed cleared c' small exact finished => ?_)
  have safe := safe_settled.mpr finished.1.reachable
  refine .reading ?_
  refine .expect fun sb clean => ?_
  refine .require fun _ => ?_
  refine .bind (Program.Ensures.reading ?_)
  refine .expect fun _ _ => ?_
  subst exact
  exact Program.ensures_require fun _ =>
    ⟨safe, small, rfl, _, rfl, finished.retired_several, clean⟩

/-- The transactions a commit of `homes` on the disk can prepare. -/
structure CommitOf (mount : Ext4Mount) (journal : JournalProbe) (sequence : BitVec 32)
    (disk : Disk Block) (homes : List (Nat × Block)) (tx : PreparedTransaction) : Prop extends
    Prepares mount journal sequence disk tx.plan tx where
  activates : Activates tx.plan.homes homes

/-- A commit that is cut leaves the disk as it was or one of its transaction's disks; one
that returns has ended its transaction. -/
theorem ensures_commitMultiBlock (clean : CleanDisk mount journal sequence disk) :
    (mount.commitMultiBlockJournalTransaction device journal sequence homes).Ensures
      (fun c => c = disk ∨ ∃ tx, CommitOf mount journal sequence disk homes tx ∧ tx.Reachable c)
      (fun result s => ∃ tx, CommitOf mount journal sequence disk homes tx ∧ tx.Ended result s)
      (settled disk) := by
  refine .bind ((ensures_planMultiBlock clean (.inl rfl)).mono fun plan s prepared => ?_)
  obtain ⟨rfl, activates, tx, prepares⟩ := prepared
  have size := clean.blockSize
  obtain ⟨superblock, rfl, rfl, rfl, rfl⟩ := prepares
  have commit : CommitOf mount tx.journal tx.sequence tx.disk homes tx :=
    ⟨⟨superblock, rfl, rfl, rfl, rfl⟩, activates⟩
  refine Program.Ensures.weaken (show Program.Ensures tx.Reachable _ _ _ from ?_)
    fun c reachable => .inr ⟨tx, commit, reachable⟩
  refine .bind (PreparedTransaction.ensures_activateJournal ?_)
  refine .bind (PreparedTransaction.ensures_writeRecords size ?_)
  refine .bind (PreparedTransaction.ensures_verifyActive size
    (safe_settled.mpr tx.logged_committed.reachable) ?_)
  exact (PreparedTransaction.ensures_finishMultiBlock size).mono fun _ _ ended => ⟨tx, commit, ended⟩

end Commit

/-! ## Mounts until one returns -/

/-- Mounts of a disk that are cut any number of times before one returns; every mounted
disk satisfies `condition`. -/
inductive MountRun (device : BlockDevice) (condition : Disk Block → Prop) :
    Disk Block → Disk Block → Prop
  | returns {c : Disk Block} {mount : Ext4Mount} {s : State Block} (met : condition c)
      (returned : (Ext4Mount.mount device).run (State.settled c) = .ok (mount, s)) :
      MountRun device condition c s.view
  | cut {c c' d : Disk Block} (met : condition c)
      (crashed : (Ext4Mount.mount device).Crashes (State.settled c) c')
      (rest : MountRun device condition c' d) : MountRun device condition c d

variable (journal : JournalProbe) (homes : List (Nat × Block))

/-- The journal is active and both delimiting records are there, so every data record
still holds the contents it was written for. -/
def RecordsIntact (c : Disk Block) : Prop :=
  let descriptorBlock := journal.physicalBlock + journal.superblock.firstLogBlock.toNat
  (∃ j, JournalSuperblock.parse (c journal.physicalBlock).bytes = .ok j ∧ j.start ≠ 0#32) →
  c descriptorBlock ≠ Block.zero → c (descriptorBlock + (1 + homes.length)) ≠ Block.zero →
  ∀ index target contents written data escaped, homes[index]? = some (target, contents) →
    HomeContents target contents written → written.encodeData = .ok (data, escaped) →
    c (descriptorBlock + 1 + index) = data

/-- The target holds the contents; block 0 up to its recovery flag and checksum. -/
def HoldsContents (d : Disk Block) (home : Nat × Block) : Prop :=
  if home.1 = 0 then (d 0).SameUnflagged home.2 else d home.1 = home.2

/-- All targets are old or all are new, and nothing else has changed. -/
def Atomic (disk d : Disk Block) : Prop :=
  ((∀ home ∈ homes, HoldsContents d (home.1, disk home.1)) ∨
    (∀ home ∈ homes, HoldsContents d home)) ∧
  ∀ block, block ∉ homes.map (·.1) →
    ¬ (journal.physicalBlock ≤ block ∧
      block < journal.physicalBlock + journal.superblock.maxLength.toNat) → d block = disk block

variable {block : Nat}

section Runs

variable {device : BlockDevice} {mount : Ext4Mount} {journal : JournalProbe} {sequence : BitVec 32}
  {homes : List (Nat × Block)} {disk c d : Disk Block} {sb : Superblock}

theorem atomic_unchanged : Atomic journal homes disk disk := by
  refine ⟨.inl fun home member => ?_, fun _ _ _ => rfl⟩
  unfold HoldsContents
  split
  · next zero =>
    rw [show home.1 = 0 from zero]
    rfl
  · rfl

/-- A mount of a clean disk writes nothing. -/
theorem ensures_mount_clean (clean : Superblock.parse (c 0).superblock = .ok sb) :
    (Ext4Mount.mount device).Ensures (· = c) (fun _ s => s = settled c) (settled c) := by
  have safe : (settled c).Safe (· = c) := safe_settled.mpr rfl
  refine .bind (ensures_openMount safe fun mount required _ _ dirty _ => ?_)
  cases required with
  | false => exact ⟨safe, rfl⟩
  | true =>
    have dirty := dirty rfl
    rw [settled_view, clean] at dirty
    cases dirty

theorem MountRun.of_clean {condition : Disk Block → Prop} (run : MountRun device condition c d)
    (clean : Superblock.parse (c 0).superblock = .ok sb) : d = c := by
  induction run with
  | returns met returned => rw [(ensures_mount_clean clean).returns returned, settled_view]
  | cut met crashed rest ih =>
    cases (ensures_mount_clean clean).crashes crashed
    exact ih clean

section

variable (commit : CommitOf mount journal sequence disk homes tx)
include commit

/-- Intact records as the transaction sees them. -/
theorem CommitOf.dataIntact (intact : RecordsIntact journal homes c) (logged : tx.Logged c) :
    tx.DataIntact c := by
  obtain ⟨⟨-, rfl, rfl, rfl, -⟩, activates⟩ := commit
  have length : tx.plan.homes.length = homes.length := activates.length_eq
  have start : ∃ j, JournalSuperblock.parse (c tx.journal.physicalBlock).bytes = .ok j ∧
      j.start ≠ 0#32 := by
    rw [logged.journal]
    exact ⟨_, tx.parse_active, PreparedTransaction.activeSuperblock_start⟩
  have descriptor : c tx.plan.descriptorBlock ≠ Block.zero := fun missing => by
    have parsed := tx.descriptor
    rw [← logged.descriptor, missing, descriptor_zero] at parsed
    cases parsed
  have committed : c tx.plan.commitBlock ≠ Block.zero := fun missing => by
    have parsed := tx.commit
    rw [← logged.commit, missing, commit_zero] at parsed
    cases parsed
  rw [tx.commitBlock, length] at committed
  unfold RecordsIntact at intact
  rw [← tx.descriptorBlock] at intact
  have held := intact start descriptor committed
  intro record member
  obtain ⟨index, found, place⟩ := tx.mem_dataRecords.mp member
  have bound := (List.getElem?_eq_some_iff.mp found).1
  rw [tx.data_length] at bound
  have written := (forall₂_iff_get.mp activates).2 index bound (length ▸ bound)
  have encoded := (forall₂_iff_get.mp tx.encodes).2 index (tx.encoded_length ▸ bound) bound
  rw [tx.data, getElem?_map, getElem?_eq_getElem (tx.encoded_length ▸ bound)] at found
  rw [place, ← Option.some.inj found]
  exact held index _ _ _ _ _ (getElem?_eq_getElem (length ▸ bound)) written.2 encoded.2

theorem CommitOf.holds_new (finished : tx.Finished d) {home : Nat × Block} (member : home ∈ homes) :
    HoldsContents d home := by
  obtain ⟨w, inside, target, contents⟩ := commit.activates.exists_written member
  unfold HoldsContents
  unfold HomeContents at contents
  split
  · next zero =>
    rw [if_pos zero, tx.home_zero inside (target.trans zero)] at contents
    exact (Block.sameUnflagged_of_setRecovery finished.2).trans
      (Block.sameUnflagged_of_setRecovery contents)
  · next nonzero =>
    rw [if_neg nonzero] at contents
    rw [← target, ← contents]
    exact finished.1.homes w inside (target ▸ nonzero)

/-- Blocks that are neither targets nor in the journal are as before the commit. -/
theorem CommitOf.kept (finished : tx.Finished d) (untargeted : block ∉ homes.map (·.1))
    (outside : ¬ (journal.physicalBlock ≤ block ∧
      block < journal.physicalBlock + journal.superblock.maxLength.toNat)) :
    d block = disk block := by
  have untargeted : block ∉ tx.targets := by
    rw [PreparedTransaction.targets, commit.activates.targets]
    exact untargeted
  have outside : ¬ tx.InJournal block := by
    rw [PreparedTransaction.InJournal, commit.journal]
    exact outside
  rw [← commit.disk]
  by_cases zero : block = 0
  · subst zero
    -- Block 0 is no target, so what was cleared is the flag of the old superblock.
    rcases tx.flaggedHome_cases with present | ⟨same, -⟩
    · exact absurd (mem_map_of_mem present) untargeted
    · have cleared := finished.2
      rw [same, tx.clear_filesystemBlock] at cleared
      exact (Except.ok.inj cleared).symm
  · exact finished.1.frame block zero untargeted outside

theorem CommitOf.atomic (outcome : tx.Outcome c d) : Atomic journal homes disk d := by
  rcases outcome with ⟨-, unchanged⟩ | ⟨-, finished⟩
  · rw [unchanged, commit.disk]
    exact atomic_unchanged
  · exact ⟨.inr fun home member => commit.holds_new finished member,
      fun _ untargeted outside => commit.kept finished untargeted outside⟩

theorem MountRun.outcome (run : MountRun device
      (fun c => Locates device journal.physicalBlock c ∧ RecordsIntact journal homes c) c d)
    (reachable : tx.Reachable c) : ∃ c', tx.Outcome c' d := by
  have step {c : Disk Block} (reachable : tx.Reachable c)
      (met : Locates device journal.physicalBlock c ∧ RecordsIntact journal homes c) :=
    PreparedTransaction.ensures_mount reachable (by rw [commit.journal]; exact met.1)
      (commit.dataIntact met.2)
  induction run with
  | returns met returned =>
    obtain ⟨c', same, outcome⟩ := (step reachable met).returns returned
    rw [same]
    exact ⟨_, outcome⟩
  | cut met crashed rest ih => exact ih ((step reachable met).crashes crashed)

end

/-- A multi-block commit on a clean disk is cut anywhere, and mounts are cut any number
of times before one returns.  If each mounted disk has its journal in place and its data
records intact, the targets are all old or all new and nothing else has changed. -/
theorem commitMultiBlock_atomic (clean : CleanDisk mount journal sequence disk)
    (crashed : (mount.commitMultiBlockJournalTransaction device journal sequence homes).Crashes
      (State.settled disk) c) (run : MountRun device
      (fun c => Locates device journal.physicalBlock c ∧ RecordsIntact journal homes c) c d) :
    Atomic journal homes disk d := by
  rcases (ensures_commitMultiBlock clean).crashes crashed with rfl | ⟨tx, commit, reachable⟩
  · rw [run.of_clean clean.superblock]
    exact atomic_unchanged
  · obtain ⟨c', outcome⟩ := run.outcome commit reachable
    exact commit.atomic outcome

end Runs

/-! ## A small filesystem

Ten blocks: superblock, group descriptors, inode table, a journal of five blocks and
two data blocks. -/

/-- A zero block with some bytes written over it. -/
def Block.patches : List (Nat × Bytes) → Block
  | [] => Block.zero
  | (offset, data) :: rest =>
      let b := Block.patches rest
      if inside : offset + data.length ≤ BLOCK_SIZE then
        ⟨splice b.bytes offset data, by rw [splice_length (by rw [b.size]; exact inside), b.size]⟩
      else b

def le16 (value : BitVec 16) : Bytes := encode .little 2 value

def le32 (value : BitVec 32) : Bytes := encode .little 4 value

def beBytes (value : BitVec 32) : Bytes := encode .big 4 value

def smallSuperblock : Block := Block.patches [
  (1024, le32 16#32), (1028, le32 10#32), (1048, le32 2#32), (1056, le32 32768#32),
  (1064, le32 16#32), (1080, le16 SUPERBLOCK_MAGIC), (1082, le16 1#16), (1248, le32 JOURNAL_INODE)]

/-- The inode table is in block 2. -/
def smallGroups : Block := Block.patches [(8, le32 2#32)]

/-- Inode 8 is a regular file with one extent, blocks 3 to 7. -/
def smallInodes : Block := Block.patches [
  (896, le16 REGULAR_FILE_MODE), (900, le32 20480#32), (928, le32 INODE_FLAG_EXTENTS),
  (936, le16 EXTENT_HEADER_MAGIC), (938, le16 1#16), (940, le16 4#16), (952, le16 5#16),
  (956, le32 3#32)]

def smallJournal : Block := Block.patches [
  (0, beBytes JOURNAL_MAGIC), (4, beBytes 4#32), (12, beBytes 4096#32), (16, beBytes 5#32),
  (20, beBytes 1#32), (24, beBytes 1#32), (64, beBytes 1#32)]

def oldContents : Block := Block.patches [(0, [1#8])]

def newContents : Block := Block.patches [(0, [2#8])]

def smallDisk : Disk Block
  | 0 => smallSuperblock
  | 1 => smallGroups
  | 2 => smallInodes
  | 3 => smallJournal
  | 8 => oldContents
  | 9 => oldContents
  | _ => Block.zero

def smallDevice : BlockDevice := ⟨80, true⟩

def smallMount : Ext4Mount :=
  ⟨Superblock.fields smallSuperblock.superblock,
    ⟨0#32, 0#64, 0#64, 2#64, 0#32, 0#32, 0#32, 0#32, 0#16⟩, BlockCache.new, none⟩

def smallProbe : JournalProbe := ⟨3, JournalSuperblock.fields smallJournal.bytes⟩

def smallHomes : List (Nat × Block) := [(8, newContents), (9, newContents)]

def smallCommit : Io (BitVec 32 × Ext4Mount) :=
  smallMount.commitMultiBlockJournalTransaction smallDevice smallProbe 1#32 smallHomes

theorem smallDisk_clean : CleanDisk smallMount smallProbe 1#32 smallDisk where
  blockSize := by decide +kernel
  superblock := Superblock.parseInternal_ok_iff.mpr
    ⟨by rw [Block.superblock_length], by decide +kernel, rfl⟩
  positive := by decide
  journal := JournalSuperblock.parse_ok_iff.mpr
    ⟨by rw [Block.size]; decide, by decide +kernel, by decide +kernel⟩

theorem smallProbe_geometry : smallProbe.superblock.firstLogBlock.toNat = 1 ∧
    smallProbe.superblock.maxLength.toNat = 5 := by decide +kernel

theorem smallDisk_log (low : 4 ≤ block) (high : block < 8) : smallDisk block = Block.zero := by
  obtain rfl | rfl | rfl | rfl : block = 4 ∨ block = 5 ∨ block = 6 ∨ block = 7 := by omega
  all_goals rfl

/-- The state of the commit after a number of device requests. -/
def smallState (requests : Nat) : State Block :=
  (smallCommit.states (State.settled smallDisk)).getD requests (State.settled smallDisk)

theorem smallState_mem (requests : Nat) :
    smallState requests ∈ smallCommit.states (settled smallDisk) :=
  smallCommit.getD_mem_states _ requests

/-- A mount of the disk returns, and the block then holds the contents. -/
def mountGives (disk : Disk Block) (block : Nat) (contents : Block) : Bool :=
  match (Ext4Mount.mount smallDevice).run (State.settled disk) with
  | .ok result => result.2.view block = contents
  | .error _ => false

theorem mountGives_spec {disk : Disk Block} {contents : Block}
    (given : mountGives disk block contents = true) (condition : Disk Block → Prop)
    (met : condition disk) : ∃ d, MountRun smallDevice condition disk d ∧ d block = contents := by
  unfold mountGives at given
  split at given
  · next result returned =>
    obtain ⟨mount, s⟩ := result
    exact ⟨s.view, MountRun.returns met returned, of_decide_eq_true given⟩
  · cases given

/-- A mount of the disk finds its journal at the block, if it gets that far. -/
def findsJournal (disk : Disk Block) (block : Nat) : Bool :=
  match (openMount smallDevice).run (State.settled disk) with
  | .ok ((mount, true), s) =>
      match (mount.probeJournal smallDevice).run s with
      | .ok ((journal, _), _) => journal.physicalBlock = block
      | .error _ => true
  | _ => true

theorem findsJournal_spec {disk : Disk Block} (finds : findsJournal disk block = true) :
    Locates smallDevice block disk := by
  intro mount s journal mount' s' opened probed
  unfold findsJournal at finds
  rw [opened] at finds
  dsimp only at finds
  rw [probed] at finds
  exact of_decide_eq_true finds

/-- The crash right after the commit record is durable. -/
def loggedDisk : Disk Block := (smallState 16).durable

theorem loggedDisk_crashed : smallCommit.Crashes (settled smallDisk) loggedDisk :=
  ⟨smallState 16, smallState_mem 16, [], nil_sublist _, rfl⟩

theorem loggedDisk_checked : (findsJournal loggedDisk 3 &&
    decide (loggedDisk 5 = newContents ∧ loggedDisk 6 = newContents) &&
    mountGives loggedDisk 8 newContents) = true := by decide +kernel

theorem loggedDisk_intact (held : loggedDisk 5 = newContents ∧ loggedDisk 6 = newContents) :
    RecordsIntact smallProbe smallHomes loggedDisk := by
  intro _ _ _ index target contents written data escaped found activated encoded
  have plain : newContents.encodeData = .ok (newContents, false) := by decide +kernel
  have record (nonzero : target ≠ 0) (new : contents = newContents) : data = newContents := by
    rw [HomeContents, if_neg nonzero] at activated
    rw [activated, new, plain] at encoded
    cases encoded
    rfl
  rcases index with _ | _ | _ <;> cases found
  · exact held.1.trans (record (by decide) rfl).symm
  · exact held.2.trans (record (by decide) rfl).symm

/-- The committed transaction is replayed by the next mount. -/
theorem commitMultiBlock_atomic_loggedDisk : CleanDisk smallMount smallProbe 1#32 smallDisk ∧
    smallCommit.Crashes (State.settled smallDisk) loggedDisk ∧
    ∃ d, MountRun smallDevice (fun c => Locates smallDevice smallProbe.physicalBlock c ∧
        RecordsIntact smallProbe smallHomes c) loggedDisk d ∧
      d 8 = newContents ∧ Atomic smallProbe smallHomes smallDisk d := by
  have checked := loggedDisk_checked
  simp only [Bool.and_eq_true, decide_eq_true_eq] at checked
  obtain ⟨⟨finds, held⟩, given⟩ := checked
  obtain ⟨d, run, new⟩ := mountGives_spec given
    (fun c => Locates smallDevice smallProbe.physicalBlock c ∧
      RecordsIntact smallProbe smallHomes c)
    ⟨findsJournal_spec finds, loggedDisk_intact held⟩
  exact ⟨smallDisk_clean, loggedDisk_crashed, d, run, new, @commitMultiBlock_atomic smallDevice
    smallMount smallProbe 1#32 smallHomes smallDisk loggedDisk d smallDisk_clean loggedDisk_crashed
    run⟩

/-- The crash in the checkpoint that keeps only the clearing of the first data record. -/
def tornDisk : Disk Block := apply (smallState 29).durable [(5, Block.zero)]

theorem tornDisk_checked : ([(5, Block.zero)].isSublist (smallState 29).pending &&
    mountGives tornDisk 8 Block.zero) = true := by decide +kernel

/-- A crash between the clearing of a data record and that of the records around it
replays zeros over a target. -/
theorem commitMultiBlock_not_atomic : CleanDisk smallMount smallProbe 1#32 smallDisk ∧
    (∀ block ∈ recordBlocks 4 smallHomes.length, smallDisk block = Block.zero) ∧
    targetsSafe smallMount.superblock smallProbe 8 [] (smallHomes.map (·.1)) = true ∧
    ∃ c d, smallCommit.Crashes (State.settled smallDisk) c ∧
      MountRun smallDevice (fun _ => True) c d ∧ ¬ Atomic smallProbe smallHomes smallDisk d := by
  have checked := Bool.and_eq_true_iff.mp tornDisk_checked
  obtain ⟨d, run, zeroed⟩ := mountGives_spec checked.2 (fun _ => True) trivial
  refine ⟨smallDisk_clean, ?_, by decide +kernel, tornDisk, d,
    ⟨smallState 29, smallState_mem 29, _, isSublist_iff_sublist.mp checked.1, rfl⟩, run, ?_⟩
  · intro block member
    rw [mem_recordBlocks] at member
    exact smallDisk_log member.1 member.2
  · intro atomic
    have oldZero : Block.zero ≠ oldContents := by decide +kernel
    have newZero : Block.zero ≠ newContents := by decide +kernel
    rcases atomic.1 with old | new
    · exact oldZero (zeroed.symm.trans (old (8, newContents) mem_cons_self))
    · exact newZero (zeroed.symm.trans (new (8, newContents) mem_cons_self))

end SlopOS.Filesystem
