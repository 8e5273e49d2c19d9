import SlopOS.Filesystem.Files
import SlopOS.Filesystem.Recoverability

/-!
# Coherence of the block cache

Writers go past the cache and invalidate block numbers by hand.  For each of them the
blocks whose contents it changes are compared with the numbers it invalidates.  The
several-target commit and the in-place write invalidate all they change; the
single-target commit leaves the journal superblock out, and the replay leaves out the
records it clears.
-/

namespace SlopOS.Filesystem

open ByteCodec CrashDisk Ext4 List Function State

/-! ## Invalidation -/

variable {blocks : List Nat}

section Invalidation

variable {cache : BlockCache} {view view' : Disk Block}

theorem BlockCache.WellFormed.invalidateAll (formed : cache.WellFormed) (blocks : List Nat) :
    (cache.invalidateAll blocks).WellFormed := by
  induction blocks generalizing cache with
  | nil => exact formed
  | cons block rest ih => exact ih (formed.invalidate block)

theorem BlockCache.WellFormed.invalidateAll_ne (formed : cache.WellFormed) {entry : CacheEntry}
    (member : entry ∈ (cache.invalidateAll blocks).entries) (valid : entry.valid = true) :
    entry ∈ cache.entries ∧ entry.block ∉ blocks := by
  induction blocks generalizing cache with
  | nil => exact ⟨member, not_mem_nil⟩
  | cons block rest ih =>
    obtain ⟨first, later⟩ := ih (formed.invalidate block) member
    obtain ⟨old, other⟩ := formed.invalidate_ne first valid
    refine ⟨old, fun listed => ?_⟩
    rcases mem_cons.mp listed with same | inRest
    · exact other same
    · exact later inRest

/-- A cache stays consistent when every cached block that changed is invalidated. -/
theorem BlockCache.Consistent.invalidateAll (consistent : cache.Consistent view)
    (same : ∀ block, block ∉ blocks → cache.find block ≠ none → view' block = view block) :
    (cache.invalidateAll blocks).Consistent view' where
  toWellFormed := consistent.toWellFormed.invalidateAll blocks
  coherent := by
    intro entry member valid
    obtain ⟨old, other⟩ := consistent.toWellFormed.invalidateAll_ne member valid
    rw [same entry.block other (find_ne_none old valid)]
    exact consistent.coherent entry old valid

theorem BlockCache.invalidateAll_append (cache : BlockCache) (blocks : List Nat) (block : Nat) :
    (cache.invalidateAll blocks).invalidate block = cache.invalidateAll (blocks ++ [block]) := by
  unfold invalidateAll
  rw [foldl_append]
  rfl

end Invalidation

/-! ## What a commit changes -/

/-- What a plan has read and checked, for any journal and any targets. -/
structure CommitPlan.Staged (plan : CommitPlan) (journal : JournalProbe) (targets : List Nat)
    (disk : Disk Block) : Prop where
  filesystemSector : plan.filesystemSector = 0 * 8
  journalSector : plan.journalSector = journal.physicalBlock * 8
  clean : ∃ sb, Superblock.parse (disk 0).superblock = .ok sb
  flagged : (disk 0).setRecovery true = .ok plan.filesystemBlock
  targets : plan.homes.map (·.1) = targets
  data : plan.data.length = plan.homes.length
  commitBlock : plan.commitBlock = plan.descriptorBlock + (1 + plan.homes.length)
  empty : ∀ block ∈ recordBlocks plan.descriptorBlock plan.homes.length, disk block = Block.zero

variable {α : Type}

section Plans

variable {device : BlockDevice} {mount : Ext4Mount} {journal : JournalProbe}
  {sequence : BitVec 32} {disk : Disk Block}

theorem exists_ok_of_isOk {ε : Type} {result : Except ε α} (ok : result.isOk = true) :
    ∃ value, result = .ok value := by
  cases result with
  | ok value => exact ⟨value, rfl⟩
  | error e => cases ok

theorem staged_planMultiBlock {homes : List (Nat × Block)}
    (size : mount.superblock.blockSize = 4096#32) :
    (planMultiBlock device mount journal sequence homes).Ensures (fun _ => True)
      (fun plan s => s = settled disk ∧ plan.Staged journal (homes.map (·.1)) disk)
      (settled disk) := by
  have safe : (settled disk).Safe fun _ => True := safe_true _
  refine .require fun _ => ?_
  refine .sector size ?_
  refine .sector size ?_
  refine .adding ?_
  refine .adding ?_
  refine .adding ?_
  refine .require fun _ => ?_
  refine .require fun _ => ?_
  refine .reading ?_
  refine .require fun clean => ?_
  refine .reading ?_
  refine .expect fun initial _ => ?_
  refine .require fun _ => ?_
  refine .bind (ensures_requireEmpty size safe ?_)
  intro empty
  refine .expect fun activated flagged => ?_
  refine .bind (ensures_activateHomes safe ?_)
  intro written active
  refine .bind (ensures_encodeHomes safe ?_)
  intro encoded encodes
  refine .expect fun descriptor _ => ?_
  refine .expect fun commit _ => ?_
  have length : written.length = homes.length := active.length_eq
  exact ⟨safe, rfl, {
    filesystemSector := rfl, journalSector := rfl, clean := exists_ok_of_isOk clean, flagged
    targets := active.targets
    data := (length_map _).trans encodes.length_eq
    commitBlock := by rw [length]
    empty := by rw [length]; exact empty }⟩

theorem staged_planSingleBlock {target : Nat} {home : Block}
    (size : mount.superblock.blockSize = 4096#32) :
    (planSingleBlock device mount journal sequence target home).Ensures (fun _ => True)
      (fun plan s => s = settled disk ∧ plan.Staged journal [target] disk) (settled disk) := by
  have safe : (settled disk).Safe fun _ => True := safe_true _
  refine .sector size ?_
  refine .sector size ?_
  refine .adding ?_
  refine .adding ?_
  refine .adding ?_
  refine .adding ?_
  refine .require fun _ => ?_
  refine .reading ?_
  refine .require fun clean => ?_
  refine .reading ?_
  refine .expect fun initial _ => ?_
  refine .require fun _ => ?_
  refine .bind (ensures_requireEmpty size safe ?_)
  intro empty
  refine .require fun _ => ?_
  refine .expect fun ⟨descriptor, data, commit⟩ _ => ?_
  refine .expect fun activated flagged => ?_
  exact ⟨safe, rfl, {
    filesystemSector := rfl, journalSector := rfl, clean := exists_ok_of_isOk clean, flagged
    targets := rfl, data := rfl, commitBlock := rfl, empty }⟩

end Plans

variable {superblock : Superblock}

section Commits

variable {device : BlockDevice} {mount : Ext4Mount} {journal : JournalProbe}
  {sequence : BitVec 32} {disk d : Disk Block} {plan : CommitPlan} {targets : List Nat}
  {block : Nat}

/-- The blocks that are written before the homes are installed. -/
def CommitPlan.LogBlock (plan : CommitPlan) (journal : JournalProbe) (block : Nat) : Prop :=
  block = 0 ∨ block = journal.physicalBlock ∨
    block ∈ recordBlocks plan.descriptorBlock plan.homes.length

namespace CommitPlan.Staged

variable (staged : plan.Staged journal targets disk)
include staged

theorem record {data : Block}
    (member : (block, data) ∈ (plan.descriptorBlock, plan.descriptor) ::
      plan.dataRecords ∨ (block, data) = (plan.commitBlock, plan.commit)) :
    block ∈ recordBlocks plan.descriptorBlock plan.homes.length := by
  rw [mem_recordBlocks]
  rcases member with open_ | last
  · rcases mem_cons.mp open_ with first | later
    · have place : block = plan.descriptorBlock := congrArg Prod.fst first
      omega
    have place : block ∈ plan.dataRecords.map (·.1) := mem_map_of_mem later
    rw [PreparedTransaction.dataRecords_blocks, mem_map, staged.data] at place
    obtain ⟨index, bound, rfl⟩ := place
    rw [mem_range] at bound
    omega
  · have place : block = plan.commitBlock := congrArg Prod.fst last
    rw [place, staged.commitBlock]
    omega

/-- Up to the homes only the flag, the journal superblock and the records are written. -/
theorem ensures_log {messages : CommitMessages} {rest : Block → Io α}
    {post : α → State Block → Prop} (size : superblock.blockSize = 4096#32)
    (next : ∀ active d, (∀ block, ¬ plan.LogBlock journal block → d block = disk block) →
      (rest active).Ensures (fun _ => True) post (settled d)) :
    (activateJournal device journal sequence plan messages >>= fun active =>
      writeRecords device superblock plan >>= fun _ =>
        verifyActive device superblock journal sequence plan active messages >>= fun _ =>
          rest active).Ensures (fun _ => True) post (settled disk) := by
  unfold activateJournal verifyActive
  rw [staged.filesystemSector, staged.journalSector]
  apply Program.Ensures.bind
  apply ensures_update trivial
  refine .expect fun active _ => ?_
  apply ensures_update trivial
  apply And.intro (safe_true _)
  apply Program.Ensures.bind
  apply ensures_burst size (fun _ _ => trivial)
  apply Program.Ensures.bind
  refine .sector size ?_
  apply ensures_write (safe_true _)
  apply ensures_flush (safe_true _) trivial
  apply Program.Ensures.bind
  refine .reading ?_
  refine .require fun _ => ?_
  refine .reading ?_
  refine .expect fun _ _ => ?_
  refine .require fun _ => ?_
  apply ensures_verifyBlocks size (safe_true _)
  apply next
  intro block outside
  unfold LogBlock at outside
  rw [not_or, not_or] at outside
  obtain ⟨nonzero, notJournal, notRecord⟩ := outside
  have notCommit : block ≠ plan.commitBlock := by
    intro same
    exact notRecord (staged.record (.inr (congrArg (·, plan.commit) same)))
  have notOpen : ∀ data, (block, data) ∉ (plan.descriptorBlock, plan.descriptor) ::
      plan.dataRecords := fun data member => notRecord (staged.record (.inl member))
  rw [view_write, update_of_ne notCommit, settled_view,
    apply_of_not_mem notOpen, update_of_ne notJournal, update_of_ne nonzero]

/-- Block 0 gets its old contents back when it is no target. -/
theorem cleared_eq {cleared : Block}
    (clearing : ((superblockHome plan.homes).getD plan.filesystemBlock).setRecovery false =
      .ok cleared) (untargeted : 0 ∉ targets) : cleared = disk 0 := by
  obtain ⟨sb, clean⟩ := staged.clean
  have restored := Block.setRecovery_setRecovery clean staged.flagged
  cases found : superblockHome plan.homes with
  | none =>
    rw [found, Option.getD_none, restored] at clearing
    exact (Except.ok.inj clearing).symm
  | some home =>
    have member : (0, home) ∈ plan.homes := superblockHome_eq_some found
    have target : 0 ∈ plan.homes.map (·.1) := mem_map_of_mem member
    rw [staged.targets] at target
    exact absurd target untargeted

/-- A record block is zero before the commit and after it. -/
theorem zeroed (d : Disk Block)
    (record : block ∈ recordBlocks plan.descriptorBlock plan.homes.length) :
    apply d ((recordBlocks plan.descriptorBlock plan.homes.length).map (·, Block.zero)) block =
      disk block := by
  rw [staged.empty block record]
  exact apply_fill (recordBlocks_nodup _ _) record

end CommitPlan.Staged

/-- Outside the log and the targets the homes change nothing. -/
theorem CommitPlan.Staged.untouched (staged : plan.Staged journal targets disk)
    (frame : ∀ block, ¬ plan.LogBlock journal block → d block = disk block)
    (untargeted : block ∉ targets) (outside : ¬ plan.LogBlock journal block) :
    apply d plan.homes block = disk block := by
  rw [apply_of_not_mem, frame block outside]
  intro data member
  have target : block ∈ plan.homes.map (·.1) := mem_map_of_mem member
  rw [staged.targets] at target
  exact untargeted target

/-- A commit of several targets changes only what it invalidates. -/
theorem ensures_commitMultiBlock_frame {homes : List (Nat × Block)}
    (size : mount.superblock.blockSize = 4096#32) :
    (mount.commitMultiBlockJournalTransaction device journal sequence homes).Ensures (fun _ => True)
      (fun r s => ∃ d superblock, s = settled d ∧
        (∀ block, block ∉ homes.map (·.1) ++ [journal.physicalBlock] → d block = disk block) ∧
        r.2 = { mount with
          superblock
          cache := mount.cache.invalidateAll (homes.map (·.1) ++ [journal.physicalBlock]) })
      (settled disk) := by
  refine .bind ((staged_planMultiBlock size).mono ?_)
  rintro plan s ⟨rfl, staged⟩
  apply staged.ensures_log size
  intro active d frame
  unfold finishMultiBlock verifyFinalJournal
  rw [staged.filesystemSector, staged.journalSector, staged.targets]
  refine .bind (PreparedTransaction.ensures_retire_exact size ?_)
  intro checkpointed cleared _ _ clearing
  refine .reading ?_
  refine .expect fun superblock _ => ?_
  refine .require fun _ => ?_
  apply Program.Ensures.bind
  refine .reading ?_
  refine .expect fun _ _ => ?_
  refine Program.ensures_require ?_
  intro _
  refine ⟨safe_true _, _, superblock, rfl, fun block listed => ?_, ?_⟩
  · rw [mem_append, mem_singleton, not_or] at listed
    obtain ⟨untargeted, notJournal⟩ := listed
    by_cases zero : block = 0
    · subst zero
      rw [update_self, staged.cleared_eq clearing untargeted]
    rw [update_of_ne zero, update_of_ne notJournal]
    by_cases record : block ∈ recordBlocks plan.descriptorBlock plan.homes.length
    · exact staged.zeroed _ record
    rw [apply_fill_other record]
    exact staged.untouched frame untargeted (by
      rintro (same | same | inside)
      · exact zero same
      · exact notJournal same
      · exact record inside)
  · rw [BlockCache.invalidateAll_append]

/-- A commit of one target also changes the journal superblock, which it does not
invalidate. -/
theorem ensures_commitSingleBlock_frame {target : Nat} {home : Block}
    (size : mount.superblock.blockSize = 4096#32) :
    (mount.commitSingleBlockJournalTransaction device journal sequence target home).Ensures
      (fun _ => True) (fun r s => ∃ d, s = settled d ∧
        (∀ block, block ≠ target → block ≠ journal.physicalBlock → d block = disk block) ∧
        r.2 = { mount with cache := mount.cache.invalidateAll [target] }) (settled disk) := by
  refine .bind ((staged_planSingleBlock size).mono ?_)
  rintro plan s ⟨rfl, staged⟩
  apply staged.ensures_log size
  intro active d frame
  have single : plan.homes.length = 1 := by
    rw [← length_map, staged.targets]
    rfl
  refine .bind (ensures_verifyIdentity (safe_true _) ?_)
  unfold finishSingleBlock verifyFinalJournal installHomes
  rw [staged.filesystemSector, staged.journalSector, staged.targets, ← single]
  refine .bind (ensures_burst size (fun _ _ => trivial) ?_)
  apply ensures_verifyBlocks size (safe_true _)
  refine .bind (PreparedTransaction.ensures_nextSequence (safe_true _) ?_)
  intro _
  refine .expect fun checkpointed _ => ?_
  apply ensures_update trivial
  refine .expect fun cleared clearing => ?_
  apply ensures_update trivial
  apply ensures_burst size (fun _ _ => trivial)
  refine .reading ?_
  refine .require fun _ => ?_
  apply Program.Ensures.bind
  refine .reading ?_
  refine .expect fun _ _ => ?_
  refine Program.ensures_require ?_
  intro _
  refine ⟨safe_true _, _, rfl, fun block notTarget notJournal => ?_, rfl⟩
  have untargeted : block ∉ [target] := fun listed => notTarget (mem_singleton.mp listed)
  by_cases record : block ∈ recordBlocks plan.descriptorBlock plan.homes.length
  · exact staged.zeroed _ record
  rw [apply_fill_other record]
  by_cases zero : block = 0
  · subst zero
    obtain ⟨sb, clean⟩ := staged.clean
    have restored := Block.setRecovery_setRecovery clean staged.flagged
    rw [clearing] at restored
    exact Except.ok.inj restored
  rw [update_of_ne zero, update_of_ne notJournal]
  exact staged.untouched frame untargeted (by
    rintro (same | same | inside)
    · exact zero same
    · exact notJournal same
    · exact record inside)

end Commits

/-! ## What replay changes -/

variable {s : State Block}

section Replays

variable {device : BlockDevice} {mount : Ext4Mount} {journal : JournalProbe} {disk : Disk Block}

theorem ensures_readBlocks_length (size : superblock.blockSize = 4096#32) :
    (readBlocks device superblock blocks).Ensures (fun _ => True)
      (fun data s' => s' = s ∧ data.length = blocks.length) s := by
  apply ensures_readBlocks size (safe_true s)
  exact ⟨rfl, length_map _⟩

theorem ensures_decodeHomes_length {journalEnd : Nat} {descriptor : JournalDescriptorBlock}
    {index : Nat} {seen : List Nat} {data : List Block} :
    (decodeHomes superblock journal journalEnd descriptor index seen data).Ensures (fun _ => True)
      (fun replayed s' => s' = s ∧ replayed.length = data.length) s := by
  induction data generalizing index seen with
  | nil => exact ⟨safe_true s, rfl, rfl⟩
  | cons block rest ih =>
    refine .expect fun tag _ => ?_
    refine .require fun _ => ?_
    refine .expect fun home _ => ?_
    refine .bind (ih.mono ?_)
    rintro others s' ⟨rfl, length⟩
    exact ⟨safe_true s', rfl, congrArg (· + 1) length⟩

/-- The records of the transaction that is found lie in the journal, after its superblock. -/
theorem ensures_scanTransaction_frame (size : mount.superblock.blockSize = 4096#32)
    (active : journal.superblock.start ≠ 0#32) :
    (scanTransaction device mount journal).Ensures (fun _ => True)
      (fun plan s => s = settled disk ∧ plan.filesystemSector = 0 * 8 ∧
        plan.journalSector = journal.physicalBlock * 8 ∧
        ∀ block ∈ recordBlocks plan.descriptorBlock plan.homes.length,
          journal.physicalBlock < block ∧
            block < journal.physicalBlock + journal.superblock.maxLength.toNat) (settled disk) := by
  have safe : (settled disk).Safe fun _ => True := safe_true _
  have positive : 0 < journal.superblock.start.toNat :=
    pos_of_ne_zero fun zero => active (BitVec.eq_of_toNat_eq zero)
  refine .adding ?_
  refine .adding ?_
  refine .sector size ?_
  refine .sector size ?_
  refine .reading ?_
  refine .require fun _ => ?_
  refine .reading ?_
  refine .require fun _ => ?_
  refine .readingBlock size ?_
  refine .expect fun descriptor _ => ?_
  refine .require fun _ => ?_
  refine .adding ?_
  refine .require fun inside => ?_
  refine .bind ((ensures_readBlocks_length size).mono ?_)
  rintro data s ⟨rfl, read⟩
  refine .readingBlock size ?_
  refine .expect fun commit _ => ?_
  refine .require fun _ => ?_
  refine .bind (ensures_decodeHomes_length.mono ?_)
  rintro replayed s ⟨rfl, decoded⟩
  refine .require fun _ => ?_
  refine ⟨safe, rfl, rfl, rfl, fun block member => ?_⟩
  have inside := of_decide_eq_true inside
  rw [mem_recordBlocks, ReplayPlan.homes, length_map, decoded, read, length_map,
    length_range] at member
  dsimp only at member
  omega

/-- A block the replay may write without invalidating it. -/
def JournalProbe.Clears (journal : JournalProbe) (block : Nat) : Prop :=
  block = 0 ∨ (journal.physicalBlock < block ∧
    block < journal.physicalBlock + journal.superblock.maxLength.toNat)

/-- Replay changes what it invalidates, block 0 and the records. -/
theorem ensures_replay_frame (size : mount.superblock.blockSize = 4096#32) :
    (mount.replayJournalTransaction device journal).Ensures (fun _ => True)
      (fun r s => ∃ d superblock invalidated, s = settled d ∧
        (∀ block, block ∉ invalidated → ¬ journal.Clears block → d block = disk block) ∧
        r.2 = { mount with superblock, cache := mount.cache.invalidateAll invalidated })
      (settled disk) := by
  unfold Ext4Mount.replayJournalTransaction
  split
  · refine .sector size ?_
    refine .reading ?_
    refine .expect fun cleared _ => ?_
    apply ensures_update trivial
    refine .reading ?_
    refine .expect fun superblock _ => ?_
    refine .require fun _ => ?_
    refine ⟨safe_true _, _, superblock, [], rfl, fun block _ outside => ?_, rfl⟩
    exact update_of_ne (fun zero => outside (.inl zero)) _ _
  next active =>
  refine .bind ((ensures_scanTransaction_frame size active).mono ?_)
  rintro plan s ⟨rfl, filesystemSector, journalSector, inside⟩
  rw [filesystemSector, journalSector]
  refine .bind (PreparedTransaction.ensures_retire_exact size ?_)
  intro checkpointed cleared _ _ _
  refine .reading ?_
  refine .expect fun _ _ => ?_
  refine .require fun _ => ?_
  refine .reading ?_
  refine .expect fun superblock _ => ?_
  refine .require fun _ => ?_
  refine ⟨safe_true _, _, superblock, plan.homes.map (·.1) ++ [journal.physicalBlock], rfl,
    fun block listed outside => ?_, by rw [BlockCache.invalidateAll_append]⟩
  rw [mem_append, mem_singleton, not_or] at listed
  have notRecord : block ∉ recordBlocks plan.descriptorBlock plan.homes.length :=
    fun member => outside (.inr (inside block member))
  have notHome : ∀ data, (block, data) ∉ plan.homes := fun data member =>
    listed.1 (mem_map_of_mem member)
  rw [update_of_ne fun zero => outside (.inl zero), update_of_ne listed.2,
    apply_fill_other notRecord, apply_of_not_mem notHome]

end Replays

variable {device : BlockDevice} {disk : Disk Block} {mount : Ext4Mount} {p : Io (α × Ext4Mount)}

theorem ensures_overwrite_frame {file : Ext4File} {logicalBlock : Nat} {data : Block}
    (size : mount.superblock.blockSize = 4096#32) (consistent : mount.cache.Consistent disk) :
    (mount.overwriteExistingFileBlock device file logicalBlock data).Ensures (fun _ => True)
      (fun r s => ∃ d : Disk Block, ∃ cache : BlockCache, s = settled d ∧
        cache.Consistent d ∧ r.2 = { mount with cache }) (settled disk) := by
  refine .require fun _ => ?_
  have found : mount.Reads (mount.inodePhysicalBlock device file.inode logicalBlock) :=
    Ext4Mount.reads_inodePhysicalBlock file.inode logicalBlock
  refine .bind ((found (settled disk) size consistent).mono ?_)
  rintro ⟨physicalBlock, mount'⟩ s ⟨rfl, cache, kept, rfl⟩
  refine .bind (Program.ensures_expectSome ?_)
  intro block _
  refine .sector size ?_
  apply ensures_update trivial
  refine ⟨safe_true _, _, _, rfl, ?_, rfl⟩
  have invalidated : (cache.invalidateAll [block]).Consistent (Function.update disk block data) := by
    apply BlockCache.Consistent.invalidateAll kept
    intro other listed _
    exact update_of_ne (fun same => listed (mem_singleton.mpr same)) _ _
  exact invalidated

/-! ## Runs of a mount -/

/-- The operations of a mount. -/
inductive MountOp where
  | readBlock (block : Nat)
  | readInode (inodeNumber : BitVec 32)
  | tryOpenFile (components : List Bytes)
  | readFileBlock (file : Ext4File) (logicalBlock : Nat)
  | prefetchPair (first second : Nat)
  | prefetchFilePair (file : Ext4File) (firstLogicalBlock secondLogicalBlock : Nat)
  | overwriteExistingFileBlock (file : Ext4File) (logicalBlock : Nat) (data : Block)
  | commitSingleBlock (journal : JournalProbe) (sequence : BitVec 32) (target : Nat) (home : Block)
  | commitMultiBlock (journal : JournalProbe) (sequence : BitVec 32) (homes : List (Nat × Block))
  | probeJournal
  | replay (journal : JournalProbe)

/-- The mount after the operation, whose own result is dropped. -/
def MountOp.program (device : BlockDevice) (mount : Ext4Mount) : MountOp → Io Ext4Mount
  | .readBlock block => do
      let (_, cache) ← mount.cache.readBlock device mount.superblock block
      return { mount with cache }
  | .readInode inodeNumber => (·.2) <$> mount.readInode device inodeNumber
  | .tryOpenFile components => (·.2) <$> mount.tryOpenFile device components
  | .readFileBlock file logicalBlock => (·.2) <$> mount.readFileBlock device file logicalBlock
  | .prefetchPair first second => do
      let cache ← mount.cache.prefetchPair device mount.superblock first second
      return { mount with cache }
  | .prefetchFilePair file first second => mount.prefetchFilePair device file first second
  | .overwriteExistingFileBlock file logicalBlock data =>
      (·.2) <$> mount.overwriteExistingFileBlock device file logicalBlock data
  | .commitSingleBlock journal sequence target home =>
      (·.2) <$> mount.commitSingleBlockJournalTransaction device journal sequence target home
  | .commitMultiBlock journal sequence homes =>
      (·.2) <$> mount.commitMultiBlockJournalTransaction device journal sequence homes
  | .probeJournal => (·.2) <$> mount.probeJournal device
  | .replay journal => do
      let (recovery, mount) ← mount.replayJournalTransaction device journal
      return { mount with recovery := some recovery }

/-- The states of a mount after completed operations that `allowed` admits, from the opening
of a disk on.  No operation installs a superblock with another block size. -/
inductive Reached (device : BlockDevice) (allowed : Ext4Mount → MountOp → Prop)
    (disk : Disk Block) : Ext4Mount → State Block → Prop
  | opened {mount : Ext4Mount} {required : Bool} {s : State Block}
      (returned : (openMount device).run (State.settled disk) = .ok ((mount, required), s)) :
      Reached device allowed disk mount s
  | step {mount mount' : Ext4Mount} {s s' : State Block}
      (before : Reached device allowed disk mount s) (op : MountOp) (admitted : allowed mount op)
      (returned : (op.program device mount).run s = .ok (mount', s'))
      (sized : mount'.superblock.blockSize = mount.superblock.blockSize) :
      Reached device allowed disk mount' s'

/-- Blocks that an operation writes past the cache are not cached: the journal superblock
at a single-target commit to another block, and at a replay the superblock and the
log. -/
def CacheSafe (mount : Ext4Mount) : MountOp → Prop
  | .commitSingleBlock journal _ target _ =>
      target = journal.physicalBlock ∨ mount.cache.find journal.physicalBlock = none
  | .replay journal => ∀ block, journal.Clears block → mount.cache.find block = none
  | _ => True

/-- Everything is durable and the cache agrees with the disk. -/
structure Coherent (mount : Ext4Mount) (s : State Block) : Prop where
  settled : s = State.settled s.durable
  consistent : mount.cache.Consistent s.durable

section Steps

theorem ensures_snd {post : Ext4Mount → State Block → Prop}
    (ensures : p.Ensures (fun _ => True) (fun r s' => post r.2 s') s) :
    ((·.2) <$> p).Ensures (fun _ => True) post s :=
  Program.Ensures.bind (ensures.mono fun _ s' held => ⟨safe_true s', held⟩)

theorem Ext4Mount.Reads.coherent (reads : mount.Reads p)
    (size : mount.superblock.blockSize = 4096#32) (consistent : mount.cache.Consistent disk) :
    ((·.2) <$> p).Ensures (fun _ => True) Coherent (settled disk) := by
  apply ensures_snd
  apply (reads (settled disk) size consistent).mono
  rintro ⟨value, mount'⟩ s ⟨rfl, cache, kept, rfl⟩
  exact ⟨rfl, kept⟩

section

variable (size : mount.superblock.blockSize = 4096#32) (consistent : mount.cache.Consistent disk)
include size consistent

theorem ensures_prefetchFilePair {file : Ext4File} {first second : Nat} :
    (mount.prefetchFilePair device file first second).Ensures (fun _ => True) Coherent
      (settled disk) := by
  have found (mount : Ext4Mount) (logicalBlock : Nat) :
      mount.Reads (mount.inodePhysicalBlock device file.inode logicalBlock) :=
    Ext4Mount.reads_inodePhysicalBlock file.inode logicalBlock
  refine .bind ((found mount first (settled disk) size consistent).mono ?_)
  rintro ⟨physicalBlock, mount'⟩ s ⟨rfl, cache, kept, rfl⟩
  refine .bind (Program.ensures_expectSome ?_)
  intro firstBlock _
  apply Program.Ensures.bind ((found { mount with cache } second
    (settled disk) size kept).mono _)
  rintro ⟨physicalBlock, mount'⟩ s ⟨rfl, cache', kept', rfl⟩
  refine .bind (Program.ensures_expectSome ?_)
  intro secondBlock _
  refine .bind (ensures_prefetchPair size (safe_true _) kept' ?_)
  intro cache'' kept''
  exact ⟨safe_true _, rfl, kept''⟩

/-- Every operation whose writes are invalidated or not cached keeps the cache coherent. -/
theorem MountOp.ensures_coherent {op : MountOp} (admitted : CacheSafe mount op) :
    (op.program device mount).Ensures (fun _ => True) Coherent (settled disk) := by
  cases op with
  | readBlock block =>
    refine .bind (ensures_cacheRead size (safe_true _) consistent ?_)
    intro cache kept
    exact ⟨safe_true _, rfl, kept⟩
  | readInode inodeNumber => exact (Ext4Mount.reads_readInode inodeNumber).coherent size consistent
  | tryOpenFile components => exact (Ext4Mount.reads_tryOpenFile components).coherent size consistent
  | readFileBlock file logicalBlock =>
    exact (Ext4Mount.reads_readFileBlock file logicalBlock).coherent size consistent
  | prefetchPair first second =>
    refine .bind (ensures_prefetchPair size (safe_true _) consistent ?_)
    intro cache kept
    exact ⟨safe_true _, rfl, kept⟩
  | prefetchFilePair file first second => exact ensures_prefetchFilePair size consistent
  | overwriteExistingFileBlock file logicalBlock data =>
    apply ensures_snd
    apply (ensures_overwrite_frame size consistent).mono
    rintro ⟨block, mount'⟩ s ⟨d, cache, rfl, kept, rfl⟩
    exact ⟨rfl, kept⟩
  | commitSingleBlock journal sequence target home =>
    apply ensures_snd
    apply (ensures_commitSingleBlock_frame size).mono
    rintro ⟨next, mount'⟩ s ⟨d, rfl, frame, rfl⟩
    refine ⟨rfl, consistent.invalidateAll fun block listed cached => frame block ?_ ?_⟩
    · exact fun same => listed (mem_singleton.mpr same)
    rintro rfl
    rcases admitted with same | uncached
    · exact listed (mem_singleton.mpr same.symm)
    · exact cached uncached
  | commitMultiBlock journal sequence homes =>
    apply ensures_snd
    apply (ensures_commitMultiBlock_frame size).mono
    rintro ⟨next, mount'⟩ s ⟨d, superblock, rfl, frame, rfl⟩
    exact ⟨rfl, consistent.invalidateAll fun block listed _ => frame block listed⟩
  | probeJournal => exact Ext4Mount.reads_probeJournal.coherent size consistent
  | replay journal =>
    refine .bind ((ensures_replay_frame size).mono ?_)
    rintro ⟨recovery, mount'⟩ s ⟨d, superblock, invalidated, rfl, frame, rfl⟩
    refine ⟨safe_true _, rfl, consistent.invalidateAll fun block listed cached =>
      frame block listed fun clears => ?_⟩
    exact cached (admitted block clears)

end

/-- The invariant of every run. -/
theorem Reached.coherent (reached : Reached device CacheSafe disk mount s) :
    mount.superblock.blockSize = 4096#32 ∧ Coherent mount s := by
  induction reached with
  | opened returned =>
    have ensures : (openMount device).Ensures (fun _ => True)
        (fun r s => r.1.superblock.blockSize = 4096#32 ∧ Coherent r.1 s) (settled disk) := by
      apply ensures_openMount (safe_true _)
      intro mount required size consistent _ _
      exact ⟨size, rfl, consistent⟩
    exact ensures.returns returned
  | step before op admitted returned sized ih =>
    obtain ⟨size, settled, consistent⟩ := ih
    rw [settled] at returned
    exact ⟨sized.trans size, (op.ensures_coherent size consistent admitted).returns returned⟩

end Steps

/-- In every run in which no operation writes past the cache a block that is cached, each
valid entry holds what the disk holds, no block number has two valid entries, and a read
through the cache returns the contents of the disk. -/
theorem cache_coherent {device : BlockDevice} {disk : Disk Block} {mount : Ext4Mount}
    {s : State Block} (reached : Reached device CacheSafe disk mount s) :
    s = State.settled s.durable ∧
    (∀ entry ∈ mount.cache.entries, entry.valid = true → entry.data = s.durable entry.block) ∧
    (∀ (i j : Nat) (a b : CacheEntry), mount.cache.entries[i]? = some a →
      mount.cache.entries[j]? = some b → a.valid = true → b.valid = true → a.block = b.block →
      i = j) ∧ ∀ block data cache s',
      (mount.cache.readBlock device mount.superblock block).run s = .ok ((data, cache), s') →
      data = s.durable block ∧ s' = s := by
  obtain ⟨size, settled, consistent⟩ := reached.coherent
  refine ⟨settled, consistent.coherent, consistent.distinct, ?_⟩
  intro block data cache s' returned
  have view : s.view = s.durable := by rw [settled]; rfl
  have read : (mount.cache.readBlock device mount.superblock block).Ensures (fun _ => True)
      (fun r s' => r.1 = s.durable block ∧ s' = s) s := by
    rw [← view] at consistent
    apply ensures_cacheRead size (safe_true s) consistent
    intro cache' _
    exact ⟨by rw [view], rfl⟩
  exact read.returns returned

/-! ## Runs on the small filesystem -/

/-- The operations in order, as long as each is accepted by `check` and completes. -/
def runMount (device : BlockDevice) (check : Ext4Mount → MountOp → Bool) :
    List MountOp → Ext4Mount → State Block → Option (Ext4Mount × State Block)
  | [], mount, s => some (mount, s)
  | op :: rest, mount, s =>
      match (op.program device mount).run s with
      | .ok (mount', s') =>
          if check mount op && mount'.superblock.blockSize == mount.superblock.blockSize then
            runMount device check rest mount' s'
          else none
      | .error _ => none

/-- The operations on a disk that was just opened. -/
def runDisk (device : BlockDevice) (check : Ext4Mount → MountOp → Bool) (ops : List MountOp)
    (disk : Disk Block) : Option (Ext4Mount × State Block) :=
  match (openMount device).run (State.settled disk) with
  | .ok ((mount, _), s) => runMount device check ops mount s
  | .error _ => none

section

variable {allowed : Ext4Mount → MountOp → Prop} {check : Ext4Mount → MountOp → Bool}
  (sound : ∀ mount op, check mount op = true → allowed mount op) {ops : List MountOp}
include sound

theorem Reached.runMount {mount' : Ext4Mount} {s' : State Block}
    (before : Reached device allowed disk mount s)
    (ran : Filesystem.runMount device check ops mount s = some (mount', s')) :
    Reached device allowed disk mount' s' := by
  induction ops generalizing mount s with
  | nil =>
    cases ran
    exact before
  | cons op rest ih =>
    unfold Filesystem.runMount at ran
    split at ran
    · next returned =>
      split at ran
      · next checked =>
        rw [Bool.and_eq_true, beq_iff_eq] at checked
        exact ih (before.step op (sound _ _ checked.1) returned checked.2) ran
      · cases ran
    · cases ran

theorem reached_of_runDisk (ran : runDisk device check ops disk = some (mount, s)) :
    Reached device allowed disk mount s := by
  unfold runDisk at ran
  split at ran
  · next returned => exact (Reached.opened returned).runMount sound ran
  · cases ran

end

/-- The journal superblock is not cached at a single-target commit; no replay. -/
def checkUncached (mount : Ext4Mount) : MountOp → Bool
  | .commitSingleBlock journal _ _ _ => mount.cache.find journal.physicalBlock = none
  | .replay _ => false
  | _ => true

theorem checkUncached_sound (mount : Ext4Mount) (op : MountOp)
    (checked : checkUncached mount op = true) : CacheSafe mount op := by
  cases op with
  | commitSingleBlock journal sequence target home => exact .inr (of_decide_eq_true checked)
  | replay journal => cases checked
  | _ => exact trivial

/-- Block 8 is cached and then replaced by a single-target commit. -/
def replacedOps : List MountOp := [.readBlock 8, .commitSingleBlock smallProbe 1#32 8 newContents]

/-- The journal superblock is cached by the probe before the commit. -/
def probedOps : List MountOp := [.probeJournal, .commitSingleBlock smallProbe 1#32 8 newContents]

theorem replacedOps_run : ((runDisk smallDevice checkUncached replacedOps smallDisk).any
    fun r => (r.1.cache.find 8).isNone && (r.1.cache.find 1).isSome) = true := by
  decide +kernel

theorem cache_coherent_replacedOps : ∃ mount s,
    Reached smallDevice CacheSafe smallDisk mount s ∧ mount.cache.find 8 = none ∧
    ∃ entry, mount.cache.find 1 = some entry ∧ entry.data = s.durable 1 := by
  obtain ⟨⟨mount, s⟩, ran, held⟩ := (Option.any_eq_true _ _).mp replacedOps_run
  rw [Bool.and_eq_true, Option.isNone_iff_eq_none, Option.isSome_iff_exists] at held
  obtain ⟨uncached, entry, found⟩ := held
  have reached := reached_of_runDisk checkUncached_sound ran
  obtain ⟨member, valid, block⟩ := BlockCache.find_some found
  refine ⟨mount, s, reached, uncached, entry, found, ?_⟩
  rw [← block]
  exact (cache_coherent reached).2.1 entry member valid

theorem probedOps_run : ((runDisk smallDevice (fun _ _ => true) probedOps smallDisk).any
    fun r => (r.1.cache.find 3).any fun entry => entry.data ≠ r.2.durable 3) = true := by
  decide +kernel

/-- A probe caches the journal superblock, and a single-target commit then leaves the old one
in the cache. -/
theorem cache_stale_after_probe : ∃ mount s entry,
    Reached smallDevice (fun _ _ => True) smallDisk mount s ∧ entry ∈ mount.cache.entries ∧
    entry.valid = true ∧ entry.block = 3 ∧ entry.data ≠ s.durable 3 := by
  obtain ⟨⟨mount, s⟩, ran, held⟩ := (Option.any_eq_true _ _).mp probedOps_run
  obtain ⟨entry, found, stale⟩ := (Option.any_eq_true _ _).mp held
  obtain ⟨member, valid, block⟩ := BlockCache.find_some found
  exact ⟨mount, s, entry, reached_of_runDisk (fun _ _ _ => trivial) ran, member, valid, block,
    of_decide_eq_true stale⟩

end SlopOS.Filesystem
