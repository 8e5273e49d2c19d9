import Mathlib.Data.List.Nodup
import SlopOS.Filesystem.Prepared

/-!
# The disks a crash can leave

The four classes of disks that occur while a prepared transaction is committed or
replayed, and the stages of the commit against them: before the journal is active, with
an active journal whose records are missing, with both records of the transaction
in place, and after the checkpoint.
-/

namespace SlopOS.Filesystem

open ByteCodec CrashDisk Ext4 List Function State

variable {block : Nat}

theorem mem_recordBlocks {descriptorBlock count : Nat} :
    block ∈ recordBlocks descriptorBlock count ↔
      descriptorBlock ≤ block ∧ block < descriptorBlock + (count + 2) := by
  unfold recordBlocks
  rw [mem_map]
  constructor
  · rintro ⟨offset, bound, rfl⟩
    rw [mem_range] at bound
    omega
  · intro bounds
    exact ⟨block - descriptorBlock, mem_range.mpr (by omega), by omega⟩

theorem recordBlocks_nodup (descriptorBlock count : Nat) :
    (recordBlocks descriptorBlock count).Nodup :=
  Nodup.map (fun _ _ same => Nat.add_left_cancel same) nodup_range

/-- The log starts after the journal superblock. -/
theorem firstLogBlock_pos_of_parse {bytes : Bytes} {j : JournalSuperblock}
    (parsed : JournalSuperblock.parse bytes = .ok j) : 0 < j.firstLogBlock.toNat := by
  obtain ⟨-, accepted, fields⟩ := JournalSuperblock.parse_ok_iff.mp parsed
  unfold JournalSuperblock.reject at accepted
  simp only [ite_some_eq_none_iff, not_or] at accepted
  have nonzero := accepted.2.2.1.2.2.1
  have same : j.firstLogBlock = be32 bytes 20 := congrArg JournalSuperblock.firstLogBlock fields
  rw [same, pos_iff_ne_zero]
  exact fun zero => nonzero (BitVec.eq_of_toNat_eq zero)

theorem superblockHome_eq_some {homes : List (Nat × Block)} {home : Block}
    (found : superblockHome homes = some home) : (0, home) ∈ homes := by
  unfold superblockHome at found
  rw [Option.map_eq_some_iff] at found
  obtain ⟨⟨target, contents⟩, found, rfl⟩ := found
  have zero := find?_some found
  have zero : target = 0 := beq_iff_eq.mp zero
  subst zero
  exact mem_of_find?_eq_some found

variable {home : Nat × Block}

theorem superblockHome_eq_none {homes : List (Nat × Block)} (absent : superblockHome homes = none)
    (member : home ∈ homes) : home.1 ≠ 0 := by
  unfold superblockHome at absent
  rw [Option.map_eq_none_iff, find?_eq_none] at absent
  intro zero
  exact absent home member (by rw [zero]; rfl)

namespace PreparedTransaction

variable (tx : PreparedTransaction) {record write : Nat × Block} {kept : List (Nat × Block)}

/-! ## Places -/

def targets : List Nat := tx.plan.homes.map (·.1)

/-- The block belongs to the journal. -/
def InJournal (block : Nat) : Prop :=
  tx.journal.physicalBlock ≤ block ∧
    block < tx.journal.physicalBlock + tx.journal.superblock.maxLength.toNat

/-- Block 0 once the homes are installed. -/
def flaggedHome : Block := (superblockHome tx.plan.homes).getD tx.plan.filesystemBlock

/-! ## Classes of disks -/

/-- Nothing but the recovery flag has changed. -/
def Old (c : Disk Block) : Prop :=
  (c 0 = tx.disk 0 ∨ c 0 = tx.plan.filesystemBlock) ∧ ∀ block, block ≠ 0 → c block = tx.disk block

def Flagged (c : Disk Block) : Prop := c 0 = tx.plan.filesystemBlock ∨ c 0 = tx.flaggedHome

/-- The journal is active and one of its two delimiting records is missing. -/
structure Stalled (c : Disk Block) : Prop where
  journal : c tx.journal.physicalBlock = tx.active
  flagged : tx.Flagged c
  missing : c tx.plan.descriptorBlock = Block.zero ∨
    (c tx.plan.descriptorBlock = tx.plan.descriptor ∧ c tx.plan.commitBlock = Block.zero)

/-- Blocks that are neither targets nor in the journal keep their contents. -/
def Frame (c : Disk Block) : Prop :=
  ∀ block, block ≠ 0 → block ∉ tx.targets → ¬ tx.InJournal block → c block = tx.disk block

/-- The journal is active and both delimiting records are there; data records may have
been cleared, and each home is old or new. -/
structure Logged (c : Disk Block) : Prop where
  journal : c tx.journal.physicalBlock = tx.active
  flagged : tx.Flagged c
  descriptor : c tx.plan.descriptorBlock = tx.plan.descriptor
  commit : c tx.plan.commitBlock = tx.plan.commit
  data : ∀ record ∈ tx.plan.dataRecords, c record.1 = record.2 ∨ c record.1 = Block.zero
  homes : ∀ home ∈ tx.plan.homes, home.1 ≠ 0 → c home.1 = tx.disk home.1 ∨ c home.1 = home.2
  frame : tx.Frame c

/-- The journal is empty again and every home is new. -/
structure Done (c : Disk Block) : Prop where
  journal : tx.active.setJournalState (tx.sequence + 1#32) 0#32 = .ok (c tx.journal.physicalBlock)
  superblock : c 0 = tx.flaggedHome ∨ tx.flaggedHome.setRecovery false = .ok (c 0)
  homes : ∀ home ∈ tx.plan.homes, home.1 ≠ 0 → c home.1 = home.2
  frame : tx.Frame c

/-- What a crash of the commit or of a mount may leave. -/
def Reachable (c : Disk Block) : Prop := tx.Old c ∨ tx.Stalled c ∨ tx.Logged c ∨ tx.Done c

section Classes

variable {tx} {c : Disk Block}

theorem Old.reachable (old : tx.Old c) : tx.Reachable c := .inl old

theorem Stalled.reachable (stalled : tx.Stalled c) : tx.Reachable c := .inr (.inl stalled)

theorem Logged.reachable (logged : tx.Logged c) : tx.Reachable c :=
  .inr (.inr (.inl logged))

theorem Done.reachable (done : tx.Done c) : tx.Reachable c := .inr (.inr (.inr done))

end Classes

/-! ## Geometry -/

theorem firstLogBlock_pos : 0 < tx.journal.superblock.firstLogBlock.toNat := by
  have first := firstLogBlock_pos_of_parse tx.geometry
  exact first

theorem descriptorBlock_gt : tx.journal.physicalBlock < tx.plan.descriptorBlock := by
  have first := tx.firstLogBlock_pos
  rw [tx.descriptorBlock]
  omega

theorem inJournal_journal : tx.InJournal tx.journal.physicalBlock := by
  have inside := tx.inside
  have gt := tx.descriptorBlock_gt
  have commit := tx.commitBlock
  unfold InJournal
  omega

theorem inJournal_of_record
    (record : block ∈ recordBlocks tx.plan.descriptorBlock tx.plan.homes.length) :
    tx.InJournal block := by
  have inside := tx.inside
  have gt := tx.descriptorBlock_gt
  have commit := tx.commitBlock
  rw [mem_recordBlocks] at record
  unfold InJournal
  omega

theorem not_inJournal_zero : ¬ tx.InJournal 0 := by
  have positive := tx.positive
  unfold InJournal
  omega

theorem not_inJournal_of_home (member : home ∈ tx.plan.homes) :
    ¬ tx.InJournal home.1 := tx.outside home member

theorem ne_of_record (record : block ∈ recordBlocks tx.plan.descriptorBlock tx.plan.homes.length) :
    block ≠ tx.journal.physicalBlock := by
  have gt := tx.descriptorBlock_gt
  rw [mem_recordBlocks] at record
  omega

theorem descriptor_mem_records :
    tx.plan.descriptorBlock ∈ recordBlocks tx.plan.descriptorBlock tx.plan.homes.length :=
  mem_recordBlocks.mpr (by omega)

theorem commit_mem_records :
    tx.plan.commitBlock ∈ recordBlocks tx.plan.descriptorBlock tx.plan.homes.length := by
  rw [tx.commitBlock]
  exact mem_recordBlocks.mpr (by omega)

theorem data_length : tx.plan.data.length = tx.plan.homes.length := by
  rw [tx.data, length_map]
  exact tx.encodes.length_eq

theorem mem_dataRecords :
    record ∈ tx.plan.dataRecords ↔ ∃ index, tx.plan.data[index]? = some record.2 ∧
      record.1 = tx.plan.descriptorBlock + 1 + index := by
  unfold CommitPlan.dataRecords
  rw [mem_iff_getElem?]
  constructor
  · rintro ⟨index, found⟩
    rw [getElem?_mapIdx, Option.map_eq_some_iff] at found
    obtain ⟨data, found, rfl⟩ := found
    exact ⟨index, found, rfl⟩
  · rintro ⟨index, found, place⟩
    refine ⟨index, ?_⟩
    rw [getElem?_mapIdx, found, Option.map_some, ← place]

theorem dataRecord_bounds (member : record ∈ tx.plan.dataRecords) :
    tx.plan.descriptorBlock < record.1 ∧ record.1 < tx.plan.commitBlock := by
  obtain ⟨index, found, place⟩ := tx.mem_dataRecords.mp member
  have bound := (List.getElem?_eq_some_iff.mp found).1
  rw [tx.data_length] at bound
  have commit := tx.commitBlock
  omega

theorem dataRecord_mem_records (member : record ∈ tx.plan.dataRecords) :
    record.1 ∈ recordBlocks tx.plan.descriptorBlock tx.plan.homes.length := by
  have bounds := tx.dataRecord_bounds member
  have commit := tx.commitBlock
  exact mem_recordBlocks.mpr (by omega)

theorem dataRecords_blocks (plan : CommitPlan) : plan.dataRecords.map (·.1) =
    (range plan.data.length).map (plan.descriptorBlock + 1 + ·) := by
  unfold CommitPlan.dataRecords
  apply ext_getElem
  · simp
  · intro index bound bound'
    simp

/-! ## Disks along the commit -/

/-- The disk with an active journal and no records. -/
def started : Disk Block :=
  Function.update (Function.update tx.disk 0 tx.plan.filesystemBlock) tx.journal.physicalBlock
    tx.active

theorem old_disk : tx.Old tx.disk := ⟨.inl rfl, fun _ _ => rfl⟩

theorem old_flagged : tx.Old (Function.update tx.disk 0 tx.plan.filesystemBlock) :=
  ⟨.inr (update_self _ _ _), fun _ nonzero => update_of_ne nonzero _ _⟩

theorem started_journal : tx.started tx.journal.physicalBlock = tx.active :=
  update_self _ _ _

theorem started_zero : tx.started 0 = tx.plan.filesystemBlock := by
  have positive := tx.positive
  rw [started, update_of_ne (by omega), update_self]

theorem started_of_ne (journal : block ≠ tx.journal.physicalBlock) (nonzero : block ≠ 0) :
    tx.started block = tx.disk block := by
  rw [started, update_of_ne journal, update_of_ne nonzero]

theorem started_record (record : block ∈ recordBlocks tx.plan.descriptorBlock tx.plan.homes.length)
    : tx.started block = Block.zero := by
  have nonzero : block ≠ 0 := fun zero =>
    tx.not_inJournal_zero (zero ▸ tx.inJournal_of_record record)
  rw [tx.started_of_ne (tx.ne_of_record record) nonzero, tx.empty block record]

theorem stalled_started : tx.Stalled tx.started :=
  ⟨tx.started_journal, .inl tx.started_zero, .inl (tx.started_record tx.descriptor_mem_records)⟩

/-- The records before the commit record. -/
def openRecords : List (Nat × Block) :=
  (tx.plan.descriptorBlock, tx.plan.descriptor) :: tx.plan.dataRecords

theorem mem_openRecords (member : record ∈ tx.openRecords) :
    tx.plan.descriptorBlock ≤ record.1 ∧ record.1 < tx.plan.commitBlock ∧
      (record.1 = tx.plan.descriptorBlock → record.2 = tx.plan.descriptor) := by
  have commit := tx.commitBlock
  rcases mem_cons.mp member with rfl | data
  · exact ⟨le_refl _, by omega, fun _ => rfl⟩
  · have bounds := tx.dataRecord_bounds data
    exact ⟨by omega, bounds.2, fun same => by omega⟩

theorem openRecords_distinct : (tx.openRecords.map (·.1)).Nodup := by
  unfold openRecords
  rw [map_cons, nodup_cons]
  constructor
  · intro member
    obtain ⟨record, data, same⟩ := mem_map.mp member
    have bounds := tx.dataRecord_bounds data
    omega
  · rw [dataRecords_blocks]
    exact Nodup.map (fun a b same => Nat.add_left_cancel same) nodup_range

/-- A crash while the records are written leaves no commit record. -/
theorem stalled_torn (sublist : Sublist kept tx.openRecords) :
    tx.Stalled (apply tx.started kept) := by
  have gt := tx.descriptorBlock_gt
  have keeps {block : Nat} (apart : block < tx.plan.descriptorBlock ∨ tx.plan.commitBlock ≤ block) :
      apply tx.started kept block = tx.started block :=
    apply_sublist_of_ne sublist fun record member => by
      have bounds := tx.mem_openRecords member
      omega
  refine ⟨?_, .inl ?_, ?_⟩
  · rw [keeps (.inl gt), tx.started_journal]
  · rw [keeps (.inl (by omega)), tx.started_zero]
  have absent : apply tx.started kept tx.plan.commitBlock = Block.zero := by
    rw [keeps (.inr (le_refl _)), tx.started_record tx.commit_mem_records]
  rcases apply_sublist tx.started sublist tx.plan.descriptorBlock with old | written
  · rw [tx.started_record tx.descriptor_mem_records] at old
    exact .inl old
  · exact .inr ⟨(tx.mem_openRecords written).2.2 rfl, absent⟩

/-- The disk with all records of the transaction. -/
def committed : Disk Block :=
  Function.update (apply tx.started tx.openRecords) tx.plan.commitBlock tx.plan.commit

theorem committed_of_not_record
    (apart : block < tx.plan.descriptorBlock ∨ tx.plan.commitBlock < block) :
    tx.committed block = tx.started block := by
  have commit := tx.commitBlock
  rw [committed, update_of_ne (by omega)]
  refine apply_sublist_of_ne (Sublist.refl _) fun record member => ?_
  have bounds := tx.mem_openRecords member
  omega

theorem committed_record (member : record ∈ tx.openRecords) : tx.committed record.1 = record.2 := by
  have bounds := tx.mem_openRecords member
  rw [committed, update_of_ne (by omega)]
  exact apply_of_mem tx.openRecords_distinct member

theorem committed_old (nonzero : block ≠ 0) (outside : ¬ tx.InJournal block) :
    tx.committed block = tx.disk block := by
  have notJournal : block ≠ tx.journal.physicalBlock := fun same =>
    outside (same ▸ tx.inJournal_journal)
  have apart : block < tx.plan.descriptorBlock ∨ tx.plan.commitBlock < block := by
    by_contra inside
    refine outside (tx.inJournal_of_record (mem_recordBlocks.mpr ?_))
    have commit := tx.commitBlock
    omega
  rw [tx.committed_of_not_record apart, tx.started_of_ne notJournal nonzero]

theorem logged_committed : tx.Logged tx.committed where
  journal := by
    rw [tx.committed_of_not_record (.inl tx.descriptorBlock_gt), tx.started_journal]
  flagged := .inl <| by
    have gt := tx.descriptorBlock_gt
    rw [tx.committed_of_not_record (.inl (by omega)), tx.started_zero]
  descriptor := tx.committed_record mem_cons_self
  commit := update_self _ _ _
  data := fun record member => .inl (tx.committed_record (mem_cons_of_mem _ member))
  homes := by
    intro home member nonzero
    left
    have outside := tx.not_inJournal_of_home member
    exact tx.committed_old nonzero outside
  frame := fun block nonzero _ outside => tx.committed_old nonzero outside

/-! ## Homes -/

/-- Both records are in place and every home is new. -/
structure Installed (c : Disk Block) : Prop extends tx.Logged c where
  installed : ∀ home ∈ tx.plan.homes, c home.1 = home.2

theorem flaggedHome_cases : (0, tx.flaggedHome) ∈ tx.plan.homes ∨
      (tx.flaggedHome = tx.plan.filesystemBlock ∧ ∀ home ∈ tx.plan.homes, home.1 ≠ 0) := by
  unfold flaggedHome
  cases found : superblockHome tx.plan.homes with
  | some home => exact .inl (superblockHome_eq_some found)
  | none => exact .inr ⟨rfl, fun home member => superblockHome_eq_none found member⟩

/-- A home for block 0 is the flagged one. -/
theorem home_zero (member : home ∈ tx.plan.homes) (zero : home.1 = 0) :
    home.2 = tx.flaggedHome := by
  rcases tx.flaggedHome_cases with present | ⟨-, absent⟩
  · have distinct := tx.distinct
    exact congrArg Prod.snd
      (inj_on_of_nodup_map distinct member present (by rw [zero]))
  · exact absurd zero (absent home member)

variable {tx} {c c' : Disk Block} {checkpointed : Block}

theorem Installed.zero (installed : tx.Installed c) : c 0 = tx.flaggedHome := by
  rcases tx.flaggedHome_cases with present | ⟨same, -⟩
  · exact installed.installed _ present
  rcases installed.flagged with old | new
  · rw [same]
    exact old
  · exact new

/-- A crash while the homes are written keeps the records. -/
theorem Logged.install_torn (logged : tx.Logged c) (sublist : Sublist kept tx.plan.homes) :
    tx.Logged (apply c kept) := by
  have keeps {block : Nat} (inside : tx.InJournal block) : apply c kept block = c block :=
    apply_sublist_of_ne sublist fun home member same =>
      tx.not_inJournal_of_home member (same ▸ inside)
  have records {block : Nat} (record : block ∈ recordBlocks tx.plan.descriptorBlock
      tx.plan.homes.length) : apply c kept block = c block :=
    keeps (tx.inJournal_of_record record)
  refine ⟨?_, ?_, ?_, ?_, ?_, ?_, ?_⟩
  · rw [keeps tx.inJournal_journal]
    exact logged.journal
  · rcases apply_sublist c sublist 0 with old | written
    · unfold Flagged
      rw [old]
      exact logged.flagged
    · exact .inr (tx.home_zero written rfl)
  · rw [records tx.descriptor_mem_records]
    exact logged.descriptor
  · rw [records tx.commit_mem_records]
    exact logged.commit
  · intro record member
    rw [records (tx.dataRecord_mem_records member)]
    exact logged.data record member
  · intro home member nonzero
    rcases apply_sublist c sublist home.1 with old | written
    · rw [old]
      exact logged.homes home member nonzero
    · right
      exact congrArg Prod.snd (inj_on_of_nodup_map tx.distinct written member rfl)
  · intro block nonzero untargeted outside
    have same : apply c kept block = c block := apply_sublist_of_ne sublist
      fun home member same => untargeted (same ▸ mem_map_of_mem member)
    rw [same]
    exact logged.frame block nonzero untargeted outside

theorem Logged.install (logged : tx.Logged c) : tx.Installed (apply c tx.plan.homes) :=
  ⟨logged.install_torn (Sublist.refl _), fun _ member => apply_of_mem tx.distinct member⟩

/-! ## Checkpoint -/

/-- The writes of the checkpoint: the records are cleared and the journal is emptied. -/
def clearing (tx : PreparedTransaction) (checkpointed : Block) : List (Nat × Block) :=
  (recordBlocks tx.plan.descriptorBlock tx.plan.homes.length).map (·, Block.zero) ++
    [(tx.journal.physicalBlock, checkpointed)]

theorem mem_clearing (member : write ∈ tx.clearing checkpointed) :
    (write.1 ∈ recordBlocks tx.plan.descriptorBlock tx.plan.homes.length ∧
      write.2 = Block.zero) ∨ write = (tx.journal.physicalBlock, checkpointed) := by
  rcases mem_append.mp member with record | journal
  · obtain ⟨block, inside, rfl⟩ := mem_map.mp record
    exact .inl ⟨inside, rfl⟩
  · exact .inr (mem_singleton.mp journal)

theorem inJournal_of_clearing (member : write ∈ tx.clearing checkpointed) :
    tx.InJournal write.1 := by
  rcases mem_clearing member with ⟨record, -⟩ | rfl
  · exact tx.inJournal_of_record record
  · exact tx.inJournal_journal

/-- An emptied journal, with nothing changed outside of it. -/
theorem Installed.done (installed : tx.Installed c)
    (checkpoint : tx.active.setJournalState (tx.sequence + 1#32) 0#32 =
      .ok (c' tx.journal.physicalBlock))
    (keeps : ∀ block, ¬ tx.InJournal block → c' block = c block) :
    tx.Done c' ∧ c' 0 = tx.flaggedHome := by
  have zero : c' 0 = tx.flaggedHome := by
    rw [keeps 0 tx.not_inJournal_zero, installed.zero]
  refine ⟨⟨checkpoint, .inl zero, fun home member _ => ?_, fun block nonzero untargeted outside => ?_⟩,
    zero⟩
  · rw [keeps _ (tx.not_inJournal_of_home member)]
    exact installed.installed home member
  · rw [keeps block outside]
    exact installed.frame block nonzero untargeted outside

/-- Whatever a crash keeps of the checkpoint, the transaction is logged, stalled or done. -/
theorem Installed.checkpoint_torn (installed : tx.Installed c)
    (checkpoint : tx.active.setJournalState (tx.sequence + 1#32) 0#32 = .ok checkpointed)
    (sublist : Sublist kept (tx.clearing checkpointed)) : tx.Reachable (apply c kept) := by
  have keeps {block : Nat} (outside : ¬ tx.InJournal block) : apply c kept block = c block :=
    apply_sublist_of_ne sublist fun write member same =>
      outside (same ▸ inJournal_of_clearing member)
  have zero : apply c kept 0 = tx.flaggedHome := by
    rw [keeps tx.not_inJournal_zero, installed.zero]
  have record {block : Nat} (inside : block ∈ recordBlocks tx.plan.descriptorBlock
      tx.plan.homes.length) : apply c kept block = c block ∨ apply c kept block = Block.zero := by
    rcases apply_sublist c sublist block with old | written
    · exact .inl old
    · rcases mem_clearing written with ⟨-, cleared⟩ | journal
      · exact .inr cleared
      · exact absurd (congrArg Prod.fst journal) (tx.ne_of_record inside)
  have frame : tx.Frame (apply c kept) := fun block nonzero untargeted outside => by
    rw [keeps outside]
    exact installed.frame block nonzero untargeted outside
  have homes : ∀ home ∈ tx.plan.homes, apply c kept home.1 = home.2 := fun home member => by
    rw [keeps (tx.not_inJournal_of_home member)]
    exact installed.installed home member
  -- The journal superblock decides between an active and an empty journal.
  rcases apply_sublist c sublist tx.journal.physicalBlock with old | written
  · have journal : apply c kept tx.journal.physicalBlock = tx.active := old.trans installed.journal
    rcases record tx.descriptor_mem_records with descriptor | missing
    · rw [installed.descriptor] at descriptor
      rcases record tx.commit_mem_records with commit | missing
      · rw [installed.commit] at commit
        refine Logged.reachable ⟨journal, .inr zero, descriptor, commit, ?_,
          fun home member _ => .inr (homes home member), frame⟩
        intro data member
        rcases record (tx.dataRecord_mem_records member) with same | cleared
        · rw [same]
          exact installed.data data member
        · exact .inr cleared
      · exact Stalled.reachable ⟨journal, .inr zero, .inr ⟨descriptor, missing⟩⟩
    · exact Stalled.reachable ⟨journal, .inr zero, .inl missing⟩
  · rcases mem_clearing written with ⟨inside, -⟩ | journal
    · exact absurd rfl (tx.ne_of_record inside)
    · exact (installed.done (checkpoint.trans (congrArg Except.ok (congrArg Prod.snd journal).symm))
        fun _ => keeps).1.reachable

theorem Installed.checkpoint (installed : tx.Installed c)
    (checkpoint : tx.active.setJournalState (tx.sequence + 1#32) 0#32 = .ok checkpointed) :
    tx.Done (apply c (tx.clearing checkpointed)) ∧
      apply c (tx.clearing checkpointed) 0 = tx.flaggedHome := by
  have journal : apply c (tx.clearing checkpointed) tx.journal.physicalBlock = checkpointed := by
    rw [clearing, apply_append]
    exact update_self _ _ _
  refine installed.done (by rw [journal]; exact checkpoint) fun block outside => ?_
  exact apply_sublist_of_ne (Sublist.refl _) fun write member same =>
    outside (same ▸ inJournal_of_clearing member)

/-- A change inside the journal that leaves its superblock alone. -/
theorem Done.of_same (done : tx.Done c)
    (journal : c' tx.journal.physicalBlock = c tx.journal.physicalBlock)
    (same : ∀ block, ¬ tx.InJournal block → c' block = c block) : tx.Done c' where
  journal := by
    rw [journal]
    exact done.journal
  superblock := by
    rw [same 0 tx.not_inJournal_zero]
    exact done.superblock
  homes := fun home member nonzero => by
    rw [same _ (tx.not_inJournal_of_home member)]
    exact done.homes home member nonzero
  frame := fun block nonzero untargeted outside => by
    rw [same _ outside]
    exact done.frame block nonzero untargeted outside

theorem Done.clear (done : tx.Done c) {cleared : Block}
    (clearing : tx.flaggedHome.setRecovery false = .ok cleared) :
    tx.Done (Function.update c 0 cleared) where
  journal := by
    have positive := tx.positive
    rw [update_of_ne (by omega)]
    exact done.journal
  superblock := .inr (by rw [update_self]; exact clearing)
  homes := fun home member nonzero => by
    rw [update_of_ne nonzero]
    exact done.homes home member nonzero
  frame := fun block nonzero untargeted outside => by
    rw [update_of_ne nonzero]
    exact done.frame block nonzero untargeted outside

/-! ## The stages -/

section Stages

variable {device : BlockDevice} {superblock : Superblock} {messages : CommitMessages}
  {s : State Block} {crash : Disk Block → Prop} {post : Unit → State Block → Prop}

theorem ensures_activateJournal {post : Block → State Block → Prop}
    (next : post tx.active (settled tx.started)) :
    (activateJournal device tx.journal tx.sequence tx.plan messages).Ensures tx.Reachable post
      (settled tx.disk) := by
  unfold activateJournal
  rw [tx.filesystemSector, tx.journalSector]
  refine ensures_update tx.old_disk.reachable (Program.Ensures.bind ?_)
  have flagged : (settled (Function.update tx.disk 0 tx.plan.filesystemBlock)).Safe
      tx.Reachable := safe_settled.mpr tx.old_flagged.reachable
  refine Program.ensures_expect fun active activated => ?_
  cases activated.symm.trans tx.activated
  refine ensures_update tx.old_flagged.reachable ?_
  exact ⟨safe_settled.mpr tx.stalled_started.reachable, next⟩

section

variable (size : superblock.blockSize = 4096#32)
include size

theorem ensures_writeRecords (next : post () (settled tx.committed)) :
    (writeRecords device superblock tx.plan).Ensures tx.Reachable post (settled tx.started) := by
  have opened : tx.Stalled (apply tx.started tx.openRecords) := tx.stalled_torn (Sublist.refl _)
  refine ensures_burst size (fun kept sublist => (tx.stalled_torn sublist).reachable) ?_
  refine .bind (Program.Ensures.sector size ?_)
  have logged : tx.Reachable tx.committed := tx.logged_committed.reachable
  have torn : ((settled (apply tx.started tx.openRecords)).write tx.plan.commitBlock
      tx.plan.commit).Safe tx.Reachable := fun c survived => by
    obtain ⟨kept, sublist, rfl⟩ := survived
    rcases sublist_singleton.mp sublist with rfl | rfl
    · exact opened.reachable
    · exact logged
  exact ensures_write torn (ensures_flush torn logged next)

theorem ensures_verifyActive {active : Block} (safe : s.Safe crash) (next : post () s) :
    (verifyActive device superblock tx.journal tx.sequence tx.plan active messages).Ensures crash
      post s := by
  unfold verifyActive
  rw [tx.filesystemSector, tx.journalSector]
  refine .reading ?_
  refine .require fun _ => ?_
  refine .reading ?_
  refine .expect fun _ _ => ?_
  refine .require fun _ => ?_
  exact ensures_verifyBlocks size safe next

theorem ensures_installHomes {mismatch : String} (logged : tx.Logged c)
    (next : post () (settled (apply c tx.plan.homes))) :
    (installHomes device superblock tx.plan.homes mismatch).Ensures tx.Reachable post
      (settled c) := by
  refine ensures_burst size
    (fun kept sublist => (logged.install_torn sublist).reachable) ?_
  exact ensures_verifyBlocks size
    (safe_settled.mpr logged.install.toLogged.reachable) next

theorem ensures_checkpointRecords (installed : tx.Installed c)
    (checkpoint : tx.active.setJournalState (tx.sequence + 1#32) 0#32 = .ok checkpointed)
    (next : post () (settled (apply c (tx.clearing checkpointed)))) :
    (checkpointRecords device superblock (recordBlocks tx.plan.descriptorBlock tx.plan.homes.length)
      (tx.journal.physicalBlock * 8) checkpointed).Ensures tx.Reachable post (settled c) := by
  have safe : (⟨c, tx.clearing checkpointed⟩ : State Block).Safe tx.Reachable :=
    fun c' survived => by
      obtain ⟨kept, sublist, rfl⟩ := survived
      exact installed.checkpoint_torn checkpoint sublist
  have done : tx.Reachable (apply c (tx.clearing checkpointed)) :=
    (installed.checkpoint checkpoint).1.reachable
  refine .bind (ensures_writeBlocks size ?_ ?_)
  · exact safe.of_write
  · exact .bind (ensures_write safe (ensures_flush safe done next))

end

theorem ensures_nextSequence {sequence : BitVec 32} {message : String}
    {post : BitVec 32 → State Block → Prop} (safe : s.Safe crash)
    (next : sequence.toNat + 1 < 2 ^ 32 → post (sequence + 1#32) s) :
    (nextSequence sequence message).Ensures crash post s := by
  refine Program.ensures_expectSome fun value found => ?_
  split at found
  · next small =>
    cases found
    exact next small
  · cases found

/-- The transaction is complete and the superblock is clean. -/
def Finished (tx : PreparedTransaction) (c : Disk Block) : Prop :=
  tx.Done c ∧ tx.flaggedHome.setRecovery false = .ok (c 0)

/-- The disk of a transaction that went to its end: it is finished, its records are
gone, and the rest of the journal is as it was. -/
structure Retired (tx : PreparedTransaction) (d : Disk Block) : Prop where
  finished : tx.Finished d
  records : ∀ block ∈ recordBlocks tx.plan.descriptorBlock tx.plan.homes.length,
    d block = Block.zero
  rest : ∀ block, tx.InJournal block → block ≠ tx.journal.physicalBlock →
    block ∉ recordBlocks tx.plan.descriptorBlock tx.plan.homes.length → d block = tx.disk block

/-- The homes and the records leave the rest of the journal alone. -/
theorem installed_rest (inside : tx.InJournal block)
    (notSuperblock : block ≠ tx.journal.physicalBlock)
    (apart : block ∉ recordBlocks tx.plan.descriptorBlock tx.plan.homes.length) :
    apply tx.committed tx.plan.homes block = tx.disk block := by
  have nonzero : block ≠ 0 := fun zero => tx.not_inJournal_zero (zero ▸ inside)
  have notRecord : block < tx.plan.descriptorBlock ∨ tx.plan.commitBlock < block := by
    by_contra between
    refine apart (mem_recordBlocks.mpr ?_)
    have commit := tx.commitBlock
    omega
  rw [apply_sublist_of_ne (Sublist.refl _) fun home member same =>
      tx.not_inJournal_of_home member (same ▸ inside),
    tx.committed_of_not_record notRecord, tx.started_of_ne notSuperblock nonzero]

/-- The path of several targets clears the records before it empties the journal. -/
theorem Finished.retired_several {cleared : Block} (finished : tx.Finished (Function.update
      (apply (apply tx.committed tx.plan.homes) (tx.clearing checkpointed)) 0 cleared)) :
    tx.Retired (Function.update
      (apply (apply tx.committed tx.plan.homes) (tx.clearing checkpointed)) 0 cleared) where
  finished := finished
  records block record := by
    have nonzero : block ≠ 0 := fun zero =>
      tx.not_inJournal_zero (zero ▸ tx.inJournal_of_record record)
    rw [update_of_ne nonzero, clearing, apply_append]
    exact (update_of_ne (tx.ne_of_record record) _ _).trans
      (apply_fill (recordBlocks_nodup _ _) record)
  rest block inside notSuperblock apart := by
    have nonzero : block ≠ 0 := fun zero => tx.not_inJournal_zero (zero ▸ inside)
    rw [update_of_ne nonzero, clearing, apply_append]
    exact (update_of_ne notSuperblock _ _).trans ((apply_fill_other apart).trans
      (installed_rest inside notSuperblock apart))

/-- What a commit of the transaction returns and leaves. -/
def Ended (tx : PreparedTransaction) (result : BitVec 32 × Ext4Mount) (s : State Block) : Prop :=
  tx.sequence.toNat + 1 < 2 ^ 32 ∧ result.1 = tx.sequence + 1#32 ∧
    ∃ d, s = State.settled d ∧ tx.Retired d ∧
      Superblock.parse (d 0).superblock = .ok result.2.superblock

/-- Retiring a logged transaction finishes it. -/
theorem ensures_retireTransaction {post : BitVec 32 × Block × Block → State Block → Prop}
    {filesystemBlock : Block} {messages : RetireMessages}
    (size : superblock.blockSize = 4096#32) (logged : tx.Logged c)
    (filesystem : (superblockHome tx.plan.homes).getD filesystemBlock = tx.flaggedHome)
    (next : ∀ checkpointed cleared c', tx.sequence.toNat + 1 < 2 ^ 32 →
      c' = Function.update (apply (apply c tx.plan.homes) (tx.clearing checkpointed)) 0 cleared →
      tx.Finished c' → post (tx.sequence + 1#32, checkpointed, cleared) (settled c')) :
    (retireTransaction device superblock (0 * 8) (tx.journal.physicalBlock * 8)
      tx.plan.descriptorBlock filesystemBlock tx.active tx.plan.homes tx.sequence messages).Ensures
      tx.Reachable post (settled c) := by
  have installed := logged.install
  have safe := safe_settled.mpr installed.toLogged.reachable
  unfold retireTransaction
  rw [filesystem]
  refine .bind (ensures_installHomes size logged ?_)
  refine .bind (ensures_nextSequence safe fun small => ?_)
  refine .expect fun checkpointed checkpoint => ?_
  obtain ⟨done, zero⟩ := installed.checkpoint checkpoint
  refine .bind (ensures_checkpointRecords size installed checkpoint ?_)
  have safe' := safe_settled.mpr done.reachable
  refine .expect fun cleared clearing => ?_
  have finished := done.clear clearing
  refine ensures_update done.reachable ⟨safe_settled.mpr finished.reachable, ?_⟩
  exact next _ _ _ small rfl ⟨finished, by rw [update_self]; exact clearing⟩

end Stages

end PreparedTransaction

end SlopOS.Filesystem
