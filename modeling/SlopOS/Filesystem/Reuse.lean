import SlopOS.Filesystem.Completion

/-!
# The log after a recovery

Whether the next commit completes once a crashed disk was mounted.  A mount with an active
journal clears the records it replays; one with an empty journal leaves the
records as the crash left them.  Both commit paths ask for empty record blocks, so the next
commit completes exactly when no record has survived outside an active journal.
-/

namespace SlopOS.Filesystem

open ByteCodec CrashDisk Ext4 List Function State

/-! ## What a mount leaves in the journal -/

/-- The journal superblock on the disk is active. -/
def JournalActive (journal : JournalProbe) (c : Disk Block) : Prop :=
  ∃ j, JournalSuperblock.parse (c journal.physicalBlock).bytes = .ok j ∧ j.start ≠ 0#32

/-- The record blocks of a transaction with `next` targets are empty, apart from those of
an active transaction with `count` targets. -/
def LogClear (journal : JournalProbe) (count next : Nat) (c : Disk Block) : Prop :=
  let descriptorBlock := journal.physicalBlock + journal.superblock.firstLogBlock.toNat
  ∀ block ∈ recordBlocks descriptorBlock next, c block = Block.zero ∨
    JournalActive journal c ∧ block ∈ recordBlocks descriptorBlock count

/-- The journal on `d`, once a transaction on `c` with `count` targets was recovered: an
empty journal is left alone, an active one is emptied together with its records. -/
structure Retired (journal : JournalProbe) (count : Nat) (c d : Disk Block) : Prop where
  superblock : ∃ sequence, JournalSuperblock.parse (d journal.physicalBlock).bytes =
    .ok { journal.superblock with sequence, start := 0#32 }
  cleared : JournalActive journal c → ∀ block ∈ recordBlocks
    (journal.physicalBlock + journal.superblock.firstLogBlock.toNat) count, d block = Block.zero
  kept : ∀ block, journal.physicalBlock < block →
    block < journal.physicalBlock + journal.superblock.maxLength.toNat →
    ¬ (JournalActive journal c ∧ block ∈ recordBlocks
      (journal.physicalBlock + journal.superblock.firstLogBlock.toNat) count) →
    d block = c block

/-- A disk with an empty journal, of which only block 0 was changed. -/
theorem retired_of_inactive {journal : JournalProbe} {count : Nat} {c d : Disk Block}
    (positive : 0 < journal.physicalBlock)
    (inactive : ∃ sequence, JournalSuperblock.parse (c journal.physicalBlock).bytes =
      .ok { journal.superblock with sequence, start := 0#32 })
    (same : ∀ block, block ≠ 0 → d block = c block) : Retired journal count c d := by
  have notActive : ¬ JournalActive journal c := by
    intro active
    obtain ⟨sequence, parsed⟩ := inactive
    obtain ⟨j, parsed', started⟩ := active
    rw [parsed] at parsed'
    cases parsed'
    exact started rfl
  constructor
  · rw [same _ (by omega)]
    exact inactive
  · exact fun active => absurd active notActive
  · exact fun block after _ _ => same block (by omega)

namespace PreparedTransaction

variable {tx : PreparedTransaction} {c : Disk Block} {device : BlockDevice} {mount : Ext4Mount}

theorem active_of_journal (active : c tx.journal.physicalBlock = tx.active) :
    JournalActive tx.journal c := by
  refine ⟨tx.activeSuperblock, ?_, activeSuperblock_start⟩
  rw [active]
  exact tx.parse_active

/-- The journal superblock of a disk before the transaction. -/
theorem Old.inactive (old : tx.Old c) : ∃ sequence,
    JournalSuperblock.parse (c tx.journal.physicalBlock).bytes =
      .ok { tx.journal.superblock with sequence, start := 0#32 } := by
  have positive := tx.positive
  rw [old.2 _ (by omega)]
  exact ⟨_, tx.geometry⟩

theorem parse_checkpointed {checkpointed : Block}
    (checkpoint : tx.active.setJournalState (tx.sequence + 1#32) 0#32 = .ok checkpointed) :
    ∃ sequence, JournalSuperblock.parse checkpointed.bytes =
      .ok { tx.journal.superblock with sequence, start := 0#32 } := by
  obtain ⟨j, parsed, -, -, emptied⟩ := Block.setJournalState_ok checkpoint
  rw [parse_active] at parsed
  cases parsed
  exact ⟨_, emptied⟩

/-- The journal after a replay, whatever the data records held. -/
theorem Logged.retired (logged : tx.Logged c) {checkpointed cleared : Block}
    (checkpoint : tx.active.setJournalState (tx.sequence + 1#32) 0#32 = .ok checkpointed) :
    Filesystem.Retired tx.journal tx.plan.homes.length c (tx.afterReplay c checkpointed cleared) := by
  have positive := tx.positive
  have active := active_of_journal logged.journal
  constructor
  · have journal : tx.afterReplay c checkpointed cleared tx.journal.physicalBlock =
        checkpointed := by
      rw [afterReplay, update_of_ne (by omega), update_self]
    rw [journal]
    exact parse_checkpointed checkpoint
  · intro _ block record
    rw [← tx.descriptorBlock] at record
    have nonzero : block ≠ 0 := fun zero =>
      tx.not_inJournal_zero (zero ▸ tx.inJournal_of_record record)
    rw [afterReplay, update_of_ne nonzero, update_of_ne (tx.ne_of_record record)]
    exact apply_fill (recordBlocks_nodup _ _) record
  · intro block after before apart
    rw [← tx.descriptorBlock] at apart
    rw [afterReplay, update_of_ne (by omega), update_of_ne (by omega),
      apply_fill_other fun record => apart ⟨active, record⟩, apply_of_not_mem]
    intro data member
    exact replayPlan_outside member ⟨by omega, before⟩

/-! ## The mount -/

/-- A disk after the mount, which has read its superblock from it. -/
def Mounted (tx : PreparedTransaction) (c : Disk Block) (mount : Ext4Mount) (s : State Block) :
    Prop :=
  ∃ d, s = State.settled d ∧ Superblock.parse (d 0).superblock = .ok mount.superblock ∧
    Filesystem.Retired tx.journal tx.plan.homes.length c d

theorem ensures_discard_retired {journal : JournalProbe}
    (size : mount.superblock.blockSize = 4096#32) (inactive : ∃ sequence,
      JournalSuperblock.parse (c tx.journal.physicalBlock).bytes =
        .ok { tx.journal.superblock with sequence, start := 0#32 }) :
    (discardInactiveJournal device mount journal).Ensures (fun _ => True)
      (fun r s => tx.Mounted c r.2 s) (settled c) := by
  refine .sector size ?_
  refine .reading ?_
  refine .expect fun cleared _ => ?_
  apply ensures_update trivial
  refine .reading ?_
  refine .expect fun sb clean => ?_
  refine .require fun _ => ?_
  exact ⟨safe_true _, _, rfl, clean,
    retired_of_inactive tx.positive inactive fun block nonzero => update_of_ne nonzero _ _⟩

theorem ensures_replay_retired (size : mount.superblock.blockSize = 4096#32)
    (logged : tx.Logged c) :
    (replayActiveJournal device mount tx.activeProbe).Ensures (fun _ => True)
      (fun r s => tx.Mounted c r.2 s) (settled c) := by
  apply (ensures_replay_exact size logged).mono
  intro result s held
  obtain ⟨-, -, checkpointed, cleared, checkpoint, clean, rfl⟩ := held
  exact ⟨_, rfl, clean, logged.retired checkpoint⟩

/-- Whatever a mount of a crashed disk finds, when it returns the journal is retired. -/
theorem ensures_mount_retired (reachable : tx.Reachable c)
    (located : Locates device tx.journal.physicalBlock c) :
    (Ext4Mount.mount device).Ensures (fun _ => True) (fun mount s => tx.Mounted c mount s)
      (settled c) := by
  apply ensures_mount_cases trivial located
  · intro mount clean
    have inactive : ∃ sequence, JournalSuperblock.parse (c tx.journal.physicalBlock).bytes =
        .ok { tx.journal.superblock with sequence, start := 0#32 } := by
      rcases reachable.outcome_of_clean clean with ⟨old, -⟩ | ⟨-, done, -⟩
      · exact old.inactive
      · exact parse_checkpointed done.journal
    exact ⟨c, rfl, clean, retired_of_inactive tx.positive inactive fun _ _ => rfl⟩
  intro mount superblock size dirty parsed
  have replayed : (mount.replayJournalTransaction device ⟨tx.journal.physicalBlock,
      superblock⟩).Ensures (fun _ => True) (fun r s => tx.Mounted c r.2 s) (settled c) := by
    unfold Ext4Mount.replayJournalTransaction
    rcases reachable.journal_of_dirty dirty parsed with ⟨empty, class_⟩ | ⟨active, class_⟩
    · rw [if_pos empty]
      apply ensures_discard_retired size
      rcases class_ with ⟨old, -⟩ | ⟨done, -⟩
      · exact old.inactive
      · exact parse_checkpointed done.journal
    · rw [if_neg (by rw [active]; exact activeSuperblock_start), active]
      rcases class_ with stalled | logged
      · exact (ensures_replay_stalled size stalled).weaken fun _ _ => trivial
      · exact ensures_replay_retired size logged
  apply replayed.mono
  intro result s mounted
  exact ⟨safe_true _, mounted⟩

end PreparedTransaction

/-! ## The next commit -/

section Next

variable {call next : CommitCall} {device : BlockDevice} {mount mount' : Ext4Mount}
  {journal : JournalProbe} {sequence : BitVec 32} {superblock : JournalSuperblock}
  {disk c d : Disk Block} {s : State Block} {limit count : Nat}

/-- A commit that returns has found its record blocks empty. -/
theorem CommitCall.empty_of_returns (clean : CleanDisk mount journal sequence disk)
    (single : ∀ target home, call = .single target home → SingleTarget journal target)
    (returned : (call.program mount device journal sequence).Returns (settled disk)) :
    ∀ block ∈ recordBlocks (journal.physicalBlock + journal.superblock.firstLogBlock.toNat)
      call.homes.length, disk block = Block.zero := by
  obtain ⟨result, s, ran⟩ := returned
  obtain ⟨tx, commit, -⟩ := (ensures clean single).returns ran
  have empty := tx.empty
  rw [commit.descriptorBlock, commit.activates.length_eq, commit.disk] at empty
  exact empty

/-- On a disk whose journal is retired the next commit completes exactly when the crashed
disk had no other records. -/
theorem Retired.next_iff (retired : Retired journal count c d) (positive : 0 < journal.physicalBlock)
    (clean : Superblock.parse (d 0).superblock = .ok mount'.superblock)
    (stored : JournalSuperblock.parse (d journal.physicalBlock).bytes = .ok superblock)
    (accepted : next.Accepted device mount'.superblock ⟨journal.physicalBlock, superblock⟩ limit) :
    (next.program mount' device ⟨journal.physicalBlock, superblock⟩ superblock.sequence).Returns
        (settled d) ↔ LogClear journal count next.homes.length c := by
  obtain ⟨number, parsed⟩ := retired.superblock
  have fields := Except.ok.inj (stored.symm.trans parsed)
  have cleanDisk : CleanDisk mount' ⟨journal.physicalBlock, superblock⟩ superblock.sequence d := by
    refine ⟨accepted.blockSize, clean, positive, ?_⟩
    rw [stored, fields]
  have first := firstLogBlock_pos_of_parse stored
  have room := accepted.room
  rw [fields] at first room
  dsimp only at first room
  -- The record blocks of the next commit lie inside the journal.
  have inside : ∀ block ∈ recordBlocks (journal.physicalBlock +
      journal.superblock.firstLogBlock.toNat) next.homes.length, journal.physicalBlock < block ∧
        block < journal.physicalBlock + journal.superblock.maxLength.toNat := by
    intro block member
    rw [mem_recordBlocks] at member
    omega
  have sameFirst : superblock.firstLogBlock = journal.superblock.firstLogBlock := by rw [fields]
  constructor
  · intro returned block member
    have empty := next.empty_of_returns cleanDisk accepted.placed.single returned
    rw [sameFirst] at empty
    by_cases active : JournalActive journal c ∧ block ∈ recordBlocks (journal.physicalBlock +
        journal.superblock.firstLogBlock.toNat) count
    · exact .inr active
    · left
      rw [← retired.kept block (inside block member).1 (inside block member).2 active]
      exact empty block member
  · intro clear
    apply CommitCall.returns cleanDisk rfl accepted
    intro block member
    rw [sameFirst] at member
    by_cases active : JournalActive journal c ∧ block ∈ recordBlocks (journal.physicalBlock +
        journal.superblock.firstLogBlock.toNat) count
    · exact retired.cleared active.1 block active.2
    rw [retired.kept block (inside block member).1 (inside block member).2 active]
    rcases clear block member with zero | other
    · exact zero
    · exact absurd other active

/-- A commit on a clean disk is cut anywhere and the next mount returns.  Then the next
acceptable commit, with the sequence number the journal superblock then holds, completes
exactly when the crashed disk holds no record outside an active journal. -/
theorem next_commit_completes_iff (clean : CleanDisk mount journal sequence disk)
    (admissible : call.Admissible device journal disk limit)
    (crashed : (call.program mount device journal sequence).Crashes (State.settled disk) c)
    (located : Locates device journal.physicalBlock c)
    (mounted : (Ext4Mount.mount device).run (State.settled c) = .ok (mount', s))
    (stored : JournalSuperblock.parse (s.view journal.physicalBlock).bytes = .ok superblock)
    (accepted : next.Accepted device mount'.superblock ⟨journal.physicalBlock, superblock⟩ limit) :
    (next.program mount' device ⟨journal.physicalBlock, superblock⟩ superblock.sequence).Returns
        s ↔ LogClear journal call.homes.length next.homes.length c := by
  rcases (CommitCall.ensures clean admissible.single).crashes crashed with rfl | ⟨tx, commit, reachable⟩
  · have opened : (Ext4Mount.mount device).Ensures (fun _ => True) (fun mount' s =>
        s = settled c ∧ Superblock.parse (c 0).superblock = .ok mount'.superblock)
        (settled c) := by
      apply ensures_mount_cases trivial located
      · exact fun mount clean => ⟨rfl, clean⟩
      · intro mount superblock _ dirty
        rw [clean.superblock] at dirty
        cases dirty
    obtain ⟨rfl, unflagged⟩ := opened.returns mounted
    exact (retired_of_inactive clean.positive ⟨_, clean.journal⟩ fun _ _ => rfl).next_iff
      clean.positive unflagged stored accepted
  · have mounts : (Ext4Mount.mount device).Ensures (fun _ => True)
        (fun mount s => tx.Mounted c mount s) (settled c) := by
      apply PreparedTransaction.ensures_mount_retired reachable
      rw [commit.journal]
      exact located
    obtain ⟨d, rfl, unflagged, retired⟩ := mounts.returns mounted
    rw [commit.journal, commit.activates.length_eq] at retired
    exact retired.next_iff clean.positive unflagged stored accepted

end Next

/-! ## The small filesystem -/

/-- The mount of the disk returns with a journal that takes the call; `then_` says more
about it. -/
def mountAccepts (disk : Disk Block) (call : CommitCall)
    (then_ : Ext4Mount → State Block → JournalSuperblock → Bool) : Bool :=
  match (Ext4Mount.mount smallDevice).run (State.settled disk) with
  | .ok (mount, s) =>
      match JournalSuperblock.parse (s.view 3).bytes with
      | .ok superblock =>
          mount.superblock.blockSize = 4096#32 &&
            superblock.firstLogBlock.toNat + (1 + call.homes.length) <
              superblock.maxLength.toNat &&
            targetsSafe mount.superblock ⟨3, superblock⟩ (3 + superblock.maxLength.toNat) []
              (call.homes.map (·.1)) &&
            superblock.sequence ≠ 0#32 && superblock.sequence.toNat + 1 < 2 ^ 32 &&
            3 + superblock.maxLength.toNat ≤ 10 && then_ mount s superblock
      | .error _ => false
  | .error _ => false

theorem mountAccepts_spec {disk : Disk Block} {call : CommitCall}
    {then_ : Ext4Mount → State Block → JournalSuperblock → Bool}
    (count : call.homes.length ≠ 0 ∧ call.homes.length ≤ MULTI_TRANSACTION_MAX_BLOCKS)
    (targets : ∀ home ∈ call.homes, home.1 = 8 ∨ home.1 = 9)
    (accepts : mountAccepts disk call then_ = true) :
    ∃ mount s superblock, (Ext4Mount.mount smallDevice).run (settled disk) = .ok (mount, s) ∧
      JournalSuperblock.parse (s.view 3).bytes = .ok superblock ∧
      call.Accepted smallDevice mount.superblock ⟨3, superblock⟩ 10 ∧
      then_ mount s superblock = true := by
  unfold mountAccepts at accepts
  split at accepts
  · next mount s returned =>
    split at accepts
    · next superblock parsed =>
      simp only [Bool.and_eq_true, decide_eq_true_eq] at accepts
      obtain ⟨⟨⟨⟨⟨⟨size, room⟩, safe⟩, nonzero⟩, small⟩, inside⟩, more⟩ := accepts
      have bounds : ∀ home ∈ call.homes, home.1 ≠ 0 ∧ home.1 < 10 := by
        intro home member
        rcases targets home member with eight | nine
        · omega
        · omega
      refine ⟨mount, s, superblock, returned, parsed, ?_, more⟩
      exact {
        blockSize := size, count, room, targets := safe
        small := fun home member => lt_trans (bounds home member).2 (by decide)
        contents := fun home member zero => absurd zero (bounds home member).1
        single := fun target home same => (bounds (target, home) (by
          rw [same]
          exact mem_singleton_self _)).1
        sequence := ⟨nonzero, small⟩, fits := ⟨rfl, by decide, by decide⟩, journalEnd := inside
        below := fun home member => (bounds home member).2 }
    · cases accepts
  · cases accepts

theorem loggedDisk_accepts : (findsJournal loggedDisk 3 &&
    mountAccepts loggedDisk smallCall fun _ _ _ => true) = true := by decide +kernel

theorem loggedDisk_active : JournalActive smallProbe loggedDisk := by
  refine ⟨JournalSuperblock.fields (loggedDisk 3).bytes, ?_, by decide +kernel⟩
  exact JournalSuperblock.parse_ok_iff.mpr ⟨by rw [Block.size]; decide, by decide +kernel, rfl⟩

/-- A committed transaction is replayed, and the same commit then completes again. -/
theorem next_commit_completes_iff_loggedDisk : ∃ mount s superblock,
      (Ext4Mount.mount smallDevice).run (State.settled loggedDisk) = .ok (mount, s) ∧
      (smallCall.program mount smallDevice ⟨3, superblock⟩ superblock.sequence).Returns s := by
  have checked := Bool.and_eq_true_iff.mp loggedDisk_accepts
  obtain ⟨mount, s, superblock, mounted, stored, accepted, -⟩ :=
    mountAccepts_spec (by decide) (by decide) checked.2
  have clear : LogClear smallProbe smallCall.homes.length smallCall.homes.length loggedDisk :=
    fun block member => .inr ⟨loggedDisk_active, member⟩
  exact ⟨mount, s, superblock, mounted, (next_commit_completes_iff smallDisk_clean
    smallCall_admissible loggedDisk_crashed (findsJournal_spec checked.1) mounted stored
    accepted).mpr clear⟩

/-- A commit of one block. -/
def singleCall : CommitCall := .single 8 newContents

/-- The crash of the single path after the recovery flag was cleared, with its records
still to be cleared. -/
def leftoverState : State Block :=
  ((singleCall.program smallMount smallDevice smallProbe 1#32).states
    (State.settled smallDisk)).getD 26 (State.settled smallDisk)

theorem leftoverState_checked : (findsJournal leftoverState.durable 3 &&
    mountAccepts leftoverState.durable singleCall fun mount s superblock =>
      !((singleCall.program mount smallDevice ⟨3, superblock⟩ superblock.sequence).run s).isOk) =
        true := by decide +kernel

theorem singleCall_admissible : singleCall.Admissible smallDevice smallProbe smallDisk 10 where
  single := fun target home same => by
    cases same
    exact ⟨by decide, by decide +kernel⟩
  empty := fun block member => smallCall_admissible.empty block (by
    rw [mem_recordBlocks] at member ⊢
    have length : singleCall.homes.length = 1 := rfl
    have length' : smallCall.homes.length = 2 := rfl
    omega)
  fits := smallCall_admissible.fits
  journalEnd := smallCall_admissible.journalEnd
  targets := by decide

/-- A mount of the crashed disk returns, and after it the same commit is refused. -/
theorem next_commit_refused : CleanDisk smallMount smallProbe 1#32 smallDisk ∧
    singleCall.Admissible smallDevice smallProbe smallDisk 10 ∧ ∃ c mount s superblock,
      (singleCall.program smallMount smallDevice smallProbe 1#32).Crashes
        (State.settled smallDisk) c ∧ Locates smallDevice smallProbe.physicalBlock c ∧
      (Ext4Mount.mount smallDevice).run (State.settled c) = .ok (mount, s) ∧
      JournalSuperblock.parse (s.view 3).bytes = .ok superblock ∧
      singleCall.Accepted smallDevice mount.superblock ⟨3, superblock⟩ 10 ∧
      ¬ (singleCall.program mount smallDevice ⟨3, superblock⟩ superblock.sequence).Returns s := by
  have checked := Bool.and_eq_true_iff.mp leftoverState_checked
  obtain ⟨mount, s, superblock, mounted, stored, accepted, refused⟩ :=
    mountAccepts_spec (by decide) (by decide) checked.2
  refine ⟨smallDisk_clean, singleCall_admissible, leftoverState.durable, mount, s, superblock,
    ⟨leftoverState, Program.getD_mem_states _ _ 26, [], nil_sublist _, rfl⟩, findsJournal_spec checked.1,
    mounted, stored, accepted, ?_⟩
  intro returned
  obtain ⟨result, last, ran⟩ := returned
  rw [ran] at refused
  cases refused

end SlopOS.Filesystem
