import SlopOS.Filesystem.Atomicity

/-!
# Crashes of single-block commits

The single path prepares the same kind of transaction and goes through the same
classes of disks.  It empties the journal before it clears the flag and the records, so
its checkpoint leaves no torn records.
-/

namespace SlopOS.Filesystem

open ByteCodec CrashDisk Ext4 State

variable {device : BlockDevice} {mount : Ext4Mount} {journal : JournalProbe} {sequence : BitVec 32}
  {disk c : Disk Block} {target : Nat} {home : Block} {crash : Disk Block → Prop}

/-- A target of the single path: neither block 0 nor inside the journal. -/
def SingleTarget (journal : JournalProbe) (target : Nat) : Prop :=
  target ≠ 0 ∧ ¬ (journal.physicalBlock ≤ target ∧
    target < journal.physicalBlock + journal.superblock.maxLength.toNat)

theorem encodeSingleBlock_eq_ok_iff {target : BitVec 32} {uuid : Bytes}
    {descriptor data commit : Block} :
    encodeSingleBlock sequence target uuid home = .ok (descriptor, data, commit) ↔
      sequence ≠ 0#32 ∧ ∃ escaped, home.encodeData = .ok (data, escaped) ∧
        encodeJournalDescriptorBlock BLOCK_SIZE sequence [target] [escaped] uuid =
          .ok descriptor.bytes ∧ encodeJournalCommitBlock BLOCK_SIZE sequence = .ok commit.bytes := by
  simp only [encodeSingleBlock, encodeSingleBlockJournalTransaction, Block.encodeData,
    Except.bind_eq_ok_iff, Except.ite_throw_eq_ok_iff, Except.pure_eq_ok_iff,
    Block.ofBytes_eq_ok_iff, home.size]
  constructor
  · rintro ⟨_, ⟨-, nonzero, encoded, record, _, described, _, committed, rfl⟩, _, rfl, _, sized, _,
      rfl, done⟩
    cases done
    exact ⟨nonzero, encoded.2, ⟨encoded, record, data, sized, rfl⟩, described, committed⟩
  · rintro ⟨nonzero, escaped, ⟨encoded, record, _, sized, done⟩, described, committed⟩
    cases done
    exact ⟨_, ⟨not_not.mpr rfl, nonzero, encoded, record, _, described, _, committed, rfl⟩, _, rfl,
      data, sized, _, rfl, rfl⟩

theorem ensures_planSingleBlock (clean : CleanDisk mount journal sequence disk)
    (admissible : SingleTarget journal target) (safe : crash disk) :
    (planSingleBlock device mount journal sequence target home).Ensures crash
      (fun plan s => s = settled disk ∧ plan.homes = [(target, home)] ∧
        ∃ tx, Prepares mount journal sequence disk plan tx) (settled disk) := by
  have size := clean.blockSize
  have safe' : (settled disk).Safe crash := safe_settled.mpr safe
  refine .sector size ?_
  refine .sector size ?_
  refine .adding ?_
  refine .adding ?_
  refine .adding ?_
  refine .adding ?_
  refine .require fun inside => ?_
  refine .reading ?_
  refine .require fun _ => ?_
  refine .reading ?_
  refine .expect fun initial _ => ?_
  refine .require fun _ => ?_
  refine .bind (ensures_requireEmpty size safe' fun empty => ?_)
  refine .require fun small => ?_
  refine .expect fun records encoded => ?_
  obtain ⟨descriptor, data, commit⟩ := records
  refine .expect fun activated flagged => ?_
  refine ⟨safe', rfl, rfl, ?_⟩
  have inside := of_decide_eq_true inside
  have small := of_decide_eq_true small
  obtain ⟨-, escaped, encodedData, described, committed⟩ := encodeSingleBlock_eq_ok_iff.mp encoded
  have nonzero := sequence_ne_zero_of_commit committed
  have single : 1 ≠ 0 ∧ 1 ≤ MULTI_TRANSACTION_MAX_BLOCKS := by decide
  obtain ⟨parsed, tags⟩ := parse_descriptor [⟨BitVec.ofNat 32 target, data, escaped⟩] nonzero
    clean.uuid_length single described
  obtain ⟨journalActive, activation⟩ := clean.activate nonzero (by omega)
  refine ⟨{
    superblock := mount.superblock, journal, sequence, disk, active := journalActive
    encoded := [⟨BitVec.ofNat 32 target, data, escaped⟩]
    plan := ⟨_, _, _, _, activated, _, descriptor, [data], commit, [(target, home)]⟩
    blockSize := size, positive := clean.positive, geometry := clean.journal
    clean := ⟨_, clean.superblock⟩, filesystemSector := rfl, journalSector := rfl
    descriptorBlock := rfl, commitBlock := rfl, inside
    count := single
    distinct := List.nodup_singleton _
    outside := ?_, flagged, journalBlock := rfl, empty
    superblockFlagged := ?_
    encodes := List.Forall₂.cons ⟨?_, encodedData⟩ List.Forall₂.nil
    data := rfl, descriptor := parsed, tags, commit := parse_commit committed
    activated := activation }, rfl, rfl, rfl, rfl, rfl⟩
  · intro written member
    rw [List.mem_singleton.mp member]
    exact admissible.2
  · intro written member zero
    rw [List.mem_singleton.mp member] at zero
    exact absurd zero admissible.1
  · show (BitVec.ofNat 32 target).toNat = target
    exact Nat.mod_eq_of_lt small

/-! ## The stages of the single path -/

namespace PreparedTransaction

variable {tx : PreparedTransaction}

/-- The writes that clear the records touch only the journal. -/
theorem Done.clear_records (done : tx.Done c) {kept : List (Nat × Block)}
    (sublist : List.Sublist kept
      ((recordBlocks tx.plan.descriptorBlock tx.plan.homes.length).map (·, Block.zero))) :
    tx.Done (apply c kept) := by
  have record {write : Nat × Block} (member : write ∈
      (recordBlocks tx.plan.descriptorBlock tx.plan.homes.length).map (·, Block.zero)) :
      write.1 ∈ recordBlocks tx.plan.descriptorBlock tx.plan.homes.length := by
    obtain ⟨block, inside, rfl⟩ := List.mem_map.mp member
    exact inside
  refine done.of_same ?_ fun block outside => ?_
  · exact apply_sublist_of_ne sublist fun write member => tx.ne_of_record (record member)
  · exact apply_sublist_of_ne sublist fun write member same =>
      outside (same ▸ tx.inJournal_of_record (record member))

/-- The checkpoint of the single path: the journal is empty once its superblock is durable. -/
theorem Installed.checkpoint_first (installed : tx.Installed c) {checkpointed : Block}
    (checkpoint : tx.active.setJournalState (tx.sequence + 1#32) 0#32 = .ok checkpointed) :
    tx.Done (Function.update c tx.journal.physicalBlock checkpointed) :=
  (installed.done (by rw [Function.update_self]; exact checkpoint) fun block outside =>
    Function.update_of_ne (fun same => outside (by rw [same]; exact tx.inJournal_journal)) _ _).1

/-- The path of one target clears the records last. -/
theorem Finished.retired_single {checkpointed cleared : Block} (finished : tx.Finished (apply
      (Function.update (Function.update (apply tx.committed tx.plan.homes)
        tx.journal.physicalBlock checkpointed) 0 cleared)
      ((recordBlocks tx.plan.descriptorBlock tx.plan.homes.length).map (·, Block.zero)))) :
    tx.Retired (apply (Function.update (Function.update (apply tx.committed tx.plan.homes)
        tx.journal.physicalBlock checkpointed) 0 cleared)
      ((recordBlocks tx.plan.descriptorBlock tx.plan.homes.length).map (·, Block.zero))) where
  finished := finished
  records _ record := apply_fill (recordBlocks_nodup _ _) record
  rest block inside notSuperblock apart := by
    have nonzero : block ≠ 0 := fun zero => tx.not_inJournal_zero (zero ▸ inside)
    rw [apply_fill_other apart, Function.update_of_ne nonzero, Function.update_of_ne notSuperblock,
      installed_rest inside notSuperblock apart]

theorem ensures_finishSingleBlock (size : mount.superblock.blockSize = 4096#32)
    (single : tx.plan.homes.length = 1) (nonzero : ∀ home ∈ tx.plan.homes, home.1 ≠ 0)
    (known : Superblock.parse (tx.disk 0).superblock = .ok mount.superblock) :
    (finishSingleBlock device mount tx.sequence tx.plan tx.active).Ensures tx.Reachable
      tx.Ended (settled tx.committed) := by
  have flagged : tx.flaggedHome = tx.plan.filesystemBlock := by
    rcases tx.flaggedHome_cases with present | ⟨same, -⟩
    · exact absurd rfl (nonzero _ present)
    · exact same
  have installed := tx.logged_committed.install
  have safe := safe_settled.mpr installed.toLogged.reachable
  unfold finishSingleBlock verifyFinalJournal
  rw [tx.filesystemSector, tx.journalSector, ← single]
  refine .bind (ensures_installHomes size tx.logged_committed ?_)
  refine .bind (ensures_nextSequence safe fun small => ?_)
  refine .expect fun checkpointed checkpoint => ?_
  have done := installed.checkpoint_first checkpoint
  have safe' := safe_settled.mpr done.reachable
  refine ensures_update installed.toLogged.reachable ?_
  refine .expect fun cleared clearing => ?_
  rw [← flagged] at clearing
  have cleared' := done.clear clearing
  refine ensures_update done.reachable ?_
  refine ensures_burst size (fun kept sublist => (cleared'.clear_records sublist).reachable) ?_
  have finished : tx.Finished _ := ⟨cleared'.clear_records (List.Sublist.refl _), by
    rw [apply_fill_other fun record => tx.not_inJournal_zero (tx.inJournal_of_record record)]
    exact clearing⟩
  have safe'' := safe_settled.mpr finished.1.reachable
  refine .reading ?_
  refine .require fun _ => ?_
  refine .bind (Program.Ensures.reading ?_)
  refine .expect fun _ _ => ?_
  refine Program.ensures_require fun _ =>
    ⟨safe'', small, rfl, _, rfl, finished.retired_single, ?_⟩
  -- Block 0 is the old superblock with its flag set and cleared.
  have back := finished.2
  rw [flagged, tx.clear_filesystemBlock] at back
  rw [← Except.ok.inj back]
  exact known

end PreparedTransaction

theorem ensures_verifyIdentity {s : State Block} {plan : CommitPlan}
    {post : Unit → State Block → Prop} (safe : s.Safe crash) (next : post () s) :
    (verifyIdentity mount sequence target plan).Ensures crash post s := by
  refine .expect fun _ _ => ?_
  refine .expect fun _ _ => ?_
  exact Program.ensures_require fun _ => next

/-- The same for a commit of one block. -/
theorem ensures_commitSingleBlock (clean : CleanDisk mount journal sequence disk)
    (admissible : SingleTarget journal target) :
    (mount.commitSingleBlockJournalTransaction device journal sequence target home).Ensures
      (fun c => c = disk ∨ ∃ tx, CommitOf mount journal sequence disk [(target, home)] tx ∧
        tx.Reachable c)
      (fun result s => ∃ tx, CommitOf mount journal sequence disk [(target, home)] tx ∧
        tx.Ended result s) (settled disk) := by
  refine .bind ((ensures_planSingleBlock clean admissible (.inl rfl)).mono fun plan s prepared => ?_)
  obtain ⟨rfl, homes, tx, prepares⟩ := prepared
  have size := clean.blockSize
  have known := clean.superblock
  obtain ⟨superblock, rfl, rfl, rfl, rfl⟩ := prepares
  have commit : CommitOf mount tx.journal tx.sequence tx.disk [(target, home)] tx := by
    refine ⟨⟨superblock, rfl, rfl, rfl, rfl⟩, ?_⟩
    rw [homes]
    exact List.Forall₂.cons ⟨rfl, by rw [HomeContents, if_neg admissible.1]⟩ List.Forall₂.nil
  refine Program.Ensures.weaken (show Program.Ensures tx.Reachable _ _ _ from ?_)
    fun c reachable => .inr ⟨tx, commit, reachable⟩
  have safe := safe_settled.mpr tx.logged_committed.reachable
  refine .bind (PreparedTransaction.ensures_activateJournal ?_)
  refine .bind (PreparedTransaction.ensures_writeRecords size ?_)
  refine .bind (PreparedTransaction.ensures_verifyActive size safe ?_)
  refine .bind (ensures_verifyIdentity safe ?_)
  refine (PreparedTransaction.ensures_finishSingleBlock size ?_ ?_ known).mono
    fun _ _ ended => ⟨tx, commit, ended⟩
  · rw [homes]
    rfl
  intro written member
  rw [homes] at member
  rw [List.mem_singleton.mp member]
  exact admissible.1

end SlopOS.Filesystem
