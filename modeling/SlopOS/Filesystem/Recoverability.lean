import SlopOS.Filesystem.SingleBlock

/-!
# Recoverability after a crash

When an uninterrupted mount of a crashed disk returns.  It does on a disk with an empty
journal, and on one whose journal is active with its delimiting records and its data
records in place.  The journal is made active before the records are written, so a crash
in between leaves a disk that no mount accepts.
-/

namespace SlopOS.Filesystem

open ByteCodec CrashDisk Ext4 List PreparedTransaction State
open Program (run_bind_of_ok run_seq run_require run_expect run_expectSome ensures_require)

/-! ## Runs of the replay -/

variable {journal : JournalProbe} {index : Nat}

theorem run_decodeHomes {superblock : Superblock} {journalEnd : Nat}
    {descriptor : JournalDescriptorBlock} {s : State Block} (encoded : List EncodedHome)
    {data : List Block} {seen : List Nat} (same : encoded.length = data.length)
    (tags : ∀ i e, encoded[i]? = some e → descriptor.tag (index + i) = .ok ⟨e.target, e.escaped⟩)
    (distinct : (encoded.map (·.target.toNat)).Nodup)
    (safe : ∀ e ∈ encoded, targetUnsafe superblock journal journalEnd seen e.target.toNat = false) :
    (decodeHomes superblock journal journalEnd descriptor index seen data).run s =
      .ok (zipWith (fun e d => ⟨e.target.toNat, d.decoded e.escaped, e.escaped⟩) encoded data,
        s) := by
  induction data generalizing encoded index seen with
  | nil =>
    rw [length_eq_zero_iff.mp same]
    rfl
  | cons d rest ih =>
    cases encoded with
    | nil => cases same
    | cons e others =>
      rw [map_cons, nodup_cons] at distinct
      have tag : descriptor.tag index = .ok ⟨e.target, e.escaped⟩ := tags 0 e rfl
      have decoded : d.decodeData ⟨e.target, e.escaped⟩ = .ok (d.decoded e.escaped) :=
        Block.decodeData_eq _ _
      have later : ∀ e' ∈ others, targetUnsafe superblock journal journalEnd
          (e.target.toNat :: seen) e'.target.toNat = false := by
        intro e' member
        have alone := of_decide_eq_false (safe e' (mem_cons_of_mem _ member))
        refine decide_eq_false fun refused => ?_
        rcases refused with outside | inside | named
        · exact alone (.inl outside)
        · exact alone (.inr (.inl inside))
        · rcases mem_cons.mp named with same | old
          · exact distinct.1 (same ▸ mem_map_of_mem member)
          · exact alone (.inr (.inr old))
      unfold decodeHomes
      rw [run_bind_of_ok (run_expect tag), run_bind_of_ok (run_require
          (decide_eq_true (safe e mem_cons_self))),
        run_bind_of_ok (run_expect decoded),
        run_bind_of_ok (ih others (Nat.succ.inj same)
          (fun i e' found => by rw [Nat.add_right_comm]; exact tags (i + 1) e' found)
          distinct.2 later)]
      rfl

theorem Encodes.targets {encoded : List EncodedHome} {homes : List (Nat × Block)}
    (encodes : Encodes encoded homes) : encoded.map (·.target.toNat) = homes.map (·.1) := by
  induction encodes with
  | nil => rfl
  | cons first rest ih => rw [map_cons, map_cons, first.1, ih]

namespace PreparedTransaction

variable {tx : PreparedTransaction} {c : Disk Block} {device : BlockDevice} {mount : Ext4Mount}
  {superblock : Superblock} {limit block : Nat} {e : EncodedHome} {filesystemBlock : Block}

/-- The device holds every block of the transaction and of the journal. -/
structure Fits (tx : PreparedTransaction) (device : BlockDevice) (limit : Nat) : Prop extends
    device.Fits limit where
  journalEnd : tx.journal.physicalBlock + tx.journal.superblock.maxLength.toNat ≤ limit
  targets : ∀ home ∈ tx.plan.homes, home.1 < limit

section

variable (fits : tx.Fits device limit)
include fits

theorem Fits.record (record : block ∈ recordBlocks tx.plan.descriptorBlock tx.plan.homes.length) :
    block < limit :=
  lt_of_lt_of_le (tx.inJournal_of_record record).2 fits.journalEnd

theorem Fits.journalBlock : tx.journal.physicalBlock < limit :=
  lt_of_lt_of_le tx.inJournal_journal.2 fits.journalEnd

theorem Fits.zero : 0 < limit :=
  lt_of_le_of_lt (Nat.zero_le _) fits.journalBlock

/-- Blocks below the limit have 64-bit numbers. -/
theorem Fits.small (below : block ≤ limit) : block < 2 ^ 64 :=
  lt_of_le_of_lt (le_trans below (Nat.le_mul_of_pos_right _ (by decide))) fits.bytes

end

/-- The mount may write the targets. -/
def Accepts (tx : PreparedTransaction) (superblock : Superblock) : Prop :=
  superblock.uuid = tx.superblock.uuid ∧
    ∀ home ∈ tx.plan.homes, home.1 < superblock.blockCount.toNat

theorem encoded_targets (tx : PreparedTransaction) :
    tx.encoded.map (·.target.toNat) = tx.plan.homes.map (·.1) := tx.encodes.targets

theorem target_safe (accepts : tx.Accepts superblock) (member : e ∈ tx.encoded) :
    targetUnsafe superblock tx.activeProbe
      (tx.journal.physicalBlock + tx.journal.superblock.maxLength.toNat) [] e.target.toNat =
        false := by
  have target : e.target.toNat ∈ tx.plan.homes.map (·.1) := by
    rw [← tx.encoded_targets]
    exact mem_map_of_mem member
  obtain ⟨home, inside, same⟩ := mem_map.mp target
  refine decide_eq_false fun refused => ?_
  rw [← same] at refused
  rcases refused with outside | inJournal | named
  · exact absurd (accepts.2 home inside) (not_lt.mpr outside)
  · exact tx.outside home inside inJournal
  · cases named

/-- The scan of a logged transaction returns when the record of block 0, if there is one,
still is a superblock. -/
theorem run_scanTransaction (size : mount.superblock.blockSize = 4096#32)
    (fits : tx.Fits device limit) (accepts : tx.Accepts mount.superblock) (logged : tx.Logged c)
    (active : (superblockHome (tx.replayPlan c).homes).all superblockActive = true) :
    (scanTransaction device mount tx.activeProbe).run (settled c) =
      .ok (tx.replayPlan c, settled c) := by
  have place : tx.activeProbe.physicalBlock + tx.activeProbe.superblock.start.toNat =
      tx.plan.descriptorBlock := tx.descriptorBlock.symm
  have commitPlace : tx.plan.descriptorBlock + (1 + tx.encoded.length) = tx.plan.commitBlock := by
    rw [tx.commitBlock, tx.encoded_length]
  have descriptorBelow := fits.record tx.descriptor_mem_records
  have commitBelow := fits.record tx.commit_mem_records
  have commitSmall : tx.plan.descriptorBlock + (1 + tx.encoded.length) ≤ limit := by omega
  have dirty : Superblock.parse (c 0).superblock = .error .dirtyFilesystem := logged.flagged.dirty
  have journal : JournalSuperblock.parse (c tx.journal.physicalBlock).bytes =
      .ok tx.activeSuperblock := by
    rw [logged.journal]
    exact tx.parse_active
  have descriptor : JournalDescriptorBlock.parse (c tx.plan.descriptorBlock).bytes =
      .ok ⟨tx.plan.descriptor.bytes, tx.sequence, tx.superblock.uuid, tx.encoded.length⟩ := by
    rw [logged.descriptor]
    exact tx.descriptor
  have commit : JournalCommit.parse (c tx.plan.commitBlock).bytes = .ok ⟨tx.sequence⟩ := by
    rw [logged.commit]
    exact tx.commit
  have counted := tx.count
  rw [← tx.encoded_length] at counted
  have identity : tx.sequence = tx.activeSuperblock.sequence ∧
      tx.superblock.uuid = mount.superblock.uuid ∧ tx.encoded.length ≠ 0 ∧
      tx.encoded.length ≤ MULTI_TRANSACTION_MAX_BLOCKS :=
    ⟨rfl, accepts.1.symm, counted.1, counted.2⟩
  have dataBelow : ∀ block ∈ (range tx.encoded.length).map
      (tx.plan.descriptorBlock + 1 + ·), block < limit := by
    intro block member
    obtain ⟨index, bound, rfl⟩ := mem_map.mp member
    rw [mem_range] at bound
    omega
  refine run_seq (run_checkedAdd (fits.small (by rw [place]; omega))) ?_
  rw [place]
  refine run_seq (run_checkedAdd (fits.small fits.journalEnd)) ?_
  refine run_seq (run_blockToSector size fits.toFits fits.zero) ?_
  refine run_seq (run_blockToSector size fits.toFits fits.journalBlock) ?_
  refine run_seq (run_read fits.toFits fits.zero) ?_
  refine run_seq (run_require (decide_eq_true dirty)) ?_
  refine run_seq (run_read fits.toFits fits.journalBlock) ?_
  refine run_seq (run_require (decide_eq_true journal)) ?_
  refine run_seq (run_readBlock size fits.toFits descriptorBelow) ?_
  refine run_seq (run_expect descriptor) ?_
  refine run_seq (run_require (decide_eq_true identity)) ?_
  refine run_seq (run_checkedAdd (fits.small commitSmall)) ?_
  rw [commitPlace]
  refine run_seq (run_require (decide_eq_true tx.inside)) ?_
  refine run_seq (run_readBlocks size fits.toFits dataBelow) ?_
  refine run_seq (run_readBlock size fits.toFits commitBelow) ?_
  refine run_seq (run_expect commit) ?_
  refine run_seq (run_require (decide_eq_true rfl)) ?_
  have decoded : (decodeHomes mount.superblock tx.activeProbe
      (tx.activeProbe.physicalBlock + tx.activeProbe.superblock.maxLength.toNat)
      ⟨tx.plan.descriptor.bytes, tx.sequence, tx.superblock.uuid, tx.encoded.length⟩ 0 []
      (((range tx.encoded.length).map (tx.plan.descriptorBlock + 1 + ·)).map c)).run
        (settled c) = .ok (tx.replayed c, settled c) := by
    rw [map_map]
    refine run_decodeHomes tx.encoded ?_ ?_ ?_ fun e member => target_safe accepts member
    · rw [length_map, length_range]
    · intro index e found
      rw [Nat.zero_add]
      exact tx.tags index e found
    · rw [tx.encoded_targets]
      exact tx.distinct
  refine run_seq decoded ?_
  exact run_bind_of_ok (run_require active)

theorem exists_checkpoint (small : tx.sequence.toNat + 1 < 2 ^ 32) :
    ∃ checkpointed, tx.active.setJournalState (tx.sequence + 1#32) 0#32 = .ok checkpointed := by
  have nonzero : tx.sequence + 1#32 ≠ 0#32 := by
    intro zero
    have value := congrArg BitVec.toNat zero
    rw [BitVec.toNat_add] at value
    have one : (1#32).toNat = 1 := by decide
    have none : (0#32).toNat = 0 := by decide
    omega
  exact Block.setJournalState_of_parse tx.parse_active nonzero (startOutside_zero _ _)

theorem run_nextSequence {s : State Block} {message : String}
    (small : tx.sequence.toNat + 1 < 2 ^ 32) :
    (nextSequence tx.sequence message).run s = .ok (tx.sequence + 1#32, s) :=
  run_expectSome (if_pos small)

theorem run_installHomes (size : superblock.blockSize = 4096#32) (fits : tx.Fits device limit)
    (mismatch : String) (c : Disk Block) :
    (installHomes device superblock tx.plan.homes mismatch).run (settled c) =
      .ok ((), settled (apply c tx.plan.homes)) := by
  refine run_seq (run_writeBlocks size fits.toFits fits.targets) ?_
  refine run_seq (run_flush fits.toFits) ?_
  refine run_verifyBlocks size fits.toFits fun home member => ⟨fits.targets home member, ?_⟩
  show apply c tx.plan.homes home.1 = home.2
  exact apply_of_mem tx.distinct member

/-- Retiring a transaction on a disk that holds it returns. -/
theorem run_retireTransaction (size : superblock.blockSize = 4096#32) (fits : tx.Fits device limit)
    (messages : RetireMessages) (c : Disk Block) (small : tx.sequence.toNat + 1 < 2 ^ 32)
    (filesystem : (superblockHome tx.plan.homes).getD filesystemBlock = tx.flaggedHome) :
    ∃ checkpointed cleared d,
      tx.active.setJournalState (tx.sequence + 1#32) 0#32 = .ok checkpointed ∧
      tx.flaggedHome.setRecovery false = .ok cleared ∧
      d tx.journal.physicalBlock = checkpointed ∧ d 0 = cleared ∧
      (retireTransaction device superblock (0 * 8) (tx.journal.physicalBlock * 8)
        tx.plan.descriptorBlock filesystemBlock tx.active tx.plan.homes tx.sequence messages).run
        (settled c) = .ok ((tx.sequence + 1#32, checkpointed, cleared), settled d) := by
  obtain ⟨checkpointed, checkpoint⟩ := exists_checkpoint small
  obtain ⟨contents, flagged⟩ := tx.flaggedHome_flagged
  obtain ⟨cleared, unflagged⟩ := Block.setRecovery_of_flagged flagged false
  have positive := tx.positive
  refine ⟨checkpointed, cleared, Function.update (apply (apply c tx.plan.homes)
    (tx.clearing checkpointed)) 0 cleared, checkpoint, unflagged, ?_, Function.update_self _ _ _, ?_⟩
  · rw [Function.update_of_ne (by omega), clearing, apply_append]
    exact Function.update_self _ _ _
  have cleared' : (checkpointRecords device superblock
      (recordBlocks tx.plan.descriptorBlock tx.plan.homes.length) (tx.journal.physicalBlock * 8)
      checkpointed).run (settled (apply c tx.plan.homes)) =
        .ok ((), settled (apply (apply c tx.plan.homes) (tx.clearing checkpointed))) := by
    refine run_seq (run_writeBlocks size fits.toFits fun write member => ?_) ?_
    · obtain ⟨block, inside, rfl⟩ := mem_map.mp member
      exact fits.record inside
    refine run_seq (run_write fits.toFits fits.journalBlock) ?_
    exact run_flush fits.toFits
  unfold retireTransaction
  rw [filesystem]
  refine run_seq (run_installHomes size fits _ c) ?_
  refine run_seq (run_nextSequence small) ?_
  refine run_seq (run_expect checkpoint) ?_
  refine run_seq cleared' ?_
  refine run_seq (run_expect unflagged) ?_
  refine run_seq (run_write fits.toFits fits.zero) ?_
  exact run_bind_of_ok (run_flush fits.toFits)

theorem superblockActive_of_flagged {contents block : Block}
    (done : contents.setRecovery true = .ok block) : superblockActive block = true := by
  obtain ⟨dirty, sb, parsed⟩ := Block.flagged done
  refine decide_eq_true ⟨dirty, ?_⟩
  rw [parsed]
  rfl

section

variable (size : mount.superblock.blockSize = 4096#32) (fits : tx.Fits device limit)
include size fits

/-- A logged transaction with intact records is replayed to the end. -/
theorem returns_replayActive (accepts : tx.Accepts mount.superblock) (logged : tx.Logged c)
    (intact : tx.DataIntact c) (small : tx.sequence.toNat + 1 < 2 ^ 32) :
    (replayActiveJournal device mount tx.activeProbe).Returns (settled c) := by
  have homes : (tx.replayPlan c).homes = tx.plan.homes := replayed_of_intact intact
  have active : (superblockHome (tx.replayPlan c).homes).all superblockActive = true := by
    rw [homes]
    cases found : superblockHome tx.plan.homes with
    | none => rfl
    | some home =>
      obtain ⟨contents, done⟩ := tx.superblockFlagged _ (superblockHome_eq_some found) rfl
      exact superblockActive_of_flagged done
  obtain ⟨checkpointed, cleared, d, checkpoint, clearing, journal, zero, retired⟩ :=
    run_retireTransaction size fits replayMessages c small
      (flaggedHome_of_flagged logged.flagged)
  obtain ⟨j, -, -, -, parsed⟩ := Block.setJournalState_ok checkpoint
  obtain ⟨sb, clean⟩ := Block.cleared clearing
  rw [← journal] at parsed
  rw [← zero] at clean
  refine .bind (run_scanTransaction size fits accepts logged active) ?_
  rw [homes, show (tx.replayPlan c).journalBlock = tx.active from logged.journal]
  refine .bind retired ?_
  refine .bind (run_read fits.toFits fits.journalBlock) ?_
  refine .bind (run_expect parsed) ?_
  refine .bind (run_require (decide_eq_true ⟨journal, rfl, rfl⟩)) ?_
  refine .bind (run_read fits.toFits fits.zero) ?_
  refine .bind (run_expect clean) ?_
  refine .bind (run_require (decide_eq_true zero)) ?_
  exact ⟨_, _, rfl⟩

/-- The flag of a disk with an empty journal is cleared. -/
theorem returns_discard (flagged : tx.Flagged c) :
    (discardInactiveJournal device mount journal).Returns (settled c) := by
  have source : ∃ contents : Block, contents.setRecovery true = .ok (c 0) := by
    rcases flagged with same | same
    · rw [same]
      exact ⟨_, tx.flagged⟩
    · rw [same]
      exact tx.flaggedHome_flagged
  obtain ⟨contents, done⟩ := source
  obtain ⟨cleared, clearing⟩ := Block.setRecovery_of_flagged done false
  obtain ⟨sb, clean⟩ := Block.cleared clearing
  have readback : Function.update c 0 cleared 0 = cleared := Function.update_self _ _ _
  refine .bind (run_blockToSector size fits.toFits fits.zero) ?_
  refine .bind (run_read fits.toFits fits.zero) ?_
  refine .bind (run_expect clearing) ?_
  refine .bind (run_write fits.toFits fits.zero) ?_
  refine .bind (run_flush fits.toFits) ?_
  refine .bind (run_read fits.toFits fits.zero) ?_
  refine .bind (run_expect clean) ?_
  refine .bind (run_require (decide_eq_true readback)) ?_
  exact ⟨_, _, rfl⟩

end

/-! ## Replay of torn records -/

section Torn

variable {post : BitVec 32 × Block × Block → State Block → Prop} {home : Nat × Block}

theorem replayPlan_homes_get (c : Disk Block) (found : tx.encoded[index]? = some e) :
    (tx.replayPlan c).homes[index]? = some (e.target.toNat,
      (c (tx.plan.descriptorBlock + 1 + index)).decoded e.escaped) := by
  have bound := (List.getElem?_eq_some_iff.mp found).1
  show ((tx.replayed c).map _)[index]? = _
  unfold replayed
  rw [getElem?_map, getElem?_zipWith, found, getElem?_map, getElem?_range bound]
  rfl

section

variable (tx : PreparedTransaction) (c : Disk Block)

theorem replayPlan_targets : (tx.replayPlan c).homes.map (·.1) = tx.targets := by
  rw [targets, ← tx.encoded_targets]
  apply ext_getElem?
  intro index
  cases found : tx.encoded[index]? with
  | some e => rw [getElem?_map, getElem?_map, found, replayPlan_homes_get c found]; rfl
  | none =>
    have beyond := getElem?_eq_none_iff.mp found
    rw [getElem?_map, getElem?_map, found, getElem?_eq_none_iff.mpr]
    · rfl
    show ((tx.replayed c).map _).length ≤ index
    unfold replayed
    rw [length_map, length_zipWith, length_map, length_range, Nat.min_self]
    exact beyond

theorem replayPlan_distinct : ((tx.replayPlan c).homes.map (·.1)).Nodup := by
  rw [replayPlan_targets]
  exact tx.distinct

/-- The disk after a replay of whatever the data records hold. -/
def afterReplay (checkpointed cleared : Block) : Disk Block :=
  Function.update (Function.update (apply (apply c (tx.replayPlan c).homes)
    ((recordBlocks tx.plan.descriptorBlock tx.plan.homes.length).map (·, Block.zero)))
    tx.journal.physicalBlock checkpointed) 0 cleared

end

/-- The disk once a transaction is retired, whatever its homes are. -/
theorem ensures_retire_exact (size : superblock.blockSize = 4096#32) {homes : List (Nat × Block)}
    {journalBlock : Block} {sequence : BitVec 32} {messages : RetireMessages}
    {journalBlock' descriptorBlock : Nat}
    (next : ∀ checkpointed cleared, sequence.toNat + 1 < 2 ^ 32 →
      journalBlock.setJournalState (sequence + 1#32) 0#32 = .ok checkpointed →
      ((superblockHome homes).getD filesystemBlock).setRecovery false = .ok cleared →
      post (sequence + 1#32, checkpointed, cleared) (settled (Function.update
        (Function.update (apply (apply c homes)
          ((recordBlocks descriptorBlock homes.length).map (·, Block.zero)))
          journalBlock' checkpointed) 0 cleared))) :
    (retireTransaction device superblock (0 * 8) (journalBlock' * 8) descriptorBlock
      filesystemBlock journalBlock homes sequence messages).Ensures (fun _ => True) post
      (settled c) := by
  refine .bind (ensures_burst size (fun _ _ => trivial) ?_)
  refine ensures_verifyBlocks size (safe_true _) ?_
  refine .bind (ensures_nextSequence (safe_true _) fun small => ?_)
  refine .expect fun checkpointed done => ?_
  refine .bind (Program.Ensures.bind (ensures_writeBlocks size (safe_true _) ?_))
  refine .bind (ensures_write (safe_true _) ?_)
  refine ensures_flush (safe_true _) trivial ?_
  refine .expect fun cleared clearing => ?_
  rw [view_write]
  exact ensures_update trivial
    ⟨safe_true _, next checkpointed cleared small done clearing⟩

theorem replayPlan_length : (tx.replayPlan c).homes.length = tx.plan.homes.length := by
  have same := congrArg length (tx.replayPlan_targets c)
  rw [targets, length_map, length_map] at same
  exact same

theorem ensures_replay_exact (size : mount.superblock.blockSize = 4096#32) (logged : tx.Logged c) :
    (replayActiveJournal device mount tx.activeProbe).Ensures (fun _ => True)
      (fun r s => tx.sequence.toNat + 1 < 2 ^ 32 ∧
        (superblockHome (tx.replayPlan c).homes).all superblockActive = true ∧
        ∃ checkpointed cleared,
          tx.active.setJournalState (tx.sequence + 1#32) 0#32 = .ok checkpointed ∧
          Superblock.parse cleared.superblock = .ok r.2.superblock ∧
          s = settled (tx.afterReplay c checkpointed cleared)) (settled c) := by
  refine .bind (ensures_scanTransaction size trivial (.inl logged.descriptor) fun _ _ active => ?_)
  rw [show (tx.replayPlan c).journalBlock = tx.active from logged.journal]
  refine .bind (ensures_retire_exact size fun checkpointed cleared small done _ => ?_)
  rw [replayPlan_length]
  refine .reading ?_
  refine .expect fun _ _ => ?_
  refine .require fun _ => ?_
  refine .reading ?_
  refine .expect fun sb clean => ?_
  exact .bind (ensures_require fun _ =>
    ⟨safe_true _, small, active, checkpointed, cleared, done, clean, rfl⟩)

/-- The targets are outside the journal. -/
theorem replayPlan_outside (member : home ∈ (tx.replayPlan c).homes) : ¬ tx.InJournal home.1 := by
  have target : home.1 ∈ tx.targets := by
    rw [← tx.replayPlan_targets c]
    exact mem_map_of_mem member
  obtain ⟨written, inside, same⟩ := mem_map.mp target
  have outside := tx.not_inJournal_of_home inside
  rwa [same] at outside

theorem afterReplay_home {checkpointed cleared : Block} (member : home ∈ (tx.replayPlan c).homes)
    (nonzero : home.1 ≠ 0) : tx.afterReplay c checkpointed cleared home.1 = home.2 := by
  have outside := replayPlan_outside member
  have notJournal : home.1 ≠ tx.journal.physicalBlock := fun same =>
    outside (same ▸ tx.inJournal_journal)
  rw [afterReplay, Function.update_of_ne nonzero, Function.update_of_ne notJournal,
    apply_fill_other fun record => outside (tx.inJournal_of_record record),
    apply_of_mem (tx.replayPlan_distinct c) member]

end Torn

/-- If every home is new after the replay, every record was intact. -/
theorem dataIntact_of_replayed (logged : tx.Logged c) {d : Disk Block}
    (active : (superblockHome (tx.replayPlan c).homes).all superblockActive = true)
    (installed : ∀ home ∈ (tx.replayPlan c).homes, home.1 ≠ 0 → d home.1 = home.2)
    (new : ∀ home ∈ tx.plan.homes, home.1 ≠ 0 → d home.1 = home.2) : tx.DataIntact c := by
  intro record member
  rcases logged.data record member with same | cleared
  · exact same
  obtain ⟨index, found, place⟩ := tx.mem_dataRecords.mp member
  rw [tx.data, getElem?_map, Option.map_eq_some_iff] at found
  obtain ⟨e, found, data⟩ := found
  have bound := (List.getElem?_eq_some_iff.mp found).1
  have bound' : index < tx.plan.homes.length := tx.encoded_length ▸ bound
  have encodes := (forall₂_iff_get.mp tx.encodes).2 index bound bound'
  rw [get_eq_getElem, (List.getElem?_eq_some_iff.mp found).2] at encodes
  have replayed := replayPlan_homes_get c found
  rw [← place, cleared] at replayed
  have replayedMem := mem_of_getElem? replayed
  rw [cleared, ← data]
  have homeMem : tx.plan.homes.get ⟨index, bound'⟩ ∈ tx.plan.homes := get_mem _ _
  by_cases zero : e.target.toNat = 0
  · -- A cleared record of block 0 is refused by the scan.
    cases home : superblockHome (tx.replayPlan c).homes with
    | none => exact absurd zero (superblockHome_eq_none home replayedMem)
    | some block =>
      have same : Block.zero.decoded e.escaped = block := congrArg Prod.snd
        (inj_on_of_nodup_map (tx.replayPlan_distinct c) replayedMem (superblockHome_eq_some home) zero)
      rw [home, ← same] at active
      have parsed := (of_decide_eq_true (show superblockActive _ = true from active)).1
      rw [show Superblock.parse _ = _ from parse_zero_decoded e.escaped false] at parsed
      cases parsed
  · have old := installed _ replayedMem zero
    have now := new _ homeMem (by rw [← encodes.1]; exact zero)
    rw [← encodes.1] at now
    exact (Block.eq_zero_of_decoded encodes.2 (old.symm.trans now)).symm

end PreparedTransaction

/-! ## Commit calls -/

/-- A call of one of the two commit paths. -/
inductive CommitCall
  | multi (homes : List (Nat × Block))
  | single (target : Nat) (home : Block)

variable {mount : Ext4Mount}

namespace CommitCall

def homes : CommitCall → List (Nat × Block)
  | .multi homes => homes
  | .single target home => [(target, home)]

def program (call : CommitCall) (mount : Ext4Mount) (device : BlockDevice) (journal : JournalProbe)
    (sequence : BitVec 32) : Io (BitVec 32 × Ext4Mount) :=
  match call with
  | .multi homes => mount.commitMultiBlockJournalTransaction device journal sequence homes
  | .single target home =>
      mount.commitSingleBlockJournalTransaction device journal sequence target home

/-- The record blocks of the call are empty, a single target is neither block 0 nor in
the journal, and the device holds all blocks the call may write. -/
structure Admissible (call : CommitCall) (device : BlockDevice) (journal : JournalProbe)
    (disk : Disk Block) (limit : Nat) : Prop where
  single : ∀ target home, call = .single target home → SingleTarget journal target
  empty : ∀ block ∈ recordBlocks
    (journal.physicalBlock + journal.superblock.firstLogBlock.toNat) call.homes.length,
    disk block = Block.zero
  fits : device.Fits limit
  journalEnd : journal.physicalBlock + journal.superblock.maxLength.toNat ≤ limit
  targets : ∀ home ∈ call.homes, home.1 < limit

/-- A call that is cut leaves the disk as it was or one of its transaction's disks; one that
returns has ended its transaction. -/
theorem ensures {call : CommitCall} {device : BlockDevice} {sequence : BitVec 32}
    {disk : Disk Block} (clean : CleanDisk mount journal sequence disk)
    (single : ∀ target home, call = .single target home → SingleTarget journal target) :
    (call.program mount device journal sequence).Ensures
      (fun c => c = disk ∨ ∃ tx, CommitOf mount journal sequence disk call.homes tx ∧
        tx.Reachable c)
      (fun result s => ∃ tx, CommitOf mount journal sequence disk call.homes tx ∧
        tx.Ended result s) (settled disk) := by
  cases call with
  | multi homes => exact ensures_commitMultiBlock clean
  | single target home => exact ensures_commitSingleBlock clean (single target home rfl)

end CommitCall

/-! ## When a mount recovers -/

section Recovers

variable {call : CommitCall} {device : BlockDevice} {sequence : BitVec 32} {disk c : Disk Block}
  {limit : Nat}

section

variable (journal : JournalProbe) (sequence : BitVec 32) (homes : List (Nat × Block))
  (c : Disk Block)

/-- The commit record is on the disk, or the journal has moved past the transaction. -/
def Committed : Prop :=
  c (journal.physicalBlock + journal.superblock.firstLogBlock.toNat + (1 + homes.length)) ≠
      Block.zero ∨
    ∃ j, JournalSuperblock.parse (c journal.physicalBlock).bytes = .ok j ∧ j.sequence ≠ sequence

/-- The journal is empty, or its delimiting records and its data records are all there. -/
def Recoverable : Prop :=
  let descriptorBlock := journal.physicalBlock + journal.superblock.firstLogBlock.toNat
  (∃ j, JournalSuperblock.parse (c journal.physicalBlock).bytes = .ok j ∧ j.start = 0#32) ∨
    (c descriptorBlock ≠ Block.zero ∧ c (descriptorBlock + (1 + homes.length)) ≠ Block.zero ∧
      RecordsIntact journal homes c ∧ sequence.toNat + 1 < 2 ^ 32)

end

/-- An uninterrupted mount returns with a clean superblock; a committed transaction is
replayed and any other is discarded. -/
def Recovers (device : BlockDevice) (journal : JournalProbe) (sequence : BitVec 32)
    (homes : List (Nat × Block)) (disk c : Disk Block) : Prop :=
  ∃ mount s, (Ext4Mount.mount device).run (State.settled c) = .ok (mount, s) ∧
    (∃ sb, Superblock.parse (s.view 0).superblock = .ok sb) ∧
    (Committed journal sequence homes c → ∀ home ∈ homes, HoldsContents s.view home) ∧
    (¬ Committed journal sequence homes c → s.view = disk)

/-- The mount opens the disk and, when it has to recover, finds the journal in its place
on the same filesystem. -/
def Reopens (device : BlockDevice) (superblock : Superblock) (journal : JournalProbe)
    (homes : List (Nat × Block)) (c : Disk Block) : Prop :=
  ∃ mount required,
    (openMount device).run (State.settled c) = .ok ((mount, required), State.settled c) ∧
    (required = true → ∃ found mount',
      (mount.probeJournal device).run (State.settled c) = .ok ((found, mount'), State.settled c) ∧
      found.physicalBlock = journal.physicalBlock ∧
      mount'.superblock.uuid = superblock.uuid ∧
      ∀ home ∈ homes, home.1 < mount'.superblock.blockCount.toNat)

theorem Reopens.locates (reopens : Reopens device mount.superblock journal call.homes c) :
    Locates device journal.physicalBlock c := by
  obtain ⟨mount₀, required, opened, probed⟩ := reopens
  intro mount₁ s found mount₂ s' opened' probed'
  rw [opened] at opened'
  cases opened'
  obtain ⟨found', mount', ran, place, -⟩ := probed rfl
  rw [ran] at probed'
  cases probed'
  exact place

/-- What the opening of the disk has read. -/
theorem openMount_spec {required : Bool}
    (opened : (openMount device).run (settled c) = .ok ((mount, required), settled c)) :
    mount.superblock.blockSize = 4096#32 ∧ mount.cache.Consistent c ∧
      (required = true → Superblock.parse (c 0).superblock = .error .dirtyFilesystem) ∧
      (required = false → Superblock.parse (c 0).superblock = .ok mount.superblock) := by
  have ensures : (openMount device).Ensures (fun _ => True)
      (fun r s => r.1.superblock.blockSize = 4096#32 ∧ r.1.cache.Consistent s.view ∧
        (r.2 = true → Superblock.parse (s.view 0).superblock = .error .dirtyFilesystem) ∧
        (r.2 = false → Superblock.parse (s.view 0).superblock = .ok r.1.superblock))
      (settled c) :=
    ensures_openMount (safe_true _) fun mount required size consistent dirty
      clean => ⟨size, consistent, dirty, clean⟩
  exact ensures.returns opened

theorem probeJournal_spec {mount' : Ext4Mount} {found : JournalProbe}
    (size : mount.superblock.blockSize = 4096#32) (consistent : mount.cache.Consistent c)
    (probed : (mount.probeJournal device).run (settled c) =
      .ok ((found, mount'), settled c)) : mount'.superblock = mount.superblock ∧
      JournalSuperblock.parse (c found.physicalBlock).bytes = .ok found.superblock := by
  have ensures : (mount.probeJournal device).Ensures (fun _ => True)
      (fun r s => r.2.superblock = mount.superblock ∧
        JournalSuperblock.parse (s.view r.1.physicalBlock).bytes = .ok r.1.superblock)
      (settled c) :=
    ensures_probeJournal size (safe_true _) consistent
      fun journal cache _ parsed => ⟨rfl, parsed⟩
  exact ensures.returns probed

/-- A mount that has to recover does what the replay of the journal it found does. -/
theorem mount_run_recover {mount' : Ext4Mount} {found : JournalProbe}
    (opened : (openMount device).run (settled c) = .ok ((mount, true), settled c))
    (probed : (mount.probeJournal device).run (settled c) =
      .ok ((found, mount'), settled c)) : (Ext4Mount.mount device).run (settled c) =
      ((mount'.replayJournalTransaction device found).run (settled c)).bind fun r =>
        .ok ({ r.1.2 with recovery := some r.1.1 }, r.2) := by
  unfold Ext4Mount.mount
  rw [run_bind_of_ok opened]
  show (mount.recover device).run (settled c) = _
  unfold Ext4Mount.recover
  rw [run_bind_of_ok probed]
  exact Program.run_bind _ _ _

namespace CommitOf

variable {homes : List (Nat × Block)} {tx : PreparedTransaction}
  (commit : CommitOf mount journal sequence disk homes tx)

include commit

theorem descriptorBlock : tx.plan.descriptorBlock =
    journal.physicalBlock + journal.superblock.firstLogBlock.toNat := by
  rw [tx.descriptorBlock, commit.journal]

theorem commitBlock : tx.plan.commitBlock =
    journal.physicalBlock + journal.superblock.firstLogBlock.toNat + (1 + homes.length) := by
  rw [tx.commitBlock, commit.descriptorBlock, commit.activates.length_eq]

theorem accepts {superblock : Superblock} (uuid : superblock.uuid = mount.superblock.uuid)
    (below : ∀ home ∈ homes, home.1 < superblock.blockCount.toNat) : tx.Accepts superblock := by
  refine ⟨by rw [uuid, commit.superblock], fun home member => ?_⟩
  have target : home.1 ∈ homes.map (·.1) := by
    rw [← commit.activates.targets]
    exact mem_map_of_mem member
  obtain ⟨home', inside, same⟩ := mem_map.mp target
  rw [← same]
  exact below home' inside

/-- Intact records as the caller sees them. -/
theorem recordsIntact (intact : tx.DataIntact c) : RecordsIntact journal homes c := by
  intro _ _ _ index target contents written data escaped found activated encoded
  have bound := (List.getElem?_eq_some_iff.mp found).1
  have length : tx.plan.homes.length = homes.length := commit.activates.length_eq
  have bound' : index < tx.plan.homes.length := by omega
  have bound'' : index < tx.encoded.length := by rw [tx.encoded_length]; exact bound'
  have active := (forall₂_iff_get.mp commit.activates).2 index bound' bound
  have encodes := (forall₂_iff_get.mp tx.encodes).2 index bound'' bound'
  have here : homes.get ⟨index, bound⟩ = (target, contents) :=
    (List.getElem?_eq_some_iff.mp found).2
  rw [here] at active
  have same : (tx.plan.homes.get ⟨index, bound'⟩).2 = written := by
    have contents := active.2
    unfold HomeContents at contents activated
    split at contents
    · next zero =>
      rw [if_pos zero, contents] at activated
      exact Except.ok.inj activated
    · next nonzero =>
      rw [if_neg nonzero] at activated
      rw [contents, activated]
  rw [same, encoded] at encodes
  have data' : data = tx.encoded[index].data := congrArg Prod.fst (Except.ok.inj encodes.2)
  rw [data', ← commit.descriptorBlock]
  refine intact (_, _) (tx.mem_dataRecords.mpr ⟨index, ?_, rfl⟩)
  rw [tx.data, getElem?_map, getElem?_eq_getElem bound'']
  rfl

theorem committed_of_logged (logged : tx.Logged c) : Committed journal sequence homes c := by
  left
  rw [← commit.commitBlock, logged.commit]
  intro zero
  have parsed := tx.commit
  rw [zero, commit_zero] at parsed
  cases parsed

theorem committed_of_done (done : tx.Done c) : Committed journal sequence homes c := by
  right
  obtain ⟨j, -, -, -, parsed⟩ := Block.setJournalState_ok done.journal
  rw [commit.journal] at parsed
  refine ⟨_, parsed, fun same => ?_⟩
  rw [← commit.sequence] at same
  have changed : tx.sequence + 1#32 = tx.sequence := same
  exact absurd (BitVec.self_eq_add_right.mp changed.symm) (by decide)

theorem not_committed_of_old (old : tx.Old c) : ¬ Committed journal sequence homes c := by
  have positive := tx.positive
  rintro (present | ⟨j, parsed, moved⟩)
  · rw [← commit.commitBlock] at present
    have inside := tx.inJournal_of_record tx.commit_mem_records
    have nonzero : tx.plan.commitBlock ≠ 0 := fun zero =>
      tx.not_inJournal_zero (zero ▸ inside)
    rw [old.2 _ nonzero, tx.empty _ tx.commit_mem_records] at present
    exact present rfl
  · rw [← commit.journal, old.2 _ (by omega), tx.geometry] at parsed
    cases parsed
    exact moved commit.sequence

section

variable (reopens : Reopens device mount.superblock journal homes c)
include reopens

/-- A mount of a flagged disk with an active journal replays the transaction. -/
theorem mount_replays (dirty : Superblock.parse (c 0).superblock = .error .dirtyFilesystem)
    (active : c tx.journal.physicalBlock = tx.active) {result : Ext4Mount} {s : State Block}
    (ran : (Ext4Mount.mount device).run (settled c) = .ok (result, s)) : ∃ mount' r,
      mount'.superblock.blockSize = 4096#32 ∧
      (replayActiveJournal device mount' tx.activeProbe).run (settled c) = .ok (r, s) := by
  obtain ⟨mount₀, required, opened, probed⟩ := reopens
  obtain ⟨size, consistent, -, clean⟩ := openMount_spec opened
  cases required with
  | false =>
    have clean := clean rfl
    rw [dirty] at clean
    cases clean
  | true =>
    obtain ⟨found, mount', ran', place, -, -⟩ := probed rfl
    obtain ⟨same, parsed⟩ := probeJournal_spec size consistent ran'
    obtain ⟨physicalBlock, superblock⟩ := found
    rw [← commit.journal] at place
    cases place
    dsimp only at parsed
    rw [active, tx.parse_active] at parsed
    cases parsed
    rw [mount_run_recover opened ran'] at ran
    obtain ⟨r, replayed, done⟩ := Except.bind_ok ran
    cases done
    unfold Ext4Mount.replayJournalTransaction at replayed
    rw [if_neg activeSuperblock_start] at replayed
    exact ⟨mount', r.1, by rw [same]; exact size, replayed⟩

theorem not_returns_stalled (stalled : tx.Stalled c) :
    ¬ (Ext4Mount.mount device).Returns (settled c) := by
  rintro ⟨result, s, ran⟩
  obtain ⟨mount', r, size, replayed⟩ :=
    commit.mount_replays reopens stalled.flagged.dirty stalled.journal ran
  have never : (replayActiveJournal device mount' tx.activeProbe).Ensures tx.Reachable
      (fun _ _ => False) (settled c) := ensures_replay_stalled size stalled
  exact never.returns replayed

/-- A logged transaction that is recovered had its records intact. -/
theorem intact_of_recovers (logged : tx.Logged c)
    (recovers : Recovers device journal sequence homes disk c) :
    tx.DataIntact c ∧ tx.sequence.toNat + 1 < 2 ^ 32 := by
  obtain ⟨result, s, ran, -, replays, -⟩ := recovers
  have new := replays (commit.committed_of_logged logged)
  obtain ⟨mount', r, size, replayed⟩ :=
    commit.mount_replays reopens logged.flagged.dirty logged.journal ran
  obtain ⟨small, active, checkpointed, cleared, -, -, rfl⟩ :=
    (ensures_replay_exact size logged).returns replayed
  refine ⟨dataIntact_of_replayed (d := tx.afterReplay c checkpointed cleared) logged active
    (fun _ => afterReplay_home) ?_, small⟩
  intro written member nonzero
  obtain ⟨home, inside, target, contents⟩ := commit.activates.exists_home member
  have held := new home inside
  rw [target] at nonzero
  rw [HomeContents, if_neg nonzero] at contents
  rw [HoldsContents, if_neg nonzero] at held
  rw [target, contents]
  exact held

/-- A mount of a reachable disk returns unless its records are missing or torn. -/
theorem returns_mount (fits : tx.Fits device limit) (reachable : tx.Reachable c)
    (present : ¬ tx.Stalled c)
    (intact : tx.Logged c → tx.DataIntact c ∧ tx.sequence.toNat + 1 < 2 ^ 32) :
    (Ext4Mount.mount device).Returns (settled c) := by
  obtain ⟨mount₀, required, opened, probed⟩ := reopens
  obtain ⟨size, consistent, dirty, -⟩ := openMount_spec opened
  refine .bind opened ?_
  cases required with
  | false => exact ⟨_, _, rfl⟩
  | true =>
    obtain ⟨found, mount', ran, place, uuid, below⟩ := probed rfl
    obtain ⟨same, parsed⟩ := probeJournal_spec size consistent ran
    obtain ⟨physicalBlock, superblock⟩ := found
    rw [← commit.journal] at place
    cases place
    dsimp only at parsed
    have size' : mount'.superblock.blockSize = 4096#32 := by rw [same]; exact size
    have replays : (mount'.replayJournalTransaction device ⟨tx.journal.physicalBlock,
        superblock⟩).Returns (settled c) := by
      unfold Ext4Mount.replayJournalTransaction
      rcases reachable.journal_of_dirty (dirty rfl) parsed with ⟨empty, class_⟩ | ⟨active, class_⟩
      · rw [if_pos empty]
        refine returns_discard size' fits ?_
        rcases class_ with ⟨-, flagged⟩ | ⟨-, flagged⟩
        · exact .inl flagged
        · exact .inr flagged
      · rw [if_neg (by rw [active]; exact activeSuperblock_start), active]
        rcases class_ with stalled | logged
        · exact absurd stalled present
        · exact returns_replayActive size' fits (commit.accepts uuid below)
            logged (intact logged).1 (intact logged).2
    obtain ⟨result, s, replayed⟩ := replays
    exact .bind ran (Program.Returns.bind replayed ⟨_, _, rfl⟩)

end

theorem fits (admissible : call.Admissible device journal disk limit)
    (same : homes = call.homes) : tx.Fits device limit := by
  refine ⟨admissible.fits, by rw [commit.journal]; exact admissible.journalEnd,
    fun written member => ?_⟩
  obtain ⟨home, inside, target, -⟩ := commit.activates.exists_home member
  rw [target]
  exact admissible.targets home (same ▸ inside)

theorem start_of_active (active : c tx.journal.physicalBlock = tx.active) {j : JournalSuperblock}
    (parsed : JournalSuperblock.parse (c journal.physicalBlock).bytes = .ok j) :
    j.start ≠ 0#32 := by
  rw [← commit.journal, active, tx.parse_active] at parsed
  cases parsed
  exact activeSuperblock_start

/-- Once a transaction was prepared, the mount recovers exactly the recoverable disks. -/
theorem recovers_iff (clean : CleanDisk mount journal sequence disk)
    (reopens : Reopens device mount.superblock journal homes c) (fits : tx.Fits device limit)
    (located : Locates device journal.physicalBlock c) (reachable : tx.Reachable c) :
    Recovers device journal sequence homes disk c ↔ Recoverable journal sequence homes c := by
  have located' : Locates device tx.journal.physicalBlock c := by
    rw [commit.journal]
    exact located
  constructor
  · intro recovers
    have returned : (Ext4Mount.mount device).Returns (settled c) := by
      obtain ⟨result, s, ran, -⟩ := recovers
      exact ⟨result, s, ran⟩
    rcases reachable with old | stalled | logged | done
    · left
      have positive := tx.positive
      rw [← commit.journal, old.2 _ (by omega)]
      exact ⟨_, tx.geometry, rfl⟩
    · exact absurd returned (commit.not_returns_stalled reopens stalled)
    · right
      obtain ⟨intact, small⟩ := commit.intact_of_recovers reopens logged recovers
      rw [← commit.descriptorBlock, commit.descriptorBlock, ← commit.commitBlock]
      refine ⟨fun zero => ?_, ?_, commit.recordsIntact intact, by rw [← commit.sequence]; exact small⟩
      · have parsed := tx.descriptor
        rw [← logged.descriptor, commit.descriptorBlock, zero, descriptor_zero] at parsed
        cases parsed
      rcases commit.committed_of_logged logged with present | ⟨j, parsed, moved⟩
      · rw [commit.commitBlock]
        exact present
      · rw [← commit.journal, logged.journal, tx.parse_active] at parsed
        cases parsed
        exact absurd commit.sequence moved
    · left
      obtain ⟨j, -, -, -, parsed⟩ := Block.setJournalState_ok done.journal
      rw [← commit.journal]
      exact ⟨_, parsed, rfl⟩
  · intro recoverable
    have present : ¬ tx.Stalled c := fun stalled => by
      rcases recoverable with ⟨j, parsed, empty⟩ | ⟨descriptor, committed, -⟩
      · exact commit.start_of_active stalled.journal parsed empty
      rw [← commit.descriptorBlock] at descriptor
      rw [← commit.commitBlock] at committed
      rcases stalled.missing with missing | ⟨-, missing⟩
      · exact descriptor missing
      · exact committed missing
    have intact : tx.Logged c → tx.DataIntact c ∧ tx.sequence.toNat + 1 < 2 ^ 32 := fun logged => by
      rcases recoverable with ⟨j, parsed, empty⟩ | ⟨-, -, records, small⟩
      · exact absurd empty (commit.start_of_active logged.journal parsed)
      · exact ⟨commit.dataIntact records logged, by rw [commit.sequence]; exact small⟩
    obtain ⟨result, s, ran⟩ := commit.returns_mount reopens fits reachable present intact
    obtain ⟨d, rfl, outcome⟩ := (ensures_mount reachable located'
      fun logged => (intact logged).1).returns ran
    refine ⟨result, _, ran, ?_, ?_, ?_⟩
    · rcases outcome with ⟨-, same⟩ | ⟨-, finished⟩
      · rw [same, commit.disk]
        exact ⟨_, clean.superblock⟩
      · exact Block.cleared finished.2
    · intro committed
      rcases outcome with ⟨old, -⟩ | ⟨-, finished⟩
      · exact absurd committed (commit.not_committed_of_old old)
      · exact fun home member => commit.holds_new finished member
    · intro uncommitted
      rcases outcome with ⟨-, same⟩ | ⟨logged | done, -⟩
      · rw [settled_view, same, commit.disk]
      · exact absurd (commit.committed_of_logged logged) uncommitted
      · exact absurd (commit.committed_of_done done) uncommitted

end CommitOf

/-- A disk that was not touched is recovered as it is. -/
theorem recovers_unchanged (clean : CleanDisk mount journal sequence disk)
    (admissible : call.Admissible device journal disk limit)
    (reopens : Reopens device mount.superblock journal call.homes disk) :
    Recovers device journal sequence call.homes disk disk := by
  obtain ⟨mount₀, required, opened, -⟩ := reopens
  obtain ⟨-, -, dirty, -⟩ := openMount_spec opened
  cases required with
  | true =>
    have dirty := dirty rfl
    rw [clean.superblock] at dirty
    cases dirty
  | false =>
    refine ⟨mount₀, _, run_bind_of_ok opened, ⟨_, clean.superblock⟩, ?_, fun _ => rfl⟩
    rintro (present | ⟨j, parsed, moved⟩)
    · exact absurd (admissible.empty _ (mem_recordBlocks.mpr (by omega))) present
    · rw [clean.journal] at parsed
      cases parsed
      exact absurd rfl moved

end Recovers

/-! ## After a mount

What the journal holds decides whether a mount returns, not what it leaves. -/

section After

variable {device : BlockDevice} {disk c : Disk Block} {s : State Block}

/-- All writes are durable and the superblock is clean. -/
def Unmarked (s : State Block) : Prop :=
  ∃ d sb, s = settled d ∧ Superblock.parse (d 0).superblock = .ok sb

section

variable (size : mount.superblock.blockSize = 4096#32)
include size

theorem ensures_discard_unmarked :
    (discardInactiveJournal device mount journal).Ensures (fun _ => True) (fun _ s => Unmarked s)
      (settled c) := by
  refine .sector size ?_
  refine .reading ?_
  refine .expect fun cleared _ => ?_
  apply ensures_update trivial
  refine .reading ?_
  refine .expect fun sb clean => ?_
  exact .require fun _ => ⟨safe_true _, _, sb, rfl, clean⟩

theorem ensures_scan_sectors :
    (scanTransaction device mount journal).Ensures (fun _ => True) (fun plan _ =>
      plan.filesystemSector = 0 * 8 ∧ plan.journalSector = journal.physicalBlock * 8) s := by
  refine .skip fun _ _ => .skip fun _ _ => .sector size (.sector size ?_)
  iterate 15 refine .skip fun _ _ => ?_
  exact ⟨safe_true _, rfl, rfl⟩

/-- A replay that returns has read a clean superblock back. -/
theorem ensures_replay_unmarked :
    (replayActiveJournal device mount journal).Ensures (fun _ => True) (fun _ s => Unmarked s)
      s := by
  refine .bind ((ensures_scan_sectors size).mono fun plan s places => ?_)
  refine .bind (.mono ?_ fun _ s (flushed : ∃ d, s = settled d) => ?_)
  · iterate 6 refine .skip fun _ _ => ?_
    exact .bind (ensures_flush (safe_true _) trivial ⟨safe_true _, _, rfl⟩)
  obtain ⟨d, rfl⟩ := flushed
  rw [places.1, places.2]
  refine .reading ?_
  refine .expect fun _ _ => ?_
  refine .require fun _ => ?_
  refine .reading ?_
  refine .expect fun sb clean => ?_
  exact .require fun _ => ⟨safe_true _, d, sb, rfl, clean⟩

end

theorem ensures_mount_unmarked :
    (Ext4Mount.mount device).Ensures (fun _ => True) (fun _ s => Unmarked s) (settled disk) := by
  refine .bind (ensures_openMount (safe_true _) fun mount required size consistent _ clean => ?_)
  cases required with
  | false => exact ⟨safe_true _, disk, mount.superblock, rfl, clean rfl⟩
  | true =>
    refine .bind (ensures_probeJournal size (safe_true _) consistent fun journal _ _ _ => ?_)
    refine .bind (.mono ?_ fun _ s (held : Unmarked s) => ⟨safe_true _, held⟩)
    unfold Ext4Mount.replayJournalTransaction
    split
    · exact ensures_discard_unmarked size
    · exact ensures_replay_unmarked size

end After

/-! ## The small filesystem -/

def smallCall : CommitCall := .multi smallHomes

theorem smallCall_admissible : smallCall.Admissible smallDevice smallProbe smallDisk 10 where
  single := fun target home same => by cases same
  empty := fun block member => by
    rw [mem_recordBlocks] at member
    exact smallDisk_log member.1 member.2
  fits := ⟨rfl, by decide, by decide⟩
  journalEnd := by decide +kernel
  targets := by decide

/-- The mount opens the disk and finds the journal. -/
def reopensSmall (disk : Disk Block) : Bool :=
  match (openMount smallDevice).run (State.settled disk) with
  | .ok ((mount, required), s) =>
      !required || match (mount.probeJournal smallDevice).run s with
        | .ok ((found, mount'), _) =>
            found.physicalBlock = 3 && mount'.superblock.uuid = smallMount.superblock.uuid &&
              decide (9 < mount'.superblock.blockCount.toNat)
        | .error _ => false
  | .error _ => false

theorem reopensSmall_spec {disk : Disk Block} (reopens : reopensSmall disk = true) :
    Reopens smallDevice smallMount.superblock smallProbe smallCall.homes disk := by
  have opens : (openMount smallDevice).Ensures (fun _ => True)
      (fun r s => s = settled disk ∧ r.1.superblock.blockSize = 4096#32 ∧
        r.1.cache.Consistent disk) (settled disk) :=
    ensures_openMount (safe_true _) fun mount required size consistent _ _ =>
      ⟨rfl, size, consistent⟩
  unfold reopensSmall at reopens
  split at reopens
  · next mount required s opened =>
    obtain ⟨rfl, size, consistent⟩ := opens.returns opened
    refine ⟨mount, required, opened, fun asked => ?_⟩
    rw [asked, Bool.not_true, Bool.false_or] at reopens
    split at reopens
    · next found mount' s' probed =>
      have probes : (mount.probeJournal smallDevice).Ensures (fun _ => True)
          (fun _ s => s = settled disk) (settled disk) :=
        ensures_probeJournal size (safe_true _) consistent fun _ _ _ _ => rfl
      cases probes.returns probed
      simp only [Bool.and_eq_true, decide_eq_true_eq] at reopens
      refine ⟨found, mount', probed, reopens.1.1, reopens.1.2, fun home member => ?_⟩
      rcases mem_cons.mp member with rfl | later
      · exact lt_trans (by decide) reopens.2
      · rw [mem_singleton.mp later]
        exact reopens.2
    · cases reopens
  · cases reopens

theorem loggedDisk_reopens : (reopensSmall loggedDisk &&
    decide (loggedDisk 4 ≠ Block.zero ∧ loggedDisk 7 ≠ Block.zero ∧
      loggedDisk 5 = newContents ∧ loggedDisk 6 = newContents)) = true := by decide +kernel

/-- The crash right after the journal was made active. -/
def activeDisk : Disk Block := (smallState 10).durable

theorem activeDisk_checked : (reopensSmall activeDisk &&
    !((Ext4Mount.mount smallDevice).run (settled activeDisk)).isOk) = true := by
  decide +kernel

end SlopOS.Filesystem
