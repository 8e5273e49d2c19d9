import SlopOS.Filesystem.Recoverability

/-!
# Commits that complete

A commit whose targets are acceptable returns on every clean disk whose record blocks
are empty.  The preparation succeeds, and each stage reads back what it has written.
-/

namespace SlopOS.Filesystem

open ByteCodec CrashDisk Ext4 List PreparedTransaction State
open Program (run_bind_of_ok run_seq run_require run_expect)

/-! ## The preparation -/

/-- What the two commit paths ask of a call, the device and the mounted filesystem. -/
structure CommitCall.Accepted (call : CommitCall) (device : BlockDevice) (superblock : Superblock)
    (journal : JournalProbe) (limit : Nat) : Prop where
  blockSize : superblock.blockSize = 4096#32
  count : call.homes.length ≠ 0 ∧ call.homes.length ≤ MULTI_TRANSACTION_MAX_BLOCKS
  room : journal.superblock.firstLogBlock.toNat + (1 + call.homes.length) <
    journal.superblock.maxLength.toNat
  targets : targetsSafe superblock journal
    (journal.physicalBlock + journal.superblock.maxLength.toNat) [] (call.homes.map (·.1)) = true
  small : ∀ home ∈ call.homes, home.1 < 2 ^ 32
  /-- New contents of block 0 are a superblock. -/
  contents : ∀ home ∈ call.homes, home.1 = 0 →
    ∃ sb, Superblock.parseForRecovery home.2.superblock = .ok sb
  single : ∀ target home, call = .single target home → target ≠ 0
  sequence : journal.superblock.sequence ≠ 0#32 ∧
    journal.superblock.sequence.toNat + 1 < 2 ^ 32
  fits : device.Fits limit
  journalEnd : journal.physicalBlock + journal.superblock.maxLength.toNat ≤ limit
  below : ∀ home ∈ call.homes, home.1 < limit

/-- What a call with the given sequence number needs in order to return: the targets that
its path accepts, and a device and a journal that hold them and the records. -/
structure CommitCall.Placed (call : CommitCall) (device : BlockDevice) (superblock : Superblock)
    (journal : JournalProbe) (sequence : BitVec 32) (limit : Nat) : Prop where
  count : call.homes.length ≠ 0 ∧ call.homes.length ≤ MULTI_TRANSACTION_MAX_BLOCKS
  room : journal.superblock.firstLogBlock.toNat + (1 + call.homes.length) <
    journal.superblock.maxLength.toNat
  several : ∀ homes, call = .multi homes → targetsSafe superblock journal
    (journal.physicalBlock + journal.superblock.maxLength.toNat) [] (homes.map (·.1)) = true
  single : ∀ target home, call = .single target home → SingleTarget journal target
  small : ∀ home ∈ call.homes, home.1 < 2 ^ 32
  /-- New contents of block 0 are a superblock. -/
  contents : ∀ home ∈ call.homes, home.1 = 0 →
    ∃ sb, Superblock.parseForRecovery home.2.superblock = .ok sb
  successor : sequence.toNat + 1 < 2 ^ 32
  fits : device.Fits limit
  journalEnd : journal.physicalBlock + journal.superblock.maxLength.toNat ≤ limit
  below : ∀ home ∈ call.homes, home.1 < limit

variable {call : CommitCall} {journal : JournalProbe} {device : BlockDevice} {limit target : Nat}
  {home : Block}

theorem CommitCall.Accepted.placed {superblock : Superblock}
    (accepted : call.Accepted device superblock journal limit) :
    call.Placed device superblock journal journal.superblock.sequence limit where
  count := accepted.count
  room := accepted.room
  several := by
    rintro homes rfl
    exact accepted.targets
  single := by
    rintro target home rfl
    exact ⟨accepted.single target home rfl,
      ((targetsSafe_spec accepted.targets).2 target (mem_singleton_self _)).2.2⟩
  small := accepted.small
  contents := accepted.contents
  successor := accepted.sequence.2
  fits := accepted.fits
  journalEnd := accepted.journalEnd
  below := accepted.below

section Plan

variable {mount : Ext4Mount} {superblock : Superblock} {sequence : BitVec 32} {disk : Disk Block}
  {s : State Block} {homes : List (Nat × Block)} {uuid : Bytes}

theorem run_requireEmpty (size : superblock.blockSize = 4096#32) (fits : device.Fits limit)
    {message : String} {blocks : List Nat}
    (empty : ∀ block ∈ blocks, block < limit ∧ s.view block = Block.zero) :
    (requireEmpty device superblock message blocks).run s = .ok ((), s) := by
  induction blocks with
  | nil => rfl
  | cons block rest ih =>
    obtain ⟨below, zero⟩ := empty block mem_cons_self
    have all : (s.view block).bytes.all (· == 0#8) = true := by
      rw [zero]
      exact Block.zero_all
    unfold requireEmpty
    rw [run_bind_of_ok (run_readBlock size fits below), run_bind_of_ok (run_require all)]
    exact ih fun block member => empty block (mem_cons_of_mem _ member)

theorem run_activateHomes (contents : ∀ home ∈ homes, home.1 = 0 →
      ∃ sb, Superblock.parseForRecovery home.2.superblock = .ok sb) :
    ∃ written, (activateHomes homes).run s = .ok (written, s) := by
  induction homes with
  | nil => exact ⟨[], rfl⟩
  | cons home rest ih =>
    obtain ⟨others, ran⟩ := ih fun home member => contents home (mem_cons_of_mem _ member)
    have first : ∃ written, (activateHome home).run s = .ok (written, s) := by
      unfold activateHome
      split
      · next zero =>
        obtain ⟨sb, parsed⟩ := contents home mem_cons_self zero
        exact ⟨_, run_bind_of_ok (run_expect (Block.setRecovery_eq parsed))⟩
      · exact ⟨home, rfl⟩
    obtain ⟨written, ran'⟩ := first
    refine ⟨written :: others, ?_⟩
    unfold activateHomes
    rw [run_bind_of_ok ran', run_bind_of_ok ran]
    rfl

theorem run_encodeHomes (small : ∀ home ∈ homes, home.1 < 2 ^ 32) :
    ∃ encoded, (encodeHomes homes).run s = .ok (encoded, s) := by
  induction homes with
  | nil => exact ⟨[], rfl⟩
  | cons home rest ih =>
    obtain ⟨target, contents⟩ := home
    obtain ⟨others, ran⟩ := ih fun home member => small home (mem_cons_of_mem _ member)
    obtain ⟨data, escaped, encoded, -⟩ := contents.encodeData_spec
    have bound : target < 2 ^ 32 := small (target, contents) mem_cons_self
    refine ⟨⟨BitVec.ofNat 32 target, data, escaped⟩ :: others, ?_⟩
    unfold encodeHomes
    rw [run_bind_of_ok (run_require (decide_eq_true bound)),
      run_bind_of_ok (run_expect encoded), run_bind_of_ok ran]
    rfl

theorem encodeCommit_ok (nonzero : sequence ≠ 0#32) :
    ∃ block, blockOf (encodeJournalCommitBlock BLOCK_SIZE sequence) = .ok block := by
  obtain ⟨bytes, encoded, size, -⟩ := encodeJournalCommitBlock_spec
    (show journalLength BLOCK_SIZE = true by decide) nonzero
  exact ⟨⟨bytes, size⟩, blockOf_eq_ok_iff.mpr encoded⟩

theorem encodeDescriptor_ok (encoded : List EncodedHome) (nonzero : sequence ≠ 0#32)
    (sized : uuid.length = 16)
    (count : encoded.length ≠ 0 ∧ encoded.length ≤ MULTI_TRANSACTION_MAX_BLOCKS) :
    ∃ block, blockOf (encodeJournalDescriptorBlock BLOCK_SIZE sequence (encoded.map (·.target))
      (encoded.map (·.escaped)) uuid) = .ok block := by
  obtain ⟨nonempty, room⟩ := tags_fit encoded count
  obtain ⟨bytes, done, size, -⟩ := encodeJournalDescriptorBlock_spec
    (show journalLength BLOCK_SIZE = true by decide) nonzero nonempty
    (show _ = (encoded.map (·.escaped)).length by rw [length_map, length_map]) room sized
  exact ⟨⟨bytes, size⟩, blockOf_eq_ok_iff.mpr done⟩

section

variable (placed : call.Placed device superblock journal sequence limit) {block : Nat}
include placed

/-- The blocks a call may touch are below the limit. -/
theorem CommitCall.Placed.record_below (record : block ∈ recordBlocks
      (journal.physicalBlock + journal.superblock.firstLogBlock.toNat) call.homes.length) :
    block < limit := by
  have room := placed.room
  have journalEnd := placed.journalEnd
  rw [mem_recordBlocks] at record
  omega

theorem CommitCall.Placed.small_of_le (below : block ≤ limit) : block < 2 ^ 64 :=
  lt_of_le_of_lt (le_trans below (Nat.le_mul_of_pos_right _ (by decide)))
    placed.fits.bytes

end

/-- The preparation of several targets succeeds. -/
theorem returns_planMultiBlock (clean : CleanDisk mount journal sequence disk)
    (placed : (CommitCall.multi homes).Placed device mount.superblock journal sequence limit)
    (nonzero : sequence ≠ 0#32) (empty : ∀ block ∈ recordBlocks
      (journal.physicalBlock + journal.superblock.firstLogBlock.toNat) homes.length,
      disk block = Block.zero) :
    (planMultiBlock device mount journal sequence homes).Returns (settled disk) := by
  have size := clean.blockSize
  have fits := placed.fits
  have room : journal.superblock.firstLogBlock.toNat + (1 + homes.length) <
    journal.superblock.maxLength.toNat := placed.room
  have journalEnd := placed.journalEnd
  have count : homes.length ≠ 0 ∧ homes.length ≤ MULTI_TRANSACTION_MAX_BLOCKS := placed.count
  have parsedOk : (Superblock.parse (disk 0).superblock).isOk = true := by
    rw [clean.superblock]
    rfl
  have inside : journal.physicalBlock + journal.superblock.firstLogBlock.toNat +
      (1 + homes.length) < journal.physicalBlock + journal.superblock.maxLength.toNat := by omega
  obtain ⟨flagged, activates⟩ := Block.setRecovery_of_clean clean.superblock true
  obtain ⟨written, activated⟩ := run_activateHomes placed.contents
  have activating : (activateHomes homes).Ensures (fun _ => True)
      (fun written _ => Activates written homes) (settled disk) :=
    ensures_activateHomes (safe_true _) fun _ active => active
  have active := activating.returns activated
  have small : ∀ home ∈ written, home.1 < 2 ^ 32 := by
    intro home member
    obtain ⟨home', inside, target, -⟩ := active.exists_home member
    rw [target]
    exact placed.small home' inside
  obtain ⟨encoded, encodes⟩ := run_encodeHomes small
  have encoding : (encodeHomes written).Ensures (fun _ => True)
      (fun encoded _ => Encodes encoded written) (settled disk) :=
    ensures_encodeHomes (safe_true _) fun _ encodes => encodes
  have length : encoded.length = homes.length :=
    (encoding.returns encodes).length_eq.trans active.length_eq
  obtain ⟨descriptor, described⟩ := encodeDescriptor_ok encoded nonzero clean.uuid_length
    (by rw [length]; exact count)
  obtain ⟨commit, committed⟩ := encodeCommit_ok nonzero
  refine .bind (run_require (decide_eq_true count)) ?_
  refine .bind (run_blockToSector size fits (by omega)) ?_
  refine .bind (run_blockToSector size fits (by omega)) ?_
  refine .bind (run_checkedAdd (placed.small_of_le (by omega))) ?_
  refine .bind (run_checkedAdd (placed.small_of_le (by omega))) ?_
  refine .bind (run_checkedAdd (placed.small_of_le journalEnd)) ?_
  refine .bind (run_require (decide_eq_true inside)) ?_
  refine .bind (run_require (placed.several homes rfl)) ?_
  refine .bind (run_read fits (by omega)) ?_
  refine .bind (run_require parsedOk) ?_
  refine .bind (run_read fits (by omega)) ?_
  refine .bind (run_expect clean.journal) ?_
  refine .bind (run_require (decide_eq_true ⟨rfl, rfl⟩)) ?_
  refine .bind (run_requireEmpty size fits fun block member =>
    ⟨placed.record_below member, empty block member⟩) ?_
  refine .bind (run_expect activates) ?_
  refine .bind activated ?_
  refine .bind encodes ?_
  refine .bind (run_expect described) ?_
  refine .bind (run_expect committed) ?_
  exact ⟨_, _, rfl⟩

theorem encodeSingleBlock_exists (target : BitVec 32) (home : Block) (nonzero : sequence ≠ 0#32)
    (sized : uuid.length = 16) :
    ∃ records, encodeSingleBlock sequence target uuid home = .ok records := by
  obtain ⟨data, escaped, encoded, -⟩ := home.encodeData_spec
  obtain ⟨descriptor, described⟩ :=
    encodeDescriptor_ok [⟨target, data, escaped⟩] nonzero sized ⟨one_ne_zero,
      show 1 ≤ MULTI_TRANSACTION_MAX_BLOCKS by decide⟩
  obtain ⟨commit, committed⟩ := encodeCommit_ok nonzero
  exact ⟨_, encodeSingleBlock_eq_ok_iff.mpr ⟨nonzero, escaped, encoded,
    blockOf_eq_ok_iff.mp described, blockOf_eq_ok_iff.mp committed⟩⟩

/-- The preparation of one target succeeds. -/
theorem returns_planSingleBlock (clean : CleanDisk mount journal sequence disk)
    (placed : (CommitCall.single target home).Placed device mount.superblock journal sequence limit)
    (nonzero : sequence ≠ 0#32) (empty : ∀ block ∈ recordBlocks
      (journal.physicalBlock + journal.superblock.firstLogBlock.toNat) 1, disk block = Block.zero) :
    (planSingleBlock device mount journal sequence target home).Returns (settled disk) := by
  have size := clean.blockSize
  have fits := placed.fits
  have room : journal.superblock.firstLogBlock.toNat + (1 + 1) <
    journal.superblock.maxLength.toNat := placed.room
  have journalEnd := placed.journalEnd
  have parsedOk : (Superblock.parse (disk 0).superblock).isOk = true := by
    rw [clean.superblock]
    rfl
  have inside : journal.physicalBlock + journal.superblock.firstLogBlock.toNat + 2 <
      journal.physicalBlock + journal.superblock.maxLength.toNat := by omega
  have small : target < 2 ^ 32 := placed.small (target, home) (mem_singleton_self _)
  obtain ⟨flagged, activates⟩ := Block.setRecovery_of_clean clean.superblock true
  obtain ⟨records, encoded⟩ := encodeSingleBlock_exists (BitVec.ofNat 32 target) home nonzero
    clean.uuid_length
  refine .bind (run_blockToSector size fits (by omega)) ?_
  refine .bind (run_blockToSector size fits (by omega)) ?_
  refine .bind (run_checkedAdd (placed.small_of_le (by omega))) ?_
  refine .bind (run_checkedAdd (placed.small_of_le (by omega))) ?_
  refine .bind (run_checkedAdd (placed.small_of_le (by omega))) ?_
  refine .bind (run_checkedAdd (placed.small_of_le journalEnd)) ?_
  refine .bind (run_require (decide_eq_true inside)) ?_
  refine .bind (run_read fits (by omega)) ?_
  refine .bind (run_require parsedOk) ?_
  refine .bind (run_read fits (by omega)) ?_
  refine .bind (run_expect clean.journal) ?_
  refine .bind (run_require (decide_eq_true ⟨rfl, rfl⟩)) ?_
  refine .bind (run_requireEmpty size fits fun block member =>
    ⟨placed.record_below member, empty block member⟩) ?_
  refine .bind (run_require (decide_eq_true small)) ?_
  refine .bind (run_expect encoded) ?_
  refine .bind (run_expect activates) ?_
  exact ⟨_, _, rfl⟩

end Plan

/-! ## The stages -/

namespace PreparedTransaction

variable {tx : PreparedTransaction} {mount : Ext4Mount} {superblock : Superblock}
  {messages : CommitMessages} {c : Disk Block}

theorem run_activateJournal (fits : tx.Fits device limit) :
    (activateJournal device tx.journal tx.sequence tx.plan messages).run (settled tx.disk) =
      .ok (tx.active, settled tx.started) := by
  unfold activateJournal
  rw [tx.filesystemSector, tx.journalSector]
  refine run_seq (run_write fits.toFits fits.zero) ?_
  refine run_seq (run_flush fits.toFits) ?_
  refine run_seq (run_expect tx.activated) ?_
  refine run_seq (run_write fits.toFits fits.journalBlock) ?_
  exact run_bind_of_ok (run_flush fits.toFits)

theorem run_writeRecords (size : superblock.blockSize = 4096#32) (fits : tx.Fits device limit) :
    (writeRecords device superblock tx.plan).run (settled tx.started) =
      .ok ((), settled tx.committed) := by
  have below : ∀ record ∈ tx.openRecords, record.1 < limit := by
    intro record member
    obtain ⟨-, before, -⟩ := tx.mem_openRecords member
    exact lt_trans before (fits.record tx.commit_mem_records)
  refine run_seq (run_writeBlocks size fits.toFits below) ?_
  refine run_seq (run_flush fits.toFits) ?_
  refine (run_bind_of_ok ((run_bind_of_ok (run_blockToSector size fits.toFits
    (fits.record tx.commit_mem_records))).trans
      (run_write fits.toFits (fits.record tx.commit_mem_records)))).trans ?_
  exact run_flush fits.toFits

theorem committed_records {record : Nat × Block} (member : record ∈ tx.plan.records) :
    record.1 ∈ recordBlocks tx.plan.descriptorBlock tx.plan.homes.length ∧
      tx.committed record.1 = record.2 := by
  rcases mem_append.mp member with opened | last
  · have bounds := tx.mem_openRecords opened
    have commit := tx.commitBlock
    exact ⟨mem_recordBlocks.mpr (by omega), tx.committed_record opened⟩
  · rw [mem_singleton.mp last]
    exact ⟨tx.commit_mem_records, tx.logged_committed.commit⟩

theorem run_verifyActive (size : superblock.blockSize = 4096#32) (fits : tx.Fits device limit) :
    (verifyActive device superblock tx.journal tx.sequence tx.plan tx.active messages).run
      (settled tx.committed) = .ok ((), settled tx.committed) := by
  have gt := tx.descriptorBlock_gt
  have zero : tx.committed 0 = tx.plan.filesystemBlock := by
    rw [tx.committed_of_not_record (.inl (by omega)), tx.started_zero]
  have dirty : Superblock.parse (tx.committed 0).superblock = .error .dirtyFilesystem := by
    rw [zero]
    exact tx.dirty_filesystemBlock
  have journal := tx.logged_committed.journal
  have parsed : JournalSuperblock.parse (tx.committed tx.journal.physicalBlock).bytes =
      .ok tx.activeSuperblock := by
    rw [journal]
    exact tx.parse_active
  unfold verifyActive
  rw [tx.filesystemSector, tx.journalSector]
  refine run_seq (run_read fits.toFits fits.zero) ?_
  refine run_seq (run_require (decide_eq_true ⟨zero, dirty⟩)) ?_
  refine run_seq (run_read fits.toFits fits.journalBlock) ?_
  refine run_seq (run_expect parsed) ?_
  refine (run_bind_of_ok (run_require (decide_eq_true ⟨journal, rfl, rfl⟩))).trans ?_
  refine run_verifyBlocks size fits.toFits fun record member => ?_
  obtain ⟨inside, held⟩ := committed_records member
  exact ⟨fits.record inside, held⟩

/-- A journal superblock that was just emptied is read back as such. -/
theorem run_verifyFinalJournal (fits : tx.Fits device limit) {checkpointed : Block}
    {next : BitVec 32} (checkpoint : tx.active.setJournalState next 0#32 = .ok checkpointed)
    (journal : c tx.journal.physicalBlock = checkpointed) :
    (verifyFinalJournal device tx.plan checkpointed next messages).run (settled c) =
      .ok ((), settled c) := by
  obtain ⟨j, -, -, -, parsed⟩ := Block.setJournalState_ok checkpoint
  rw [← journal] at parsed
  unfold verifyFinalJournal
  rw [tx.journalSector]
  refine run_seq (run_read fits.toFits fits.journalBlock) ?_
  refine run_seq (run_expect parsed) ?_
  exact run_require (decide_eq_true ⟨journal, rfl, rfl⟩)

section

variable (size : mount.superblock.blockSize = 4096#32) (fits : tx.Fits device limit)
  (small : tx.sequence.toNat + 1 < 2 ^ 32)
include size fits small

theorem returns_finishMultiBlock :
    (finishMultiBlock device mount tx.journal tx.sequence tx.plan tx.active).Returns
      (settled tx.committed) := by
  obtain ⟨checkpointed, cleared, d, checkpoint, clearing, journal, zero, retired⟩ :=
    run_retireTransaction size fits multiBlockMessages.retire tx.committed small
      (show (superblockHome tx.plan.homes).getD tx.plan.filesystemBlock = tx.flaggedHome from rfl)
  obtain ⟨sb, clean⟩ := Block.cleared clearing
  rw [← zero] at clean
  unfold finishMultiBlock
  rw [tx.filesystemSector, tx.journalSector]
  refine .bind retired ?_
  refine .bind (run_read fits.toFits fits.zero) ?_
  refine .bind (run_expect clean) ?_
  refine .bind (run_require (decide_eq_true zero)) ?_
  refine .bind (run_verifyFinalJournal fits checkpoint journal) ?_
  exact ⟨_, _, rfl⟩

theorem returns_finishSingleBlock (single : tx.plan.homes.length = 1) :
    (finishSingleBlock device mount tx.sequence tx.plan tx.active).Returns
      (settled tx.committed) := by
  obtain ⟨checkpointed, checkpoint⟩ := exists_checkpoint small
  obtain ⟨sb, clean⟩ := tx.clean
  have positive := tx.positive
  have zeroApart : 0 ∉ recordBlocks tx.plan.descriptorBlock tx.plan.homes.length := fun record =>
    tx.not_inJournal_zero (tx.inJournal_of_record record)
  have journalApart : tx.journal.physicalBlock ∉
      recordBlocks tx.plan.descriptorBlock tx.plan.homes.length := fun record =>
    tx.ne_of_record record rfl
  generalize final : apply (Function.update (Function.update (apply tx.committed tx.plan.homes)
    tx.journal.physicalBlock checkpointed) 0 (tx.disk 0))
    ((recordBlocks tx.plan.descriptorBlock tx.plan.homes.length).map (·, Block.zero)) = d
  have zero : d 0 = tx.disk 0 := by
    rw [← final, apply_fill_other zeroApart, Function.update_self]
  have journal : d tx.journal.physicalBlock = checkpointed := by
    rw [← final, apply_fill_other journalApart, Function.update_of_ne (by omega),
      Function.update_self]
  have parsedOk : (Superblock.parse (d 0).superblock).isOk = true := by
    rw [zero, clean]
    rfl
  unfold finishSingleBlock
  rw [tx.filesystemSector, tx.journalSector, ← single]
  refine .bind (run_installHomes size fits _ _) ?_
  refine .bind (run_nextSequence small) ?_
  refine .bind (run_expect checkpoint) ?_
  refine .bind (run_write fits.toFits fits.journalBlock) ?_
  refine .bind (run_flush fits.toFits) ?_
  refine .bind (run_expect tx.clear_filesystemBlock) ?_
  refine .bind (run_write fits.toFits fits.zero) ?_
  refine .bind (run_flush fits.toFits) ?_
  refine .bind (run_writeBlocks size fits.toFits fun write member => ?_) ?_
  · obtain ⟨block, inside, rfl⟩ := mem_map.mp member
    exact fits.record inside
  refine .bind (run_flush fits.toFits) ?_
  show Program.Returns _ (settled (apply (Function.update (Function.update
    (apply tx.committed tx.plan.homes) tx.journal.physicalBlock checkpointed) 0 (tx.disk 0))
    ((recordBlocks tx.plan.descriptorBlock tx.plan.homes.length).map (·, Block.zero))))
  rw [final]
  refine .bind (run_read fits.toFits fits.zero) ?_
  refine .bind (run_require (decide_eq_true ⟨zero, parsedOk⟩)) ?_
  refine .bind (run_verifyFinalJournal fits checkpoint journal) ?_
  exact ⟨_, _, rfl⟩

end

/-- The records of a single target are parsed as its transaction. -/
theorem run_verifyIdentity {s : State Block} (same : tx.superblock = mount.superblock)
    (homes : tx.plan.homes = [(target, home)]) :
    (verifyIdentity mount tx.sequence target tx.plan).run s = .ok ((), s) := by
  have length : tx.encoded.length = 1 := by
    rw [tx.encoded_length, homes]
    rfl
  obtain ⟨e, only⟩ := length_eq_one_iff.mp length
  have encodes := tx.encodes
  rw [only, homes] at encodes
  have target' : e.target = BitVec.ofNat 32 target := by
    obtain ⟨⟨same, -⟩, -⟩ := forall₂_cons.mp encodes
    have same : e.target.toNat = target := same
    rw [← same, BitVec.ofNat_toNat, BitVec.setWidth_eq]
  have tag := tx.tags 0 e (by rw [only]; rfl)
  have parsed : JournalDescriptor.parse tx.plan.descriptor.bytes =
      .ok ⟨tx.sequence, e.target, e.escaped, tx.superblock.uuid⟩ := by
    unfold JournalDescriptor.parse
    rw [tx.descriptor, ok_bind]
    dsimp only
    rw [if_neg (by rw [length]; decide), tag]
    rfl
  unfold verifyIdentity
  rw [run_bind_of_ok (run_expect parsed), run_bind_of_ok (run_expect tx.commit)]
  exact run_require (decide_eq_true ⟨rfl, target', congrArg Superblock.uuid same, rfl⟩)

end PreparedTransaction

/-! ## The calls -/

section

variable {mount : Ext4Mount} {sequence : BitVec 32} {disk : Disk Block}

/-- A call that is placed on a clean disk with empty record blocks completes. -/
theorem CommitCall.Placed.returns
    (placed : call.Placed device mount.superblock journal sequence limit)
    (clean : CleanDisk mount journal sequence disk) (nonzero : sequence ≠ 0#32)
    (empty : ∀ block ∈ recordBlocks
      (journal.physicalBlock + journal.superblock.firstLogBlock.toNat) call.homes.length,
      disk block = Block.zero) :
    (call.program mount device journal sequence).Returns (settled disk) := by
  have size := clean.blockSize
  have next := placed.successor
  have fits {tx : PreparedTransaction} (journalEq : tx.journal = journal)
      (targets : tx.plan.homes.map (·.1) = call.homes.map (·.1)) : tx.Fits device limit := by
    refine ⟨placed.fits, by rw [journalEq]; exact placed.journalEnd, fun home member => ?_⟩
    have target : home.1 ∈ call.homes.map (·.1) := targets ▸ mem_map_of_mem member
    obtain ⟨home', inside, same⟩ := mem_map.mp target
    rw [← same]
    exact placed.below home' inside
  cases call with
  | multi homes =>
    obtain ⟨plan, s, planned⟩ := returns_planMultiBlock clean placed nonzero empty
    have prepares : (planMultiBlock device mount journal sequence homes).Ensures (fun _ => True)
        _ _ := ensures_planMultiBlock clean trivial
    obtain ⟨rfl, active, tx, superblock, rfl, rfl, rfl, rfl⟩ := prepares.returns planned
    have fits := fits rfl active.targets
    refine .bind planned ?_
    refine .bind (run_activateJournal fits) ?_
    refine .bind (run_writeRecords size fits) ?_
    refine .bind (run_verifyActive size fits) ?_
    exact returns_finishMultiBlock size fits next
  | single target home =>
    obtain ⟨plan, s, planned⟩ := returns_planSingleBlock clean placed nonzero empty
    have prepares : (planSingleBlock device mount journal sequence target home).Ensures
        (fun _ => True) _ _ :=
      ensures_planSingleBlock clean (placed.single target home rfl) trivial
    obtain ⟨rfl, homes, tx, superblock, rfl, rfl, rfl, rfl⟩ := prepares.returns planned
    have fits := fits rfl (by rw [homes]; rfl)
    refine .bind planned ?_
    refine .bind (run_activateJournal fits) ?_
    refine .bind (run_writeRecords size fits) ?_
    refine .bind (run_verifyActive size fits) ?_
    refine .bind (run_verifyIdentity superblock homes) ?_
    exact returns_finishSingleBlock size fits next (by rw [homes]; rfl)

/-- An acceptable commit on a clean disk with empty record blocks completes. -/
theorem CommitCall.returns (clean : CleanDisk mount journal sequence disk)
    (same : sequence = journal.superblock.sequence)
    (accepted : call.Accepted device mount.superblock journal limit) (empty : ∀ block ∈ recordBlocks
      (journal.physicalBlock + journal.superblock.firstLogBlock.toNat) call.homes.length,
      disk block = Block.zero) :
    (call.program mount device journal sequence).Returns (settled disk) := by
  subst same
  exact accepted.placed.returns clean accepted.sequence.1 empty

end

end SlopOS.Filesystem
