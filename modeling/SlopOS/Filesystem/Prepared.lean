import SlopOS.Filesystem.Transaction

/-!
# Prepared transactions

What the preparation of a commit has checked and computed when it returns: where
the records go, that the targets are apart from each other and from the journal, and
that the records stand for the homes.  The preparation reads only.
-/

namespace SlopOS.Filesystem

open ByteCodec CrashDisk Ext4 List

/-- The contents that go to the home of a target: block 0 is written with its flag set. -/
def HomeContents (target : Nat) (contents written : Block) : Prop :=
  if target = 0 then contents.setRecovery true = .ok written else written = contents

variable (encoded : List EncodedHome)

/-- The encoded records stand for the homes. -/
def Encodes (homes : List (Nat × Block)) : Prop :=
  List.Forall₂ (fun e home => e.target.toNat = home.1 ∧
    home.2.encodeData = .ok (e.data, e.escaped)) encoded homes

/-- A transaction whose records are computed, on the disk it starts from. -/
structure PreparedTransaction where
  superblock : Superblock
  journal : JournalProbe
  sequence : BitVec 32
  /-- The disk before the commit. -/
  disk : Disk Block
  plan : CommitPlan
  encoded : List EncodedHome
  /-- The journal superblock of the active journal. -/
  active : Block
  blockSize : superblock.blockSize = 4096#32
  /-- Block 0 is not in the journal. -/
  positive : 0 < journal.physicalBlock
  geometry : JournalSuperblock.parse (disk journal.physicalBlock).bytes =
    .ok { journal.superblock with sequence, start := 0#32 }
  clean : ∃ s, Superblock.parse (disk 0).superblock = .ok s
  filesystemSector : plan.filesystemSector = 0 * 8
  journalSector : plan.journalSector = journal.physicalBlock * 8
  descriptorBlock :
    plan.descriptorBlock = journal.physicalBlock + journal.superblock.firstLogBlock.toNat
  commitBlock : plan.commitBlock = plan.descriptorBlock + (1 + plan.homes.length)
  inside : plan.commitBlock < journal.physicalBlock + journal.superblock.maxLength.toNat
  count : plan.homes.length ≠ 0 ∧ plan.homes.length ≤ MULTI_TRANSACTION_MAX_BLOCKS
  distinct : (plan.homes.map (·.1)).Nodup
  outside : ∀ home ∈ plan.homes, ¬ (journal.physicalBlock ≤ home.1 ∧
    home.1 < journal.physicalBlock + journal.superblock.maxLength.toNat)
  flagged : (disk 0).setRecovery true = .ok plan.filesystemBlock
  journalBlock : plan.journalBlock = disk journal.physicalBlock
  empty : ∀ block ∈ recordBlocks plan.descriptorBlock plan.homes.length, disk block = Block.zero
  superblockFlagged : ∀ home ∈ plan.homes, home.1 = 0 →
    ∃ contents : Block, contents.setRecovery true = .ok home.2
  encodes : Encodes encoded plan.homes
  data : plan.data = encoded.map (·.data)
  descriptor : JournalDescriptorBlock.parse plan.descriptor.bytes =
    .ok ⟨plan.descriptor.bytes, sequence, superblock.uuid, encoded.length⟩
  tags : ∀ index e, encoded[index]? = some e →
    JournalDescriptorBlock.tag
      ⟨plan.descriptor.bytes, sequence, superblock.uuid, encoded.length⟩ index =
        .ok ⟨e.target, e.escaped⟩
  commit : JournalCommit.parse plan.commit.bytes = .ok ⟨sequence⟩
  activated :
    plan.journalBlock.setJournalState sequence journal.superblock.firstLogBlock = .ok active

/-! ## The loops of the preparation -/

variable {homes : List (Nat × Block)}

section Loops

variable {device : BlockDevice} {superblock : Superblock} {journal : JournalProbe}
  {crash : Disk Block → Prop} {s : State Block}

theorem targetsSafe_spec {journalEnd : Nat} {targets seen : List Nat}
    (safe : targetsSafe superblock journal journalEnd seen targets = true) :
    targets.Nodup ∧ ∀ target ∈ targets, target ∉ seen ∧ target < superblock.blockCount.toNat ∧
      ¬ (journal.physicalBlock ≤ target ∧ target < journalEnd) := by
  induction targets generalizing seen with
  | nil => exact ⟨nodup_nil, fun _ member => by cases member⟩
  | cons target rest ih =>
    rw [targetsSafe, Bool.and_eq_true, Bool.not_eq_true'] at safe
    obtain ⟨nodup, others⟩ := ih safe.2
    have here := of_decide_eq_false safe.1
    rw [not_or, not_or, not_le] at here
    refine ⟨nodup_cons.mpr ⟨fun member => (others target member).1 mem_cons_self,
      nodup⟩, fun target' member => ?_⟩
    rcases mem_cons.mp member with rfl | later
    · exact ⟨here.2.2, here.1, here.2.1⟩
    · obtain ⟨unseen, rest⟩ := others target' later
      exact ⟨fun old => unseen (mem_cons_of_mem _ old), rest⟩

theorem ensures_requireEmpty {message : String} {post : Unit → State Block → Prop}
    (size : superblock.blockSize = 4096#32) (safe : s.Safe crash) {blocks : List Nat}
    (next : (∀ block ∈ blocks, s.view block = Block.zero) → post () s) :
    (requireEmpty device superblock message blocks).Ensures crash post s := by
  induction blocks with
  | nil => exact ⟨safe, next fun _ member => by cases member⟩
  | cons block rest ih =>
    refine .readingBlock size ?_
    refine .require fun zero => ih fun others => ?_
    refine next fun block' member => ?_
    rcases mem_cons.mp member with rfl | later
    · exact Block.eq_zero_of_all zero
    · exact others block' later

/-- The homes as written, against the contents the caller gave. -/
def Activates (written homes : List (Nat × Block)) : Prop :=
  List.Forall₂ (fun w home => w.1 = home.1 ∧ HomeContents home.1 home.2 w.2) written homes

theorem ensures_activateHomes {post : List (Nat × Block) → State Block → Prop} (safe : s.Safe crash)
    (next : ∀ written, Activates written homes → post written s) :
    (activateHomes homes).Ensures crash post s := by
  induction homes generalizing post with
  | nil => exact ⟨safe, next [] Forall₂.nil⟩
  | cons home rest ih =>
    have continued (written : Nat × Block) (first : written.1 = home.1 ∧
        HomeContents home.1 home.2 written.2) :
        (activateHomes rest >>= fun others => pure (written :: others)).Ensures crash post s :=
      Program.Ensures.bind (ih fun others active =>
        ⟨safe, next _ (Forall₂.cons first active)⟩)
    refine Program.Ensures.bind ?_
    unfold activateHome
    split
    · next zero =>
      refine .expect fun desired done => ?_
      exact ⟨safe, continued (0, desired) ⟨zero.symm, by rw [HomeContents, if_pos zero]; exact done⟩⟩
    · next nonzero =>
      exact ⟨safe, continued home ⟨rfl, by rw [HomeContents, if_neg nonzero]⟩⟩

theorem ensures_encodeHomes {post : List EncodedHome → State Block → Prop} (safe : s.Safe crash)
    (next : ∀ encoded, Encodes encoded homes → post encoded s) :
    (encodeHomes homes).Ensures crash post s := by
  induction homes generalizing post with
  | nil => exact ⟨safe, next [] Forall₂.nil⟩
  | cons home rest ih =>
    obtain ⟨target, contents⟩ := home
    refine .require fun small => ?_
    refine .expect fun encoded done => ?_
    refine .bind (ih fun others rest => ⟨safe, next _ (Forall₂.cons ?_ rest)⟩)
    refine ⟨?_, done⟩
    show (BitVec.ofNat 32 target).toNat = target
    exact Nat.mod_eq_of_lt (of_decide_eq_true small)

end Loops

/-! ## The records -/

theorem blockOf_eq_ok_iff {result : Except ParseError Bytes} {block : Block} :
    blockOf result = .ok block ↔ result = .ok block.bytes := by
  simp [blockOf, Block.ofBytes_eq_ok_iff]

variable {sequence : BitVec 32} {bytes : Bytes}

theorem sequence_ne_zero_of_commit
    (encoded : encodeJournalCommitBlock BLOCK_SIZE sequence = .ok bytes) : sequence ≠ 0#32 := by
  intro zero
  unfold encodeJournalCommitBlock at encoded
  rw [if_pos (.inr zero)] at encoded
  exact Except.throw_ne_ok encoded

theorem parse_commit (encoded : encodeJournalCommitBlock BLOCK_SIZE sequence = .ok bytes) :
    JournalCommit.parse bytes = .ok ⟨sequence⟩ := by
  obtain ⟨bytes', encoded', -, parsed⟩ := encodeJournalCommitBlock_spec
    (show journalLength BLOCK_SIZE = true by decide) (sequence_ne_zero_of_commit encoded)
  rw [encoded] at encoded'
  cases encoded'
  exact parsed

/-- The tags of at most eight records fit into a block. -/
theorem tags_fit (count : encoded.length ≠ 0 ∧ encoded.length ≤ MULTI_TRANSACTION_MAX_BLOCKS) :
    encoded.map (·.target) ≠ [] ∧
      12 + 24 + ((encoded.map (·.target)).length - 1) * 8 ≤ BLOCK_SIZE := by
  constructor
  · intro nil
    rw [map_eq_nil_iff.mp nil] at count
    exact count.1 rfl
  have small := count.2
  unfold MULTI_TRANSACTION_MAX_BLOCKS at small
  unfold BLOCK_SIZE
  rw [length_map]
  omega

/-- A descriptor for at most eight records parses to their tags. -/
theorem parse_descriptor {uuid : Bytes} (nonzero : sequence ≠ 0#32) (sized : uuid.length = 16)
    (count : encoded.length ≠ 0 ∧ encoded.length ≤ MULTI_TRANSACTION_MAX_BLOCKS)
    (done : encodeJournalDescriptorBlock BLOCK_SIZE sequence (encoded.map (·.target))
      (encoded.map (·.escaped)) uuid = .ok bytes) :
    JournalDescriptorBlock.parse bytes = .ok ⟨bytes, sequence, uuid, encoded.length⟩ ∧
      ∀ index e, encoded[index]? = some e →
        JournalDescriptorBlock.tag ⟨bytes, sequence, uuid, encoded.length⟩ index =
          .ok ⟨e.target, e.escaped⟩ := by
  obtain ⟨nonempty, room⟩ := tags_fit encoded count
  obtain ⟨bytes', done', -, parsed, tags⟩ := encodeJournalDescriptorBlock_spec
    (show journalLength BLOCK_SIZE = true by decide) nonzero nonempty
    (show _ = (encoded.map (·.escaped)).length by rw [length_map, length_map]) room sized
  rw [done] at done'
  cases done'
  rw [length_map] at parsed
  refine ⟨parsed, fun index e found => ?_⟩
  have bound : ¬ encoded.length ≤ index := not_le.mpr (List.getElem?_eq_some_iff.mp found).1
  unfold JournalDescriptorBlock.tag
  rw [if_neg bound]
  exact tags index e.target e.escaped (by rw [getElem?_map, found]; rfl)
    (by rw [getElem?_map, found]; rfl)

section

variable {written : List (Nat × Block)} (active : Activates written homes) {w : Nat × Block}
include active

theorem Activates.targets : written.map (·.1) = homes.map (·.1) := by
  induction active with
  | nil => rfl
  | cons first rest ih => rw [map_cons, map_cons, first.1, ih]

theorem Activates.exists_written {home : Nat × Block} (member : home ∈ homes) :
    ∃ w ∈ written, w.1 = home.1 ∧ HomeContents home.1 home.2 w.2 := by
  induction active with
  | nil => cases member
  | cons first rest ih =>
    rcases mem_cons.mp member with rfl | later
    · exact ⟨_, mem_cons_self, first⟩
    · obtain ⟨w, inside, found⟩ := ih later
      exact ⟨w, mem_cons_of_mem _ inside, found⟩

theorem Activates.exists_home (member : w ∈ written) :
    ∃ home ∈ homes, w.1 = home.1 ∧ HomeContents home.1 home.2 w.2 := by
  induction active with
  | nil => cases member
  | cons first rest ih =>
    rcases mem_cons.mp member with rfl | later
    · exact ⟨_, mem_cons_self, first⟩
    · obtain ⟨home, inside, found⟩ := ih later
      exact ⟨home, mem_cons_of_mem _ inside, found⟩

theorem Activates.superblock (member : w ∈ written) (zero : w.1 = 0) :
    ∃ contents : Block, contents.setRecovery true = .ok w.2 := by
  obtain ⟨home, -, target, contents⟩ := active.exists_home member
  rw [HomeContents, if_pos (target ▸ zero)] at contents
  exact ⟨_, contents⟩

end

/-! ## The preparation of several targets -/

/-- A clean disk and the mount and journal that were read from it; `sequence` is the
sequence number the next transaction gets. -/
structure CleanDisk (mount : Ext4Mount) (journal : JournalProbe) (sequence : BitVec 32)
    (disk : Disk Block) : Prop where
  blockSize : mount.superblock.blockSize = 4096#32
  superblock : Superblock.parse (disk 0).superblock = .ok mount.superblock
  positive : 0 < journal.physicalBlock
  journal : JournalSuperblock.parse (disk journal.physicalBlock).bytes =
    .ok { journal.superblock with sequence, start := 0#32 }

section Plan

variable {device : BlockDevice} {mount : Ext4Mount} {journal : JournalProbe} {disk : Disk Block}
  {crash : Disk Block → Prop}

theorem CleanDisk.uuid_length (clean : CleanDisk mount journal sequence disk) :
    mount.superblock.uuid.length = 16 := by
  obtain ⟨long, -, fields⟩ :=
    Superblock.parseInternal_ok_iff.mp (Superblock.parse_ok_iff.mp clean.superblock).1
  rw [fields]
  show (((disk 0).superblock.drop 104).take 16).length = 16
  rw [length_take, length_drop, (disk 0).superblock_length]
  rfl

/-- The plan of one transaction on the clean disk. -/
structure Prepares (mount : Ext4Mount) (journal : JournalProbe) (sequence : BitVec 32)
    (disk : Disk Block) (plan : CommitPlan) (tx : PreparedTransaction) : Prop where
  superblock : tx.superblock = mount.superblock
  journal : tx.journal = journal
  sequence : tx.sequence = sequence
  disk : tx.disk = disk
  plan : tx.plan = plan

/-- The journal superblock of a clean disk can be activated. -/
theorem CleanDisk.activate (clean : CleanDisk mount journal sequence disk)
    (nonzero : sequence ≠ 0#32) (inside : journal.superblock.firstLogBlock.toNat <
      journal.superblock.maxLength.toNat) :
    ∃ active, (disk journal.physicalBlock).setJournalState sequence
      journal.superblock.firstLogBlock = .ok active := by
  refine Block.setJournalState_of_parse clean.journal nonzero ?_
  exact decide_eq_false fun outside => by
    rcases outside.2 with below | above
    · exact lt_irrefl _ below
    · exact absurd inside (not_lt.mpr above)

theorem ensures_planMultiBlock (clean : CleanDisk mount journal sequence disk) (safe : crash disk) :
    (planMultiBlock device mount journal sequence homes).Ensures crash
      (fun plan s => s = State.settled disk ∧ Activates plan.homes homes ∧
        ∃ tx, Prepares mount journal sequence disk plan tx) (State.settled disk) := by
  have size := clean.blockSize
  have safe' : (State.settled disk).Safe crash := State.safe_settled.mpr safe
  refine .require fun counted => ?_
  refine .sector size ?_
  refine .sector size ?_
  refine .adding ?_
  refine .adding ?_
  refine .adding ?_
  refine .require fun inside => ?_
  refine .require fun targets => ?_
  refine .reading ?_
  refine .require fun _ => ?_
  refine .reading ?_
  refine .expect fun initial _ => ?_
  refine .require fun _ => ?_
  refine .bind (ensures_requireEmpty size safe' fun empty => ?_)
  refine .expect fun activated flagged => ?_
  refine .bind (ensures_activateHomes safe' fun written active => ?_)
  refine .bind (ensures_encodeHomes safe' fun encoded encodes => ?_)
  refine .expect fun descriptor described => ?_
  refine .expect fun commit committed => ?_
  refine ⟨safe', rfl, active, ?_⟩
  have counted := of_decide_eq_true counted
  have inside := of_decide_eq_true inside
  have targetsEq := active.targets
  have writtenLength : written.length = homes.length := active.length_eq
  have encodedLength : encoded.length = homes.length := encodes.length_eq.trans writtenLength
  have nonzero := sequence_ne_zero_of_commit (blockOf_eq_ok_iff.mp committed)
  obtain ⟨distinct, apart⟩ := targetsSafe_spec targets
  obtain ⟨parsed, tags⟩ := parse_descriptor encoded nonzero clean.uuid_length
    (by rw [encodedLength]; exact counted) (blockOf_eq_ok_iff.mp described)
  obtain ⟨journalActive, activation⟩ := clean.activate nonzero (by omega)
  refine ⟨{
    superblock := mount.superblock, journal, sequence, disk, encoded, active := journalActive
    plan := ⟨_, _, _, _, activated, _, descriptor, _, commit, written⟩
    blockSize := size, positive := clean.positive, geometry := clean.journal
    clean := ⟨_, clean.superblock⟩, filesystemSector := rfl, journalSector := rfl
    descriptorBlock := rfl, commitBlock := by rw [writtenLength], inside
    count := by rw [writtenLength]; exact counted
    distinct := by rw [targetsEq]; exact distinct
    outside := ?_, flagged, journalBlock := rfl
    empty := by rw [writtenLength]; exact empty
    superblockFlagged := fun home member zero => active.superblock member zero
    encodes, data := rfl, descriptor := parsed, tags, commit := parse_commit (blockOf_eq_ok_iff.mp committed)
    activated := activation }, rfl, rfl, rfl, rfl, rfl⟩
  intro home member
  have target : home.1 ∈ homes.map (·.1) := targetsEq ▸ mem_map_of_mem member
  exact (apart home.1 target).2.2

end Plan

end SlopOS.Filesystem
