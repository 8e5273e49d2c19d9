import SlopOS.Filesystem.CrashStates

/-!
# Replay of a crashed transaction

The mount on each class of disks a crash can leave.  It keeps a disk before the
transaction, stops on one whose records are missing, and installs the homes its
data records stand for when both delimiting records are there.
-/

namespace SlopOS.Filesystem

open ByteCodec CrashDisk Ext4 List State

/-! ## Decoding the records -/

theorem ensures_decodeHomes {superblock : Superblock} {journal : JournalProbe} {journalEnd : Nat}
    {descriptor : JournalDescriptorBlock} {crash : Disk Block → Prop} {s : State Block}
    {post : List ReplayedHome → State Block → Prop} (safe : s.Safe crash)
    (encoded : List EncodedHome) {data : List Block} {index : Nat} {seen : List Nat}
    (same : encoded.length = data.length) (tags : ∀ i e, encoded[i]? = some e →
      descriptor.tag (index + i) = .ok ⟨e.target, e.escaped⟩)
    (next : post (zipWith (fun e d => ⟨e.target.toNat, d.decoded e.escaped, e.escaped⟩)
      encoded data) s) :
    (decodeHomes superblock journal journalEnd descriptor index seen data).Ensures crash post s := by
  induction data generalizing encoded index seen post with
  | nil =>
    rw [length_eq_zero_iff.mp same] at next
    exact ⟨safe, next⟩
  | cons d rest ih =>
    cases encoded with
    | nil => cases same
    | cons e others =>
      have tag : descriptor.tag index = .ok ⟨e.target, e.escaped⟩ := tags 0 e rfl
      refine .expect fun tag' found => ?_
      cases found.symm.trans tag
      refine .require fun _ => ?_
      refine .expect fun home decoded => ?_
      rw [Block.decodeData_eq] at decoded
      cases decoded
      refine .bind (ih others (Nat.succ.inj same) (fun i e' found => ?_) ⟨safe, next⟩)
      rw [Nat.add_right_comm]
      exact tags (i + 1) e' found

namespace PreparedTransaction

variable {tx : PreparedTransaction} {c : Disk Block}

/-! ## The active journal -/

section

variable (tx : PreparedTransaction)

/-- What the journal superblock of the active journal parses to. -/
def activeSuperblock : JournalSuperblock :=
  { tx.journal.superblock with
    sequence := tx.sequence, start := tx.journal.superblock.firstLogBlock }

theorem parse_active : JournalSuperblock.parse tx.active.bytes = .ok tx.activeSuperblock := by
  obtain ⟨j, parsed, -, -, active⟩ := Block.setJournalState_ok tx.activated
  rw [tx.journalBlock, tx.geometry] at parsed
  cases parsed
  exact active

/-- The homes the data records on a disk stand for. -/
def replayed (c : Disk Block) : List ReplayedHome :=
  List.zipWith (fun e d => ⟨e.target.toNat, Block.decoded d e.escaped, e.escaped⟩) tx.encoded
    ((List.range tx.encoded.length).map fun index => c (tx.plan.descriptorBlock + 1 + index))

/-- Every data record still holds what the commit put there. -/
def DataIntact (c : Disk Block) : Prop :=
  ∀ record ∈ tx.plan.dataRecords, c record.1 = record.2

theorem encoded_length : tx.encoded.length = tx.plan.homes.length :=
  tx.encodes.length_eq

end

theorem activeSuperblock_start : tx.activeSuperblock.start ≠ 0#32 := by
  have positive := tx.firstLogBlock_pos
  intro zero
  rw [show tx.journal.superblock.firstLogBlock = 0#32 from zero] at positive
  exact absurd positive (by decide)

theorem zipWith_decoded {encoded : List EncodedHome} {homes : List (Nat × Block)}
    (encodes : Encodes encoded homes) :
    (zipWith (fun (e : EncodedHome) d => (⟨e.target.toNat, Block.decoded d e.escaped,
      e.escaped⟩ : ReplayedHome)) encoded (encoded.map (·.data))).map
        (fun r => (r.target, r.home)) = homes := by
  induction encodes with
  | nil => rfl
  | @cons e home _ _ first rest ih =>
    rw [map_cons, zipWith_cons_cons, map_cons, ih, first.1, Block.decoded_of_encodeData first.2]

/-- Intact records stand for the homes of the transaction. -/
theorem replayed_of_intact (intact : tx.DataIntact c) :
    (tx.replayed c).map (fun r => (r.target, r.home)) = tx.plan.homes := by
  have data : (range tx.encoded.length).map
      (fun index => c (tx.plan.descriptorBlock + 1 + index)) = tx.encoded.map (·.data) := by
    rw [← tx.data]
    apply ext_getElem
    · rw [length_map, length_range, tx.data, length_map]
    intro index bound bound'
    rw [getElem_map, getElem_range]
    refine intact (tx.plan.descriptorBlock + 1 + index, tx.plan.data[index])
      (tx.mem_dataRecords.mpr ⟨index, ?_, rfl⟩)
    exact getElem?_eq_getElem bound'
  unfold replayed
  rw [data]
  exact zipWith_decoded tx.encodes

/-! ## The scan -/

section Scan

variable {device : BlockDevice} {mount : Ext4Mount} {crash : Disk Block → Prop}
  {post : ReplayPlan → State Block → Prop}

/-- The probe of the active journal. -/
def activeProbe (tx : PreparedTransaction) : JournalProbe :=
  ⟨tx.journal.physicalBlock, tx.activeSuperblock⟩

/-- What the scan of an active journal hands to the replay. -/
def replayPlan (tx : PreparedTransaction) (c : Disk Block) : ReplayPlan :=
  ⟨0 * 8, tx.journal.physicalBlock * 8, tx.plan.descriptorBlock, c 0,
    c tx.journal.physicalBlock, tx.replayed c⟩

/-- The scan returns only with both delimiting records, and then with what the data
records stand for. -/
theorem ensures_scanTransaction (size : mount.superblock.blockSize = 4096#32) (safe : crash c)
    (descriptor : c tx.plan.descriptorBlock = tx.plan.descriptor ∨
      c tx.plan.descriptorBlock = Block.zero)
    (next : c tx.plan.descriptorBlock = tx.plan.descriptor → c tx.plan.commitBlock ≠ Block.zero →
      (superblockHome (tx.replayPlan c).homes).all superblockActive = true →
      post (tx.replayPlan c) (settled c)) :
    (scanTransaction device mount tx.activeProbe).Ensures crash post (settled c) := by
  have safe' : (settled c).Safe crash := safe_settled.mpr safe
  have place : tx.activeProbe.physicalBlock + tx.activeProbe.superblock.start.toNat =
      tx.plan.descriptorBlock := tx.descriptorBlock.symm
  refine .adding ?_
  refine .adding ?_
  refine .sector size ?_
  refine .sector size ?_
  refine .reading ?_
  refine .require fun _ => ?_
  refine .reading ?_
  refine .require fun _ => ?_
  refine .readingBlock size ?_
  refine .expect fun parsed found => ?_
  rw [place] at found ⊢
  -- A cleared descriptor does not parse; the other one is the descriptor of the transaction.
  rcases descriptor with present | missing
  swap
  · rw [settled_view, missing, descriptor_zero] at found
    cases found
  rw [settled_view, present, tx.descriptor] at found
  cases found
  refine .require fun _ => ?_
  refine .adding ?_
  refine .require fun _ => ?_
  refine .bind (ensures_readBlocks size safe' ?_)
  refine .readingBlock size ?_
  refine .expect fun commit committed => ?_
  refine .require fun _ => ?_
  have commitPlace : tx.plan.descriptorBlock + (1 + tx.encoded.length) = tx.plan.commitBlock := by
    rw [tx.commitBlock, tx.encoded_length]
  have committed' : c tx.plan.commitBlock ≠ Block.zero := fun missing => by
    rw [settled_view, commitPlace, missing, commit_zero] at committed
    cases committed
  refine .bind (ensures_decodeHomes safe' tx.encoded ?_ ?_ ?_)
  · rw [length_map, length_map, length_range]
  · intro index e found
    rw [Nat.zero_add]
    exact tx.tags index e found
  · rw [map_map]
    exact .bind (Program.ensures_require fun active =>
      ⟨safe', next present committed' active⟩)

end Scan

/-! ## The replay -/

section Replay

variable {device : BlockDevice} {mount : Ext4Mount}

/-- What a mount that returns makes of the disk `c`: nothing has happened, or the
transaction is finished. -/
def Outcome (tx : PreparedTransaction) (c c' : Disk Block) : Prop :=
  (tx.Old c ∧ c' = tx.disk) ∨ ((tx.Logged c ∨ tx.Done c) ∧ tx.Finished c')

theorem Outcome.reachable {c' : Disk Block} (outcome : tx.Outcome c c') : tx.Reachable c' := by
  rcases outcome with ⟨-, same⟩ | ⟨-, finished⟩
  · rw [same]
    exact tx.old_disk.reachable
  · exact finished.1.reachable

/-- The home of block 0 can be cleared once it is in the log intact. -/
theorem flaggedHome_of_flagged (flagged : tx.Flagged c) :
    (superblockHome tx.plan.homes).getD (c 0) = tx.flaggedHome := by
  unfold flaggedHome
  cases found : superblockHome tx.plan.homes with
  | some home => rfl
  | none =>
    rcases flagged with same | same
    · exact same
    · rw [flaggedHome, found] at same
      exact same

theorem clear_filesystemBlock (tx : PreparedTransaction) :
    tx.plan.filesystemBlock.setRecovery false = .ok (tx.disk 0) := by
  obtain ⟨s, clean⟩ := tx.clean
  exact Block.setRecovery_setRecovery clean tx.flagged

section

variable (size : mount.superblock.blockSize = 4096#32)
include size

/-- Without both delimiting records the replay stops and writes nothing. -/
theorem ensures_replay_stalled {post : JournalRecovery × Ext4Mount → State Block → Prop}
    (stalled : tx.Stalled c) :
    (replayActiveJournal device mount tx.activeProbe).Ensures tx.Reachable post (settled c) := by
  refine .bind (ensures_scanTransaction size stalled.reachable ?_ ?_)
  · rcases stalled.missing with missing | ⟨present, -⟩
    · exact .inr missing
    · exact .inl present
  intro present committed _
  rcases stalled.missing with missing | ⟨-, missing⟩
  · have parsed := tx.descriptor
    rw [← present, missing, descriptor_zero] at parsed
    cases parsed
  · exact absurd missing committed

/-- With its records intact the transaction is installed. -/
theorem ensures_replay_logged (logged : tx.Logged c) (intact : tx.DataIntact c) :
    (replayActiveJournal device mount tx.activeProbe).Ensures tx.Reachable
      (fun _ s => ∃ c', s = settled c' ∧ tx.Finished c') (settled c) := by
  have homes : (tx.replayPlan c).homes = tx.plan.homes := replayed_of_intact intact
  refine .bind (ensures_scanTransaction size logged.reachable
    (.inl logged.descriptor) fun _ _ _ => ?_)
  rw [homes, show (tx.replayPlan c).journalBlock = tx.active from logged.journal]
  refine .bind (ensures_retireTransaction size logged (flaggedHome_of_flagged logged.flagged)
    fun checkpointed cleared c' _ _ finished => ?_)
  have safe := safe_settled.mpr finished.1.reachable
  refine .reading ?_
  refine .expect fun _ _ => ?_
  refine .require fun _ => ?_
  refine .reading ?_
  refine .expect fun _ _ => ?_
  exact .bind (Program.ensures_require fun _ =>
    ⟨safe, c', rfl, finished⟩)

/-- An empty journal: the flag is cleared, before the transaction or after it. -/
theorem ensures_discard {journal : JournalProbe}
    (class_ : (tx.Old c ∧ c 0 = tx.plan.filesystemBlock) ∨ (tx.Done c ∧ c 0 = tx.flaggedHome)) :
    (discardInactiveJournal device mount journal).Ensures tx.Reachable
      (fun _ s => ∃ c', s = settled c' ∧ tx.Outcome c c') (settled c) := by
  have reachable : tx.Reachable c := by
    rcases class_ with ⟨old, -⟩ | ⟨done, -⟩
    · exact old.reachable
    · exact done.reachable
  have safe := safe_settled.mpr reachable
  refine .sector size ?_
  refine .reading ?_
  refine .expect fun cleared clearing => ?_
  have outcome : tx.Outcome c (Function.update c 0 cleared) := by
    rcases class_ with ⟨old, flagged⟩ | ⟨done, flagged⟩
    · refine .inl ⟨old, ?_⟩
      rw [settled_view, flagged, tx.clear_filesystemBlock] at clearing
      cases clearing
      funext block
      by_cases zero : block = 0
      · rw [zero, Function.update_self]
      · rw [Function.update_of_ne zero, old.2 block zero]
    · rw [settled_view, flagged] at clearing
      exact .inr ⟨.inr done, done.clear clearing, by rw [Function.update_self]; exact clearing⟩
  have safe' := safe_settled.mpr outcome.reachable
  refine ensures_update reachable ?_
  refine .reading ?_
  refine .expect fun _ _ => ?_
  refine .require fun _ => ⟨safe', ?_⟩
  exact ⟨_, rfl, outcome⟩

end

/-! ## The mount -/

theorem dirty_filesystemBlock (tx : PreparedTransaction) :
    Superblock.parse tx.plan.filesystemBlock.superblock = .error .dirtyFilesystem :=
  (Block.flagged tx.flagged).1

theorem flaggedHome_flagged (tx : PreparedTransaction) :
    ∃ contents : Block, contents.setRecovery true = .ok tx.flaggedHome := by
  rcases tx.flaggedHome_cases with present | ⟨same, -⟩
  · exact tx.superblockFlagged _ present rfl
  · rw [same]
    exact ⟨_, tx.flagged⟩

theorem Flagged.dirty (flagged : tx.Flagged c) :
    Superblock.parse (c 0).superblock = .error .dirtyFilesystem := by
  rcases flagged with same | same
  · rw [same]
    exact tx.dirty_filesystemBlock
  · rw [same]
    obtain ⟨contents, done⟩ := tx.flaggedHome_flagged
    exact (Block.flagged done).1

/-- A clean superblock is that of a finished transaction or of one that never started. -/
theorem Reachable.outcome_of_clean (reachable : tx.Reachable c) {sb : Superblock}
    (clean : Superblock.parse (c 0).superblock = .ok sb) : tx.Outcome c c := by
  have notFlagged : ¬ tx.Flagged c := fun flagged => by
    rw [flagged.dirty] at clean
    cases clean
  rcases reachable with old | stalled | logged | done
  · rcases old.1 with same | flagged
    · refine .inl ⟨old, ?_⟩
      funext block
      by_cases zero : block = 0
      · rw [zero, same]
      · exact old.2 block zero
    · exact absurd (.inl flagged) notFlagged
  · exact absurd stalled.flagged notFlagged
  · exact absurd logged.flagged notFlagged
  · rcases done.superblock with flagged | cleared
    · exact absurd (.inr flagged) notFlagged
    · exact .inr ⟨.inr done, done, cleared⟩

/-- The journal of a dirty disk is empty with a flag to clear, or it is active. -/
theorem Reachable.journal_of_dirty (reachable : tx.Reachable c)
    (dirty : Superblock.parse (c 0).superblock = .error .dirtyFilesystem) {j : JournalSuperblock}
    (parsed : JournalSuperblock.parse (c tx.journal.physicalBlock).bytes = .ok j) :
    (j.start = 0#32 ∧ ((tx.Old c ∧ c 0 = tx.plan.filesystemBlock) ∨
      (tx.Done c ∧ c 0 = tx.flaggedHome))) ∨
    (j = tx.activeSuperblock ∧ (tx.Stalled c ∨ tx.Logged c)) := by
  have active (journal : c tx.journal.physicalBlock = tx.active) : j = tx.activeSuperblock := by
    rw [journal, parse_active] at parsed
    exact (Except.ok.inj parsed).symm
  rcases reachable with old | stalled | logged | done
  · left
    have positive := tx.positive
    rw [old.2 _ (by omega), tx.geometry] at parsed
    cases parsed
    refine ⟨rfl, .inl ⟨old, ?_⟩⟩
    rcases old.1 with same | flagged
    · obtain ⟨s, clean⟩ := tx.clean
      rw [same, clean] at dirty
      cases dirty
    · exact flagged
  · exact .inr ⟨active stalled.journal, .inl stalled⟩
  · exact .inr ⟨active logged.journal, .inr logged⟩
  · left
    obtain ⟨j', -, -, -, empty⟩ := Block.setJournalState_ok done.journal
    rw [empty] at parsed
    cases parsed
    refine ⟨rfl, .inr ⟨done, ?_⟩⟩
    rcases done.superblock with flagged | cleared
    · exact flagged
    · obtain ⟨sb, clean⟩ := Block.cleared cleared
      rw [clean] at dirty
      cases dirty

end Replay

end PreparedTransaction

/-- A mount that has to recover finds the journal at `block`. -/
def Locates (device : BlockDevice) (block : Nat) (c : Disk Block) : Prop :=
  ∀ mount s journal mount' s',
    (openMount device).run (State.settled c) = .ok ((mount, true), s) →
    (mount.probeJournal device).run s = .ok ((journal, mount'), s') → journal.physicalBlock = block

/-- A mount that finds its journal at `block` returns with a clean superblock, or does what
the replay of that journal does. -/
theorem ensures_mount_cases {device : BlockDevice} {c : Disk Block} {block : Nat}
    {crash : Disk Block → Prop} {post : Ext4Mount → State Block → Prop} (safe : crash c)
    (located : Locates device block c)
    (clean : ∀ mount : Ext4Mount, Superblock.parse (c 0).superblock = .ok mount.superblock →
      post mount (settled c)) (replay : ∀ (mount : Ext4Mount) (superblock : JournalSuperblock),
      mount.superblock.blockSize = 4096#32 →
      Superblock.parse (c 0).superblock = .error .dirtyFilesystem →
      JournalSuperblock.parse (c block).bytes = .ok superblock →
      (mount.replayJournalTransaction device ⟨block, superblock⟩).Ensures crash
        (fun r s => s.Safe crash ∧ post { r.2 with recovery := some r.1 } s) (settled c)) :
    (Ext4Mount.mount device).Ensures crash post (settled c) := by
  have safe' : (settled c).Safe crash := safe_settled.mpr safe
  have opened : (openMount device).Ensures crash
      (fun r s => s = settled c ∧ r.1.superblock.blockSize = 4096#32 ∧
        r.1.cache.Consistent c ∧
        (r.2 = true → Superblock.parse (c 0).superblock = .error .dirtyFilesystem) ∧
        (r.2 = false → Superblock.parse (c 0).superblock = .ok r.1.superblock))
      (settled c) :=
    ensures_openMount safe' fun mount required size consistent dirty clean =>
      ⟨rfl, size, consistent, dirty, clean⟩
  refine .bind (opened.with_run.mono ?_)
  intro found s held
  obtain ⟨mount, required⟩ := found
  obtain ⟨⟨rfl, size, consistent, dirty, unflagged⟩, ran⟩ := held
  cases required with
  | false => exact ⟨safe', clean mount (unflagged rfl)⟩
  | true =>
    have probed : (mount.probeJournal device).Ensures crash
        (fun r s => s = settled c ∧ r.2.superblock = mount.superblock ∧
          JournalSuperblock.parse (c r.1.physicalBlock).bytes = .ok r.1.superblock)
        (settled c) :=
      ensures_probeJournal size safe' consistent fun journal cache _ parsed => ⟨rfl, rfl, parsed⟩
    refine .bind (probed.with_run.mono ?_)
    intro found s held
    obtain ⟨⟨physicalBlock, superblock⟩, mount'⟩ := found
    obtain ⟨⟨rfl, same, parsed⟩, ran'⟩ := held
    have place : physicalBlock = block :=
      located mount _ ⟨physicalBlock, superblock⟩ mount' _ ran ran'
    subst place
    have size' : mount'.superblock.blockSize = 4096#32 := by
      rw [same]
      exact size
    exact .bind (replay mount' superblock size' (dirty rfl) parsed)

namespace PreparedTransaction

variable {tx : PreparedTransaction} {c : Disk Block} {device : BlockDevice}

/-- A mount keeps the disk among those of the transaction, and when it returns the
transaction is finished or never happened. -/
theorem ensures_mount (reachable : tx.Reachable c)
    (located : Locates device tx.journal.physicalBlock c) (intact : tx.Logged c → tx.DataIntact c) :
    (Ext4Mount.mount device).Ensures tx.Reachable
      (fun _ s => ∃ c', s = settled c' ∧ tx.Outcome c c') (settled c) := by
  apply ensures_mount_cases reachable located
  · intro mount clean
    exact ⟨c, rfl, reachable.outcome_of_clean clean⟩
  intro mount superblock size dirty parsed
  have replayed : (mount.replayJournalTransaction device ⟨tx.journal.physicalBlock,
      superblock⟩).Ensures tx.Reachable (fun _ s => ∃ c', s = settled c' ∧ tx.Outcome c c')
      (settled c) := by
    unfold Ext4Mount.replayJournalTransaction
    rcases reachable.journal_of_dirty dirty parsed with ⟨empty, inactive⟩ | ⟨active, present⟩
    · rw [if_pos empty]
      exact ensures_discard size inactive
    rw [if_neg (by rw [active]; exact activeSuperblock_start), active]
    rcases present with stalled | logged
    · exact ensures_replay_stalled size stalled
    apply (ensures_replay_logged size logged (intact logged)).mono
    intro _ s held
    obtain ⟨c', same, finished⟩ := held
    exact ⟨c', same, .inr ⟨.inl logged, finished⟩⟩
  apply replayed.mono
  intro result s held
  obtain ⟨c', rfl, outcome⟩ := held
  exact ⟨safe_settled.mpr outcome.reachable, c', rfl, outcome⟩

end PreparedTransaction

end SlopOS.Filesystem
