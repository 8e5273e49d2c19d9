import SlopOS.Virtio.Refinement

/-!
# Calls against the sequential device

Every run of the driver with a device that follows the rules of the queue looks, call by
call, like a run of the sequential block device, however long it is.
-/

namespace SlopOS.Virtio

open RangeMap List

variable {driver : BlockDevice} {start : Medium} {history : List Call} {s boot : System}
  {call : Call}

theorem invariant_of_runs (run : Runs (System.boot driver start) history s) :
    Invariant start history s := by
  induction run with
  | start => exact invariant_boot driver start
  | call run phase ok ih => exact ih.starts phase ok
  | refuse => exact trivial
  | step run step ih => exact ih.step step

/-- What a run has in common with the sequential device. -/
structure Refines (start : Medium) (history : List Call) (s : System) : Prop where
  /-- When a call has returned, the device owns nothing, it has reported exactly the chains of
  the calls so far, call by call, and its medium is that of the sequential device. -/
  returned : s.phase = .idle → s.owned = [] ∧ Logged history s.device.reported ∧
    s.device.medium = contents start history
  /-- The data pages then show the sectors of the call. -/
  shown : s.phase = .idle → ∀ call, history.getLast? = some call →
    ∀ transfer ∈ call.transfers, s.driver.pairData s.memory transfer.1 transfer.2.2 =
      .ok (view (contents start history) (transfer.2.1.toNat * SECTOR_SIZE) transfer.2.2)
  /-- The driver stores nothing but the doorbell while the device owns a chain. -/
  undisturbed : ∀ store rest expected slots,
    s.phase = .storing (store :: rest) expected slots → store = .notify ∨ s.owned = []
  /-- A call that waits can be completed by the device. -/
  progress : ∀ expected slots, s.phase = .waiting expected slots →
    ∃ s', Relation.ReflTransGen DeviceMoves s s' ∧ s'.memory.pollReady expected = true

theorem Quiet.owned (quiet : Quiet s.memory s.device) : s.owned = [] := by
  unfold System.owned System.unfetched
  rw [quiet.fetched, quiet.performed, quiet.available, BitVec.sub_self]
  rfl

theorem Call.transfer_request {transfer : Fin REQUEST_SLOT_COUNT × BitVec 64 × Nat}
    (member : transfer ∈ call.transfers) {bytes : Nat → BitVec 8} {medium : Medium}
    (shown : ∀ p ∈ call.requests driver, p.2.Shown bytes medium) :
    view bytes (driver.dataPage transfer.1) transfer.2.2 =
      view medium (transfer.2.1.toNat * SECTOR_SIZE) transfer.2.2 := by
  cases call with
  | read | write =>
    cases mem_singleton.mp member
    exact shown _ mem_cons_self
  | readPair =>
    simp only [transfers, mem_cons, not_mem_nil, or_false] at member
    rcases member with rfl | rfl
    · exact shown _ mem_cons_self
    · exact shown _ (mem_cons_of_mem _ mem_cons_self)
  | flush => cases member

/-- Device steps as moves of the system. -/
theorem deviceMoves_of_steps {memory : Memory} {state : DeviceState}
    (steps : Relation.ReflTransGen (DeviceStep s.driver.queueSize
      s.driver.capacitySectors.toNat) (s.memory, s.device) (memory, state)) :
    Relation.ReflTransGen DeviceMoves s { s with memory, device := state } := by
  have general : ∀ next : Memory × DeviceState, Relation.ReflTransGen
      (DeviceStep s.driver.queueSize s.driver.capacitySectors.toNat) (s.memory, s.device) next →
      Relation.ReflTransGen DeviceMoves s { s with memory := next.1, device := next.2 } := by
    intro next steps
    induction steps with
    | refl => exact .refl
    | tail _ last ih => exact ih.tail ⟨rfl, rfl, last⟩
  exact general (memory, state) steps

/-- Every run refines the sequential block device. -/
theorem virtqueue_refines (run : Runs (System.boot driver start) history s) :
    Refines start history s := by
  have invariant := invariant_of_runs run
  unfold Invariant at invariant
  refine ⟨?_, ?_, ?_, ?_⟩
  · intro phase
    rw [phase] at invariant
    exact ⟨invariant.quiet.owned, invariant.log, invariant.medium⟩
  · intro phase call last transfer member
    rw [phase] at invariant
    obtain ⟨accepted, shown⟩ := invariant.shown call last
    have fits := (accepted transfer member).1
    unfold BlockDevice.pairData BlockDevice.slotData
    rw [dif_pos transfer.1.isLt, if_neg (Nat.not_lt_of_le fits)]
    exact congrArg Except.ok (Call.transfer_request member shown)
  · intro store rest expected slots phase
    rw [phase] at invariant
    obtain ⟨earlier, call, rfl, rfl, rfl, preparing | calling⟩ := invariant
    · obtain ⟨remaining, next, preparing⟩ := preparing
      exact .inr preparing.quiet.owned
    rcases calling.1 with doorbell | none
    · cases doorbell
      exact .inl rfl
    · cases none
  · intro expected slots phase
    rw [phase] at invariant
    obtain ⟨earlier, call, rfl, rfl, rfl, index, log, unfetched, reported, logged, active⟩ :=
      invariant
    obtain ⟨memory, state, reported', steps, done, fetched, performed, same, _⟩ := active.finishes
    refine ⟨_, deviceMoves_of_steps steps, decide_eq_true ?_⟩
    rw [index, ← same]
    exact done.ready_iff.mpr ⟨rfl, fetched, performed⟩

/-! ## Calls return -/

theorem Runs.steps {history : List Call} {s s' : System} (run : Runs boot history s)
    (steps : Relation.ReflTransGen DeviceMoves s s') : Runs boot history s' := by
  induction steps with
  | refl => exact run
  | tail _ last ih => exact ih.step (.device last)

/-- The driver carries out its stores and waits. -/
theorem Runs.stores {rest : List Store} {expected : BitVec 16}
    {slots : List (Fin REQUEST_SLOT_COUNT)} (run : Runs boot history s)
    (phase : s.phase = .storing rest expected slots) : Runs boot history { s with
      memory := s.memory.storeAll rest
      phase := .waiting expected slots } := by
  induction rest generalizing s with
  | nil => exact run.step (.await phase)
  | cons store rest ih => exact ih (run.step (.store phase)) rfl

theorem validateStatus_forM {slots : List (Fin REQUEST_SLOT_COUNT)} {memory : Memory}
    (valid : ∀ slot ∈ slots, memory.bytes (driver.statusAddress slot) = BLOCK_STATUS_OK) :
    slots.forM (driver.validateStatus memory) = .ok () := by
  induction slots with
  | nil => rfl
  | cons first rest ih =>
    have here : driver.validateStatus memory first = .ok () := by
      unfold BlockDevice.validateStatus
      rw [if_neg (not_not.mpr (valid first mem_cons_self))]
    show (driver.validateStatus memory first >>= fun _ =>
      rest.forM (driver.validateStatus memory)) = _
    rw [here]
    exact ih fun slot member => valid slot (mem_cons_of_mem _ member)

/-- The driver takes every call whose transfers are in range. -/
theorem start_of_valid (valid : ∀ transfer ∈ call.transfers,
      driver.validateTransfer transfer.2.1 transfer.2.2 = .ok ())
    (flushes : call = .flush → driver.flushSupported = true) :
    ∃ started, driver.start call = .ok started := by
  cases call with
  | read sector byteCount =>
    have ok : driver.validateTransfer sector byteCount = .ok () := valid _ mem_cons_self
    rw [BlockDevice.start, ok]
    exact ⟨_, publish_heads driver (.read sector byteCount) _⟩
  | readPair firstSector secondSector byteCount =>
    have ok : driver.validateTransfer firstSector byteCount = .ok () := valid _ mem_cons_self
    have ok' : driver.validateTransfer secondSector byteCount = .ok () :=
      valid _ (mem_cons_of_mem _ mem_cons_self)
    rw [BlockDevice.start, ok, ok']
    exact ⟨_, publish_heads driver (.readPair firstSector secondSector byteCount) _⟩
  | write sector data =>
    have ok : driver.validateTransfer sector data.length = .ok () := valid _ mem_cons_self
    rw [BlockDevice.start, ok]
    exact ⟨_, publish_heads driver (.write sector data) _⟩
  | flush =>
    rw [BlockDevice.start, if_pos (flushes rfl)]
    exact ⟨_, publish_heads driver .flush _⟩

/-- After any run every call that is accepted can return. -/
theorem call_returns {started : BlockDevice.Started}
    (run : Runs (System.boot driver start) history s) (phase : s.phase = .idle)
    (ok : s.driver.start call = .ok started) :
    ∃ s', Runs (System.boot driver start) (history ++ [call]) s' ∧ s'.phase = .idle ∧
      s'.driver = started.device := by
  have rested := invariant_of_runs run
  unfold Invariant at rested
  rw [phase] at rested
  obtain ⟨accepted, expected, device, stores, split, preparation⟩ := start_ok ok
  have prepared := preparation.prepared s.memory
  have indices := @Memory.storeAll_indices s.memory stores preparation.preparation
  rw [rested.index] at prepared expected
  have active := Active.publish ⟨rested.quiet.fetched, rested.quiet.performed,
    indices.1.trans rested.quiet.available, indices.2.trans rested.quiet.used⟩ accepted prepared
  have fine := active.outcome.resolve_right (by
    intro faulty
    obtain ⟨p, _, done, _⟩ := faulty
    rw [rested.quiet.performed] at done
    cases done)
  rw [← expected] at active fine
  obtain ⟨memory, state, reported, steps, complete, fetched, performed, index, kept⟩ :=
    active.finishes
  have waiting := (run.call phase ok).stores rfl
  rw [split, Memory.storeAll_append, device] at waiting
  have moved := waiting.steps (deviceMoves_of_steps steps)
  have ready : memory.usedIndex = started.expectedUsedIndex :=
    (complete.ready_iff.mpr ⟨rfl, fetched, performed⟩).trans index
  have valid : call.slots.forM (s.driver.validateStatus memory) = .ok () := by
    apply validateStatus_forM
    intro slot member
    rw [Call.slots_eq s.driver] at member
    obtain ⟨p, inside, rfl⟩ := mem_map.mp member
    rw [← Call.request_status inside]
    apply ((kept fine).shown p inside _).2
    rw [performed]
    have all := complete.chains
    rw [fetched, performed, nil_append] at all
    apply all.symm.subset
    rw [Call.heads_eq s.driver]
    exact mem_map_of_mem inside
  exact ⟨_, moved.step (.complete rfl (decide_eq_true ready) valid), rfl, device.symm⟩

/-! ## A run -/

/-- Four frames from the second megabyte on. -/
def smallSlots : RequestSlots where
  slot i := ⟨0x100000 + 8192 * i, 0x101000 + 8192 * i⟩
  bounded := by decide
  controlApart := by decide
  dataApart := by decide
  apart := by decide

def smallDriver : BlockDevice :=
  ⟨smallSlots, 8#16, 16#64, true, 0#16, ⟨256#16, by decide⟩, by decide⟩

def smallData : Bytes := List.replicate 512 7#8

/-- A write and a paired read of the same and of another sector. -/
theorem virtqueue_refines_pair : ∃ s, Runs (System.boot smallDriver fun _ => 0#8)
      [.write 3#64 smallData, .readPair 3#64 4#64 512] s ∧
    s.driver.pairData s.memory 0 512 = .ok smallData ∧
    s.driver.pairData s.memory 1 512 = .ok (List.replicate 512 0#8) := by
  obtain ⟨first, ok⟩ := @start_of_valid (System.boot smallDriver fun _ => 0#8).driver
    (.write 3#64 smallData) (by decide +kernel) Call.noConfusion
  obtain ⟨s, run, idle, driver⟩ := @call_returns smallDriver (fun _ => 0#8) _ _ _ _ .start rfl ok
  obtain ⟨_, _, device, _⟩ := start_ok ok
  have valid : ∀ transfer ∈ (Call.readPair 3#64 4#64 512).transfers,
      smallDriver.validateTransfer transfer.2.1 transfer.2.2 = .ok () := by decide +kernel
  obtain ⟨second, ok'⟩ := @start_of_valid s.driver (.readPair 3#64 4#64 512) (by
    rw [driver, device]
    exact valid) Call.noConfusion
  obtain ⟨s', run', idle', _⟩ := call_returns run idle ok'
  have shown := (virtqueue_refines run').shown idle' _ rfl
  -- The medium holds the data at sector 3 and zeros elsewhere.
  have medium : contents (fun _ => 0#8) ([] ++ [.write 3#64 smallData] ++
      [.readPair 3#64 4#64 512]) = put (fun _ => 0#8) ((3#64).toNat * SECTOR_SIZE) smallData := by
    rw [contents, foldl_append, foldl_append, foldl_nil, foldl_cons, foldl_nil, foldl_cons,
      foldl_nil, Call.apply, Call.apply]
  have length : smallData.length = 512 := length_replicate
  have stored := @view_put_self _ (fun _ => 0#8) ((3#64).toNat * SECTOR_SIZE) smallData
  have zeros : view (fun _ => 0#8) ((4#64).toNat * SECTOR_SIZE) 512 = replicate 512 0#8 := by
    rw [view, map_const', length_range]
  rw [length] at stored
  rw [medium] at shown
  refine ⟨s', run', (shown (0, 3#64, 512) mem_cons_self).trans (congrArg _ stored),
    (shown (1, 4#64, 512) (mem_cons_of_mem _ mem_cons_self)).trans (congrArg _ ?_)⟩
  exact (view_put_apart (.inl (by rw [length]; decide))).trans zeros

end SlopOS.Virtio
