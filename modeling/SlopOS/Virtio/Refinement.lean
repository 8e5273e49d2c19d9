import SlopOS.Virtio.Requests

/-!
# The queue refines a sequential block device

Between calls the device owns nothing and its medium is that of the sequential device.
During a call every chain of the call is in exactly one of four places: in the ring, fetched,
performed or reported.  The two 16-bit indices differ by the number of chains that are
not reported yet, which is at most two, so that they meet only when all are.
-/

namespace SlopOS.Virtio

open RangeMap List
open BlockDevice (headOf)

variable {driver : BlockDevice} {call : Call} {bytes bytes' : Nat → BitVec 8}
  {medium before : Medium} {p p' : Fin REQUEST_SLOT_COUNT × Request} {request : Request}
  {memory : Memory} {state : DeviceState}

/-! ## One request -/

/-- The buffer of the request shows its sectors. -/
def Request.Shown (bytes : Nat → BitVec 8) (medium : Medium) : Request → Prop
  | .input sector address length _ =>
      view bytes address length = view medium (sector.toNat * SECTOR_SIZE) length
  | .output sector address length _ =>
      view bytes address length = view medium (sector.toNat * SECTOR_SIZE) length
  | .flush _ => True

/-- The buffer and the status byte of a request. -/
def Request.covers : Request → Nat → Prop
  | .input _ address length status, a => (address ≤ a ∧ a < address + length) ∨ a = status
  | .output _ address length status, a => (address ≤ a ∧ a < address + length) ∨ a = status
  | .flush status, a => a = status

theorem Request.covers_status (request : Request) : request.covers request.status := by
  cases request with
  | input => exact .inr rfl
  | output => exact .inr rfl
  | flush => exact rfl

theorem Request.Shown.congr (shown : request.Shown bytes medium)
    (same : ∀ a, request.covers a → bytes' a = bytes a) : request.Shown bytes' medium := by
  cases request with
  | input | output =>
    refine Eq.trans (view_congr ?_) shown
    intro offset inside
    exact same _ (.inl (by omega))
  | flush status => exact trivial

theorem Request.perform_outside {a : Nat} (outside : ¬ request.writes a) :
    (request.perform bytes medium).1 a = bytes a := by
  cases request with
  | input sector address length status =>
    simp only [writes, not_or] at outside
    refine (put_singleton_ne outside.2).trans (put_outside ?_)
    rw [view_length]
    omega
  | output | flush => exact put_singleton_ne outside

theorem Request.perform_status (request : Request) :
    (request.perform bytes medium).1 request.status = BLOCK_STATUS_OK := by
  cases request <;> exact put_singleton_self

/-! ## The requests of a call -/

section

variable (member : p ∈ call.requests driver) (member' : p' ∈ call.requests driver) (other : p' ≠ p)
include member member' other

/-- Only a paired read has two requests. -/
theorem Call.two_requests : ∃ firstSector secondSector byteCount,
      call = .readPair firstSector secondSector byteCount := by
  cases call with
  | readPair firstSector secondSector byteCount => exact ⟨_, _, _, rfl⟩
  | _ =>
    have same := (mem_singleton.mp member').trans (mem_singleton.mp member).symm
    exact absurd same other

/-- A call with two requests only reads. -/
theorem Call.apply_of_two : call.apply medium = medium := by
  obtain ⟨firstSector, secondSector, byteCount, rfl⟩ := two_requests member member' other
  rfl

end

theorem Call.length_le (accepted : call.Accepted driver) :
    ∀ transfer ∈ call.transfers, transfer.2.2 ≤ DATA_PAGE_SIZE :=
  fun transfer member => (accepted transfer member).1

/-- What one request of a call may write is not part of another one. -/
theorem Call.requests_apart (accepted : call.Accepted driver) (member : p ∈ call.requests driver)
    (member' : p' ∈ call.requests driver) (other : p' ≠ p) {a : Nat} (covered : p'.2.covers a) :
    ¬ p.2.writes a := by
  obtain ⟨firstSector, secondSector, byteCount, rfl⟩ := two_requests member member' other
  have fits := length_le accepted _ mem_cons_self
  have apart : ∀ slot slot' : Fin REQUEST_SLOT_COUNT, ∀ sector sector', slot ≠ slot' →
      (driver.inputRequest slot' sector' byteCount).covers a →
      ¬ (driver.inputRequest slot sector byteCount).writes a := by
    intro slot slot' sector sector' distinct covered written
    have data := driver.requestSlots.dataApart slot slot' distinct
    have control := driver.requestSlots.controlApart slot slot' distinct
    have status := status_apart driver slot slot' fits
    have status' := status_apart driver slot' slot fits
    simp only [BlockDevice.inputRequest, Request.covers, Request.writes, BlockDevice.dataPage,
      BlockDevice.statusAddress, DATA_PAGE_SIZE] at *
    omega
  simp only [requests, mem_cons, not_mem_nil, or_false] at member member'
  rcases member with rfl | rfl <;> rcases member' with rfl | rfl
  · exact absurd rfl other
  · exact apart 0 1 _ _ (by decide) covered
  · exact apart 1 0 _ _ (by decide) covered
  · exact absurd rfl other

section Performing

variable (member : p ∈ call.requests driver) (accepted : call.Accepted driver)
  (data : ∀ sector data, call = .write sector data →
    view bytes (driver.dataPage 0) data.length = data)

include member data

theorem perform_medium : (p.2.perform bytes medium).2 = call.apply medium := by
  cases call with
  | read | flush => cases mem_singleton.mp member; rfl
  | readPair =>
    simp only [Call.requests, mem_cons, not_mem_nil, or_false] at member
    rcases member with rfl | rfl <;> rfl
  | write sector written =>
    cases mem_singleton.mp member
    show put medium _ (view bytes _ _) = put medium _ written
    rw [data sector written rfl]

include accepted

theorem perform_shown : p.2.Shown (p.2.perform bytes medium).1 (call.apply medium) := by
  have fits := Call.length_le accepted
  have input : ∀ slot sector byteCount, byteCount ≤ DATA_PAGE_SIZE →
      (driver.inputRequest slot sector byteCount).Shown
        ((driver.inputRequest slot sector byteCount).perform bytes medium).1 medium := by
    intro slot sector byteCount small
    refine (view_put_singleton (status_apart driver slot slot small)).trans ?_
    have self := @view_put_self _ bytes (driver.dataPage slot)
      (view medium (sector.toNat * SECTOR_SIZE) byteCount)
    rw [view_length] at self
    exact self
  cases call with
  | read sector byteCount =>
    cases mem_singleton.mp member
    exact input 0 sector byteCount (fits _ mem_cons_self)
  | readPair firstSector secondSector byteCount =>
    simp only [Call.requests, mem_cons, not_mem_nil, or_false] at member
    rcases member with rfl | rfl
    · exact input 0 firstSector byteCount (fits _ mem_cons_self)
    · exact input 1 secondSector byteCount (fits _ mem_cons_self)
  | write sector written =>
    cases mem_singleton.mp member
    refine (view_put_singleton (status_apart driver 0 0 (fits _ mem_cons_self))).trans ?_
    rw [data sector written rfl]
    exact view_put_self.symm
  | flush =>
    cases mem_singleton.mp member
    exact trivial

/-- The data of a write stays in its page. -/
theorem perform_data (sector : BitVec 64) (written : Bytes) (write : call = .write sector written) :
    view (p.2.perform bytes medium).1 (driver.dataPage 0) written.length = written := by
  subst write
  cases mem_singleton.mp member
  have fits := Call.length_le accepted _ mem_cons_self
  exact (view_put_singleton (status_apart driver 0 0 fits)).trans (data sector written rfl)

end Performing

/-! ## The device during a call -/

/-- Every chain performed so far was, without an error. -/
structure Fine (driver : BlockDevice) (call : Call) (before : Medium) (done : BitVec 16 → Prop)
    (bytes : Nat → BitVec 8) (medium : Medium) : Prop where
  shown : ∀ p ∈ call.requests driver, done (headOf p.1) →
    p.2.Shown bytes (call.apply before) ∧ bytes p.2.status = BLOCK_STATUS_OK
  data : ∀ sector data, call = .write sector data →
    view bytes (driver.dataPage 0) data.length = data
  pending : ∀ p ∈ call.requests driver, ¬ done (headOf p.1) → medium = before
  complete : (∀ p ∈ call.requests driver, done (headOf p.1)) →
    medium = call.apply before

/-- A performed chain has reported an error. -/
def Faulty (driver : BlockDevice) (call : Call) (done : BitVec 16 → Prop)
    (bytes : Nat → BitVec 8) : Prop :=
  ∃ p ∈ call.requests driver, done (headOf p.1) ∧
    bytes p.2.status ≠ BLOCK_STATUS_OK

section Done

variable {done reported : List (BitVec 16)}

/-- A request is done after `p` if it is `p` or was done before. -/
theorem done_cases (member : p ∈ call.requests driver) (member' : p' ∈ call.requests driver)
    (inside : headOf p'.1 ∈ done ++ [headOf p.1] ++ reported) :
    p' = p ∨ (p' ≠ p ∧ headOf p'.1 ∈ done ++ reported) := by
  by_cases same : p' = p
  · exact .inl same
  refine .inr ⟨same, ?_⟩
  simp only [mem_append, mem_singleton] at inside ⊢
  rcases inside with (old | new) | old
  · exact .inl old
  · exact absurd (Call.request_unique member' member new) same
  · exact .inr old

variable (accepted : call.Accepted driver) (member : p ∈ call.requests driver)
  (fresh : headOf p.1 ∉ done ++ reported)

include accepted member fresh

theorem Fine.perform (fine : Fine driver call before (· ∈ done ++ reported) bytes medium) :
    Fine driver call before (· ∈ done ++ [headOf p.1] ++ reported)
      (p.2.perform bytes medium).1 (p.2.perform bytes medium).2 := by
  rw [fine.pending p member fresh]
  refine ⟨?_, ?_, ?_, ?_⟩
  · intro p' member' inside
    rcases done_cases member member' inside with rfl | ⟨other, old⟩
    · exact ⟨perform_shown member accepted fine.data, p'.2.perform_status⟩
    have kept : ∀ a, p'.2.covers a → (p.2.perform bytes before).1 a = bytes a :=
      fun a covered => Request.perform_outside
        (Call.requests_apart accepted member member' other covered)
    obtain ⟨shown, status⟩ := fine.shown p' member' old
    exact ⟨shown.congr kept, (kept _ p'.2.covers_status).trans status⟩
  · exact perform_data member accepted fine.data
  · intro p' member' pending
    rw [perform_medium member fine.data]
    apply Call.apply_of_two member member'
    intro same
    rw [same] at pending
    exact pending (by simp)
  · intro _
    rw [perform_medium member fine.data]

theorem Faulty.perform (faulty : Faulty driver call (· ∈ done ++ reported) bytes) :
    Faulty driver call (· ∈ done ++ [headOf p.1] ++ reported) (p.2.perform bytes medium).1 := by
  obtain ⟨p', member', inside, status⟩ := faulty
  have other : p' ≠ p := by
    intro same
    rw [same] at inside
    exact fresh inside
  refine ⟨p', member', ?_, ?_⟩
  · simp only [mem_append] at inside ⊢
    rcases inside with old | old
    · exact .inl (.inl old)
    · exact .inr old
  · rw [Request.perform_outside (Call.requests_apart accepted member member' other
      p'.2.covers_status)]
    exact status

end Done

/-- The chains of the call are published: each is in the ring, fetched, performed or
reported. -/
structure Active (driver : BlockDevice) (call : Call) (before : Medium)
    (earlier unfetched reported : List (BitVec 16)) (memory : Memory) (state : DeviceState) :
    Prop where
  accepted : call.Accepted driver
  chains : (unfetched ++ state.fetched ++ state.performed ++ reported).Perm call.heads
  log : state.reported = earlier ++ reported
  available : memory.availableIndex = state.lastAvailable + BitVec.ofNat 16 unfetched.length
  used : memory.usedIndex + BitVec.ofNat 16 (unfetched.length + state.fetched.length +
    state.performed.length) = memory.availableIndex
  entries : ∀ (offset : Nat) (head : BitVec 16), unfetched[offset]? = some head →
    memory.availableRing
      ((state.lastAvailable + BitVec.ofNat 16 offset) % driver.queueSize).toNat = head
  requests : ∀ p ∈ call.requests driver,
    memory.request driver.queueSize (headOf p.1) = some p.2
  outcome : Fine driver call before (· ∈ state.performed ++ reported) memory.bytes state.medium ∨
    Faulty driver call (· ∈ state.performed ++ reported) memory.bytes

namespace Active

variable {earlier unfetched reported : List (BitVec 16)} {memory' : Memory} {state' : DeviceState}
  {head : BitVec 16}

section

variable (active : Active driver call before earlier unfetched reported memory state)
include active

/-- At most two chains are on their way. -/
theorem length_le : unfetched.length + state.fetched.length + state.performed.length ≤ 2 := by
  have length := active.chains.length_eq
  have bound := call.heads_length
  simp only [length_append] at length
  omega

/-- A fetched chain is one of the call and has not been performed. -/
theorem request_of_fetched {first rest : List (BitVec 16)}
    (chosen : state.fetched = first ++ head :: rest) :
    ∃ p ∈ call.requests driver, head = headOf p.1 ∧
      memory.request driver.queueSize head = some p.2 ∧ head ∉ state.performed ++ reported := by
  have inside : head ∈ call.heads := by
    apply active.chains.subset
    rw [chosen]
    simp
  rw [Call.heads_eq driver] at inside
  obtain ⟨p, member, rfl⟩ := mem_map.mp inside
  refine ⟨p, member, rfl, active.requests p member, ?_⟩
  have nodup := active.chains.nodup_iff.mpr call.heads_nodup
  rw [chosen] at nodup
  intro performed
  rw [append_assoc, nodup_append] at nodup
  exact nodup.2.2 _ (by simp) _ performed rfl

theorem fetch (published : state.lastAvailable ≠ memory.availableIndex) :
    ∃ rest, Active driver call before earlier rest reported memory { state with
      lastAvailable := state.lastAvailable + 1#16
      fetched := state.fetched ++
        [memory.availableRing (state.lastAvailable % driver.queueSize).toNat] } ∧
      rest.length < unfetched.length := by
  cases unfetched with
  | nil =>
    have same := active.available
    rw [length_nil, BitVec.add_zero] at same
    exact absurd same.symm published
  | cons head rest =>
    have here := active.entries 0 head rfl
    rw [BitVec.add_zero] at here
    rw [here]
    refine ⟨rest, ⟨active.accepted, ?_, active.log, ?_, ?_, ?_, active.requests, active.outcome⟩,
      Nat.lt_succ_self _⟩
    · refine trans ?_ active.chains
      rw [perm_iff_count]
      intro a
      simp only [count_append, count_cons, count_nil]
      omega
    · have available := active.available
      rw [available, length_cons]
      show _ = state.lastAvailable + 1#16 + _
      rw [Nat.add_comm, BitVec.ofNat_add, BitVec.add_assoc]
    · refine Eq.trans ?_ active.used
      show memory.usedIndex + BitVec.ofNat 16 (rest.length + (state.fetched ++ [head]).length +
        state.performed.length) = _
      rw [length_append, length_cons, length_nil, length_cons]
      congr 2
      omega
    · intro offset head' at_
      refine Eq.trans ?_ (active.entries (offset + 1) head' at_)
      show memory.availableRing (((state.lastAvailable + 1#16) + _) % _).toNat = _
      rw [BitVec.add_assoc, Nat.add_comm offset 1, BitVec.ofNat_add]

section

variable {first rest : List (BitVec 16)} (chosen : state.fetched = first ++ head :: rest)
include chosen

/-- The lists after a chain has been performed, whatever happened to memory. -/
theorem performed {bytes : Nat → BitVec 8} {medium : Medium}
    (outcome : Fine driver call before (· ∈ state.performed ++ [head] ++ reported) bytes medium ∨
      Faulty driver call (· ∈ state.performed ++ [head] ++ reported) bytes) :
    Active driver call before earlier unfetched reported { memory with bytes } { state with
      fetched := first ++ rest
      performed := state.performed ++ [head]
      medium } where
  accepted := active.accepted
  chains := by
    refine trans ?_ active.chains
    rw [chosen, perm_iff_count]
    intro a
    simp only [count_append, count_cons, count_nil]
    omega
  log := active.log
  available := active.available
  used := by
    refine Eq.trans ?_ active.used
    show memory.usedIndex + BitVec.ofNat 16 (unfetched.length + (first ++ rest).length +
      (state.performed ++ [head]).length) = _
    rw [chosen]
    simp only [length_append, length_cons, length_nil]
    congr 2
    omega
  entries := active.entries
  requests := active.requests
  outcome := outcome

/-- The request is carried out. -/
theorem perform (chain : memory.request driver.queueSize head = some request) :
    Active driver call before earlier unfetched reported
      { memory with bytes := (request.perform memory.bytes state.medium).1 } { state with
        fetched := first ++ rest
        performed := state.performed ++ [head]
        medium := (request.perform memory.bytes state.medium).2 } := by
  obtain ⟨p, member, rfl, held, fresh⟩ := active.request_of_fetched chosen
  rw [chain] at held
  cases held
  apply active.performed chosen
  rcases active.outcome with fine | faulty
  · exact .inl (fine.perform active.accepted member fresh)
  · exact .inr (faulty.perform active.accepted member fresh)

/-- An error is reported. -/
theorem fault (chain : memory.request driver.queueSize head = some request) {bytes : Nat → BitVec 8}
    (status : bytes request.status ≠ BLOCK_STATUS_OK) (medium : Medium) :
    Active driver call before earlier unfetched reported { memory with bytes } { state with
      fetched := first ++ rest
      performed := state.performed ++ [head]
      medium } := by
  obtain ⟨p, member, rfl, held, fresh⟩ := active.request_of_fetched chosen
  rw [chain] at held
  cases held
  exact active.performed chosen (.inr ⟨p, member, by simp, status⟩)

end

end

/-- Reporting a chain does not change which ones are done. -/
theorem mem_report {first rest performed reported : List (BitVec 16)}
    (chosen : performed = first ++ head :: rest) :
    (· ∈ first ++ rest ++ (reported ++ [head])) = (· ∈ performed ++ reported) := by
  funext head'
  rw [chosen]
  simp only [mem_append, mem_cons, eq_iff_iff]
  tauto

section

variable (active : Active driver call before earlier unfetched reported memory state)
include active

theorem report {first rest : List (BitVec 16)} (chosen : state.performed = first ++ head :: rest)
    (usedRing : Nat → BitVec 16) : Active driver call before earlier unfetched (reported ++ [head])
      { memory with usedRing, usedIndex := memory.usedIndex + 1#16 } { state with
        performed := first ++ rest
        reported := state.reported ++ [head] } where
  accepted := active.accepted
  chains := by
    refine trans ?_ active.chains
    rw [chosen, perm_iff_count]
    intro a
    simp only [count_append, count_cons, count_nil]
    omega
  log := by
    show state.reported ++ [head] = _
    rw [active.log, append_assoc]
  available := active.available
  used := by
    refine Eq.trans ?_ active.used
    show memory.usedIndex + 1#16 + BitVec.ofNat 16 (unfetched.length + state.fetched.length +
      (first ++ rest).length) = _
    rw [BitVec.add_assoc, ← BitVec.ofNat_add, chosen]
    simp only [length_append, length_cons]
    congr 2
    omega
  entries := active.entries
  requests := active.requests
  outcome := by
    rw [mem_report chosen]
    exact active.outcome

/-- Whatever the device does, the chains of the call stay accounted for. -/
theorem step (step : DeviceStep driver.queueSize driver.capacitySectors.toNat (memory, state)
      (memory', state')) :
    ∃ unfetched reported, Active driver call before earlier unfetched reported memory' state' ∧
      memory'.availableIndex = memory.availableIndex := by
  cases step with
  | fetch published =>
    obtain ⟨rest, next, _⟩ := active.fetch published
    exact ⟨rest, reported, next, rfl⟩
  | perform chosen chain inRange => exact ⟨_, _, active.perform chosen chain, rfl⟩
  | fault medium chosen chain kept status =>
    exact ⟨_, _, active.fault chosen chain status medium, rfl⟩
  | undefined chosen malformed =>
    obtain ⟨first, rest, chosen⟩ := append_of_mem chosen
    obtain ⟨p, member, rfl, held, fresh⟩ := active.request_of_fetched chosen
    exact absurd (Call.inRange_of_accepted active.accepted member) (malformed p.2 held)
  | report chosen => exact ⟨_, _, active.report chosen _, rfl⟩

/-- The indices meet only when every chain is reported. -/
theorem ready_iff : memory.usedIndex = memory.availableIndex ↔
      unfetched = [] ∧ state.fetched = [] ∧ state.performed = [] := by
  have bound := active.length_le
  have used := active.used
  constructor
  · intro meet
    rw [← meet] at used
    have zero := congrArg BitVec.toNat (BitVec.add_right_eq_self.mp used)
    rw [BitVec.toNat_ofNat, BitVec.toNat_zero] at zero
    have empty : unfetched.length + state.fetched.length + state.performed.length = 0 := by omega
    exact ⟨eq_nil_of_length_eq_zero (by omega), eq_nil_of_length_eq_zero (by omega),
      eq_nil_of_length_eq_zero (by omega)⟩
  · intro empty
    obtain ⟨rfl, fetched, performed⟩ := empty
    rw [fetched, performed] at used
    rw [← used]
    exact (BitVec.add_zero _).symm

/-- The device can always go on until the poll is ready; without an error, if it has reported
none yet. -/
theorem finishes : ∃ memory' state' reported', Relation.ReflTransGen
        (DeviceStep driver.queueSize driver.capacitySectors.toNat) (memory, state)
        (memory', state') ∧ Active driver call before earlier [] reported' memory' state' ∧
      state'.fetched = [] ∧ state'.performed = [] ∧ memory'.availableIndex = memory.availableIndex ∧
      (Fine driver call before (· ∈ state.performed ++ reported) memory.bytes state.medium →
        Fine driver call before (· ∈ state'.performed ++ reported') memory'.bytes
          state'.medium) := by
  -- Each step brings one chain one place further.
  generalize measured : 3 * unfetched.length + 2 * state.fetched.length +
    state.performed.length = work
  induction work using Nat.strong_induction_on generalizing unfetched reported memory state with
  | _ work ih =>
    cases performed : state.performed with
    | cons head rest =>
      have chosen : state.performed = [] ++ head :: rest := performed
      have next := active.report chosen fun i =>
        if i = (memory.usedIndex % driver.queueSize).toNat then head else memory.usedRing i
      rw [performed, length_cons] at measured
      obtain ⟨memory', state', reported', steps, done, fetched, empty, index, fine⟩ :=
        ih (3 * unfetched.length + 2 * state.fetched.length + rest.length) (by omega) next rfl
      refine ⟨memory', state', reported', .head (.report chosen) steps, done, fetched, empty,
        index, fun before => fine ?_⟩
      rw [← performed] at before
      rw [mem_report chosen]
      exact before
    | nil =>
      cases fetchedEq : state.fetched with
      | cons head rest =>
        have chosen : state.fetched = [] ++ head :: rest := fetchedEq
        obtain ⟨p, member, rfl, chain, fresh⟩ := active.request_of_fetched chosen
        have next := active.perform chosen chain
        rw [fetchedEq, length_cons] at measured
        obtain ⟨memory', state', reported', steps, done, fetched, empty, index, fine⟩ :=
          ih (3 * unfetched.length + 2 * rest.length + 1) (by omega) next (by
            show 3 * unfetched.length + 2 * rest.length + (state.performed ++ [_]).length = _
            rw [performed]
            rfl)
        have inRange := Call.inRange_of_accepted active.accepted member
        refine ⟨memory', state', reported', .head (.perform chosen chain inRange) steps, done,
          fetched, empty, index, fun before => fine ?_⟩
        rw [← performed] at before
        exact before.perform active.accepted member fresh
      | nil =>
        by_cases published : state.lastAvailable = memory.availableIndex
        · have none : unfetched = [] := by
            have available := active.available
            have bound := active.length_le
            rw [← published] at available
            have zero := congrArg BitVec.toNat (BitVec.add_right_eq_self.mp available.symm)
            rw [BitVec.toNat_ofNat, BitVec.toNat_zero] at zero
            exact eq_nil_of_length_eq_zero (by omega)
          subst none
          exact ⟨memory, state, reported, .refl, active, fetchedEq, performed, rfl, performed ▸ id⟩
        · obtain ⟨rest, next, shorter⟩ := active.fetch published
          obtain ⟨memory', state', reported', steps, done, fetched, empty, index, fine⟩ :=
            ih (3 * rest.length + 2) (by omega) next (by
              show 3 * rest.length + 2 * (state.fetched ++ [_]).length + state.performed.length = _
              rw [performed, fetchedEq]
              rfl)
          exact ⟨memory', state', reported', .head (.fetch published) steps, done, fetched, empty,
            index, performed ▸ fine⟩

end

end Active

/-! ## Between calls -/

/-- The device has nothing to do. -/
structure Quiet (memory : Memory) (state : DeviceState) : Prop where
  fetched : state.fetched = []
  performed : state.performed = []
  available : memory.availableIndex = state.lastAvailable
  used : memory.usedIndex = state.lastAvailable

theorem Quiet.no_step {next : Memory × DeviceState} {queueSize : BitVec 16} {capacitySectors : Nat}
    (quiet : Quiet memory state) : ¬ DeviceStep queueSize capacitySectors (memory, state) next := by
  intro step
  cases step with
  | fetch published => exact published quiet.available.symm
  | perform chosen | fault medium chosen =>
    rw [quiet.fetched] at chosen
    exact cons_ne_nil _ _ (append_eq_nil_iff.mp chosen.symm).2
  | undefined chosen =>
    rw [quiet.fetched] at chosen
    cases chosen
  | report chosen =>
    rw [quiet.performed] at chosen
    exact cons_ne_nil _ _ (append_eq_nil_iff.mp chosen.symm).2

/-- The index store hands the prepared chains to the device. -/
theorem Active.publish (quiet : Quiet memory state) (accepted : call.Accepted driver)
    (prepared : Prepared driver call state.lastAvailable memory) :
    Active driver call state.medium state.reported call.heads [] (memory.store
      (.availableIndex (state.lastAvailable + BitVec.ofNat 16 call.heads.length))) state where
  accepted := accepted
  chains := by
    rw [quiet.fetched, quiet.performed, append_nil, append_nil, append_nil]
  log := (append_nil _).symm
  available := rfl
  used := by
    rw [quiet.fetched, quiet.performed]
    exact congrArg (· + BitVec.ofNat 16 call.heads.length) quiet.used
  entries := prepared.entries
  requests := prepared.requests
  outcome := by
    left
    rw [quiet.performed]
    refine ⟨fun _ _ done => absurd done not_mem_nil, prepared.data, fun _ _ _ => rfl, ?_⟩
    intro done
    have some := call.heads_length.1
    rw [Call.heads_eq driver, length_map] at some
    obtain ⟨p, member⟩ := exists_mem_of_length_pos some
    exact absurd (done p member) not_mem_nil

/-! ## Whole runs -/

/-- The chains reported so far are those of the calls, call by call. -/
def Logged (history : List Call) (reported : List (BitVec 16)) : Prop :=
  ∃ logs : List (List (BitVec 16)), reported = logs.flatten ∧
    List.Forall₂ (fun call log => log.Perm call.heads) history logs

theorem Logged.append {history : List Call} {earlier log : List (BitVec 16)}
    (logged : Logged history earlier) (complete : log.Perm call.heads) :
    Logged (history ++ [call]) (earlier ++ log) := by
  obtain ⟨logs, rfl, matched⟩ := logged
  refine ⟨logs ++ [log], ?_, rel_append matched (.cons complete .nil)⟩
  rw [flatten_append, flatten_singleton]

/-- Between two calls. -/
structure Rested (start : Medium) (history : List Call) (s : System) : Prop where
  quiet : Quiet s.memory s.device
  index : s.driver.availableIndex = s.device.lastAvailable
  medium : s.device.medium = contents start history
  log : Logged history s.device.reported
  shown : ∀ call, history.getLast? = some call → call.Accepted s.driver ∧
    ∀ p ∈ call.requests s.driver, p.2.Shown s.memory.bytes (contents start history)

/-- Before the index is stored; `remaining` is what is left of the preparation. -/
structure Preparing (start : Medium) (earlier : List Call) (call : Call) (remaining : List Store)
    (s : System) : Prop where
  preparation : ∀ store ∈ remaining, store.isPreparation = true
  accepted : call.Accepted s.driver
  quiet : Quiet s.memory s.device
  index : s.driver.availableIndex = s.device.lastAvailable + BitVec.ofNat 16 call.heads.length
  prepared : Prepared s.driver call s.device.lastAvailable (s.memory.storeAll remaining)
  medium : s.device.medium = contents start earlier
  log : Logged earlier s.device.reported

/-- From the store of the index to the return. -/
def Calling (start : Medium) (earlier : List Call) (call : Call) (s : System) : Prop :=
  s.driver.availableIndex = s.memory.availableIndex ∧ ∃ log unfetched reported,
    Logged earlier log ∧
    Active s.driver call (contents start earlier) log unfetched reported s.memory s.device

/-- What holds in every state of a run. -/
def Invariant (start : Medium) (history : List Call) (s : System) : Prop :=
  match s.phase with
  | .idle => Rested start history s
  | .storing rest expected slots => ∃ earlier call, history = earlier ++ [call] ∧
      slots = call.slots ∧ expected = s.driver.availableIndex ∧
      ((∃ remaining, rest = remaining ++ [.availableIndex expected, .notify] ∧
          Preparing start earlier call remaining s) ∨
        (rest = [.notify] ∨ rest = []) ∧ Calling start earlier call s)
  | .waiting expected slots => ∃ earlier call, history = earlier ++ [call] ∧
      slots = call.slots ∧ expected = s.driver.availableIndex ∧ Calling start earlier call s
  | .failed _ => True

section Runs

variable {start : Medium} {history : List Call} {s s' : System} {earlier : List Call}

theorem invariant_boot (driver : BlockDevice) (medium : Medium) :
    Invariant medium [] (System.boot driver medium) :=
  ⟨⟨rfl, rfl, rfl, rfl⟩, rfl, rfl, ⟨[], rfl, .nil⟩, fun _ last => by cases last⟩

/-- A call begins with its preparation. -/
theorem Invariant.starts {started : BlockDevice.Started} (invariant : Invariant start history s)
    (phase : s.phase = .idle) (ok : s.driver.start call = .ok started) :
    Invariant start (history ++ [call]) { s with
      driver := started.device
      phase := .storing started.stores started.expectedUsedIndex call.slots } := by
  obtain ⟨accepted, expected, device, stores, split, preparation⟩ := start_ok ok
  unfold Invariant at invariant
  rw [phase] at invariant
  have prepared := preparation.prepared s.memory
  rw [invariant.index] at prepared expected
  rw [device]
  exact ⟨history, call, rfl, rfl, rfl, .inl ⟨stores, split, preparation.preparation, accepted,
    invariant.quiet, expected, ⟨prepared.requests, prepared.entries, prepared.data⟩,
    invariant.medium, invariant.log⟩⟩

theorem validateStatus_all {slots : List (Fin REQUEST_SLOT_COUNT)}
    (valid : slots.forM (driver.validateStatus memory) = .ok ()) {slot : Fin REQUEST_SLOT_COUNT}
    (member : slot ∈ slots) : memory.bytes (driver.statusAddress slot) = BLOCK_STATUS_OK := by
  induction slots with
  | nil => cases member
  | cons first rest ih =>
    obtain ⟨⟨⟩, here, later⟩ := Except.bind_ok valid
    rcases mem_cons.mp member with rfl | inside
    · unfold BlockDevice.validateStatus at here
      split at here
      · cases here
      · next ok => exact not_not.mp ok
    · exact ih later inside

/-- A call returns when all its chains are reported, without an error. -/
theorem Active.returns {log unfetched reported : List (BitVec 16)}
    (active : Active driver call (contents start earlier) log unfetched reported memory state)
    (logged : Logged earlier log) (ready : memory.usedIndex = memory.availableIndex)
    (valid : call.slots.forM (driver.validateStatus memory) = .ok ()) :
    Quiet memory state ∧ state.medium = contents start (earlier ++ [call]) ∧
      Logged (earlier ++ [call]) state.reported ∧
      ∀ p ∈ call.requests driver, p.2.Shown memory.bytes (contents start (earlier ++ [call])) := by
  obtain ⟨rfl, fetched, performed⟩ := active.ready_iff.mp ready
  have all := active.chains
  rw [fetched, performed, nil_append] at all
  have done : ∀ p ∈ call.requests driver,
      headOf p.1 ∈ state.performed ++ reported := by
    intro p member
    rw [performed]
    apply all.symm.subset
    rw [Call.heads_eq driver]
    exact mem_map_of_mem member
  have later : contents start (earlier ++ [call]) = call.apply (contents start earlier) :=
    foldl_append
  have fine := active.outcome.resolve_right (by
    intro faulty
    obtain ⟨p, member, _, status⟩ := faulty
    rw [Call.request_status member] at status
    apply status
    apply validateStatus_all valid
    rw [Call.slots_eq driver]
    exact mem_map_of_mem member)
  rw [later]
  refine ⟨⟨fetched, performed, ?_, ?_⟩, fine.complete done, ?_, ?_⟩
  · exact active.available.trans (BitVec.add_zero _)
  · exact ready.trans (active.available.trans (BitVec.add_zero _))
  · rw [active.log]
    exact logged.append all
  · exact fun p member => (fine.shown p member (done p member)).1

/-- One store of the driver. -/
theorem Preparing.store {remaining rest : List Store} {store : Store}
    (preparing : Preparing start earlier call remaining s) (phase : Phase)
    (next : store :: rest = remaining ++ [.availableIndex s.driver.availableIndex, .notify]) :
    (∃ remaining', rest = remaining' ++ [.availableIndex s.driver.availableIndex, .notify] ∧
      Preparing start earlier call remaining' { s with memory := s.memory.store store, phase }) ∨
    (rest = [.notify] ∧
      Calling start earlier call { s with memory := s.memory.store store, phase }) := by
  cases remaining with
  | nil =>
    cases next
    have active := Active.publish preparing.quiet preparing.accepted preparing.prepared
    rw [preparing.medium, ← preparing.index] at active
    exact .inr ⟨rfl, rfl, _, _, _, preparing.log, active⟩
  | cons first remaining =>
    cases next
    have first := preparing.preparation store mem_cons_self
    have indices := @Memory.storeAll_indices s.memory [store] fun other member => by
      rw [mem_singleton.mp member]
      exact first
    exact .inl ⟨remaining, rfl,
      fun other member => preparing.preparation other (mem_cons_of_mem _ member),
      preparing.accepted,
      ⟨preparing.quiet.fetched, preparing.quiet.performed,
        indices.1.trans preparing.quiet.available, indices.2.trans preparing.quiet.used⟩,
      preparing.index, preparing.prepared, preparing.medium, preparing.log⟩

theorem Calling.device (calling : Calling start earlier call s) (moves : DeviceMoves s s') :
    Calling start earlier call s' := by
  obtain ⟨index, log, unfetched, reported, logged, active⟩ := calling
  obtain ⟨driver, _, moved⟩ := moves
  obtain ⟨unfetched', reported', next, same⟩ := active.step moved
  rw [← driver] at index next
  exact ⟨index.trans same.symm, log, unfetched', reported', logged, next⟩

theorem Invariant.step (invariant : Invariant start history s) (step : Step s s') :
    Invariant start history s' := by
  unfold Invariant at invariant
  cases step with
  | store phase =>
    rw [phase] at invariant
    obtain ⟨earlier, call, rfl, rfl, rfl, preparing | calling⟩ := invariant
    · obtain ⟨remaining, next, preparing⟩ := preparing
      refine ⟨earlier, call, rfl, rfl, rfl, ?_⟩
      rcases preparing.store _ next with more | ⟨rest, calling⟩
      · exact .inl more
      · exact .inr ⟨.inl rest, calling⟩
    · obtain ⟨rest, calling⟩ := calling
      rcases rest with rest | rest
      · cases rest
        exact ⟨earlier, call, rfl, rfl, rfl, .inr ⟨.inr rfl, calling⟩⟩
      · cases rest
  | await phase =>
    rw [phase] at invariant
    obtain ⟨earlier, call, rfl, rfl, rfl, preparing | calling⟩ := invariant
    · obtain ⟨remaining, next, _⟩ := preparing
      cases remaining with
      | nil => cases next
      | cons => cases next
    · exact ⟨earlier, call, rfl, rfl, rfl, calling.2⟩
  | complete phase ready valid =>
    rw [phase] at invariant
    obtain ⟨earlier, call, rfl, rfl, rfl, index, log, unfetched, reported, logged, active⟩ :=
      invariant
    have met := (of_decide_eq_true ready).trans index
    obtain ⟨quiet, medium, log, shown⟩ := active.returns logged met valid
    refine ⟨quiet, index.trans quiet.available, medium, log, ?_⟩
    intro last same
    rw [getLast?_concat] at same
    cases same
    exact ⟨active.accepted, shown⟩
  | error phase ready invalid => exact trivial
  | device moves =>
    obtain ⟨driver, same, moved⟩ := moves
    unfold Invariant
    rw [same]
    split at invariant
    · exact absurd moved invariant.quiet.no_step
    · next rest expected slots phase =>
      obtain ⟨earlier, call, rfl, rfl, rfl, preparing | calling⟩ := invariant
      · obtain ⟨remaining, next, preparing⟩ := preparing
        exact absurd moved preparing.quiet.no_step
      · rw [← driver]
        exact ⟨earlier, call, rfl, rfl, rfl,
          .inr ⟨calling.1, calling.2.device ⟨driver, same, moved⟩⟩⟩
    · next expected slots phase =>
      obtain ⟨earlier, call, rfl, rfl, rfl, calling⟩ := invariant
      rw [← driver]
      exact ⟨earlier, call, rfl, rfl, rfl, calling.device ⟨driver, same, moved⟩⟩
    · exact trivial

end Runs

end SlopOS.Virtio
