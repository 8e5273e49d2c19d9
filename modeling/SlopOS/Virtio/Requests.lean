import SlopOS.Virtio.System

/-!
# What a call puts into memory

The requests of a call, and that its stores leave exactly these requests in memory, with
their chains in the available ring.
-/

namespace SlopOS.Virtio

open BlockDevice RangeMap List

variable {driver : BlockDevice} {call : Call} {memory : Memory} {started : BlockDevice.Started}
  {address sector : BitVec 64} {p : Fin REQUEST_SLOT_COUNT × Request} {length : BitVec 32}
  {head next : BitVec 16} {store : Store} {byteCount : Nat}

/-! ## The queue -/

theorem chooseQueueSize_limit {offered queueSize : BitVec 16}
    (chosen : chooseQueueSize offered QUEUE_LIMIT = some queueSize) :
    queueSize = 4#16 ∨ queueSize = 8#16 := by
  unfold chooseQueueSize QUEUE_LIMIT at chosen
  dsimp only at chosen
  generalize bounded : (if offered < 8#16 then offered else 8#16) = maximum at chosen
  have upper : maximum.toNat ≤ 8 := by
    rw [← bounded]
    split
    · next below => exact le_of_lt below
    · exact le_refl 8
  split at chosen
  · cases chosen
  next lower =>
  have lower : 4 ≤ maximum.toNat := Nat.le_of_not_lt lower
  cases chosen
  obtain ⟨value, rfl⟩ : ∃ value : Nat, maximum = BitVec.ofNat 16 value :=
    ⟨maximum.toNat, BitVec.eq_of_toNat_eq (by simp)⟩
  generalize named : (BitVec.ofNat 16 value).toNat = size at upper lower
  have same : BitVec.ofNat 16 value = BitVec.ofNat 16 size := by
    rw [← named, BitVec.ofNat_toNat, BitVec.setWidth_eq]
  rw [same]
  interval_cases size
  all_goals decide

/-- Both requests fit the queue, so it has eight entries. -/
theorem BlockDevice.queueSize_eq (driver : BlockDevice) : driver.queueSize = 8#16 := by
  obtain ⟨⟨offered, chosen⟩, room⟩ := driver.negotiated
  rcases chooseQueueSize_limit chosen with four | eight
  · rw [four] at room
    exact absurd room (by decide)
  · exact eight

/-- Neighbouring ring positions differ, also where the index wraps. -/
theorem ringSlot_ne (driver : BlockDevice) (index : BitVec 16) :
    ((index + 1#16) % driver.queueSize).toNat ≠ (index % driver.queueSize).toNat := by
  rw [driver.queueSize_eq]
  have eight : (8#16).toNat = 8 := rfl
  have one : (1#16).toNat = 1 := rfl
  rw [BitVec.toNat_umod, BitVec.toNat_umod, BitVec.toNat_add, eight]
  omega

/-! ## The requests of a call -/

def BlockDevice.dataPage (driver : BlockDevice) (slot : Fin REQUEST_SLOT_COUNT) : Nat :=
  (driver.requestSlots.slot slot).dataPage

section

variable (driver : BlockDevice)

def BlockDevice.inputRequest (slot : Fin REQUEST_SLOT_COUNT) (sector : BitVec 64) (byteCount : Nat)
    : Request :=
  .input sector (driver.dataPage slot) byteCount (driver.statusAddress slot)

def Call.requests : Call → List (Fin REQUEST_SLOT_COUNT × Request)
  | .read sector byteCount => [(0, driver.inputRequest 0 sector byteCount)]
  | .readPair firstSector secondSector byteCount =>
      [(0, driver.inputRequest 0 firstSector byteCount),
        (1, driver.inputRequest 1 secondSector byteCount)]
  | .write sector data =>
      [(0, .output sector (driver.dataPage 0) data.length (driver.statusAddress 0))]
  | .flush => [(0, .flush (driver.statusAddress 0))]

/-- The transfers of the call are inside the device and fit a page. -/
def Call.Accepted (call : Call) : Prop :=
  ∀ transfer ∈ call.transfers, transfer.2.2 ≤ DATA_PAGE_SIZE ∧
    transfer.2.2 % SECTOR_SIZE = 0 ∧
    transfer.2.1.toNat + transfer.2.2 / SECTOR_SIZE ≤ driver.capacitySectors.toNat

theorem Call.heads_eq (call : Call) :
    call.heads = (call.requests driver).map fun p => headOf p.1 := by
  cases call <;> rfl

theorem Call.slots_eq (call : Call) : call.slots = (call.requests driver).map Prod.fst := by
  cases call <;> rfl

end

theorem validateTransfer_ok (valid : driver.validateTransfer sector byteCount = .ok ()) :
    byteCount ≤ DATA_PAGE_SIZE ∧ byteCount % SECTOR_SIZE = 0 ∧
      sector.toNat + byteCount / SECTOR_SIZE ≤ driver.capacitySectors.toNat := by
  unfold validateTransfer at valid
  split at valid
  · cases valid
  · next inside =>
    simp only [not_or, not_lt, not_not] at inside
    exact ⟨inside.2.1, inside.2.2.1, inside.2.2.2.2⟩

theorem Call.heads_cases (call : Call) :
    call.heads = [0#16] ∨ call.heads = [0#16, DESCRIPTORS_PER_REQUEST] := by
  cases call with
  | readPair => exact .inr rfl
  | _ => exact .inl rfl

theorem Call.heads_nodup (call : Call) : call.heads.Nodup := by
  rcases call.heads_cases with single | pair
  · rw [single]
    decide
  · rw [pair]
    decide

theorem Call.heads_length (call : Call) : 0 < call.heads.length ∧ call.heads.length ≤ 2 := by
  rcases call.heads_cases with single | pair
  · rw [single]
    decide
  · rw [pair]
    decide

theorem headOf_injective : ∀ slot slot' : Fin REQUEST_SLOT_COUNT,
    headOf slot = headOf slot' → slot = slot' := by
  decide

theorem Call.request_status (member : p ∈ call.requests driver) :
    p.2.status = driver.statusAddress p.1 := by
  cases call <;> simp only [requests, mem_cons, not_mem_nil, or_false] at member
  case readPair => rcases member with rfl | rfl <;> rfl
  all_goals subst member; rfl

/-- One request per chain. -/
theorem Call.request_unique {p' : Fin REQUEST_SLOT_COUNT × Request}
    (member : p ∈ call.requests driver) (member' : p' ∈ call.requests driver)
    (same : headOf p.1 = headOf p'.1) : p = p' := by
  cases call <;>
    simp only [requests, mem_cons, not_mem_nil, or_false] at member member'
  case readPair =>
    have slots := headOf_injective _ _ same
    rcases member with rfl | rfl <;> rcases member' with rfl | rfl
    · rfl
    · cases slots
    · cases slots
    · rfl
  all_goals rw [member, member']

theorem Call.inRange_of_accepted (accepted : call.Accepted driver)
    (member : p ∈ call.requests driver) : p.2.inRange driver.capacitySectors.toNat := by
  unfold Accepted at accepted
  cases call <;> simp only [requests, transfers, mem_cons, not_mem_nil,
    or_false, forall_eq, forall_eq_or_imp] at member accepted
  case read => subst member; exact accepted.2
  case readPair =>
    rcases member with rfl | rfl
    · exact accepted.1.2
    · exact accepted.2.2
  case write => subst member; exact accepted.2
  case flush => subst member; exact trivial

/-! ## The stores of a call -/

/-- A store before the index is published. -/
def Store.isPreparation : Store → Bool
  | .availableIndex _ => false
  | .notify => false
  | _ => true

/-- Memory holds the requests, and their chains stand in the ring from `index` on. -/
structure Prepared (driver : BlockDevice) (call : Call) (index : BitVec 16) (memory : Memory) :
    Prop where
  requests : ∀ p ∈ call.requests driver,
    memory.request driver.queueSize (headOf p.1) = some p.2
  entries : ∀ (offset : Nat) (head : BitVec 16), call.heads[offset]? = some head →
    memory.availableRing ((index + BitVec.ofNat 16 offset) % driver.queueSize).toNat = head
  data : ∀ sector data, call = .write sector data →
    view memory.bytes (driver.dataPage 0) data.length = data

theorem toNat_ofNat_of_lt {width value : Nat} (small : value < 2 ^ width) :
    (BitVec.ofNat width value).toNat = value :=
  (BitVec.toNat_ofNat value width).trans (Nat.mod_eq_of_lt small)

section

variable {descriptors : Nat → Descriptor} {fuel : Nat} {descriptor : Descriptor}
  (here : descriptors head.toNat = descriptor)
include here

theorem chainFrom_next (next : descriptor.flags &&& DESCRIPTOR_NEXT ≠ 0#16) :
    chainFrom descriptors (fuel + 1) head =
      descriptor :: chainFrom descriptors fuel descriptor.next := by
  rw [chainFrom, here, if_neg next]

theorem chainFrom_last (last : descriptor.flags &&& DESCRIPTOR_NEXT = 0#16) :
    chainFrom descriptors (fuel + 1) head = [descriptor] := by
  rw [chainFrom, here, if_pos last]

end

theorem status_writable : (Descriptor.mk address length DESCRIPTOR_WRITE next).writable = true :=
  decide_eq_true (show DESCRIPTOR_WRITE &&& DESCRIPTOR_WRITE ≠ 0#16 by decide)

theorem next_readable : (Descriptor.mk address length DESCRIPTOR_NEXT next).writable = false :=
  decide_eq_false (show ¬ DESCRIPTOR_NEXT &&& DESCRIPTOR_WRITE ≠ 0#16 by decide)

theorem input_writable :
    (Descriptor.mk address length (DESCRIPTOR_NEXT ||| DESCRIPTOR_WRITE) next).writable = true :=
  decide_eq_true
    (show (DESCRIPTOR_NEXT ||| DESCRIPTOR_WRITE) &&& DESCRIPTOR_WRITE ≠ 0#16 by decide)

section Chains

variable {headerAddress dataAddress statusAddress : Nat} {flags : BitVec 16}
  {header : BlockRequestHeader}

/-- The descriptors of a transfer, from the one at `head` on. -/
structure TransferChain (memory : Memory) (head : BitVec 16) (flags : BitVec 16)
    (headerAddress dataAddress byteCount statusAddress : Nat) : Prop where
  first : memory.descriptors head.toNat = ⟨BitVec.ofNat 64 headerAddress,
    BitVec.ofNat 32 HEADER_SIZE, DESCRIPTOR_NEXT, head + 1#16⟩
  second : memory.descriptors (head + 1#16).toNat = ⟨BitVec.ofNat 64 dataAddress,
    BitVec.ofNat 32 byteCount, flags, head + 2#16⟩
  third : memory.descriptors (head + 2#16).toNat = ⟨BitVec.ofNat 64 statusAddress, 1#32,
    DESCRIPTOR_WRITE, 0#16⟩

theorem TransferChain.chain
    (built : TransferChain memory head flags headerAddress dataAddress byteCount statusAddress)
    (next : flags &&& DESCRIPTOR_NEXT ≠ 0#16) : chainFrom memory.descriptors (8#16).toNat head =
      [⟨BitVec.ofNat 64 headerAddress, BitVec.ofNat 32 HEADER_SIZE, DESCRIPTOR_NEXT, head + 1#16⟩,
        ⟨BitVec.ofNat 64 dataAddress, BitVec.ofNat 32 byteCount, flags, head + 2#16⟩,
        ⟨BitVec.ofNat 64 statusAddress, 1#32, DESCRIPTOR_WRITE, 0#16⟩] := by
  have leads : DESCRIPTOR_NEXT &&& DESCRIPTOR_NEXT ≠ 0#16 := by decide
  have ends : DESCRIPTOR_WRITE &&& DESCRIPTOR_NEXT = 0#16 := by decide
  show chainFrom memory.descriptors (5 + 1 + 1 + 1) head = _
  rw [chainFrom_next built.first leads, chainFrom_next built.second next,
    chainFrom_last built.third ends]

theorem request_input
    (built : TransferChain memory head (DESCRIPTOR_NEXT ||| DESCRIPTOR_WRITE) headerAddress
      dataAddress byteCount statusAddress)
    (addresses : headerAddress < 2 ^ 64 ∧ dataAddress < 2 ^ 64 ∧ statusAddress < 2 ^ 64)
    (small : byteCount ≤ DATA_PAGE_SIZE)
    (stored : memory.headers headerAddress = ⟨BLOCK_REQUEST_IN, 0#32, sector⟩) :
    memory.request 8#16 head = some (.input sector dataAddress byteCount statusAddress) := by
  have small : byteCount < 2 ^ 32 := lt_of_le_of_lt small (by decide)
  unfold Memory.request
  rw [built.chain (by decide)]
  dsimp only
  rw [toNat_ofNat_of_lt addresses.1, stored, if_pos ⟨next_readable, rfl, status_writable, rfl⟩, if_pos ⟨rfl, input_writable⟩,
    toNat_ofNat_of_lt addresses.2.1, toNat_ofNat_of_lt addresses.2.2,
    toNat_ofNat_of_lt small]

theorem request_output
    (built : TransferChain memory head DESCRIPTOR_NEXT headerAddress dataAddress byteCount
      statusAddress)
    (addresses : headerAddress < 2 ^ 64 ∧ dataAddress < 2 ^ 64 ∧ statusAddress < 2 ^ 64)
    (small : byteCount ≤ DATA_PAGE_SIZE)
    (stored : memory.headers headerAddress = ⟨BLOCK_REQUEST_OUT, 0#32, sector⟩) :
    memory.request 8#16 head = some (.output sector dataAddress byteCount statusAddress) := by
  have small : byteCount < 2 ^ 32 := lt_of_le_of_lt small (by decide)
  unfold Memory.request
  rw [built.chain (by decide)]
  dsimp only
  rw [toNat_ofNat_of_lt addresses.1, stored, if_pos ⟨next_readable, rfl, status_writable, rfl⟩,
    if_neg (fun input => absurd input.1 (show BLOCK_REQUEST_OUT ≠ BLOCK_REQUEST_IN by decide)), if_pos ⟨rfl, next_readable⟩, toNat_ofNat_of_lt addresses.2.1,
    toNat_ofNat_of_lt addresses.2.2, toNat_ofNat_of_lt small]

theorem request_flush (first : memory.descriptors head.toNat = ⟨BitVec.ofNat 64 headerAddress,
      BitVec.ofNat 32 HEADER_SIZE, DESCRIPTOR_NEXT, head + 1#16⟩)
    (second : memory.descriptors (head + 1#16).toNat = ⟨BitVec.ofNat 64 statusAddress, 1#32,
      DESCRIPTOR_WRITE, 0#16⟩) (addresses : headerAddress < 2 ^ 64 ∧ statusAddress < 2 ^ 64)
    (stored : memory.headers headerAddress = ⟨BLOCK_REQUEST_FLUSH, 0#32, 0#64⟩) :
    memory.request 8#16 head = some (.flush statusAddress) := by
  have leads : DESCRIPTOR_NEXT &&& DESCRIPTOR_NEXT ≠ 0#16 := by decide
  have ends : DESCRIPTOR_WRITE &&& DESCRIPTOR_NEXT = 0#16 := by decide
  have chain : chainFrom memory.descriptors (8#16).toNat head =
      [⟨BitVec.ofNat 64 headerAddress, BitVec.ofNat 32 HEADER_SIZE, DESCRIPTOR_NEXT, head + 1#16⟩,
        ⟨BitVec.ofNat 64 statusAddress, 1#32, DESCRIPTOR_WRITE, 0#16⟩] := by
    show chainFrom memory.descriptors (6 + 1 + 1) head = _
    rw [chainFrom_next first leads, chainFrom_last second ends]
  unfold Memory.request
  rw [chain]
  dsimp only
  rw [toNat_ofNat_of_lt addresses.1, stored, if_pos ⟨next_readable, rfl, status_writable, rfl, rfl⟩,
    toNat_ofNat_of_lt addresses.2]

end Chains

/-! ## Executing the stores -/

def Memory.storeAll (memory : Memory) (stores : List Store) : Memory :=
  stores.foldl Memory.store memory

theorem Memory.storeAll_append (memory : Memory) (first second : List Store) :
    memory.storeAll (first ++ second) = (memory.storeAll first).storeAll second :=
  foldl_append

/-- Nothing but the ring changes. -/
theorem Memory.storeAll_entries {entries : List Store}
    (entry : ∀ store ∈ entries, ∃ slot head, store = .availableEntry slot head) :
    memory.storeAll entries =
      { memory with availableRing := (memory.storeAll entries).availableRing } := by
  induction entries generalizing memory with
  | nil => rfl
  | cons store rest ih =>
    obtain ⟨slot, head, rfl⟩ := entry _ mem_cons_self
    exact ih fun store member => entry store (mem_cons_of_mem _ member)

/-- Preparing leaves the indices alone. -/
theorem Memory.storeAll_indices {stores : List Store}
    (preparation : ∀ store ∈ stores, store.isPreparation = true) :
    (memory.storeAll stores).availableIndex = memory.availableIndex ∧
      (memory.storeAll stores).usedIndex = memory.usedIndex := by
  induction stores generalizing memory with
  | nil => exact ⟨rfl, rfl⟩
  | cons store rest ih =>
    have first := preparation store mem_cons_self
    obtain ⟨available, used⟩ := @ih (memory.store store)
      fun store member => preparation store (mem_cons_of_mem _ member)
    cases store with
    | availableIndex | notify => cases first
    | _ => exact ⟨available, used⟩

/-- The stores that build a transfer in a slot. -/
def BlockDevice.transferStores (driver : BlockDevice) (slot : Fin REQUEST_SLOT_COUNT)
    (header : BlockRequestHeader) (contents : Bytes) (flags : BitVec 16) : List Store :=
  let head := headOf slot
  [.header (driver.requestSlots.slot slot).controlPage header,
    .bytes (driver.dataPage slot) contents, .bytes (driver.statusAddress slot) [0xff#8],
    .descriptor (head.toNat + 0)
      ⟨BitVec.ofNat 64 (driver.requestSlots.slot slot).controlPage, BitVec.ofNat 32 HEADER_SIZE,
        DESCRIPTOR_NEXT, head + 1#16⟩,
    .descriptor (head.toNat + 1)
      ⟨BitVec.ofNat 64 (driver.dataPage slot), BitVec.ofNat 32 contents.length, flags,
        head + 2#16⟩,
    .descriptor (head.toNat + 2)
      ⟨BitVec.ofNat 64 (driver.statusAddress slot), 1#32, DESCRIPTOR_WRITE, 0#16⟩]

theorem headOf_bound (slot : Fin REQUEST_SLOT_COUNT) : headOf slot ≤ BitVec.allOnes 16 - 2#16 := by
  revert slot
  decide

section

variable (driver : BlockDevice) (slot : Fin REQUEST_SLOT_COUNT) (sector : BitVec 64)

theorem prepareRead_eq (byteCount : Nat) : driver.prepareRead slot sector byteCount =
      .ok (driver.transferStores slot ⟨BLOCK_REQUEST_IN, 0#32, sector⟩
        (replicate byteCount 0#8) (DESCRIPTOR_NEXT ||| DESCRIPTOR_WRITE)) := by
  unfold prepareRead blockReadDescriptorsAt blockTransferDescriptorsAt transferStores
  dsimp only
  rw [if_pos (headOf_bound slot), length_replicate]
  rfl

theorem prepareWrite_eq (data : Bytes) : driver.prepareWrite slot sector data =
      .ok (driver.transferStores slot ⟨BLOCK_REQUEST_OUT, 0#32, sector⟩ data DESCRIPTOR_NEXT) := by
  unfold prepareWrite blockWriteDescriptorsAt blockTransferDescriptorsAt
  dsimp only
  rw [if_pos (headOf_bound slot)]
  rfl

end

theorem headOf_succ (slot : Fin REQUEST_SLOT_COUNT) :
    (headOf slot + 1#16).toNat = (headOf slot).toNat + 1 ∧
      (headOf slot + 2#16).toNat = (headOf slot).toNat + 2 := by
  revert slot
  decide

/-- The chains of the two slots do not meet. -/
theorem headOf_apart (slot slot' : Fin REQUEST_SLOT_COUNT) (other : slot' ≠ slot) :
    (headOf slot).toNat + 2 < (headOf slot').toNat ∨
      (headOf slot').toNat + 2 < (headOf slot).toNat := by
  revert slot slot'
  decide

section Transfers

variable {slot slot' : Fin REQUEST_SLOT_COUNT} {header : BlockRequestHeader} {contents : Bytes}
  {flags flags' : BitVec 16}

theorem transferStores_chain :
    TransferChain (memory.storeAll (driver.transferStores slot header contents flags))
      (headOf slot) flags (driver.requestSlots.slot slot).controlPage
      (driver.dataPage slot) contents.length (driver.statusAddress slot) := by
  obtain ⟨one, two⟩ := headOf_succ slot
  constructor
  · simp [Memory.storeAll, transferStores, Memory.store]
  · simp [Memory.storeAll, transferStores, Memory.store, one]
  · simp [Memory.storeAll, transferStores, Memory.store, two]

/-- The chain of the other slot stays. -/
theorem transferStores_other {headerAddress dataAddress statusAddress : Nat} (other : slot' ≠ slot)
    (built : TransferChain memory (headOf slot') flags' headerAddress dataAddress
      byteCount statusAddress) :
    TransferChain (memory.storeAll (driver.transferStores slot header contents flags))
      (headOf slot') flags' headerAddress dataAddress byteCount statusAddress := by
  have kept : ∀ index, (index < (headOf slot).toNat ∨ (headOf slot).toNat + 2 < index) →
      (memory.storeAll (driver.transferStores slot header contents flags)).descriptors index =
        memory.descriptors index := by
    intro index outside
    show (if index = _ then _ else if index = _ then _ else if index = _ then _ else _) = _
    rw [if_neg (by omega), if_neg (by omega), if_neg (by omega)]
    rfl
  obtain ⟨one, two⟩ := headOf_succ slot'
  have apart := headOf_apart slot slot' other
  exact ⟨(kept _ (by omega)).trans built.first, (kept _ (by omega)).trans built.second,
    (kept _ (by omega)).trans built.third⟩

theorem transferStores_header :
    (memory.storeAll (driver.transferStores slot header contents flags)).headers
      (driver.requestSlots.slot slot).controlPage = header :=
  if_pos rfl

theorem transferStores_header_other (other : slot' ≠ slot) :
    (memory.storeAll (driver.transferStores slot header contents flags)).headers
        (driver.requestSlots.slot slot').controlPage =
      memory.headers (driver.requestSlots.slot slot').controlPage := by
  apply if_neg
  intro same
  have apart := driver.requestSlots.controlApart slot' slot other
  unfold DATA_PAGE_SIZE at apart
  omega

theorem transferStores_bytes :
    (memory.storeAll (driver.transferStores slot header contents flags)).bytes =
      put (put memory.bytes (driver.dataPage slot) contents) (driver.statusAddress slot) [0xff#8] :=
  rfl

theorem addresses_lt (driver : BlockDevice) (slot : Fin REQUEST_SLOT_COUNT) :
    (driver.requestSlots.slot slot).controlPage < 2 ^ 64 ∧ driver.dataPage slot < 2 ^ 64 ∧
      driver.statusAddress slot < 2 ^ 64 := by
  obtain ⟨control, data⟩ := driver.requestSlots.bounded slot
  unfold dataPage statusAddress HEADER_SIZE
  unfold DATA_PAGE_SIZE at control data
  omega

/-- The status byte lies outside every data page. -/
theorem status_apart (driver : BlockDevice) (slot slot' : Fin REQUEST_SLOT_COUNT)
    (fits : byteCount ≤ DATA_PAGE_SIZE) : driver.statusAddress slot < driver.dataPage slot' ∨
      driver.dataPage slot' + byteCount ≤ driver.statusAddress slot := by
  have apart := driver.requestSlots.apart slot slot'
  unfold dataPage statusAddress HEADER_SIZE
  unfold DATA_PAGE_SIZE at apart fits
  omega

end Transfers

/-! ## Starting a call -/

def BlockDevice.ringEntries (driver : BlockDevice) (heads : List (BitVec 16)) : List Store :=
  heads.mapIdx fun offset head =>
    .availableEntry ((driver.availableIndex + BitVec.ofNat 16 offset) % driver.queueSize).toNat head

theorem publish_heads (driver : BlockDevice) (call : Call) (prepared : List Store) :
    driver.publish prepared call.heads = .ok ⟨prepared ++ driver.ringEntries call.heads ++
        [.availableIndex (driver.availableIndex + BitVec.ofNat 16 call.heads.length), .notify],
      driver.availableIndex + BitVec.ofNat 16 call.heads.length,
      { driver with availableIndex := driver.availableIndex + BitVec.ofNat 16 call.heads.length }⟩ := by
  have length := call.heads_length
  unfold publish
  rw [if_neg]
  · rfl
  intro refused
  rcases refused with empty | long
  · rw [empty] at length
    exact absurd length.1 (by decide)
  · exact absurd length.2 (Nat.not_le_of_lt long)

theorem ringEntries_entry {heads : List (BitVec 16)} (member : store ∈ driver.ringEntries heads) :
    ∃ slot head, store = .availableEntry slot head := by
  obtain ⟨offset, inside, rfl⟩ := mem_mapIdx.mp member
  exact ⟨_, _, rfl⟩

/-- The ring holds the chains in order, also across the end of the ring. -/
theorem ringEntries_ring (call : Call) {offset : Nat} (at_ : call.heads[offset]? = some head) :
    (memory.storeAll (driver.ringEntries call.heads)).availableRing
      ((driver.availableIndex + BitVec.ofNat 16 offset) % driver.queueSize).toNat = head := by
  rcases call.heads_cases with single | pair
  · rw [single] at at_ ⊢
    rcases offset with _ | offset
    · cases at_
      exact if_pos rfl
    · cases at_
  · rw [pair] at at_ ⊢
    rcases offset with _ | _ | offset
    · cases at_
      refine (if_neg ?_).trans (if_pos rfl)
      have other := ringSlot_ne driver driver.availableIndex
      rw [BitVec.add_zero]
      exact symm other
    · cases at_
      exact if_pos rfl
    · cases at_

/-- What the ring entries add to memory that holds the requests. -/
theorem Prepared.of_requests (requests : ∀ p ∈ call.requests driver,
      memory.request 8#16 (headOf p.1) = some p.2)
    (data : ∀ sector data, call = .write sector data →
      view memory.bytes (driver.dataPage 0) data.length = data) :
    Prepared driver call driver.availableIndex
      (memory.storeAll (driver.ringEntries call.heads)) where
  requests := by
    rw [driver.queueSize_eq, Memory.storeAll_entries fun store member => ringEntries_entry member]
    exact requests
  entries := fun offset head at_ => ringEntries_ring call at_
  data := by
    rw [Memory.storeAll_entries fun store member => ringEntries_entry member]
    exact data

theorem transferStores_preparation {slot : Fin REQUEST_SLOT_COUNT} {header : BlockRequestHeader}
    {contents : Bytes} {flags : BitVec 16}
    (member : store ∈ driver.transferStores slot header contents flags) :
    store.isPreparation = true := by
  simp only [transferStores, mem_cons, not_mem_nil, or_false] at member
  rcases member with rfl | rfl | rfl | rfl | rfl | rfl <;> rfl

/-- The stores of a read in a slot. -/
def BlockDevice.readStores (driver : BlockDevice) (slot : Fin REQUEST_SLOT_COUNT)
    (sector : BitVec 64) (byteCount : Nat) : List Store :=
  driver.transferStores slot ⟨BLOCK_REQUEST_IN, 0#32, sector⟩ (List.replicate byteCount 0#8)
    (DESCRIPTOR_NEXT ||| DESCRIPTOR_WRITE)

section Reads

variable {slot slot' : Fin REQUEST_SLOT_COUNT} {sector' : BitVec 64}

theorem readStores_chain : TransferChain (memory.storeAll (driver.readStores slot sector byteCount))
    (headOf slot) (DESCRIPTOR_NEXT ||| DESCRIPTOR_WRITE)
    (driver.requestSlots.slot slot).controlPage (driver.dataPage slot) byteCount
    (driver.statusAddress slot) := by
  have chain := @transferStores_chain driver memory slot ⟨BLOCK_REQUEST_IN, 0#32, sector⟩
    (replicate byteCount 0#8) (DESCRIPTOR_NEXT ||| DESCRIPTOR_WRITE)
  rw [length_replicate] at chain
  exact chain

theorem readStores_request (small : byteCount ≤ DATA_PAGE_SIZE) :
    (memory.storeAll (driver.readStores slot sector byteCount)).request 8#16
      (headOf slot) = some (driver.inputRequest slot sector byteCount) :=
  request_input readStores_chain (addresses_lt driver slot) small transferStores_header

/-- A read prepared in the other slot afterwards. -/
theorem readStores_request_other (other : slot ≠ slot') (small : byteCount ≤ DATA_PAGE_SIZE) :
    ((memory.storeAll (driver.readStores slot sector byteCount)).storeAll
      (driver.readStores slot' sector' byteCount)).request 8#16 (headOf slot) =
        some (driver.inputRequest slot sector byteCount) :=
  request_input (transferStores_other other readStores_chain) (addresses_lt driver slot) small
    ((transferStores_header_other other).trans transferStores_header)

end Reads

def BlockDevice.flushStores (driver : BlockDevice) : List Store :=
  let head := headOf 0
  [.header (driver.requestSlots.slot 0).controlPage ⟨BLOCK_REQUEST_FLUSH, 0#32, 0#64⟩,
    .bytes (driver.statusAddress 0) [0xff#8],
    .descriptor (head.toNat + 0)
      ⟨BitVec.ofNat 64 (driver.requestSlots.slot 0).controlPage, BitVec.ofNat 32 HEADER_SIZE,
        DESCRIPTOR_NEXT, head + 1#16⟩,
    .descriptor (head.toNat + 1)
      ⟨BitVec.ofNat 64 (driver.statusAddress 0), 1#32, DESCRIPTOR_WRITE, 0#16⟩]

theorem prepareFlush_eq (driver : BlockDevice) :
    driver.prepareFlush 0 = .ok driver.flushStores := rfl

theorem flushStores_request : (memory.storeAll driver.flushStores).request 8#16
    (headOf 0) = some (.flush (driver.statusAddress 0)) := by
  obtain ⟨control, _, status⟩ := addresses_lt driver 0
  obtain ⟨one, _⟩ := headOf_succ 0
  apply request_flush _ _ ⟨control, status⟩ (if_pos rfl)
  · simp [Memory.storeAll, flushStores, Memory.store]
  · simp [Memory.storeAll, flushStores, Memory.store, one]

theorem flushStores_preparation (member : store ∈ driver.flushStores) :
    store.isPreparation = true := by
  simp only [flushStores, mem_cons, not_mem_nil, or_false] at member
  rcases member with rfl | rfl | rfl | rfl <;> rfl

/-- The preparation of a call, for every memory. -/
structure Preparation (driver : BlockDevice) (call : Call) (stores : List Store) : Prop where
  preparation : ∀ store ∈ stores, store.isPreparation = true
  prepared : ∀ memory : Memory, Prepared driver call driver.availableIndex (memory.storeAll stores)

theorem Preparation.publish {prepared : List Store}
    (preparation : ∀ store ∈ prepared, store.isPreparation = true)
    (requests : ∀ memory : Memory, ∀ p ∈ call.requests driver,
      (memory.storeAll prepared).request 8#16 (headOf p.1) = some p.2)
    (data : ∀ (memory : Memory) sector data, call = .write sector data →
      view (memory.storeAll prepared).bytes (driver.dataPage 0) data.length = data) :
    Preparation driver call (prepared ++ driver.ringEntries call.heads) where
  preparation := by
    intro store member
    rcases mem_append.mp member with first | second
    · exact preparation store first
    · obtain ⟨slot, head, rfl⟩ := ringEntries_entry second
      rfl
  prepared := by
    intro memory
    rw [Memory.storeAll_append]
    exact Prepared.of_requests (requests memory) (data memory)

/-- An accepted call is in range, and its stores are the preparation, the index and the
doorbell. -/
theorem start_ok (ok : driver.start call = .ok started) : call.Accepted driver ∧
    started.expectedUsedIndex = driver.availableIndex + BitVec.ofNat 16 call.heads.length ∧
    started.device = { driver with availableIndex := started.expectedUsedIndex } ∧
    ∃ stores, started.stores = stores ++ [.availableIndex started.expectedUsedIndex, .notify] ∧
      Preparation driver call stores := by
  have published : ∀ prepared, driver.publish prepared call.heads = .ok started →
      started.expectedUsedIndex = driver.availableIndex + BitVec.ofNat 16 call.heads.length ∧
      started.device = { driver with availableIndex := started.expectedUsedIndex } ∧
      started.stores = prepared ++ driver.ringEntries call.heads ++
        [.availableIndex started.expectedUsedIndex, .notify] := by
    intro prepared publish
    rw [publish_heads] at publish
    cases publish
    exact ⟨rfl, rfl, rfl⟩
  cases call with
  | read sector byteCount =>
    obtain ⟨⟨⟩, valid, ok⟩ := Except.bind_ok ok
    obtain ⟨prepared, built, ok⟩ := Except.bind_ok ok
    rw [prepareRead_eq] at built
    cases built
    have accepted := validateTransfer_ok valid
    obtain ⟨index, device, stores⟩ := published _ ok
    refine ⟨?_, index, device, _, stores, .publish (fun _ => transferStores_preparation) ?_ ?_⟩
    · intro transfer member
      cases mem_singleton.mp member
      exact accepted
    · intro memory p member
      cases mem_singleton.mp member
      exact readStores_request accepted.1
    · intro memory sector' data write
      cases write
  | readPair firstSector secondSector byteCount =>
    obtain ⟨⟨⟩, validFirst, ok⟩ := Except.bind_ok ok
    obtain ⟨⟨⟩, validSecond, ok⟩ := Except.bind_ok ok
    obtain ⟨first, builtFirst, ok⟩ := Except.bind_ok ok
    obtain ⟨second, builtSecond, ok⟩ := Except.bind_ok ok
    rw [prepareRead_eq] at builtFirst builtSecond
    cases builtFirst
    cases builtSecond
    have acceptedFirst := validateTransfer_ok validFirst
    have acceptedSecond := validateTransfer_ok validSecond
    obtain ⟨index, device, stores⟩ := published _ ok
    refine ⟨?_, index, device, _, stores, .publish ?_ ?_ ?_⟩
    · intro transfer member
      simp only [Call.transfers, mem_cons, not_mem_nil, or_false] at member
      rcases member with rfl | rfl
      · exact acceptedFirst
      · exact acceptedSecond
    · intro store member
      rcases mem_append.mp member with member | member
      · exact transferStores_preparation member
      · exact transferStores_preparation member
    · intro memory p member
      simp only [Call.requests, mem_cons, not_mem_nil, or_false] at member
      rcases member with rfl | rfl
      · exact readStores_request_other (show (0 : Fin REQUEST_SLOT_COUNT) ≠ 1 by decide)
          acceptedFirst.1
      · exact readStores_request acceptedSecond.1
    · intro memory sector' data write
      cases write
  | write sector data =>
    obtain ⟨⟨⟩, valid, ok⟩ := Except.bind_ok ok
    obtain ⟨prepared, built, ok⟩ := Except.bind_ok ok
    rw [prepareWrite_eq] at built
    cases built
    have accepted := validateTransfer_ok valid
    obtain ⟨index, device, stores⟩ := published _ ok
    refine ⟨?_, index, device, _, stores, .publish (fun _ => transferStores_preparation) ?_ ?_⟩
    · intro transfer member
      cases mem_singleton.mp member
      exact accepted
    · intro memory p member
      cases mem_singleton.mp member
      exact request_output transferStores_chain (addresses_lt driver 0) accepted.1
        transferStores_header
    · intro memory sector' data' same
      cases same
      rw [transferStores_bytes, view_put_singleton (status_apart driver 0 0 accepted.1),
        view_put_self]
  | flush =>
    rw [start] at ok
    split at ok
    · obtain ⟨index, device, stores⟩ := published _ ok
      refine ⟨?_, index, device, _, stores, .publish (fun _ => flushStores_preparation) ?_ ?_⟩
      · intro transfer member
        cases member
      · intro memory p member
        cases mem_singleton.mp member
        exact flushStores_request
      · intro memory sector' data same
        cases same
    · cases ok

end SlopOS.Virtio
