import SlopOS.Base.RangeMap
import SlopOS.Base.Fallible
import Mathlib.Data.BitVec
import Mathlib.Tactic.IntervalCases

/-!
# The virtio block driver

Descriptor chains, the two request slots and the split queue.  A call validates its range,
prepares one chain per request, publishes the chains and waits until the used index has
caught up.  Up to the wait a call is a list of volatile stores; the device may act between
any two of them.
-/

namespace SlopOS.Virtio

open RangeMap

abbrev Bytes := List (BitVec 8)

def DESCRIPTOR_NEXT : BitVec 16 := 1#16
def DESCRIPTOR_WRITE : BitVec 16 := 2#16
def BLOCK_REQUEST_IN : BitVec 32 := 0#32
def BLOCK_REQUEST_OUT : BitVec 32 := 1#32
def BLOCK_REQUEST_FLUSH : BitVec 32 := 4#32
def BLOCK_FEATURE_READ_ONLY : BitVec 32 := 1#32 <<< 5
def BLOCK_FEATURE_FLUSH : BitVec 32 := 1#32 <<< 9
def FEATURE_VERSION_1 : BitVec 32 := 1#32
def BLOCK_STATUS_OK : BitVec 8 := 0#8
def QUEUE_LIMIT : BitVec 16 := 8#16
def SECTOR_SIZE : Nat := 512
def DATA_PAGE_SIZE : Nat := 4096
abbrev REQUEST_SLOT_COUNT : Nat := 2
def DESCRIPTORS_PER_REQUEST : BitVec 16 := 3#16

instance slotCount : NeZero REQUEST_SLOT_COUNT := ⟨by decide⟩

/-- `size_of::<BlockRequestHeader>()`. -/
def HEADER_SIZE : Nat := 16

structure Descriptor where
  address : BitVec 64
  length : BitVec 32
  flags : BitVec 16
  next : BitVec 16
  deriving DecidableEq, Repr

structure BlockRequestHeader where
  requestType : BitVec 32
  reserved : BitVec 32
  sector : BitVec 64
  deriving DecidableEq, Repr

/-- The largest power of two up to both sizes; a queue has at least four entries. -/
def chooseQueueSize (offered limit : BitVec 16) : Option (BitVec 16) :=
  let maximum := if offered < limit then offered else limit
  if maximum < 4#16 then none else some (1#16 <<< (15 - maximum.clz.toNat))

/-! ## Descriptor chains

`none` is a failed assertion. -/

/-- A header, a data buffer and a status byte. -/
def blockTransferDescriptorsAt (dataFlags head : BitVec 16) (headerAddress : BitVec 64)
    (headerLength : BitVec 32) (dataAddress : BitVec 64) (dataLength : BitVec 32)
    (statusAddress : BitVec 64) : Option (List Descriptor) :=
  if head ≤ BitVec.allOnes 16 - 2#16 then some [
    ⟨headerAddress, headerLength, DESCRIPTOR_NEXT, head + 1#16⟩,
    ⟨dataAddress, dataLength, dataFlags, head + 2#16⟩,
    ⟨statusAddress, 1#32, DESCRIPTOR_WRITE, 0#16⟩]
  else none

def blockReadDescriptorsAt :=
  blockTransferDescriptorsAt (DESCRIPTOR_NEXT ||| DESCRIPTOR_WRITE)

def blockWriteDescriptorsAt := blockTransferDescriptorsAt DESCRIPTOR_NEXT

def blockFlushDescriptorsAt (head : BitVec 16) (headerAddress : BitVec 64)
    (headerLength : BitVec 32) (statusAddress : BitVec 64) : Option (List Descriptor) :=
  if head < BitVec.allOnes 16 then some [
    ⟨headerAddress, headerLength, DESCRIPTOR_NEXT, head + 1#16⟩,
    ⟨statusAddress, 1#32, DESCRIPTOR_WRITE, 0#16⟩]
  else none

/-! ## Memory shared with the device -/

/-- The queue pages as arrays of their entries; request headers and plain bytes by physical
address. -/
structure Memory where
  descriptors : Nat → Descriptor
  availableRing : Nat → BitVec 16
  availableIndex : BitVec 16
  usedRing : Nat → BitVec 16
  usedIndex : BitVec 16
  headers : Nat → BlockRequestHeader
  bytes : Nat → BitVec 8

def Memory.zero : Memory :=
  ⟨fun _ => ⟨0#64, 0#32, 0#16, 0#16⟩, fun _ => 0#16, 0#16, fun _ => 0#16, 0#16,
    fun _ => ⟨0#32, 0#32, 0#64⟩, fun _ => 0#8⟩

/-- One store of the driver. -/
inductive Store where
  | header (page : Nat) (value : BlockRequestHeader)
  | bytes (address : Nat) (data : Bytes)
  | descriptor (index : Nat) (value : Descriptor)
  | availableEntry (ringSlot : Nat) (head : BitVec 16)
  | availableIndex (value : BitVec 16)
  | notify

def Memory.store (memory : Memory) : Store → Memory
  | .header page value =>
      { memory with headers := fun a => if a = page then value else memory.headers a }
  | .bytes address data => { memory with bytes := put memory.bytes address data }
  | .descriptor index value =>
      { memory with descriptors := fun i => if i = index then value else memory.descriptors i }
  | .availableEntry ringSlot head =>
      { memory with availableRing := fun i => if i = ringSlot then head else memory.availableRing i }
  | .availableIndex value => { memory with availableIndex := value }
  | .notify => memory

/-! ## The driver -/

structure RequestSlot where
  controlPage : Nat
  dataPage : Nat

/-- The frames of the request slots are exclusive. -/
structure RequestSlots where
  slot : Fin REQUEST_SLOT_COUNT → RequestSlot
  bounded : ∀ i, (slot i).controlPage + DATA_PAGE_SIZE ≤ 2 ^ 64 ∧
    (slot i).dataPage + DATA_PAGE_SIZE ≤ 2 ^ 64
  controlApart : ∀ i j, i ≠ j → (slot i).controlPage + DATA_PAGE_SIZE ≤ (slot j).controlPage ∨
    (slot j).controlPage + DATA_PAGE_SIZE ≤ (slot i).controlPage
  dataApart : ∀ i j, i ≠ j → (slot i).dataPage + DATA_PAGE_SIZE ≤ (slot j).dataPage ∨
    (slot j).dataPage + DATA_PAGE_SIZE ≤ (slot i).dataPage
  apart : ∀ i j, (slot i).controlPage + DATA_PAGE_SIZE ≤ (slot j).dataPage ∨
    (slot j).dataPage + DATA_PAGE_SIZE ≤ (slot i).controlPage

structure BlockDevice where
  requestSlots : RequestSlots
  queueSize : BitVec 16
  capacitySectors : BitVec 64
  flushSupported : Bool
  availableIndex : BitVec 16
  /-- The queue was negotiated and holds both requests. -/
  negotiated : (∃ offered, chooseQueueSize offered QUEUE_LIMIT = some queueSize) ∧
    REQUEST_SLOT_COUNT * DESCRIPTORS_PER_REQUEST.toNat ≤ queueSize.toNat

/-- The negotiation: what the device offers decides the queue and the features. -/
def initializeBlock (lowFeatures highFeatures : BitVec 32) (numQueues offeredQueueSize : BitVec 16)
    (capacitySectors : BitVec 64) (requestSlots : RequestSlots) : Except String BlockDevice :=
  if lowFeatures &&& BLOCK_FEATURE_READ_ONLY ≠ 0#32 then throw "virtio block device is read-only"
  else if highFeatures &&& FEATURE_VERSION_1 = 0#32 then
    throw "virtio modern VERSION_1 feature is absent"
  else if numQueues = 0#16 then throw "virtio block exposes no queues"
  else
    match chosen : chooseQueueSize offeredQueueSize QUEUE_LIMIT with
    | none => throw "virtio queue is too small"
    | some queueSize =>
        if room : REQUEST_SLOT_COUNT * DESCRIPTORS_PER_REQUEST.toNat ≤ queueSize.toNat then
          if capacitySectors = 0#64 then throw "virtio block capacity is zero"
          else .ok ⟨requestSlots, queueSize, capacitySectors,
            lowFeatures &&& BLOCK_FEATURE_FLUSH ≠ 0#32, 0#16, ⟨offeredQueueSize, chosen⟩, room⟩
        else throw "virtio queue cannot hold two block requests"

namespace BlockDevice

/-- The stores of a call, the used index it waits for, and the driver meanwhile. -/
structure Started where
  stores : List Store
  expectedUsedIndex : BitVec 16
  device : BlockDevice

variable (device : BlockDevice)

def validateTransfer (sector : BitVec 64) (byteCount : Nat) : Except String Unit :=
  if byteCount = 0 ∨ DATA_PAGE_SIZE < byteCount ∨ byteCount % SECTOR_SIZE ≠ 0 ∨
      -- `checked_add` on 64 bits.
      2 ^ 64 ≤ sector.toNat + byteCount / SECTOR_SIZE ∨
      device.capacitySectors.toNat < sector.toNat + byteCount / SECTOR_SIZE then
    throw "virtio block transfer is outside device bounds"
  else .ok ()

section

variable (slotIndex : Fin REQUEST_SLOT_COUNT)

def statusAddress : Nat :=
  (device.requestSlots.slot slotIndex).controlPage + HEADER_SIZE

def headOf : BitVec 16 :=
  BitVec.ofNat 16 slotIndex * DESCRIPTORS_PER_REQUEST

/-- The header, what goes to the data page, the status byte and the chain. -/
def prepare (header : BlockRequestHeader) (contents : List Store) (chain : Option (List Descriptor))
    : Except String (List Store) :=
  match chain with
  | none => throw "assertion failed"
  | some chain => .ok ([.header (device.requestSlots.slot slotIndex).controlPage header] ++
      contents ++ [.bytes (device.statusAddress slotIndex) [0xff#8]] ++
      chain.mapIdx fun offset descriptor =>
        .descriptor ((headOf slotIndex).toNat + offset) descriptor)

def prepareRead (sector : BitVec 64) (byteCount : Nat) : Except String (List Store) :=
  let slot := device.requestSlots.slot slotIndex
  device.prepare slotIndex ⟨BLOCK_REQUEST_IN, 0#32, sector⟩
    [.bytes slot.dataPage (List.replicate byteCount 0#8)]
    (blockReadDescriptorsAt (headOf slotIndex) (BitVec.ofNat 64 slot.controlPage)
      (BitVec.ofNat 32 HEADER_SIZE) (BitVec.ofNat 64 slot.dataPage) (BitVec.ofNat 32 byteCount)
      (BitVec.ofNat 64 (device.statusAddress slotIndex)))

def prepareWrite (sector : BitVec 64) (data : Bytes) : Except String (List Store) :=
  let slot := device.requestSlots.slot slotIndex
  device.prepare slotIndex ⟨BLOCK_REQUEST_OUT, 0#32, sector⟩ [.bytes slot.dataPage data]
    (blockWriteDescriptorsAt (headOf slotIndex) (BitVec.ofNat 64 slot.controlPage)
      (BitVec.ofNat 32 HEADER_SIZE) (BitVec.ofNat 64 slot.dataPage) (BitVec.ofNat 32 data.length)
      (BitVec.ofNat 64 (device.statusAddress slotIndex)))

def prepareFlush : Except String (List Store) :=
  let slot := device.requestSlots.slot slotIndex
  device.prepare slotIndex ⟨BLOCK_REQUEST_FLUSH, 0#32, 0#64⟩ []
    (blockFlushDescriptorsAt (headOf slotIndex) (BitVec.ofNat 64 slot.controlPage)
      (BitVec.ofNat 32 HEADER_SIZE) (BitVec.ofNat 64 (device.statusAddress slotIndex)))

end

/-- Ring entries first, then the index, then the doorbell. -/
def publish (prepared : List Store) (heads : List (BitVec 16)) : Except String Started :=
  if heads = [] ∨ REQUEST_SLOT_COUNT < heads.length then
    throw "virtio publish batch size is invalid"
  else
    let entries := heads.mapIdx fun offset head =>
      let ringIndex := device.availableIndex + BitVec.ofNat 16 offset
      Store.availableEntry (ringIndex % device.queueSize).toNat head
    let expectedUsedIndex := device.availableIndex + BitVec.ofNat 16 heads.length
    .ok ⟨prepared ++ entries ++ [.availableIndex expectedUsedIndex, .notify], expectedUsedIndex,
      { device with availableIndex := expectedUsedIndex }⟩

end BlockDevice

/-! ## Calls -/

inductive Call where
  | read (sector : BitVec 64) (byteCount : Nat)
  | readPair (firstSector secondSector : BitVec 64) (byteCount : Nat)
  | write (sector : BitVec 64) (data : Bytes)
  | flush

/-- A call up to its wait. -/
def BlockDevice.start (device : BlockDevice) : Call → Except String BlockDevice.Started
  | .read sector byteCount => do
      device.validateTransfer sector byteCount
      let prepared ← device.prepareRead 0 sector byteCount
      device.publish prepared [0#16]
  | .readPair firstSector secondSector byteCount => do
      device.validateTransfer firstSector byteCount
      device.validateTransfer secondSector byteCount
      let first ← device.prepareRead 0 firstSector byteCount
      let second ← device.prepareRead 1 secondSector byteCount
      device.publish (first ++ second) [0#16, DESCRIPTORS_PER_REQUEST]
  | .write sector data => do
      device.validateTransfer sector data.length
      let prepared ← device.prepareWrite 0 sector data
      device.publish prepared [0#16]
  | .flush =>
      if device.flushSupported then do
        let prepared ← device.prepareFlush 0
        device.publish prepared [0#16]
      else throw "virtio block device does not support flush"

/-- The slots whose status is validated after the wait. -/
def Call.slots : Call → List (Fin REQUEST_SLOT_COUNT)
  | .read .. => [0]
  | .readPair .. => [0, 1]
  | .write .. => [0]
  | .flush => [0]

/-- `Completion::poll`. -/
def Memory.pollReady (memory : Memory) (expectedUsedIndex : BitVec 16) : Bool :=
  memory.usedIndex = expectedUsedIndex

namespace BlockDevice

variable (device : BlockDevice) (memory : Memory)

def validateStatus (slotIndex : Fin REQUEST_SLOT_COUNT) : Except String Unit :=
  if memory.bytes (device.statusAddress slotIndex) ≠ BLOCK_STATUS_OK then
    throw "virtio block request returned an error"
  else .ok ()

def slotData (slotIndex : Fin REQUEST_SLOT_COUNT) (byteCount : Nat) :
    Except String Bytes :=
  if DATA_PAGE_SIZE < byteCount then throw "virtio block buffer view is out of bounds"
  else .ok (view memory.bytes (device.requestSlots.slot slotIndex).dataPage byteCount)

def data (byteCount : Nat) : Except String Bytes :=
  device.slotData memory 0 byteCount

def pairData (slotIndex byteCount : Nat) : Except String Bytes :=
  if bound : slotIndex < REQUEST_SLOT_COUNT then device.slotData memory ⟨slotIndex, bound⟩ byteCount
  else throw "virtio request slot is out of bounds"

end BlockDevice

end SlopOS.Virtio
