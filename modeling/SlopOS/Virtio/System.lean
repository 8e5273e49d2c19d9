import SlopOS.Virtio.Driver

/-!
# Driver and device side by side

The device follows the rules of a split queue: it fetches each published entry once,
performs the requests it has fetched in any order, and adds one used entry for each.  It may
report an error for a request, and a chain that is no request gives it a free hand.  `Runs`
interleaves its steps with the single stores and polls of the driver.
-/

namespace SlopOS.Virtio

open RangeMap

/-- The medium, byte by byte. -/
abbrev Medium := Nat → BitVec 8

/-! ## Requests in memory -/

inductive Request where
  | input (sector : BitVec 64) (address length status : Nat)
  | output (sector : BitVec 64) (address length status : Nat)
  | flush (status : Nat)
  deriving DecidableEq, Repr

def Request.status : Request → Nat
  | .input _ _ _ status => status
  | .output _ _ _ status => status
  | .flush status => status

/-- The descriptors from `head` on. -/
def chainFrom (descriptors : Nat → Descriptor) : Nat → BitVec 16 → List Descriptor
  | 0, _ => []
  | fuel + 1, head =>
      let descriptor := descriptors head.toNat
      descriptor :: if descriptor.flags &&& DESCRIPTOR_NEXT = 0#16 then []
        else chainFrom descriptors fuel descriptor.next

/-- The device may write to the buffer. -/
def Descriptor.writable (descriptor : Descriptor) : Bool :=
  descriptor.flags &&& DESCRIPTOR_WRITE ≠ 0#16

/-- The request that the chain at `head` stands for. -/
def Memory.request (memory : Memory) (queueSize head : BitVec 16) : Option Request :=
  match chainFrom memory.descriptors queueSize.toNat head with
  | [first, data, status] =>
      let header := memory.headers first.address.toNat
      if first.writable = false ∧ first.length.toNat = HEADER_SIZE ∧ status.writable = true ∧
          status.length = 1#32 then
        if header.requestType = BLOCK_REQUEST_IN ∧ data.writable = true then
          some (.input header.sector data.address.toNat data.length.toNat status.address.toNat)
        else if header.requestType = BLOCK_REQUEST_OUT ∧ data.writable = false then
          some (.output header.sector data.address.toNat data.length.toNat status.address.toNat)
        else none
      else none
  | [first, status] =>
      let header := memory.headers first.address.toNat
      if first.writable = false ∧ first.length.toNat = HEADER_SIZE ∧ status.writable = true ∧
          status.length = 1#32 ∧ header.requestType = BLOCK_REQUEST_FLUSH then
        some (.flush status.address.toNat)
      else none
  | _ => none

/-- Whole sectors inside the medium. -/
def Request.inRange (capacitySectors : Nat) : Request → Prop
  | .input sector _ length _ => length % SECTOR_SIZE = 0 ∧
      sector.toNat + length / SECTOR_SIZE ≤ capacitySectors
  | .output sector _ length _ => length % SECTOR_SIZE = 0 ∧
      sector.toNat + length / SECTOR_SIZE ≤ capacitySectors
  | .flush _ => True

/-- The bytes of memory that belong to the device during the request. -/
def Request.writes : Request → Nat → Prop
  | .input _ address length status, a => (address ≤ a ∧ a < address + length) ∨ a = status
  | .output _ _ _ status, a => a = status
  | .flush status, a => a = status

/-- The request carried out: bytes of memory, and the medium. -/
def Request.perform (bytes : Nat → BitVec 8) (medium : Medium) :
    Request → (Nat → BitVec 8) × Medium
  | .input sector address length status =>
      (put (put bytes address (view medium (sector.toNat * SECTOR_SIZE) length)) status
        [BLOCK_STATUS_OK], medium)
  | .output sector address length status =>
      (put bytes status [BLOCK_STATUS_OK],
        put medium (sector.toNat * SECTOR_SIZE) (view bytes address length))
  | .flush status => (put bytes status [BLOCK_STATUS_OK], medium)

/-! ## Steps of the device -/

structure DeviceState where
  lastAvailable : BitVec 16
  /-- Chains it has read from the available ring and not performed. -/
  fetched : List (BitVec 16)
  /-- Chains it has performed and not reported. -/
  performed : List (BitVec 16)
  /-- All chains it has reported, in order. -/
  reported : List (BitVec 16)
  medium : Medium

inductive DeviceStep (queueSize : BitVec 16) (capacitySectors : Nat) :
    Memory × DeviceState → Memory × DeviceState → Prop
  | fetch {memory : Memory} {state : DeviceState}
      (published : state.lastAvailable ≠ memory.availableIndex) :
      DeviceStep queueSize capacitySectors (memory, state) (memory, { state with
        lastAvailable := state.lastAvailable + 1#16
        fetched := state.fetched ++
          [memory.availableRing (state.lastAvailable % queueSize).toNat] })
  | perform {memory : Memory} {state : DeviceState} {before after : List (BitVec 16)}
      {head : BitVec 16} {request : Request} (chosen : state.fetched = before ++ head :: after)
      (chain : memory.request queueSize head = some request)
      (inRange : request.inRange capacitySectors) :
      DeviceStep queueSize capacitySectors (memory, state)
        ({ memory with bytes := (request.perform memory.bytes state.medium).1 }, { state with
          fetched := before ++ after
          performed := state.performed ++ [head]
          medium := (request.perform memory.bytes state.medium).2 })
  /-- An error is reported in the status byte; buffer and medium are then unspecified. -/
  | fault {memory : Memory} {state : DeviceState} {before after : List (BitVec 16)}
      {head : BitVec 16} {request : Request} {bytes : Nat → BitVec 8} (medium : Medium)
      (chosen : state.fetched = before ++ head :: after)
      (chain : memory.request queueSize head = some request)
      (kept : ∀ a, ¬ request.writes a → bytes a = memory.bytes a)
      (status : bytes request.status ≠ BLOCK_STATUS_OK) :
      DeviceStep queueSize capacitySectors (memory, state) ({ memory with bytes }, { state with
        fetched := before ++ after
        performed := state.performed ++ [head]
        medium })
  /-- Nothing is said about a device that is given a chain it cannot serve. -/
  | undefined {memory memory' : Memory} {state state' : DeviceState} {head : BitVec 16}
      (chosen : head ∈ state.fetched)
      (malformed : ∀ request, memory.request queueSize head = some request →
        ¬ request.inRange capacitySectors) :
      DeviceStep queueSize capacitySectors (memory, state) (memory', state')
  | report {memory : Memory} {state : DeviceState} {before after : List (BitVec 16)}
      {head : BitVec 16} (chosen : state.performed = before ++ head :: after) :
      DeviceStep queueSize capacitySectors (memory, state)
        ({ memory with
          usedRing := fun i => if i = (memory.usedIndex % queueSize).toNat then head
            else memory.usedRing i
          usedIndex := memory.usedIndex + 1#16 },
        { state with
          performed := before ++ after
          reported := state.reported ++ [head] })

/-! ## The whole system -/

inductive Phase where
  | idle
  /-- Stores are left to do. -/
  | storing (rest : List Store) (expectedUsedIndex : BitVec 16)
      (slots : List (Fin REQUEST_SLOT_COUNT))
  | waiting (expectedUsedIndex : BitVec 16) (slots : List (Fin REQUEST_SLOT_COUNT))
  | failed (message : String)

structure System where
  driver : BlockDevice
  phase : Phase
  memory : Memory
  device : DeviceState

def System.boot (driver : BlockDevice) (medium : Medium) : System :=
  ⟨{ driver with availableIndex := 0#16 }, .idle, Memory.zero, ⟨0#16, [], [], [], medium⟩⟩

/-- The chains of the published entries that the device has not fetched. -/
def System.unfetched (s : System) : List (BitVec 16) :=
  (List.range (s.memory.availableIndex - s.device.lastAvailable).toNat).map fun offset =>
    s.memory.availableRing
      ((s.device.lastAvailable + BitVec.ofNat 16 offset) % s.driver.queueSize).toNat

/-- The chains the device owns: published and not reported. -/
def System.owned (s : System) : List (BitVec 16) :=
  s.unfetched ++ s.device.fetched ++ s.device.performed

def DeviceMoves (s s' : System) : Prop :=
  s'.driver = s.driver ∧ s'.phase = s.phase ∧
    DeviceStep s.driver.queueSize s.driver.capacitySectors.toNat (s.memory, s.device)
      (s'.memory, s'.device)

/-- A step inside a call: of the driver, or of the device. -/
inductive Step : System → System → Prop
  | store {s : System} {store : Store} {rest : List Store} {expected : BitVec 16}
      {slots : List (Fin REQUEST_SLOT_COUNT)} (phase : s.phase = .storing (store :: rest) expected slots) :
      Step s { s with memory := s.memory.store store, phase := .storing rest expected slots }
  | await {s : System} {expected : BitVec 16} {slots : List (Fin REQUEST_SLOT_COUNT)}
      (phase : s.phase = .storing [] expected slots) :
      Step s { s with phase := .waiting expected slots }
  | complete {s : System} {expected : BitVec 16} {slots : List (Fin REQUEST_SLOT_COUNT)}
      (phase : s.phase = .waiting expected slots) (ready : s.memory.pollReady expected = true)
      (valid : slots.forM (s.driver.validateStatus s.memory) = .ok ()) :
      Step s { s with phase := .idle }
  | error {s : System} {expected : BitVec 16} {slots : List (Fin REQUEST_SLOT_COUNT)}
      {message : String} (phase : s.phase = .waiting expected slots)
      (ready : s.memory.pollReady expected = true)
      (invalid : slots.forM (s.driver.validateStatus s.memory) = .error message) :
      Step s { s with phase := .failed message }
  | device {s s' : System} (moves : DeviceMoves s s') : Step s s'

/-- The states reached from the start, with the calls made so far; the last one may still be
running. -/
inductive Runs (boot : System) : List Call → System → Prop
  | start : Runs boot [] boot
  | call {history : List Call} {s : System} {call : Call} {started : BlockDevice.Started}
      (run : Runs boot history s) (phase : s.phase = .idle)
      (accepted : s.driver.start call = .ok started) :
      Runs boot (history ++ [call]) { s with
        driver := started.device
        phase := .storing started.stores started.expectedUsedIndex call.slots }
  | refuse {history : List Call} {s : System} {call : Call} {message : String}
      (run : Runs boot history s) (phase : s.phase = .idle)
      (refused : s.driver.start call = .error message) :
      Runs boot (history ++ [call]) { s with phase := .failed message }
  | step {history : List Call} {s s' : System} (run : Runs boot history s) (step : Step s s') :
      Runs boot history s'

/-! ## The sequential block device -/

/-- What a call does to the medium. -/
def Call.apply : Call → Medium → Medium
  | .read .., medium => medium
  | .readPair .., medium => medium
  | .write sector data, medium => put medium (sector.toNat * SECTOR_SIZE) data
  | .flush, medium => medium

/-- The medium after the calls, one after the other. -/
def contents (medium : Medium) (history : List Call) : Medium :=
  history.foldl (fun medium call => call.apply medium) medium

/-- The sectors a call transfers: slot, first sector and byte count. -/
def Call.transfers : Call → List (Fin REQUEST_SLOT_COUNT × BitVec 64 × Nat)
  | .read sector byteCount => [(0, sector, byteCount)]
  | .readPair firstSector secondSector byteCount =>
      [(0, firstSector, byteCount), (1, secondSector, byteCount)]
  | .write sector data => [(0, sector, data.length)]
  | .flush => []

/-- The chains of a call. -/
def Call.heads (call : Call) : List (BitVec 16) := call.slots.map BlockDevice.headOf

end SlopOS.Virtio
