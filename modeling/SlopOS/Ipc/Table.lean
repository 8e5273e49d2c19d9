import SlopOS.Base.ByteCodec
import SlopOS.Base.RingBuffer
import SlopOS.Base.Fallible

/-!
# Local stream sockets

`crates/ipc/src/lib.rs`: a fixed table of sockets.  A handle names a slot and a
generation; every allocation of a slot takes the next generation.  Each connected
endpoint owns the ring its peer sends into, and a listener keeps the slots of the
server endpoints that wait for `accept`.

Every operation returns the table beside its result, since the source mutates the
table in place and an error can follow a mutation.  A slot's path buffer and its
length are one list here, and a receive returns the bytes it wrote to the front
of the caller's buffer.
-/

namespace SlopOS.Ipc

def LOCAL_PATH_MAX : Nat := 108

structure SocketHandle where
  index : Nat
  generation : Nat
  deriving DecidableEq, Repr

structure AncillaryRights where
  object : Nat
  generation : Nat
  deriving DecidableEq, Repr

inductive SocketError where
  | tableFull
  | invalidHandle
  | invalidPath
  | addressInUse
  | addressNotFound
  | invalidState
  | backlogFull
  | wouldBlock
  | brokenPipe
  | counterOverflow
  deriving DecidableEq, Repr

structure Readiness where
  readable : Bool
  writable : Bool
  peerClosed : Bool
  deriving DecidableEq, Repr

inductive SocketState where
  | free
  | created
  | bound
  | listening
  | connected
  deriving DecidableEq, Repr

/-! ## Byte rings -/

structure ByteRing (BYTES : Nat) where
  bytes : Vector (BitVec 8) BYTES
  head : Nat
  length : Nat
  deriving DecidableEq, Repr

namespace ByteRing

variable {BYTES : Nat}

def empty : ByteRing BYTES := ⟨Vector.replicate BYTES 0, 0, 0⟩

section

variable (ring : ByteRing BYTES)

def available : Nat := BYTES - ring.length

def push (input : List (BitVec 8)) : ByteRing BYTES × Nat :=
  let count := min input.length ring.available
  (⟨RingBuffer.write ring.bytes (ring.head + ring.length) (input.take count), ring.head,
    ring.length + count⟩, count)

/-- `size` is the length of the caller's buffer. -/
def pop (size : Nat) : ByteRing BYTES × List (BitVec 8) :=
  let count := min size ring.length
  let output := RingBuffer.window 0 ring.bytes ring.head count
  let head := if BYTES ≠ 0 then (ring.head + count) % BYTES else ring.head
  (⟨ring.bytes, head, ring.length - count⟩, output)

/-- The undelivered bytes in order. -/
def contents : List (BitVec 8) :=
  RingBuffer.window 0 ring.bytes ring.head ring.length

end

end ByteRing

/-! ## Slots -/

structure SocketSlot (SOCKETS BACKLOG BYTES : Nat) where
  generation : Nat
  state : SocketState
  path : List (BitVec 8)
  peer : Option (Fin SOCKETS)
  peerClosed : Bool
  receive : ByteRing BYTES
  rights : Option AncillaryRights
  pending : Vector (Option (Fin SOCKETS)) BACKLOG
  pendingHead : Nat
  pendingLength : Nat
  deriving DecidableEq, Repr

variable {SOCKETS BACKLOG BYTES : Nat}

namespace SocketSlot

/-- `SocketSlot::EMPTY` with the given generation. -/
def empty (generation : Nat) : SocketSlot SOCKETS BACKLOG BYTES where
  generation
  state := .free
  path := []
  peer := none
  peerClosed := false
  receive := .empty
  rights := none
  pending := Vector.replicate BACKLOG none
  pendingHead := 0
  pendingLength := 0

def resetForAllocation (generation : Nat) : SocketSlot SOCKETS BACKLOG BYTES :=
  { empty generation with state := .created }

section

variable (slot : SocketSlot SOCKETS BACKLOG BYTES)

def handle (index : Fin SOCKETS) : Except SocketError SocketHandle :=
  if index.val < 2 ^ 16 then .ok ⟨index.val, slot.generation⟩ else .error .tableFull

def pathIs (path : List (BitVec 8)) : Bool :=
  decide (slot.path = path)

/-- The slot is one whose path takes part in the namespace. -/
def named : Bool :=
  slot.state = .bound || slot.state = .listening

end

end SocketSlot

structure LocalSocketTable (SOCKETS BACKLOG BYTES : Nat) where
  slots : Vector (SocketSlot SOCKETS BACKLOG BYTES) SOCKETS
  deriving DecidableEq, Repr

/-- `u16::checked_add(1)`. -/
def checkedSucc (generation : Nat) : Option Nat :=
  if generation + 1 < 2 ^ 16 then some (generation + 1) else none

def validatePath (path : List (BitVec 8)) : Except SocketError Unit :=
  if path.isEmpty ∨ path.length > LOCAL_PATH_MAX ∨ path.head? ≠ some 0x2f ∨ 0 ∈ path then
    .error .invalidPath
  else .ok ()

namespace LocalSocketTable

def new : LocalSocketTable SOCKETS BACKLOG BYTES := ⟨Vector.replicate SOCKETS (.empty 0)⟩

section

variable (table : LocalSocketTable SOCKETS BACKLOG BYTES)

def slot (index : Fin SOCKETS) : SocketSlot SOCKETS BACKLOG BYTES :=
  table.slots[index.val]

def setSlot (index : Fin SOCKETS) (slot : SocketSlot SOCKETS BACKLOG BYTES) :
    LocalSocketTable SOCKETS BACKLOG BYTES :=
  ⟨table.slots.set index slot⟩

/-- The first slot that satisfies `accepts`. -/
def position (accepts : Fin SOCKETS → SocketSlot SOCKETS BACKLOG BYTES → Bool) :
    Option (Fin SOCKETS) :=
  (List.finRange SOCKETS).find? fun index => accepts index (table.slot index)

end

/-- The slot a handle names. -/
def index (table : LocalSocketTable SOCKETS BACKLOG BYTES) (handle : SocketHandle) :
    Except SocketError (Fin SOCKETS) :=
  if inside : handle.index < SOCKETS then
    let slot := table.slot ⟨handle.index, inside⟩
    if slot.state ≠ .free ∧ slot.generation = handle.generation then .ok ⟨handle.index, inside⟩
    else .error .invalidHandle
  else .error .invalidHandle

/-- A table with what the operation on it returned. -/
abbrev Outcome (SOCKETS BACKLOG BYTES : Nat) (α : Type) :=
  LocalSocketTable SOCKETS BACKLOG BYTES × Except SocketError α

variable (table : LocalSocketTable SOCKETS BACKLOG BYTES)

/-! ## Opening -/

def socket : Outcome SOCKETS BACKLOG BYTES SocketHandle :=
  if SOCKETS > 65535 ∨ BACKLOG = 0 ∨ BYTES = 0 then (table, .error .tableFull)
  else
    match table.position fun _ slot => slot.state = .free with
    | none => (table, .error .tableFull)
    | some index =>
        match checkedSucc (table.slot index).generation with
        | none => (table, .error .counterOverflow)
        | some generation =>
            let table := table.setSlot index (.resetForAllocation generation)
            (table, (table.slot index).handle index)

variable (socket : SocketHandle) (path : List (BitVec 8))

def bind : Outcome SOCKETS BACKLOG BYTES Unit :=
  match validatePath path with
  | .error error => (table, .error error)
  | .ok () =>
      if (table.position fun _ slot => slot.named && slot.pathIs path).isSome then
        (table, .error .addressInUse)
      else
        match table.index socket with
        | .error error => (table, .error error)
        | .ok index =>
            let slot := table.slot index
            if slot.state ≠ .created then (table, .error .invalidState)
            else (table.setSlot index { slot with path, state := .bound }, .ok ())

def listen : Outcome SOCKETS BACKLOG BYTES Unit :=
  match table.index socket with
  | .error error => (table, .error error)
  | .ok index =>
      let slot := table.slot index
      if slot.state ≠ .bound then (table, .error .invalidState)
      else (table.setSlot index { slot with state := .listening }, .ok ())

/-! ## Connecting -/

/-- The mutations of `connect`, once the three slots and the generation are found. -/
def link (client listener server : Fin SOCKETS) (generation : Nat) :
    LocalSocketTable SOCKETS BACKLOG BYTES :=
  let table := table.setSlot server
    { SocketSlot.resetForAllocation generation with state := .connected, peer := some client }
  let table := table.setSlot client
    { table.slot client with state := .connected, peer := some server }
  let slot := table.slot listener
  let tail := (slot.pendingHead + slot.pendingLength) % BACKLOG
  table.setSlot listener
    { slot with
      pending := slot.pending.setIfInBounds tail (some server)
      pendingLength := slot.pendingLength + 1 }

def connect : Outcome SOCKETS BACKLOG BYTES Unit :=
  match validatePath path with
  | .error error => (table, .error error)
  | .ok () =>
      match table.index socket with
      | .error error => (table, .error error)
      | .ok client =>
          if (table.slot client).state ≠ .created then (table, .error .invalidState)
          else
            match table.position fun _ slot => slot.state = .listening && slot.pathIs path with
            | none => (table, .error .addressNotFound)
            | some listener =>
                if (table.slot listener).pendingLength = BACKLOG then
                  (table, .error .backlogFull)
                else
                  match table.position fun index slot =>
                      index ≠ client && index ≠ listener && slot.state = .free with
                  | none => (table, .error .tableFull)
                  | some server =>
                      match checkedSucc (table.slot server).generation with
                      | none => (table, .error .counterOverflow)
                      | some generation =>
                          (table.link client listener server generation, .ok ())

def accept (listener : SocketHandle) : Outcome SOCKETS BACKLOG BYTES SocketHandle :=
  match table.index listener with
  | .error error => (table, .error error)
  | .ok index =>
      let slot := table.slot index
      if slot.state ≠ .listening then (table, .error .invalidState)
      else if slot.pendingLength = 0 then (table, .error .wouldBlock)
      else
        match slot.pending[slot.pendingHead]?.getD none with
        | none => (table, .error .invalidState)
        | some server =>
            let table := table.setSlot index
              { slot with
                pending := slot.pending.setIfInBounds slot.pendingHead none
                pendingHead := (slot.pendingHead + 1) % BACKLOG
                pendingLength := slot.pendingLength - 1 }
            (table, (table.slot server).handle server)

def pendingConnections (listener : SocketHandle) : Except SocketError Nat := do
  let index ← table.index listener
  if (table.slot index).state ≠ .listening then throw .invalidState
  return (table.slot index).pendingLength

def peer : Except SocketError SocketHandle := do
  let index ← table.index socket
  let slot := table.slot index
  if slot.state ≠ .connected ∨ slot.peerClosed then throw .invalidState
  match slot.peer with
  | none => throw .brokenPipe
  | some peer => (table.slot peer).handle peer

/-! ## Sending -/

/-- The checks that open every send: the slot that would receive.  `refused` is
the extra condition that one of them puts beside the state check. -/
def sendTarget (refused : Bool) : Except SocketError (Fin SOCKETS) := do
  let index ← table.index socket
  let slot := table.slot index
  if slot.state ≠ .connected ∨ refused then throw .invalidState
  match slot.peer with
  | none => throw .brokenPipe
  | some peer =>
      if slot.peerClosed ∨ (table.slot peer).state ≠ .connected then throw .brokenPipe
      return peer

/-- Copies `input` into the ring of `peer`. -/
def pushTo (peer : Fin SOCKETS) (input : List (BitVec 8)) :
    LocalSocketTable SOCKETS BACKLOG BYTES × Nat :=
  let (receive, count) := (table.slot peer).receive.push input
  (table.setSlot peer { table.slot peer with receive }, count)

section

variable (socket : SocketHandle)

variable (input : List (BitVec 8))

def send : Outcome SOCKETS BACKLOG BYTES Nat :=
  match table.sendTarget socket false with
  | .error error => (table, .error error)
  | .ok peer =>
      let (table, count) := table.pushTo peer input
      if count = 0 ∧ ¬ input.isEmpty then (table, .error .wouldBlock) else (table, .ok count)

def sendExact : Outcome SOCKETS BACKLOG BYTES Nat :=
  match table.sendTarget socket false with
  | .error error => (table, .error error)
  | .ok peer =>
      if input.length > (table.slot peer).receive.available then (table, .error .wouldBlock)
      else
        let (table, count) := table.pushTo peer input
        (table, .ok count)

def sendWithRights (rights : AncillaryRights) : Outcome SOCKETS BACKLOG BYTES Nat :=
  match table.sendTarget socket input.isEmpty with
  | .error error => (table, .error error)
  | .ok peer =>
      if (table.slot peer).rights.isSome ∨ (table.slot peer).receive.length ≠ 0 ∨
          input.length > (table.slot peer).receive.available then
        (table, .error .wouldBlock)
      else
        let (table, count) := table.pushTo peer input
        if count ≠ input.length then (table, .error .wouldBlock)
        else (table.setSlot peer { table.slot peer with rights := some rights }, .ok count)

/-! ## Receiving -/

def recv (size : Nat) : Outcome SOCKETS BACKLOG BYTES (List (BitVec 8)) :=
  match table.index socket with
  | .error error => (table, .error error)
  | .ok index =>
      let slot := table.slot index
      if slot.state ≠ .connected then (table, .error .invalidState)
      else if slot.rights.isSome then (table, .error .invalidState)
      else
        let (receive, output) := slot.receive.pop size
        let table := table.setSlot index { slot with receive }
        if output.length = 0 ∧ size ≠ 0 ∧ ¬ slot.peerClosed then (table, .error .wouldBlock)
        else (table, .ok output)

def recvWithRights (size : Nat) :
    Outcome SOCKETS BACKLOG BYTES (List (BitVec 8) × Option AncillaryRights) :=
  match table.index socket with
  | .error error => (table, .error error)
  | .ok index =>
      let slot := table.slot index
      if slot.state ≠ .connected then (table, .error .invalidState)
      else
        let (receive, output) := slot.receive.pop size
        let popped := table.setSlot index { slot with receive }
        if output.length = 0 ∧ size ≠ 0 ∧ ¬ slot.peerClosed then (popped, .error .wouldBlock)
        else if output.length ≠ 0 then
          (table.setSlot index { slot with receive, rights := none }, .ok (output, slot.rights))
        else (popped, .ok (output, none))

def takeRights : Outcome SOCKETS BACKLOG BYTES (Option AncillaryRights) :=
  match table.index socket with
  | .error error => (table, .error error)
  | .ok index =>
      let slot := table.slot index
      (table.setSlot index { slot with rights := none }, .ok slot.rights)

def readiness : Except SocketError Readiness := do
  let index ← table.index socket
  let slot := table.slot index
  if slot.state ≠ .connected then throw .invalidState
  let room := (slot.peer.filter fun peer => (table.slot peer).state = .connected).any
    fun peer => (table.slot peer).receive.available ≠ 0
  return ⟨slot.receive.length ≠ 0 || slot.peerClosed, room && !slot.peerClosed, slot.peerClosed⟩

end

/-! ## Closing -/

/-- The peer of a closed endpoint sees the end of the stream. -/
def hangUp (peer : Option (Fin SOCKETS)) : LocalSocketTable SOCKETS BACKLOG BYTES :=
  match peer with
  | none => table
  | some peer =>
      if (table.slot peer).state = .connected then
        table.setSlot peer { table.slot peer with peer := none, peerClosed := true }
      else table

def close : Outcome SOCKETS BACKLOG BYTES Unit :=
  match table.index socket with
  | .error error => (table, .error error)
  | .ok index =>
      let table := table.hangUp (table.slot index).peer
      (table.setSlot index (.empty (table.slot index).generation), .ok ())

end LocalSocketTable

/-! ## Operations as data -/

inductive Operation where
  | socket
  | bind (socket : SocketHandle) (path : List (BitVec 8))
  | listen (socket : SocketHandle)
  | connect (socket : SocketHandle) (path : List (BitVec 8))
  | accept (listener : SocketHandle)
  | pendingConnections (listener : SocketHandle)
  | peer (socket : SocketHandle)
  | send (socket : SocketHandle) (input : List (BitVec 8))
  | sendExact (socket : SocketHandle) (input : List (BitVec 8))
  | sendWithRights (socket : SocketHandle) (input : List (BitVec 8)) (rights : AncillaryRights)
  | recv (socket : SocketHandle) (size : Nat)
  | recvWithRights (socket : SocketHandle) (size : Nat)
  | takeRights (socket : SocketHandle)
  | readiness (socket : SocketHandle)
  | close (socket : SocketHandle)
  deriving DecidableEq, Repr

inductive Reply where
  | done
  | handle (handle : SocketHandle)
  | count (count : Nat)
  | bytes (output : List (BitVec 8)) (rights : Option AncillaryRights)
  | rights (rights : Option AncillaryRights)
  | readiness (readiness : Readiness)
  deriving DecidableEq, Repr

namespace LocalSocketTable

/-- One operation with its result as a `Reply`. -/
def step (table : LocalSocketTable SOCKETS BACKLOG BYTES) :
    Operation → LocalSocketTable SOCKETS BACKLOG BYTES × Except SocketError Reply
  | .socket => table.socket.map id (·.map .handle)
  | .bind socket path => (table.bind socket path).map id (·.map fun _ => .done)
  | .listen socket => (table.listen socket).map id (·.map fun _ => .done)
  | .connect socket path => (table.connect socket path).map id (·.map fun _ => .done)
  | .accept listener => (table.accept listener).map id (·.map .handle)
  | .pendingConnections listener => (table, (table.pendingConnections listener).map .count)
  | .peer socket => (table, (table.peer socket).map .handle)
  | .send socket input => (table.send socket input).map id (·.map .count)
  | .sendExact socket input => (table.sendExact socket input).map id (·.map .count)
  | .sendWithRights socket input rights =>
      (table.sendWithRights socket input rights).map id (·.map .count)
  | .recv socket size => (table.recv socket size).map id (·.map (.bytes · none))
  | .recvWithRights socket size =>
      (table.recvWithRights socket size).map id (·.map fun (output, rights) => .bytes output rights)
  | .takeRights socket => (table.takeRights socket).map id (·.map .rights)
  | .readiness socket => (table, (table.readiness socket).map .readiness)
  | .close socket => (table.close socket).map id (·.map fun _ => .done)

end LocalSocketTable

end SlopOS.Ipc
