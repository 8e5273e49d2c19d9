import SlopOS.Ipc.Slots
import SlopOS.Base.Trace

/-!
# What one socket operation can do

`Transition table operation reply table'` lists the effects of an operation, with
the checks that lead to each.  `step_transition` is the inversion of `step`: every
invariant of the table and every property of its history is a case analysis on
it, and the operations are not unfolded again.
-/

namespace SlopOS.Ipc

open LocalSocketTable

variable {SOCKETS BACKLOG BYTES : Nat}

namespace LocalSocketTable

/-- The sizes for which `socket` ever succeeds. -/
structure Usable (SOCKETS BACKLOG BYTES : Nat) : Prop where
  sockets : SOCKETS ≤ 65535
  backlog : BACKLOG ≠ 0
  bytes : BYTES ≠ 0

/-- The endpoint at `index` may send to `peer`. -/
structure Sends (table : LocalSocketTable SOCKETS BACKLOG BYTES) (socket : SocketHandle)
    (index peer : Fin SOCKETS) : Prop where
  named : table.index socket = .ok index
  connected : (table.slot index).state = .connected
  linked : (table.slot index).peer = some peer
  open_ : (table.slot index).peerClosed = false
  peerConnected : (table.slot peer).state = .connected

section

variable (slot : SocketSlot SOCKETS BACKLOG BYTES)

/-- The slot after its ring took the front of `input`. -/
def pushed (input : List (BitVec 8)) : SocketSlot SOCKETS BACKLOG BYTES :=
  { slot with receive := (slot.receive.push input).1 }

/-- The slot after `size` bytes at most were read. -/
def popped (size : Nat) : SocketSlot SOCKETS BACKLOG BYTES :=
  { slot with receive := (slot.receive.pop size).1 }

/-- The listener after its oldest entry was taken. -/
def dequeued : SocketSlot SOCKETS BACKLOG BYTES :=
  { slot with
    pending := slot.pending.setIfInBounds slot.pendingHead none
    pendingHead := (slot.pendingHead + 1) % BACKLOG
    pendingLength := slot.pendingLength - 1 }

end

end LocalSocketTable

/-- The effects of an operation on `table`. -/
inductive Transition (table : LocalSocketTable SOCKETS BACKLOG BYTES) :
    Operation → Except SocketError Reply → LocalSocketTable SOCKETS BACKLOG BYTES → Prop
  | refused {operation : Operation} {error : SocketError} :
      Transition table operation (.error error) table
  | pendingConnections {listener : SocketHandle} {count : Nat} :
      Transition table (.pendingConnections listener) (.ok (.count count)) table
  | peer {socket : SocketHandle} {index peer : Fin SOCKETS}
      (named : table.index socket = .ok index)
      (linked : (table.slot index).peer = some peer) :
      Transition table (.peer socket)
        (.ok (.handle ⟨peer.val, (table.slot peer).generation⟩)) table
  | readiness {socket : SocketHandle} {readiness : Readiness} :
      Transition table (.readiness socket) (.ok (.readiness readiness)) table
  | socket {index : Fin SOCKETS} (usable : Usable SOCKETS BACKLOG BYTES)
      (free : (table.slot index).state = .free)
      (bounded : (table.slot index).generation + 1 < 2 ^ 16) :
      Transition table .socket (.ok (.handle ⟨index.val, (table.slot index).generation + 1⟩))
        (table.setSlot index (.resetForAllocation ((table.slot index).generation + 1)))
  | bind {socket : SocketHandle} {path : List (BitVec 8)} {index : Fin SOCKETS}
      (named : table.index socket = .ok index)
      (created : (table.slot index).state = .created)
      (unused : ∀ other, (table.slot other).named = true → (table.slot other).path ≠ path) :
      Transition table (.bind socket path) (.ok .done)
        (table.setSlot index { table.slot index with path, state := .bound })
  | listen {socket : SocketHandle} {index : Fin SOCKETS}
      (named : table.index socket = .ok index) (bound : (table.slot index).state = .bound) :
      Transition table (.listen socket) (.ok .done)
        (table.setSlot index { table.slot index with state := .listening })
  | connect {socket : SocketHandle} {path : List (BitVec 8)} {client listener server : Fin SOCKETS}
      (named : table.index socket = .ok client)
      (created : (table.slot client).state = .created)
      (listening : (table.slot listener).state = .listening)
      (found : (table.slot listener).path = path)
      (room : (table.slot listener).pendingLength ≠ BACKLOG)
      (free : (table.slot server).state = .free)
      (bounded : (table.slot server).generation + 1 < 2 ^ 16) :
      Transition table (.connect socket path) (.ok .done)
        (table.link client listener server ((table.slot server).generation + 1))
  | accept {listener : SocketHandle} {index server : Fin SOCKETS}
      (named : table.index listener = .ok index)
      (listening : (table.slot index).state = .listening)
      (waiting : (table.slot index).pendingLength ≠ 0)
      (oldest : (table.slot index).pending[(table.slot index).pendingHead]?.getD none =
        some server) :
      Transition table (.accept listener)
        (.ok (.handle ⟨server.val, (table.slot server).generation⟩))
        (table.setSlot index (dequeued (table.slot index)))
  | send {operation : Operation} {socket : SocketHandle} {input : List (BitVec 8)}
      {index peer : Fin SOCKETS} (sends : table.Sends socket index peer)
      (plain : operation = .send socket input ∨ operation = .sendExact socket input) :
      Transition table operation (.ok (.count ((table.slot peer).receive.push input).2))
        (table.setSlot peer (pushed (table.slot peer) input))
  | sendWithRights {socket : SocketHandle} {input : List (BitVec 8)} {rights : AncillaryRights}
      {index peer : Fin SOCKETS} (sends : table.Sends socket index peer)
      (nonempty : input ≠ []) (vacant : (table.slot peer).rights = none)
      (drained : (table.slot peer).receive.length = 0)
      (whole : ((table.slot peer).receive.push input).2 = input.length) :
      Transition table (.sendWithRights socket input rights) (.ok (.count input.length))
        (table.setSlot peer { pushed (table.slot peer) input with rights := some rights })
  | recv {socket : SocketHandle} {size : Nat} {index : Fin SOCKETS}
      (named : table.index socket = .ok index)
      (connected : (table.slot index).state = .connected)
      (vacant : (table.slot index).rights = none) :
      Transition table (.recv socket size)
        (.ok (.bytes ((table.slot index).receive.pop size).2 none))
        (table.setSlot index (popped (table.slot index) size))
  | recvWithRights {socket : SocketHandle} {size : Nat} {index : Fin SOCKETS}
      (named : table.index socket = .ok index)
      (connected : (table.slot index).state = .connected)
      (some_ : ((table.slot index).receive.pop size).2 ≠ []) :
      Transition table (.recvWithRights socket size)
        (.ok (.bytes ((table.slot index).receive.pop size).2 (table.slot index).rights))
        (table.setSlot index { popped (table.slot index) size with rights := none })
  | recvNothing {socket : SocketHandle} {size : Nat} :
      Transition table (.recvWithRights socket size) (.ok (.bytes [] none)) table
  | takeRights {socket : SocketHandle} {index : Fin SOCKETS}
      (named : table.index socket = .ok index) :
      Transition table (.takeRights socket) (.ok (.rights (table.slot index).rights))
        (table.setSlot index { table.slot index with rights := none })
  | close {socket : SocketHandle} {index : Fin SOCKETS}
      (named : table.index socket = .ok index) :
      Transition table (.close socket) (.ok .done)
        ((table.hangUp (table.slot index).peer).setSlot index
          (.empty (table.slot index).generation))

/-! ## The inversion, operation by operation -/

/-- The step of `operation` is one of the listed transitions. -/
def LocalSocketTable.Inverts (table : LocalSocketTable SOCKETS BACKLOG BYTES)
    (operation : Operation) : Prop :=
  Transition table operation (table.step operation).2 (table.step operation).1

section Inversion

variable {table : LocalSocketTable SOCKETS BACKLOG BYTES} {peer : Fin SOCKETS}

theorem checkedSucc_eq_some {generation next : Nat} (found : checkedSucc generation = some next) :
    next = generation + 1 ∧ generation + 1 < 2 ^ 16 := by
  unfold checkedSucc at found
  split at found
  · next bounded => exact ⟨(Option.some.inj found).symm, bounded⟩
  · cases found

/-- Handles of a usable table always fit. -/
theorem handle_eq (usable : Usable SOCKETS BACKLOG BYTES)
    (slot : SocketSlot SOCKETS BACKLOG BYTES) (index : Fin SOCKETS) :
    slot.handle index = .ok ⟨index.val, slot.generation⟩ := by
  have sockets := usable.sockets
  exact if_pos (by omega)

/-- A failed operation that left the table as it was. -/
theorem Transition.refused_of_eq {operation : Operation} {error : SocketError}
    {table' : LocalSocketTable SOCKETS BACKLOG BYTES} (same : table' = table) :
    Transition table operation (.error error) table' := by
  rw [same]
  exact .refused

theorem setSlot_pushed_eq_self {input : List (BitVec 8)}
    (full : ((table.slot peer).receive.push input).2 = 0) :
    table.setSlot peer (pushed (table.slot peer) input) = table := by
  rw [pushed, ByteRing.push_eq_self full]
  exact setSlot_slot table peer

theorem setSlot_popped_eq_self {index : Fin SOCKETS} {size : Nat}
    (ring : (table.slot index).receive.WellFormed)
    (nothing : ((table.slot index).receive.pop size).2.length = 0) :
    table.setSlot index (popped (table.slot index) size) = table := by
  rw [popped, ByteRing.pop_eq_self ring nothing]
  exact setSlot_slot table index

theorem sendTarget_eq_ok {socket : SocketHandle} {refused : Bool}
    (found : table.sendTarget socket refused = .ok peer) :
    refused = false ∧ ∃ index, table.Sends socket index peer := by
  obtain ⟨index, named, found⟩ := Except.bind_ok found
  dsimp only at found
  split at found
  · cases found
  next passes =>
  obtain ⟨connected, accepted⟩ := not_or.mp passes
  split at found
  · cases found
  next target linked =>
  split at found
  · cases found
  next reachable =>
  obtain ⟨open_, peerConnected⟩ := not_or.mp reachable
  cases found
  exact ⟨Bool.eq_false_iff.mpr accepted, index, named, not_not.mp connected, linked,
    Bool.eq_false_iff.mpr open_, not_not.mp peerConnected⟩

theorem socket_transition : table.Inverts .socket := by
  simp only [Inverts, step, socket]
  split
  · exact .refused
  next sizes =>
  have usable : Usable SOCKETS BACKLOG BYTES := by
    obtain ⟨sockets, backlog, bytes⟩ := by simpa only [not_or] using sizes
    exact ⟨Nat.le_of_not_lt sockets, backlog, bytes⟩
  split
  · exact .refused
  next index found =>
  have free : (table.slot index).state = .free := of_decide_eq_true (position_eq_some found)
  split
  · exact .refused
  next generation next =>
  obtain ⟨rfl, bounded⟩ := checkedSucc_eq_some next
  simp only [handle_eq usable, slot_setSlot_self]
  exact .socket usable free bounded

theorem bind_transition (socket : SocketHandle) (path : List (BitVec 8)) :
    table.Inverts (.bind socket path) := by
  simp only [Inverts, step, LocalSocketTable.bind]
  split
  · exact .refused
  split
  · exact .refused
  next vacant =>
  split
  · exact .refused
  next index named =>
  split
  · exact .refused
  next created =>
  refine .bind named (not_not.mp created) fun other isNamed same => ?_
  have missing := position_eq_none (Option.not_isSome_iff_eq_none.mp vacant) other
  rw [isNamed] at missing
  exact of_decide_eq_false missing same

theorem listen_transition (socket : SocketHandle) : table.Inverts (.listen socket) := by
  simp only [Inverts, step, LocalSocketTable.listen]
  split
  · exact .refused
  next index named =>
  split
  · exact .refused
  · next bound => exact .listen named (not_not.mp bound)

theorem connect_transition (socket : SocketHandle) (path : List (BitVec 8)) :
    table.Inverts (.connect socket path) := by
  simp only [Inverts, step, connect]
  split
  · exact .refused
  split
  · exact .refused
  next client named =>
  split
  · exact .refused
  next created =>
  split
  · exact .refused
  next listener found =>
  obtain ⟨listening, samePath⟩ := Bool.and_eq_true_iff.mp (position_eq_some found)
  split
  · exact .refused
  next room =>
  split
  · exact .refused
  next server free =>
  have free := (Bool.and_eq_true_iff.mp (position_eq_some free)).2
  split
  · exact .refused
  next generation next =>
  obtain ⟨rfl, bounded⟩ := checkedSucc_eq_some next
  exact .connect named (not_not.mp created) (of_decide_eq_true listening)
    (of_decide_eq_true samePath) room (of_decide_eq_true free) bounded

theorem accept_transition (usable : ∀ index, (table.slot index).state ≠ .free →
      Usable SOCKETS BACKLOG BYTES) (listener : SocketHandle) :
    table.Inverts (.accept listener) := by
  simp only [Inverts, step, accept]
  split
  · exact .refused
  next index named =>
  have usable := usable index (index_eq_ok.mp named).2
  split
  · exact .refused
  next listening =>
  split
  · exact .refused
  next waiting =>
  split
  · exact .refused
  next server oldest =>
  have generation : ((table.setSlot index (dequeued (table.slot index))).slot
      server).generation = (table.slot server).generation := by
    rw [slot_setSlot]
    split
    · next same => rw [same]; rfl
    · rfl
  simp only [handle_eq usable]
  have accepted := Transition.accept named (not_not.mp listening) waiting oldest
  rw [← generation] at accepted
  exact accepted

section

variable (socket : SocketHandle) (input : List (BitVec 8))

theorem send_transition : table.Inverts (.send socket input) := by
  rw [Inverts, step, send]
  cases found : table.sendTarget socket false with
  | error error => exact .refused
  | ok peer =>
    obtain ⟨-, index, sends⟩ := sendTarget_eq_ok found
    dsimp only
    by_cases full : (table.pushTo peer input).2 = 0 ∧ ¬ input.isEmpty
    · rw [if_pos full]
      exact .refused_of_eq (setSlot_pushed_eq_self full.1)
    · rw [if_neg full]
      exact .send sends (.inl rfl)

theorem sendExact_transition : table.Inverts (.sendExact socket input) := by
  simp only [Inverts, step, sendExact]
  split
  · exact .refused
  next peer found =>
  obtain ⟨-, index, sends⟩ := sendTarget_eq_ok found
  split
  · exact .refused
  · exact .send sends (.inr rfl)

theorem sendWithRights_transition (rights : AncillaryRights) :
    table.Inverts (.sendWithRights socket input rights) := by
  simp only [Inverts, step, sendWithRights]
  split
  · exact .refused
  next peer found =>
  obtain ⟨refused, index, sends⟩ := sendTarget_eq_ok found
  split
  · exact .refused
  next passes =>
  obtain ⟨vacant, drained, room⟩ := by simpa only [not_or] using passes
  have whole : ((table.slot peer).receive.push input).2 = input.length := by
    rw [ByteRing.push_count]
    omega
  have nonempty : input ≠ [] := fun empty => by
    rw [empty] at refused
    cases refused
  simp only [pushTo, whole, ne_eq, slot_setSlot_self]
  have overwritten : ∀ first second : SocketSlot SOCKETS BACKLOG BYTES,
      (table.setSlot peer first).setSlot peer second = table.setSlot peer second := by
    intro first second
    refine ext fun other => ?_
    simp only [slot_setSlot]
    split <;> rfl
  rw [overwritten]
  exact .sendWithRights sends nonempty (Option.not_isSome_iff_eq_none.mp vacant)
    (not_not.mp drained) whole

end

section

variable (rings : ∀ index, (table.slot index).receive.WellFormed) (socket : SocketHandle)
  (size : Nat)
include rings

theorem recv_transition : table.Inverts (.recv socket size) := by
  simp only [Inverts, step, recv]
  split
  · exact .refused
  next index named =>
  split
  · exact .refused
  next connected =>
  split
  · exact .refused
  next vacant =>
  split
  · next nothing => exact .refused_of_eq (setSlot_popped_eq_self (rings index) nothing.1)
  · exact .recv named (not_not.mp connected) (Option.not_isSome_iff_eq_none.mp vacant)

theorem recvWithRights_transition : table.Inverts (.recvWithRights socket size) := by
  simp only [Inverts, step, recvWithRights]
  split
  · exact .refused
  next index named =>
  split
  · exact .refused
  next connected =>
  split
  · next nothing => exact .refused_of_eq (setSlot_popped_eq_self (rings index) nothing.1)
  split
  · next some_ =>
    exact .recvWithRights named (not_not.mp connected)
      (fun empty => some_ (List.length_eq_zero_iff.mpr empty))
  next nothing =>
  have nothing := not_not.mp nothing
  have same := setSlot_popped_eq_self (rings index) nothing
  rw [List.length_eq_zero_iff.mp nothing]
  exact same.symm ▸ .recvNothing

end

theorem takeRights_transition (socket : SocketHandle) : table.Inverts (.takeRights socket) := by
  simp only [Inverts, step, takeRights]
  split
  · exact .refused
  · next index named => exact .takeRights named

theorem hangUp_slot_generation (peer : Option (Fin SOCKETS)) (index : Fin SOCKETS) :
    ((table.hangUp peer).slot index).generation = (table.slot index).generation := by
  unfold hangUp
  split
  · rfl
  split
  · rw [slot_setSlot]
    split
    · next same => rw [same]
    · rfl
  · rfl

theorem close_transition (socket : SocketHandle) : table.Inverts (.close socket) := by
  simp only [Inverts, step, close]
  split
  · exact .refused
  · next index named =>
    simp only [hangUp_slot_generation]
    exact .close named

theorem pendingConnections_transition (listener : SocketHandle) :
    table.Inverts (.pendingConnections listener) := by
  simp only [Inverts, step]
  cases table.pendingConnections listener with
  | error error => exact .refused
  | ok count => exact .pendingConnections

theorem readiness_transition (socket : SocketHandle) : table.Inverts (.readiness socket) := by
  simp only [Inverts, step]
  cases table.readiness socket with
  | error error => exact .refused
  | ok readiness => exact .readiness

section

variable (usable : ∀ index, (table.slot index).state ≠ .free → Usable SOCKETS BACKLOG BYTES)
include usable

/-- The handle that `peer` returns names the linked slot. -/
theorem peer_eq_ok {socket handle : SocketHandle} (found : table.peer socket = .ok handle) :
    ∃ index peer, table.index socket = .ok index ∧ (table.slot index).peer = some peer ∧
      handle = ⟨peer.val, (table.slot peer).generation⟩ := by
  obtain ⟨index, named, found⟩ := Except.bind_ok found
  have usable := usable index (index_eq_ok.mp named).2
  dsimp only at found
  split at found
  · cases found
  split at found
  · cases found
  · next target linked =>
    rw [handle_eq usable] at found
    exact ⟨index, target, named, linked, (Except.ok.inj found).symm⟩

theorem peer_transition (socket : SocketHandle) : table.Inverts (.peer socket) := by
  simp only [Inverts, step]
  cases found : table.peer socket with
  | error error => exact .refused
  | ok handle =>
    obtain ⟨index, peer, named, linked, rfl⟩ := peer_eq_ok usable found
    exact .peer named linked

end

/-- Every operation is one of the listed transitions. -/
theorem step_transition (rings : ∀ index, (table.slot index).receive.WellFormed)
    (usable : ∀ index, (table.slot index).state ≠ .free → Usable SOCKETS BACKLOG BYTES)
    (operation : Operation) : table.Inverts operation := by
  cases operation with
  | socket => exact socket_transition
  | bind socket path => exact bind_transition socket path
  | listen socket => exact listen_transition socket
  | connect socket path => exact connect_transition socket path
  | accept listener => exact accept_transition usable listener
  | pendingConnections listener => exact pendingConnections_transition listener
  | peer socket => exact peer_transition usable socket
  | send socket input => exact send_transition socket input
  | sendExact socket input => exact sendExact_transition socket input
  | sendWithRights socket input rights => exact sendWithRights_transition socket input rights
  | recv socket size => exact recv_transition rings socket size
  | recvWithRights socket size => exact recvWithRights_transition rings socket size
  | takeRights socket => exact takeRights_transition socket
  | readiness socket => exact readiness_transition socket
  | close socket => exact close_transition socket

end Inversion

/-! ## The shape of a transition -/

/-- An update of a slot in use that leaves its links and its backlog alone. -/
structure LocalUpdate (old updated : SocketSlot SOCKETS BACKLOG BYTES) : Prop where
  oldInUse : old.state ≠ .free
  inUse : updated.state ≠ .free
  generation : updated.generation = old.generation
  peer : updated.peer = old.peer
  peerClosed : updated.peerClosed = old.peerClosed
  connected : updated.state = .connected ↔ old.state = .connected
  listening : old.state = .listening → updated.state = .listening
  pending : updated.pending = old.pending
  pendingHead : updated.pendingHead = old.pendingHead
  pendingLength : updated.pendingLength = old.pendingLength

theorem LocalUpdate.queue {old updated : SocketSlot SOCKETS BACKLOG BYTES}
    (update : LocalUpdate old updated) : updated.queue = old.queue := by
  unfold SocketSlot.queue
  rw [update.pending, update.pendingHead, update.pendingLength]

/-- A successful operation that allocates, queues, dequeues or frees a slot. -/
def structural : Operation → Except SocketError Reply → Bool
  | .socket, .ok _ | .connect _ _, .ok _ | .accept _, .ok _ | .close _, .ok _ => true
  | _, _ => false

/-- A transition as the links, the backlogs and the allocation of slots see it. -/
inductive Shape (table : LocalSocketTable SOCKETS BACKLOG BYTES) :
    Operation → Except SocketError Reply → LocalSocketTable SOCKETS BACKLOG BYTES → Prop
  | same {operation : Operation} {reply : Except SocketError Reply}
      (quiet : structural operation reply = false) : Shape table operation reply table
  | update {operation : Operation} {reply : Except SocketError Reply} {index : Fin SOCKETS}
      {slot : SocketSlot SOCKETS BACKLOG BYTES} (update : LocalUpdate (table.slot index) slot)
      (quiet : structural operation reply = false) :
      Shape table operation reply (table.setSlot index slot)
  | socket {index : Fin SOCKETS} (free : (table.slot index).state = .free) :
      Shape table .socket (.ok (.handle ⟨index.val, (table.slot index).generation + 1⟩))
        (table.setSlot index (.resetForAllocation ((table.slot index).generation + 1)))
  | connect {socket : SocketHandle} {path : List (BitVec 8)} {client listener server : Fin SOCKETS}
      (named : table.index socket = .ok client)
      (created : (table.slot client).state = .created)
      (listening : (table.slot listener).state = .listening)
      (found : (table.slot listener).path = path)
      (room : (table.slot listener).pendingLength ≠ BACKLOG)
      (free : (table.slot server).state = .free) :
      Shape table (.connect socket path) (.ok .done)
        (table.link client listener server ((table.slot server).generation + 1))
  | accept {listener : SocketHandle} {index server : Fin SOCKETS}
      (named : table.index listener = .ok index)
      (listening : (table.slot index).state = .listening)
      (waiting : (table.slot index).pendingLength ≠ 0)
      (oldest : (table.slot index).pending[(table.slot index).pendingHead]?.getD none =
        some server) :
      Shape table (.accept listener)
        (.ok (.handle ⟨server.val, (table.slot server).generation⟩))
        (table.setSlot index (dequeued (table.slot index)))
  | close {socket : SocketHandle} {index : Fin SOCKETS}
      (named : table.index socket = .ok index) :
      Shape table (.close socket) (.ok .done)
        ((table.hangUp (table.slot index).peer).setSlot index
          (.empty (table.slot index).generation))

/-- An update that changes neither the state nor the links nor the backlog. -/
theorem LocalUpdate.of_fields {old : SocketSlot SOCKETS BACKLOG BYTES} (receive : ByteRing BYTES)
    (rights : Option AncillaryRights) (inUse : old.state ≠ .free) :
    LocalUpdate old { old with receive, rights } :=
  ⟨inUse, inUse, rfl, rfl, rfl, Iff.rfl, id, rfl, rfl, rfl⟩

theorem Transition.shape {table table' : LocalSocketTable SOCKETS BACKLOG BYTES}
    {operation : Operation} {reply : Except SocketError Reply}
    (moved : Transition table operation reply table') : Shape table operation reply table' := by
  cases moved with
  | @refused operation error => cases operation <;> exact .same rfl
  | pendingConnections | peer | readiness | recvNothing => exact .same rfl
  | socket usable free bounded => exact .socket free
  | bind named created unused =>
    refine .update ⟨(index_eq_ok.mp named).2, fun free => (nomatch free), rfl, rfl, rfl, ?_, ?_,
      rfl, rfl, rfl⟩ rfl
    · rw [created]
      exact ⟨fun bound => (nomatch bound), fun created => (nomatch created)⟩
    · rw [created]
      exact fun listening => (nomatch listening)
  | listen named bound =>
    refine .update ⟨(index_eq_ok.mp named).2, fun free => (nomatch free), rfl, rfl, rfl, ?_, ?_,
      rfl, rfl, rfl⟩ rfl
    · rw [bound]
      exact ⟨fun listening => (nomatch listening), fun bound => (nomatch bound)⟩
    · exact fun _ => rfl
  | connect named created listening found room free bounded =>
    exact .connect named created listening found room free
  | accept named listening waiting oldest => exact .accept named listening waiting oldest
  | @send operation socket input index peer sends plain =>
    have inUse : (table.slot peer).state ≠ .free := by
      rw [sends.peerConnected]
      decide
    refine .update (.of_fields _ _ inUse) ?_
    rcases plain with rfl | rfl
    · rfl
    · rfl
  | @sendWithRights socket input rights index peer sends nonempty vacant drained whole =>
    have inUse : (table.slot peer).state ≠ .free := by
      rw [sends.peerConnected]
      decide
    exact .update (.of_fields _ _ inUse) rfl
  | recv named connected vacant | recvWithRights named connected some_ | takeRights named =>
    exact .update (.of_fields _ _ (index_eq_ok.mp named).2) rfl
  | close named => exact .close named

end SlopOS.Ipc
