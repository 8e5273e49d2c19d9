import SlopOS.Ipc.Endpoints

/-!
# Streams between two endpoints

The history of a run records every operation with its reply.  `accepted` and
`delivered` read off it what an endpoint sent and what another one received, and
`rightsAccepted` and `rightsReturned` do the same for rights objects, each with the
stream position of its batch.

`Flowing` is the simulation: while the receiver is open, what was accepted is what
was delivered followed by what the receiving slot holds.  Once the receiver is
closed nothing moves any more, which `Severed` says.
-/

namespace SlopOS.Ipc

open LocalSocketTable List

variable {SOCKETS BACKLOG BYTES : Nat}

/-! ## Histories -/

abbrev Event (SOCKETS BACKLOG BYTES : Nat) :=
  Trace.Event (LocalSocketTable SOCKETS BACKLOG BYTES) Operation (Except SocketError Reply)

/-- The record of a run on a new table. -/
def history (SOCKETS BACKLOG BYTES : Nat) (ops : List Operation) :
    List (Event SOCKETS BACKLOG BYTES) :=
  Trace.events LocalSocketTable.step new ops

/-- A client connects to a listener at `/a`. -/
def connectOps : List Operation :=
  [.socket, .bind ⟨0, 1⟩ [0x2f, 0x61], .listen ⟨0, 1⟩, .socket, .connect ⟨1, 1⟩ [0x2f, 0x61]]

/-- The socket an operation is called on. -/
def Operation.handle : Operation → Option SocketHandle
  | .socket => none
  | .bind named _ | .listen named | .connect named _ | .accept named
  | .pendingConnections named | .peer named | .send named _ | .sendExact named _
  | .sendWithRights named _ _ | .recv named _ | .recvWithRights named _
  | .takeRights named | .readiness named | .close named => some named

/-- The part of its input that a send accepted. -/
def sent : Operation → Except SocketError Reply → List (BitVec 8)
  | .send _ input, .ok (.count count) | .sendExact _ input, .ok (.count count)
  | .sendWithRights _ input _, .ok (.count count) => input.take count
  | _, _ => []

/-- The bytes that a receive returned. -/
def received : Operation → Except SocketError Reply → List (BitVec 8)
  | .recv _ _, .ok (.bytes output _) | .recvWithRights _ _, .ok (.bytes output _) => output
  | _, _ => []

/-- The rights object that a send accepted. -/
def rightsSent : Operation → Except SocketError Reply → Option AncillaryRights
  | .sendWithRights _ _ rights, .ok (.count _) => some rights
  | _, _ => none

/-- The rights object that was returned, with bytes or by `take_rights`. -/
def rightsReceived : Operation → Except SocketError Reply → Option AncillaryRights
  | .recvWithRights _ _, .ok (.bytes (_ :: _) rights) => rights
  | .takeRights _, .ok (.rights rights) => rights
  | _, _ => none

/-- Reads an event on behalf of one socket; events of other sockets give `nothing`. -/
def forSocket {α : Type} (socket : SocketHandle) (nothing : α)
    (observe : Operation → Except SocketError Reply → α) (e : Event SOCKETS BACKLOG BYTES) : α :=
  if e.operation.handle = some socket then observe e.operation e.reply else nothing

section

variable (socket : SocketHandle) (record : List (Event SOCKETS BACKLOG BYTES))

def accepted : List (BitVec 8) :=
  record.flatMap (forSocket socket [] sent)

def delivered : List (BitVec 8) :=
  record.flatMap (forSocket socket [] received)

/-- The rights objects accepted from `socket`, each with the position of the first
byte of its batch. -/
def rightsAccepted : List (Nat × AncillaryRights) :=
  Trace.stamps (fun e => (forSocket socket [] sent e).length) (forSocket socket none rightsSent)
    0 record

/-- The rights objects returned to `socket`, each with the number of bytes that
had been delivered before. -/
def rightsReturned : List (Nat × AncillaryRights) :=
  Trace.stamps (fun e => (forSocket socket [] received e).length)
    (forSocket socket none rightsReceived) 0 record

end

section Histories

variable {record : List (Event SOCKETS BACKLOG BYTES)} {e : Event SOCKETS BACKLOG BYTES}
  {socket : SocketHandle}

theorem accepted_snoc :
    accepted socket (record ++ [e]) = accepted socket record ++ forSocket socket [] sent e := by
  rw [accepted, flatMap_append, flatMap_singleton]
  rfl

theorem delivered_snoc : delivered socket (record ++ [e]) =
      delivered socket record ++ forSocket socket [] received e := by
  rw [delivered, flatMap_append, flatMap_singleton]
  rfl

theorem rightsAccepted_snoc :
    rightsAccepted socket (record ++ [e]) = rightsAccepted socket record ++
      (forSocket socket none rightsSent e).toList.map ((accepted socket record).length, ·) := by
  rw [rightsAccepted, Trace.stamps_snoc, Nat.zero_add, accepted, length_flatMap]
  rfl

theorem rightsReturned_snoc :
    rightsReturned socket (record ++ [e]) = rightsReturned socket record ++
      (forSocket socket none rightsReceived e).toList.map
        ((delivered socket record).length, ·) := by
  rw [rightsReturned, Trace.stamps_snoc, Nat.zero_add, delivered, length_flatMap]
  rfl

end Histories

/-! ## The simulation -/

/-- The rights object that a slot holds, at the position of the next byte. -/
def pendingRights (slot : SocketSlot SOCKETS BACKLOG BYTES) (position : Nat) :
    List (Nat × AncillaryRights) :=
  slot.rights.toList.map (position, ·)

/-- The stream from `a` to the open endpoint `b`. -/
structure Flowing (a b : SocketHandle) (index : Fin SOCKETS)
    (table : LocalSocketTable SOCKETS BACKLOG BYTES)
    (record : List (Event SOCKETS BACKLOG BYTES)) : Prop where
  endpoint : Endpoint a b index table
  bytes : accepted a record = delivered b record ++ (table.slot index).receive.contents
  rights : rightsAccepted a record =
    rightsReturned b record ++ pendingRights (table.slot index) (delivered b record).length

/-- The stream from `a` after its endpoint `b` was closed: the bytes and the rights
object that it still held are gone. -/
structure Severed (a b : SocketHandle) (lost : List (BitVec 8))
    (lostRights : List (Nat × AncillaryRights)) (table : LocalSocketTable SOCKETS BACKLOG BYTES)
    (record : List (Event SOCKETS BACKLOG BYTES)) : Prop where
  retired : table.Retired b
  source : table.Retired a ∨ ∃ other, table.index a = .ok other ∧
    (table.slot other).state = .connected ∧ (table.slot other).peer = none
  bytes : accepted a record = delivered b record ++ lost
  rights : rightsAccepted a record = rightsReturned b record ++ lostRights

/-- The event adds nothing to the stream from `a` to `b`. -/
structure Silent (a b : SocketHandle) (e : Event SOCKETS BACKLOG BYTES) : Prop where
  sent : forSocket a [] sent e = []
  received : forSocket b [] received e = []
  rightsSent : forSocket a none rightsSent e = none
  rightsReceived : forSocket b none rightsReceived e = none

section Steps

variable {table table' : LocalSocketTable SOCKETS BACKLOG BYTES} {operation : Operation}
  {reply : Except SocketError Reply} {a b : SocketHandle} {index sender : Fin SOCKETS}
  {record : List (Event SOCKETS BACKLOG BYTES)} {e : Event SOCKETS BACKLOG BYTES}
  {socket : SocketHandle} {lostRights : List (Nat × AncillaryRights)} {lost : List (BitVec 8)}

section

variable {α : Type} {nothing : α} {observe : Operation → Except SocketError Reply → α}

theorem forSocket_of_ne (other : e.operation.handle ≠ some socket) :
    forSocket socket nothing observe e = nothing :=
  if_neg other

theorem forSocket_eq (same : e.operation.handle = some socket) :
    forSocket socket nothing observe e = observe e.operation e.reply :=
  if_pos same

end

/-- An operation that neither sends nor receives is silent for every stream. -/
theorem silent_of_observations (noSent : sent e.operation e.reply = [])
    (noReceived : received e.operation e.reply = [])
    (noRightsSent : rightsSent e.operation e.reply = none)
    (noRightsReceived : rightsReceived e.operation e.reply = none) : Silent a b e := by
  refine ⟨?_, ?_, ?_, ?_⟩
  · rw [forSocket, noSent, ite_self]
  · rw [forSocket, noReceived, ite_self]
  · rw [forSocket, noRightsSent, ite_self]
  · rw [forSocket, noRightsReceived, ite_self]

theorem silent_of_error {error : SocketError} (failed : e.reply = .error error) : Silent a b e := by
  refine silent_of_observations ?_ ?_ ?_ ?_ <;> rw [failed] <;> cases e.operation <;> rfl

theorem silent_of_handle (notA : e.operation.handle ≠ some a) (notB : e.operation.handle ≠ some b) :
    Silent a b e :=
  ⟨forSocket_of_ne notA, forSocket_of_ne notB, forSocket_of_ne notA, forSocket_of_ne notB⟩

/-- A silent event on an endpoint that keeps its ring and its rights. -/
theorem Flowing.silent (flowing : Flowing a b index table record) (silent : Silent a b e)
    (endpoint : Endpoint a b index table')
    (ring : (table'.slot index).receive = (table.slot index).receive)
    (rights : (table'.slot index).rights = (table.slot index).rights) :
    Flowing a b index table' (record ++ [e]) := by
  have noMore : delivered b (record ++ [e]) = delivered b record := by
    rw [delivered_snoc, silent.received, append_nil]
  refine ⟨endpoint, ?_, ?_⟩
  · rw [accepted_snoc, silent.sent, append_nil, noMore, ring, flowing.bytes]
  rw [rightsAccepted_snoc, silent.rightsSent, rightsReturned_snoc, silent.rightsReceived, noMore,
    pendingRights, rights]
  simpa only [Option.toList_none, map_nil, append_nil, pendingRights] using
    flowing.rights

/-- A silent event that leaves the slot of the endpoint alone. -/
theorem Flowing.untouched (flowing : Flowing a b index table record) (silent : Silent a b e)
    (endpoint : Endpoint a b index table') (same : table'.slot index = table.slot index) :
    Flowing a b index table' (record ++ [e]) :=
  flowing.silent silent endpoint (by rw [same]) (by rw [same])

theorem Severed.silent (severed : Severed a b lost lostRights table record) (silent : Silent a b e)
    (retired : table'.Retired b) (source : table'.Retired a ∨ ∃ other, table'.index a = .ok other ∧
      (table'.slot other).state = .connected ∧ (table'.slot other).peer = none) :
    Severed a b lost lostRights table' (record ++ [e]) := by
  refine ⟨retired, source, ?_, ?_⟩
  · rw [accepted_snoc, delivered_snoc, silent.sent, silent.received, append_nil,
      append_nil, severed.bytes]
  · rw [rightsAccepted_snoc, silent.rightsSent, rightsReturned_snoc, silent.rightsReceived]
    simpa only [Option.toList_none, map_nil, append_nil] using severed.rights

/-! ### Who sends and who receives -/

/-- What is pushed into the endpoint's ring comes from `a`. -/
theorem Endpoint.sender_eq (valid : table.Valid) (endpoint : Endpoint a b index table)
    (sends : table.Sends socket sender index) : socket = a := by
  have back := (valid.linked sender index sends.linked).back
  rcases endpoint.source with ⟨other, named, linked⟩ | ⟨-, alone⟩
  · have same : other = sender := Option.some.inj (linked.symm.trans back)
    subst same
    rw [eq_handleOf named, eq_handleOf sends.named]
  · rw [alone] at back
    cases back

/-- What goes into another ring does not come from `a`. -/
theorem Endpoint.sender_ne (valid : table.Valid) (endpoint : Endpoint a b index table)
    {peer : Fin SOCKETS} (sends : table.Sends socket sender peer) (elsewhere : index ≠ peer) :
    some socket ≠ some a := by
  rintro ⟨⟩
  rcases endpoint.source with ⟨other, named, linked⟩ | ⟨gone, -⟩
  · have same : other = sender := Except.ok.inj (named.symm.trans sends.named)
    subst same
    have back := (valid.linked index other linked).back
    exact elsewhere (Option.some.inj (back.symm.trans sends.linked))
  · exact gone.index_ne sender sends.named

theorem Endpoint.receiver_ne (endpoint : Endpoint a b index table) {receiver : Fin SOCKETS}
    (named : table.index socket = .ok receiver) (elsewhere : index ≠ receiver) :
    some socket ≠ some b := by
  rintro ⟨⟩
  exact elsewhere (Except.ok.inj (endpoint.named.symm.trans named))

theorem Endpoint.receiver_eq (endpoint : Endpoint a b index table)
    (named : table.index socket = .ok index) : socket = b := by
  rw [eq_handleOf named, eq_handleOf endpoint.named]

/-! ### One step of the simulation -/

section

variable (valid : table.Valid) (flowing : Flowing a b index table record)
include valid flowing

/-- A send from `a`: its accepted bytes go behind the ring, its rights object into
the slot. -/
theorem Flowing.push {input : List (BitVec 8)} {rights : Option AncillaryRights}
    (here : e.operation.handle = some a)
    (sentBytes : sent e.operation e.reply = input.take ((table.slot index).receive.push input).2)
    (sentRights : rightsSent e.operation e.reply = rights)
    (noReceived : received e.operation e.reply = [])
    (noRights : rightsReceived e.operation e.reply = none) (endpoint : Endpoint a b index table')
    (ring : (table'.slot index).receive = ((table.slot index).receive.push input).1)
    (held : (table'.slot index).rights = (table.slot index).rights ∧ rights = none ∨
      (table.slot index).rights = none ∧ (table.slot index).receive.length = 0 ∧
        (table'.slot index).rights = rights) : Flowing a b index table' (record ++ [e]) := by
  have noMore : delivered b (record ++ [e]) = delivered b record := by
    rw [delivered_snoc, forSocket, noReceived, ite_self, append_nil]
  have noReturn : rightsReturned b (record ++ [e]) = rightsReturned b record := by
    rw [rightsReturned_snoc, forSocket, noRights, ite_self]
    exact append_nil _
  refine ⟨endpoint, ?_, ?_⟩
  · rw [accepted_snoc, forSocket_eq here, sentBytes, noMore, ring,
      ByteRing.contents_push (valid.slots index).ring, flowing.bytes, append_assoc]
  rw [rightsAccepted_snoc, forSocket_eq here, sentRights, noMore, noReturn, flowing.rights,
    pendingRights, pendingRights]
  rcases held with ⟨same, none⟩ | ⟨vacant, drained, taken⟩
  · rw [same, none]
    exact append_nil _
  -- The ring is empty, so the batch starts where the delivered bytes end.
  have caughtUp : accepted a record = delivered b record := by
    rw [flowing.bytes, ByteRing.contents_eq_nil drained, append_nil]
  rw [vacant, taken, caughtUp]
  rw [Option.toList_none, map_nil, append_nil]

/-- A receive at `b`: its output comes off the front of the ring, and a rights
object that it returns is the one at that position. -/
theorem Flowing.pop {size : Nat} (here : e.operation.handle = some b)
    (output : received e.operation e.reply = ((table.slot index).receive.pop size).2)
    (outputRights : rightsReceived e.operation e.reply = (table.slot index).rights)
    (noSent : sent e.operation e.reply = []) (noRights : rightsSent e.operation e.reply = none)
    (endpoint : Endpoint a b index table')
    (ring : (table'.slot index).receive = ((table.slot index).receive.pop size).1)
    (taken : (table'.slot index).rights = none) : Flowing a b index table' (record ++ [e]) := by
  have noAccept : accepted a (record ++ [e]) = accepted a record := by
    rw [accepted_snoc, forSocket, noSent, ite_self, append_nil]
  refine ⟨endpoint, ?_, ?_⟩
  · rw [noAccept, delivered_snoc, forSocket_eq here, output, ring, flowing.bytes,
      append_assoc, ← ByteRing.contents_pop (valid.slots index).ring]
  · rw [rightsAccepted_snoc, forSocket, noRights, ite_self, rightsReturned_snoc,
      forSocket_eq here, outputRights, flowing.rights, pendingRights, pendingRights, taken]
    simp only [Option.toList_none, map_nil]

/-- Closing `b` severs the stream with what its slot still held. -/
theorem Flowing.close (silent : Silent a b e) : Severed a b (table.slot index).receive.contents
      (pendingRights (table.slot index) (delivered b record).length) (table.closed index)
      (record ++ [e]) := by
  have endpoint := flowing.endpoint
  refine ⟨?_, ?_, ?_, ?_⟩
  · rw [eq_handleOf endpoint.named]
    exact retired_closed index
  · rcases endpoint.source with ⟨other, named, linked⟩ | ⟨gone, -⟩
    · right
      have atOther := slot_closed_peer valid linked
      have link := valid.linked index other linked
      obtain ⟨rfl, used⟩ := index_eq_ok.mp named
      exact ⟨other, index_eq_ok.mpr ⟨by rw [atOther], by rw [atOther]; exact used⟩,
        by rw [atOther]; exact link.connectedSecond, by rw [atOther]⟩
    · exact .inl (gone.advance ((Shape.close endpoint.named).advances valid))
  · rw [accepted_snoc, delivered_snoc, silent.sent, silent.received, append_nil,
      append_nil, flowing.bytes]
  · rw [rightsAccepted_snoc, silent.rightsSent, rightsReturned_snoc, silent.rightsReceived]
    simpa only [Option.toList_none, map_nil, append_nil] using flowing.rights

/-- One operation on a flowing stream: it flows on, or the operation closed `b`. -/
theorem Flowing.step (moved : Transition table e.operation e.reply table') :
    Flowing a b index table' (record ++ [e]) ∨
      e.operation = .close b ∧ Severed a b (table.slot index).receive.contents
        (pendingRights (table.slot index) (delivered b record).length) table' (record ++ [e]) := by
  have endpoint := flowing.endpoint
  have connected := endpoint.connected
  rcases moved.shape.endpoint valid endpoint with still | ⟨closing, done, rfl⟩
  · left
    obtain ⟨before, operation, reply, after⟩ := e
    cases moved with
    | refused => exact flowing.silent (silent_of_error rfl) still rfl rfl
    | pendingConnections | peer | readiness | recvNothing =>
      exact flowing.silent (silent_of_observations rfl rfl rfl rfl) still rfl rfl
    | @socket fresh usable free bounded =>
      have untouched : index ≠ fresh := by
        rintro rfl
        rw [connected] at free
        cases free
      exact flowing.untouched (silent_of_observations rfl rfl rfl rfl) still
        (slot_setSlot_ne _ untouched _)
    | bind | listen | accept =>
      refine flowing.silent (silent_of_observations rfl rfl rfl rfl) still ?_ ?_
      · exact setSlot_field (·.receive) (by rfl) index
      · exact setSlot_field (·.rights) (by rfl) index
    | connect named created listening found room free bounded =>
      exact flowing.untouched (silent_of_observations rfl rfl rfl rfl) still
        (slot_link_connected created listening free connected)
    | @send operation socket input sender peer sends plain =>
      by_cases here : index = peer
      · subst here
        obtain rfl := endpoint.sender_eq valid sends
        rcases plain with rfl | rfl
        · exact flowing.push valid rfl rfl rfl rfl rfl still (by rw [slot_setSlot_self]; rfl)
            (.inl ⟨by rw [slot_setSlot_self]; rfl, rfl⟩)
        · exact flowing.push valid rfl rfl rfl rfl rfl still (by rw [slot_setSlot_self]; rfl)
            (.inl ⟨by rw [slot_setSlot_self]; rfl, rfl⟩)
      · have notA := endpoint.sender_ne valid sends here
        have silent : Silent a b (⟨before, operation, .ok (.count
            ((table.slot peer).receive.push input).2), after⟩ : Event SOCKETS BACKLOG BYTES) := by
          rcases plain with rfl | rfl
          · exact ⟨forSocket_of_ne notA, ite_self _, ite_self _, ite_self _⟩
          · exact ⟨forSocket_of_ne notA, ite_self _, ite_self _, ite_self _⟩
        exact flowing.untouched silent still (slot_setSlot_ne _ here _)
    | @sendWithRights socket input rights sender peer sends nonempty vacant drained whole =>
      by_cases here : index = peer
      · subst here
        obtain rfl := endpoint.sender_eq valid sends
        exact flowing.push valid rfl (by rw [whole]; rfl) rfl rfl rfl still
          (by rw [slot_setSlot_self]; rfl)
          (.inr ⟨vacant, drained, by rw [slot_setSlot_self]; rfl⟩)
      · have notA := endpoint.sender_ne valid sends here
        exact flowing.untouched ⟨forSocket_of_ne notA, ite_self _, forSocket_of_ne notA, ite_self _⟩
          still (slot_setSlot_ne _ here _)
    | @recv socket size receiver named connected vacant =>
      by_cases here : index = receiver
      · subst here
        obtain rfl := endpoint.receiver_eq named
        exact flowing.pop valid rfl rfl vacant.symm rfl rfl still (by rw [slot_setSlot_self]; rfl)
          (by rw [slot_setSlot_self]; exact vacant)
      · have notB := endpoint.receiver_ne named here
        exact flowing.untouched ⟨ite_self _, forSocket_of_ne notB, ite_self _, ite_self _⟩ still
          (slot_setSlot_ne _ here _)
    | @recvWithRights socket size receiver named connected some_ =>
      by_cases here : index = receiver
      · subst here
        obtain rfl := endpoint.receiver_eq named
        have returned : rightsReceived (.recvWithRights socket size)
            (.ok (.bytes ((table.slot index).receive.pop size).2 (table.slot index).rights)) =
            (table.slot index).rights := by
          obtain ⟨first, rest, output⟩ := exists_cons_of_ne_nil some_
          rw [output]
          rfl
        exact flowing.pop valid rfl rfl returned rfl rfl still (by rw [slot_setSlot_self]; rfl)
          (by rw [slot_setSlot_self])
      · have notB := endpoint.receiver_ne named here
        exact flowing.untouched ⟨ite_self _, forSocket_of_ne notB, ite_self _, forSocket_of_ne notB⟩
          still (slot_setSlot_ne _ here _)
    | @takeRights socket receiver named =>
      by_cases here : index = receiver
      · subst here
        obtain rfl := endpoint.receiver_eq named
        -- A take is a receive of no bytes.
        have same := @ByteRing.pop_eq_self _ _ (valid.slots index).ring 0
          (by rw [ByteRing.pop_output, take_zero]; rfl)
        have nothing : received (.takeRights socket) (.ok (.rights (table.slot index).rights)) =
            ((table.slot index).receive.pop 0).2 := by
          rfl
        exact flowing.pop valid rfl nothing rfl rfl rfl still (by rw [slot_setSlot_self, same])
          (by rw [slot_setSlot_self])
      · have notB := endpoint.receiver_ne named here
        exact flowing.untouched ⟨ite_self _, ite_self _, ite_self _, forSocket_of_ne notB⟩ still
          (slot_setSlot_ne _ here _)
    | @close socket closed named =>
      have different : index ≠ closed := by
        rintro rfl
        have gone : (table.closed index).Retired (table.handleOf index) := retired_closed index
        rw [← eq_handleOf endpoint.named] at gone
        exact gone.index_ne index still.named
      change Flowing a b index (table.closed closed) _
      rcases slot_closed_cases valid different with ⟨unchanged, -⟩ | ⟨-, changed⟩
      · exact flowing.silent (silent_of_observations rfl rfl rfl rfl) still (by rw [unchanged])
          (by rw [unchanged])
      · exact flowing.silent (silent_of_observations rfl rfl rfl rfl) still (by rw [changed])
          (by rw [changed])
  · right
    refine ⟨closing, flowing.close valid (silent_of_observations ?_ ?_ ?_ ?_)⟩
    all_goals
      rw [closing]
      rfl

end

/-! ### Sockets that take no part -/

/-- A socket that may not send adds nothing to what was accepted. -/
theorem Transition.silent_sender (moved : Transition table e.operation e.reply table')
    (mute : ∀ sender peer, ¬ table.Sends a sender peer) :
    forSocket a [] sent e = [] ∧ forSocket a none rightsSent e = none := by
  by_cases here : e.operation.handle = some a
  · rw [forSocket_eq here, forSocket_eq here]
    obtain ⟨before, operation, reply, after⟩ := e
    cases moved with
    | refused => cases operation <;> exact ⟨rfl, rfl⟩
    | @send operation socket input sender peer sends plain =>
      have same : operation.handle = some socket := by
        rcases plain with rfl | rfl
        · rfl
        · rfl
      have isA : socket = a := Option.some.inj (same.symm.trans here)
      exact absurd (isA ▸ sends) (mute sender peer)
    | @sendWithRights socket input rights sender peer sends nonempty vacant drained whole =>
      have isA : socket = a := Option.some.inj here
      exact absurd (isA ▸ sends) (mute sender peer)
    | _ => exact ⟨rfl, rfl⟩
  · exact ⟨forSocket_of_ne here, forSocket_of_ne here⟩

/-- A socket that is not connected adds nothing to what was delivered. -/
theorem Transition.silent_receiver (valid : table.Valid)
    (moved : Transition table e.operation e.reply table')
    (deaf : ∀ receiver, table.index b = .ok receiver → (table.slot receiver).state ≠ .connected) :
    forSocket b [] received e = [] ∧ forSocket b none rightsReceived e = none := by
  by_cases here : e.operation.handle = some b
  · rw [forSocket_eq here, forSocket_eq here]
    obtain ⟨before, operation, reply, after⟩ := e
    cases moved with
    | refused => cases operation <;> exact ⟨rfl, rfl⟩
    | @send operation socket input sender peer sends plain =>
      rcases plain with rfl | rfl
      · exact ⟨rfl, rfl⟩
      · exact ⟨rfl, rfl⟩
    | @recv socket size receiver named connected vacant
    | @recvWithRights socket size receiver named connected some_ =>
      have isB : socket = b := Option.some.inj here
      exact absurd connected (deaf receiver (isB ▸ named))
    | @takeRights socket receiver named =>
      have isB : socket = b := Option.some.inj here
      have idle := (valid.slots receiver).idle (deaf receiver (isB ▸ named))
      exact ⟨rfl, idle.2.1⟩
    | _ => exact ⟨rfl, rfl⟩
  · exact ⟨forSocket_of_ne here, forSocket_of_ne here⟩

theorem Transition.silent_of_dead (valid : table.Valid)
    (moved : Transition table e.operation e.reply table')
    (mute : ∀ sender peer, ¬ table.Sends a sender peer)
    (deaf : ∀ receiver, table.index b = .ok receiver → (table.slot receiver).state ≠ .connected) :
    Silent a b e :=
  ⟨(moved.silent_sender mute).1, (moved.silent_receiver valid deaf).1,
    (moved.silent_sender mute).2, (moved.silent_receiver valid deaf).2⟩

/-- A severed stream stays as it is. -/
theorem Severed.step (valid : table.Valid) (severed : Severed a b lost lostRights table record)
    (moved : Transition table e.operation e.reply table') :
    Severed a b lost lostRights table' (record ++ [e]) := by
  have shape := moved.shape
  refine severed.silent (moved.silent_of_dead valid ?_ ?_) (shape.retired valid severed.retired) ?_
  · intro sender peer sends
    rcases severed.source with gone | ⟨other, named, -, alone⟩
    · exact gone.index_ne sender sends.named
    · have same : other = sender := Except.ok.inj (named.symm.trans sends.named)
      subst same
      exact absurd (alone.symm.trans sends.linked) nofun
  · intro receiver named
    exact absurd named (severed.retired.index_ne receiver)
  · rcases severed.source with gone | ⟨other, named, connected, alone⟩
    · exact .inl (shape.retired valid gone)
    rcases shape.connected_kept valid connected with ⟨still, peer⟩ | ⟨-, -, rfl⟩
    · right
      rcases shape.index_kept valid named with kept | ⟨-, -, rfl⟩
      · refine ⟨other, kept, still, ?_⟩
        rcases peer with same | ⟨gone, -⟩
        · exact same.trans alone
        · exact gone
      · rw [slot_closed_self] at still
        cases still
    · left
      rw [eq_handleOf named]
      exact retired_closed other

end Steps

end SlopOS.Ipc
