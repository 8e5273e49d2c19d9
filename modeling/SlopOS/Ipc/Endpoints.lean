import SlopOS.Ipc.Invariant

/-!
# Handles and the endpoints they name

A slot never returns to an earlier generation, so a handle that stops naming a
socket never names one again.  `Endpoint a b` says that the socket named `b` is the
one that was connected to `a`: while both are open they are peers, and once `a` is
closed `b` has no peer any more.  Every transition keeps this until `b` is closed.
-/

namespace SlopOS.Ipc

open LocalSocketTable

variable {SOCKETS BACKLOG BYTES : Nat}

namespace LocalSocketTable

/-- The handle of the socket in a slot. -/
def handleOf (table : LocalSocketTable SOCKETS BACKLOG BYTES) (index : Fin SOCKETS) :
    SocketHandle :=
  ⟨index.val, (table.slot index).generation⟩

/-- The handle named a socket that is closed. -/
def Retired (table : LocalSocketTable SOCKETS BACKLOG BYTES) (handle : SocketHandle) : Prop :=
  ∃ index : Fin SOCKETS, handle.index = index.val ∧
    (handle.generation < (table.slot index).generation ∨
      handle.generation = (table.slot index).generation ∧ (table.slot index).state = .free)

/-- No slot goes back to an earlier generation, or into use without a new one. -/
def Advances (table table' : LocalSocketTable SOCKETS BACKLOG BYTES) : Prop :=
  ∀ index, (table.slot index).generation < (table'.slot index).generation ∨
    (table'.slot index).generation = (table.slot index).generation ∧
      ((table.slot index).state = .free → (table'.slot index).state = .free)

end LocalSocketTable

section Handles

variable {table table' : LocalSocketTable SOCKETS BACKLOG BYTES} {operation : Operation}
  {reply : Except SocketError Reply} {handle : SocketHandle} {index : Fin SOCKETS}

theorem index_handleOf (used : (table.slot index).state ≠ .free) :
    table.index (table.handleOf index) = .ok index :=
  index_eq_ok.mpr ⟨rfl, used⟩

theorem eq_handleOf (named : table.index handle = .ok index) : handle = table.handleOf index :=
  (index_eq_ok.mp named).1

theorem handleOf_injective {first second : Fin SOCKETS}
    (same : table.handleOf first = table.handleOf second) : first = second :=
  Fin.ext (congrArg SocketHandle.index same)

theorem LocalSocketTable.Retired.index_ne (retired : table.Retired handle)
    (index : Fin SOCKETS) : table.index handle ≠ .ok index := by
  intro named
  obtain ⟨rfl, used⟩ := index_eq_ok.mp named
  obtain ⟨other, same, old⟩ := retired
  have same : index = other := Fin.ext same
  subst same
  rcases old with less | ⟨-, free⟩
  · exact lt_irrefl _ less
  · exact used free

theorem LocalSocketTable.Retired.advance (retired : table.Retired handle)
    (advances : table.Advances table') : table'.Retired handle := by
  obtain ⟨index, same, old⟩ := retired
  refine ⟨index, same, ?_⟩
  rcases advances index with newer | ⟨generation, stays⟩
  · left
    rcases old with less | ⟨equal, -⟩
    · exact less.trans newer
    · rwa [equal]
  · rw [generation]
    exact old.imp_right fun ⟨equal, free⟩ => ⟨equal, stays free⟩

theorem retired_closed (index : Fin SOCKETS) :
    (table.closed index).Retired (table.handleOf index) := by
  refine ⟨index, rfl, .inr ?_⟩
  rw [slot_closed_self]
  exact ⟨rfl, rfl⟩

/-! ## What a transition does to the socket in a slot -/

/-- The two slots that a `connect` makes peers. -/
structure Joined (table table' : LocalSocketTable SOCKETS BACKLOG BYTES)
    (client server : Fin SOCKETS) : Prop where
  created : (table.slot client).state = .created
  free : (table.slot server).state = .free
  atClient : table'.slot client = { table.slot client with state := .connected, peer := some server }
  atServer : table'.slot server =
    { SocketSlot.resetForAllocation ((table.slot server).generation + 1) with
      state := .connected, peer := some client }

/-- The effects of an operation on the slot at `index`. -/
inductive SlotMove (table table' : LocalSocketTable SOCKETS BACKLOG BYTES) (operation : Operation)
    (reply : Except SocketError Reply) (index : Fin SOCKETS) : Prop
  | kept (same : table'.slot index = table.slot index)
  | updated (update : LocalUpdate (table.slot index) (table'.slot index))
  | created (free : (table.slot index).state = .free) (socket : operation = .socket)
      (issued : reply = .ok (.handle (table'.handleOf index)))
      (changed : table'.slot index = .resetForAllocation ((table.slot index).generation + 1))
  | client {server : Fin SOCKETS} (joined : Joined table table' index server)
  | server {client listener : Fin SOCKETS} (joined : Joined table table' client index)
      (listening : (table.slot listener).state = .listening)
      (room : (table.slot listener).pendingLength ≠ BACKLOG)
      (queued : table'.slot listener = (table.slot listener).enqueued index)
  | enqueued {client server : Fin SOCKETS} (joined : Joined table table' client server)
      (listening : (table.slot index).state = .listening)
      (room : (table.slot index).pendingLength ≠ BACKLOG)
      (changed : table'.slot index = (table.slot index).enqueued server)
  | dequeued {listener : SocketHandle} {server : Fin SOCKETS}
      (listening : (table.slot index).state = .listening)
      (waiting : (table.slot index).pendingLength ≠ 0)
      (oldest : (table.slot index).pending[(table.slot index).pendingHead]?.getD none = some server)
      (accept : operation = .accept listener)
      (issued : reply = .ok (.handle (table.handleOf server)))
      (changed : table'.slot index = dequeued (table.slot index))
  | hungUp {closed : Fin SOCKETS} (linked : (table.slot closed).peer = some index)
      (whole : table' = table.closed closed)
      (changed : table'.slot index = { table.slot index with peer := none, peerClosed := true })
  | closed (closing : operation = .close (table.handleOf index)) (done : reply = .ok .done)
      (whole : table' = table.closed index)

variable (valid : table.Valid) (shape : Shape table operation reply table')
include valid shape

/-- Every slot makes one of the listed moves. -/
theorem Shape.slotMove (index : Fin SOCKETS) : SlotMove table table' operation reply index := by
  cases shape with
  | same quiet => exact .kept rfl
  | @update operation reply changed slot update quiet =>
    by_cases here : index = changed
    · subst here
      refine .updated ?_
      rw [slot_setSlot_self]
      exact update
    · exact .kept (slot_setSlot_ne _ here _)
  | @socket fresh free =>
    by_cases here : index = fresh
    · subst here
      refine .created free rfl ?_ (slot_setSlot_self ..)
      rw [handleOf, slot_setSlot_self]
      rfl
    · exact .kept (slot_setSlot_ne _ here _)
  | @connect socket path client listener server named created listening found room free =>
    have roles := roles_of_states created listening free
    have joined : Joined table (table.link client listener server _) client server :=
      ⟨created, free, slot_link_client roles, slot_link_server roles⟩
    by_cases isServer : index = server
    · subst isServer
      exact .server joined listening room (slot_link_listener roles)
    by_cases isClient : index = client
    · subst isClient
      exact .client joined
    by_cases isListener : index = listener
    · subst isListener
      exact .enqueued joined listening room (slot_link_listener roles)
    · exact .kept (slot_link_other isClient isListener isServer)
  | @accept listener accepting server named listening waiting oldest =>
    by_cases here : index = accepting
    · subst here
      exact .dequeued listening waiting oldest rfl rfl (slot_setSlot_self ..)
    · exact .kept (slot_setSlot_ne _ here _)
  | @close socket closed named =>
    by_cases same : index = closed
    · subst same
      rw [eq_handleOf named]
      exact .closed rfl rfl rfl
    · rcases slot_closed_cases valid same with ⟨unchanged, -⟩ | ⟨linked, changed⟩
      · exact .kept unchanged
      · exact .hungUp linked rfl changed

theorem Shape.slot_kept (used : (table.slot index).state ≠ .free) :
    (table'.slot index).generation = (table.slot index).generation ∧
        (table'.slot index).state ≠ .free ∨
      operation = .close (table.handleOf index) ∧ reply = .ok .done ∧
        table' = table.closed index := by
  cases shape.slotMove valid index with
  | kept same => exact .inl (by rw [same]; exact ⟨rfl, used⟩)
  | updated update => exact .inl ⟨update.generation, update.inUse⟩
  | created free => exact absurd free used
  | client joined => exact .inl (by rw [joined.atClient]; exact ⟨rfl, nofun⟩)
  | server joined => exact absurd joined.free used
  | enqueued _ _ _ changed | dequeued _ _ _ _ _ changed | hungUp _ _ changed =>
    exact .inl (by rw [changed]; exact ⟨rfl, used⟩)
  | closed closing done whole => exact .inr ⟨closing, done, whole⟩

/-- A handle keeps naming its socket until that is closed. -/
theorem Shape.index_kept (named : table.index handle = .ok index) :
    table'.index handle = .ok index ∨
      operation = .close handle ∧ reply = .ok .done ∧ table' = table.closed index := by
  obtain ⟨rfl, used⟩ := index_eq_ok.mp named
  rcases shape.slot_kept valid used with ⟨generation, inUse⟩ | closed
  · exact .inl (index_eq_ok.mpr ⟨by rw [generation], inUse⟩)
  · exact .inr closed

theorem Shape.advances : table.Advances table' := by
  intro index
  cases shape.slotMove valid index with
  | kept same => exact .inr (by rw [same]; exact ⟨rfl, id⟩)
  | updated update => exact .inr ⟨update.generation, fun free => absurd free update.oldInUse⟩
  | created _ _ _ changed => exact .inl (by rw [changed]; exact Nat.lt_succ_self _)
  | client joined => exact .inr (by rw [joined.atClient, joined.created]; exact ⟨rfl, nofun⟩)
  | server joined => exact .inl (by rw [joined.atServer]; exact Nat.lt_succ_self _)
  | enqueued _ _ _ changed | dequeued _ _ _ _ _ changed | hungUp _ _ changed =>
    exact .inr (by rw [changed]; exact ⟨rfl, id⟩)
  | closed _ _ whole =>
    right
    rw [whole, slot_closed_self]
    exact ⟨rfl, fun _ => rfl⟩

/-- A slot in use keeps its handle, also when it is closed. -/
theorem Shape.handle_kept (used : (table.slot index).state ≠ .free) :
    table'.handleOf index = table.handleOf index := by
  rcases shape.slot_kept valid used with ⟨generation, -⟩ | ⟨-, -, closed⟩
  · rw [handleOf, generation]
    rfl
  · rw [closed, handleOf, slot_closed_self]
    rfl

theorem Shape.retired (retired : table.Retired handle) : table'.Retired handle :=
  retired.advance (shape.advances valid)

end Handles

/-! ## Endpoints -/

/-- The socket named `b`, in the slot at `index`, is the one connected to `a`. -/
structure Endpoint (a b : SocketHandle) (index : Fin SOCKETS)
    (table : LocalSocketTable SOCKETS BACKLOG BYTES) : Prop where
  named : table.index b = .ok index
  connected : (table.slot index).state = .connected
  source : (∃ other, table.index a = .ok other ∧ (table.slot index).peer = some other) ∨
    table.Retired a ∧ (table.slot index).peer = none

section Endpoints

variable {table table' : LocalSocketTable SOCKETS BACKLOG BYTES} {operation : Operation}
  {reply : Except SocketError Reply} {a b : SocketHandle} {index : Fin SOCKETS}

/-- Two linked slots are each other's endpoint. -/
theorem endpoint_of_linked (valid : table.Valid) {first second : Fin SOCKETS}
    (linked : (table.slot first).peer = some second) :
    Endpoint (table.handleOf first) (table.handleOf second) second table := by
  have link := valid.linked first second linked
  refine ⟨index_handleOf ?_, link.connectedSecond, .inl ⟨first, index_handleOf ?_, link.back⟩⟩
  · rw [link.connectedSecond]
    decide
  · rw [link.connectedFirst]
    decide

/-- `peer` returns the handle of the linked slot. -/
theorem peer_of_linked (valid : table.Valid) {socket : SocketHandle} {first second : Fin SOCKETS}
    (named : table.index socket = .ok first) (linked : (table.slot first).peer = some second) :
    table.peer socket = .ok (table.handleOf second) := by
  have usable := valid.usable first (index_eq_ok.mp named).2
  have link := valid.linked first second linked
  have passes : ¬ ((table.slot first).state ≠ .connected ∨
      (table.slot first).peerClosed = true) := by
    rw [link.connectedFirst, link.openFirst]
    decide
  refine Except.bind_eq_ok_iff.mpr ⟨first, named, (if_neg passes).trans ?_⟩
  rw [linked]
  exact handle_eq usable _ second

variable (valid : table.Valid) (shape : Shape table operation reply table')
include valid shape

/-- A connected socket stays connected until it is closed; it loses its peer only when
that is closed. -/
theorem Shape.connected_kept (connected : (table.slot index).state = .connected) :
    (table'.slot index).state = .connected ∧ ((table'.slot index).peer = (table.slot index).peer ∨
          (table'.slot index).peer = none ∧
            ∃ closed, (table.slot index).peer = some closed ∧ table' = table.closed closed) ∨
      operation = .close (table.handleOf index) ∧ reply = .ok .done ∧
        table' = table.closed index := by
  cases shape.slotMove valid index with
  | kept same => exact .inl (by rw [same]; exact ⟨connected, .inl rfl⟩)
  | updated update => exact .inl ⟨update.connected.mpr connected, .inl update.peer⟩
  | created free => cases connected.symm.trans free
  | client joined => cases connected.symm.trans joined.created
  | server joined => cases connected.symm.trans joined.free
  | enqueued _ listening | dequeued listening => cases connected.symm.trans listening
  | @hungUp closed linked whole changed =>
    have back := (valid.linked closed index linked).back
    exact .inl ⟨by rw [changed]; exact connected, .inr ⟨by rw [changed], closed, back, whole⟩⟩
  | closed closing done whole => exact .inr ⟨closing, done, whole⟩

/-- An endpoint stays one until it is closed. -/
theorem Shape.endpoint (endpoint : Endpoint a b index table) : Endpoint a b index table' ∨
      operation = .close b ∧ reply = .ok .done ∧ table' = table.closed index := by
  have sameB := eq_handleOf endpoint.named
  rcases shape.connected_kept valid endpoint.connected with ⟨connected, peer⟩ | closed
  · left
    refine ⟨?_, connected, ?_⟩
    · rw [sameB, ← shape.handle_kept valid (index_eq_ok.mp endpoint.named).2]
      exact index_handleOf (by rw [connected]; decide)
    rcases endpoint.source with ⟨other, named, linked⟩ | ⟨gone, alone⟩
    · rcases shape.index_kept valid named with still | ⟨-, -, rfl⟩
      · rcases peer with same | ⟨-, closed, linkedClosed, rfl⟩
        · exact .inl ⟨other, still, same.trans linked⟩
        -- The peer that was closed is `a`, which is still open.
        cases linked.symm.trans linkedClosed
        rw [eq_handleOf named] at still
        exact absurd still ((retired_closed other).index_ne other)
      · -- The sender is closed: from here on the endpoint has no peer.
        rw [slot_closed_peer valid (valid.linked index other linked).back, eq_handleOf named]
        exact .inr ⟨retired_closed other, rfl⟩
    · rcases peer with same | ⟨none, -⟩
      · exact .inr ⟨shape.retired valid gone, same.trans alone⟩
      · exact .inr ⟨shape.retired valid gone, none⟩
  · rw [sameB]
    exact .inr closed

end Endpoints

end SlopOS.Ipc
