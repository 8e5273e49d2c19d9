import SlopOS.Ipc.Streams

/-!
# Who holds a socket

`socket` and `accept` return the handle of a socket to a caller, and `close` gives
it back.  A server endpoint that `connect` creates has no holder yet: it waits in
the backlog of its listener.  `Owned` says that every slot in use is held or waits.

Closing a listener drops its backlog, and the endpoints in it then have neither a
holder nor a place in a backlog.  Every other operation keeps `Owned`, so it holds
in every run that closes no listener with connections pending.
-/

namespace SlopOS.Ipc

open LocalSocketTable

variable {SOCKETS BACKLOG BYTES : Nat}

/-! ## Handles in the hands of callers -/

/-- The handle that a call gives to its caller. -/
def issuedHandle : Operation → Except SocketError Reply → Option SocketHandle
  | .socket, .ok (.handle handle) | .accept _, .ok (.handle handle) => some handle
  | _, _ => none

/-- The handle that a call gives back. -/
def returnedHandle : Operation → Except SocketError Reply → Option SocketHandle
  | .close handle, .ok _ => some handle
  | _, _ => none

def holdStep (held : List SocketHandle) (e : Event SOCKETS BACKLOG BYTES) : List SocketHandle :=
  ((issuedHandle e.operation e.reply).toList ++ held).filter
    fun handle => returnedHandle e.operation e.reply ≠ some handle

/-- The handles that were returned to a caller and not closed. -/
def held (record : List (Event SOCKETS BACKLOG BYTES)) : List SocketHandle :=
  record.foldl holdStep []

theorem held_snoc {record : List (Event SOCKETS BACKLOG BYTES)}
    {e : Event SOCKETS BACKLOG BYTES} : held (record ++ [e]) = holdStep (held record) e :=
  List.foldl_concat ..

theorem mem_holdStep {callers : List SocketHandle} {e : Event SOCKETS BACKLOG BYTES}
    {handle : SocketHandle} : handle ∈ holdStep callers e ↔
      (issuedHandle e.operation e.reply = some handle ∨ handle ∈ callers) ∧
        returnedHandle e.operation e.reply ≠ some handle := by
  rw [holdStep, List.mem_filter, List.mem_append, Option.mem_toList, decide_eq_true_eq]

/-! ## The invariant -/

/-- The slot waits in the backlog of a listener. -/
def LocalSocketTable.Queued (table : LocalSocketTable SOCKETS BACKLOG BYTES)
    (index : Fin SOCKETS) : Prop :=
  ∃ listener, (table.slot listener).state = .listening ∧
    some index ∈ (table.slot listener).queue

structure Owned (table : LocalSocketTable SOCKETS BACKLOG BYTES)
    (record : List (Event SOCKETS BACKLOG BYTES)) : Prop where
  valid : table.Valid
  /-- A slot in use is held or waits. -/
  accounted : ∀ index, (table.slot index).state ≠ .free →
    table.handleOf index ∈ held record ∨ table.Queued index
  /-- Only a connected slot may wait without a holder. -/
  active : ∀ index, (table.slot index).state ≠ .free → (table.slot index).state ≠ .connected →
    table.handleOf index ∈ held record

/-- The operation does not close a listener with connections pending. -/
def LocalSocketTable.drainsFirst (table : LocalSocketTable SOCKETS BACKLOG BYTES) :
    Operation → Bool
  | .close socket =>
      match table.index socket with
      | .ok index => (table.slot index).pendingLength = 0
      | .error _ => true
  | _ => true

section Steps

variable {table table' : LocalSocketTable SOCKETS BACKLOG BYTES} {operation : Operation}
  {reply : Except SocketError Reply} {handle : SocketHandle} {index : Fin SOCKETS}
  {record : List (Event SOCKETS BACKLOG BYTES)} {e : Event SOCKETS BACKLOG BYTES}

theorem handles_of_quiet (quiet : structural operation reply = false) :
    issuedHandle operation reply = none ∧ returnedHandle operation reply = none := by
  cases reply with
  | error error => cases operation <;> exact ⟨rfl, rfl⟩
  | ok reply =>
    cases operation with
    | socket | accept | close => cases quiet
    | _ => exact ⟨rfl, rfl⟩

/-- What is given back is the handle of the slot that is closed. -/
theorem Shape.returned (shape : Shape table operation reply table')
    (returned : returnedHandle operation reply = some handle) :
    ∃ index, handle = table.handleOf index ∧ table' = table.closed index := by
  cases shape with
  | same quiet | update update quiet => cases (handles_of_quiet quiet).2.symm.trans returned
  | socket | connect | accept => cases returned
  | close named =>
    cases returned
    exact ⟨_, eq_handleOf named, rfl⟩

theorem held_of_issued (issued : issuedHandle e.operation e.reply = some handle) :
    handle ∈ held (record ++ [e]) := by
  rw [held_snoc, mem_holdStep]
  refine ⟨.inl issued, fun returned => ?_⟩
  unfold returnedHandle at returned
  split at returned
  · next closing _ =>
    rw [closing] at issued
    cases issued
  · cases returned

/-- The holder of a socket that stays open keeps its handle. -/
theorem Shape.held_kept (shape : Shape table e.operation e.reply table')
    (inUse : (table'.slot index).state ≠ .free) (holds : table.handleOf index ∈ held record) :
    table.handleOf index ∈ held (record ++ [e]) := by
  rw [held_snoc, mem_holdStep]
  refine ⟨.inr holds, fun returned => ?_⟩
  obtain ⟨closed, same, rfl⟩ := shape.returned returned
  cases handleOf_injective same
  rw [slot_closed_self] at inUse
  exact inUse rfl

variable (valid : table.Valid) (shape : Shape table operation reply table')
include valid shape

/-- A slot that comes into use starts anew; its handle is issued, or it waits. -/
theorem Shape.born (free : (table.slot index).state = .free)
    (inUse : (table'.slot index).state ≠ .free) :
    ((table.slot index).generation < (table'.slot index).generation ∧
        (table'.slot index).queue = []) ∧
      (issuedHandle operation reply = some (table'.handleOf index) ∨
        table'.Queued index ∧ (table'.slot index).state = .connected) := by
  cases shape.slotMove valid index with
  | kept same =>
    rw [same] at inUse
    exact absurd free inUse
  | updated update => exact absurd free update.oldInUse
  | created _ socket issued changed =>
    rw [socket, issued, changed]
    exact ⟨⟨Nat.lt_succ_self _, rfl⟩, .inl rfl⟩
  | client joined => cases free.symm.trans joined.created
  | @server client listener joined listening room queued =>
    have waits : table'.Queued index := by
      refine ⟨listener, ?_⟩
      rw [queued, SocketSlot.queue_enqueued (valid.slots listener) room]
      exact ⟨listening, List.mem_append_right _ (List.mem_singleton_self _)⟩
    rw [joined.atServer]
    exact ⟨⟨Nat.lt_succ_self _, rfl⟩, .inr ⟨waits, rfl⟩⟩
  | enqueued _ listening | dequeued listening => cases free.symm.trans listening
  | hungUp linked => cases free.symm.trans (valid.linked _ _ linked).connectedSecond
  | closed _ _ whole =>
    rw [whole, slot_closed_self] at inUse
    exact absurd rfl inUse

/-- What waits goes on waiting until it is accepted. -/
theorem Shape.queued (drains : table.drainsFirst operation = true) (waits : table.Queued index) :
    table'.Queued index ∨ issuedHandle operation reply = some (table.handleOf index) := by
  obtain ⟨listener, listening, member⟩ := waits
  cases shape.slotMove valid listener with
  | kept same => exact .inl ⟨listener, by rw [same]; exact ⟨listening, member⟩⟩
  | updated update =>
    exact .inl ⟨listener, update.listening listening, by rw [update.queue]; exact member⟩
  | created free => cases listening.symm.trans free
  | client joined => cases listening.symm.trans joined.created
  | server joined => cases listening.symm.trans joined.free
  | enqueued _ _ room changed =>
    refine .inl ⟨listener, ?_⟩
    rw [changed, SocketSlot.queue_enqueued (valid.slots listener) room]
    exact ⟨listening, List.mem_append_left _ member⟩
  | dequeued _ waiting oldest accept issued changed =>
    rw [SocketSlot.queue_eq_cons (valid.slots listener) waiting, oldest] at member
    rcases List.mem_cons.mp member with first | rest
    · cases first
      rw [accept, issued]
      exact .inr rfl
    · exact .inl ⟨listener, by rw [changed]; exact ⟨listening, rest⟩⟩
  | hungUp linked => cases listening.symm.trans (valid.linked _ _ linked).connectedSecond
  | closed closing _ _ =>
    rw [closing, drainsFirst, index_handleOf (by rw [listening]; decide)] at drains
    rw [SocketSlot.queue, of_decide_eq_true drains] at member
    cases member

omit valid shape

theorem Owned.step (owned : Owned table record) (valid : table'.Valid)
    (shape : Shape table e.operation e.reply table')
    (drains : table.drainsFirst e.operation = true) : Owned table' (record ++ [e]) := by
  constructor
  · exact valid
  · intro index inUse
    by_cases free : (table.slot index).state = .free
    · exact (shape.born owned.valid free inUse).2.imp held_of_issued And.left
    rw [shape.handle_kept owned.valid free]
    rcases owned.accounted index free with holds | waits
    · exact .inl (shape.held_kept inUse holds)
    · exact (shape.queued owned.valid drains waits).symm.imp_left held_of_issued
  · intro index inUse notConnected
    by_cases free : (table.slot index).state = .free
    · rcases (shape.born owned.valid free inUse).2 with issued | ⟨-, connected⟩
      · exact held_of_issued issued
      · exact absurd connected notConnected
    rw [shape.handle_kept owned.valid free]
    refine shape.held_kept inUse (owned.active index free fun connected => ?_)
    rcases shape.connected_kept owned.valid connected with ⟨still, -⟩ | ⟨-, -, rfl⟩
    · exact notConnected still
    · rw [slot_closed_self] at inUse
      exact inUse rfl

end Steps

/-! ## Runs that close no listener with connections pending -/

theorem owned_new : Owned (new : LocalSocketTable SOCKETS BACKLOG BYTES) [] := by
  constructor
  · exact new_valid
  · intro index used
    rw [slot_new] at used
    exact absurd rfl used
  · intro index used
    rw [slot_new] at used
    exact absurd rfl used

theorem reached_owned {ops : List Operation} (drains : Trace.Admits step
      (fun (table : LocalSocketTable SOCKETS BACKLOG BYTES) operation =>
        table.drainsFirst operation = true) new ops) :
    Owned (reached SOCKETS BACKLOG BYTES ops) (history SOCKETS BACKLOG BYTES ops) :=
  Trace.holds_along Owned
    (fun operation owned allowed => owned.step (owned.valid.step operation)
      (owned.valid.step_transition operation).shape allowed) owned_new drains

/-- In every run that closes no listener with connections pending, each slot in use
is named by a handle that was returned and not closed, or waits in the backlog of
a listening slot; and once every returned handle is closed, every slot is free. -/
theorem no_orphaned_sockets (SOCKETS BACKLOG BYTES : Nat) (ops : List Operation)
    (drains : Trace.Admits LocalSocketTable.step
      (fun (table : LocalSocketTable SOCKETS BACKLOG BYTES) operation =>
        table.drainsFirst operation = true) new ops) :
    (∀ index, ((reached SOCKETS BACKLOG BYTES ops).slot index).state ≠ .free →
        (reached SOCKETS BACKLOG BYTES ops).handleOf index ∈
            held (history SOCKETS BACKLOG BYTES ops) ∨
          (reached SOCKETS BACKLOG BYTES ops).Queued index) ∧
      (held (history SOCKETS BACKLOG BYTES ops) = [] →
        ∀ index, ((reached SOCKETS BACKLOG BYTES ops).slot index).state = .free) := by
  have owned := reached_owned drains
  refine ⟨owned.accounted, fun none index => ?_⟩
  by_contra used
  rcases owned.accounted index used with holds | ⟨listener, listening, -⟩
  · rw [none] at holds
    cases holds
  -- A listener is never unheld, so it cannot be left either.
  have holds := owned.active listener (by rw [listening]; decide) (by rw [listening]; decide)
  rw [none] at holds
  cases holds

/-- A listener at `/a` takes one connection and every socket is closed again. -/
def drainedOps : List Operation :=
  connectOps ++ [.accept ⟨0, 1⟩, .close ⟨0, 1⟩, .close ⟨1, 1⟩, .close ⟨2, 1⟩]

theorem no_orphaned_sockets_drained : held (history 3 1 4 drainedOps) = [] ∧
      ∀ index, ((reached 3 1 4 drainedOps).slot index).state = .free := by
  have closed : held (history 3 1 4 drainedOps) = [] := by decide
  have drains : Trace.Admits step
      (fun (table : LocalSocketTable 3 1 4) operation =>
        table.drainsFirst operation = true) new drainedOps := by
    unfold Trace.Admits
    decide
  exact ⟨closed, (no_orphaned_sockets 3 1 4 drainedOps drains).2 closed⟩

/-- The listener is closed while the connection is pending, then the client. -/
def orphanedOps : List Operation :=
  connectOps ++ [.close ⟨0, 1⟩, .close ⟨1, 1⟩]

/-- No handle is left to close, and the server endpoint is in use for good. -/
theorem orphaned_socket : held (history 3 1 4 orphanedOps) = [] ∧
      ((reached 3 1 4 orphanedOps).slot 2).state = .connected ∧
      ¬ (reached 3 1 4 orphanedOps).Queued 2 := by
  refine ⟨by decide, by decide, ?_⟩
  unfold Queued
  decide

end SlopOS.Ipc
