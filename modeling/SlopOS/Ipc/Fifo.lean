import SlopOS.Ipc.Streams

/-!
# Local sockets are streams, and rights travel with their batch

`Streams` ties the whole history to the table: every linked pair carries a flowing
stream in each direction, and a socket that was never connected has no history.
It holds in every reachable state, so from the moment two sockets are peers their
streams flow until the receiving one is closed.
-/

namespace SlopOS.Ipc

open LocalSocketTable

variable {SOCKETS BACKLOG BYTES : Nat} {table : LocalSocketTable SOCKETS BACKLOG BYTES}
  {record : List (Event SOCKETS BACKLOG BYTES)} {index : Fin SOCKETS} {ops later : List Operation}

/-- The handle belongs to a socket that was not connected yet, or to none yet. -/
def LocalSocketTable.Unconnected (table : LocalSocketTable SOCKETS BACKLOG BYTES)
    (handle : SocketHandle) : Prop :=
  ∃ index : Fin SOCKETS, handle.index = index.val ∧
    ((table.slot index).generation < handle.generation ∨
      handle.generation = (table.slot index).generation ∧ (table.slot index).state ≠ .free ∧
        (table.slot index).state ≠ .connected)

/-- The socket has neither sent nor received. -/
structure Untouched (socket : SocketHandle) (record : List (Event SOCKETS BACKLOG BYTES)) :
    Prop where
  accepted : accepted socket record = []
  delivered : delivered socket record = []
  rightsAccepted : rightsAccepted socket record = []
  rightsReturned : rightsReturned socket record = []

structure Streams (table : LocalSocketTable SOCKETS BACKLOG BYTES)
    (record : List (Event SOCKETS BACKLOG BYTES)) : Prop where
  valid : table.Valid
  fresh : ∀ handle, table.Unconnected handle → Untouched handle record
  linked : ∀ first second, (table.slot first).peer = some second →
    Flowing (table.handleOf first) (table.handleOf second) second table record

section Steps

variable {table' : LocalSocketTable SOCKETS BACKLOG BYTES} {operation : Operation}
  {reply : Except SocketError Reply} {handle : SocketHandle} {e : Event SOCKETS BACKLOG BYTES}

theorem LocalSocketTable.Unconnected.not_connected (unconnected : table.Unconnected handle)
    (index : Fin SOCKETS) (named : table.index handle = .ok index) :
    (table.slot index).state ≠ .connected := by
  obtain ⟨same, used⟩ := index_eq_ok.mp named
  subst same
  obtain ⟨other, sameIndex, fresh⟩ := unconnected
  have sameIndex : index = other := Fin.ext sameIndex
  subst sameIndex
  rcases fresh with older | ⟨-, -, notConnected⟩
  · exact absurd older (lt_irrefl _)
  · exact notConnected

/-- A socket that is not connected after a transition was not connected before. -/
theorem Shape.unconnected (valid : table.Valid) (shape : Shape table operation reply table')
    (unconnected : table'.Unconnected handle) : table.Unconnected handle := by
  obtain ⟨index, sameIndex, fresh⟩ := unconnected
  refine ⟨index, sameIndex, ?_⟩
  rcases shape.advances valid index with newer | ⟨generation, staysFree⟩
  · left
    rcases fresh with older | ⟨same, -, -⟩
    · exact newer.trans older
    · rwa [same]
  · rw [generation] at fresh
    rcases fresh with older | ⟨same, used, notConnected⟩
    · exact .inl older
    right
    have usedBefore : (table.slot index).state ≠ .free := fun free => used (staysFree free)
    exact ⟨same, usedBefore, fun connected => by
      rcases shape.connected_kept valid connected with ⟨still, -⟩ | ⟨-, -, closed⟩
      · exact notConnected still
      · rw [closed, slot_closed_self] at used
        exact used rfl⟩

theorem Untouched.silent {socket : SocketHandle} (untouched : Untouched socket record)
    (silent : Silent socket socket e) :
    Untouched socket (record ++ [e]) where
  accepted := by rw [accepted_snoc, silent.sent, untouched.accepted, List.append_nil]
  delivered := by rw [delivered_snoc, silent.received, untouched.delivered, List.append_nil]
  rightsAccepted := by
    rw [rightsAccepted_snoc, silent.rightsSent, untouched.rightsAccepted]
    rfl
  rightsReturned := by
    rw [rightsReturned_snoc, silent.rightsReceived, untouched.rightsReturned]
    rfl

theorem LocalSocketTable.Unconnected.untouched (valid : table.Valid)
    (unconnected : table.Unconnected handle) (untouched : Untouched handle record)
    (moved : Transition table e.operation e.reply table') : Untouched handle (record ++ [e]) := by
  have deaf := unconnected.not_connected
  exact untouched.silent (moved.silent_of_dead valid
    (fun sender peer sends => deaf sender sends.named sends.connected) deaf)

/-- Two sockets without a history that become peers start an empty stream. -/
theorem Untouched.flowing {a b : SocketHandle} (untouchedA : Untouched a record)
    (untouchedB : Untouched b record) (endpoint : Endpoint a b index table)
    (drained : (table.slot index).receive.length = 0) (vacant : (table.slot index).rights = none) :
    Flowing a b index table record where
  endpoint := endpoint
  bytes := by
    rw [untouchedA.accepted, untouchedB.delivered, ByteRing.contents_eq_nil drained]
    rfl
  rights := by
    rw [untouchedA.rightsAccepted, untouchedB.rightsReturned, pendingRights, vacant]
    rfl

/-- Neither side of a new connection was connected before. -/
theorem Joined.fresh {client server : Fin SOCKETS} (joined : Joined table table' client server) :
    table.Unconnected (table'.handleOf client) ∧ table.Unconnected (table'.handleOf server) := by
  refine ⟨⟨client, rfl, .inr ?_⟩, ⟨server, rfl, .inl ?_⟩⟩
  · rw [handleOf, joined.atClient, joined.created]
    exact ⟨rfl, by decide, by decide⟩
  · rw [handleOf, joined.atServer]
    exact Nat.lt_succ_self _

/-- A link after a transition was there before, or the transition is the `connect`
that made it. -/
theorem Shape.linked_cases (valid : table.Valid) (shape : Shape table operation reply table')
    {first second : Fin SOCKETS} (linked : (table'.slot first).peer = some second) :
    (table.slot first).peer = some second ∨
      table.Unconnected (table'.handleOf first) ∧ table.Unconnected (table'.handleOf second) ∧
        (table'.slot second).receive.length = 0 ∧ (table'.slot second).rights = none := by
  cases shape.slotMove valid first with
  | kept same => exact .inl (by rwa [same] at linked)
  | updated update => exact .inl (by rwa [update.peer] at linked)
  | created _ _ _ changed | hungUp _ _ changed =>
    rw [changed] at linked
    cases linked
  | client joined =>
    rw [joined.atClient] at linked
    cases linked
    rw [joined.atServer]
    exact .inr ⟨joined.fresh.1, joined.fresh.2, rfl, rfl⟩
  | @server client listener joined listening room queued =>
    rw [joined.atServer] at linked
    obtain rfl : client = second := Option.some.inj linked
    have idle := (valid.slots client).idle (by rw [joined.created]; decide)
    rw [joined.atClient]
    exact .inr ⟨joined.fresh.2, joined.fresh.1, idle.1, idle.2.1⟩
  | enqueued _ _ _ changed | dequeued _ _ _ _ _ changed => exact .inl (by rwa [changed] at linked)
  | closed _ _ whole =>
    rw [whole, slot_closed_self] at linked
    cases linked

theorem Streams.step (streams : Streams table record) (operation : Operation) :
    Streams (table.step operation).1
      (record ++ [Trace.event LocalSocketTable.step table operation]) := by
  have valid := streams.valid
  have moved : Transition table (Trace.event LocalSocketTable.step table operation).operation
      (Trace.event LocalSocketTable.step table operation).reply (table.step operation).1 :=
    valid.step_transition operation
  have shape := moved.shape
  have valid' := valid.step operation
  refine ⟨valid', ?_, ?_⟩
  · intro handle unconnected
    have before := shape.unconnected valid unconnected
    exact before.untouched valid (streams.fresh handle before) moved
  intro first second linked
  rcases shape.linked_cases valid linked with old | ⟨freshFirst, freshSecond, drained, vacant⟩
  · have flowing := streams.linked first second old
    have link' := valid'.linked first second linked
    -- Both sockets are still in use, so their handles are what they were.
    have link := valid.linked first second old
    have sameSecond : (table.step operation).1.handleOf second = table.handleOf second :=
      shape.handle_kept valid (by rw [link.connectedSecond]; decide)
    rw [shape.handle_kept valid (by rw [link.connectedFirst]; decide), sameSecond]
    rcases flowing.step valid moved with flows | ⟨-, severed⟩
    · exact flows
    have usedAfter : ((table.step operation).1.slot second).state ≠ .free := by
      rw [link'.connectedSecond]
      decide
    have kept := index_handleOf usedAfter
    rw [sameSecond] at kept
    exact absurd kept (severed.retired.index_ne second)
  · have endpoint := endpoint_of_linked valid' linked
    exact (freshFirst.untouched valid (streams.fresh _ freshFirst) moved).flowing
      (freshSecond.untouched valid (streams.fresh _ freshSecond) moved) endpoint drained vacant

theorem streams_new : Streams (new : LocalSocketTable SOCKETS BACKLOG BYTES) [] where
  valid := new_valid
  fresh _ _ := ⟨rfl, rfl, rfl, rfl⟩
  linked first second linked := by
    rw [slot_new] at linked
    cases linked

end Steps

theorem reached_streams (ops : List Operation) :
    Streams (reached SOCKETS BACKLOG BYTES ops) (history SOCKETS BACKLOG BYTES ops) :=
  Trace.holds_always Streams (fun operation streams => streams.step operation) streams_new ops

/-! ## From the moment two sockets are peers -/

/-- The stream from `a` to `b` in some state: it flows, or `b` was closed. -/
def Streaming (a b : SocketHandle) (table : LocalSocketTable SOCKETS BACKLOG BYTES)
    (record : List (Event SOCKETS BACKLOG BYTES)) : Prop :=
  (∃ index, Flowing a b index table record) ∨
    ∃ lost lostRights, Severed a b lost lostRights table record

/-- Peers of a reachable state carry a flowing stream in each direction. -/
theorem flowing_of_peer {a b : SocketHandle}
    (peers : (reached SOCKETS BACKLOG BYTES ops).peer a = .ok b) :
    (∃ index, Flowing a b index (reached SOCKETS BACKLOG BYTES ops)
        (history SOCKETS BACKLOG BYTES ops)) ∧
      ∃ index, Flowing b a index (reached SOCKETS BACKLOG BYTES ops)
        (history SOCKETS BACKLOG BYTES ops) := by
  have valid : (reached SOCKETS BACKLOG BYTES ops).Valid := reached_valid ops
  obtain ⟨first, second, named, linked, isB⟩ := peer_eq_ok valid.usable peers
  have streams : Streams (reached SOCKETS BACKLOG BYTES ops) (history SOCKETS BACKLOG BYTES ops) :=
    reached_streams ops
  have forth := streams.linked first second linked
  have back := streams.linked second first (valid.linked first second linked).back
  have isA := eq_handleOf named
  subst isA isB
  exact ⟨⟨second, forth⟩, ⟨first, back⟩⟩

theorem streaming_step {a b : SocketHandle} (valid : table.Valid)
    (streaming : Streaming a b table record) (operation : Operation) :
    Streaming a b (table.step operation).1 (record ++ [Trace.event step table operation]) := by
  have moved : Transition table (Trace.event step table operation).operation
      (Trace.event step table operation).reply (table.step operation).1 :=
    valid.step_transition operation
  rcases streaming with ⟨index, flowing⟩ | ⟨lost, lostRights, severed⟩
  · rcases flowing.step valid moved with flows | ⟨-, severed⟩
    · exact .inl ⟨index, flows⟩
    · exact .inr ⟨_, _, severed⟩
  · exact .inr ⟨lost, lostRights, severed.step valid moved⟩

theorem reached_append (ops later : List Operation) : reached SOCKETS BACKLOG BYTES (ops ++ later) =
      Trace.run step (reached SOCKETS BACKLOG BYTES ops) later :=
  Trace.run_append _ _ _

theorem history_append (ops later : List Operation) :
    history SOCKETS BACKLOG BYTES (ops ++ later) = history SOCKETS BACKLOG BYTES ops ++
      Trace.events step (reached SOCKETS BACKLOG BYTES ops) later :=
  Trace.events_append _ _ _

/-- A stream that runs in one reachable state runs in all later ones. -/
theorem streaming_later {a b : SocketHandle}
    (start : Streaming a b (reached SOCKETS BACKLOG BYTES ops) (history SOCKETS BACKLOG BYTES ops))
    : Streaming a b (reached SOCKETS BACKLOG BYTES (ops ++ later))
      (history SOCKETS BACKLOG BYTES (ops ++ later)) := by
  rw [reached_append, history_append]
  have along := Trace.holds_always (fun table record => table.Valid ∧ Streaming a b table record)
    (fun operation holds => ⟨holds.1.step operation, streaming_step holds.1 holds.2 operation⟩)
    ⟨reached_valid ops, start⟩ later
  exact along.2

/-! ## Streams are FIFO -/

/-- The stream from `a` to `b` delivers in order what was accepted; the remainder
is what the ring of `b` holds, and other sockets have no part in it. -/
structure Fifo (a b : SocketHandle) (table : LocalSocketTable SOCKETS BACKLOG BYTES)
    (record : List (Event SOCKETS BACKLOG BYTES)) : Prop where
  ordered : delivered b record <+: accepted a record
  remainder : ∀ index, table.index b = .ok index →
    accepted a record = delivered b record ++ (table.slot index).receive.contents
  frame : ∀ index, table.index b = .ok index → ∀ operation : Operation,
    operation.handle ≠ some a → operation.handle ≠ some b →
    (table.step operation).1.index b = .ok index ∧
      ((table.step operation).1.slot index).receive.contents = (table.slot index).receive.contents

/-- An operation on neither end leaves the undelivered bytes alone. -/
theorem Flowing.frame {a b : SocketHandle} (valid : table.Valid)
    (flowing : Flowing a b index table record) {operation : Operation}
    (notA : operation.handle ≠ some a) (notB : operation.handle ≠ some b) :
    (table.step operation).1.index b = .ok index ∧
      ((table.step operation).1.slot index).receive.contents =
        (table.slot index).receive.contents := by
  have moved : Transition table (Trace.event LocalSocketTable.step table operation).operation
      (Trace.event LocalSocketTable.step table operation).reply (table.step operation).1 :=
    valid.step_transition operation
  have silent : Silent a b (Trace.event LocalSocketTable.step table operation) :=
    silent_of_handle notA notB
  rcases flowing.step valid moved with flows | ⟨closing, -⟩
  · have bytes := flows.bytes
    rw [accepted_snoc, delivered_snoc, silent.sent, silent.received, List.append_nil,
      List.append_nil, flowing.bytes] at bytes
    exact ⟨flows.endpoint.named, (List.append_cancel_left bytes).symm⟩
  · change operation = .close b at closing
    rw [closing] at notB
    exact absurd rfl notB

theorem Streaming.fifo {a b : SocketHandle} (valid : table.Valid)
    (streaming : Streaming a b table record) : Fifo a b table record := by
  rcases streaming with ⟨index, flowing⟩ | ⟨lost, lostRights, severed⟩
  · have only : ∀ other, table.index b = .ok other → other = index := fun other named =>
      Except.ok.inj (named.symm.trans flowing.endpoint.named)
    refine ⟨⟨_, flowing.bytes.symm⟩, ?_, ?_⟩
    · intro other named
      rw [only other named]
      exact flowing.bytes
    · intro other named operation notA notB
      rw [only other named]
      exact flowing.frame valid notA notB
  · exact ⟨⟨lost, severed.bytes.symm⟩,
      fun other named => absurd named (severed.retired.index_ne other),
      fun other named => absurd named (severed.retired.index_ne other)⟩

/-- From the moment two sockets are peers on, both directions between them are
FIFO byte streams, whatever operations follow. -/
theorem local_sockets_fifo (SOCKETS BACKLOG BYTES : Nat) (ops later : List Operation)
    (a b : SocketHandle) (peers : (reached SOCKETS BACKLOG BYTES ops).peer a = .ok b) :
    Fifo a b (reached SOCKETS BACKLOG BYTES (ops ++ later))
        (history SOCKETS BACKLOG BYTES (ops ++ later)) ∧
      Fifo b a (reached SOCKETS BACKLOG BYTES (ops ++ later))
        (history SOCKETS BACKLOG BYTES (ops ++ later)) := by
  obtain ⟨forth, back⟩ := flowing_of_peer peers
  exact ⟨(streaming_later (.inl forth)).fifo (reached_valid _),
    (streaming_later (.inl back)).fifo (reached_valid _)⟩

theorem local_sockets_fifo_connected : (reached 3 1 4 connectOps).peer ⟨1, 1⟩ = .ok ⟨2, 1⟩ ∧
      Fifo ⟨1, 1⟩ ⟨2, 1⟩ (reached 3 1 4 (connectOps ++ [.send ⟨1, 1⟩ [1, 2], .recv ⟨2, 1⟩ 1]))
        (history 3 1 4 (connectOps ++ [.send ⟨1, 1⟩ [1, 2], .recv ⟨2, 1⟩ 1])) :=
  have peers : (reached 3 1 4 connectOps).peer ⟨1, 1⟩ = .ok ⟨2, 1⟩ := by rfl
  ⟨peers, (local_sockets_fifo 3 1 4 connectOps _ ⟨1, 1⟩ ⟨2, 1⟩ peers).1⟩

/-! ## Rights objects -/

theorem severed_later {a b : SocketHandle} {lost : List (BitVec 8)}
    {lostRights : List (Nat × AncillaryRights)}
    (start : Severed a b lost lostRights (reached SOCKETS BACKLOG BYTES ops)
      (history SOCKETS BACKLOG BYTES ops)) :
    Severed a b lost lostRights (reached SOCKETS BACKLOG BYTES (ops ++ later))
      (history SOCKETS BACKLOG BYTES (ops ++ later)) := by
  rw [reached_append, history_append]
  have along := Trace.holds_always
    (fun table record => table.Valid ∧ Severed a b lost lostRights table record)
    (fun operation holds => ⟨holds.1.step operation,
      holds.2.step holds.1 (holds.1.step_transition operation)⟩) ⟨reached_valid ops, start⟩ later
  exact along.2

/-- The rights objects accepted from `a` are those returned to `b`, in order and
each at the start of its own batch, followed by the one that `b` still holds. -/
def RightsAccounted (a b : SocketHandle) (table : LocalSocketTable SOCKETS BACKLOG BYTES)
    (record : List (Event SOCKETS BACKLOG BYTES)) : Prop :=
  ∀ index, table.index b = .ok index → rightsAccepted a record =
    rightsReturned b record ++ pendingRights (table.slot index) (delivered b record).length

theorem Streaming.rights {a b : SocketHandle} (streaming : Streaming a b table record) :
    RightsAccounted a b table record := by
  intro index named
  rcases streaming with ⟨other, flowing⟩ | ⟨lost, lostRights, severed⟩
  · have same : index = other := Except.ok.inj (named.symm.trans flowing.endpoint.named)
    subst same
    exact flowing.rights
  · exact absurd named (severed.retired.index_ne index)

/-- Closing `b` is the end of its stream: what it held then is all that is missing,
whatever follows. -/
theorem Streaming.rights_closed {a b : SocketHandle}
    (streaming : Streaming a b (reached SOCKETS BACKLOG BYTES ops)
      (history SOCKETS BACKLOG BYTES ops))
    (named : (reached SOCKETS BACKLOG BYTES ops).index b = .ok index) :
    rightsAccepted a (history SOCKETS BACKLOG BYTES (ops ++ .close b :: later)) =
      rightsReturned b (history SOCKETS BACKLOG BYTES (ops ++ .close b :: later)) ++
        pendingRights ((reached SOCKETS BACKLOG BYTES ops).slot index)
          (delivered b (history SOCKETS BACKLOG BYTES ops)).length := by
  have valid : (reached SOCKETS BACKLOG BYTES ops).Valid := reached_valid ops
  rcases streaming with ⟨other, flowing⟩ | ⟨lost, lostRights, severed⟩
  · have same : index = other := Except.ok.inj (named.symm.trans flowing.endpoint.named)
    subst same
    have closes : (reached SOCKETS BACKLOG BYTES ops).step (.close b) =
        ((reached SOCKETS BACKLOG BYTES ops).closed index, .ok .done) := by
      rw [step, close, named]
      dsimp only
      rw [hangUp_slot_generation]
      rfl
    have severed : Severed a b ((reached SOCKETS BACKLOG BYTES ops).slot index).receive.contents
        (pendingRights ((reached SOCKETS BACKLOG BYTES ops).slot index)
          (delivered b (history SOCKETS BACKLOG BYTES ops)).length)
        (reached SOCKETS BACKLOG BYTES (ops ++ [.close b]))
        (history SOCKETS BACKLOG BYTES (ops ++ [.close b])) := by
      rw [reached_append, history_append]
      change Severed a b _ _ ((reached SOCKETS BACKLOG BYTES ops).step (.close b)).1
        (_ ++ [Trace.event step (reached SOCKETS BACKLOG BYTES ops) (.close b)])
      rw [closes]
      exact flowing.close valid (silent_of_observations rfl rfl rfl rfl)
    have final := @severed_later _ _ _ _ later _ _ _ _ severed
    rw [List.append_assoc] at final
    exact final.rights
  · exact absurd named (severed.retired.index_ne index)

/-- A rights object that `send_with_rights` accepts goes to the peer of the moment.
As long as that is open, every object accepted on the stream was returned exactly
once, in order and at the start of its own batch, or is the one still held; after
the peer was closed the same holds with what it held at that moment. -/
theorem rights_delivered_once (SOCKETS BACKLOG BYTES : Nat) (ops later : List Operation)
    (a : SocketHandle) (input : List (BitVec 8)) (rights : AncillaryRights) (count : Nat)
    (success : ((reached SOCKETS BACKLOG BYTES ops).step (.sendWithRights a input rights)).2 =
      .ok (.count count)) : ∃ b, (reached SOCKETS BACKLOG BYTES ops).peer a = .ok b ∧
      RightsAccounted a b
        (reached SOCKETS BACKLOG BYTES (ops ++ .sendWithRights a input rights :: later))
        (history SOCKETS BACKLOG BYTES (ops ++ .sendWithRights a input rights :: later)) ∧
      ∀ before after, .sendWithRights a input rights :: later = before ++ .close b :: after →
        ∀ index, (reached SOCKETS BACKLOG BYTES (ops ++ before)).index b = .ok index →
          rightsAccepted a
              (history SOCKETS BACKLOG BYTES (ops ++ .sendWithRights a input rights :: later)) =
            rightsReturned b
              (history SOCKETS BACKLOG BYTES (ops ++ .sendWithRights a input rights :: later)) ++
            pendingRights ((reached SOCKETS BACKLOG BYTES (ops ++ before)).slot index)
              (delivered b (history SOCKETS BACKLOG BYTES (ops ++ before))).length := by
  have valid : (reached SOCKETS BACKLOG BYTES ops).Valid := reached_valid ops
  have moved := valid.step_transition (.sendWithRights a input rights)
  rw [success] at moved
  generalize ((reached SOCKETS BACKLOG BYTES ops).step (.sendWithRights a input rights)).1 = table'
    at moved
  have sending : ∃ index peer, (reached SOCKETS BACKLOG BYTES ops).Sends a index peer := by
    cases moved with
    | send sends plain => exact plain.elim nofun nofun
    | @sendWithRights _ _ _ index peer sends nonempty vacant drained whole =>
      exact ⟨index, peer, sends⟩
  obtain ⟨index, peer, sends⟩ := sending
  have peers := peer_of_linked valid sends.named sends.linked
  have start := (flowing_of_peer peers).1
  refine ⟨_, peers, (streaming_later (.inl start)).rights, ?_⟩
  intro before after split index named
  rw [split, ← List.append_assoc]
  exact (streaming_later (.inl start)).rights_closed named

/-- The client sends one byte with a rights object and reads it back at the server. -/
theorem rights_delivered_once_connected :
    ((reached 3 1 4 connectOps).step (.sendWithRights ⟨1, 1⟩ [7] ⟨5, 6⟩)).2 = .ok (.count 1) ∧
      ∃ b, (reached 3 1 4 connectOps).peer ⟨1, 1⟩ = .ok b ∧ RightsAccounted ⟨1, 1⟩ b
          (reached 3 1 4 (connectOps ++
            .sendWithRights ⟨1, 1⟩ [7] ⟨5, 6⟩ :: [.recvWithRights ⟨2, 1⟩ 1]))
          (history 3 1 4 (connectOps ++
            .sendWithRights ⟨1, 1⟩ [7] ⟨5, 6⟩ :: [.recvWithRights ⟨2, 1⟩ 1])) := by
  have success : ((reached 3 1 4 connectOps).step (.sendWithRights ⟨1, 1⟩ [7] ⟨5, 6⟩)).2 =
      .ok (.count 1) := by rfl
  obtain ⟨b, peers, accounted, -⟩ := rights_delivered_once 3 1 4 connectOps
    [.recvWithRights ⟨2, 1⟩ 1] ⟨1, 1⟩ [7] ⟨5, 6⟩ 1 success
  exact ⟨success, b, peers, accounted⟩

/-- The server accepts, is sent a rights object and is closed. -/
def droppedOps : List Operation :=
  connectOps ++ [.accept ⟨0, 1⟩, .sendWithRights ⟨1, 1⟩ [7] ⟨5, 6⟩, .close ⟨2, 1⟩]

/-- The accepted object is then neither returned nor held by any slot. -/
theorem rights_dropped_by_close : rightsAccepted ⟨1, 1⟩ (history 3 1 4 droppedOps) = [(0, ⟨5, 6⟩)] ∧
      (∀ e ∈ history 3 1 4 droppedOps, rightsReceived e.operation e.reply = none) ∧
      ∀ index, ((reached 3 1 4 droppedOps).slot index).rights = none := by
  refine ⟨by rfl, ?_, by decide⟩
  decide

end SlopOS.Ipc
