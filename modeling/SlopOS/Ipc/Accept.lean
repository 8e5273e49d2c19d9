import SlopOS.Ipc.Ownership

/-!
# Accepted connections

`connections` lists, in order, the client and the server endpoint of every
`connect` that reached a listener, and `accepts` the handles that `accept` returned
for it.  A backlog entry is a bare slot index, so what `accept` returns is right as
long as the slot still holds the endpoint that was queued.  `Backlogs` is kept by
every operation except the close of an endpoint that waits in a backlog; no handle
of such an endpoint is given out other than by `peer`.
-/

namespace SlopOS.Ipc

open LocalSocketTable List

variable {SOCKETS BACKLOG BYTES : Nat} {table : LocalSocketTable SOCKETS BACKLOG BYTES}
  {index : Fin SOCKETS}

/-! ## Histories of a listener -/

/-- The listener that a `connect` to `path` reaches. -/
def LocalSocketTable.listenerAt (table : LocalSocketTable SOCKETS BACKLOG BYTES)
    (path : List (BitVec 8)) : Option (Fin SOCKETS) :=
  table.position fun _ slot => slot.state = .listening && slot.pathIs path

section

variable (listener : SocketHandle)

/-- The client and the server endpoint of a connection to `listener`. -/
def connection (e : Event SOCKETS BACKLOG BYTES) : Option (SocketHandle × SocketHandle) :=
  match e.operation, e.reply with
  | .connect client path, .ok _ =>
      if (e.before.listenerAt path).map e.before.handleOf = some listener then
        match e.after.peer client with
        | .ok server => some (client, server)
        | .error _ => none
      else none
  | _, _ => none

def connections (record : List (Event SOCKETS BACKLOG BYTES)) :
    List (SocketHandle × SocketHandle) :=
  record.filterMap (connection listener)

/-- The handle that an `accept` on `listener` returned. -/
def acceptedHandle (e : Event SOCKETS BACKLOG BYTES) : Option SocketHandle :=
  match e.operation, e.reply with
  | .accept socket, .ok (.handle server) => if socket = listener then some server else none
  | _, _ => none

def accepts (record : List (Event SOCKETS BACKLOG BYTES)) : List SocketHandle :=
  record.filterMap (acceptedHandle listener)

end

/-- The endpoints that wait in a backlog, oldest first. -/
def LocalSocketTable.waiting (table : LocalSocketTable SOCKETS BACKLOG BYTES)
    (listener : Fin SOCKETS) : List SocketHandle :=
  (table.slot listener).queue.filterMap (·.map table.handleOf)

section Histories

variable {record : List (Event SOCKETS BACKLOG BYTES)} {e : Event SOCKETS BACKLOG BYTES}
  {listener : SocketHandle}

theorem connections_snoc : connections listener (record ++ [e]) =
    connections listener record ++ (connection listener e).toList :=
  Trace.filterMap_snoc ..

theorem accepts_snoc : accepts listener (record ++ [e]) =
    accepts listener record ++ (acceptedHandle listener e).toList :=
  Trace.filterMap_snoc ..

theorem listenerAt_eq (valid : table.Valid) {path : List (BitVec 8)}
    (listening : (table.slot index).state = .listening) (found : (table.slot index).path = path) :
    table.listenerAt path = some index := by
  have named : (table.slot index).named = true := by
    rw [SocketSlot.named, listening]
    rfl
  cases result : table.listenerAt path with
  | none =>
    have missing := position_eq_none result index
    rw [listening, SocketSlot.pathIs, found, decide_eq_true rfl, decide_eq_true rfl] at missing
    cases missing
  | some other =>
    obtain ⟨otherListening, otherPath⟩ := Bool.and_eq_true_iff.mp (position_eq_some result)
    have otherNamed : (table.slot other).named = true := by
      rw [SocketSlot.named, of_decide_eq_true otherListening]
      rfl
    have samePath := (of_decide_eq_true otherPath).trans found.symm
    rw [valid.paths other index otherNamed named samePath]

end Histories

/-! ## The invariant -/

/-- The slot of `b` holds the endpoint that was connected to `a`, or `b` was closed. -/
def Paired (a b : SocketHandle) (table : LocalSocketTable SOCKETS BACKLOG BYTES) : Prop :=
  table.Retired b ∨ ∃ index, Endpoint a b index table

structure Backlogs (table : LocalSocketTable SOCKETS BACKLOG BYTES)
    (record : List (Event SOCKETS BACKLOG BYTES)) : Prop where
  valid : table.Valid
  /-- What waits in a backlog is in use. -/
  inUse : ∀ index, table.Queued index → (table.slot index).state ≠ .free
  /-- The accepted endpoints followed by the waiting ones are those that connected. -/
  pending : ∀ index, (table.slot index).state ≠ .free →
    (connections (table.handleOf index) record).map Prod.snd =
      accepts (table.handleOf index) record ++ table.waiting index
  /-- Of a handle that was not given out yet there is no history. -/
  fresh : ∀ handle index, handle.index = index.val →
    (table.slot index).generation < handle.generation →
    connections handle record = [] ∧ accepts handle record = []
  ordered : ∀ handle, accepts handle record <+: (connections handle record).map Prod.snd
  distinct : ∀ handle, ((connections handle record).map Prod.snd).Nodup
  paired : ∀ handle, ∀ pair ∈ connections handle record, Paired pair.1 pair.2 table

/-- The operation does not close an endpoint that waits in a backlog. -/
def LocalSocketTable.sparesPending (table : LocalSocketTable SOCKETS BACKLOG BYTES) :
    Operation → Bool
  | .close socket =>
      match table.index socket with
      | .ok index => (List.finRange SOCKETS).all fun listener =>
          !((table.slot listener).state = .listening &&
            (table.slot listener).queue.contains (some index))
      | .error _ => true
  | _ => true

theorem not_queued_of_spares {socket : SocketHandle} (named : table.index socket = .ok index)
    (spares : table.sparesPending (.close socket) = true) : ¬ table.Queued index := by
  intro ⟨listener, listening, member⟩
  rw [sparesPending, named] at spares
  have clear := all_eq_true.mp spares listener (mem_finRange listener)
  rw [decide_eq_true listening, contains_iff_mem.mpr member] at clear
  cases clear

/-! ## One operation -/

section Steps

variable {table' : LocalSocketTable SOCKETS BACKLOG BYTES}
  {record : List (Event SOCKETS BACKLOG BYTES)} {e : Event SOCKETS BACKLOG BYTES}

/-- Only a listener has anything in its backlog. -/
theorem queued_of_mem (valid : table.Valid) {listener : Fin SOCKETS}
    (member : some index ∈ (table.slot listener).queue) : table.Queued index := by
  refine ⟨listener, ?_, member⟩
  by_contra silent
  rw [SocketSlot.queue, (valid.slots listener).backlog silent] at member
  cases member

/-- A backlog names the endpoints that it named before, for they are in use. -/
theorem Backlogs.waiting_eq (backlogs : Backlogs table record)
    (shape : Shape table e.operation e.reply table') (index : Fin SOCKETS) :
    (table.slot index).queue.filterMap (·.map table'.handleOf) = table.waiting index := by
  refine filterMap_congr fun entry member => ?_
  cases entry with
  | none => rfl
  | some queued =>
    have used := backlogs.inUse queued (queued_of_mem backlogs.valid member)
    rw [Option.map_some, Option.map_some, shape.handle_kept backlogs.valid used]

theorem Paired.step (valid : table.Valid) (shape : Shape table e.operation e.reply table')
    {a b : SocketHandle} (paired : Paired a b table) : Paired a b table' := by
  rcases paired with gone | ⟨index, endpoint⟩
  · exact .inl (shape.retired valid gone)
  rcases shape.endpoint valid endpoint with still | ⟨-, -, closed⟩
  · exact .inr ⟨index, still⟩
  · left
    rw [closed, eq_handleOf endpoint.named]
    exact retired_closed index

/-- A handle that is too new afterwards was too new before. -/
theorem Shape.fresh (valid : table.Valid) (shape : Shape table e.operation e.reply table')
    {generation : Nat} (newer : (table'.slot index).generation < generation) :
    (table.slot index).generation < generation := by
  rcases shape.advances valid index with less | ⟨same, -⟩
  · exact less.trans newer
  · rwa [same] at newer

theorem histories_of_quiet (quiet : structural e.operation e.reply = false)
    (handle : SocketHandle) : connection handle e = none ∧ acceptedHandle handle e = none := by
  obtain ⟨before, operation, reply, after⟩ := e
  cases reply with
  | error error => cases operation <;> exact ⟨rfl, rfl⟩
  | ok reply =>
    cases operation with
    | connect | accept => cases quiet
    | _ => exact ⟨rfl, rfl⟩

/-- A server handle of the history is not newer than its slot. -/
theorem Paired.generation_le {a b : SocketHandle} (paired : Paired a b table)
    (sameIndex : b.index = index.val) : b.generation ≤ (table.slot index).generation := by
  rcases paired with ⟨other, otherIndex, old⟩ | ⟨other, endpoint⟩
  · have same : index = other := Fin.ext (sameIndex.symm.trans otherIndex)
    subst same
    rcases old with less | ⟨equal, -⟩
    · exact less.le
    · exact equal.le
  · obtain ⟨rfl, -⟩ := index_eq_ok.mp endpoint.named
    have same : index = other := Fin.ext sameIndex.symm
    rw [same]

/-- A connection is recorded for its listener alone. -/
theorem connection_connect (valid : table.Valid) (valid' : table'.Valid) {socket : SocketHandle}
    {path : List (BitVec 8)} {client listener server : Fin SOCKETS}
    (named : table.index socket = .ok client) (listening : (table.slot listener).state = .listening)
    (found : (table.slot listener).path = path) (joined : Joined table table' client server)
    (handle : SocketHandle) : connection handle ⟨table, .connect socket path, .ok .done, table'⟩ =
      if table.handleOf listener = handle then some (socket, table'.handleOf server) else none := by
  have clientNamed : table'.index socket = .ok client := by
    rw [eq_handleOf named]
    exact index_eq_ok.mpr (by rw [joined.atClient]; exact ⟨rfl, nofun⟩)
  unfold connection
  dsimp only
  rw [listenerAt_eq valid listening found, Option.map_some,
    peer_of_linked valid' clientNamed (by rw [joined.atClient])]
  simp only [Option.some.injEq]

section Backlog

variable (valid : table.Valid) (shape : Shape table e.operation e.reply table')
include valid shape

/-- What waits afterwards waited before, or it is a new endpoint. -/
theorem Shape.queued_back (waits : table'.Queued index) :
    table.Queued index ∨ (table'.slot index).state ≠ .free := by
  obtain ⟨listener, listening, member⟩ := waits
  cases shape.slotMove valid listener with
  | kept same =>
    rw [same] at member
    exact .inl (queued_of_mem valid member)
  | updated update =>
    rw [update.queue] at member
    exact .inl (queued_of_mem valid member)
  | created _ _ _ changed =>
    rw [changed] at listening
    cases listening
  | client joined =>
    rw [joined.atClient] at listening
    cases listening
  | server joined =>
    rw [joined.atServer] at listening
    cases listening
  | enqueued joined _ room changed =>
    rw [changed, SocketSlot.queue_enqueued (valid.slots listener) room] at member
    rcases mem_append.mp member with old | new
    · exact .inl (queued_of_mem valid old)
    · cases mem_singleton.mp new
      exact .inr (by rw [joined.atServer]; exact nofun)
  | dequeued _ waiting _ _ _ changed =>
    rw [changed] at member
    have old : some index ∈ (table.slot listener).queue := by
      rw [SocketSlot.queue_eq_cons (valid.slots listener) waiting]
      exact mem_cons_of_mem _ member
    exact .inl (queued_of_mem valid old)
  | hungUp _ _ changed =>
    rw [changed] at member
    exact .inl (queued_of_mem valid member)
  | closed _ _ whole =>
    rw [whole, slot_closed_self] at listening
    cases listening

variable (before : e.before = table) (after : e.after = table') (valid' : table'.Valid)
include before after valid'

/-- What the event adds to the histories of a socket is what its backlog takes or gives. -/
theorem Shape.backlog_cases (used : (table.slot index).state ≠ .free)
    (inUse : (table'.slot index).state ≠ .free) : (connection (table.handleOf index) e = none ∧
        acceptedHandle (table.handleOf index) e = none ∧
        (table'.slot index).queue = (table.slot index).queue) ∨
      (∃ client server, connection (table.handleOf index) e =
          some (client, table'.handleOf server) ∧ acceptedHandle (table.handleOf index) e = none ∧
        (table'.slot index).queue = (table.slot index).queue ++ [some server]) ∨
      ∃ server, connection (table.handleOf index) e = none ∧
        acceptedHandle (table.handleOf index) e = some (table'.handleOf server) ∧
        (table.slot index).queue = some server :: (table'.slot index).queue := by
  obtain ⟨table, operation, reply, table'⟩ := e
  cases before
  cases after
  dsimp only at shape ⊢
  cases shape with
  | same quiet =>
    exact .inl ⟨(histories_of_quiet quiet _).1, (histories_of_quiet quiet _).2, rfl⟩
  | update update quiet =>
    exact .inl ⟨(histories_of_quiet quiet _).1, (histories_of_quiet quiet _).2,
      setSlot_field SocketSlot.queue update.queue index⟩
  | @socket fresh free =>
    have other : index ≠ fresh := fun same => used (same ▸ free)
    exact .inl ⟨rfl, rfl, by rw [slot_setSlot_ne _ other]⟩
  | @connect socket path client listener server named created listening found room free =>
    have roles := roles_of_states created listening free
    rw [connection_connect valid valid' named listening found
      ⟨created, free, slot_link_client roles, slot_link_server roles⟩]
    by_cases isListener : index = listener
    · subst isListener
      rw [if_pos rfl, slot_link_listener roles, SocketSlot.queue_enqueued (valid.slots index) room]
      exact .inr (.inl ⟨socket, server, rfl, rfl, rfl⟩)
    · rw [if_neg fun same => isListener (handleOf_injective same).symm]
      refine .inl ⟨rfl, rfl, ?_⟩
      by_cases isClient : index = client
      · rw [isClient, slot_link_client roles]
        rfl
      · rw [slot_link_other isClient isListener fun same => used (same ▸ free)]
  | @accept listener accepting server named listening waiting oldest =>
    have kept : (table.setSlot accepting (dequeued (table.slot accepting))).handleOf server =
        table.handleOf server :=
      congrArg (SocketHandle.mk server.val) (setSlot_field (·.generation) (by rfl) server)
    rw [eq_handleOf named]
    by_cases here : index = accepting
    · subst here
      rw [slot_setSlot_self, SocketSlot.queue_eq_cons (valid.slots index) waiting, oldest]
      exact .inr (.inr ⟨server, rfl, (if_pos rfl).trans (congrArg some kept.symm), rfl⟩)
    · rw [slot_setSlot_ne _ here]
      exact .inl ⟨rfl, if_neg fun same => here (handleOf_injective same).symm, rfl⟩
  | @close socket closed named =>
    have other : index ≠ closed := fun same => by
      rw [same] at inUse
      exact inUse (congrArg SocketSlot.state (slot_closed_self closed))
    refine .inl ⟨rfl, rfl, ?_⟩
    change ((table.closed closed).slot index).queue = _
    rcases slot_closed_cases valid other with ⟨unchanged, -⟩ | ⟨-, changed⟩
    · rw [unchanged]
    · rw [changed]
      rfl

/-- Only a listener gets a connection, and its endpoint is new. -/
theorem Shape.connection_some {handle : SocketHandle} {pair : SocketHandle × SocketHandle}
    (found : connection handle e = some pair) :
    (∃ listener, handle = table.handleOf listener ∧ (table.slot listener).state = .listening) ∧
      Paired pair.1 pair.2 table' ∧ ∃ server : Fin SOCKETS, pair.2.index = server.val ∧
        (table.slot server).generation < pair.2.generation := by
  obtain ⟨table, operation, reply, table'⟩ := e
  cases before
  cases after
  dsimp only at shape found
  cases shape with
  | same quiet | update update quiet => cases (histories_of_quiet quiet handle).1.symm.trans found
  | socket | accept | close => cases found
  | @connect socket path client listener server named created listening samePath room free =>
    have roles := roles_of_states created listening free
    have joined : Joined table (table.link client listener server _) client server :=
      ⟨created, free, slot_link_client roles, slot_link_server roles⟩
    rw [connection_connect valid valid' named listening samePath joined] at found
    split at found
    · next same =>
      cases found
      refine ⟨⟨listener, same.symm, listening⟩, .inr ⟨server, ?_⟩, server, rfl, ?_⟩
      · have endpoint := endpoint_of_linked valid' (by rw [joined.atClient])
        rw [handleOf, joined.atClient] at endpoint
        rw [eq_handleOf named]
        exact endpoint
      · rw [handleOf, joined.atServer]
        exact Nat.lt_succ_self _
    · cases found

omit valid before after valid'

theorem Shape.accepted_some {handle server : SocketHandle}
    (found : acceptedHandle handle e = some server) :
    ∃ listener, handle = table.handleOf listener ∧ (table.slot listener).state = .listening := by
  obtain ⟨_, operation, reply, _⟩ := e
  cases shape with
  | same quiet | update update quiet => cases (histories_of_quiet quiet handle).2.symm.trans found
  | socket | connect | close => cases found
  | @accept listener accepting _ named listening waiting oldest =>
    unfold acceptedHandle at found
    dsimp only at found
    split at found
    · next same => exact ⟨accepting, by rw [← same, eq_handleOf named], listening⟩
    · cases found

end Backlog

theorem Backlogs.step (backlogs : Backlogs table record) (valid : table'.Valid)
    (before : e.before = table) (after : e.after = table')
    (shape : Shape table e.operation e.reply table')
    (spares : table.sparesPending e.operation = true) : Backlogs table' (record ++ [e]) := by
  have recorded {handle pair} (found : connection handle e = some pair) :=
    shape.connection_some backlogs.valid before after valid found
  have named {handle} (some_ : connection handle e ≠ none ∨ acceptedHandle handle e ≠ none) :
      ∃ listener, handle = table.handleOf listener ∧
        (table.slot listener).state = .listening := by
    rcases some_ with some_ | some_
    · obtain ⟨pair, found⟩ := Option.ne_none_iff_exists'.mp some_
      exact (recorded found).1
    · obtain ⟨server, found⟩ := Option.ne_none_iff_exists'.mp some_
      exact shape.accepted_some found
  -- Nothing is recorded for a handle that was not given out yet.
  have unnamed {handle : SocketHandle} {index : Fin SOCKETS} (sameIndex : handle.index = index.val)
      (newer : (table.slot index).generation < handle.generation) :
      connections handle (record ++ [e]) = [] ∧ accepts handle (record ++ [e]) = [] := by
    have silent : ¬ (connection handle e ≠ none ∨ acceptedHandle handle e ≠ none) := fun some_ => by
      obtain ⟨listener, rfl, -⟩ := named some_
      rw [show listener = index from Fin.ext sameIndex] at newer
      exact lt_irrefl _ newer
    obtain ⟨noConnection, noAccept⟩ := by simpa only [not_or, not_not] using silent
    obtain ⟨noneConnected, noneAccepted⟩ := backlogs.fresh handle index sameIndex newer
    rw [connections_snoc, accepts_snoc, noConnection, noAccept, noneConnected, noneAccepted]
    exact ⟨rfl, rfl⟩
  have pending (index : Fin SOCKETS) (inUse : (table'.slot index).state ≠ .free) :
      (connections (table'.handleOf index) (record ++ [e])).map Prod.snd =
        accepts (table'.handleOf index) (record ++ [e]) ++ table'.waiting index := by
    by_cases free : (table.slot index).state = .free
    · obtain ⟨⟨newer, empty⟩, -⟩ := shape.born backlogs.valid free inUse
      obtain ⟨noneConnected, noneAccepted⟩ := @unnamed (table'.handleOf index) index rfl newer
      rw [noneConnected, noneAccepted, waiting, empty]
      rfl
    · rw [shape.handle_kept backlogs.valid free, connections_snoc, accepts_snoc, map_append,
        backlogs.pending index free, ← backlogs.waiting_eq shape index, waiting]
      rcases shape.backlog_cases backlogs.valid before after valid free inUse with
        ⟨noConnection, noAccept, queue⟩ | ⟨client, server, connected, noAccept, queue⟩ |
          ⟨server, noConnection, accepted, queue⟩
      · rw [noConnection, noAccept, queue]
        simp
      · rw [connected, noAccept, queue]
        simp
      · rw [noConnection, accepted, queue]
        simp
  refine ⟨valid, ?_, pending, ?_, ?_, ?_, ?_⟩
  · intro index waits
    rcases shape.queued_back backlogs.valid waits with queued | used
    · have used := backlogs.inUse index queued
      rcases shape.slot_kept backlogs.valid used with ⟨-, still⟩ | ⟨closing, -, -⟩
      · exact still
      · rw [closing] at spares
        exact absurd queued (not_queued_of_spares (index_handleOf used) spares)
    · exact used
  · intro handle index sameIndex newer
    exact unnamed sameIndex (shape.fresh backlogs.valid newer)
  · intro handle
    by_cases some_ : connection handle e ≠ none ∨ acceptedHandle handle e ≠ none
    · obtain ⟨listener, rfl, listening⟩ := named some_
      have used : (table.slot listener).state ≠ .free := by
        rw [listening]
        decide
      have inUse : (table'.slot listener).state ≠ .free := by
        rcases shape.slot_kept backlogs.valid used with ⟨-, still⟩ | ⟨closing, -, -⟩
        · exact still
        · rw [connection, acceptedHandle, closing] at some_
          exact absurd some_ (by simp)
      have order := pending listener inUse
      rw [shape.handle_kept backlogs.valid used] at order
      rw [order]
      exact prefix_append _ _
    · obtain ⟨noConnection, noAccept⟩ := by simpa only [not_or, not_not] using some_
      rw [connections_snoc, accepts_snoc, noConnection, noAccept]
      simpa using backlogs.ordered handle
  · intro handle
    rw [connections_snoc, map_append]
    cases found : connection handle e with
    | none => simpa using backlogs.distinct handle
    | some pair =>
      obtain ⟨-, -, server, sameIndex, newer⟩ := recorded found
      refine nodup_append.mpr ⟨backlogs.distinct handle, pairwise_singleton _ _, ?_⟩
      rintro _ member _ isNew rfl
      obtain ⟨old, inHistory, same⟩ := mem_map.mp member
      rw [← mem_singleton.mp isNew, ← same] at sameIndex newer
      exact Nat.not_lt_of_le ((backlogs.paired handle old inHistory).generation_le sameIndex) newer
  · intro handle pair member
    rw [connections_snoc] at member
    rcases mem_append.mp member with old | new
    · exact (backlogs.paired handle pair old).step backlogs.valid shape
    · exact (recorded (Option.mem_toList.mp new)).2.1

end Steps

/-! ## Runs that close no pending endpoint -/

theorem backlogs_new : Backlogs (new : LocalSocketTable SOCKETS BACKLOG BYTES) [] := by
  constructor
  · exact new_valid
  · intro index waits
    obtain ⟨listener, listening, -⟩ := waits
    rw [slot_new] at listening
    cases listening
  · intro index used
    rw [slot_new] at used
    exact absurd rfl used
  · exact fun _ _ _ _ => ⟨rfl, rfl⟩
  · exact fun _ => prefix_refl _
  · exact fun _ => nodup_nil
  · intro handle pair member
    cases member

theorem reached_backlogs {ops : List Operation} (spares : Trace.Admits step
      (fun (table : LocalSocketTable SOCKETS BACKLOG BYTES) operation =>
        table.sparesPending operation = true) new ops) :
    Backlogs (reached SOCKETS BACKLOG BYTES ops) (history SOCKETS BACKLOG BYTES ops) :=
  Trace.holds_along Backlogs
    (fun operation backlogs allowed => backlogs.step (backlogs.valid.step operation) rfl rfl
      (backlogs.valid.step_transition operation).shape allowed) backlogs_new spares

/-- What an accept returns is the endpoint of the oldest connection not yet accepted. -/
theorem Backlogs.next {record : List (Event SOCKETS BACKLOG BYTES)}
    (backlogs : Backlogs table record) {listener server : SocketHandle}
    (returned : (table.step (.accept listener)).2 = .ok (.handle server)) : ∃ client index,
      (connections listener record)[(accepts listener record).length]? = some (client, server) ∧
        Endpoint client server index table := by
  have shape := (backlogs.valid.step_transition (.accept listener)).shape
  rw [returned] at shape
  generalize (table.step (.accept listener)).1 = table' at shape
  cases shape with
  | same quiet => cases quiet
  | update update quiet => cases quiet
  | @accept _ accepting oldestSlot named listening nonempty oldest =>
    have used : (table.slot accepting).state ≠ .free := by
      rw [listening]
      decide
    have order := backlogs.pending accepting used
    rw [← eq_handleOf named, waiting, SocketSlot.queue_eq_cons (backlogs.valid.slots accepting)
      nonempty, oldest] at order
    have entry : ((connections listener record).map Prod.snd)[(accepts listener record).length]? =
        some (table.handleOf oldestSlot) := by
      rw [order, getElem?_append_right (le_refl _), Nat.sub_self]
      rfl
    rw [getElem?_map, Option.map_eq_some_iff] at entry
    obtain ⟨⟨client, endpoint⟩, found, same⟩ := entry
    subst same
    have queued : some oldestSlot ∈ (table.slot accepting).queue := by
      rw [SocketSlot.queue_eq_cons (backlogs.valid.slots accepting) nonempty, oldest]
      exact mem_cons_self
    have inUse := index_handleOf (backlogs.inUse oldestSlot (queued_of_mem backlogs.valid queued))
    rcases backlogs.paired listener _ (mem_of_getElem? found) with gone | ⟨index, endpoint⟩
    · exact absurd inUse (gone.index_ne _)
    · exact ⟨client, index, found, endpoint⟩

/-- In every run that closes no endpoint still waiting in a backlog, and for every
listener: what its accepts returned is an initial part of the endpoints that its
connects created, in that order and without repetition, and the rest waits in its
backlog.  The next accept returns the endpoint of the oldest connection left, still
in the slot where it was created, and connected to its client unless the client was
closed. -/
theorem accept_in_connect_order (SOCKETS BACKLOG BYTES : Nat) (ops : List Operation)
    (spares : Trace.Admits LocalSocketTable.step
      (fun (table : LocalSocketTable SOCKETS BACKLOG BYTES) operation =>
        table.sparesPending operation = true) new ops) (listener : SocketHandle) :
    accepts listener (history SOCKETS BACKLOG BYTES ops) <+:
        (connections listener (history SOCKETS BACKLOG BYTES ops)).map Prod.snd ∧
      ((connections listener (history SOCKETS BACKLOG BYTES ops)).map Prod.snd).Nodup ∧
      (∀ index, (reached SOCKETS BACKLOG BYTES ops).index listener = .ok index →
        (connections listener (history SOCKETS BACKLOG BYTES ops)).map Prod.snd =
          accepts listener (history SOCKETS BACKLOG BYTES ops) ++
            (reached SOCKETS BACKLOG BYTES ops).waiting index) ∧
      ∀ server, ((reached SOCKETS BACKLOG BYTES ops).step (.accept listener)).2 =
          .ok (.handle server) → ∃ client index,
          (connections listener (history SOCKETS BACKLOG BYTES ops))[
              (accepts listener (history SOCKETS BACKLOG BYTES ops)).length]? =
            some (client, server) ∧
          Endpoint client server index (reached SOCKETS BACKLOG BYTES ops) := by
  have backlogs := reached_backlogs spares
  refine ⟨backlogs.ordered listener, backlogs.distinct listener, ?_, fun server => backlogs.next⟩
  intro index named
  have order := backlogs.pending index (index_eq_ok.mp named).2
  rwa [← eq_handleOf named] at order

theorem accept_in_connect_order_connected :
    ((reached 3 1 4 connectOps).step (.accept ⟨0, 1⟩)).2 = .ok (.handle ⟨2, 1⟩) ∧ ∃ client index,
        (connections ⟨0, 1⟩ (history 3 1 4 connectOps))[
          (accepts ⟨0, 1⟩ (history 3 1 4 connectOps)).length]? = some (client, ⟨2, 1⟩) ∧
        Endpoint client ⟨2, 1⟩ index (reached 3 1 4 connectOps) := by
  have spares : Trace.Admits step
      (fun (table : LocalSocketTable 3 1 4) operation =>
        table.sparesPending operation = true) new connectOps := by
    unfold Trace.Admits
    decide
  have returned : ((reached 3 1 4 connectOps).step (.accept ⟨0, 1⟩)).2 =
      .ok (.handle ⟨2, 1⟩) := by decide
  obtain ⟨-, -, -, next⟩ := accept_in_connect_order 3 1 4 connectOps spares ⟨0, 1⟩
  exact ⟨returned, next _ returned⟩

/-- The client leaves before it is accepted. -/
def abandonedOps : List Operation :=
  connectOps ++ [.close ⟨1, 1⟩]

/-- The pending endpoint is closed by the handle that `peer` gives, and its slot is
handed out again. -/
def reusedOps : List Operation :=
  connectOps ++ [.peer ⟨1, 1⟩, .close ⟨2, 1⟩, .socket]

/-- The first accept returns an endpoint that has no peer, the second one the handle
that the last `socket` has returned. -/
theorem accept_after_close :
    (((reached 3 1 4 abandonedOps).step (.accept ⟨0, 1⟩)).2 = .ok (.handle ⟨2, 1⟩) ∧
        ((reached 3 1 4 abandonedOps).slot 2).peer = none) ∧
      ((reached 3 1 4 reusedOps).step (.accept ⟨0, 1⟩)).2 = .ok (.handle ⟨2, 2⟩) ∧
      ((reached 3 1 4 reusedOps).slot 2).state = .created := by
  decide

end SlopOS.Ipc
