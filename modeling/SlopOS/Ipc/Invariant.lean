import SlopOS.Ipc.Transition

/-!
# The invariant of the socket table

`Valid` collects what holds of every slot by itself with what ties slots together:
peer links are mutual, a connected slot without a peer has seen its peer close, and
no path is used twice.  Every transition keeps it, so it holds in every state that
operations lead to, whatever their arguments.
-/

namespace SlopOS.Ipc

open LocalSocketTable

variable {SOCKETS BACKLOG BYTES : Nat} {table table' : LocalSocketTable SOCKETS BACKLOG BYTES}
  {receive : ByteRing BYTES} {operation : Operation}

/-- Two slots that are each other's live peer. -/
structure LocalSocketTable.Linked (table : LocalSocketTable SOCKETS BACKLOG BYTES)
    (first second : Fin SOCKETS) : Prop where
  distinct : first ≠ second
  back : (table.slot second).peer = some first
  connectedFirst : (table.slot first).state = .connected
  connectedSecond : (table.slot second).state = .connected
  openFirst : (table.slot first).peerClosed = false
  openSecond : (table.slot second).peerClosed = false

structure LocalSocketTable.Valid (table : LocalSocketTable SOCKETS BACKLOG BYTES) : Prop where
  slots : ∀ index, (table.slot index).WellFormed
  usable : ∀ index, (table.slot index).state ≠ .free → Usable SOCKETS BACKLOG BYTES
  linked : ∀ first second, (table.slot first).peer = some second → table.Linked first second
  hungUp : ∀ index, (table.slot index).state = .connected → (table.slot index).peer = none →
    (table.slot index).peerClosed = true
  paths : ∀ first second, (table.slot first).named = true → (table.slot second).named = true →
    (table.slot first).path = (table.slot second).path → first = second

theorem new_valid : (new : LocalSocketTable SOCKETS BACKLOG BYTES).Valid where
  slots index := by
    rw [slot_new]
    exact SocketSlot.empty_wellFormed (by decide)
  usable index used := by
    rw [slot_new] at used
    exact absurd rfl used
  linked first second peer := by
    rw [slot_new] at peer
    cases peer
  hungUp index connected _ := by
    rw [slot_new] at connected
    cases connected
  paths first second named := by
    rw [slot_new] at named
    cases named

/-! ## Slots after an update of their own -/

namespace SocketSlot

variable {slot : SocketSlot SOCKETS BACKLOG BYTES}

section

variable (wf : slot.WellFormed)
include wf

/-- A connected slot may hold any ring and any rights object. -/
theorem WellFormed.stream (connected : slot.state = .connected) (ring : receive.WellFormed)
    (rights : Option AncillaryRights) :
    ({ slot with receive, rights } : SocketSlot _ _ _).WellFormed :=
  { wf with
    ring := ring
    idle := fun idle => absurd connected idle }

theorem WellFormed.clearRights : ({ slot with rights := none } : SocketSlot _ _ _).WellFormed :=
  { wf with
    idle := fun idle =>
      ⟨(wf.idle idle).1, rfl, (wf.idle idle).2.2.1, (wf.idle idle).2.2.2⟩ }

theorem WellFormed.bind (created : slot.state = .created) (path : List (BitVec 8)) :
    ({ slot with path, state := .bound } : SocketSlot _ _ _).WellFormed :=
  { wf with
    backlog := fun _ => wf.backlog (by rw [created]; decide)
    idle := fun _ => wf.idle (by rw [created]; decide)
    unnamed := fun unnamed => nomatch unnamed }

theorem WellFormed.listen (bound : slot.state = .bound) :
    ({ slot with state := .listening } : SocketSlot _ _ _).WellFormed :=
  { wf with
    backlog := fun silent => absurd rfl silent
    idle := fun _ => wf.idle (by rw [bound]; decide)
    unnamed := fun unnamed => nomatch unnamed }

/-- The oldest entry in front of what `accept` leaves. -/
theorem queue_eq_cons (waiting : slot.pendingLength ≠ 0) :
    slot.queue = slot.pending[slot.pendingHead]?.getD none :: (dequeued slot).queue := by
  have capacity := wf.pendingLength_le
  have inside := wf.pendingHead_lt (by omega)
  have split : slot.pendingLength = 1 + (slot.pendingLength - 1) := by omega
  have untouched : (dequeued slot).queue = RingBuffer.window none slot.pending
      ((slot.pendingHead + 1) % BACKLOG) (slot.pendingLength - 1) := by
    refine RingBuffer.window_setIfInBounds fun k within => ?_
    change k < slot.pendingLength - 1 at within
    exact RingBuffer.head_ne_later inside (by omega)
  rw [untouched, queue, split, RingBuffer.window_add, RingBuffer.window_succ,
    Nat.add_zero, Nat.mod_eq_of_lt inside, Nat.add_sub_cancel_left]
  rfl

theorem WellFormed.dequeued (waiting : slot.pendingLength ≠ 0) : (dequeued slot).WellFormed where
  ring := wf.ring
  pendingLength_le := le_trans (Nat.sub_le _ _) wf.pendingLength_le
  pendingHead_lt positive := Nat.mod_lt _ (Nat.pos_of_ne_zero positive)
  occupied cell inside := by
    have headInside := wf.pendingHead_lt (by omega)
    have capacity := wf.pendingLength_le
    change ((slot.pending.setIfInBounds slot.pendingHead none)[cell]?.getD none).isSome ↔
      ∃ k < slot.pendingLength - 1, cell = ((slot.pendingHead + 1) % BACKLOG + k) % BACKLOG
    by_cases head : slot.pendingHead = cell
    · -- The vacated cell lies outside the shorter window.
      subst head
      rw [Vector.getElem?_setIfInBounds_self_of_lt inside]
      refine ⟨fun present => absurd present Bool.false_ne_true, ?_⟩
      rintro ⟨k, within, same⟩
      exact absurd same (RingBuffer.head_ne_later inside (by omega))
    · rw [Vector.getElem?_setIfInBounds_ne head, wf.occupied cell inside]
      constructor
      · rintro ⟨k, within, same⟩
        have later : k ≠ 0 := by
          rintro rfl
          rw [Nat.add_zero, Nat.mod_eq_of_lt headInside] at same
          exact head same.symm
        refine ⟨k - 1, by omega, ?_⟩
        rw [Nat.mod_add_mod, same]
        congr 1
        omega
      · rintro ⟨k, within, same⟩
        refine ⟨k + 1, by omega, ?_⟩
        rw [same, Nat.mod_add_mod]
        congr 1
        omega
  backlog silent := by
    have empty := wf.backlog silent
    exact absurd empty waiting
  idle := wf.idle
  unnamed := wf.unnamed
  generation_lt := wf.generation_lt

end

/-- The listener after `server` was queued. -/
def enqueued (slot : SocketSlot SOCKETS BACKLOG BYTES) (server : Fin SOCKETS) :
    SocketSlot SOCKETS BACKLOG BYTES :=
  { slot with
    pending := slot.pending.setIfInBounds
      ((slot.pendingHead + slot.pendingLength) % BACKLOG) (some server)
    pendingLength := slot.pendingLength + 1 }

theorem queue_enqueued (wf : slot.WellFormed) (room : slot.pendingLength ≠ BACKLOG)
    (server : Fin SOCKETS) : (slot.enqueued server).queue = slot.queue ++ [some server] :=
  RingBuffer.window_push (lt_of_le_of_ne wf.pendingLength_le room)

theorem WellFormed.enqueued (wf : slot.WellFormed) (listening : slot.state = .listening)
    (room : slot.pendingLength ≠ BACKLOG) (server : Fin SOCKETS) :
    (slot.enqueued server).WellFormed where
  ring := wf.ring
  pendingLength_le := lt_of_le_of_ne wf.pendingLength_le room
  pendingHead_lt := wf.pendingHead_lt
  occupied cell inside := by
    change ((slot.pending.setIfInBounds ((slot.pendingHead + slot.pendingLength) % BACKLOG)
        (some server))[cell]?.getD none).isSome ↔
      ∃ k < slot.pendingLength + 1, cell = (slot.pendingHead + k) % BACKLOG
    by_cases tail : (slot.pendingHead + slot.pendingLength) % BACKLOG = cell
    · subst tail
      rw [Vector.getElem?_setIfInBounds_self_of_lt inside]
      exact ⟨fun _ => ⟨slot.pendingLength, Nat.lt_succ_self _, rfl⟩, fun _ => rfl⟩
    rw [Vector.getElem?_setIfInBounds_ne tail, wf.occupied cell inside]
    constructor
    · rintro ⟨k, within, same⟩
      exact ⟨k, by omega, same⟩
    rintro ⟨k, within, same⟩
    have earlier : k ≠ slot.pendingLength := by
      rintro rfl
      exact tail same.symm
    exact ⟨k, by omega, same⟩
  backlog silent := absurd listening silent
  idle := wf.idle
  unnamed := wf.unnamed
  generation_lt := wf.generation_lt

end SocketSlot

/-! ## Tables after an update -/

section Updates

variable {index : Fin SOCKETS}

/-- A slot may change in everything that no other slot depends on. -/
theorem LocalSocketTable.Valid.setSlot (valid : table.Valid)
    {slot : SocketSlot SOCKETS BACKLOG BYTES} (wf : slot.WellFormed)
    (usable : Usable SOCKETS BACKLOG BYTES) (samePeer : slot.peer = (table.slot index).peer)
    (sameClosed : slot.peerClosed = (table.slot index).peerClosed)
    (sameKind : slot.state = .connected ↔ (table.slot index).state = .connected)
    (unique : slot.named = true → ∀ other, other ≠ index → (table.slot other).named = true →
      (table.slot other).path ≠ slot.path) : (table.setSlot index slot).Valid := by
  have peers := setSlot_field (·.peer) samePeer
  have closed := setSlot_field (·.peerClosed) sameClosed
  have kinds (other : Fin SOCKETS) := iff_of_eq
    (setSlot_field (fun slot => slot.state = .connected) (propext sameKind) other)
  refine ⟨?_, fun _ _ => usable, ?_, ?_, ?_⟩
  · intro other
    rw [slot_setSlot]
    split
    · exact wf
    · exact valid.slots other
  · intro first second peer
    rw [peers] at peer
    obtain ⟨distinct, back, connectedFirst, connectedSecond, openFirst, openSecond⟩ :=
      valid.linked first second peer
    exact ⟨distinct, (peers second).trans back, (kinds first).mpr connectedFirst,
      (kinds second).mpr connectedSecond, (closed first).trans openFirst,
      (closed second).trans openSecond⟩
  · intro other connected alone
    rw [peers] at alone
    rw [closed]
    exact valid.hungUp other ((kinds other).mp connected) alone
  · intro first second namedFirst namedSecond same
    rw [slot_setSlot] at namedFirst same
    rw [slot_setSlot] at namedSecond same
    by_cases atFirst : first = index
    · rw [if_pos atFirst] at namedFirst same
      by_cases atSecond : second = index
      · exact atFirst.trans atSecond.symm
      · rw [if_neg atSecond] at namedSecond same
        exact absurd same.symm (unique namedFirst second atSecond namedSecond)
    · rw [if_neg atFirst] at namedFirst same
      by_cases atSecond : second = index
      · rw [if_pos atSecond] at namedSecond same
        exact absurd same (unique namedSecond first atFirst namedFirst)
      · rw [if_neg atSecond] at namedSecond same
        exact valid.paths first second namedFirst namedSecond same

/-- A path that stays with its slot stays unique. -/
theorem LocalSocketTable.Valid.unique (valid : table.Valid)
    {slot : SocketSlot SOCKETS BACKLOG BYTES} (samePath : slot.path = (table.slot index).path)
    (sameNamed : slot.named = (table.slot index).named) :
    slot.named = true → ∀ other, other ≠ index → (table.slot other).named = true →
      (table.slot other).path ≠ slot.path := by
  intro named other different otherNamed same
  rw [samePath] at same
  rw [sameNamed] at named
  exact different (valid.paths other index otherNamed named same)

/-- A slot in use may change in its stream and its backlog. -/
theorem LocalSocketTable.Valid.refresh (valid : table.Valid)
    (used : (table.slot index).state ≠ .free) {rights : Option AncillaryRights}
    {pending : Vector (Option (Fin SOCKETS)) BACKLOG} {pendingHead pendingLength : Nat}
    (wf : ({ table.slot index with receive, rights, pending, pendingHead, pendingLength } :
      SocketSlot SOCKETS BACKLOG BYTES).WellFormed) : (table.setSlot index
      { table.slot index with receive, rights, pending, pendingHead, pendingLength }).Valid :=
  valid.setSlot wf (valid.usable index used) rfl rfl Iff.rfl (valid.unique rfl rfl)

/-- Paths stay unique where no slot takes a new one. -/
theorem LocalSocketTable.Valid.paths_of_names (valid : table.Valid)
    (names : ∀ other, (table'.slot other).named = true → (table.slot other).named = true ∧
      (table'.slot other).path = (table.slot other).path) (first second : Fin SOCKETS)
    (namedFirst : (table'.slot first).named = true)
    (namedSecond : (table'.slot second).named = true)
    (same : (table'.slot first).path = (table'.slot second).path) : first = second := by
  obtain ⟨oldFirst, pathFirst⟩ := names first namedFirst
  obtain ⟨oldSecond, pathSecond⟩ := names second namedSecond
  rw [pathFirst, pathSecond] at same
  exact valid.paths first second oldFirst oldSecond same

/-- The three slots that `connect` writes are distinct. -/
structure Roles (client listener server : Fin SOCKETS) : Prop where
  clientListener : client ≠ listener
  serverClient : server ≠ client
  serverListener : server ≠ listener

theorem roles_of_states {client listener server : Fin SOCKETS}
    (created : (table.slot client).state = .created)
    (listening : (table.slot listener).state = .listening)
    (free : (table.slot server).state = .free) : Roles client listener server := by
  refine ⟨?_, ?_, ?_⟩
  · rintro rfl
    rw [created] at listening
    cases listening
  · rintro rfl
    rw [created] at free
    cases free
  · rintro rfl
    rw [listening] at free
    cases free

variable {client listener server : Fin SOCKETS} {generation : Nat} {other : Fin SOCKETS}

section

variable (roles : Roles client listener server)
include roles

theorem slot_link_server : (table.link client listener server generation).slot server =
      { SocketSlot.resetForAllocation generation with
        state := .connected, peer := some client } := by
  simp only [link, slot_setSlot_ne _ roles.serverListener, slot_setSlot_ne _ roles.serverClient,
    slot_setSlot_self]

theorem slot_link_client : (table.link client listener server generation).slot client =
      { table.slot client with state := .connected, peer := some server } := by
  simp only [link, slot_setSlot_ne _ roles.clientListener, slot_setSlot_self,
    slot_setSlot_ne _ roles.serverClient.symm]

theorem slot_link_listener : (table.link client listener server generation).slot listener =
      (table.slot listener).enqueued server := by
  simp only [link, slot_setSlot_self, slot_setSlot_ne _ roles.clientListener.symm,
    slot_setSlot_ne _ roles.serverListener.symm]
  rfl

end

theorem slot_link_other (notClient : other ≠ client) (notListener : other ≠ listener)
    (notServer : other ≠ server) :
    (table.link client listener server generation).slot other = table.slot other := by
  simp only [link, slot_setSlot_ne _ notClient, slot_setSlot_ne _ notListener,
    slot_setSlot_ne _ notServer]

/-- A slot that was already connected takes no part in a new connection. -/
theorem slot_link_connected (created : (table.slot client).state = .created)
    (listening : (table.slot listener).state = .listening)
    (free : (table.slot server).state = .free) (connected : (table.slot other).state = .connected) :
    (table.link client listener server generation).slot other = table.slot other := by
  refine slot_link_other ?_ ?_ ?_
  · rintro rfl
    rw [created] at connected
    cases connected
  · rintro rfl
    rw [listening] at connected
    cases connected
  · rintro rfl
    rw [free] at connected
    cases connected

theorem LocalSocketTable.Valid.link (valid : table.Valid)
    (created : (table.slot client).state = .created)
    (listening : (table.slot listener).state = .listening)
    (room : (table.slot listener).pendingLength ≠ BACKLOG)
    (free : (table.slot server).state = .free) (bounded : generation < 2 ^ 16) :
    (table.link client listener server generation).Valid := by
  have roles := roles_of_states created listening free
  have usable := valid.usable client (by rw [created]; decide)
  have clientWf := valid.slots client
  have atServer := @slot_link_server _ _ _ table _ _ _ generation roles
  have atClient := @slot_link_client _ _ _ table _ _ _ generation roles
  have atListener := @slot_link_listener _ _ _ table _ _ _ generation roles
  have split : ∀ other, other = server ∨ other = client ∨ other = listener ∨
      (table.link client listener server generation).slot other = table.slot other := by
    intro other
    by_cases isServer : other = server
    · exact .inl isServer
    by_cases isClient : other = client
    · exact .inr (.inl isClient)
    · by_cases isListener : other = listener
      · exact .inr (.inr (.inl isListener))
      · exact .inr (.inr (.inr (slot_link_other isClient isListener isServer)))
  have idle := clientWf.idle (by rw [created]; decide)
  have clientOpen : (table.slot client).peerClosed = false := idle.2.2.2
  refine ⟨?_, fun _ _ => usable, ?_, ?_, valid.paths_of_names ?_⟩
  · intro other
    rcases split other with rfl | rfl | rfl | same
    · rw [atServer]
      exact
        { SocketSlot.resetForAllocation_wellFormed bounded with
          backlog := fun _ => rfl
          idle := fun idle => absurd rfl idle
          unnamed := fun _ => rfl }
    · rw [atClient]
      exact
        { clientWf with
          backlog := fun _ => clientWf.backlog (by rw [created]; decide)
          idle := fun idle => absurd rfl idle
          unnamed := fun _ => clientWf.unnamed (by rw [SocketSlot.named, created]; rfl) }
    · rw [atListener]
      exact (valid.slots other).enqueued listening room server
    · rw [same]
      exact valid.slots other
  · intro first second peer
    rcases split first with rfl | rfl | rfl | same
    · rw [atServer] at peer
      cases peer
      exact ⟨roles.serverClient, by rw [atClient], by rw [atServer], by rw [atClient],
        by rw [atServer]; rfl, by rw [atClient]; exact clientOpen⟩
    · rw [atClient] at peer
      cases peer
      exact ⟨roles.serverClient.symm, by rw [atServer], by rw [atClient], by rw [atServer],
        by rw [atClient]; exact clientOpen, by rw [atServer]; rfl⟩
    · rw [atListener] at peer
      have alone := ((valid.slots first).idle (by rw [listening]; decide)).2.2.1
      exact absurd (peer.symm.trans alone) (by simp)
    · rw [same] at peer
      have linked := valid.linked first second peer
      have sameSecond := @slot_link_connected _ _ _ table _ _ _ generation _ created listening free
        linked.connectedSecond
      exact ⟨linked.distinct, by rw [sameSecond]; exact linked.back,
        by rw [same]; exact linked.connectedFirst, by rw [sameSecond]; exact linked.connectedSecond,
        by rw [same]; exact linked.openFirst, by rw [sameSecond]; exact linked.openSecond⟩
  · intro other connected alone
    rcases split other with rfl | rfl | rfl | same
    · rw [atServer] at alone
      cases alone
    · rw [atClient] at alone
      cases alone
    · rw [atListener] at connected
      exact absurd (connected.symm.trans listening) (by decide)
    · rw [same] at connected alone ⊢
      exact valid.hungUp other connected alone
  · intro other named
    rcases split other with rfl | rfl | rfl | same
    · rw [atServer] at named
      cases named
    · rw [atClient] at named
      cases named
    · rw [atListener] at named ⊢
      exact ⟨named, rfl⟩
    · rw [same] at named ⊢
      exact ⟨named, rfl⟩

/-! ### Closing -/

/-- The table after the slot at `index` was closed. -/
def LocalSocketTable.closed (table : LocalSocketTable SOCKETS BACKLOG BYTES)
    (index : Fin SOCKETS) : LocalSocketTable SOCKETS BACKLOG BYTES :=
  (table.hangUp (table.slot index).peer).setSlot index (.empty (table.slot index).generation)

theorem slot_closed_self (index : Fin SOCKETS) :
    (table.closed index).slot index = .empty (table.slot index).generation :=
  slot_setSlot_self ..

/-- The peer keeps its ring and its rights. -/
theorem slot_closed_peer (valid : table.Valid) {peer : Fin SOCKETS}
    (linked : (table.slot index).peer = some peer) : (table.closed index).slot peer =
      { table.slot peer with peer := none, peerClosed := true } := by
  have link := valid.linked index peer linked
  rw [closed, slot_setSlot_ne _ link.distinct.symm, linked, hangUp]
  rw [if_pos link.connectedSecond, slot_setSlot_self]

theorem slot_closed_other (different : other ≠ index)
    (unlinked : (table.slot index).peer ≠ some other) :
    (table.closed index).slot other = table.slot other := by
  rw [closed, slot_setSlot_ne _ different]
  unfold hangUp
  split
  · rfl
  next peer linked =>
  split
  · rw [slot_setSlot_ne]
    rintro rfl
    exact unlinked linked
  · rfl

/-- A slot other than the closed one is unchanged, or it was the closed one's peer. -/
theorem slot_closed_cases (valid : table.Valid) (different : other ≠ index) :
    (table.closed index).slot other = table.slot other ∧ (table.slot index).peer ≠ some other ∨
      (table.slot index).peer = some other ∧ (table.closed index).slot other =
        { table.slot other with peer := none, peerClosed := true } := by
  by_cases linked : (table.slot index).peer = some other
  · exact .inr ⟨linked, slot_closed_peer valid linked⟩
  · exact .inl ⟨slot_closed_other different linked, linked⟩

theorem LocalSocketTable.Valid.close (valid : table.Valid) (index : Fin SOCKETS)
    (used : (table.slot index).state ≠ .free) : (table.closed index).Valid := by
  have atIndex := @slot_closed_self _ _ _ table index
  refine ⟨?_, fun _ _ => valid.usable index used, ?_, ?_, valid.paths_of_names ?_⟩
  · intro other
    by_cases same : other = index
    · rw [same, atIndex]
      exact SocketSlot.empty_wellFormed (valid.slots index).generation_lt
    rcases slot_closed_cases valid same with ⟨unchanged, -⟩ | ⟨linked, changed⟩
    · rw [unchanged]
      exact valid.slots other
    · rw [changed]
      have connected := (valid.linked index other linked).connectedSecond
      exact { valid.slots other with idle := fun idle => absurd connected idle }
  · intro first second peer
    by_cases same : first = index
    · rw [same, atIndex] at peer
      cases peer
    rcases slot_closed_cases valid same with ⟨unchanged, notPeer⟩ | ⟨linked, changed⟩
    · rw [unchanged] at peer
      have link := valid.linked first second peer
      -- The other end is neither the closed slot nor its peer.
      have notIndex : second ≠ index := by
        rintro rfl
        exact notPeer link.back
      rcases slot_closed_cases valid notIndex with ⟨kept, -⟩ | ⟨linkedSecond, -⟩
      · exact ⟨link.distinct, by rw [kept]; exact link.back,
          by rw [unchanged]; exact link.connectedFirst, by rw [kept]; exact link.connectedSecond,
          by rw [unchanged]; exact link.openFirst, by rw [kept]; exact link.openSecond⟩
      · have back := (valid.linked index second linkedSecond).back
        exact absurd (Option.some.inj (link.back.symm.trans back)) same
    · rw [changed] at peer
      cases peer
  · intro other connected alone
    by_cases same : other = index
    · rw [same, atIndex] at connected
      cases connected
    rcases slot_closed_cases valid same with ⟨unchanged, -⟩ | ⟨-, changed⟩
    · rw [unchanged] at connected alone ⊢
      exact valid.hungUp other connected alone
    · rw [changed]
  · intro other named
    by_cases same : other = index
    · rw [same, atIndex] at named
      cases named
    rcases slot_closed_cases valid same with ⟨unchanged, -⟩ | ⟨-, changed⟩
    · rw [unchanged] at named ⊢
      exact ⟨named, rfl⟩
    · rw [changed] at named ⊢
      exact ⟨named, rfl⟩

end Updates

/-! ## Every transition keeps the invariant -/

theorem LocalSocketTable.Valid.transition {reply : Except SocketError Reply} (valid : table.Valid)
    (moved : Transition table operation reply table') : table'.Valid := by
  cases moved with
  | refused | pendingConnections | peer | readiness | recvNothing => exact valid
  | @socket index usable free bounded =>
    have idle := (valid.slots index).idle (by rw [free]; decide)
    refine valid.setSlot (SocketSlot.resetForAllocation_wellFormed bounded) usable
      idle.2.2.1.symm idle.2.2.2.symm ?_ (fun named => nomatch named)
    rw [free]
    exact ⟨fun created => (nomatch created), fun isFree => (nomatch isFree)⟩
  | @bind socket path index named created unused =>
    have used := (index_eq_ok.mp named).2
    refine valid.setSlot ((valid.slots index).bind created path) (valid.usable index used)
      rfl rfl ?_ (fun _ other _ otherNamed => unused other otherNamed)
    rw [created]
    exact ⟨fun bound => (nomatch bound), fun created => (nomatch created)⟩
  | @listen socket index named bound =>
    have used := (index_eq_ok.mp named).2
    refine valid.setSlot ((valid.slots index).listen bound) (valid.usable index used) rfl rfl ?_ ?_
    · rw [bound]
      exact ⟨fun listening => (nomatch listening), fun bound => (nomatch bound)⟩
    · refine valid.unique rfl ?_
      rw [SocketSlot.named, SocketSlot.named, bound]
      rfl
  | connect named created listening found room free bounded =>
    exact valid.link created listening room free bounded
  | @accept listener index server named listening waiting oldest =>
    exact valid.refresh (index_eq_ok.mp named).2 ((valid.slots index).dequeued waiting)
  | @send operation socket input index peer sends plain
  | @sendWithRights socket input rights index peer sends nonempty vacant drained whole =>
    have wf := valid.slots peer
    exact valid.refresh (by rw [sends.peerConnected]; decide)
      (wf.stream sends.peerConnected (wf.ring.push input) _)
  | @recv socket size index named connected vacant
  | @recvWithRights socket size index named connected some_ =>
    have wf := valid.slots index
    exact valid.refresh (index_eq_ok.mp named).2 (wf.stream connected (wf.ring.pop size) _)
  | @takeRights socket index named =>
    exact valid.refresh (index_eq_ok.mp named).2 (valid.slots index).clearRights
  | @close socket index named => exact valid.close index (index_eq_ok.mp named).2

theorem LocalSocketTable.Valid.step_transition (valid : table.Valid) (operation : Operation) :
    Transition table operation (table.step operation).2 (table.step operation).1 :=
  Ipc.step_transition (fun index => (valid.slots index).ring) valid.usable operation

theorem LocalSocketTable.Valid.step (valid : table.Valid) (operation : Operation) :
    (table.step operation).1.Valid :=
  valid.transition (valid.step_transition operation)

/-! ## Reachable tables -/

/-- The table after `ops` on a new one. -/
def reached (SOCKETS BACKLOG BYTES : Nat) (ops : List Operation) :
    LocalSocketTable SOCKETS BACKLOG BYTES :=
  Trace.run LocalSocketTable.step new ops

theorem reached_valid (ops : List Operation) : (reached SOCKETS BACKLOG BYTES ops).Valid :=
  Trace.invariant _ (fun operation valid => valid.step operation) new_valid ops

theorem Transition.kept_of_error {error : SocketError}
    (transition : Transition table operation (.error error) table') : table' = table := by
  cases transition with
  | refused => rfl

/-- An operation that fails leaves every slot as it was: what it wrote to a ring or
took from a backlog before the failing check was nothing. -/
theorem failed_operation_keeps_table (SOCKETS BACKLOG BYTES : Nat) (ops : List Operation)
    (operation : Operation) (error : SocketError)
    (failed : ((reached SOCKETS BACKLOG BYTES ops).step operation).2 = .error error) :
    ((reached SOCKETS BACKLOG BYTES ops).step operation).1 = reached SOCKETS BACKLOG BYTES ops := by
  have valid : (reached SOCKETS BACKLOG BYTES ops).Valid := reached_valid ops
  have transition := valid.step_transition operation
  rw [failed] at transition
  exact transition.kept_of_error

/-- A connected pair whose server reads before anything was sent. -/
def drainedPair : List Operation :=
  [.socket, .bind ⟨0, 1⟩ [0x2f, 0x61], .listen ⟨0, 1⟩, .socket, .connect ⟨1, 1⟩ [0x2f, 0x61]]

theorem failed_operation_keeps_table_drained :
    ((reached 3 1 4 drainedPair).step (.recv ⟨2, 1⟩ 8)).2 = .error .wouldBlock ∧
      ((reached 3 1 4 drainedPair).step (.recv ⟨2, 1⟩ 8)).1 = reached 3 1 4 drainedPair :=
  ⟨by decide, failed_operation_keeps_table 3 1 4 drainedPair (.recv ⟨2, 1⟩ 8) .wouldBlock
    (by decide)⟩

/-- The relations between slots, the capacities and the emptiness of free slots. -/
structure LocalSocketTable.Consistent (table : LocalSocketTable SOCKETS BACKLOG BYTES) :
    Prop where
  linked : ∀ first second, (table.slot first).peer = some second → table.Linked first second
  hungUp : ∀ index, (table.slot index).state = .connected → (table.slot index).peer = none →
    (table.slot index).peerClosed = true
  paths : ∀ first second, (table.slot first).named = true → (table.slot second).named = true →
    (table.slot first).path = (table.slot second).path → first = second
  rings : ∀ index, (table.slot index).receive.length ≤ BYTES ∧
    (table.slot index).receive.contents.length = (table.slot index).receive.length
  backlogs : ∀ index, (table.slot index).pendingLength ≤ BACKLOG ∧
    (table.slot index).queue.length = (table.slot index).pendingLength ∧
    (∀ entry ∈ (table.slot index).queue, entry.isSome) ∧
    ∀ cell < BACKLOG, ((table.slot index).pending[cell]?.getD none).isSome ↔
      ∃ k < (table.slot index).pendingLength,
        cell = ((table.slot index).pendingHead + k) % BACKLOG
  free : ∀ index, (table.slot index).state = .free → (table.slot index).receive.contents = [] ∧
    (table.slot index).rights = none ∧ (table.slot index).path = [] ∧
    (table.slot index).peer = none

theorem LocalSocketTable.Valid.consistent (valid : table.Valid) : table.Consistent where
  linked := valid.linked
  hungUp := valid.hungUp
  paths := valid.paths
  rings index := ⟨(valid.slots index).ring.length_le, ByteRing.contents_length _⟩
  backlogs index := ⟨(valid.slots index).pendingLength_le, RingBuffer.window_length ..,
    fun _ member => (valid.slots index).queue_isSome member, (valid.slots index).occupied⟩
  free index isFree := by
    have wf := valid.slots index
    obtain ⟨drained, vacant, alone, -⟩ := wf.idle (by rw [isFree]; decide)
    exact ⟨ByteRing.contents_eq_nil drained, vacant,
      wf.unnamed (by rw [SocketSlot.named, isFree]; rfl), alone⟩

/-- In every state that operations with any arguments lead to, peer links are
mutual between open connected slots, a connected slot without a peer is marked,
paths are unique, rings and backlogs hold exactly their length in order, and free
slots hold nothing. -/
theorem socket_table_consistent (SOCKETS BACKLOG BYTES : Nat) (ops : List Operation) :
    (reached SOCKETS BACKLOG BYTES ops).Consistent :=
  (reached_valid ops).consistent

end SlopOS.Ipc
