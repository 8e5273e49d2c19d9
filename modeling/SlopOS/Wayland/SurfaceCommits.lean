import SlopOS.Wayland.SessionHistory

/-!
# Commits and presentations

`Between` is what holds between two calls on a session.  A batch that ends in a commit is
justified by the log, the surface can then be presented, and a presentation leaves the
session ready for the next commit.
-/

namespace SlopOS.Wayland

open ByteCodec

/-- The objects a committed surface names. -/
def CommittedSurface.objects (surface : CommittedSurface) : List (Nat × Interface) :=
  [(surface.surface, .surface), (surface.buffer, .buffer), (surface.xdgSurface, .xdgSurface),
    (surface.toplevel, .xdgToplevel), (surface.frameCallback, .callback), (surface.seat, .seat),
    (surface.pointer, .pointer), (surface.keyboard, .keyboard), (surface.output, .output)]

theorem CommittedSurface.interfaces_nodup (surface : CommittedSurface) :
    (surface.objects.map Prod.snd).Nodup := by
  simp [objects]

/-- Ids with distinct interfaces are distinct. -/
theorem ObjectMap.WellFormed.ids_nodup {map : ObjectMap} (wf : map.WellFormed)
    {named : List (Nat × Interface)} (live : ∀ p ∈ named, map.Live p.1 p.2)
    (distinct : (named.map Prod.snd).Nodup) : (named.map Prod.fst).Nodup := by
  refine List.Nodup.map_on ?_ (List.Nodup.of_map _ distinct)
  intro p inNamed q inNamed' same
  refine Prod.ext same (wf.interface_unique (live p inNamed) ?_)
  rw [same]
  exact live q inNamed'

theorem coreGlobals_unique : ∀ first ∈ coreGlobals, ∀ second ∈ coreGlobals,
    first.interface = second.interface → first = second := by decide

theorem coreGlobals_client : ∀ global ∈ coreGlobals, global.interface ≠ .display := by decide

namespace SingleSurfaceSession

/-- What stands behind a committed surface: the log up to the commit, the requests of the
batch, and the objects and the serial of the session. -/
structure Justified (log : List Exchange) (batch : List Request) (pixelLength : Nat)
    (objects : ObjectMap) (configureSerial : Nat) (surface : CommittedSurface) : Prop where
  bound : ∀ required ∈ coreGlobals, ∃ registry version id,
    .received (.bind registry required.name required.interface version id) ∈ log ∧
      objects.Live id required.interface
  created : ∃ compositor wmBase, .received (.createSurface compositor surface.surface) ∈ log ∧
    .received (.xdgGetSurface wmBase surface.xdgSurface surface.surface) ∈ log ∧
    .received (.xdgGetToplevel surface.xdgSurface surface.toplevel) ∈ log
  acknowledged : ∃ before after shm,
    log = before ++ .received (.xdgAckConfigure surface.xdgSurface configureSerial) :: after ∧
    .sent (.configure shm surface.seat surface.pointer surface.keyboard surface.output
      surface.xdgSurface surface.toplevel configureSerial) ∈ before
  stride : surface.stride = 4 * surface.width
  size : surface.stride * surface.height = pixelLength
  damage : .surfaceDamage surface.surface true 0 0 surface.width surface.height ∈ batch
  live : ∀ p ∈ surface.objects, objects.Live p.1 p.2
  distinct : (surface.objects.map Prod.fst).Nodup

/-- What holds between two calls. -/
structure Between (log : List Exchange) (s : SingleSurfaceSession) : Prop where
  known : s.Known log
  initial : s.initialCommitted = false
  idle : s.phase ≠ .committed → s.damaged = false ∧ s.committed = false
  shown : s.phase = .committed → s.Versioned ∧
    ∃ pixelLength, pixelLength ≠ 0 ∧ s.Complete pixelLength

section Batches

variable {s s' : SingleSurfaceSession} {log : List Exchange} {batch : List Request}
  {pixelLength : Nat} {event : SurfaceSessionEvent} {surface : CommittedSurface}
  {accepted : Accepted} {objects : ObjectMap} {shown : PresentedSurface} {fd : Option Int}
  {interface : Interface} {wire : Bytes} {id : Nat} {object : Object}

/-! ## The end of a batch -/

/-- What the end of a batch does, by phase. -/
inductive Concluded (s : SingleSurfaceSession) : SingleSurfaceSession → SurfaceSessionEvent → Prop
  | registry {registry : Nat} : s.phase = .awaitRegistry →
    Concluded s { s with phase := .awaitInitialCommit } (.registry registry)
  | configure {event : SurfaceSessionEvent} : s.phase = .awaitInitialCommit → s.Configures event →
    (∀ interface ∈ requiredInterfaces, ∃ id, s.role interface = some id) →
    Concluded s { s with initialCommitted := false, phase := .awaitConfiguredCommit } event
  | commit {surface : CommittedSurface} : s.phase = .awaitConfiguredCommit → s.committed = true →
    s.snapshot = .ok surface → Concluded s { s with phase := .committed } (.committed surface)

theorem conclude_ok (concluded : s.conclude = .ok (s', event)) : Concluded s s' event := by
  unfold conclude at concluded
  split at concluded
  case h_1 phase =>
    obtain ⟨registry, -, finished⟩ := Except.bind_ok concluded
    cases finished
    exact .registry phase
  case h_2 phase =>
    split at concluded
    case isTrue => cases concluded
    case isFalse complete =>
    simp only [Bool.or_eq_true, Option.isNone_iff_eq_none, not_or] at complete
    simp only [Except.bind_eq_ok_iff, require_eq_ok_iff] at concluded
    obtain ⟨shm, onShm, seat, onSeat, pointer, onPointer, keyboard, onKeyboard, output, onOutput,
      xdgSurface, onXdgSurface, toplevel, onToplevel, finished⟩ := concluded
    cases finished
    obtain ⟨⟨⟨⟨⟨⟨⟨⟨⟨⟨⟨⟨-, compositor⟩, -⟩, -⟩, -⟩, -⟩, -⟩, wmBase⟩, surface⟩, -⟩, -⟩, -⟩, -⟩ :=
      complete
    refine .configure phase ⟨shm, seat, pointer, keyboard, output, xdgSurface, toplevel, rfl,
      onShm, onSeat, onPointer, onKeyboard, onOutput, onXdgSurface, onToplevel⟩ ?_
    simp only [requiredInterfaces, List.forall_mem_cons]
    exact ⟨Option.ne_none_iff_exists'.mp compositor, ⟨shm, onShm⟩, ⟨seat, onSeat⟩,
      ⟨pointer, onPointer⟩, ⟨keyboard, onKeyboard⟩, ⟨output, onOutput⟩,
      Option.ne_none_iff_exists'.mp wmBase, Option.ne_none_iff_exists'.mp surface,
      ⟨xdgSurface, onXdgSurface⟩, ⟨toplevel, onToplevel⟩, nofun⟩
  case h_3 phase =>
    split at concluded
    case isTrue => cases concluded
    case isFalse committed =>
    obtain ⟨surface, snapshot, finished⟩ := Except.bind_ok concluded
    cases finished
    exact .commit phase (by simpa using committed) snapshot
  case h_4 => cases concluded

/-- The phase before a batch, its event and the phase after it. -/
inductive Turn : SurfacePhase → SurfaceSessionEvent → SurfacePhase → Prop
  | registry {registry : Nat} : Turn .awaitRegistry (.registry registry) .awaitInitialCommit
  | configure {shm seat pointer keyboard output xdgSurface toplevel serial : Nat} :
    Turn .awaitInitialCommit
      (.configure shm seat pointer keyboard output xdgSurface toplevel serial)
      .awaitConfiguredCommit
  | commit {surface : CommittedSurface} :
    Turn .awaitConfiguredCommit (.committed surface) .committed

theorem Turn.ofCommit {before after : SurfacePhase}
    (turn : Turn before (.committed surface) after) :
    before = .awaitConfiguredCommit ∧ after = .committed := by
  cases turn
  exact ⟨rfl, rfl⟩

theorem Turn.ofOther {before after : SurfacePhase} (turn : Turn before event after)
    (other : ∀ surface, event ≠ .committed surface) :
    before = .awaitRegistry ∧ after = .awaitInitialCommit ∨
      before = .awaitInitialCommit ∧ after = .awaitConfiguredCommit := by
  cases turn with
  | registry => exact .inl ⟨rfl, rfl⟩
  | configure => exact .inr ⟨rfl, rfl⟩
  | commit => exact absurd rfl (other _)

theorem Concluded.turn (concluded : Concluded s s' event) : Turn s.phase event s'.phase := by
  cases concluded with
  | registry phase =>
    rw [phase]
    exact .registry
  | configure phase configures =>
    obtain ⟨_, _, _, _, _, _, _, rfl, -⟩ := configures
    rw [phase]
    exact .configure
  | commit phase =>
    rw [phase]
    exact .commit

/-- A batch that succeeds: its frames, and its end. -/
theorem acceptBatch_ok (ok : s.acceptBatch wire fd pixelLength = .ok accepted) :
    s.phase ≠ .committed ∧ (s.phase = .awaitConfiguredCommit → pixelLength ≠ 0) ∧
      ∃ s₁ fuel, acceptFrames fuel s wire fd pixelLength = .ok (s₁, accepted.requests) ∧
        Concluded s₁ accepted.session accepted.event := by
  unfold acceptBatch at ok
  split at ok
  case isTrue => cases ok
  case isFalse fit =>
  simp only [Except.bind_eq_ok_iff] at ok
  obtain ⟨⟨s₁, requests⟩, frames, ⟨s₂, event⟩, ends, finished⟩ := ok
  cases finished
  refine ⟨fun phase => fit (.inr (.inl phase)), fun phase zero => ?_, s₁, _, frames,
    conclude_ok ends⟩
  exact fit (.inr (.inr (.inl ⟨fun _ => zero, fun _ => phase⟩)))

/-- A batch that succeeds turns the session to the next phase. -/
theorem acceptBatch_turn (ok : s.acceptBatch wire fd pixelLength = .ok accepted) :
    Turn s.phase accepted.event accepted.session.phase := by
  obtain ⟨-, -, s₁, fuel, frames, concluded⟩ := acceptBatch_ok ok
  rw [← acceptFrames_phase frames]
  exact concluded.turn

/-- The snapshot names the session's objects. -/
theorem snapshot_ok (snapshot : s.snapshot = .ok surface) :
    (∀ p ∈ surface.objects, s.role p.2 = some p.1) ∧ ∃ buffer, s.buffer = some buffer ∧
      surface.width = buffer.width ∧ surface.height = buffer.height ∧
      surface.stride = buffer.stride := by
  unfold SingleSurfaceSession.snapshot at snapshot
  simp only [Except.bind_eq_ok_iff, require_eq_ok_iff] at snapshot
  obtain ⟨buffer, onBuffer, surface, onSurface, xdgSurface, onXdgSurface, toplevel, onToplevel,
    callback, onCallback, seat, onSeat, pointer, onPointer, keyboard, onKeyboard, output, onOutput,
    finished⟩ := snapshot
  cases finished
  refine ⟨?_, buffer, onBuffer, rfl, rfl, rfl⟩
  simp only [CommittedSurface.objects, List.forall_mem_cons]
  exact ⟨onSurface, congrArg (Option.map BufferState.id) onBuffer, onXdgSurface, onToplevel,
    onCallback, onSeat, onPointer, onKeyboard, onOutput, List.forall_mem_nil _⟩

/-! ## What the log says of a role -/

/-- A role was filled by a request that was heard. -/
theorem Known.creator (known : s.Known log) (role : s.role interface = some id)
    (client : interface ≠ .display) :
    ∃ request, .received request ∈ log ∧ request.newObject = some (id, interface) ∧
      s.Heard request := by
  obtain ⟨request, member, creates⟩ := known.introduced interface id client role
  exact ⟨request, member, creates, known.heard request member⟩

theorem Known.bound (known : s.Known log) {required : Global} (global : required ∈ coreGlobals)
    (role : s.role required.interface = some id) : ∃ registry version,
      .received (.bind registry required.name required.interface version id) ∈ log := by
  obtain ⟨request, member, creates, heard⟩ := known.creator role (coreGlobals_client _ global)
  cases request <;> simp only [Request.newObject, Option.some.injEq, Prod.mk.injEq, reduceCtorEq]
    at creates
  case bind registry name interface version newId =>
    obtain ⟨rfl, rfl⟩ := creates
    obtain ⟨advertised, listed, rfl, same⟩ := heard.advertised _ _ _ _ _ rfl
    obtain rfl := coreGlobals_unique _ listed _ global same
    exact ⟨registry, version, member⟩
  all_goals
    obtain ⟨-, other⟩ := creates
    simp only [coreGlobals, List.mem_cons, List.not_mem_nil, or_false] at global
    rcases global with rfl | rfl | rfl | rfl | rfl <;> cases other

/-- What was bound is an advertised global. -/
theorem Heard.bound_global {registry name version : Nat}
    (heard : s.Heard (.bind registry name interface version id)) :
    interface ∈ coreGlobals.map Global.interface := by
  obtain ⟨advertised, listed, -, rfl⟩ := heard.advertised _ _ _ _ _ rfl
  exact List.mem_map_of_mem listed

theorem Known.created (known : s.Known log) {surface xdgSurface toplevel : Nat}
    (onSurface : s.role .surface = some surface)
    (onXdgSurface : s.role .xdgSurface = some xdgSurface)
    (onToplevel : s.role .xdgToplevel = some toplevel) :
    ∃ compositor wmBase, .received (.createSurface compositor surface) ∈ log ∧
      .received (.xdgGetSurface wmBase xdgSurface surface) ∈ log ∧
      .received (.xdgGetToplevel xdgSurface toplevel) ∈ log := by
  obtain ⟨first, member₁, creates₁, heard₁⟩ := known.creator onSurface nofun
  obtain ⟨second, member₂, creates₂, heard₂⟩ := known.creator onXdgSurface nofun
  obtain ⟨third, member₃, creates₃, heard₃⟩ := known.creator onToplevel nofun
  cases first <;> simp only [Request.newObject, Option.some.injEq, Prod.mk.injEq, reduceCtorEq,
    and_false, and_true] at creates₁
  case bind => exact absurd heard₁.bound_global (by rw [creates₁.2]; decide)
  case createSurface compositor _ =>
  subst creates₁
  cases second <;> simp only [Request.newObject, Option.some.injEq, Prod.mk.injEq, reduceCtorEq,
    and_false, and_true] at creates₂
  case bind => exact absurd heard₂.bound_global (by rw [creates₂.2]; decide)
  case xdgGetSurface wmBase _ onto =>
  subst creates₂
  cases third <;> simp only [Request.newObject, Option.some.injEq, Prod.mk.injEq, reduceCtorEq,
    and_false, and_true] at creates₃
  case bind => exact absurd heard₃.bound_global (by rw [creates₃.2]; decide)
  case xdgGetToplevel under _ =>
  subst creates₃
  have sameSurface := heard₂.names (.surface, onto) (by simp [Request.named])
  have sameXdgSurface := heard₃.names (.xdgSurface, under) (by simp [Request.named])
  cases onSurface.symm.trans sameSurface
  cases onXdgSurface.symm.trans sameXdgSurface
  exact ⟨compositor, wmBase, member₁, member₂, member₃⟩

/-! ## A batch -/

theorem toU32_eq_some {value : Int} {converted : Nat} (fits : toU32 value = some converted) :
    value = converted := by
  unfold toU32 at fits
  split at fits
  case isTrue positive =>
    cases fits
    exact (Int.toNat_of_nonneg positive).symm
  case isFalse => cases fits

/-- A batch that committed is justified. -/
theorem Known.justified (known : s.Known log) (raised : s.Raised pixelLength batch)
    (phase : s.phase = .awaitConfiguredCommit) (committed : s.committed = true)
    (snapshot : s.snapshot = .ok surface) :
    Justified log batch pixelLength s.objects s.configureSerial surface := by
  obtain ⟨named, buffer, onBuffer, width, height, stride⟩ := snapshot_ok snapshot
  have complete := raised.committed committed
  have live : ∀ p ∈ surface.objects, s.objects.Live p.1 p.2 := fun p member =>
    known.live p.2 p.1 (named p member)
  simp only [CommittedSurface.objects, List.forall_mem_cons] at named
  obtain ⟨onSurface, -, onXdgSurface, onToplevel, -, onSeat, onPointer, onKeyboard, onOutput, -⟩ :=
    named
  constructor
  case bound =>
    intro required global
    have needed : required.interface ∈ requiredInterfaces := by
      revert required
      decide
    obtain ⟨id, role⟩ := (known.configured (.inl phase)).filled _ needed
    obtain ⟨registry, version, member⟩ := known.bound global role
    exact ⟨registry, version, id, member, known.live _ id role⟩
  case created => exact known.created onSurface onXdgSurface onToplevel
  case acknowledged =>
    obtain ⟨before, after, event, xdgSurface, split, sent, configures, named⟩ :=
      known.acked complete.acked
    obtain ⟨shm, seat, pointer, keyboard, output, xdgSurface', toplevel, rfl, -, onSeat', onPointer',
      onKeyboard', onOutput', onXdgSurface', onToplevel'⟩ := configures
    cases onXdgSurface.symm.trans named
    cases onXdgSurface.symm.trans onXdgSurface'
    cases onSeat.symm.trans onSeat'
    cases onPointer.symm.trans onPointer'
    cases onKeyboard.symm.trans onKeyboard'
    cases onOutput.symm.trans onOutput'
    cases onToplevel.symm.trans onToplevel'
    exact ⟨before, after, shm, split, sent⟩
  case stride =>
    rw [stride, width, Nat.mul_comm]
    exact (known.proper buffer onBuffer).stride
  case size =>
    obtain ⟨buffer', onBuffer', size⟩ := complete.buffer
    cases onBuffer.symm.trans onBuffer'
    rw [stride, height]
    exact size
  case damage =>
    obtain ⟨⟨request, member, surface', width', height', buffer', rfl, onSurface', onBuffer', wide,
      high⟩, -⟩ := raised.damaged complete.damaged
    cases onBuffer.symm.trans onBuffer'
    cases onSurface.symm.trans onSurface'
    rw [width, height, ← toU32_eq_some wide, ← toU32_eq_some high]
    exact member
  case live => exact live
  case distinct => exact known.objects.ids_nodup live surface.interfaces_nodup

/-- A change that keeps the roles that are left, and adds no request to the log. -/
theorem Known.later {more : List Exchange} (known : s.Known log) (later : Later s s')
    (objects : s'.objects.WellFormed)
    (bounded : ∀ object ∈ s'.objects.held, object ∈ s.objects.held)
    (live : ∀ interface id, s'.role interface = some id → s'.objects.Live id interface)
    (roles : ∀ interface id, s'.role interface = some id → s.role interface = some id)
    (buffer : s'.buffer = s.buffer) (acked : s'.configureAcked = s.configureAcked)
    (silent : ∀ request, .received request ∉ more)
    (configured : s'.phase = .awaitConfiguredCommit ∨ s'.phase = .committed →
      s'.Configured (log ++ more)) : s'.Known (log ++ more) := by
  refine ⟨objects, fun object member => known.bounded object (bounded object member), live, ?_, ?_,
    ?_, ?_, configured⟩
  · intro interface id client role
    obtain ⟨request, member, creates⟩ := known.introduced interface id client (roles _ _ role)
    exact ⟨request, List.mem_append_left _ member, creates⟩
  · intro request member
    rcases List.mem_append.mp member with old | new
    · exact (known.heard request old).later later
    · exact absurd new (silent request)
  · intro found onBuffer
    rw [buffer] at onBuffer
    exact known.proper found onBuffer
  · intro raised
    rw [acked] at raised
    exact (known.acked raised).later later more

theorem Concluded.role (concluded : Concluded s s' event) (interface : Interface) :
    s'.role interface = s.role interface := by
  cases concluded <;> cases interface <;> rfl

theorem Concluded.later (concluded : Concluded s s' event) : Later s s' := by
  refine ⟨fun interface id _ role => ?_, ?_, ?_⟩
  · rw [concluded.role]
    exact role
  · cases concluded <;> exact fun _ found => found
  · cases concluded <;> rfl

/-- The end of a batch keeps what is known. -/
theorem Known.conclude (known : s.Known log) (concluded : Concluded s s' event) :
    s'.Known (log ++ [.sent event]) := by
  have silent : ∀ request, Exchange.received request ∉ [Exchange.sent event] := by simp
  have sameRole := concluded.role
  have later := concluded.later
  have sameObjects : s'.objects = s.objects := by cases concluded <;> rfl
  have sameBuffer : s'.buffer = s.buffer := by cases concluded <;> rfl
  have sameAcked : s'.configureAcked = s.configureAcked := by cases concluded <;> rfl
  refine known.later later (by rw [sameObjects]; exact known.objects)
    (by rw [sameObjects]; exact fun _ member => member) ?_ ?_ sameBuffer sameAcked silent ?_
  · intro interface id role
    rw [sameRole] at role
    rw [sameObjects]
    exact known.live interface id role
  · intro interface id role
    rw [sameRole] at role
    exact role
  · intro phase
    cases concluded with
    | registry => rcases phase with phase | phase <;> cases phase
    | configure _ configures filled =>
      refine ⟨fun interface member => ?_, event, List.mem_append_right _ List.mem_cons_self,
        configures.later later⟩
      exact filled interface member
    | commit earlier => exact (known.configured (.inl earlier)).later later _

/-- A batch that succeeds keeps what holds between calls; one that commits is justified. -/
theorem Between.acceptBatch (between : s.Between log)
    (ok : s.acceptBatch wire fd pixelLength = .ok accepted) :
    accepted.session.Between (log ++ accepted.requests.map .received ++ [.sent accepted.event]) ∧
      ∀ surface, accepted.event = .committed surface → accepted.session.phase = .committed ∧
        Justified (log ++ accepted.requests.map .received) accepted.requests pixelLength
          accepted.session.objects accepted.session.configureSerial surface := by
  obtain ⟨fresh, filled, s₁, fuel, frames, concluded⟩ := acceptBatch_ok ok
  obtain ⟨session, event, requests⟩ := accepted
  obtain ⟨undamaged, uncommitted⟩ := between.idle fresh
  have raised : s.Raised pixelLength [] := by
    refine ⟨fun damaged => ?_, fun committed => ?_, fun _ => ⟨undamaged, uncommitted⟩,
      fun _ => between.initial⟩
    · cases undamaged.symm.trans damaged
    · cases uncommitted.symm.trans committed
  obtain ⟨known₁, raised₁⟩ := between.known.acceptFrames raised frames
  have phase₁ := acceptFrames_phase frames
  have known₂ := known₁.conclude concluded
  cases concluded with
  | registry phase =>
    have early : s₁.phase ≠ .awaitConfiguredCommit := by
      rw [phase]
      nofun
    exact ⟨⟨known₂, raised₁.initial (by rw [phase]; nofun), fun _ => raised₁.early early, nofun⟩,
      nofun⟩
  | configure phase configures =>
    have early : s₁.phase ≠ .awaitConfiguredCommit := by
      rw [phase]
      nofun
    refine ⟨⟨known₂, rfl, fun _ => raised₁.early early, nofun⟩, ?_⟩
    rintro surface rfl
    obtain ⟨_, _, _, _, _, _, _, other, -⟩ := configures
    cases other
  | commit phase committed snapshot =>
    refine ⟨⟨known₂, raised₁.initial (by rw [phase]; nofun), fun other => absurd rfl other,
      fun _ => ⟨?_, pixelLength, filled (phase₁.symm.trans phase), ?_⟩⟩, ?_⟩
    · obtain ⟨object, member, onSurface, facts⟩ :=
        (raised₁.damaged (raised₁.committed committed).damaged).2
      exact ⟨object, member, onSurface, facts⟩
    · obtain ⟨buffer, acked, attached, damaged, geometry, callback⟩ := raised₁.committed committed
      exact ⟨buffer, acked, attached, damaged, geometry, callback⟩
    · rintro surface' same
      cases same
      exact ⟨rfl, known₁.justified raised₁ phase committed snapshot⟩

/-! ## A presentation -/

/-- The session waits for the next commit of the surface it has shown, and `callback` is
free again. -/
structure Ready (callback : Nat) (s : SingleSurfaceSession) : Prop where
  phase : s.phase = .awaitConfiguredCommit
  acked : s.configureAcked = true
  geometry : s.windowGeometry = true
  detached : s.attached = false
  noCallback : s.frameCallback = none
  versioned : s.Versioned
  buffer : ∃ buffer, s.buffer = some buffer ∧ buffer.stride * buffer.height ≠ 0
  named : 0 < callback ∧ callback < 2 ^ 32
  fresh : ∀ slot ∈ s.objects.slots, slot.id ≠ callback
  room : ∃ slot ∈ s.objects.slots, slot.isEmpty = true

/-- The session after a presentation that left the given objects. -/
def afterPresent (s : SingleSurfaceSession) (objects : ObjectMap) : SingleSurfaceSession :=
  { s with
    objects := objects, attached := false, damaged := false, frameCallback := none
    committed := false, phase := .awaitConfiguredCommit }

theorem role_afterPresent (other : interface ≠ .callback) :
    (s.afterPresent objects).role interface = s.role interface := by
  cases interface <;> first | rfl | exact absurd rfl other

theorem later_afterPresent : Later s (s.afterPresent objects) := by
  refine ⟨?_, fun _ found => found, rfl⟩
  intro interface id other role
  rw [role_afterPresent other]
  exact role

/-- A role that is left is not the callback's. -/
theorem role_of_afterPresent (role : (s.afterPresent objects).role interface = some id) :
    interface ≠ .callback ∧ s.role interface = some id := by
  have other : interface ≠ .callback := by
    rintro rfl
    cases role
  rw [role_afterPresent other] at role
  exact ⟨other, role⟩

theorem Known.afterPresent (known : s.Known log) (phase : s.phase = .committed)
    (released : s.objects.Released object objects) (isCallback : object.interface = .callback) :
    (s.afterPresent objects).Known (log ++ [.presented shown]) := by
  refine known.later later_afterPresent released.wellFormed (fun _ => released.remains) ?_ ?_ rfl
    rfl (by simp) fun _ => (known.configured (.inr phase)).later later_afterPresent _
  · intro interface id role
    obtain ⟨other, role⟩ := role_of_afterPresent role
    obtain ⟨named, member, facts⟩ := known.live interface id role
    refine ⟨named, released.kept member ?_, facts⟩
    rw [facts.2.1, isCallback]
    exact other
  · intro interface id role
    exact (role_of_afterPresent role).2

theorem Between.ready (between : s.Between log) (phase : s.phase = .committed)
    (released : s.objects.Released object objects) (member : object ∈ s.objects.held)
    (isCallback : object.interface = .callback) : (s.afterPresent objects).Ready object.id := by
  obtain ⟨versioned, pixelLength, nonzero, complete⟩ := between.shown phase
  obtain ⟨buffer, onBuffer, size⟩ := complete.buffer
  have bounds := between.known.bounded object member
  refine ⟨rfl, complete.acked, complete.geometry, rfl, rfl, ?_, ⟨buffer, onBuffer, ?_⟩, bounds,
    released.fresh between.known.objects (pos_iff_ne_zero.mp bounds.1), released.room⟩
  · refine versioned.later later_afterPresent fun other inHeld isSurface => ?_
    refine released.kept inHeld ?_
    rw [isSurface, isCallback]
    nofun
  · rw [size]
    exact nonzero

theorem present_ok (presented : s.present = .ok (s', shown)) :
    s.phase = .committed ∧ ∃ objects, s' = s.afterPresent objects := by
  unfold present at presented
  split at presented
  case isTrue => cases presented
  case isFalse phase =>
  simp only [Except.bind_eq_ok_iff] at presented
  obtain ⟨_, -, _, -, _, -, _, -, _, -, _, -, objects, -, finished⟩ := presented
  cases finished
  exact ⟨not_not.mp phase, objects, rfl⟩

theorem present_phase (presented : s.present = .ok (s', shown)) :
    s.phase = .committed ∧ s'.phase = .awaitConfiguredCommit := by
  obtain ⟨phase, objects, rfl⟩ := present_ok presented
  exact ⟨phase, rfl⟩

/-- The callback of the surface is a client's object. -/
theorem Known.callback (known : s.Known log) {callback : Nat}
    (onCallback : s.frameCallback = some callback) :
    ∃ object ∈ s.objects.held, object.id = callback ∧ object.interface = .callback ∧
      object.state = .active ∧ object.id ≠ displayObjectId := by
  obtain ⟨object, member, rfl, isCallback, active⟩ := known.live .callback callback onCallback
  refine ⟨object, member, rfl, isCallback, active, ?_⟩
  intro same
  obtain ⟨display, member', named, isDisplay, -⟩ := known.live .display displayObjectId rfl
  obtain rfl := known.objects.object_unique member member' (same.trans named.symm)
  cases isCallback.symm.trans isDisplay

/-- A committed surface can be presented, and the session is then ready for the next
commit. -/
theorem Between.present (between : s.Between log) (phase : s.phase = .committed) :
    ∃ s' shown, s.present = .ok (s', shown) ∧ s'.Between (log ++ [.presented shown]) ∧
      s'.Ready shown.frameCallback ∧ s.frameCallback = some shown.frameCallback ∧
      s'.surface = s.surface ∧ s'.surface = some shown.surface ∧ s'.buffer = s.buffer ∧
      s'.role .buffer = some shown.buffer := by
  have known := between.known
  obtain ⟨-, _, -, complete⟩ := between.shown phase
  obtain ⟨callback, onCallback⟩ := complete.callback
  obtain ⟨buffer, onBuffer, -⟩ := complete.buffer
  have filled := (known.configured (.inr phase)).filled
  obtain ⟨surface, onSurface⟩ := filled .surface (by decide)
  obtain ⟨pointer, onPointer⟩ := filled .pointer (by decide)
  obtain ⟨keyboard, onKeyboard⟩ := filled .keyboard (by decide)
  obtain ⟨object, member, rfl, isCallback, active, client⟩ := known.callback onCallback
  obtain ⟨middle, objects, retired, deleted, released⟩ := known.objects.release member active client
  refine ⟨s.afterPresent objects, ⟨surface, buffer.id, object.id, pointer, keyboard⟩, ?_,
    ⟨known.afterPresent phase released isCallback, between.initial, fun _ => ⟨rfl, rfl⟩, nofun⟩,
    between.ready phase released member isCallback, onCallback, rfl, onSurface, rfl,
    congrArg (Option.map BufferState.id) onBuffer⟩
  simp only [SingleSurfaceSession.present, Except.ite_error_eq_ok_iff, Except.bind_eq_ok_iff,
    require_eq_ok_iff]
  exact ⟨not_not.mpr phase, surface, onSurface, buffer, onBuffer, _, onCallback, pointer, onPointer,
    keyboard, onKeyboard, middle, by rw [retired]; rfl, objects, by rw [deleted]; rfl, rfl⟩

end Batches

end SingleSurfaceSession

end SlopOS.Wayland
