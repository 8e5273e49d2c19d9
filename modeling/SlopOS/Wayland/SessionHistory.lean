import SlopOS.Base.Trace
import SlopOS.Wayland.SessionSteps

/-!
# The session and what was said so far

`SurfaceRun` keeps the session with a log of the requests received and the events sent.
A call that fails leaves both as they were.  `Known` is what the session knows of its
objects and of the log at any time, `Raised` what its flags say within a batch.
-/

namespace SlopOS.Wayland

open ByteCodec List

inductive Exchange
  | received (request : Request)
  | sent (event : SurfaceSessionEvent)
  | presented (surface : PresentedSurface)

inductive SurfaceCall
  | acceptBatch (wire : Bytes) (inlineFileDescriptor : Option Int) (pixelLength : Nat)
  | present

inductive SurfaceReply
  | accepted (event : SurfaceSessionEvent) (requests : List Request)
  | presented (surface : PresentedSurface)
  | failed (error : SurfaceError)

structure SurfaceRun where
  session : SingleSurfaceSession
  log : List Exchange

/-- One call.  The caller works on a copy of the session and keeps it if the call
succeeds. -/
def SurfaceRun.step (run : SurfaceRun) : SurfaceCall → SurfaceRun × SurfaceReply
  | .acceptBatch wire inlineFileDescriptor pixelLength =>
    match run.session.acceptBatch wire inlineFileDescriptor pixelLength with
    | .error error => (run, .failed error)
    | .ok accepted =>
      (⟨accepted.session, run.log ++ accepted.requests.map .received ++ [.sent accepted.event]⟩,
        .accepted accepted.event accepted.requests)
  | .present =>
    match run.session.present with
    | .error error => (run, .failed error)
    | .ok (session, surface) => (⟨session, run.log ++ [.presented surface]⟩, .presented surface)

variable {request : Request}

theorem ObjectMap.Introduced.wellFormed {map map' : ObjectMap}
    (introduced : map.Introduced request map') (wf : map.WellFormed) : map'.WellFormed := by
  unfold Introduced at introduced
  split at introduced
  · obtain ⟨version, inserted⟩ := introduced
    exact wf.insert inserted
  · rw [introduced]
    exact wf

variable {object : Object}

theorem ObjectMap.Introduced.held {map map' : ObjectMap} (introduced : map.Introduced request map')
    (member : object ∈ map.held) : object ∈ map'.held := by
  unfold Introduced at introduced
  split at introduced
  · obtain ⟨version, inserted⟩ := introduced
    obtain ⟨-, -, -, perm, -⟩ := insert_ok inserted
    exact perm.mem_iff.mpr (mem_cons_of_mem _ member)
  · rw [introduced]
    exact member

variable {interface : Interface} {id : Nat}

theorem ObjectMap.Introduced.live_new {map map' : ObjectMap}
    (introduced : map.Introduced request map') (new : request.newObject = some (id, interface)) :
    map'.Live id interface := by
  rw [Introduced, new] at introduced
  obtain ⟨version, inserted⟩ := introduced
  exact live_insert inserted

theorem ObjectMap.Introduced.held_cases {map map' : ObjectMap}
    (introduced : map.Introduced request map') (member : object ∈ map'.held) :
    object ∈ map.held ∨ object.id ≠ 0 ∧
      ∃ interface, request.newObject = some (object.id, interface) := by
  unfold Introduced at introduced
  split at introduced
  case h_1 id interface new =>
    obtain ⟨version, inserted⟩ := introduced
    obtain ⟨named, -, -, perm, -⟩ := insert_ok inserted
    rcases mem_cons.mp (perm.mem_iff.mp member) with rfl | old
    · exact .inr ⟨named, interface, new⟩
    · exact .inl old
  case h_2 =>
    rw [introduced] at member
    exact .inl member

theorem ObjectMap.Live.mono {map map' : ObjectMap} (held : ∀ object ∈ map.held, object ∈ map'.held)
    (live : map.Live id interface) : map'.Live id interface := by
  obtain ⟨object, member, facts⟩ := live
  exact ⟨object, held object member, facts⟩

theorem Request.named_ne_callback {p : Interface × Nat} (member : p ∈ request.named) :
    p.1 ≠ .callback := by
  cases request <;> simp only [named, mem_cons, mem_map, not_mem_nil,
    or_false] at member
  case surfaceAttach =>
    rcases member with rfl | ⟨buffer, -, rfl⟩ <;> nofun
  case xdgGetSurface =>
    rcases member with rfl | rfl <;> nofun
  all_goals
    subst member
    nofun

namespace SingleSurfaceSession

/-- The objects of the first session are those of the second, the frame callback apart. -/
structure Later (s s' : SingleSurfaceSession) : Prop where
  role : ∀ interface id, interface ≠ .callback → s.role interface = some id →
    s'.role interface = some id
  buffer : ∀ buffer, s.buffer = some buffer → s'.buffer = some buffer
  serial : s'.configureSerial = s.configureSerial

/-- A request of the log addressed the session's objects and advertised globals. -/
structure Heard (s : SingleSurfaceSession) (request : Request) : Prop where
  names : ∀ p ∈ request.named, s.role p.1 = some p.2
  advertised : ∀ registry name interface version id,
    request = .bind registry name interface version id →
    ∃ advertised ∈ coreGlobals, advertised.name = name ∧ advertised.interface = interface

/-- The event is the configure of the session's surface. -/
def Configures (s : SingleSurfaceSession) (event : SurfaceSessionEvent) : Prop :=
  ∃ shm seat pointer keyboard output xdgSurface toplevel,
    event = .configure shm seat pointer keyboard output xdgSurface toplevel s.configureSerial ∧
    s.role .shm = some shm ∧ s.role .seat = some seat ∧ s.role .pointer = some pointer ∧
    s.role .keyboard = some keyboard ∧ s.role .output = some output ∧
    s.role .xdgSurface = some xdgSurface ∧ s.role .xdgToplevel = some toplevel

/-- The configure was sent, and acknowledged after that. -/
def Acknowledged (log : List Exchange) (s : SingleSurfaceSession) : Prop :=
  ∃ before after event xdgSurface,
    log = before ++ .received (.xdgAckConfigure xdgSurface s.configureSerial) :: after ∧
    .sent event ∈ before ∧ s.Configures event ∧ s.role .xdgSurface = some xdgSurface

/-- What has to be there before the configure is sent. -/
def requiredInterfaces : List Interface :=
  [.compositor, .shm, .seat, .pointer, .keyboard, .output, .xdgWmBase, .surface, .xdgSurface,
    .xdgToplevel]

/-- The configure was sent. -/
structure Configured (log : List Exchange) (s : SingleSurfaceSession) : Prop where
  filled : ∀ interface ∈ requiredInterfaces, ∃ id, s.role interface = some id
  sent : ∃ event, .sent event ∈ log ∧ s.Configures event

/-- What the session knows of its objects and of the log. -/
structure Known (log : List Exchange) (s : SingleSurfaceSession) : Prop where
  objects : s.objects.WellFormed
  bounded : ∀ object ∈ s.objects.held, 0 < object.id ∧ object.id < 2 ^ 32
  live : ∀ interface id, s.role interface = some id → s.objects.Live id interface
  introduced : ∀ interface id, interface ≠ .display → s.role interface = some id →
    ∃ request, .received request ∈ log ∧ request.newObject = some (id, interface)
  heard : ∀ request, .received request ∈ log → s.Heard request
  proper : ∀ buffer, s.buffer = some buffer → BufferState.Proper buffer
  acked : s.configureAcked = true → s.Acknowledged log
  configured : s.phase = .awaitConfiguredCommit ∨ s.phase = .committed → s.Configured log

/-- The surface is of a version that has `damage_buffer`. -/
def Versioned (s : SingleSurfaceSession) : Prop :=
  ∃ object ∈ s.objects.held, s.role .surface = some object.id ∧ object.state = .active ∧
    object.interface = .surface ∧ 4 ≤ object.version

/-- What the flags say within a batch. -/
structure Raised (pixelLength : Nat) (batch : List Request) (s : SingleSurfaceSession) : Prop where
  damaged : s.damaged = true → (∃ request ∈ batch, s.Damages request) ∧ s.Versioned
  committed : s.committed = true → s.Complete pixelLength
  early : s.phase ≠ .awaitConfiguredCommit → s.damaged = false ∧ s.committed = false
  initial : s.phase ≠ .awaitInitialCommit → s.initialCommitted = false

section History

variable {s s' : SingleSurfaceSession} {log : List Exchange} {batch : List Request}
  {pixelLength : Nat} {requests : List Request} {fd : Option Int} {wire : Bytes} {fuel : Nat}
  {objects : ObjectMap}

@[simp] theorem role_objects (objects : ObjectMap) (interface : Interface) :
    { s with objects := objects }.role interface = s.role interface := by
  cases interface <;> rfl

/-! ## Facts that last -/

theorem later_objects (objects : ObjectMap) : Later s { s with objects := objects } := by
  refine ⟨fun interface id _ role => ?_, fun _ found => found, rfl⟩
  exact role

theorem Later.trans {s'' : SingleSurfaceSession} (first : Later s s') (second : Later s' s'') :
    Later s s'' :=
  ⟨fun interface id other role => second.role interface id other (first.role interface id other role),
    fun buffer found => second.buffer buffer (first.buffer buffer found),
    second.serial.trans first.serial⟩

theorem Later.names (later : Later s s') (names : ∀ p ∈ request.named, s.role p.1 = some p.2) :
    ∀ p ∈ request.named, s'.role p.1 = some p.2 :=
  fun p member => later.role p.1 p.2 (Request.named_ne_callback member) (names p member)

theorem Heard.later (heard : s.Heard request) (later : Later s s') : s'.Heard request :=
  ⟨later.names heard.names, heard.advertised⟩

theorem Configures.later {event : SurfaceSessionEvent} (configures : s.Configures event)
    (later : Later s s') : s'.Configures event := by
  obtain ⟨shm, seat, pointer, keyboard, output, xdgSurface, toplevel, rfl, onShm, onSeat, onPointer,
    onKeyboard, onOutput, onXdgSurface, onToplevel⟩ := configures
  rw [← later.serial]
  exact ⟨shm, seat, pointer, keyboard, output, xdgSurface, toplevel, rfl,
    later.role _ _ nofun onShm, later.role _ _ nofun onSeat, later.role _ _ nofun onPointer,
    later.role _ _ nofun onKeyboard, later.role _ _ nofun onOutput,
    later.role _ _ nofun onXdgSurface, later.role _ _ nofun onToplevel⟩

theorem Acknowledged.later (acked : s.Acknowledged log) (later : Later s s')
    (more : List Exchange) : s'.Acknowledged (log ++ more) := by
  obtain ⟨before, after, event, xdgSurface, rfl, sent, configures, known⟩ := acked
  refine ⟨before, after ++ more, event, xdgSurface, ?_, sent, configures.later later,
    later.role _ _ nofun known⟩
  rw [later.serial, append_assoc, cons_append]

theorem Configured.later (configured : s.Configured log) (later : Later s s')
    (more : List Exchange) : s'.Configured (log ++ more) := by
  obtain ⟨event, sent, configures⟩ := configured.sent
  refine ⟨?_, event, mem_append_left _ sent, configures.later later⟩
  intro interface member
  obtain ⟨id, known⟩ := configured.filled interface member
  have named : interface ≠ .callback := by
    rintro rfl
    simp [requiredInterfaces] at member
  exact ⟨id, later.role interface id named known⟩

theorem Damages.later (damages : s.Damages request) (later : Later s s') : s'.Damages request := by
  obtain ⟨surface, width, height, buffer, rfl, known, found, wide, high⟩ := damages
  exact ⟨surface, width, height, buffer, rfl, later.role .surface surface nofun known,
    later.buffer buffer found, wide, high⟩

theorem Versioned.later (versioned : s.Versioned) (later : Later s s')
    (held : ∀ object ∈ s.objects.held, object.interface = .surface → object ∈ s'.objects.held) :
    s'.Versioned := by
  obtain ⟨object, member, known, active, surface, version⟩ := versioned
  exact ⟨object, held object member surface, later.role .surface _ nofun known, active, surface,
    version⟩

/-! ## One request -/

theorem Applied.later (applied : Applied pixelLength s request s') : Later s s' := by
  constructor
  · intro interface id _ known
    rw [applied.role, roleAfter]
    split
    case h_1 new created creates =>
      split
      case isTrue same =>
        subst same
        rw [applied.once _ _ creates] at known
        cases known
      case isFalse => exact known
    case h_2 => exact known
  · intro buffer known
    rcases applied.buffer with same | ⟨none, -⟩
    · rw [same]
      exact known
    · rw [none] at known
      cases known
  · exact applied.serial

/-- A role after a request is an old one or that of the new object. -/
theorem Applied.role_cases (applied : Applied pixelLength s request s')
    (known : s'.role interface = some id) :
    s.role interface = some id ∨ request.newObject = some (id, interface) := by
  rw [applied.role, roleAfter] at known
  split at known
  case h_1 new created creates =>
    split at known
    case isTrue same =>
      cases known
      rw [same]
      exact .inr creates
    case isFalse => exact .inl known
  case h_2 => exact .inl known

/-- What one round of the loop does. -/
theorem acceptFrame_ok {remaining : Bytes}
    (accepted : s.acceptFrame wire fd pixelLength = .ok (s', request, remaining)) :
    ∃ objects, ∃ object ∈ s.objects.held, object.state = .active ∧
      s.objects.Served object objects request ∧
      Applied pixelLength { s with objects := objects } request s' ∧ s.committed = false := by
  unfold acceptFrame at accepted
  split at accepted
  case isTrue => cases accepted
  case isFalse open' =>
  simp only [Except.bind_eq_ok_iff] at accepted
  obtain ⟨_, -, _, -, ⟨objects, request', remaining'⟩, dispatched, s'', applied, finished⟩ :=
    accepted
  cases finished
  obtain ⟨object, member, active, served, -⟩ := ObjectMap.dispatch_ok (liftWire_ok dispatched)
  refine ⟨objects, object, member, active, served, applyRequest_ok applied, ?_⟩
  cases committed : s.committed with
  | false => rfl
  | true =>
    rw [committed, Bool.or_true] at open'
    exact absurd rfl open'

/-- A request that the log did not have yet and was heard. -/
theorem heard_snoc (earlier : ∀ request, .received request ∈ log → s.Heard request)
    (last : s.Heard request) :
    ∀ request', .received request' ∈ log ++ [.received request] → s.Heard request' := by
  intro request' member
  rcases mem_append.mp member with old | new
  · exact earlier request' old
  · cases mem_singleton.mp new
    exact last

/-- One request keeps what is known. -/
theorem Known.afterRequest (known : s.Known log) (served : s.objects.Served object objects request)
    (applied : Applied pixelLength { s with objects := objects } request s') :
    s'.Known (log ++ [.received request]) := by
  have introduced := served.introduced applied.kept
  have later : Later s s' := (later_objects objects).trans applied.later
  have held : ∀ object ∈ s.objects.held, object ∈ s'.objects.held := by
    rw [applied.objects]
    exact fun object => introduced.held
  constructor
  case objects =>
    rw [applied.objects]
    exact introduced.wellFormed known.objects
  case bounded =>
    intro object member
    rw [applied.objects] at member
    rcases introduced.held_cases member with old | ⟨named, interface, new⟩
    · exact known.bounded object old
    · exact ⟨pos_of_ne_zero named, served.bounded _ interface new⟩
  case live =>
    intro interface id role
    rcases applied.role_cases role with old | new
    · exact (known.live interface id (by simpa using old)).mono held
    · rw [applied.objects]
      exact introduced.live_new new
  case introduced =>
    intro interface id client role
    rcases applied.role_cases role with old | new
    · obtain ⟨request', member, creates⟩ :=
        known.introduced interface id client (by simpa using old)
      exact ⟨request', mem_append_left _ member, creates⟩
    · exact ⟨request, mem_append_right _ mem_cons_self, new⟩
  case heard =>
    exact heard_snoc (fun request' member => (known.heard request' member).later later)
      ⟨applied.later.names applied.names, served.bound⟩
  case proper =>
    intro buffer found
    rcases applied.buffer with same | ⟨-, new, set, proper⟩
    · rw [same] at found
      exact known.proper buffer found
    · cases set.symm.trans found
      exact proper
  case acked =>
    intro acked
    rcases applied.acked with same | ⟨phase, xdgSurface, named, rfl⟩
    · rw [same] at acked
      exact (known.acked acked).later later _
    -- the acknowledgement itself: the configure was sent when this phase was entered
    obtain ⟨event, sent, configures⟩ := (known.configured (.inl phase)).sent
    refine ⟨log, [], event, xdgSurface, ?_, sent, configures.later later,
      later.role _ _ nofun named⟩
    rw [applied.serial]
  case configured =>
    intro phase
    rw [applied.phase] at phase
    exact (known.configured phase).later later _

/-- One request raises a flag only if it is the request the flag stands for. -/
theorem Raised.afterRequest (known : s.Known log) (raised : s.Raised pixelLength batch)
    (member : object ∈ s.objects.held) (active : object.state = .active)
    (served : s.objects.Served object objects request)
    (applied : Applied pixelLength { s with objects := objects } request s')
    (uncommitted : s.committed = false) : s'.Raised pixelLength (batch ++ [request]) := by
  have introduced := served.introduced applied.kept
  have later : Later s s' := (later_objects objects).trans applied.later
  have held : ∀ object ∈ s.objects.held, object ∈ s'.objects.held := by
    rw [applied.objects]
    exact fun object => introduced.held
  constructor
  case damaged =>
    intro damaged
    rcases applied.damaged with same | ⟨-, damages⟩
    · rw [same] at damaged
      obtain ⟨⟨request', inBatch, damages⟩, versioned⟩ := raised.damaged damaged
      exact ⟨⟨request', mem_append_left _ inBatch, damages.later later⟩,
        versioned.later later fun object member _ => held object member⟩
    · refine ⟨⟨request, mem_append_right _ mem_cons_self, damages.later applied.later⟩, ?_⟩
      obtain ⟨surface, width, height, buffer, rfl, onSurface, -⟩ := damages
      obtain ⟨named, version⟩ := served.damaged _ _ _ _ _ rfl
      obtain ⟨object', member', same, isSurface, -⟩ := known.live .surface surface onSurface
      obtain rfl := known.objects.object_unique member member' (named.trans same.symm)
      exact ⟨object, held object member, by rw [named]; exact later.role .surface _ nofun onSurface,
        active, isSurface, version⟩
  case committed =>
    intro committed
    rcases applied.committed with same | ⟨-, complete⟩
    · rw [same] at committed
      cases uncommitted.symm.trans committed
    · exact complete
  case early =>
    intro phase
    rw [applied.phase] at phase
    obtain ⟨undamaged, -⟩ := raised.early phase
    refine ⟨?_, ?_⟩
    · rcases applied.damaged with same | ⟨configured, -⟩
      · exact same.trans undamaged
      · exact absurd configured phase
    · rcases applied.committed with same | ⟨configured, -⟩
      · exact same.trans uncommitted
      · exact absurd configured phase
  case initial =>
    intro phase
    rw [applied.phase] at phase
    rcases applied.initial with same | early
    · exact same.trans (raised.initial phase)
    · exact absurd early phase

/-- What every accepted frame keeps, with its request behind those before, holds at the end of
the loop of a batch. -/
theorem acceptFrames_keeps (holds : SingleSurfaceSession → List Request → Prop)
    (kept : ∀ s s' request done wire rest, holds s done →
      s.acceptFrame wire fd pixelLength = .ok (s', request, rest) → holds s' (done ++ [request]))
    (done : List Request) (start : holds s done)
    (accepted : acceptFrames fuel s wire fd pixelLength = .ok (s', requests)) :
    holds s' (done ++ requests) := by
  induction fuel generalizing s wire done requests with
  | zero =>
    cases wire with
    | nil =>
      cases accepted
      rwa [append_nil]
    | cons byte rest => cases accepted
  | succ fuel ih =>
    cases wire with
    | nil =>
      cases accepted
      rwa [append_nil]
    | cons byte rest =>
      unfold acceptFrames at accepted
      simp only [Except.bind_eq_ok_iff] at accepted
      obtain ⟨⟨s₁, request, remaining⟩, first, ⟨s₂, requests'⟩, others, finished⟩ := accepted
      cases finished
      have final := ih _ (kept _ _ _ _ _ _ start first) others
      rwa [append_assoc] at final

/-- The loop of a batch stays in its phase. -/
theorem acceptFrames_phase (accepted : acceptFrames fuel s wire fd pixelLength = .ok (s', requests))
    : s'.phase = s.phase := by
  refine acceptFrames_keeps (fun s' _ => s'.phase = s.phase) ?_ [] rfl accepted
  intro s₁ s₂ request done wire rest same first
  obtain ⟨objects, object, -, -, -, applied, -⟩ := acceptFrame_ok first
  exact applied.phase.trans same

/-- The loop of a batch keeps what is known, and its flags are about this batch. -/
theorem Known.acceptFrames (known : s.Known log) (raised : s.Raised pixelLength [])
    (accepted : acceptFrames fuel s wire fd pixelLength = .ok (s', requests)) :
    s'.Known (log ++ requests.map .received) ∧ s'.Raised pixelLength requests := by
  have start : s.Known (log ++ [].map .received) ∧ s.Raised pixelLength [] := by
    simpa using ⟨known, raised⟩
  refine acceptFrames_keeps (fun s' requests =>
    s'.Known (log ++ requests.map .received) ∧ s'.Raised pixelLength requests) ?_ [] start accepted
  intro s₁ s₂ request done wire rest ⟨known, raised⟩ first
  obtain ⟨objects, object, member, active, served, applied, uncommitted⟩ := acceptFrame_ok first
  refine ⟨?_, Raised.afterRequest known raised member active served applied uncommitted⟩
  have after := known.afterRequest served applied
  rwa [append_assoc, ← map_singleton, ← map_append] at after

end History

end SingleSurfaceSession

end SlopOS.Wayland
