import SlopOS.Wayland.Session

/-!
# What one request does to the session

The session names one object for each interface.  `Applied` says what a request that was
admitted does: it addresses the objects the session names, fills the role of the object
it creates, which was free, and raises a flag only if it is the request the flag stands
for.
-/

namespace SlopOS.Wayland

open ByteCodec List

/-- The objects a request is about, besides the one it creates. -/
def Request.named : Request → List (Interface × Nat)
  | bind registry _ _ _ _ => [(.registry, registry)]
  | createSurface compositor _ => [(.compositor, compositor)]
  | surfaceDamage surface _ _ _ _ _ => [(.surface, surface)]
  | surfaceFrame surface _ => [(.surface, surface)]
  | surfaceCommit surface => [(.surface, surface)]
  | surfaceAttach surface buffer _ _ => (.surface, surface) :: buffer.toList.map (.buffer, ·)
  | shmCreatePool shm _ _ _ => [(.shm, shm)]
  | shmPoolCreateBuffer pool _ _ _ _ _ _ => [(.shmPool, pool)]
  | seatGetPointer seat _ => [(.seat, seat)]
  | seatGetKeyboard seat _ => [(.seat, seat)]
  | xdgGetSurface wmBase _ surface => [(.xdgWmBase, wmBase), (.surface, surface)]
  | xdgGetToplevel xdgSurface _ => [(.xdgSurface, xdgSurface)]
  | xdgAckConfigure xdgSurface _ => [(.xdgSurface, xdgSurface)]
  | xdgSetWindowGeometry xdgSurface _ _ _ _ => [(.xdgSurface, xdgSurface)]
  | toplevelSetTitle toplevel _ => [(.xdgToplevel, toplevel)]
  | toplevelSetAppId toplevel _ => [(.xdgToplevel, toplevel)]
  | _ => []

namespace SingleSurfaceSession

variable (s : SingleSurfaceSession)

/-- The object the session knows for an interface. -/
def role : Interface → Option Nat
  | .display => some displayObjectId
  | .registry => s.registry
  | .compositor => s.compositor
  | .shm => s.shm
  | .seat => s.seat
  | .pointer => s.pointer
  | .keyboard => s.keyboard
  | .output => s.output
  | .xdgWmBase => s.wmBase
  | .surface => s.surface
  | .shmPool => s.pool
  | .buffer => s.buffer.map BufferState.id
  | .xdgSurface => s.xdgSurface
  | .xdgToplevel => s.toplevel
  | .callback => s.frameCallback
  | .region => none

/-- The roles after a request. -/
def roleAfter (request : Request) (interface : Interface) : Option Nat :=
  match request.newObject with
  | some (id, created) => if interface = created then some id else s.role interface
  | none => s.role interface

/-- Rows of four-byte pixels without padding, in 32 bits. -/
structure BufferState.Proper (buffer : BufferState) : Prop where
  stride : buffer.stride = buffer.width * 4
  rowFits : buffer.width * 4 < 2 ^ 32
  fits : buffer.stride * buffer.height < 2 ^ 32

/-- The request damages the whole buffer. -/
def Damages (request : Request) : Prop :=
  ∃ surface width height buffer, request = .surfaceDamage surface true 0 0 width height ∧
    s.surface = some surface ∧ s.buffer = some buffer ∧ toU32 width = some buffer.width ∧
    toU32 height = some buffer.height

/-- Everything a commit asks for is there. -/
structure Complete (s : SingleSurfaceSession) (pixelLength : Nat) : Prop where
  buffer : ∃ buffer, s.buffer = some buffer ∧ buffer.stride * buffer.height = pixelLength
  acked : s.configureAcked = true
  attached : s.attached = true
  damaged : s.damaged = true
  geometry : s.windowGeometry = true
  callback : ∃ callback, s.frameCallback = some callback

structure Applied (pixelLength : Nat) (s : SingleSurfaceSession) (request : Request)
    (s' : SingleSurfaceSession) : Prop where
  objects : s'.objects = s.objects
  phase : s'.phase = s.phase
  serial : s'.configureSerial = s.configureSerial
  kept : ∀ id interface, request ≠ .destroy id interface
  once : ∀ id interface, request.newObject = some (id, interface) → s.role interface = none
  role : ∀ interface, s'.role interface = s.roleAfter request interface
  names : ∀ p ∈ request.named, s.role p.1 = some p.2
  buffer : s'.buffer = s.buffer ∨
    s.buffer = none ∧ ∃ buffer, s'.buffer = some buffer ∧ BufferState.Proper buffer
  acked : s'.configureAcked = s.configureAcked ∨ s.phase = .awaitConfiguredCommit ∧
    ∃ xdgSurface, s.xdgSurface = some xdgSurface ∧
      request = .xdgAckConfigure xdgSurface s.configureSerial
  damaged : s'.damaged = s.damaged ∨ s.phase = .awaitConfiguredCommit ∧ Damages s request
  committed : s'.committed = s.committed ∨
    s.phase = .awaitConfiguredCommit ∧ Complete s' pixelLength
  initial : s'.initialCommitted = s.initialCommitted ∨ s.phase = .awaitInitialCommit

section Apply

variable {s s' : SingleSurfaceSession} {request : Request} {pixelLength : Nat} {α : Type}
  {value : α} {interface : Interface} {field : Option α}

theorem setOnce_ok {slot slot' : Option Nat} {value : Nat} (set : setOnce slot value = .ok slot') :
    slot = none ∧ slot' = some value := by
  unfold setOnce at set
  split at set
  case isTrue => cases set
  case isFalse empty =>
    cases set
    exact ⟨by simpa using empty, rfl⟩

theorem require_eq_ok_iff : require field = .ok value ↔ field = some value := by
  cases field <;> simp [require]

theorem liftWire_ok {result : Except WireError α} (lifted : liftWire result = .ok value) :
    result = .ok value := by
  cases result with
  | error error => cases lifted
  | ok found =>
    cases lifted
    rfl

theorem requireWhole_ok {width height : Int} {u : Unit} (whole : s.requireWhole width height = .ok u) :
    ∃ buffer, s.buffer = some buffer ∧ toU32 width = some buffer.width ∧
      toU32 height = some buffer.height := by
  simp only [requireWhole, Except.bind_eq_ok_iff, require_eq_ok_iff, Except.guard_eq_ok_iff, not_or,
    not_not] at whole
  exact whole

/-- A request that creates an object for a free role and raises no flag. -/
theorem Applied.creates {id : Nat} (new : request.newObject = some (id, interface))
    (free : s.role interface = none) (names : ∀ p ∈ request.named, s.role p.1 = some p.2)
    (buffer : s'.buffer = s.buffer ∨
      s.buffer = none ∧ ∃ buffer, s'.buffer = some buffer ∧ BufferState.Proper buffer)
    (objects : s'.objects = s.objects := by rfl) (phase : s'.phase = s.phase := by rfl)
    (serial : s'.configureSerial = s.configureSerial := by rfl)
    (role : ∀ interface, s'.role interface = s.roleAfter request interface := by
      intro interface; cases interface <;> rfl)
    (acked : s'.configureAcked = s.configureAcked := by rfl)
    (damaged : s'.damaged = s.damaged := by rfl) (committed : s'.committed = s.committed := by rfl)
    (initial : s'.initialCommitted = s.initialCommitted := by rfl) :
    Applied pixelLength s request s' := by
  have kept : ∀ id interface, request ≠ .destroy id interface := by
    rintro id interface rfl
    cases new
  have once : ∀ id interface, request.newObject = some (id, interface) →
      s.role interface = none := by
    intro id interface new'
    cases new.symm.trans new'
    exact free
  exact ⟨objects, phase, serial, kept, once, role, names, buffer, .inl acked, .inl damaged,
    .inl committed, .inl initial⟩

theorem applyBind_ok {newId registry name version : Nat} (known : s.registry = some registry)
    (applied : s.applyBind interface newId = .ok s') :
    Applied pixelLength s (.bind registry name interface version newId) s' := by
  unfold applyBind at applied
  split at applied
  case h_6 => cases applied
  all_goals
    obtain ⟨slot, set, applied⟩ := Except.bind_ok applied
    obtain ⟨free, rfl⟩ := setOnce_ok set
    cases applied
    exact .creates rfl free (forall_mem_singleton.mpr known) (.inl rfl)

/-- A request that creates nothing. -/
theorem Applied.remarks (none : request.newObject = none)
    (kept : ∀ id interface, request ≠ .destroy id interface)
    (names : ∀ p ∈ request.named, s.role p.1 = some p.2)
    (acked : s'.configureAcked = s.configureAcked ∨ s.phase = .awaitConfiguredCommit ∧
      ∃ xdgSurface, s.xdgSurface = some xdgSurface ∧
        request = .xdgAckConfigure xdgSurface s.configureSerial)
    (damaged : s'.damaged = s.damaged ∨ s.phase = .awaitConfiguredCommit ∧ Damages s request)
    (committed : s'.committed = s.committed ∨
      s.phase = .awaitConfiguredCommit ∧ Complete s' pixelLength)
    (initial : s'.initialCommitted = s.initialCommitted ∨ s.phase = .awaitInitialCommit)
    (objects : s'.objects = s.objects := by rfl) (phase : s'.phase = s.phase := by rfl)
    (serial : s'.configureSerial = s.configureSerial := by rfl)
    (role : ∀ interface, s'.role interface = s.role interface := by intro; rfl)
    (buffer : s'.buffer = s.buffer := by rfl) : Applied pixelLength s request s' := by
  have once : ∀ id interface, request.newObject = some (id, interface) →
      s.role interface = .none := by
    intro id interface new
    cases none.symm.trans new
  have role' : ∀ interface, s'.role interface = s.roleAfter request interface := by
    intro interface
    rw [roleAfter, none]
    exact role interface
  exact ⟨objects, phase, serial, kept, once, role', names, .inl buffer, acked, damaged, committed,
    initial⟩

theorem applyInitial_ok (phase : s.phase = .awaitInitialCommit)
    (applied : s.applyInitial request = .ok s') : Applied pixelLength s request s' := by
  unfold applyInitial at applied
  split at applied
  case h_10 => cases applied
  all_goals
    split at applied
    case isFalse => cases applied
  case h_1.isTrue known => exact applyBind_ok known applied
  case h_9.isTrue known =>
    cases applied
    exact .remarks rfl nofun (forall_mem_singleton.mpr known) (.inl rfl) (.inl rfl) (.inl rfl)
      (.inr phase)
  case h_7.isTrue known | h_8.isTrue known =>
    obtain ⟨text, -, applied⟩ := Except.bind_ok applied
    cases applied
    exact .remarks rfl nofun (forall_mem_singleton.mpr known.1) (.inl rfl) (.inl rfl) (.inl rfl)
      (.inl rfl)
  all_goals
    rename_i known
    obtain ⟨slot, set, applied⟩ := Except.bind_ok applied
    obtain ⟨free, rfl⟩ := setOnce_ok set
    cases applied
    refine .creates rfl free ?_ (.inl rfl)
  case h_5.isTrue =>
    exact forall_mem_cons.mpr ⟨known.1, forall_mem_singleton.mpr known.2⟩
  all_goals exact forall_mem_singleton.mpr known

theorem applyCreateBuffer_ok {pool buffer format : Nat} {offset width height stride : Int}
    (known : s.pool = some pool) (free : s.buffer = none)
    (applied : s.applyCreateBuffer buffer offset width height stride format pixelLength = .ok s') :
    Applied pixelLength s (.shmPoolCreateBuffer pool buffer offset width height stride format)
      s' := by
  simp only [applyCreateBuffer, Except.ite_error_eq_ok_iff] at applied
  obtain ⟨-, applied⟩ := applied
  split at applied
  case h_2 => cases applied
  simp only [Except.ite_error_eq_ok_iff, not_or, not_le, not_not] at applied
  obtain ⟨fits, exact', done⟩ := applied
  cases done
  exact .creates rfl (by rw [role, free]; rfl) (forall_mem_singleton.mpr known)
    (.inr ⟨free, _, rfl, exact'.1, fits.1, fits.2⟩)

theorem applyCommit_ok {surface : Nat} (phase : s.phase = .awaitConfiguredCommit)
    (known : s.surface = some surface) (applied : s.applyCommit pixelLength = .ok s') :
    Applied pixelLength s (.surfaceCommit surface) s' := by
  simp only [applyCommit, Except.bind_eq_ok_iff, require_eq_ok_iff, Except.ite_error_eq_ok_iff,
    Bool.or_eq_true, Bool.not_eq_true', Option.isNone_iff_eq_none, not_or, Bool.not_eq_false]
    at applied
  obtain ⟨buffer, found, -, length, ⟨⟨⟨⟨acked, attached⟩, damaged⟩, geometry⟩, callback⟩, done⟩ :=
    applied
  cases done
  exact .remarks rfl (fun _ _ same => by cases same) (forall_mem_singleton.mpr known) (.inl rfl)
    (.inl rfl) (.inr ⟨phase, ⟨buffer, found, not_not.mp length⟩, acked, attached, damaged, geometry,
    Option.ne_none_iff_exists'.mp callback⟩) (.inl rfl)

theorem applyConfigured_ok {fd : Int} (phase : s.phase = .awaitConfiguredCommit)
    (applied : s.applyConfigured request fd pixelLength = .ok s') :
    Applied pixelLength s request s' := by
  unfold applyConfigured at applied
  split at applied
  case h_9 => cases applied
  all_goals
    split at applied
    case isFalse => cases applied
  case h_1.isTrue known =>
    obtain ⟨slot, set, applied⟩ := Except.bind_ok applied
    obtain ⟨free, rfl⟩ := setOnce_ok set
    cases applied
    exact .creates rfl free (forall_mem_singleton.mpr known.1) (.inl rfl)
  case h_2.isTrue known => exact applyCreateBuffer_ok known.1 known.2 applied
  case h_3.isTrue known =>
    obtain ⟨known, rfl, -⟩ := known
    cases applied
    exact .remarks rfl nofun (forall_mem_singleton.mpr known) (.inr ⟨phase, _, known, rfl⟩)
      (.inl rfl) (.inl rfl) (.inl rfl)
  case h_4.isTrue known =>
    obtain ⟨u, whole, applied⟩ := Except.bind_ok applied
    cases applied
    exact .remarks rfl nofun (forall_mem_singleton.mpr known.2.2.1) (.inl rfl) (.inl rfl) (.inl rfl)
      (.inl rfl)
  case h_5.isTrue known =>
    obtain ⟨-, -, -, onSurface, attached, -⟩ := known
    cases applied
    refine .remarks rfl nofun (forall_mem_cons.mpr ⟨onSurface, ?_⟩) (.inl rfl) (.inl rfl) (.inl rfl)
      (.inl rfl)
    intro p member
    rw [← attached] at member
    obtain ⟨buffer, named, rfl⟩ := mem_map.mp member
    exact Option.mem_toList.mp named
  case h_6.isTrue known =>
    obtain ⟨rfl, rfl, rfl, onSurface, -⟩ := known
    obtain ⟨u, whole, applied⟩ := Except.bind_ok applied
    obtain ⟨buffer, found, wide, high⟩ := requireWhole_ok whole
    cases applied
    exact .remarks rfl nofun (forall_mem_singleton.mpr onSurface) (.inl rfl)
      (.inr ⟨phase, _, _, _, buffer, rfl, onSurface, found, wide, high⟩) (.inl rfl) (.inl rfl)
  case h_7.isTrue known =>
    cases applied
    exact .creates rfl known.2 (forall_mem_singleton.mpr known.1) (.inl rfl)
  case h_8.isTrue known => exact applyCommit_ok phase known applied

/-- What an admitted request does, in every phase. -/
theorem applyRequest_ok {fd : Int} (applied : s.applyRequest request fd pixelLength = .ok s') :
    Applied pixelLength s request s' := by
  unfold applyRequest at applied
  split at applied
  case h_1 =>
    split at applied
    case h_2 => cases applied
    obtain ⟨slot, set, applied⟩ := Except.bind_ok applied
    obtain ⟨free, rfl⟩ := setOnce_ok set
    cases applied
    exact .creates rfl free nofun (.inl rfl)
  case h_2 phase => exact applyInitial_ok phase applied
  case h_3 phase => exact applyConfigured_ok phase applied
  case h_4 => cases applied

end Apply

end SingleSurfaceSession

end SlopOS.Wayland
