import SlopOS.Wayland.Requests

/-!
# The session of the one surface

A strict server for one toplevel with one shared-memory buffer.  `acceptBatch` applies
the requests of a batch one by one and ends in the event the server sends; `present`
frees the frame callback after the surface was shown.  A call that fails is meant to be
discarded by the caller, so both return the new session.
-/

namespace SlopOS.Wayland

open ByteCodec

inductive SurfaceError
  | wire (error : WireError)
  | unexpectedRequest
  | duplicateLifecycle
  | incompleteLifecycle
  | invalidConfigure
  | invalidBuffer
  | invalidMetadata
  deriving DecidableEq

inductive SurfacePhase
  | awaitRegistry
  | awaitInitialCommit
  | awaitConfiguredCommit
  | committed
  deriving DecidableEq

structure BufferState where
  id : Nat
  width : Nat
  height : Nat
  stride : Nat
  format : Nat
  deriving DecidableEq

structure CommittedSurface where
  surface : Nat
  buffer : Nat
  xdgSurface : Nat
  toplevel : Nat
  frameCallback : Nat
  seat : Nat
  pointer : Nat
  keyboard : Nat
  output : Nat
  width : Nat
  height : Nat
  stride : Nat
  format : Nat
  title : String
  appId : String
  deriving DecidableEq

inductive SurfaceSessionEvent
  | registry (registry : Nat)
  | configure (shm seat pointer keyboard output xdgSurface toplevel serial : Nat)
  | committed (surface : CommittedSurface)
  deriving DecidableEq

structure PresentedSurface where
  surface : Nat
  buffer : Nat
  frameCallback : Nat
  pointer : Nat
  keyboard : Nat
  deriving DecidableEq

/-- The connection is its object map; a `SurfaceText` is a string, empty if not set. -/
structure SingleSurfaceSession where
  objects : ObjectMap
  phase : SurfacePhase
  configureSerial : Nat
  registry : Option Nat
  compositor : Option Nat
  shm : Option Nat
  seat : Option Nat
  pointer : Option Nat
  keyboard : Option Nat
  output : Option Nat
  wmBase : Option Nat
  surface : Option Nat
  pool : Option Nat
  buffer : Option BufferState
  xdgSurface : Option Nat
  toplevel : Option Nat
  attached : Bool
  damaged : Bool
  frameCallback : Option Nat
  title : String
  appId : String
  initialCommitted : Bool
  configureAcked : Bool
  windowGeometry : Bool
  committed : Bool

def maxSurfaceMetadataLength : Nat := 31

/-- `SurfaceText::parse`. -/
def parseSurfaceText (value : String) : Except SurfaceError String :=
  if value.utf8ByteSize = 0 ∨ value.utf8ByteSize > maxSurfaceMetadataLength then
    .error .invalidMetadata
  else .ok value

def setOnce (slot : Option Nat) (value : Nat) : Except SurfaceError (Option Nat) :=
  if slot.isSome then .error .duplicateLifecycle else .ok (some value)

/-- A field that has to be set by now. -/
def require {α : Type} (field : Option α) : Except SurfaceError α :=
  match field with
  | none => .error .incompleteLifecycle
  | some value => .ok value

/-- `u32::try_from` of an `i32`. -/
def toU32 (value : Int) : Option Nat := if 0 ≤ value then some value.toNat else none

def liftWire {α : Type} (result : Except WireError α) : Except SurfaceError α :=
  match result with
  | .error error => .error (.wire error)
  | .ok value => .ok value

namespace SingleSurfaceSession

/-- A session over a map of `capacity` objects. -/
def new (capacity configureSerial : Nat) : Except SurfaceError SingleSurfaceSession :=
  if configureSerial = 0 then .error .invalidConfigure
  else do
    let objects ← liftWire (ObjectMap.new capacity)
    pure
      { objects := objects
        phase := .awaitRegistry
        configureSerial := configureSerial
        registry := none
        compositor := none
        shm := none
        seat := none
        pointer := none
        keyboard := none
        output := none
        wmBase := none
        surface := none
        pool := none
        buffer := none
        xdgSurface := none
        toplevel := none
        attached := false
        damaged := false
        frameCallback := none
        title := ""
        appId := ""
        initialCommitted := false
        configureAcked := false
        windowGeometry := false
        committed := false }

variable (s : SingleSurfaceSession)

def applyBind (interface : Interface) (newId : Nat) : Except SurfaceError SingleSurfaceSession :=
  match interface with
  | .compositor => do
    let compositor ← setOnce s.compositor newId
    pure { s with compositor := compositor }
  | .shm => do
    let shm ← setOnce s.shm newId
    pure { s with shm := shm }
  | .seat => do
    let seat ← setOnce s.seat newId
    pure { s with seat := seat }
  | .output => do
    let output ← setOnce s.output newId
    pure { s with output := output }
  | .xdgWmBase => do
    let wmBase ← setOnce s.wmBase newId
    pure { s with wmBase := wmBase }
  | _ => .error .unexpectedRequest

/-- The checks on a new buffer. -/
def applyCreateBuffer (buffer : Nat) (offset width height stride : Int) (format pixelLength : Nat) :
    Except SurfaceError SingleSurfaceSession :=
  if offset ≠ 0 ∨ format ≠ 1 then .error .invalidBuffer
  else match toU32 width, toU32 height, toU32 stride with
    | some width, some height, some stride =>
      if width * 4 ≥ 2 ^ 32 ∨ stride * height ≥ 2 ^ 32 then .error .invalidBuffer
      else if stride ≠ width * 4 ∨ stride * height ≠ pixelLength then .error .invalidBuffer
      else .ok { s with buffer := some ⟨buffer, width, height, stride, format⟩ }
    | _, _, _ => .error .invalidBuffer

/-- A rectangle has to be the whole buffer. -/
def requireWhole (width height : Int) : Except SurfaceError Unit := do
  let buffer ← require s.buffer
  if toU32 width ≠ some buffer.width ∨ toU32 height ≠ some buffer.height then
    .error .invalidBuffer
  else .ok ()

/-- The checks of a commit after the configure. -/
def applyCommit (pixelLength : Nat) : Except SurfaceError SingleSurfaceSession := do
  let buffer ← require s.buffer
  if buffer.stride * buffer.height ≥ 2 ^ 32 then .error .invalidBuffer
  else if buffer.stride * buffer.height ≠ pixelLength then .error .invalidBuffer
  else if !s.configureAcked || !s.attached || !s.damaged || !s.windowGeometry ||
      s.frameCallback.isNone then .error .incompleteLifecycle
  else .ok { s with committed := true }

/-- The requests admitted before the initial commit. -/
def applyInitial (request : Request) : Except SurfaceError SingleSurfaceSession :=
  match request with
  | .bind registry _ interface _ newId =>
    if s.registry = some registry then s.applyBind interface newId
    else .error .unexpectedRequest
  | .seatGetPointer seat pointer =>
    if s.seat = some seat then do
      let pointer ← setOnce s.pointer pointer
      pure { s with pointer := pointer }
    else .error .unexpectedRequest
  | .seatGetKeyboard seat keyboard =>
    if s.seat = some seat then do
      let keyboard ← setOnce s.keyboard keyboard
      pure { s with keyboard := keyboard }
    else .error .unexpectedRequest
  | .createSurface compositor surface =>
    if s.compositor = some compositor then do
      let surface ← setOnce s.surface surface
      pure { s with surface := surface }
    else .error .unexpectedRequest
  | .xdgGetSurface wmBase xdgSurface surface =>
    if s.wmBase = some wmBase ∧ s.surface = some surface then do
      let xdgSurface ← setOnce s.xdgSurface xdgSurface
      pure { s with xdgSurface := xdgSurface }
    else .error .unexpectedRequest
  | .xdgGetToplevel xdgSurface toplevel =>
    if s.xdgSurface = some xdgSurface then do
      let toplevel ← setOnce s.toplevel toplevel
      pure { s with toplevel := toplevel }
    else .error .unexpectedRequest
  | .toplevelSetTitle toplevel title =>
    if s.toplevel = some toplevel ∧ s.title = "" then do
      let title ← parseSurfaceText title
      pure { s with title := title }
    else .error .unexpectedRequest
  | .toplevelSetAppId toplevel appId =>
    if s.toplevel = some toplevel ∧ s.appId = "" then do
      let appId ← parseSurfaceText appId
      pure { s with appId := appId }
    else .error .unexpectedRequest
  | .surfaceCommit surface =>
    if s.surface = some surface then .ok { s with initialCommitted := true }
    else .error .unexpectedRequest
  | _ => .error .unexpectedRequest

section

variable (request : Request) (inlineFileDescriptor : Int) (pixelLength : Nat)

/-- The requests admitted after the configure was sent. -/
def applyConfigured : Except SurfaceError SingleSurfaceSession :=
  match request with
  | .shmCreatePool shm pool fd size =>
    if s.shm = some shm ∧ fd = inlineFileDescriptor ∧ toU32 size = some pixelLength then do
      let pool ← setOnce s.pool pool
      pure { s with pool := pool }
    else .error .unexpectedRequest
  | .shmPoolCreateBuffer pool buffer offset width height stride format =>
    if s.pool = some pool ∧ s.buffer = none then
      s.applyCreateBuffer buffer offset width height stride format pixelLength
    else .error .unexpectedRequest
  | .xdgAckConfigure xdgSurface serial =>
    if s.xdgSurface = some xdgSurface ∧ serial = s.configureSerial ∧ s.configureAcked = false then
      .ok { s with configureAcked := true }
    else .error .unexpectedRequest
  | .xdgSetWindowGeometry xdgSurface x y width height =>
    if x = 0 ∧ y = 0 ∧ s.xdgSurface = some xdgSurface ∧ s.windowGeometry = false then do
      s.requireWhole width height
      pure { s with windowGeometry := true }
    else .error .unexpectedRequest
  | .surfaceAttach surface buffer x y =>
    if buffer.isSome ∧ x = 0 ∧ y = 0 ∧ s.surface = some surface ∧
        s.buffer.map BufferState.id = buffer ∧ s.attached = false then
      .ok { s with attached := true }
    else .error .unexpectedRequest
  | .surfaceDamage surface bufferCoordinates x y width height =>
    if bufferCoordinates = true ∧ x = 0 ∧ y = 0 ∧ s.surface = some surface ∧
        s.damaged = false then do
      s.requireWhole width height
      pure { s with damaged := true }
    else .error .unexpectedRequest
  | .surfaceFrame surface callback =>
    if s.surface = some surface ∧ s.frameCallback = none then
      .ok { s with frameCallback := some callback }
    else .error .unexpectedRequest
  | .surfaceCommit surface =>
    if s.surface = some surface then s.applyCommit pixelLength else .error .unexpectedRequest
  | _ => .error .unexpectedRequest

/-- `apply`, by phase. -/
def applyRequest : Except SurfaceError SingleSurfaceSession :=
  match s.phase with
  | .awaitRegistry =>
    match request with
    | .getRegistry registry => do
      let registry ← setOnce s.registry registry
      pure { s with registry := registry }
    | _ => .error .unexpectedRequest
  | .awaitInitialCommit => s.applyInitial request
  | .awaitConfiguredCommit => s.applyConfigured request inlineFileDescriptor pixelLength
  | .committed => .error .unexpectedRequest

end

variable (wire : Bytes) (inlineFileDescriptor : Option Int) (pixelLength : Nat)

/-- One round of the loop in `accept_batch`. -/
def acceptFrame : Except SurfaceError (SingleSurfaceSession × Request × Bytes) :=
  if s.initialCommitted || s.committed then .error .unexpectedRequest
  else do
    let (frame, _) ← liftWire (Frame.decode wire)
    let object ← liftWire (s.objects.get frame.header.objectId)
    let suppliesFd := object.interface = .shm ∧ frame.header.opcode = 0
    let descriptor := inlineFileDescriptor.getD 0
    let descriptors := if suppliesFd ∧ inlineFileDescriptor.isSome then [descriptor] else []
    let (objects, request, remaining) ← liftWire (s.objects.dispatch wire descriptors)
    let s ← { s with objects := objects }.applyRequest request descriptor pixelLength
    pure (s, request, remaining)

/-- The loop of `accept_batch`, with the requests it has applied.  Each round uses up
bytes, so `fuel` may be the length of the batch. -/
def acceptFrames : Nat → SingleSurfaceSession → Bytes → Option Int → Nat →
    Except SurfaceError (SingleSurfaceSession × List Request)
  | _, s, [], _, _ => .ok (s, [])
  | 0, _, _ :: _, _, _ => .error .unexpectedRequest
  | fuel + 1, s, byte :: rest, inlineFileDescriptor, pixelLength => do
    let (s, request, remaining) ← s.acceptFrame (byte :: rest) inlineFileDescriptor pixelLength
    let (s, requests) ← acceptFrames fuel s remaining inlineFileDescriptor pixelLength
    pure (s, request :: requests)

def snapshot : Except SurfaceError CommittedSurface := do
  let buffer ← require s.buffer
  pure
    { surface := ← require s.surface
      buffer := buffer.id
      xdgSurface := ← require s.xdgSurface
      toplevel := ← require s.toplevel
      frameCallback := ← require s.frameCallback
      seat := ← require s.seat
      pointer := ← require s.pointer
      keyboard := ← require s.keyboard
      output := ← require s.output
      width := buffer.width
      height := buffer.height
      stride := buffer.stride
      format := buffer.format
      title := s.title
      appId := s.appId }

/-- The end of `accept_batch`: the event to send and the next phase. -/
def conclude : Except SurfaceError (SingleSurfaceSession × SurfaceSessionEvent) :=
  match s.phase with
  | .awaitRegistry => do
    let registry ← require s.registry
    pure ({ s with phase := .awaitInitialCommit }, .registry registry)
  | .awaitInitialCommit =>
    if !s.initialCommitted || s.compositor.isNone || s.shm.isNone || s.seat.isNone ||
        s.pointer.isNone || s.keyboard.isNone || s.output.isNone || s.wmBase.isNone ||
        s.surface.isNone || s.xdgSurface.isNone || s.toplevel.isNone || s.title = "" ||
        s.appId = "" then .error .incompleteLifecycle
    else do
      let shm ← require s.shm
      let seat ← require s.seat
      let pointer ← require s.pointer
      let keyboard ← require s.keyboard
      let output ← require s.output
      let xdgSurface ← require s.xdgSurface
      let toplevel ← require s.toplevel
      pure ({ s with initialCommitted := false, phase := .awaitConfiguredCommit },
        .configure shm seat pointer keyboard output xdgSurface toplevel s.configureSerial)
  | .awaitConfiguredCommit =>
    if !s.committed then .error .incompleteLifecycle
    else do
      let surface ← s.snapshot
      pure ({ s with phase := .committed }, .committed surface)
  | .committed => .error .unexpectedRequest

/-- What a successful batch leaves behind. -/
structure Accepted where
  session : SingleSurfaceSession
  event : SurfaceSessionEvent
  requests : List Request

/-- The batch does not fit the phase. -/
def unfit : Prop :=
  wire = [] ∨ s.phase = .committed ∨ (s.phase = .awaitConfiguredCommit ↔ pixelLength = 0) ∨
    (s.phase ≠ .awaitConfiguredCommit ∧ (inlineFileDescriptor.isSome ∨ pixelLength ≠ 0)) ∨
    (s.pool.isSome ∧ inlineFileDescriptor.isSome)

instance (wire : Bytes) (inlineFileDescriptor : Option Int) (pixelLength : Nat) :
    Decidable (s.unfit wire inlineFileDescriptor pixelLength) :=
  inferInstanceAs (Decidable (_ ∨ _ ∨ (_ ↔ _) ∨ (_ ∧ (_ ∨ _)) ∨ (_ ∧ _)))

def acceptBatch : Except SurfaceError Accepted :=
  if s.unfit wire inlineFileDescriptor pixelLength then .error .unexpectedRequest
  else do
    let (s, requests) ← acceptFrames wire.length s wire inlineFileDescriptor pixelLength
    let (s, event) ← s.conclude
    pure ⟨s, event, requests⟩

def present : Except SurfaceError (SingleSurfaceSession × PresentedSurface) :=
  if s.phase ≠ .committed then .error .unexpectedRequest
  else do
    let surface ← require s.surface
    let buffer ← require s.buffer
    let frameCallback ← require s.frameCallback
    let pointer ← require s.pointer
    let keyboard ← require s.keyboard
    let objects ← liftWire (s.objects.retire frameCallback)
    let objects ← liftWire (objects.deleteIdSent frameCallback)
    pure ({ s with
      objects := objects, attached := false, damaged := false, frameCallback := none
      committed := false, phase := .awaitConfiguredCommit },
      ⟨surface, buffer.id, frameCallback, pointer, keyboard⟩)

end SingleSurfaceSession

end SlopOS.Wayland
