import SlopOS.Base.Trace
import SlopOS.Wayland.Events

/-!
# The surface service of the kernel

Process 2 submits batches of requests, the desktop task takes the surface that was
published last and acknowledges it, and the socket service acknowledges the events it has
delivered.  System calls and tasks run one after the other on the one processor, so a call
is one step.  What a call of `fatal` leaves behind is kept, and nothing runs after it.
-/

namespace SlopOS.Wayland

open ByteCodec

def desktopServicePid : Nat := 2
def configureSerialValue : Nat := 1
def serverShmFd : Int := 1
def sessionCapacity : Nat := 16
def waylandSurfaceMaxWireSize : Nat := 768
def waylandSurfaceMaxPixelSize : Nat := 3072
def counterMax : Nat := 2 ^ 64 - 1

/-! ## The envelope of a commit -/

inductive ProtocolError
  | invalidMagic
  | invalidVersion
  | invalidSize
  | invalidEvent
  | invalidGeneration
  | invalidFileDescriptor
  | reservedBits
  deriving DecidableEq

structure WaylandSurfaceHeader where
  magic : Nat
  version : Nat
  size : Nat
  wireLength : Nat
  pixelLength : Nat
  fileDescriptor : Int
  reserved : Nat

structure WaylandSurfaceCommit where
  header : WaylandSurfaceHeader
  wire : Bytes
  pixels : Bytes

def waylandSurfaceMagic : Nat := 0x534c4f50574c5355
def waylandSurfaceVersion : Nat := 1
def waylandSurfaceHeaderSize : Nat := 32
def waylandInlineShmFd : Int := 0x534c
def waylandNoFileDescriptor : Int := -1

def waylandSurfaceMaxSize : Nat :=
  waylandSurfaceHeaderSize + waylandSurfaceMaxWireSize + waylandSurfaceMaxPixelSize

namespace WaylandSurfaceHeader

def totalSize (header : WaylandSurfaceHeader) : Except ProtocolError Nat :=
  let size := waylandSurfaceHeaderSize + header.wireLength + header.pixelLength
  if size ≤ waylandSurfaceMaxSize then .ok size else .error .invalidSize

def validate (header : WaylandSurfaceHeader) : Except ProtocolError Unit :=
  if header.magic ≠ waylandSurfaceMagic then .error .invalidMagic
  else if header.version ≠ waylandSurfaceVersion then .error .invalidVersion
  else if header.size ≠ waylandSurfaceHeaderSize then .error .invalidSize
  else if header.wireLength = 0 ∨ header.wireLength > waylandSurfaceMaxWireSize ∨
      header.wireLength % 4 ≠ 0 ∨ header.pixelLength > waylandSurfaceMaxPixelSize ∨
      header.pixelLength % 4 ≠ 0 then .error .invalidSize
  else if header.fileDescriptor ≠
      (if header.pixelLength = 0 then waylandNoFileDescriptor else waylandInlineShmFd) then
    .error .invalidFileDescriptor
  else if header.reserved ≠ 0 then .error .reservedBits
  else do
    let _ ← header.totalSize
    pure ()

end WaylandSurfaceHeader

def WaylandSurfaceCommit.validate (commit : WaylandSurfaceCommit) : Except ProtocolError Unit := do
  commit.header.validate
  if commit.wire.length ≠ commit.header.wireLength ∨
      commit.pixels.length ≠ commit.header.pixelLength then .error .invalidSize
  else .ok ()

/-! ## The service -/

inductive WaylandServiceError
  | permissionDenied
  | invalidProtocol
  | commitPending
  deriving DecidableEq

inductive WaylandSubmission
  | registry (eventSequence : Nat)
  | configure (eventSequence serial : Nat)
  | surface (generation : Nat) (metadata : CommittedSurface)

/-- A bank holds the pixels up to `pixel_length`; the bytes behind them are zero. -/
structure SurfaceBank where
  metadata : Option CommittedSurface
  pixels : Bytes

inductive EventKind
  | registry
  | configure
  | presented
  deriving DecidableEq

/-- The event bank, before the first event without a kind. -/
structure EventBank where
  kind : Option EventKind
  wire : Bytes

instance bankCount : NeZero 2 := ⟨by decide⟩

/-- A snapshot borrows the pixels of its bank. -/
structure WaylandSurfaceSnapshot where
  generation : Nat
  ownerPid : Nat
  bank : Fin 2
  metadata : CommittedSurface
  pixels : Bytes

/-- The statics of the service; `NO_BANK` is `none`. -/
structure SurfaceService where
  session : Option SingleSurfaceSession
  banks : Fin 2 → SurfaceBank
  publishedBank : Option (Fin 2)
  activeBank : Option (Fin 2)
  generation : Nat
  acknowledgedGeneration : Nat
  event : EventBank
  eventSequence : Nat
  eventAck : Nat

namespace SurfaceService

def boot : SurfaceService where
  session := none
  banks := fun _ => ⟨none, []⟩
  publishedBank := none
  activeBank := none
  generation := 0
  acknowledgedGeneration := 0
  event := ⟨none, []⟩
  eventSequence := 0
  eventAck := 0

variable (s : SurfaceService)

def publishEvent (kind : EventKind) (wire : Bytes) :
    Except WaylandServiceError (SurfaceService × Nat) :=
  if s.eventSequence ≠ s.eventAck ∨ wire = [] ∨ wire.length > waylandEventMaxWireSize then
    .error .commitPending
  else if s.eventSequence = counterMax then .error .commitPending
  else
    .ok ({ s with event := ⟨some kind, wire⟩, eventSequence := s.eventSequence + 1 },
      s.eventSequence + 1)

/-- What a submission leaves behind: the statics, the bank it wrote to, and its result. -/
structure Submitted where
  service : SurfaceService
  wrote : Option (Fin 2)
  result : Except WaylandServiceError WaylandSubmission

/-- A submission that failed before it wrote anything. -/
def refuse (error : WaylandServiceError) : Submitted := ⟨s, none, .error error⟩

/-- The bank that is not active. -/
def freeBank : Fin 2 := if s.activeBank = some 0 then 1 else 0

/-- The bank is written before the new generation is computed. -/
def publishSurface (pixels : Bytes) (metadata : CommittedSurface) : Submitted :=
  if s.generation ≠ s.acknowledgedGeneration then s.refuse .commitPending
  else
    let bank := s.freeBank
    let written := { s with banks := Function.update s.banks bank ⟨some metadata, pixels⟩ }
    if s.generation = counterMax then ⟨written, some bank, .error .commitPending⟩
    else
      ⟨{ written with publishedBank := some bank, generation := s.generation + 1 }, some bank,
        .ok (.surface (s.generation + 1) metadata)⟩

/-- The events of a batch are encoded and published, and the session replaced. -/
def answer (candidate : SingleSurfaceSession) (kind : EventKind) (events : List Encoder)
    (submission : Nat → WaylandSubmission) : Submitted :=
  match encodeBatch events with
  | .error _ => s.refuse .invalidProtocol
  | .ok wire =>
    match s.publishEvent kind wire with
    | .error error => s.refuse error
    | .ok (published, sequence) =>
      ⟨{ published with session := some candidate }, none, .ok (submission sequence)⟩

/-- The session a batch is applied to. -/
def candidate : Except SurfaceError SingleSurfaceSession :=
  match s.session with
  | some session => .ok session
  | none => SingleSurfaceSession.new sessionCapacity configureSerialValue

section

variable (pid : Nat) (wire : Bytes) (descriptorReceived : Bool) (pixels : Bytes)

def submitParts : Submitted :=
  if pid ≠ desktopServicePid then s.refuse .permissionDenied
  else if wire = [] ∨ wire.length > waylandSurfaceMaxWireSize ∨ wire.length % 4 ≠ 0 ∨
      pixels.length > waylandSurfaceMaxPixelSize ∨ pixels.length % 4 ≠ 0 then
    s.refuse .invalidProtocol
  else if s.eventSequence ≠ s.eventAck then s.refuse .commitPending
  else match s.candidate with
    | .error _ => s.refuse .invalidProtocol
    | .ok session =>
      let descriptor := if descriptorReceived then some serverShmFd else none
      match session.acceptBatch wire descriptor pixels.length with
      | .error _ => s.refuse .invalidProtocol
      | .ok ⟨candidate, .registry registry, _⟩ =>
        s.answer candidate .registry (registryEvents registry) .registry
      | .ok ⟨candidate, .configure shm seat _ keyboard output xdgSurface toplevel serial, _⟩ =>
        s.answer candidate .configure
          (configureEvents shm seat keyboard output xdgSurface toplevel serial)
          fun sequence => .configure sequence serial
      | .ok ⟨candidate, .committed metadata, _⟩ =>
        let published := s.publishSurface pixels metadata
        match published.result with
        | .error _ => published
        | .ok _ => { published with
            service := { published.service with session := some candidate } }

def submitWire : Submitted :=
  s.submitParts pid wire descriptorReceived pixels

end

def submit (pid : Nat) (commit : WaylandSurfaceCommit) : Submitted :=
  match commit.validate with
  | .error _ => s.refuse .invalidProtocol
  | .ok _ => s.submitParts pid commit.wire (commit.pixels ≠ []) commit.pixels

/-- The length of an event is checked again when it is read. -/
def eventAfter (afterSequence : Nat) : Option (Nat × EventKind × Bytes) :=
  if s.eventSequence = 0 ∨ s.eventSequence ≤ afterSequence then none
  else match s.event.kind with
    | none => none
    | some kind =>
      if s.event.wire = [] ∨ s.event.wire.length > waylandEventMaxWireSize ∨
          s.event.wire.length % 4 ≠ 0 then none
      else some (s.eventSequence, kind, s.event.wire)

def latestAfter (generation : Nat) : Option WaylandSurfaceSnapshot :=
  if s.generation = 0 ∨ s.generation = generation then none
  else match s.publishedBank with
    | none => none
    | some bank =>
      match (s.banks bank).metadata with
      | none => none
      | some metadata =>
        some ⟨s.generation, desktopServicePid, bank, metadata, (s.banks bank).pixels⟩

/-- Why the kernel stopped. -/
inductive Fatal
  | surfaceAcknowledgement
  | noSession
  | presentationLifecycle
  | eventEncoding
  | presentationPending
  | eventAcknowledgement
  deriving DecidableEq

/-- The statics after a call, and whether the kernel stopped in it. -/
structure Outcome where
  service : SurfaceService
  fatal : Option Fatal

def acknowledgeEvent (sequence : Nat) : Outcome :=
  if sequence = 0 ∨ sequence ≠ s.eventSequence ∨ s.eventAck ≠ sequence - 1 then
    ⟨s, some .eventAcknowledgement⟩
  else ⟨{ s with eventAck := sequence }, none⟩

/-- The presentation of an acknowledged surface. -/
def present (generation : Nat) : Outcome :=
  match s.session with
  | none => ⟨s, some .noSession⟩
  | some session =>
    match session.present with
    | .error _ => ⟨s, some .presentationLifecycle⟩
    | .ok (candidate, shown) =>
      match encodeBatch (presentedEvents shown generation) with
      | .error _ => ⟨s, some .eventEncoding⟩
      | .ok wire =>
        match s.publishEvent .presented wire with
        | .error _ => ⟨s, some .presentationPending⟩
        | .ok (published, _) => ⟨{ published with session := some candidate }, none⟩

def acknowledge (generation : Nat) : Outcome :=
  match s.publishedBank with
  | none => ⟨s, some .surfaceAcknowledgement⟩
  | some bank =>
    if generation = 0 ∨ generation ≠ s.generation ∨
        s.acknowledgedGeneration ≠ generation - 1 then ⟨s, some .surfaceAcknowledgement⟩
    else
      { s with acknowledgedGeneration := generation, activeBank := some bank }.present generation

end SurfaceService

/-! ## Calls in any order -/

inductive ServiceCall
  | submit (pid : Nat) (commit : WaylandSurfaceCommit)
  | submitWire (pid : Nat) (wire : Bytes) (descriptorReceived : Bool) (pixels : Bytes)
  | latestAfter (generation : Nat)
  | acknowledge (generation : Nat)
  | eventAfter (afterSequence : Nat)
  | acknowledgeEvent (sequence : Nat)

inductive ServiceReply
  | submitted (wrote : Option (Fin 2)) (result : Except WaylandServiceError WaylandSubmission)
  | snapshot (snapshot : Option WaylandSurfaceSnapshot)
  | event (event : Option (Nat × EventKind × Bytes))
  | acknowledged
  | fatal (reason : SurfaceService.Fatal)
  | halted

structure ServiceSystem where
  service : SurfaceService
  halted : Bool

namespace ServiceSystem

def boot : ServiceSystem := ⟨.boot, false⟩

/-- The end of a submission. -/
def submitted (outcome : SurfaceService.Submitted) : ServiceSystem × ServiceReply :=
  (⟨outcome.service, false⟩, .submitted outcome.wrote outcome.result)

/-- The end of an acknowledgement. -/
def acknowledged (outcome : SurfaceService.Outcome) : ServiceSystem × ServiceReply :=
  match outcome.fatal with
  | none => (⟨outcome.service, false⟩, .acknowledged)
  | some reason => (⟨outcome.service, true⟩, .fatal reason)

def step (system : ServiceSystem) (call : ServiceCall) : ServiceSystem × ServiceReply :=
  if system.halted then (system, .halted)
  else match call with
    | .submit pid commit => submitted (system.service.submit pid commit)
    | .submitWire pid wire descriptorReceived pixels =>
      submitted (system.service.submitWire pid wire descriptorReceived pixels)
    | .latestAfter generation => (system, .snapshot (system.service.latestAfter generation))
    | .acknowledge generation => acknowledged (system.service.acknowledge generation)
    | .eventAfter afterSequence => (system, .event (system.service.eventAfter afterSequence))
    | .acknowledgeEvent sequence => acknowledged (system.service.acknowledgeEvent sequence)

end ServiceSystem

end SlopOS.Wayland
