import SlopOS.Wayland.Objects

/-!
# Requests of a client

`dispatch` reads one message, looks its object up, decodes the arguments by interface and
opcode, and enters the object a request creates into the map.  `dispatch_ok` says what
this does to the map: a request introduces the object it names as new, or leaves the map
alone, unless it destroys an object.
-/

namespace SlopOS.Wayland

open ByteCodec ArgumentReader

inductive Request
  | sync (callback : Nat)
  | getRegistry (registry : Nat)
  | bind (registry globalName : Nat) (interface : Interface) (version newId : Nat)
  | createSurface (compositor surface : Nat)
  | createRegion (compositor region : Nat)
  | destroy (object : Nat) (interface : Interface)
  | regionAdd (region : Nat) (x y width height : Int)
  | regionSubtract (region : Nat) (x y width height : Int)
  | surfaceAttach (surface : Nat) (buffer : Option Nat) (x y : Int)
  | surfaceDamage (surface : Nat) (bufferCoordinates : Bool) (x y width height : Int)
  | surfaceFrame (surface callback : Nat)
  | surfaceSetRegion (surface : Nat) (input : Bool) (region : Option Nat)
  | surfaceCommit (surface : Nat)
  | surfaceSetBufferTransform (surface : Nat) (transform : Int)
  | surfaceSetBufferScale (surface : Nat) (scale : Int)
  | surfaceOffset (surface : Nat) (x y : Int)
  | shmCreatePool (shm pool : Nat) (fd size : Int)
  | shmPoolCreateBuffer (pool buffer : Nat) (offset width height stride : Int) (format : Nat)
  | shmPoolResize (pool : Nat) (size : Int)
  | seatGetPointer (seat pointer : Nat)
  | seatGetKeyboard (seat keyboard : Nat)
  | pointerSetCursor (pointer serial : Nat) (surface : Option Nat) (hotspotX hotspotY : Int)
  | xdgGetSurface (wmBase xdgSurface surface : Nat)
  | xdgPong (wmBase serial : Nat)
  | xdgGetToplevel (xdgSurface toplevel : Nat)
  | xdgAckConfigure (xdgSurface serial : Nat)
  | xdgSetWindowGeometry (xdgSurface : Nat) (x y width height : Int)
  | toplevelSetTitle (toplevel : Nat) (title : String)
  | toplevelSetAppId (toplevel : Nat) (appId : String)
  | toplevelMove (toplevel seat serial : Nat)
  | toplevelResize (toplevel seat serial edges : Nat)
  | toplevelSetMaximized (toplevel : Nat) (maximized : Bool)
  | toplevelSetFullscreen (toplevel : Nat) (output : Option Nat)
  | toplevelSetMinimized (toplevel : Nat)
  deriving DecidableEq

structure Global where
  name : Nat
  interface : Interface
  version : Nat
  deriving DecidableEq

def coreGlobals : List Global :=
  [⟨1, .compositor, 6⟩, ⟨2, .shm, 1⟩, ⟨3, .seat, 9⟩, ⟨4, .output, 4⟩, ⟨5, .xdgWmBase, 6⟩]

/-- The object a request creates, with its interface. -/
def Request.newObject : Request → Option (Nat × Interface)
  | sync callback => some (callback, .callback)
  | getRegistry registry => some (registry, .registry)
  | bind _ _ interface _ newId => some (newId, interface)
  | createSurface _ surface => some (surface, .surface)
  | createRegion _ region => some (region, .region)
  | surfaceFrame _ callback => some (callback, .callback)
  | shmCreatePool _ pool _ _ => some (pool, .shmPool)
  | shmPoolCreateBuffer _ buffer _ _ _ _ _ => some (buffer, .buffer)
  | seatGetPointer _ pointer => some (pointer, .pointer)
  | seatGetKeyboard _ keyboard => some (keyboard, .keyboard)
  | xdgGetSurface _ xdgSurface _ => some (xdgSurface, .xdgSurface)
  | xdgGetToplevel _ toplevel => some (toplevel, .xdgToplevel)
  | _ => none

/-- Neither buffer damage nor a binding. -/
def Request.plain : Request → Bool
  | .surfaceDamage _ isBuffer _ _ _ _ => !isBuffer
  | .bind _ _ _ _ _ => false
  | _ => true

namespace ObjectMap

/-- The outcome of decoding: the map, the request and the arguments not read. -/
abbrev Decoded := Except WireError (ObjectMap × Request × Bytes)

def expect (map : ObjectMap) (id : Nat) (interface : Interface) : Except WireError Object := do
  let object ← map.get id
  if object.interface ≠ interface then .error .wrongInterface else .ok object

/-- `expect` for an argument that may be null. -/
def expectNullable (map : ObjectMap) (id : Option Nat) (interface : Interface) :
    Except WireError Unit :=
  match id with
  | none => .ok ()
  | some id => do
    let _ ← map.expect id interface
    pure ()

def destroy (map : ObjectMap) (object : Object) (rest : Bytes) : Decoded := do
  let map ← map.retire object.id
  pure (map, .destroy object.id object.interface, rest)

def dispatchDisplay (map : ObjectMap) (opcode : Nat) (rest : Bytes) : Decoded :=
  match opcode with
  | 0 => do
    let (callback, rest) ← ArgumentReader.object rest
    let map ← map.insert callback .callback 1
    pure (map, .sync callback, rest)
  | 1 => do
    let (registry, rest) ← ArgumentReader.object rest
    let map ← map.insert registry .registry 1
    pure (map, .getRegistry registry, rest)
  | _ => .error .unknownOpcode

section

variable (map : ObjectMap) (object : Object) (opcode : Nat) (rest : Bytes)

def dispatchRegistry : Decoded :=
  if opcode ≠ 0 then .error .unknownOpcode
  else do
    let (globalName, rest) ← uint rest
    let (interfaceName, rest) ← string rest
    let (version, rest) ← uint rest
    let (newId, rest) ← ArgumentReader.object rest
    match coreGlobals.find? fun g => g.name = globalName with
    | none => .error .unknownGlobal
    | some advertised =>
      match Interface.fromName interfaceName with
      | none => .error .interfaceMismatch
      | some interface =>
        if interface ≠ advertised.interface then .error .interfaceMismatch
        else if version = 0 ∨ version > advertised.version then .error .invalidVersion
        else do
          let map ← map.insert newId interface version
          pure (map, .bind object.id globalName interface version newId, rest)

def dispatchCompositor : Decoded := do
  let (newId, rest) ← ArgumentReader.object rest
  match opcode with
  | 0 => do
    let map ← map.insert newId .surface object.version
    pure (map, .createSurface object.id newId, rest)
  | 1 => do
    let map ← map.insert newId .region 1
    pure (map, .createRegion object.id newId, rest)
  | _ => .error .unknownOpcode

/-- `wl_surface.damage` and `damage_buffer`. -/
def dispatchDamage : Decoded :=
  if opcode = 9 ∧ object.version < 4 then .error .unsupportedVersion
  else do
    let (x, rest) ← int rest
    let (y, rest) ← int rest
    let (width, rest) ← int rest
    let (height, rest) ← int rest
    pure (map, .surfaceDamage object.id (opcode = 9) x y width height, rest)

def dispatchSetRegion : Decoded := do
  let (region, rest) ← nullableObject rest
  map.expectNullable region .region
  pure (map, .surfaceSetRegion object.id (opcode = 5) region, rest)

def dispatchSurface : Decoded :=
  match opcode with
  | 0 => map.destroy object rest
  | 1 => do
    let (buffer, rest) ← nullableObject rest
    map.expectNullable buffer .buffer
    let (x, rest) ← int rest
    let (y, rest) ← int rest
    pure (map, .surfaceAttach object.id buffer x y, rest)
  | 2 => map.dispatchDamage object 2 rest
  | 9 => map.dispatchDamage object 9 rest
  | 3 => do
    let (callback, rest) ← ArgumentReader.object rest
    let map ← map.insert callback .callback 1
    pure (map, .surfaceFrame object.id callback, rest)
  | 4 => map.dispatchSetRegion object 4 rest
  | 5 => map.dispatchSetRegion object 5 rest
  | 6 => pure (map, .surfaceCommit object.id, rest)
  | 7 => do
    let (transform, rest) ← int rest
    pure (map, .surfaceSetBufferTransform object.id transform, rest)
  | 8 => do
    let (scale, rest) ← int rest
    if scale ≤ 0 then .error .invalidArgument
    else pure (map, .surfaceSetBufferScale object.id scale, rest)
  | 10 =>
    if object.version < 5 then .error .unsupportedVersion
    else do
      let (x, rest) ← int rest
      let (y, rest) ← int rest
      pure (map, .surfaceOffset object.id x y, rest)
  | _ => .error .unknownOpcode

end

def dispatchRegionRect (map : ObjectMap) (object : Object) (add : Bool) (rest : Bytes) :
    Decoded := do
  let (x, rest) ← int rest
  let (y, rest) ← int rest
  let (width, rest) ← int rest
  let (height, rest) ← int rest
  if width < 0 ∨ height < 0 then .error .invalidArgument
  else if add then pure (map, .regionAdd object.id x y width height, rest)
  else pure (map, .regionSubtract object.id x y width height, rest)

section

variable (map : ObjectMap) (object : Object) (opcode : Nat) (rest : Bytes)

def dispatchRegion : Decoded :=
  match opcode with
  | 0 => map.destroy object rest
  | 1 => map.dispatchRegionRect object true rest
  | 2 => map.dispatchRegionRect object false rest
  | _ => .error .unknownOpcode

def dispatchShm (fileDescriptors : List Int) : Decoded :=
  if opcode ≠ 0 then .error .unknownOpcode
  else match fileDescriptors with
    | [] => .error .missingFileDescriptor
    | [fd] => do
      let (pool, rest) ← ArgumentReader.object rest
      let (size, rest) ← int rest
      if size ≤ 0 then .error .invalidArgument
      else do
        let map ← map.insert pool .shmPool 1
        pure (map, .shmCreatePool object.id pool fd size, rest)
    | _ :: _ :: _ => .error .unexpectedFileDescriptor

def dispatchShmPool : Decoded :=
  match opcode with
  | 0 => do
    let (buffer, rest) ← ArgumentReader.object rest
    let (offset, rest) ← int rest
    let (width, rest) ← int rest
    let (height, rest) ← int rest
    let (stride, rest) ← int rest
    let (format, rest) ← uint rest
    if offset < 0 ∨ width ≤ 0 ∨ height ≤ 0 ∨ stride ≤ 0 then .error .invalidArgument
    else do
      let map ← map.insert buffer .buffer 1
      pure (map, .shmPoolCreateBuffer object.id buffer offset width height stride format, rest)
  | 1 => map.destroy object rest
  | 2 => do
    let (size, rest) ← int rest
    if size ≤ 0 then .error .invalidArgument
    else pure (map, .shmPoolResize object.id size, rest)
  | _ => .error .unknownOpcode

def dispatchDestroyOnly : Decoded :=
  if opcode = 0 then map.destroy object rest else .error .unknownOpcode

def dispatchSeat : Decoded :=
  match opcode with
  | 0 => do
    let (pointer, rest) ← ArgumentReader.object rest
    let map ← map.insert pointer .pointer object.version
    pure (map, .seatGetPointer object.id pointer, rest)
  | 1 => do
    let (keyboard, rest) ← ArgumentReader.object rest
    let map ← map.insert keyboard .keyboard object.version
    pure (map, .seatGetKeyboard object.id keyboard, rest)
  | 3 => if object.version ≥ 5 then map.destroy object rest else .error .unknownOpcode
  | _ => .error .unknownOpcode

def dispatchPointer : Decoded :=
  match opcode with
  | 0 => do
    let (serial, rest) ← uint rest
    let (surface, rest) ← nullableObject rest
    map.expectNullable surface .surface
    let (hotspotX, rest) ← int rest
    let (hotspotY, rest) ← int rest
    pure (map, .pointerSetCursor object.id serial surface hotspotX hotspotY, rest)
  | 1 => if object.version ≥ 3 then map.destroy object rest else .error .unknownOpcode
  | _ => .error .unknownOpcode

def dispatchRelease : Decoded :=
  if opcode ≠ 0 then .error .unknownOpcode
  else match object.interface with
    | .keyboard | .output =>
      if object.version < 3 then .error .unsupportedVersion else map.destroy object rest
    | _ => .error .wrongInterface

def dispatchXdgWmBase : Decoded :=
  match opcode with
  | 0 => map.destroy object rest
  | 2 => do
    let (xdgSurface, rest) ← ArgumentReader.object rest
    let (surface, rest) ← ArgumentReader.object rest
    let _ ← map.expect surface .surface
    let map ← map.insert xdgSurface .xdgSurface object.version
    pure (map, .xdgGetSurface object.id xdgSurface surface, rest)
  | 3 => do
    let (serial, rest) ← uint rest
    pure (map, .xdgPong object.id serial, rest)
  | _ => .error .unknownOpcode

def dispatchXdgSurface : Decoded :=
  match opcode with
  | 0 => map.destroy object rest
  | 1 => do
    let (toplevel, rest) ← ArgumentReader.object rest
    let map ← map.insert toplevel .xdgToplevel object.version
    pure (map, .xdgGetToplevel object.id toplevel, rest)
  | 3 => do
    let (x, rest) ← int rest
    let (y, rest) ← int rest
    let (width, rest) ← int rest
    let (height, rest) ← int rest
    if width ≤ 0 ∨ height ≤ 0 then .error .invalidArgument
    else pure (map, .xdgSetWindowGeometry object.id x y width height, rest)
  | 4 => do
    let (serial, rest) ← uint rest
    pure (map, .xdgAckConfigure object.id serial, rest)
  | _ => .error .unknownOpcode

def dispatchXdgToplevel : Decoded :=
  match opcode with
  | 0 => map.destroy object rest
  | 2 => do
    let (title, rest) ← string rest
    pure (map, .toplevelSetTitle object.id title, rest)
  | 3 => do
    let (appId, rest) ← string rest
    pure (map, .toplevelSetAppId object.id appId, rest)
  | 5 => do
    let (seat, rest) ← ArgumentReader.object rest
    let _ ← map.expect seat .seat
    let (serial, rest) ← uint rest
    pure (map, .toplevelMove object.id seat serial, rest)
  | 6 => do
    let (seat, rest) ← ArgumentReader.object rest
    let _ ← map.expect seat .seat
    let (serial, rest) ← uint rest
    let (edges, rest) ← uint rest
    pure (map, .toplevelResize object.id seat serial edges, rest)
  | 9 => pure (map, .toplevelSetMaximized object.id true, rest)
  | 10 => pure (map, .toplevelSetMaximized object.id false, rest)
  | 11 => do
    let (output, rest) ← nullableObject rest
    map.expectNullable output .output
    pure (map, .toplevelSetFullscreen object.id output, rest)
  | 12 => pure (map, .toplevelSetFullscreen object.id none, rest)
  | 13 => pure (map, .toplevelSetMinimized object.id, rest)
  | _ => .error .unknownOpcode

def dispatchObject (fileDescriptors : List Int) : Decoded :=
  match object.interface with
  | .display => map.dispatchDisplay opcode rest
  | .registry => map.dispatchRegistry object opcode rest
  | .compositor => map.dispatchCompositor object opcode rest
  | .surface => map.dispatchSurface object opcode rest
  | .region => map.dispatchRegion object opcode rest
  | .shm => map.dispatchShm object opcode rest fileDescriptors
  | .shmPool => map.dispatchShmPool object opcode rest
  | .buffer => map.dispatchDestroyOnly object opcode rest
  | .seat => map.dispatchSeat object opcode rest
  | .pointer => map.dispatchPointer object opcode rest
  | .keyboard | .output => map.dispatchRelease object opcode rest
  | .xdgWmBase => map.dispatchXdgWmBase object opcode rest
  | .xdgSurface => map.dispatchXdgSurface object opcode rest
  | .xdgToplevel => map.dispatchXdgToplevel object opcode rest
  | .callback => .error .unknownOpcode

end

/-- `Connection::dispatch`: a connection is its object map. -/
def dispatch (map : ObjectMap) (bytes : Bytes) (fileDescriptors : List Int) :
    Except WireError (ObjectMap × Request × Bytes) := do
  let (frame, remaining) ← Frame.decode bytes
  let object ← map.get frame.header.objectId
  let (map, request, rest) ←
    map.dispatchObject object frame.header.opcode frame.payload fileDescriptors
  if object.interface ≠ .shm ∧ fileDescriptors ≠ [] then .error .unexpectedFileDescriptor
  else if rest ≠ [] then .error .trailingArguments
  else .ok (map, request, remaining)

/-! ## What a request does to the map -/

/-- A request that destroys nothing enters the object it creates, and no other. -/
def Introduced (map : ObjectMap) (request : Request) (map' : ObjectMap) : Prop :=
  match request.newObject with
  | some (id, interface) => ∃ version, map.insert id interface version = .ok map'
  | none => map' = map

/-- What is known of a request that was decoded for an object. -/
structure Served (map : ObjectMap) (object : Object) (map' : ObjectMap) (request : Request) :
    Prop where
  introduced : (∀ id interface, request ≠ .destroy id interface) → Introduced map request map'
  bounded : ∀ id interface, request.newObject = some (id, interface) → id < 2 ^ 32
  damaged : ∀ surface x y width height, request = .surfaceDamage surface true x y width height →
    object.id = surface ∧ 4 ≤ object.version
  bound : ∀ registry name interface version id, request = .bind registry name interface version id →
    ∃ advertised ∈ coreGlobals, advertised.name = name ∧ advertised.interface = interface

variable {fileDescriptors : List Int} {request : Request}

section Served

variable {map : ObjectMap} {object : Object} {opcode : Nat} {rest : Bytes}

/-- Decoding serves a request or fails. -/
abbrev Serves (map : ObjectMap) (object : Object) (decoded : Decoded) : Prop :=
  decoded.Ends (fun result => Served map object result.1 result.2.1) fun _ => True

theorem serves_destroy : Serves map object (map.destroy object rest) :=
  .after fun _ => ⟨fun other => absurd rfl (other _ _), nofun, nofun, nofun⟩

theorem serves_pure (creates : request.newObject = none) (plain : request.plain = true) :
    Serves map object (pure (map, request, rest)) := by
  refine ⟨fun _ => ?_, ?_, ?_, ?_⟩
  · rw [Introduced, creates]
  · intro id interface created
    rw [creates] at created
    cases created
  · rintro surface x y width height rfl
    cases plain
  · rintro registry name interface version id rfl
    cases plain

theorem serves_insert {id version : Nat} {interface : Interface} (fits : id < 2 ^ 32)
    (creates : request.newObject = some (id, interface)) (plain : request.plain = true) :
    Serves map object (do
      let map' ← map.insert id interface version
      pure (map', request, rest)) := by
  refine .bind .self fun map' inserted => ⟨fun _ => ?_, ?_, ?_, ?_⟩
  · rw [Introduced, creates]
    exact ⟨version, inserted⟩
  · intro id' interface' created
    cases creates.symm.trans created
    exact fits
  · rintro surface x y width height rfl
    cases plain
  · rintro registry name interface version id rfl
    cases plain

theorem serves_display : Serves map object (map.dispatchDisplay opcode rest) := by
  unfold dispatchDisplay
  split
  · exact .bind object_lt fun _ fits => serves_insert fits rfl rfl
  · exact .bind object_lt fun _ fits => serves_insert fits rfl rfl
  · trivial

theorem serves_registry : Serves map object (map.dispatchRegistry object opcode rest) := by
  refine .guard fun _ => .after fun _ => .after fun _ => .after fun _ =>
    .bind object_lt fun _ fits => ?_
  dsimp only
  split
  case h_1 => trivial
  case h_2 advertised found =>
  split
  case h_1 => trivial
  case h_2 interface named =>
  refine .guard fun same => .guard fun _ => .bind .self fun map' inserted =>
    ⟨fun _ => ⟨_, inserted⟩, ?_, nofun, ?_⟩
  · intro id interface created
    cases created
    exact fits
  intro registry name interface version id request
  cases request
  exact ⟨advertised, List.mem_of_find?_eq_some found, by simpa using List.find?_some found,
    (not_not.mp same).symm⟩

theorem serves_compositor : Serves map object (map.dispatchCompositor object opcode rest) := by
  refine .bind object_lt fun _ fits => ?_
  dsimp only
  split
  · exact serves_insert fits rfl rfl
  · exact serves_insert fits rfl rfl
  · trivial

theorem serves_damage : Serves map object (map.dispatchDamage object opcode rest) := by
  refine .guard fun supported => .after fun _ => .after fun _ => .after fun _ => .after fun _ =>
    ⟨fun _ => rfl, nofun, ?_, nofun⟩
  intro surface x y width height request
  simp only [Request.surfaceDamage.injEq, decide_eq_true_eq] at request
  obtain ⟨same, isBuffer, -⟩ := request
  exact ⟨same, Nat.le_of_not_lt fun older => supported ⟨isBuffer, older⟩⟩

theorem serves_setRegion : Serves map object (map.dispatchSetRegion object opcode rest) :=
  .after fun _ => .after fun _ => serves_pure rfl rfl

theorem serves_surface : Serves map object (map.dispatchSurface object opcode rest) := by
  unfold dispatchSurface
  split
  · exact serves_destroy
  · exact .after fun _ => .after fun _ => .after fun _ => .after fun _ => serves_pure rfl rfl
  · exact serves_damage
  · exact serves_damage
  · exact .bind object_lt fun _ fits => serves_insert fits rfl rfl
  · exact serves_setRegion
  · exact serves_setRegion
  · exact serves_pure rfl rfl
  · exact .after fun _ => serves_pure rfl rfl
  · exact .after fun _ => .guard fun _ => serves_pure rfl rfl
  · exact .guard fun _ => .after fun _ => .after fun _ => serves_pure rfl rfl
  · trivial

theorem serves_regionRect {add : Bool} :
    Serves map object (map.dispatchRegionRect object add rest) := by
  refine .after fun _ => .after fun _ => .after fun _ => .after fun _ => .guard fun _ => ?_
  split
  · exact serves_pure rfl rfl
  · exact serves_pure rfl rfl

theorem serves_region : Serves map object (map.dispatchRegion object opcode rest) := by
  unfold dispatchRegion
  split
  · exact serves_destroy
  · exact serves_regionRect
  · exact serves_regionRect
  · trivial

theorem serves_shm : Serves map object (map.dispatchShm object opcode rest fileDescriptors) := by
  refine .guard fun _ => ?_
  split
  · trivial
  · exact .bind object_lt fun _ fits => .after fun _ => .guard fun _ => serves_insert fits rfl rfl
  · trivial

theorem serves_shmPool : Serves map object (map.dispatchShmPool object opcode rest) := by
  unfold dispatchShmPool
  split
  · exact .bind object_lt fun _ fits => .after fun _ => .after fun _ => .after fun _ =>
      .after fun _ => .after fun _ => .guard fun _ => serves_insert fits rfl rfl
  · exact serves_destroy
  · exact .after fun _ => .guard fun _ => serves_pure rfl rfl
  · trivial

theorem serves_seat : Serves map object (map.dispatchSeat object opcode rest) := by
  unfold dispatchSeat
  split
  · exact .bind object_lt fun _ fits => serves_insert fits rfl rfl
  · exact .bind object_lt fun _ fits => serves_insert fits rfl rfl
  · split
    · exact serves_destroy
    · trivial
  · trivial

theorem serves_pointer : Serves map object (map.dispatchPointer object opcode rest) := by
  unfold dispatchPointer
  split
  · exact .after fun _ => .after fun _ => .after fun _ => .after fun _ => .after fun _ =>
      serves_pure rfl rfl
  · split
    · exact serves_destroy
    · trivial
  · trivial

theorem serves_release : Serves map object (map.dispatchRelease object opcode rest) := by
  refine .guard fun _ => ?_
  split
  · exact .guard fun _ => serves_destroy
  · exact .guard fun _ => serves_destroy
  · trivial

theorem serves_xdgWmBase : Serves map object (map.dispatchXdgWmBase object opcode rest) := by
  unfold dispatchXdgWmBase
  split
  · exact serves_destroy
  · exact .bind object_lt fun _ fits => .after fun _ => .after fun _ => serves_insert fits rfl rfl
  · exact .after fun _ => serves_pure rfl rfl
  · trivial

theorem serves_xdgSurface : Serves map object (map.dispatchXdgSurface object opcode rest) := by
  unfold dispatchXdgSurface
  split
  · exact serves_destroy
  · exact .bind object_lt fun _ fits => serves_insert fits rfl rfl
  · exact .after fun _ => .after fun _ => .after fun _ => .after fun _ => .guard fun _ =>
      serves_pure rfl rfl
  · exact .after fun _ => serves_pure rfl rfl
  · trivial

theorem serves_xdgToplevel : Serves map object (map.dispatchXdgToplevel object opcode rest) := by
  unfold dispatchXdgToplevel
  split
  · exact serves_destroy
  · exact .after fun _ => serves_pure rfl rfl
  · exact .after fun _ => serves_pure rfl rfl
  · exact .after fun _ => .after fun _ => .after fun _ => serves_pure rfl rfl
  · exact .after fun _ => .after fun _ => .after fun _ => .after fun _ => serves_pure rfl rfl
  · exact serves_pure rfl rfl
  · exact serves_pure rfl rfl
  · exact .after fun _ => .after fun _ => serves_pure rfl rfl
  · exact serves_pure rfl rfl
  · exact serves_pure rfl rfl
  · trivial

theorem serves_object :
    Serves map object (map.dispatchObject object opcode rest fileDescriptors) := by
  unfold dispatchObject
  split
  · exact serves_display
  · exact serves_registry
  · exact serves_compositor
  · exact serves_surface
  · exact serves_region
  · exact serves_shm
  · exact serves_shmPool
  · unfold dispatchDestroyOnly
    split
    · exact serves_destroy
    · trivial
  · exact serves_seat
  · exact serves_pointer
  · exact serves_release
  · exact serves_release
  · exact serves_xdgWmBase
  · exact serves_xdgSurface
  · exact serves_xdgToplevel
  · trivial

end Served

theorem decode_remaining {bytes remaining : Bytes} {frame : Frame}
    (decoded : Frame.decode bytes = .ok (frame, remaining)) : remaining.length < bytes.length := by
  simp only [Frame.decode, Except.ite_error_eq_ok_iff] at decoded
  obtain ⟨-, -, _, _, _, done⟩ := decoded
  cases done
  rw [List.length_drop]
  have positive : 0 < headerSize := by decide
  omega

/-- A request that was dispatched is served for an active object, and uses up bytes. -/
theorem dispatch_ok {map map' : ObjectMap} {bytes remaining : Bytes}
    (dispatched : map.dispatch bytes fileDescriptors = .ok (map', request, remaining)) :
    ∃ object ∈ map.held, object.state = .active ∧ Served map object map' request ∧
      remaining.length < bytes.length := by
  simp only [dispatch, Except.bind_eq_ok_iff, Except.ite_error_eq_ok_iff] at dispatched
  obtain ⟨⟨frame, remaining'⟩, decoded, object, found, ⟨map₁, request₁, rest⟩, read, -, -, finished⟩ :=
    dispatched
  cases finished
  obtain ⟨member, -, active⟩ := get_ok found
  exact ⟨object, member, active, serves_object.of_eq_ok read, decode_remaining decoded⟩

/-! ## What a failed dispatch leaves -/

section InPlace

variable {map : ObjectMap} {bytes : Bytes} {error : WireError}

/-- `dispatch` as it works on the connection: its result and the map it leaves.  A handler
enters or retires an object in the last of its calls that can fail, so one that fails
leaves the map; the two checks after the handler come too late for that. -/
def dispatchInPlace (map : ObjectMap) (bytes : Bytes) (fileDescriptors : List Int) :
    Except WireError (Request × Bytes) × ObjectMap :=
  match Frame.decode bytes with
  | .error error => (.error error, map)
  | .ok (frame, remaining) =>
    match map.get frame.header.objectId with
    | .error error => (.error error, map)
    | .ok object =>
      match map.dispatchObject object frame.header.opcode frame.payload fileDescriptors with
      | .error error => (.error error, map)
      | .ok (changed, request, rest) =>
        if object.interface ≠ .shm ∧ fileDescriptors ≠ [] then
          (.error .unexpectedFileDescriptor, changed)
        else if rest ≠ [] then (.error .trailingArguments, changed)
        else (.ok (request, remaining), changed)

theorem dispatch_eq_inPlace : map.dispatch bytes fileDescriptors =
    (map.dispatchInPlace bytes fileDescriptors).1.map fun result =>
      ((map.dispatchInPlace bytes fileDescriptors).2, result) := by
  unfold dispatch dispatchInPlace
  rcases Frame.decode bytes with _ | ⟨frame, remaining⟩
  · rfl
  simp only [bind, Except.bind]
  rcases map.get frame.header.objectId with _ | object
  · rfl
  dsimp only
  rcases map.dispatchObject object frame.header.opcode frame.payload fileDescriptors with
    _ | ⟨changed, request, rest⟩
  · rfl
  dsimp only
  split
  · rfl
  split
  · rfl
  · rfl

/-- The handler took the request, and a check after it failed with `error`. -/
def LateFailure (map : ObjectMap) (bytes : Bytes) (fileDescriptors : List Int)
    (error : WireError) (changed : ObjectMap) : Prop :=
  ∃ frame remaining object request rest, Frame.decode bytes = .ok (frame, remaining) ∧
    map.get frame.header.objectId = .ok object ∧
    map.dispatchObject object frame.header.opcode frame.payload fileDescriptors =
      .ok (changed, request, rest) ∧
    (error = .unexpectedFileDescriptor ∧ object.interface ≠ .shm ∧ fileDescriptors ≠ [] ∨
      error = .trailingArguments ∧ rest ≠ [])

/-- The display and one slot for another object. -/
def oneFree : ObjectMap := ⟨[⟨displayObjectId, .display, 1, .active⟩, .empty]⟩

/-- `wl_display.sync` for callback 2, with four bytes after its argument. -/
def overlongSync : Bytes := messageBytes displayObjectId 0 (words [2, 0])

theorem oneFree_overlongSync : oneFree.dispatchInPlace overlongSync [] = (.error .trailingArguments,
      ⟨[⟨displayObjectId, .display, 1, .active⟩, ⟨2, .callback, 1, .active⟩]⟩) := rfl

end InPlace

end ObjectMap

end SlopOS.Wayland
