import SlopOS.Wayland.Session

/-!
# Events of the server

A `MessageBuilder` writes into the rest of a buffer.  The buffer enters as its size, the
bytes written so far as the payload, so an encoder is a function of the room it has.
-/

namespace SlopOS.Wayland

open ByteCodec

/-- `u16::MAX as usize & !3`. -/
def maxMessageSize : Nat := 65532

def utf8Bytes (text : String) : Bytes := text.toUTF8.data.toList.map UInt8.toBitVec

structure MessageBuilder where
  room : Nat
  objectId : Nat
  opcode : Nat
  payload : Bytes

namespace MessageBuilder

def new (room objectId opcode : Nat) : Except WireError MessageBuilder :=
  if objectId = 0 then .error .nullObject
  else if room < headerSize then .error .bufferTooSmall
  else .ok ⟨room, objectId, opcode, []⟩

variable (message : MessageBuilder)

def write (value : Bytes) : Except WireError MessageBuilder :=
  if headerSize + message.payload.length + value.length ≤ message.room then
    .ok { message with payload := message.payload ++ value }
  else .error .bufferTooSmall

/-- The padding is written byte by byte, which fails as writing it at once does. -/
def pad (unpaddedLength : Nat) : Except WireError MessageBuilder :=
  message.write (List.replicate (align4 unpaddedLength - unpaddedLength) 0)

def uint (value : Nat) : Except WireError MessageBuilder := message.write (toLE 4 value)

/-- `value as u32` is written. -/
def int (value : Int) : Except WireError MessageBuilder := message.uint (value % 2 ^ 32).toNat

def object (value : Nat) : Except WireError MessageBuilder :=
  if value = 0 then .error .nullObject else message.uint value

def string (value : String) : Except WireError MessageBuilder :=
  let length := (utf8Bytes value).length + 1
  if length ≥ 2 ^ 32 then .error .messageTooLarge
  else do
    let message ← message.uint length
    let message ← message.write (utf8Bytes value)
    let message ← message.write [0]
    message.pad length

def array (value : Bytes) : Except WireError MessageBuilder :=
  if value.length ≥ 2 ^ 32 then .error .messageTooLarge
  else do
    let message ← message.uint value.length
    let message ← message.write value
    message.pad value.length

def finish : Except WireError Bytes :=
  if headerSize + message.payload.length > maxMessageSize then .error .messageTooLarge
  else .ok (messageBytes message.objectId message.opcode message.payload)

end MessageBuilder

/-- What writes one event into the room it is given. -/
abbrev Encoder := Nat → Except WireError Bytes

def encodeRegistryGlobal (registry : Nat) (global : Global) : Encoder := fun room => do
  let message ← MessageBuilder.new room registry 0
  let message ← message.uint global.name
  let message ← message.string global.interface.name
  let message ← message.uint global.version
  message.finish

def encodeDisplayDeleteId (object : Nat) : Encoder := fun room => do
  let message ← MessageBuilder.new room displayObjectId 1
  let message ← message.object object
  message.finish

/-- An event of one unsigned argument. -/
def encodeUint (objectId opcode value : Nat) : Encoder := fun room => do
  let message ← MessageBuilder.new room objectId opcode
  let message ← message.uint value
  message.finish

def encodeCallbackDone (callback callbackData : Nat) : Encoder := encodeUint callback 0 callbackData

def encodeShmFormat (shm format : Nat) : Encoder := encodeUint shm 0 format

def encodeSeatCapabilities (seat capabilities : Nat) : Encoder := encodeUint seat 0 capabilities

def encodeXdgSurfaceConfigure (xdgSurface serial : Nat) : Encoder := fun room =>
  if serial = 0 then .error .invalidArgument else encodeUint xdgSurface 0 serial room

/-- An event of one string. -/
def encodeText (objectId opcode : Nat) (text : String) : Encoder := fun room => do
  let message ← MessageBuilder.new room objectId opcode
  let message ← message.string text
  message.finish

def encodeSeatName (seat : Nat) (name : String) : Encoder := encodeText seat 1 name

variable (output : Nat)

def encodeOutputName (name : String) : Encoder := encodeText output 4 name

def encodeOutputDescription (description : String) : Encoder :=
  encodeText output 5 description

/-- An event without arguments. -/
def encodeEmpty (objectId opcode : Nat) : Encoder := fun room => do
  let message ← MessageBuilder.new room objectId opcode
  message.finish

def encodeOutputDone : Encoder := encodeEmpty output 2

def encodeBufferRelease (buffer : Nat) : Encoder := encodeEmpty buffer 0

/-- The file descriptor of the keymap travels beside the message. -/
def encodeKeyboardKeymap (keyboard format size : Nat) : Encoder := fun room =>
  if format ≠ 1 ∨ size = 0 then .error .invalidArgument
  else do
    let message ← MessageBuilder.new room keyboard 0
    let message ← message.uint format
    let message ← message.uint size
    message.finish

def encodeKeyboardRepeatInfo (keyboard : Nat) (rate delay : Int) : Encoder := fun room =>
  if rate < 0 ∨ delay < 0 then .error .invalidArgument
  else do
    let message ← MessageBuilder.new room keyboard 5
    let message ← message.int rate
    let message ← message.int delay
    message.finish

def encodeOutputGeometry (x y physicalWidth physicalHeight subpixel : Int)
    (make model : String) (transform : Int) : Encoder := fun room =>
  if physicalWidth ≤ 0 ∨ physicalHeight ≤ 0 then .error .invalidArgument
  else do
    let message ← MessageBuilder.new room output 0
    let message ← message.int x
    let message ← message.int y
    let message ← message.int physicalWidth
    let message ← message.int physicalHeight
    let message ← message.int subpixel
    let message ← message.string make
    let message ← message.string model
    let message ← message.int transform
    message.finish

def encodeOutputMode (output flags : Nat) (width height refresh : Int) : Encoder := fun room =>
  if width ≤ 0 ∨ height ≤ 0 ∨ refresh ≤ 0 then .error .invalidArgument
  else do
    let message ← MessageBuilder.new room output 1
    let message ← message.uint flags
    let message ← message.int width
    let message ← message.int height
    let message ← message.int refresh
    message.finish

def encodeOutputScale (factor : Int) : Encoder := fun room =>
  if factor ≤ 0 then .error .invalidArgument
  else do
    let message ← MessageBuilder.new room output 3
    let message ← message.int factor
    message.finish

def encodeXdgToplevelConfigure (toplevel : Nat) (width height : Int) (states : Bytes) : Encoder :=
  fun room =>
    if width < 0 ∨ height < 0 then .error .invalidArgument
    else do
      let message ← MessageBuilder.new room toplevel 0
      let message ← message.int width
      let message ← message.int height
      let message ← message.array states
      message.finish

/-! ## Batches of events -/

def waylandEventMaxWireSize : Nat := 512

/-- One more event behind those already in the buffer. -/
def appendEvent (wire : Bytes) (encode : Encoder) : Except WireError Bytes := do
  let message ← encode (waylandEventMaxWireSize - wire.length)
  pure (wire ++ message)

def encodeBatch (events : List Encoder) : Except WireError Bytes := events.foldlM appendEvent []

/-- The length of the keymap file and its terminating zero. -/
def xkbKeymapSize : Nat := 3306 + 1

def registryEvents (registry : Nat) : List Encoder := coreGlobals.map (encodeRegistryGlobal registry)

def configureEvents (shm seat keyboard output xdgSurface toplevel serial : Nat) : List Encoder :=
  [encodeSeatCapabilities seat 3,
    encodeSeatName seat "seat0",
    encodeKeyboardKeymap keyboard 1 xkbKeymapSize,
    encodeKeyboardRepeatInfo keyboard 25 600,
    encodeOutputGeometry output 0 0 270 203 0 "SlopOS" "Virtual Display" 0,
    encodeOutputMode output 3 1024 768 60000,
    encodeOutputScale output 1,
    encodeOutputName output "SLOPOS-1",
    encodeOutputDescription output "SlopOS Virtual Output",
    encodeOutputDone output,
    encodeShmFormat shm 0,
    encodeShmFormat shm 1,
    encodeXdgToplevelConfigure toplevel 32 24 [],
    encodeXdgSurfaceConfigure xdgSurface serial]

def presentedEvents (shown : PresentedSurface) (generation : Nat) : List Encoder :=
  [encodeBufferRelease shown.buffer,
    encodeCallbackDone shown.frameCallback (generation % 2 ^ 32),
    encodeDisplayDeleteId shown.frameCallback]

end SlopOS.Wayland
