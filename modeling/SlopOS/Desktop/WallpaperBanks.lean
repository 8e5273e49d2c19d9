import SlopOS.Desktop.ConfigBanks

/-!
# The two wallpaper banks

The desktop asks for a wallpaper file; the block task takes the request, loads the file
into one of two static banks, checks it and publishes the bank; the desktop takes the
result, may show the image, and acknowledges.  An image that is shown is a slice of its
bank, so the bank stays pinned until another image has replaced it.  As for the
configuration banks a `WallpaperMove` is one access of one task.

The image decoders enter as parameters.  Whether the wallpaper daemon accepts an image,
and whether it then runs a transition, is left open: the desktop's moves carry both.
-/

namespace SlopOS.Desktop

/-! ## Images -/

inductive PpmFormat
  | plain
  | binary
  deriving DecidableEq

structure PpmImage where
  width : Nat
  height : Nat
  maximum : Nat
  format : PpmFormat
  data : List UInt8

inductive PngError
  | invalidSignature
  | truncatedChunk
  | invalidChunkType
  | invalidChunkCrc
  | missingHeader
  | duplicateHeader
  | invalidHeader
  | unsupportedColor
  | unsupportedInterlace
  | missingPalette
  | invalidPaletteIndex
  | missingImageData
  | invalidChunkOrder
  | missingEnd
  | trailingData
  | outputTooLarge
  | invalidZlibHeader
  | invalidDeflate
  | invalidAdler32
  | invalidFilter
  deriving DecidableEq

/-- What `decode_png_rgb` leaves in its output: `validate_png` admits nonzero sides only,
and `rgb_length` is three bytes a pixel. -/
structure DecodedPng where
  width : Nat
  height : Nat
  rgb : List UInt8
  sides : 0 < width ∧ 0 < height
  rgb_length : rgb.length = width * height * 3

/-- `parse_ppm_bytes` and `decode_png_rgb`; the latter also rewrites its input. -/
structure Codecs where
  parsePpmBytes : List UInt8 → Option PpmImage
  decodePngRgb : List UInt8 → List UInt8 × Except PngError DecodedPng

inductive RasterImage
  | pnm (image : PpmImage)
  | rgb (width height : Nat) (bytes : List UInt8)

def RasterImage.fromRgb (width height : Nat) (bytes : List UInt8) : Option RasterImage :=
  if width = 0 ∨ height = 0 ∨ bytes.length ≠ width * height * 3 then none
  else some (.rgb width height bytes)

/-! ## Requests -/

inductive WallpaperFileRequestError
  | busy
  | invalidPath
  deriving DecidableEq

inductive WallpaperFileError
  | invalidPath
  | notFound
  | fileTooLarge
  | invalidPpm
  | invalidPng
  deriving DecidableEq

inductive WallpaperFileFormat
  | p3
  | p6
  | png
  deriving DecidableEq

def WallpaperFileFormat.ofPpm : PpmFormat → WallpaperFileFormat
  | .plain => p3
  | .binary => p6

def maxWallpaperPath : Nat := 96
def outputCapacity : Nat := 32
def wallpaperFileCapacity : Nat := 8 * 1024
def maxDecodedPixels : Nat := 2048
def relativePrefix : List UInt8 := "/usr/share/slopos/".toUTF8.data.toList

/-- A byte that a stored text refuses: not ASCII, or an ASCII control character. -/
def refusedByte (byte : UInt8) : Bool := byte ≥ 0x80 || byte < 0x20 || byte = 0x7f

def toAsciiLowercase (byte : UInt8) : UInt8 :=
  if 0x41 ≤ byte ∧ byte ≤ 0x5a then byte + 0x20 else byte

/-- `StoredText::set`. -/
def storeText (capacity : Nat) (value : List UInt8) :
    Except WallpaperFileRequestError (List UInt8) :=
  if value.isEmpty || value.length > capacity || value.any refusedByte then .error .invalidPath
  else .ok value

/-- `StoredText::set_resolved_path`: relative paths are below the share directory. -/
def storeResolvedPath (capacity : Nat) (value : List UInt8) :
    Except WallpaperFileRequestError (List UInt8) :=
  let root := if value.head? = some 0x2f then [] else relativePrefix
  if root.length > capacity then .error .invalidPath
  else if value.isEmpty || root.length + value.length > capacity then .error .invalidPath
  else if value.any refusedByte then .error .invalidPath
  else .ok (root ++ value.map toAsciiLowercase)

structure ImgRequest where
  path : List UInt8
  output : Option (List UInt8)

structure WallpaperFileRequest where
  generation : Nat
  requestPath : List UInt8
  resolvedPath : List UInt8
  output : Option (List UInt8)

def WallpaperFileRequest.empty : WallpaperFileRequest := ⟨0, [], [], none⟩

/-- The checks of `request` before it touches a static. -/
def ImgRequest.store (request : ImgRequest) :
    Except WallpaperFileRequestError WallpaperFileRequest := do
  let requestPath ← storeText maxWallpaperPath request.path
  let resolvedPath ← storeResolvedPath maxWallpaperPath request.path
  let output ← match request.output with
    | none => pure none
    | some output => some <$> storeText outputCapacity output
  pure ⟨0, requestPath, resolvedPath, output⟩

/-! ## Banks -/

structure WallpaperFileBank where
  request : WallpaperFileRequest
  image : List UInt8
  imageLength : Nat
  decoded : List UInt8
  decodedDimensions : Nat × Nat
  format : WallpaperFileFormat
  result : Except WallpaperFileError Unit

namespace WallpaperFileBank

def pngSignature : List UInt8 := [0x89, 0x50, 0x4e, 0x47, 0x0d, 0x0a, 0x1a, 0x0a]

variable (bank : WallpaperFileBank) (error : WallpaperFileError)

/-- The bank as `publish_error` leaves it. -/
def fail : WallpaperFileBank :=
  { bank with imageLength := 0, result := .error error }

section

variable (codecs : Codecs) (bank : WallpaperFileBank)

/-- The validation of `publish`: the bank it leaves and the image it accepted. -/
def validate : WallpaperFileBank × Except WallpaperFileError RasterImage :=
  let bank := { bank with imageLength := bank.image.length }
  if pngSignature.isPrefixOf bank.image then
    match codecs.decodePngRgb bank.image with
    | (image, .ok decoded) =>
      if decoded.width * decoded.height ≤ maxDecodedPixels then
        ({ bank with
            image := image, decoded := decoded.rgb
            decodedDimensions := (decoded.width, decoded.height), format := .png },
          .ok (.rgb decoded.width decoded.height decoded.rgb))
      else ({ bank with image := image }, .error .fileTooLarge)
    | (image, .error .outputTooLarge) => ({ bank with image := image }, .error .fileTooLarge)
    | (image, .error _) => ({ bank with image := image }, .error .invalidPng)
  else match codecs.parsePpmBytes bank.image with
    | none => (bank, .error .invalidPpm)
    | some image =>
      ({ bank with format := .ofPpm image.format }, .ok (.pnm image))

/-- What `latest_after` makes of a published bank, or the message of its fatal branch. -/
def update : Except String (Except WallpaperFileError RasterImage) :=
  match bank.result with
  | .error error => .ok (.error error)
  | .ok () =>
    match bank.format with
    | .p3 | .p6 =>
      match codecs.parsePpmBytes (bank.image.take bank.imageLength) with
      | none => .error "published PNM bank became invalid"
      | some image => .ok (.ok (.pnm image))
    | .png =>
      match RasterImage.fromRgb bank.decodedDimensions.1 bank.decodedDimensions.2 bank.decoded with
      | none => .error "published PNG bank became invalid"
      | some image => .ok (.ok image)

theorem update_fail : (bank.fail error).update codecs = .ok (.error error) := rfl

theorem validate_request : (bank.validate codecs).1.request = bank.request := by
  unfold validate
  dsimp only
  split
  · split
    · split <;> rfl
    · rfl
    · rfl
  · split <;> rfl

end

def empty : WallpaperFileBank := ⟨.empty, [], 0, [], (0, 0), .p3, .ok ()⟩

/-- The bank as `begin_result` leaves it; the format is not reset. -/
def begin (request : WallpaperFileRequest) : WallpaperFileBank :=
  { bank with
    request := request, image := [], imageLength := 0, decoded := [], decodedDimensions := (0, 0)
    result := .ok () }

theorem result_of_update {codecs : Codecs} {bank : WallpaperFileBank} {image : RasterImage}
    (found : bank.update codecs = .ok (.ok image)) : bank.result = .ok () := by
  unfold update at found
  split at found
  · cases found
  · assumption

/-- What was accepted is found again in the bank. -/
theorem update_of_validate {codecs : Codecs} {bank bank' : WallpaperFileBank} {image : RasterImage}
    (valid : bank.validate codecs = (bank', .ok image)) :
    { bank' with result := .ok () }.update codecs = .ok (.ok image) := by
  unfold validate at valid
  dsimp only at valid
  split at valid
  · split at valid
    · rename_i decoded _
      split at valid
      · cases valid
        have accepted : ¬ (decoded.width = 0 ∨ decoded.height = 0 ∨
            decoded.rgb.length ≠ decoded.width * decoded.height * 3) := by
          have sides := decoded.sides
          have length := decoded.rgb_length
          omega
        simp only [update, RasterImage.fromRgb, accepted, if_false]
      · cases valid
    · cases valid
    · cases valid
  · split at valid
    · cases valid
    rename_i image found
    cases valid
    simp only [update, List.take_length, found]
    cases image.format <;> rfl

end WallpaperFileBank

/-! ## The tasks -/

structure WallpaperStatics where
  request : WallpaperFileRequest
  requestBusy : Bool
  requestReady : Bool
  nextGeneration : Nat
  banks : Bank → WallpaperFileBank
  publishedBank : Option Bank
  activeImageBank : Option Bank
  resultGeneration : Nat
  consumedGeneration : Nat

/-- Where the block task stands in `take_request` and `load_and_publish_wallpaper`.  `goal`
is the size of the file to load, or the error to report for the request.  `outcome` is
what the load found. -/
inductive WallpaperBlockTask
  | idle
  | swapped
  | taken (request : WallpaperFileRequest)
  | opening (request : WallpaperFileRequest) (goal : Except WallpaperFileError Nat)
  | chosen (bank : Bank) (request : WallpaperFileRequest) (goal : Except WallpaperFileError Nat)
  | filling (bank : Bank) (size : Nat)
  | failing (bank : Bank) (error : WallpaperFileError)
  | checked (bank : Bank) (outcome : Except WallpaperFileError RasterImage)
  | announced (generation : Nat) (outcome : Except WallpaperFileError RasterImage)

/-- Where the desktop task stands in `request`, and between `latest_after` and the end of
`acknowledge`. -/
inductive WallpaperDesktopTask
  | idle
  | claimed (stored : WallpaperFileRequest)
  | numbered (stored : WallpaperFileRequest)
  | stored
  | loaded (current : Nat)
  | holding (generation : Nat) (bank : Bank) (ready : Bool)
  | animating (generation : Nat) (bank : Bank)
  | rendered (generation : Nat) (applied : Bool)
  | compared (generation : Nat) (applied : Bool) (published : Nat)
  | located (generation : Nat) (applied : Bool) (published : Nat) (bank : Option Bank)
  | consumed (applied : Bool) (bank : Bank)
  | releasing

/-- An image the desktop keeps: one built into the kernel, or a slice of a bank. -/
inductive ShownImage
  | embedded
  | bank (bank : Bank)
  deriving DecidableEq

structure WallpaperDesktop where
  task : WallpaperDesktopTask
  wallpaperGeneration : Nat
  currentImage : Option ShownImage
  previousImage : Option ShownImage

structure WallpaperSystem where
  statics : WallpaperStatics
  block : WallpaperBlockTask
  desktop : WallpaperDesktop
  halted : Option String

/-- What the filesystem gives the block task: an error for the path, a file with its size,
or the next block of the file. -/
inductive WallpaperInput
  | refused (error : WallpaperFileError)
  | opened (size : Nat)
  | data (bytes : List UInt8)

/-- One access, or one of the desktop's actions on its images between two updates. -/
inductive WallpaperMove
  | block (input : WallpaperInput)
  | request (image : ImgRequest)
  | showEmbedded (transition : Bool)
  | finishTransition
  | dropImages
  | desktop (accepted transition : Bool)

inductive WallpaperNotice
  | quiet
  | wrote (bank : Bank)
  | rejected (error : WallpaperFileRequestError)
  | accepted (generation : Nat)
  | published (generation : Nat) (outcome : Except WallpaperFileError RasterImage)
  | updated (generation : Nat) (outcome : Except WallpaperFileError RasterImage)
  | acknowledged (generation : Nat)
  | fatal (message : String)

namespace WallpaperSystem

def boot : WallpaperSystem where
  statics :=
    { request := .empty
      requestBusy := false
      requestReady := false
      nextGeneration := 0
      banks := fun _ => .empty
      publishedBank := none
      activeImageBank := none
      resultGeneration := 0
      consumedGeneration := 0 }
  block := .idle
  desktop :=
    { task := .idle, wallpaperGeneration := 0, currentImage := none, previousImage := none }
  halted := none

variable (codecs : Codecs)

section

variable (s : WallpaperSystem)

def setBlock (block : WallpaperBlockTask) : WallpaperSystem :=
  { s with block := block }

def setTask (task : WallpaperDesktopTask) : WallpaperSystem :=
  { s with desktop := { s.desktop with task := task } }

def setBank (bank : Bank) (contents : WallpaperFileBank) : WallpaperSystem :=
  { s with statics := { s.statics with banks := Function.update s.statics.banks bank contents } }

theorem setBank_banks (bank : Bank) (contents : WallpaperFileBank) :
    (s.setBank bank contents).statics.banks bank = contents :=
  Function.update_self ..

def halt (message : String) : WallpaperSystem × WallpaperNotice :=
  ({ s with halted := some message }, .fatal message)

end

/-- The size or error with which `load_and_publish_wallpaper` goes on. -/
def goalOf : WallpaperInput → Except WallpaperFileError Nat
  | .refused error => .error error
  | .opened size =>
    if size = 0 then .error .invalidPpm
    else if size > wallpaperFileCapacity then .error .fileTooLarge
    else .ok size
  | .data _ => .error .notFound

/-- The load begins, or the error is reported. -/
def pursue (bank : Bank) : Except WallpaperFileError Nat → WallpaperBlockTask
  | .error error => .failing bank error
  | .ok size => .filling bank size

section

variable (s : WallpaperSystem)

/-- One round of the copy loop, with `WallpaperFileWriter::write`. -/
def fillStep (bank : Bank) (size : Nat) (bytes : List UInt8) : WallpaperSystem × WallpaperNotice :=
  let contents := s.statics.banks bank
  let copied := contents.image.length
  let length := min bytes.length (size - copied)
  if length = 0 ∨ copied + length > wallpaperFileCapacity then
    (s.setBlock (.failing bank .fileTooLarge), .quiet)
  else
    ((s.setBank bank { contents with image := contents.image ++ bytes.take length }).setBlock
      (.filling bank size), .wrote bank)

/-- The validation at the end of the loop, up to the two stores of `publish_bank`. -/
def checkStep (bank : Bank) : WallpaperSystem × WallpaperNotice :=
  match (s.statics.banks bank).validate codecs with
  | (contents, .error error) =>
    ((s.setBank bank contents).setBlock (.failing bank error), .wrote bank)
  | (contents, .ok image) =>
    ((s.setBank bank { contents with result := .ok () }).setBlock (.checked bank (.ok image)),
      .wrote bank)

/-- The next access of the block task. -/
def blockStep (input : WallpaperInput) : WallpaperSystem × WallpaperNotice :=
  match s.block with
  | .idle =>
      if s.statics.requestReady then
        ({ s with statics := { s.statics with requestReady := false }, block := .swapped }, .quiet)
      else (s, .quiet)
  | .swapped => (s.setBlock (.taken s.statics.request), .quiet)
  | .taken request => (s.setBlock (.opening request (goalOf input)), .quiet)
  | .opening request goal =>
      let bank : Bank := if s.statics.activeImageBank = some 0 then 1 else 0
      (s.setBlock (.chosen bank request goal), .quiet)
  | .chosen bank request goal =>
      ((s.setBank bank ((s.statics.banks bank).begin request)).setBlock
        (pursue bank goal), .wrote bank)
  | .filling bank size =>
      if (s.statics.banks bank).image.length < size then
        s.fillStep bank size (match input with | .data bytes => bytes | _ => [])
      else s.checkStep codecs bank
  | .failing bank error =>
      ((s.setBank bank ((s.statics.banks bank).fail error)).setBlock
        (.checked bank (.error error)), .wrote bank)
  | .checked bank outcome =>
      ({ s with
        statics := { s.statics with publishedBank := some bank }
        block := .announced (s.statics.banks bank).request.generation outcome }, .quiet)
  | .announced generation outcome =>
      ({ s with
        statics := { s.statics with resultGeneration := generation }
        block := .idle }, .published generation outcome)

/-- The first access of `request`: the checks, and the exchange on `REQUEST_BUSY`. -/
def requestStep (image : ImgRequest) : WallpaperSystem × WallpaperNotice :=
  match image.store with
  | .error error => (s, .rejected error)
  | .ok stored =>
    if s.statics.requestBusy then (s, .rejected .busy)
    else ({ s with
      statics := { s.statics with requestBusy := true }
      desktop := { s.desktop with task := .claimed stored } }, .quiet)

/-- `apply_wallpaper_image` with an image that the daemon accepted. -/
def applyImage (image : ShownImage) (transition : Bool) : WallpaperSystem :=
  { s with desktop := { s.desktop with
      currentImage := some image
      previousImage := if transition then s.desktop.currentImage else none } }

/-- The next access of the desktop task inside `request`, or while it handles an update. -/
def desktopStep (accepted transition : Bool) : WallpaperSystem × WallpaperNotice :=
  match s.desktop.task with
  | .claimed stored =>
      -- `fetch_add` wraps, and so does the addition in a release build
      let generation := (s.statics.nextGeneration + 1) % 2 ^ 64
      ({ s with
        statics := { s.statics with nextGeneration := generation }
        desktop := { s.desktop with task := .numbered { stored with generation := generation } } },
        .accepted generation)
  | .numbered stored =>
      ({ s with
        statics := { s.statics with request := stored }
        desktop := { s.desktop with task := .stored } }, .quiet)
  | .stored =>
      ({ s with
        statics := { s.statics with requestReady := true }
        desktop := { s.desktop with task := .idle } }, .quiet)
  | .idle =>
      if s.statics.resultGeneration = 0 ∨
          s.statics.resultGeneration = s.desktop.wallpaperGeneration then (s, .quiet)
      else (s.setTask (.loaded s.statics.resultGeneration), .quiet)
  | .loaded current =>
      match s.statics.publishedBank with
      | none => (s.setTask .idle, .quiet)
      | some bank =>
        match (s.statics.banks bank).update codecs with
        | .error message => s.halt message
        | .ok outcome =>
          (s.setTask (.holding current bank (outcome matches .ok _)), .updated current outcome)
  | .holding generation bank ready =>
      if ready && accepted then
        if transition then ((s.applyImage (.bank bank) true).setTask (.animating generation bank), .quiet)
        else ((s.applyImage (.bank bank) false).setTask (.rendered generation true), .quiet)
      else (s.setTask (.rendered generation false), .quiet)
  | .animating generation _ =>
      ({ s with desktop := { s.desktop with
          task := .rendered generation true, previousImage := none } }, .quiet)
  | .rendered generation applied =>
      ({ s with desktop := { s.desktop with
          task := .compared generation applied s.statics.resultGeneration
          wallpaperGeneration := generation } }, .quiet)
  | .compared generation applied published =>
      (s.setTask (.located generation applied published s.statics.publishedBank), .quiet)
  | .located generation applied published bank =>
      match bank with
      | none => s.halt "swww VFS image result acknowledgement is invalid"
      | some bank =>
        if generation = 0 ∨ generation ≠ published ∨
            s.statics.consumedGeneration ≠ generation - 1 then
          s.halt "swww VFS image result acknowledgement is invalid"
        else ({ s with
          statics := { s.statics with consumedGeneration := generation }
          desktop := { s.desktop with task := .consumed applied bank } }, .acknowledged generation)
  | .consumed applied bank =>
      if applied then
        match (s.statics.banks bank).result with
        | .error _ => s.halt "swww VFS failed result cannot become the active image"
        | .ok () =>
          ({ s with
            statics := { s.statics with activeImageBank := some bank }
            desktop := { s.desktop with task := .releasing } }, .quiet)
      else (s.setTask .releasing, .quiet)
  | .releasing =>
      ({ s with
        statics := { s.statics with requestBusy := false }
        desktop := { s.desktop with task := .idle } }, .quiet)

/-- The desktop's other actions happen between two updates. -/
def whenIdle (action : WallpaperSystem × WallpaperNotice) : WallpaperSystem × WallpaperNotice :=
  match s.desktop.task with
  | .idle => action
  | _ => (s, .quiet)

def step (move : WallpaperMove) : WallpaperSystem × WallpaperNotice :=
  if s.halted.isSome then (s, .quiet)
  else match move with
    | .block input => s.blockStep codecs input
    | .request image => s.whenIdle (s.requestStep image)
    | .showEmbedded transition => s.whenIdle (s.applyImage .embedded transition, .quiet)
    | .finishTransition =>
      s.whenIdle ({ s with desktop := { s.desktop with previousImage := none } }, .quiet)
    | .dropImages =>
      s.whenIdle ({ s with desktop := { s.desktop with
        currentImage := none, previousImage := none } }, .quiet)
    | .desktop accepted transition => s.desktopStep codecs accepted transition

/-- The bank holds the current image, the previous image of a running transition or a result
that the desktop is looking at, or it is published and not acknowledged. -/
def InUse (bank : Bank) : Prop :=
  s.desktop.currentImage = some (.bank bank) ∨ s.desktop.previousImage = some (.bank bank) ∨
    (∃ generation ready, s.desktop.task = .holding generation bank ready) ∨
    (s.statics.publishedBank = some bank ∧
      s.statics.resultGeneration ≠ s.statics.consumedGeneration)

end

end WallpaperSystem

end SlopOS.Desktop
