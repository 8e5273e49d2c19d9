import SlopOS.Base.Trace

/-!
# The two configuration banks

The block task loads the desktop's configuration files into one of two static banks
and publishes the bank under a new generation; the desktop task takes the published
bank, keeps borrowing its text and acknowledges the generation.  The tasks share a
handful of atomics and nothing else.  A `Move` is one access of one task to them, so
a list of moves is one interleaving of the two tasks.

The parsers of the four files are deterministic functions of the text and enter as
parameters.
-/

namespace SlopOS.Desktop

def u64Max : Nat := 2 ^ 64 - 1

/-- `u64::saturating_add`. -/
def saturatingAdd (value amount : Nat) : Nat := min (value + amount) u64Max

inductive BarPosition
  | top
  | bottom
  | left
  | right
  deriving DecidableEq

/-- What `validate_and_publish` and `apply_config_update` ask of the parsers. -/
structure Parsers where
  parseNiriLayout : String → Bool
  parseNiriShellConfig : String → Bool
  parseWaybarConfig : String → Option BarPosition
  parseWaybarStyle : String → Bool
  parseSwwwEnvironment : String → Bool

inductive ConfigPublishError
  | busy
  | invalidFile
  | invalidNiri
  | invalidWaybar
  | unsupportedBarPosition
  | invalidWaybarStyle
  | invalidSwww
  deriving DecidableEq

/-! ## Banks -/

structure ConfigFile where
  text : String
  path : String

namespace ConfigFile

def empty : ConfigFile := ⟨"", ""⟩

/-- `write` replaces the file, or rejects the bytes before touching it. -/
def write (capacity : Nat) (bytes : ByteArray) (path : String) :
    Except ConfigPublishError ConfigFile :=
  if bytes.size = 0 ∨ bytes.size > capacity then .error .invalidFile
  else match String.fromUTF8? bytes with
    | none => .error .invalidFile
    | some text => .ok ⟨text, path⟩

end ConfigFile

inductive ConfigSlot
  | niri
  | waybar
  | waybarStyle
  | swww
  deriving DecidableEq

/-- `CONFIG_FILE_CAPACITY` and `ENV_FILE_CAPACITY`. -/
def ConfigSlot.capacity : ConfigSlot → Nat
  | niri | waybar | waybarStyle => 4096
  | swww => 512

structure ConfigBank where
  niri : ConfigFile
  waybar : ConfigFile
  waybarStyle : ConfigFile
  swww : ConfigFile

namespace ConfigBank

def empty : ConfigBank := ⟨.empty, .empty, .empty, .empty⟩

def get (bank : ConfigBank) : ConfigSlot → ConfigFile
  | .niri => bank.niri
  | .waybar => bank.waybar
  | .waybarStyle => bank.waybarStyle
  | .swww => bank.swww

def set (bank : ConfigBank) (slot : ConfigSlot) (file : ConfigFile) : ConfigBank :=
  match slot with
  | .niri => { bank with niri := file }
  | .waybar => { bank with waybar := file }
  | .waybarStyle => { bank with waybarStyle := file }
  | .swww => { bank with swww := file }

theorem get_set (bank : ConfigBank) (slot other : ConfigSlot) (file : ConfigFile) :
    (bank.set slot file).get other = if other = slot then file else bank.get other := by
  cases slot <;> cases other <;> rfl

theorem ext_get {bank bank' : ConfigBank} (same : ∀ slot, bank.get slot = bank'.get slot) :
    bank = bank' := by
  cases bank
  cases bank'
  congr
  · exact same .niri
  · exact same .waybar
  · exact same .waybarStyle
  · exact same .swww

/-- The checks of `validate_and_publish`. -/
def validate (parsers : Parsers) (bank : ConfigBank) : Except ConfigPublishError Unit :=
  if !parsers.parseNiriLayout bank.niri.text then .error .invalidNiri
  else if !parsers.parseNiriShellConfig bank.niri.text then .error .invalidNiri
  else match parsers.parseWaybarConfig bank.waybar.text with
    | none => .error .invalidWaybar
    | some position =>
      if position ≠ .top then .error .unsupportedBarPosition
      else if !parsers.parseWaybarStyle bank.waybarStyle.text then .error .invalidWaybarStyle
      else if !parsers.parseSwwwEnvironment bank.swww.text then .error .invalidSwww
      else .ok ()

/-- The checks that `apply_config_update` repeats on the published text, with the
message of the fatal branch taken. -/
def applyFatal (parsers : Parsers) (bank : ConfigBank) : Option String :=
  if !parsers.parseNiriLayout bank.niri.text then some "published niri layout became invalid"
  else if !parsers.parseNiriShellConfig bank.niri.text then
    some "published niri shell config became invalid"
  else match parsers.parseWaybarConfig bank.waybar.text with
    | none => some "published Waybar config became invalid"
    | some position =>
      if !parsers.parseWaybarStyle bank.waybarStyle.text then
        some "published Waybar style became invalid"
      else if !parsers.parseSwwwEnvironment bank.swww.text then
        some "published swww defaults became invalid"
      else if position ≠ .top then some "published Waybar position is unsupported"
      else none

theorem applyFatal_of_validate {parsers : Parsers} {bank : ConfigBank}
    (valid : bank.validate parsers = .ok ()) : bank.applyFatal parsers = none := by
  unfold validate at valid
  unfold applyFatal
  split at valid
  · cases valid
  split at valid
  · cases valid
  split at valid
  · cases valid
  split at valid
  · cases valid
  split at valid
  · cases valid
  split at valid
  · cases valid
  simp_all

end ConfigBank

/-! ## The tasks -/

/-- An index below `CONFIG_BANKS`; `NO_BANK` is `none` where an index is optional. -/
abbrev Bank := Fin 2

instance bankCount : NeZero 2 := ⟨by decide⟩

/-- The bank that a writer chooses. -/
theorem other_bank (current : Option Bank) :
    current ≠ some (if current = some 0 then 1 else 0) := by
  split
  case isTrue first => simp [first]
  case isFalse first => exact first

/-- The statics of the two modules. -/
structure ConfigStatics where
  banks : Bank → ConfigBank
  publishedBank : Option Bank
  generation : Nat
  consumedGeneration : Nat
  writing : Bool
  configAppliedGeneration : Nat

/-- One file that a load writes: the candidate found for a slot, or the text that
replaces the style when an invalid reload was requested. -/
inductive LoadItem
  | candidate (slot : ConfigSlot)
  | invalidProbe
  deriving DecidableEq

def LoadItem.slot : LoadItem → ConfigSlot
  | candidate slot => slot
  | invalidProbe => .waybarStyle

/-- What `open_config_candidate` and `read_file_block` give for a candidate. -/
structure OpenedFile where
  size : Nat
  bytes : ByteArray
  path : String

/-- The bytes and path to write for an item, unless the file is missing or too large. -/
def LoadItem.contents (found : Option OpenedFile) : LoadItem → Option (ByteArray × String)
  | candidate slot => found.bind fun file =>
      if file.size > slot.capacity then none else some (file.bytes, file.path)
  | invalidProbe => some ("window#waybar \x7b color: invalid; \x7d".toUTF8, "<invalid-probe>")

/-- The files of one load in order. -/
def loadPlan (injectInvalid : Bool) : List LoadItem :=
  [.candidate .niri, .candidate .waybar, .candidate .waybarStyle] ++
    (if injectInvalid then [.invalidProbe] else []) ++ [.candidate .swww]

theorem mem_loadPlan (injectInvalid : Bool) (slot : ConfigSlot) :
    ∃ item ∈ loadPlan injectInvalid, item.slot = slot := by
  refine ⟨.candidate slot, ?_, rfl⟩
  cases injectInvalid <;> cases slot <;> decide

/-- Where the block task stands in `load_and_publish_desktop_config`: between two
accesses to the statics.  `bundle` holds the files this load has written so far. -/
inductive BlockTask
  | idle
  | claimed (injectInvalid : Bool)
  | loaded (injectInvalid : Bool) (generation : Nat)
  | agreed (injectInvalid : Bool)
  | filling (bank : Bank) (items : List LoadItem) (bundle : ConfigBank)
  | validated (bank : Bank) (bundle : ConfigBank)
  | numbered (bank : Bank) (bundle : ConfigBank) (next : Nat)
  | announced (bundle : ConfigBank) (next : Nat)
  | releasing

/-- Where the desktop task stands between `latest_after` and the end of `acknowledge`. -/
inductive DesktopTask
  | idle
  | loaded (current : Nat)
  | applying (generation : Nat) (bank : Bank)
  | applied (generation : Nat)
  | consumed (generation : Nat)

/-- The desktop's own state; `current` is the bank its configuration borrows from. -/
structure DesktopSide where
  task : DesktopTask
  configGeneration : Nat
  current : Option Bank

structure ConfigSystem where
  statics : ConfigStatics
  block : BlockTask
  desktop : DesktopSide
  halted : Option String

namespace ConfigSystem

def boot : ConfigSystem where
  statics :=
    { banks := fun _ => .empty
      publishedBank := none
      generation := 0
      consumedGeneration := 0
      writing := false
      configAppliedGeneration := 0 }
  block := .idle
  desktop := { task := .idle, configGeneration := 0, current := none }
  halted := none

end ConfigSystem

/-- One access: the block task starts a load, goes on with it (`found` is used where a
candidate is opened), or the desktop task goes on. -/
inductive ConfigMove
  | load (injectInvalid : Bool)
  | block (found : Option OpenedFile)
  | desktop

/-- What an access is seen to do. -/
inductive ConfigNotice
  | quiet
  | wrote (bank : Bank)
  | refused (error : ConfigPublishError)
  | missing
  | published (generation : Nat) (bundle : ConfigBank)
  | snapshot (generation : Nat) (files : ConfigBank)
  | exchangeFailed
  | fatal (message : String)

namespace ConfigSystem

variable (parsers : Parsers)

section

variable (s : ConfigSystem)

/-- The first access of `begin_write`: the exchange on `WRITING`. -/
def claim (injectInvalid : Bool) : ConfigSystem × ConfigNotice :=
  if s.statics.writing then (s, .exchangeFailed)
  else ({ s with
    statics := { s.statics with writing := true }, block := .claimed injectInvalid }, .quiet)

/-- The next access of the block task. -/
def blockStep (found : Option OpenedFile) : ConfigSystem × ConfigNotice :=
  match s.block with
  | .idle => (s, .quiet)
  | .claimed injectInvalid =>
      ({ s with block := .loaded injectInvalid s.statics.generation }, .quiet)
  | .loaded injectInvalid generation =>
      if generation ≠ s.statics.consumedGeneration then
        ({ s with block := .releasing }, .refused .busy)
      else ({ s with block := .agreed injectInvalid }, .quiet)
  | .agreed injectInvalid =>
      let bank : Bank := if s.statics.publishedBank = some 0 then 1 else 0
      ({ s with block := .filling bank (loadPlan injectInvalid) .empty }, .quiet)
  | .filling bank [] bundle =>
      match (s.statics.banks bank).validate parsers with
      | .error error => ({ s with block := .releasing }, .refused error)
      | .ok () => ({ s with block := .validated bank bundle }, .quiet)
  | .filling bank (item :: items) bundle =>
      match item.contents found with
      | none => ({ s with block := .releasing }, .missing)
      | some (bytes, path) =>
        match ConfigFile.write item.slot.capacity bytes path with
        | .error error => ({ s with block := .releasing }, .refused error)
        | .ok file =>
          ({ s with
            statics := { s.statics with
              banks := Function.update s.statics.banks bank
                ((s.statics.banks bank).set item.slot file) }
            block := .filling bank items (bundle.set item.slot file) }, .wrote bank)
  | .validated bank bundle =>
      ({ s with block := .numbered bank bundle (saturatingAdd s.statics.generation 1) }, .quiet)
  | .numbered bank bundle next =>
      ({ s with
        statics := { s.statics with publishedBank := some bank }
        block := .announced bundle next }, .quiet)
  | .announced bundle next =>
      ({ s with
        statics := { s.statics with generation := next }
        block := .releasing }, .published next bundle)
  | .releasing =>
      ({ s with statics := { s.statics with writing := false }, block := .idle }, .quiet)

/-- The next access of the desktop task. -/
def desktopStep : ConfigSystem × ConfigNotice :=
  match s.desktop.task with
  | .idle =>
      if s.statics.generation = 0 ∨ s.statics.generation = s.desktop.configGeneration then
        (s, .quiet)
      else ({ s with
        desktop := { s.desktop with task := .loaded s.statics.generation } }, .quiet)
  | .loaded current =>
      match s.statics.publishedBank with
      | none => ({ s with desktop := { s.desktop with task := .idle } }, .quiet)
      | some bank =>
        ({ s with desktop := { s.desktop with task := .applying current bank } },
          .snapshot current (s.statics.banks bank))
  | .applying generation bank =>
      -- the text is read through the borrow, as it stands now
      match (s.statics.banks bank).applyFatal parsers with
      | some message => ({ s with halted := some message }, .fatal message)
      | none =>
        ({ s with desktop :=
            { task := .applied generation
              configGeneration := generation
              current := some bank } }, .quiet)
  | .applied generation =>
      ({ s with
        statics := { s.statics with consumedGeneration := generation }
        desktop := { s.desktop with task := .consumed generation } }, .quiet)
  | .consumed generation =>
      if generation = 0 ∨ s.statics.configAppliedGeneration ≠ generation - 1 then
        let message := "desktop service observed an invalid config generation"
        ({ s with halted := some message }, .fatal message)
      else ({ s with
        statics := { s.statics with configAppliedGeneration := generation }
        desktop := { s.desktop with task := .idle } }, .quiet)

def step (move : ConfigMove) : ConfigSystem × ConfigNotice :=
  if s.halted.isSome then (s, .quiet)
  else match move with
    | .load injectInvalid =>
      match s.block with
      | .idle => s.claim injectInvalid
      | _ => (s, .quiet)
    | .block found => s.blockStep parsers found
    | .desktop => s.desktopStep parsers

/-- The bank holds text that the desktop borrows, or it is published and not yet
acknowledged. -/
def InUse (bank : Bank) : Prop :=
  s.desktop.current = some bank ∨ (∃ generation, s.desktop.task = .applying generation bank) ∨
    (s.statics.publishedBank = some bank ∧
      s.statics.generation ≠ s.statics.consumedGeneration)

end

end ConfigSystem

end SlopOS.Desktop
