import SlopOS.Desktop.WallpaperBanks

/-!
# Ownership of the wallpaper banks

A request passes through five stages: there is none, the desktop stores one, it waits for
the block task, the block task loads it, its result is with the desktop.  The generation
counters, the flags and the positions of both tasks are determined by the stage, and the
bank being written is one that no shown image lies in.
-/

namespace SlopOS.Desktop.WallpaperSystem

open WallpaperFileBank List

variable {codecs : Codecs} {bank : Bank}

/-! ## Stages -/

/-- Shown images lie in the pinned bank. -/
def Pinned (s : WallpaperSystem) : Prop :=
  ∀ bank, s.desktop.currentImage = some (.bank bank) ∨ s.desktop.previousImage = some (.bank bank) →
    s.statics.activeImageBank = some bank

/-- Every result is acknowledged. -/
structure Level (s : WallpaperSystem) : Prop where
  running : s.halted = none
  bound : s.statics.consumedGeneration < 2 ^ 64
  result : s.statics.resultGeneration = s.statics.consumedGeneration
  known : s.desktop.wallpaperGeneration = s.statics.consumedGeneration
  pinned : Pinned s

/-- The generation after `generation`, as `request` counts. -/
def following (generation : Nat) : Nat := (generation + 1) % 2 ^ 64

/-- No request. -/
structure Free (s : WallpaperSystem) : Prop where
  level : Level s
  busy : s.statics.requestBusy = false
  ready : s.statics.requestReady = false
  block : s.block = .idle
  task : s.desktop.task = .idle
  next : s.statics.nextGeneration = s.statics.consumedGeneration

/-- The desktop is inside `request`. -/
structure Requesting (s : WallpaperSystem) : Prop where
  level : Level s
  busy : s.statics.requestBusy = true
  ready : s.statics.requestReady = false
  block : s.block = .idle
  task : match s.desktop.task with
    | .claimed _ => s.statics.nextGeneration = s.statics.consumedGeneration
    | .numbered stored => s.statics.nextGeneration = following s.statics.consumedGeneration ∧
        stored.generation = s.statics.nextGeneration
    | .stored => s.statics.nextGeneration = following s.statics.consumedGeneration ∧
        s.statics.request.generation = s.statics.nextGeneration
    | _ => False

/-- The request is stored and not yet taken. -/
structure Waiting (s : WallpaperSystem) : Prop where
  level : Level s
  busy : s.statics.requestBusy = true
  ready : s.statics.requestReady = true
  block : s.block = .idle
  task : s.desktop.task = .idle
  next : s.statics.nextGeneration = following s.statics.consumedGeneration
  request : s.statics.request.generation = s.statics.nextGeneration

/-- The block task writes `bank` for the current request. -/
structure Owned (statics : WallpaperStatics) (bank : Bank) : Prop where
  inactive : statics.activeImageBank ≠ some bank
  request : (statics.banks bank).request.generation = statics.nextGeneration

/-- The block task during a load. -/
def LoadingBlock (codecs : Codecs) (statics : WallpaperStatics) : WallpaperBlockTask → Prop
  | .idle => False
  | .swapped => statics.request.generation = statics.nextGeneration
  | .taken request | .opening request _ => request.generation = statics.nextGeneration
  | .chosen bank request _ => statics.activeImageBank ≠ some bank ∧
      request.generation = statics.nextGeneration
  | .filling bank _ | .failing bank _ => Owned statics bank
  | .checked bank outcome => Owned statics bank ∧ (statics.banks bank).update codecs = .ok outcome
  | .announced generation outcome => generation = statics.nextGeneration ∧
      ∃ bank, statics.publishedBank = some bank ∧
        (statics.banks bank).update codecs = .ok outcome

/-- The block task loads the request. -/
structure Loading (codecs : Codecs) (s : WallpaperSystem) : Prop where
  level : Level s
  busy : s.statics.requestBusy = true
  ready : s.statics.requestReady = false
  task : s.desktop.task = .idle
  next : s.statics.nextGeneration = following s.statics.consumedGeneration
  block : LoadingBlock codecs s.statics s.block

section

variable (s : WallpaperSystem) (bank : Bank) (outcome : Except WallpaperFileError RasterImage)

/-- The image of the result is shown, and no other bank is. -/
def Shown : Prop :=
  (∃ image, outcome = .ok image) ∧ s.desktop.currentImage = some (.bank bank) ∧
    s.desktop.previousImage = none

/-- What the desktop shows once it has handled the result. -/
def Settled (applied : Bool) : Prop :=
  if applied then Shown s bank outcome else Pinned s

/-- The desktop while the result in `bank` is with it. -/
def HandlingTask : Prop :=
  let unseen := s.statics.resultGeneration = following s.statics.consumedGeneration ∧
    s.desktop.wallpaperGeneration = s.statics.consumedGeneration
  let taken := s.statics.resultGeneration = s.statics.consumedGeneration + 1 ∧
    s.statics.resultGeneration < 2 ^ 64
  match s.desktop.task with
  | .idle => unseen ∧ Pinned s
  | .loaded current => unseen ∧ taken ∧ current = s.statics.resultGeneration ∧ Pinned s
  | .holding generation source ready => unseen ∧ taken ∧
      generation = s.statics.resultGeneration ∧ source = bank ∧
      (ready = true → ∃ image, outcome = .ok image) ∧ Pinned s
  | .animating generation source => unseen ∧ taken ∧ generation = s.statics.resultGeneration ∧
      source = bank ∧ (∃ image, outcome = .ok image) ∧
      s.desktop.currentImage = some (.bank bank)
  | .rendered generation applied => unseen ∧ taken ∧ generation = s.statics.resultGeneration ∧
      Settled s bank outcome applied
  | .compared generation applied published => taken ∧
      s.desktop.wallpaperGeneration = generation ∧ generation = s.statics.resultGeneration ∧
      published = generation ∧ Settled s bank outcome applied
  | .located generation applied published source => taken ∧
      s.desktop.wallpaperGeneration = generation ∧ generation = s.statics.resultGeneration ∧
      published = generation ∧ source = some bank ∧ Settled s bank outcome applied
  | .consumed applied source =>
      s.statics.resultGeneration = s.statics.consumedGeneration ∧
      s.desktop.wallpaperGeneration = s.statics.consumedGeneration ∧ source = bank ∧
      Settled s bank outcome applied
  | .releasing => Level s
  | _ => False

end

/-- The result is published and with the desktop. -/
structure Handling (codecs : Codecs) (s : WallpaperSystem) (bank : Bank)
    (outcome : Except WallpaperFileError RasterImage) : Prop where
  running : s.halted = none
  bound : s.statics.consumedGeneration < 2 ^ 64
  busy : s.statics.requestBusy = true
  ready : s.statics.requestReady = false
  block : s.block = .idle
  next : s.statics.nextGeneration = s.statics.resultGeneration
  published : s.statics.publishedBank = some bank
  update : (s.statics.banks bank).update codecs = .ok outcome
  task : HandlingTask s bank outcome

/-- The state between two accesses. -/
inductive Invariant (codecs : Codecs) (s : WallpaperSystem) : Prop
  | free (at_ : Free s)
  | requesting (at_ : Requesting s)
  | waiting (at_ : Waiting s)
  | loading (at_ : Loading codecs s)
  | handling (bank : Bank) (outcome : Except WallpaperFileError RasterImage)
      (at_ : Handling codecs s bank outcome)

theorem boot_invariant : Invariant codecs boot :=
  .free ⟨⟨rfl, by decide, rfl, rfl, by simp [Pinned, boot]⟩, rfl, rfl, rfl, rfl, rfl⟩

/-! ## What is waiting and what is in flight -/

/-- A published result that is not acknowledged, with what `latest_after` makes of it. -/
def offer (codecs : Codecs) (s : WallpaperSystem) :
    Option (Nat × Except String (Except WallpaperFileError RasterImage)) :=
  if s.statics.resultGeneration = s.statics.consumedGeneration then none
  else s.statics.publishedBank.map fun bank =>
    (s.statics.resultGeneration, (s.statics.banks bank).update codecs)

/-- Requests accepted and not acknowledged. -/
def inFlight (s : WallpaperSystem) : Nat :=
  match s.desktop.task with
  | .claimed _ | .consumed _ _ | .releasing => 0
  | _ => if s.statics.requestBusy then 1 else 0

def publication : WallpaperNotice →
    Option (Nat × Except String (Except WallpaperFileError RasterImage))
  | .published generation outcome => some (generation, .ok outcome)
  | _ => none

def delivery : WallpaperNotice →
    Option (Nat × Except String (Except WallpaperFileError RasterImage))
  | .updated generation outcome => some (generation, .ok outcome)
  | _ => none

def acceptance : WallpaperNotice → Option Nat
  | .accepted generation => some generation
  | _ => none

def acknowledgement : WallpaperNotice → Option Nat
  | .acknowledged generation => some generation
  | _ => none

/-- What one access may do. -/
structure Effect (codecs : Codecs) (s s' : WallpaperSystem) (notice : WallpaperNotice) : Prop where
  wrote : ∀ bank, notice = .wrote bank → ¬ s.InUse bank
  alive : ∀ message, notice ≠ .fatal message
  waits : ∀ waiting, s'.offer codecs = some waiting →
    s.offer codecs = some waiting ∨ publication notice = some waiting
  delivers : ∀ update, delivery notice = some update → s.offer codecs = some update
  flight : s'.inFlight + (acknowledgement notice).toList.length =
    s.inFlight + (acceptance notice).toList.length
  counted : List.range' 1 s'.statics.consumedGeneration =
    List.range' 1 s.statics.consumedGeneration ++ (acknowledgement notice).toList

/-- An access that keeps the invariant and has a permitted effect. -/
def Sound (codecs : Codecs) (s : WallpaperSystem) (outcome : WallpaperSystem × WallpaperNotice) :
    Prop :=
  Invariant codecs outcome.1 ∧ Effect codecs s outcome.1 outcome.2

section Effects

variable {s s' : WallpaperSystem}

theorem Effect.quiet (offer : s'.offer codecs = none ∨ s'.offer codecs = s.offer codecs)
    (flight : s'.inFlight = s.inFlight)
    (consumed : s'.statics.consumedGeneration = s.statics.consumedGeneration) :
    Effect codecs s s' .quiet where
  wrote := nofun
  alive := nofun
  waits := by
    intro waiting waits
    rcases offer with gone | same
    · rw [gone] at waits
      cases waits
    · exact .inl (same ▸ waits)
  delivers := nofun
  flight := flight
  counted := by rw [consumed]; exact (append_nil _).symm

/-- Nothing changes, and at most an error is seen. -/
theorem Invariant.rests (inv : Invariant codecs s) {notice : WallpaperNotice}
    (passive : notice = .quiet ∨ ∃ error, notice = .rejected error) : Sound codecs s (s, notice) := by
  refine ⟨inv, ?_⟩
  rcases passive with rfl | ⟨error, rfl⟩
  · exact .quiet (.inr rfl) rfl rfl
  · exact ⟨nofun, nofun, fun _ waits => .inl waits, nofun, rfl, (append_nil _).symm⟩

theorem Effect.write (free : ¬ s.InUse bank) (offer : s'.offer codecs = none)
    (flight : s'.inFlight = s.inFlight)
    (consumed : s'.statics.consumedGeneration = s.statics.consumedGeneration) :
    Effect codecs s s' (.wrote bank) where
  wrote := by
    intro written same
    cases same
    exact free
  alive := nofun
  waits := by
    intro waiting waits
    rw [offer] at waits
    cases waits
  delivers := nofun
  flight := flight
  counted := by rw [consumed]; exact (append_nil _).symm

end Effects

/-! ## The block task -/

section Block

variable {s : WallpaperSystem} {contents : WallpaperFileBank} {block : WallpaperBlockTask}

/-- What is offered is the result in the published bank. -/
theorem offer_unique {found : Except String (Except WallpaperFileError RasterImage)}
    {waiting : Nat × Except String (Except WallpaperFileError RasterImage)}
    (waits : s.offer codecs = some waiting) (published : s.statics.publishedBank = some bank)
    (update : (s.statics.banks bank).update codecs = found) :
    (s.statics.resultGeneration, found) = waiting := by
  rw [offer] at waits
  split at waits
  · cases waits
  · rw [published, Option.map_some, update] at waits
    exact Option.some.inj waits

theorem Level.offer (level : Level s) : s.offer codecs = none :=
  if_pos level.result

/-- While a request is loaded, the bank chosen for it is nobody else's. -/
theorem Loading.free (loading : Loading codecs s) (inactive : s.statics.activeImageBank ≠ some bank)
    : ¬ s.InUse bank := by
  rintro (current | previous | ⟨generation, ready, holding⟩ | ⟨-, outstanding⟩)
  · exact inactive (loading.level.pinned bank (.inl current))
  · exact inactive (loading.level.pinned bank (.inr previous))
  · rw [loading.task] at holding
    cases holding
  · exact outstanding loading.level.result


/-- A step of a load acknowledges nothing and shows nothing. -/
theorem Level.ofStatics {banks : Bank → WallpaperFileBank} {ready : Bool}
    {published : Option Bank} (level : Level s) : Level { s with
      statics := { s.statics with banks, requestReady := ready, publishedBank := published }
      block } :=
  ⟨level.running, level.bound, level.result, level.known, level.pinned⟩

theorem Loading.advance (loading : Loading codecs s) (at_ : LoadingBlock codecs s.statics block) :
    Sound codecs s (s.setBlock block, .quiet) :=
  ⟨.loading ⟨loading.level.ofStatics, loading.busy, loading.ready, loading.task, loading.next, at_⟩,
    .quiet (.inr rfl) rfl rfl⟩

theorem owned_setBank (inactive : s.statics.activeImageBank ≠ some bank)
    (request : contents.request.generation = s.statics.nextGeneration) :
    Owned (s.setBank bank contents).statics bank := by
  refine ⟨inactive, ?_⟩
  rw [setBank_banks]
  exact request

section

variable (loading : Loading codecs s)
include loading

/-- A write of the bank that the block task owns. -/
theorem Loading.write (inactive : s.statics.activeImageBank ≠ some bank)
    (at_ : LoadingBlock codecs (s.setBank bank contents).statics block) :
    Sound codecs s ((s.setBank bank contents).setBlock block, .wrote bank) := by
  have level : Level ((s.setBank bank contents).setBlock block) := loading.level.ofStatics
  exact ⟨.loading ⟨level, loading.busy, loading.ready, loading.task, loading.next, at_⟩,
    .write (loading.free inactive) level.offer rfl rfl⟩

theorem fillStep_loading {size : Nat} (owned : Owned s.statics bank) (bytes : List UInt8) :
    Sound codecs s (s.fillStep bank size bytes) := by
  unfold fillStep
  dsimp only
  split
  · exact loading.advance owned
  · exact loading.write owned.inactive (owned_setBank owned.inactive owned.request)

theorem checkStep_loading (owned : Owned s.statics bank) :
    Sound codecs s (s.checkStep codecs bank) := by
  have request := validate_request codecs (s.statics.banks bank)
  unfold checkStep
  split
  case h_1 contents error rejected =>
    rw [rejected] at request
    exact loading.write owned.inactive
      (owned_setBank owned.inactive (request ▸ owned.request))
  case h_2 contents image valid =>
    rw [valid] at request
    refine loading.write owned.inactive
      ⟨owned_setBank owned.inactive (request ▸ owned.request), ?_⟩
    rw [setBank_banks]
    exact update_of_validate valid

/-- The first and the last access of a load apart, the block task stays in it. -/
theorem blockStep_loading (input : WallpaperInput) : Sound codecs s (s.blockStep codecs input) := by
  have at_ := loading.block
  unfold blockStep
  generalize s.block = block at at_ ⊢
  cases block with
  | idle => exact at_.elim
  | swapped | taken => exact loading.advance at_
  | opening request goal => exact loading.advance ⟨other_bank _, at_⟩
  | chosen bank request goal =>
    have owned : Owned (s.setBank bank ((s.statics.banks bank).begin request)).statics bank :=
      owned_setBank at_.1 at_.2
    refine loading.write at_.1 ?_
    cases goal <;> exact owned
  | filling bank size =>
    dsimp only
    split
    · exact fillStep_loading loading at_ _
    · exact checkStep_loading loading at_
  | failing bank error =>
    refine loading.write at_.inactive ⟨owned_setBank at_.inactive at_.request, ?_⟩
    rw [setBank_banks, update_fail]
  | checked bank outcome =>
    exact ⟨.loading ⟨loading.level.ofStatics, loading.busy, loading.ready, loading.task,
      loading.next, at_.1.request, bank, rfl, at_.2⟩,
      .quiet (.inl (if_pos loading.level.result)) rfl rfl⟩
  | announced generation outcome =>
    obtain ⟨rfl, bank, published, update⟩ := at_
    refine ⟨.handling bank outcome ⟨loading.level.running, loading.level.bound, loading.busy,
      loading.ready, rfl, rfl, published, update, ?_⟩, ?_⟩
    · rw [HandlingTask, show WallpaperDesktop.task _ = .idle from loading.task]
      exact ⟨⟨loading.next, loading.level.known⟩, loading.level.pinned⟩
    · refine ⟨nofun, nofun, ?_, nofun, rfl, (append_nil _).symm⟩
      intro waiting waits
      exact .inr (congrArg some (offer_unique waits published update))

end

theorem blockStep_ok (inv : Invariant codecs s) (input : WallpaperInput) :
    Sound codecs s (s.blockStep codecs input) := by
  have rests : s.block = .idle → s.statics.requestReady = false →
      Sound codecs s (s.blockStep codecs input) := by
    intro idle ready
    simp only [blockStep, idle, ready]
    exact inv.rests (.inl rfl)
  cases inv with
  | free at_ | requesting at_ | handling bank outcome at_ => exact rests at_.block at_.ready
  | waiting at_ =>
    simp only [blockStep, at_.block, at_.ready]
    exact ⟨.loading ⟨at_.level.ofStatics, at_.busy, rfl, at_.task, at_.next, at_.request⟩,
      .quiet (.inr rfl) rfl rfl⟩
  | loading at_ => exact blockStep_loading at_ input

end Block

/-! ## The desktop task -/

section Desktop

variable {s : WallpaperSystem}

/-- The desktop stores its request and lets the block task see it. -/
theorem desktopStep_requesting (at_ : Requesting s) (accepted transition : Bool) :
    Sound codecs s (s.desktopStep codecs accepted transition) := by
  obtain ⟨statics, block, ⟨task, known, current, previous⟩, halted⟩ := s
  obtain ⟨⟨running, bound, result, seen, pinned⟩, busy, ready, idle, position⟩ := at_
  dsimp only at busy
  cases task with
  | claimed stored =>
    have next : statics.nextGeneration = statics.consumedGeneration := position
    refine ⟨.requesting ⟨⟨running, bound, result, seen, pinned⟩, busy, ready, idle, ?_, rfl⟩, ?_⟩
    · exact congrArg following next
    · refine ⟨nofun, nofun, fun _ waits => .inl waits, nofun, ?_, (append_nil _).symm⟩
      simp [inFlight, desktopStep, busy, acceptance, acknowledgement]
  | numbered stored =>
    exact ⟨.requesting ⟨⟨running, bound, result, seen, pinned⟩, busy, ready, idle, position⟩,
      .quiet (.inr rfl) rfl rfl⟩
  | stored =>
    exact ⟨.waiting ⟨⟨running, bound, result, seen, pinned⟩, busy, rfl, idle, rfl, position.1,
      position.2⟩, .quiet (.inr rfl) rfl rfl⟩
  | idle | loaded | holding | animating | rendered | compared | located | consumed | releasing =>
    exact position.elim

theorem following_counted {generation : Nat} (bound : generation < 2 ^ 64)
    (counted : following generation ≠ 0) :
    following generation = generation + 1 ∧ following generation < 2 ^ 64 := by
  unfold following at counted ⊢
  omega

/-- The desktop looks at the result, shows it or not, and acknowledges it. -/
theorem desktopStep_handling {outcome : Except WallpaperFileError RasterImage}
    (at_ : Handling codecs s bank outcome) (accepted transition : Bool) :
    Sound codecs s (s.desktopStep codecs accepted transition) := by
  obtain ⟨statics, block, ⟨task, known, current, previous⟩, halted⟩ := s
  obtain ⟨running, bound, busy, ready, idle, next, published, update, position⟩ := at_
  dsimp only at bound busy next published update
  have stays : ∀ {desktop : WallpaperDesktop},
      HandlingTask ⟨statics, block, desktop, halted⟩ bank outcome →
        Invariant codecs ⟨statics, block, desktop, halted⟩ := fun position =>
    .handling bank outcome ⟨running, bound, busy, ready, idle, next, published, update, position⟩
  cases task with
  | idle =>
    obtain ⟨⟨result, seen⟩, pinned⟩ := position
    simp only [desktopStep]
    split
    · exact ⟨stays ⟨⟨result, seen⟩, pinned⟩, .quiet (.inr rfl) rfl rfl⟩
    rename_i new
    have counted : following statics.consumedGeneration ≠ 0 :=
      fun zero => new (.inl (result.trans zero))
    exact ⟨stays ⟨⟨result, seen⟩, result ▸ following_counted bound counted, rfl, pinned⟩,
      .quiet (.inr rfl) rfl rfl⟩
  | loaded latest =>
    obtain ⟨unseen, taken, same, pinned⟩ := position
    dsimp only at taken same
    have outstanding : statics.resultGeneration ≠ statics.consumedGeneration := by omega
    simp only [desktopStep, published, update]
    refine ⟨stays ⟨unseen, taken, same, rfl, ?_, pinned⟩, nofun, nofun, fun _ waits => .inl waits,
      ?_, rfl, (append_nil _).symm⟩
    · intro ok
      cases outcome with
      | ok image => exact ⟨image, rfl⟩
      | error error => cases ok
    · intro found delivered
      rw [← delivered]
      simp only [offer, outstanding, if_false, published, Option.map_some, update, delivery, same]
  | holding generation source readable =>
    obtain ⟨unseen, taken, same, rfl, readable_ok, pinned⟩ := position
    simp only [desktopStep]
    split
    · rename_i both
      have found := readable_ok (Bool.and_eq_true_iff.mp both).1
      split
      · exact ⟨stays ⟨unseen, taken, same, rfl, found, rfl⟩, .quiet (.inr rfl) rfl rfl⟩
      · exact ⟨stays ⟨unseen, taken, same, found, rfl, rfl⟩, .quiet (.inr rfl) rfl rfl⟩
    · exact ⟨stays ⟨unseen, taken, same, pinned⟩, .quiet (.inr rfl) rfl rfl⟩
  | animating generation source =>
    obtain ⟨unseen, taken, same, rfl, found, shown⟩ := position
    exact ⟨stays ⟨unseen, taken, same, found, shown, rfl⟩, .quiet (.inr rfl) rfl rfl⟩
  | rendered generation applied =>
    obtain ⟨unseen, taken, same, settled⟩ := position
    exact ⟨stays ⟨taken, rfl, same, same.symm, settled⟩, .quiet (.inr rfl) rfl rfl⟩
  | compared generation applied latest =>
    obtain ⟨taken, seen, same, latest_eq, settled⟩ := position
    exact ⟨stays ⟨taken, seen, same, latest_eq, published, settled⟩, .quiet (.inr rfl) rfl rfl⟩
  | located generation applied latest found =>
    obtain ⟨taken, seen, same, latest_eq, rfl, settled⟩ := position
    dsimp only at taken seen same
    have valid : ¬ (generation = 0 ∨ generation ≠ latest ∨
        statics.consumedGeneration ≠ generation - 1) := by omega
    have counted : generation = statics.consumedGeneration + 1 := same.trans taken.1
    simp only [desktopStep, valid, if_false]
    refine ⟨.handling bank outcome ⟨running, same ▸ taken.2, busy, ready, idle, next, published, update,
      same.symm, seen, rfl, settled⟩, nofun, nofun, ?_, nofun, ?_, ?_⟩
    · intro waiting waits
      rw [offer, if_pos same.symm] at waits
      cases waits
    · simp [inFlight, busy, acceptance, acknowledgement]
    · rw [counted, range'_1_concat, Nat.add_comm 1]
      rfl
  | consumed applied source =>
    obtain ⟨level, seen, rfl, settled⟩ := position
    cases applied with
    | true =>
      obtain ⟨⟨image, rfl⟩, shown, dropped⟩ := settled
      have pinned : Pinned ⟨{ statics with activeImageBank := some source }, block,
          ⟨.releasing, known, current, previous⟩, halted⟩ := by
        rintro other (isCurrent | isPrevious)
        · rw [show current = _ from shown] at isCurrent
          cases isCurrent
          rfl
        · rw [show previous = none from dropped] at isPrevious
          cases isPrevious
      simp only [desktopStep, result_of_update update]
      exact ⟨.handling source (.ok image) ⟨running, bound, busy, ready, idle, next, published, update,
        running, bound, level, seen, pinned⟩, .quiet (.inr rfl) rfl rfl⟩
    | false =>
      exact ⟨stays ⟨running, bound, level, seen, settled⟩, .quiet (.inr rfl) rfl rfl⟩
  | releasing =>
    obtain ⟨_, _, level, seen, pinned⟩ := position
    exact ⟨.free ⟨⟨running, bound, level, seen, pinned⟩, rfl, ready, idle, rfl, next.trans level⟩,
      .quiet (.inr rfl) rfl rfl⟩
  | claimed | numbered | stored => exact position.elim

section

variable (inv : Invariant codecs s)
include inv

theorem desktopStep_ok (accepted transition : Bool) :
    Sound codecs s (s.desktopStep codecs accepted transition) := by
  -- with every result acknowledged `latest_after` finds nothing new
  have rests : Level s → s.desktop.task = .idle →
      Sound codecs s (s.desktopStep codecs accepted transition) := by
    intro level idle
    have nothing : s.statics.resultGeneration = 0 ∨
        s.statics.resultGeneration = s.desktop.wallpaperGeneration :=
      .inr (level.result.trans level.known.symm)
    simp only [desktopStep, idle, nothing]
    exact inv.rests (.inl rfl)
  cases inv with
  | free at_ | waiting at_ | loading at_ => exact rests at_.level at_.task
  | requesting at_ => exact desktopStep_requesting at_ accepted transition
  | handling bank outcome at_ => exact desktopStep_handling at_ accepted transition

/-- Between two updates the desktop may change what it shows as long as it shows no other
bank. -/
theorem Invariant.images {currentImage previousImage : Option ShownImage}
    (idle : s.desktop.task = .idle) (pinned : Pinned s → Pinned { s with
      desktop := { s.desktop with currentImage, previousImage } }) : Sound codecs s ({ s with
        desktop := { s.desktop with currentImage, previousImage } }, .quiet) := by
  refine ⟨?_, .quiet (.inr rfl) rfl rfl⟩
  have level : Level s → Level { s with desktop := { s.desktop with currentImage, previousImage } } :=
    fun level => ⟨level.running, level.bound, level.result, level.known, pinned level.pinned⟩
  cases inv with
  | free at_ =>
    exact .free ⟨level at_.level, at_.busy, at_.ready, at_.block, at_.task, at_.next⟩
  | requesting at_ =>
    have position := at_.task
    rw [idle] at position
    exact position.elim
  | waiting at_ =>
    exact .waiting ⟨level at_.level, at_.busy, at_.ready, at_.block, at_.task, at_.next, at_.request⟩
  | loading at_ =>
    exact .loading ⟨level at_.level, at_.busy, at_.ready, at_.task, at_.next, at_.block⟩
  | handling bank outcome at_ =>
    refine .handling bank outcome ⟨at_.running, at_.bound, at_.busy, at_.ready, at_.block, at_.next,
      at_.published, at_.update, ?_⟩
    have position := at_.task
    rw [HandlingTask, idle] at position
    rw [HandlingTask, show WallpaperDesktop.task _ = .idle from idle]
    exact ⟨position.1, pinned position.2⟩

/-- A request is stored when none is in flight. -/
theorem requestStep_ok (idle : s.desktop.task = .idle) (image : ImgRequest) :
    Sound codecs s (s.requestStep image) := by
  unfold requestStep
  split
  case h_1 error _ => exact inv.rests (.inr ⟨error, rfl⟩)
  case h_2 stored _ =>
  split
  case isTrue => exact inv.rests (.inr ⟨.busy, rfl⟩)
  case isFalse available =>
  cases inv with
  | free at_ =>
    refine ⟨.requesting ⟨⟨at_.level.running, at_.level.bound, at_.level.result, at_.level.known,
      at_.level.pinned⟩, rfl, at_.ready, at_.block, at_.next⟩, .quiet (.inr rfl) ?_ rfl⟩
    simp [inFlight, idle, at_.busy]
  | requesting at_ | waiting at_ | loading at_ | handling bank outcome at_ =>
    exact absurd at_.busy available

theorem whenIdle_ok {action : WallpaperSystem × WallpaperNotice}
    (ok : s.desktop.task = .idle → Sound codecs s action) : Sound codecs s (s.whenIdle action) := by
  unfold whenIdle
  split
  case h_1 idle => exact ok idle
  case h_2 => exact inv.rests (.inl rfl)

/-- Every access keeps the invariant and has a permitted effect. -/
theorem step_ok (move : WallpaperMove) : Sound codecs s (s.step codecs move) := by
  unfold step
  split
  · exact inv.rests (.inl rfl)
  cases move with
  | block input => exact blockStep_ok inv input
  | request image => exact whenIdle_ok inv fun idle => requestStep_ok inv idle image
  | showEmbedded transition =>
    refine whenIdle_ok inv fun idle => inv.images idle ?_
    rintro pinned bank (current | previous)
    · cases current
    · cases transition with
      | true => exact pinned bank (.inl previous)
      | false => cases previous
  | finishTransition =>
    refine whenIdle_ok inv fun idle => inv.images idle ?_
    rintro pinned bank (current | previous)
    · exact pinned bank (.inl current)
    · cases previous
  | dropImages =>
    refine whenIdle_ok inv fun idle => inv.images idle ?_
    rintro pinned bank (current | previous)
    · cases current
    · cases previous
  | desktop accepted transition => exact desktopStep_ok inv accepted transition

end

end Desktop

/-! ## Runs -/

abbrev Event := Trace.Event WallpaperSystem WallpaperMove WallpaperNotice

/-- The record of a run from boot. -/
def history (codecs : Codecs) (moves : List WallpaperMove) : List Event :=
  Trace.events (step codecs) boot moves

/-- No access of the record writes a bank in use or halts, at most one request is in flight,
each update is a published result as it was validated, and the generations 1, 2, ... are
acknowledged in order. -/
structure Orderly (record : List Event) : Prop where
  wrote : ∀ e ∈ record, ∀ bank, e.reply = .wrote bank → ¬ e.before.InUse bank
  alive : ∀ e ∈ record, ∀ message, e.reply ≠ .fatal message
  inFlight : (Trace.outputs acceptance record).length ≤
    (Trace.outputs acknowledgement record).length + 1
  validated : ∀ update ∈ Trace.outputs delivery record, update ∈ Trace.outputs publication record
  ordered : ∃ count, Trace.outputs acknowledgement record = List.range' 1 count

/-- The invariant with the record that led to it. -/
structure Recorded (codecs : Codecs) (s : WallpaperSystem) (record : List Event) : Prop where
  inv : Invariant codecs s
  wrote : ∀ e ∈ record, ∀ bank, e.reply = .wrote bank → ¬ e.before.InUse bank
  alive : ∀ e ∈ record, ∀ message, e.reply ≠ .fatal message
  flight : (Trace.outputs acceptance record).length =
    (Trace.outputs acknowledgement record).length + s.inFlight
  validated : ∀ update ∈ Trace.outputs delivery record, update ∈ Trace.outputs publication record
  offered : ∀ waiting, s.offer codecs = some waiting → waiting ∈ Trace.outputs publication record
  acknowledged : Trace.outputs acknowledgement record =
    List.range' 1 s.statics.consumedGeneration

theorem boot_recorded : Recorded codecs boot [] where
  inv := boot_invariant
  wrote := forall_mem_nil _
  alive := forall_mem_nil _
  flight := rfl
  validated := forall_mem_nil _
  offered := nofun
  acknowledged := rfl

theorem Recorded.step {s : WallpaperSystem} {record : List Event} (recorded : Recorded codecs s record)
    (move : WallpaperMove) : Recorded codecs (s.step codecs move).1
      (record ++ [Trace.event (WallpaperSystem.step codecs) s move]) := by
  obtain ⟨inv, effect⟩ := step_ok recorded.inv move
  refine ⟨inv, Trace.forall_mem_snoc recorded.wrote effect.wrote,
    Trace.forall_mem_snoc recorded.alive effect.alive, ?_, ?_, ?_, ?_⟩
  · have before := recorded.flight
    have now := effect.flight
    rw [Trace.outputs_snoc, Trace.outputs_snoc, length_append, length_append]
    dsimp only [Trace.event]
    omega
  · rw [Trace.outputs_snoc, Trace.outputs_snoc]
    intro update member
    rcases mem_append.mp member with earlier | last
    · exact mem_append_left _ (recorded.validated update earlier)
    · have waited := effect.delivers update (Option.mem_toList.mp last)
      exact mem_append_left _ (recorded.offered update waited)
  · rw [Trace.outputs_snoc]
    intro waiting offered
    rcases effect.waits waiting offered with before | fresh
    · exact mem_append_left _ (recorded.offered waiting before)
    · exact mem_append_right _ (Option.mem_toList.mpr fresh)
  · rw [Trace.outputs_snoc, recorded.acknowledged]
    exact effect.counted.symm

theorem inFlight_le (s : WallpaperSystem) : s.inFlight ≤ 1 := by
  unfold inFlight
  split
  · exact Nat.zero_le 1
  · exact Nat.zero_le 1
  · exact Nat.zero_le 1
  · split
    · exact Nat.le_refl 1
    · exact Nat.zero_le 1

/-- Every interleaving of requests, loads, updates and acknowledgements is orderly. -/
theorem wallpaper_handoff_orderly (codecs : Codecs) (moves : List WallpaperMove) :
    Orderly (history codecs moves) := by
  have recorded : Recorded codecs (Trace.run (step codecs) boot moves)
      ([] ++ history codecs moves) :=
    Trace.holds_always _ (fun move recorded => recorded.step move) boot_recorded moves
  rw [nil_append] at recorded
  refine ⟨recorded.wrote, recorded.alive, ?_, recorded.validated, _, recorded.acknowledged⟩
  rw [recorded.flight]
  exact Nat.add_le_add_left (inFlight_le _) _

end SlopOS.Desktop.WallpaperSystem
