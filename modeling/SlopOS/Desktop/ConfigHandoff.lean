import SlopOS.Desktop.ConfigBanks

/-!
# Ownership of the configuration banks

Between two publications the statics are in one of two modes.  Either everything that
was published is acknowledged, and the block task may prepare the bank the desktop does
not borrow from; or one generation is outstanding, and the block task holds no bank.
The invariant says which mode holds at each pair of positions of the two tasks.
-/

namespace SlopOS.Desktop.ConfigSystem

open ConfigBank List

variable {parsers : Parsers} {move : ConfigMove}

/-! ## The invariant -/

/-- The files of a load that are written already stand in the bank. -/
def Filled (files bundle : ConfigBank) (items : List LoadItem) : Prop :=
  ∀ slot, (∀ item ∈ items, item.slot ≠ slot) → files.get slot = bundle.get slot

/-- The block task while no publication is outstanding. -/
def SettledBlock (parsers : Parsers) (s : ConfigSystem) : Prop :=
  match s.block with
  | .idle | .claimed _ | .agreed _ | .releasing => s.statics.publishedBank = s.desktop.current
  | .loaded _ generation =>
      generation = s.statics.generation ∧ s.statics.publishedBank = s.desktop.current
  | .filling bank items bundle =>
      s.statics.publishedBank = s.desktop.current ∧ s.desktop.current ≠ some bank ∧
        Filled (s.statics.banks bank) bundle items
  | .validated bank bundle =>
      s.statics.publishedBank = s.desktop.current ∧ s.desktop.current ≠ some bank ∧
        s.statics.banks bank = bundle ∧ bundle.validate parsers = .ok ()
  | .numbered bank bundle next =>
      s.statics.publishedBank = s.desktop.current ∧ s.desktop.current ≠ some bank ∧
        s.statics.banks bank = bundle ∧ bundle.validate parsers = .ok () ∧
        next = s.statics.generation + 1
  | .announced bundle next =>
      ∃ bank, s.statics.publishedBank = some bank ∧ s.statics.banks bank = bundle ∧
        bundle.validate parsers = .ok () ∧ next = s.statics.generation + 1

/-- Everything published is acknowledged. -/
structure Settled (parsers : Parsers) (s : ConfigSystem) : Prop where
  generation : s.statics.generation = s.statics.consumedGeneration
  applied : s.desktop.configGeneration = s.statics.consumedGeneration
  block : SettledBlock parsers s
  desktop : match s.desktop.task with
    | .idle => s.statics.configAppliedGeneration = s.statics.consumedGeneration
    | .consumed generation => generation = s.statics.consumedGeneration ∧
        s.statics.configAppliedGeneration + 1 = generation
    | _ => False

variable (s : ConfigSystem)

/-- The desktop task while `bank` is published and not acknowledged. -/
def OfferedDesktop (bank : Bank) : Prop :=
  match s.desktop.task with
  | .idle => s.desktop.configGeneration = s.statics.consumedGeneration ∧
      s.statics.configAppliedGeneration = s.statics.consumedGeneration
  | .loaded current => s.desktop.configGeneration = s.statics.consumedGeneration ∧
      s.statics.configAppliedGeneration = s.statics.consumedGeneration ∧
      current = s.statics.generation
  | .applying generation source => s.desktop.configGeneration = s.statics.consumedGeneration ∧
      s.statics.configAppliedGeneration = s.statics.consumedGeneration ∧
      generation = s.statics.generation ∧ source = bank
  | .applied generation => s.desktop.configGeneration = s.statics.generation ∧
      s.statics.configAppliedGeneration = s.statics.consumedGeneration ∧
      generation = s.statics.generation ∧ s.desktop.current = some bank
  | .consumed generation => s.desktop.configGeneration = s.statics.consumedGeneration ∧
      s.statics.configAppliedGeneration + 1 = s.statics.consumedGeneration ∧
      generation = s.statics.consumedGeneration

/-- One generation is published and not acknowledged. -/
structure Offered (parsers : Parsers) (s : ConfigSystem) (bank : Bank) : Prop where
  generation : s.statics.generation = s.statics.consumedGeneration + 1
  published : s.statics.publishedBank = some bank
  valid : (s.statics.banks bank).validate parsers = .ok ()
  block : match s.block with
    | .idle | .claimed _ | .releasing => True
    | .loaded _ generation => generation = s.statics.generation
    | _ => False
  desktop : OfferedDesktop s bank

/-- The state between two accesses. -/
structure Invariant (parsers : Parsers) (s : ConfigSystem) : Prop where
  running : s.halted = none
  token : s.block = .idle → s.statics.writing = false
  mode : Settled parsers s ∨ ∃ bank, Offered parsers s bank

/-- The generation and files waiting for the desktop. -/
def offer : Option (Nat × ConfigBank) :=
  if s.statics.generation = s.statics.consumedGeneration then none
  else s.statics.publishedBank.map fun bank => (s.statics.generation, s.statics.banks bank)

/-- The last generation that reached the desktop. -/
def seen : Nat :=
  match s.desktop.task with
  | .applying generation _ => generation
  | _ => s.desktop.configGeneration

/-- What one access may do, by what it is seen to do. -/
inductive Effect (s s' : ConfigSystem) : ConfigNotice → Prop
  | quiet (offer : s'.offer = none ∨ s'.offer = s.offer) (seen : s'.seen = s.seen) :
      Effect s s' .quiet
  | refused (error : ConfigPublishError) (offer : s'.offer = s.offer) (seen : s'.seen = s.seen) :
      Effect s s' (.refused error)
  | missing (offer : s'.offer = s.offer) (seen : s'.seen = s.seen) : Effect s s' .missing
  | wrote (bank : Bank) (free : ¬ s.InUse bank) (offer : s'.offer = none) (seen : s'.seen = s.seen) :
      Effect s s' (.wrote bank)
  | published (generation : Nat) (bundle : ConfigBank) (offer : s'.offer = some (generation, bundle))
      (seen : s'.seen = s.seen) : Effect s s' (.published generation bundle)
  | snapshot (generation : Nat) (files : ConfigBank) (offer : s.offer = some (generation, files))
      (same : s'.offer = s.offer) (newer : s.seen < generation) (seen : s'.seen = generation) :
      Effect s s' (.snapshot generation files)

/-- An access that keeps the invariant and has one of the permitted effects. -/
def Sound (parsers : Parsers) (s : ConfigSystem) (outcome : ConfigSystem × ConfigNotice) : Prop :=
  Invariant parsers outcome.1 ∧ Effect s outcome.1 outcome.2

/-- The publication finds a generation that can still be counted up. -/
def Countable (move : ConfigMove) : Prop :=
  match s.block, move with
  | .validated _ _, .block _ => s.statics.generation < u64Max
  | _, _ => True

theorem boot_settled : Settled parsers boot :=
  ⟨rfl, rfl, rfl, rfl⟩

theorem boot_invariant : Invariant parsers boot :=
  ⟨rfl, fun _ => rfl, .inl boot_settled⟩

/-! ## One access -/

section Step

variable {s : ConfigSystem}

theorem Settled.offer (settled : Settled parsers s) : s.offer = none :=
  if_pos settled.generation

theorem Offered.offer {bank : Bank} (offered : Offered parsers s bank) :
    s.offer = some (s.statics.generation, s.statics.banks bank) := by
  have outstanding : s.statics.generation ≠ s.statics.consumedGeneration := by
    rw [offered.generation]
    exact Nat.succ_ne_self _
  rw [ConfigSystem.offer, if_neg outstanding, offered.published, Option.map_some]

theorem claim_step (inv : Invariant parsers s) (idle : s.block = .idle) (injectInvalid : Bool) :
    Sound parsers s (s.claim injectInvalid) := by
  have free := inv.token idle
  obtain ⟨statics, block, desktop, halted⟩ := s
  subst idle
  dsimp only at free
  simp only [claim, free]
  refine ⟨⟨inv.running, nofun, ?_⟩, .quiet (.inr rfl) rfl⟩
  rcases inv.mode with settled | ⟨bank, offered⟩
  · exact .inl ⟨settled.generation, settled.applied, settled.block, settled.desktop⟩
  · exact .inr ⟨bank, offered.generation, offered.published, offered.valid, trivial,
      offered.desktop⟩

/-- While a generation is outstanding the block task gives up at its next comparison. -/
theorem blockStep_offered {bank : Bank} (running : s.halted = none)
    (token : s.block = .idle → s.statics.writing = false) (offered : Offered parsers s bank)
    (found : Option OpenedFile) : Sound parsers s (s.blockStep parsers found) := by
  obtain ⟨statics, block, desktop, halted⟩ := s
  obtain ⟨generation, published, valid, atBlock, atDesktop⟩ := offered
  cases block with
  | idle =>
    exact ⟨⟨running, token, .inr ⟨bank, generation, published, valid, atBlock, atDesktop⟩⟩,
      .quiet (.inr rfl) rfl⟩
  | claimed injectInvalid =>
    exact ⟨⟨running, nofun, .inr ⟨bank, generation, published, valid, rfl, atDesktop⟩⟩,
      .quiet (.inr rfl) rfl⟩
  | loaded injectInvalid loaded =>
    have outstanding : loaded ≠ statics.consumedGeneration := by
      rw [show loaded = statics.generation from atBlock, show statics.generation = _ from generation]
      exact Nat.succ_ne_self _
    simp only [blockStep, ne_eq, outstanding]
    exact ⟨⟨running, nofun, .inr ⟨bank, generation, published, valid, trivial, atDesktop⟩⟩,
      .refused .busy rfl rfl⟩
  | releasing =>
    exact ⟨⟨running, fun _ => rfl, .inr ⟨bank, generation, published, valid, trivial, atDesktop⟩⟩,
      .quiet (.inr rfl) rfl⟩
  | agreed | filling | validated | numbered | announced => exact atBlock.elim


theorem filled_start (files : ConfigBank) (injectInvalid : Bool) :
    Filled files .empty (loadPlan injectInvalid) := by
  intro slot outside
  obtain ⟨item, planned, rfl⟩ := mem_loadPlan injectInvalid slot
  exact absurd rfl (outside item planned)

theorem Filled.set {files bundle : ConfigBank} {item : LoadItem} {items : List LoadItem}
    (filled : Filled files bundle (item :: items)) (file : ConfigFile) :
    Filled (files.set item.slot file) (bundle.set item.slot file) items := by
  intro slot outside
  rw [get_set, get_set]
  split
  case isTrue => rfl
  case isFalse other =>
  apply filled slot
  intro item' member
  rcases mem_cons.mp member with rfl | later
  · exact fun same => other same.symm
  · exact outside item' later

theorem Filled.complete {files bundle : ConfigBank} (filled : Filled files bundle []) :
    files = bundle :=
  ext_get fun slot => filled slot nofun

/-- While everything is acknowledged a bank that the desktop does not borrow from is
nobody else's. -/
theorem Settled.free (settled : Settled parsers s) {bank : Bank}
    (other : s.desktop.current ≠ some bank) : ¬ s.InUse bank := by
  rintro (borrowed | ⟨generation, applying⟩ | ⟨-, outstanding⟩)
  · exact other borrowed
  · have atDesktop := settled.desktop
    rw [applying] at atDesktop
    exact atDesktop
  · exact outstanding settled.generation

section

variable (running : s.halted = none) (token : s.block = .idle → s.statics.writing = false)
include running token

/-- While everything is acknowledged the block task fills, checks and publishes the bank
that the desktop does not borrow from. -/
theorem blockStep_settled (settled : Settled parsers s) (found : Option OpenedFile)
    (countable : Countable s (.block found)) : Sound parsers s (s.blockStep parsers found) := by
  have free := @settled.free
  obtain ⟨statics, block, desktop, halted⟩ := s
  obtain ⟨generation, applied, atBlock, atDesktop⟩ := settled
  have stays : ∀ {block : BlockTask}, block ≠ .idle →
      SettledBlock parsers ⟨statics, block, desktop, halted⟩ →
        Invariant parsers ⟨statics, block, desktop, halted⟩ := fun busy position =>
    ⟨running, fun idle => absurd idle busy, .inl ⟨generation, applied, position, atDesktop⟩⟩
  cases block with
  | idle =>
    exact ⟨⟨running, token, .inl ⟨generation, applied, atBlock, atDesktop⟩⟩, .quiet (.inr rfl) rfl⟩
  | claimed injectInvalid =>
    exact ⟨@stays (.loaded _ _) nofun ⟨rfl, atBlock⟩, .quiet (.inr rfl) rfl⟩
  | loaded injectInvalid loaded =>
    obtain ⟨same, published⟩ := atBlock
    have agreed : loaded = statics.consumedGeneration := same.trans generation
    simp only [blockStep, ne_eq, agreed]
    exact ⟨@stays (.agreed _) nofun published, .quiet (.inr rfl) rfl⟩
  | agreed injectInvalid =>
    have published : statics.publishedBank = desktop.current := atBlock
    have other := other_bank desktop.current
    exact ⟨@stays (.filling _ _ _) nofun ⟨published, published ▸ other,
      filled_start _ injectInvalid⟩, .quiet (.inr rfl) rfl⟩
  | filling bank items bundle =>
    obtain ⟨published, other, filled⟩ := atBlock
    cases items with
    | nil =>
      simp only [blockStep]
      split
      case h_1 error rejected =>
        exact ⟨@stays .releasing nofun published, .refused error rfl rfl⟩
      case h_2 valid =>
      have complete := filled.complete
      exact ⟨@stays (.validated _ _) nofun ⟨published, other, complete, complete ▸ valid⟩,
        .quiet (.inr rfl) rfl⟩
    | cons item items =>
      simp only [blockStep]
      split
      case h_1 =>
        exact ⟨@stays .releasing nofun published, .missing rfl rfl⟩
      case h_2 bytes path opened =>
      split
      case h_1 error rejected =>
        exact ⟨@stays .releasing nofun published, .refused error rfl rfl⟩
      case h_2 file written =>
      have filled' : Filled (Function.update statics.banks bank
          ((statics.banks bank).set item.slot file) bank) (bundle.set item.slot file) items := by
        rw [Function.update_self]
        exact filled.set file
      exact ⟨⟨running, nofun, .inl ⟨generation, applied, ⟨published, other, filled'⟩,
        atDesktop⟩⟩, .wrote bank (free other) (if_pos generation) rfl⟩
  | validated bank bundle =>
    obtain ⟨published, other, complete, valid⟩ := atBlock
    have counted : saturatingAdd statics.generation 1 = statics.generation + 1 :=
      Nat.min_eq_left (show statics.generation < u64Max from countable)
    exact ⟨@stays (.numbered _ _ _) nofun ⟨published, other, complete, valid, counted⟩,
      .quiet (.inr rfl) rfl⟩
  | numbered bank bundle next =>
    obtain ⟨-, -, complete, valid, counted⟩ := atBlock
    exact ⟨⟨running, nofun, .inl ⟨generation, applied, ⟨bank, rfl, complete, valid, counted⟩,
      atDesktop⟩⟩, .quiet (.inl (if_pos generation)) rfl⟩
  | announced bundle next =>
    obtain ⟨bank, published, complete, valid, counted⟩ := atBlock
    have offered : Offered parsers
        ⟨{ statics with generation := next }, .releasing, desktop, halted⟩ bank := by
      refine ⟨counted.trans (congrArg (· + 1) generation), published, complete ▸ valid, trivial, ?_⟩
      obtain ⟨task, configGeneration, current⟩ := desktop
      cases task with
      | idle => exact ⟨applied, atDesktop⟩
      | consumed acknowledged =>
        obtain ⟨same, before⟩ := atDesktop
        exact ⟨applied, before.trans same, same⟩
      | loaded | applying | applied => exact atDesktop.elim
    exact ⟨⟨running, nofun, .inr ⟨bank, offered⟩⟩,
      .published next bundle (complete ▸ offered.offer) rfl⟩
  | releasing =>
    exact ⟨⟨running, fun _ => rfl, .inl ⟨generation, applied, atBlock, atDesktop⟩⟩,
      .quiet (.inr rfl) rfl⟩

/-- With nothing outstanding the desktop finds no newer generation, or completes the
acknowledgement that is under way. -/
theorem desktopStep_settled (settled : Settled parsers s) :
    Sound parsers s (s.desktopStep parsers) := by
  obtain ⟨statics, block, ⟨task, configGeneration, current⟩, halted⟩ := s
  obtain ⟨generation, applied, atBlock, atDesktop⟩ := settled
  cases task with
  | idle =>
    have nothing : statics.generation = 0 ∨ statics.generation = configGeneration :=
      .inr (generation.trans applied.symm)
    simp only [desktopStep, nothing]
    exact ⟨⟨running, token, .inl ⟨generation, applied, atBlock, atDesktop⟩⟩, .quiet (.inr rfl) rfl⟩
  | consumed acknowledged =>
    obtain ⟨same, before⟩ := atDesktop
    dsimp only at same before
    have accepted : ¬ (acknowledged = 0 ∨
        statics.configAppliedGeneration ≠ acknowledged - 1) := by omega
    simp only [desktopStep, accepted]
    exact ⟨⟨running, token, .inl ⟨generation, applied, atBlock, same⟩⟩, .quiet (.inr rfl) rfl⟩
  | loaded | applying | applied => exact atDesktop.elim

/-- An outstanding generation is taken, applied and acknowledged in this order, unless the
previous acknowledgement is still to be completed. -/
theorem desktopStep_offered {bank : Bank} (offered : Offered parsers s bank) :
    Sound parsers s (s.desktopStep parsers) := by
  have waiting := offered.offer
  obtain ⟨statics, block, ⟨task, configGeneration, current⟩, halted⟩ := s
  obtain ⟨generation, published, valid, atBlock, atDesktop⟩ := offered
  dsimp only at generation published
  cases task with
  | idle =>
    obtain ⟨known, applied⟩ := atDesktop
    dsimp only at known
    have newer : ¬ (statics.generation = 0 ∨ statics.generation = configGeneration) := by omega
    simp only [desktopStep, newer]
    exact ⟨⟨running, token, .inr ⟨bank, generation, published, valid, atBlock, known, applied, rfl⟩⟩,
      .quiet (.inr rfl) rfl⟩
  | loaded latest =>
    obtain ⟨known, applied, same⟩ := atDesktop
    dsimp only at known same
    have newer : configGeneration < latest := by omega
    simp only [desktopStep, published]
    refine ⟨⟨running, token, .inr ⟨bank, generation, published, valid, atBlock, known, applied,
      same, rfl⟩⟩, ?_⟩
    exact .snapshot latest _ (same ▸ waiting) rfl newer rfl
  | applying latest source =>
    obtain ⟨known, applied, same, rfl⟩ := atDesktop
    simp only [desktopStep, applyFatal_of_validate valid]
    exact ⟨⟨running, token, .inr ⟨source, generation, published, valid, atBlock, same, applied, same,
      rfl⟩⟩, .quiet (.inr rfl) rfl⟩
  | applied latest =>
    obtain ⟨known, applied, same, borrowed⟩ := atDesktop
    dsimp only at known applied same borrowed
    have settled : Settled parsers ⟨{ statics with consumedGeneration := latest }, block,
        ⟨.consumed latest, configGeneration, current⟩, halted⟩ := by
      refine ⟨same.symm, known.trans same.symm, ?_, rfl, ?_⟩
      · have agreed : statics.publishedBank = current := published.trans borrowed.symm
        cases block with
        | idle | claimed | releasing => exact agreed
        | loaded injectInvalid loaded => exact ⟨atBlock, agreed⟩
        | agreed | filling | validated | numbered | announced => exact atBlock.elim
      · dsimp only
        omega
    exact ⟨⟨running, token, .inl settled⟩, .quiet (.inl settled.offer) rfl⟩
  | consumed acknowledged =>
    obtain ⟨known, before, same⟩ := atDesktop
    dsimp only at known before same
    have accepted : ¬ (acknowledged = 0 ∨
        statics.configAppliedGeneration ≠ acknowledged - 1) := by omega
    simp only [desktopStep, accepted]
    exact ⟨⟨running, token, .inr ⟨bank, generation, published, valid, atBlock, known, same⟩⟩,
      .quiet (.inr rfl) rfl⟩

end

theorem step_ok (inv : Invariant parsers s) (countable : Countable s move) :
    Sound parsers s (s.step parsers move) := by
  have running := inv.running
  simp only [step, running, Option.isSome_none, Bool.false_eq_true, if_false]
  cases move with
  | load injectInvalid =>
    dsimp only
    split
    case h_1 idle => exact claim_step inv idle injectInvalid
    case h_2 => exact ⟨inv, .quiet (.inr rfl) rfl⟩
  | block found =>
    rcases inv.mode with settled | ⟨bank, offered⟩
    · exact blockStep_settled running inv.token settled found countable
    · exact blockStep_offered running inv.token offered found
  | desktop =>
    rcases inv.mode with settled | ⟨bank, offered⟩
    · exact desktopStep_settled running inv.token settled
    · exact desktopStep_offered running inv.token offered

end Step

/-! ## Runs -/

/-- The record of a run from boot. -/
abbrev Event := Trace.Event ConfigSystem ConfigMove ConfigNotice

def history (parsers : Parsers) (moves : List ConfigMove) : List Event :=
  Trace.events (step parsers) boot moves

def publication : ConfigNotice → Option (Nat × ConfigBank)
  | .published generation bundle => some (generation, bundle)
  | _ => none

def delivery : ConfigNotice → Option (Nat × ConfigBank)
  | .snapshot generation files => some (generation, files)
  | _ => none

/-- The generations published, each with the files its load has written. -/
def publications (record : List Event) : List (Nat × ConfigBank) :=
  Trace.outputs publication record

/-- The generations that reached the desktop, each with the text found in the bank. -/
def snapshots (record : List Event) : List (Nat × ConfigBank) :=
  Trace.outputs delivery record

/-- No access of the record writes a bank in use, and none fails an exchange or halts. -/
structure Orderly (record : List Event) : Prop where
  wrote : ∀ e ∈ record, ∀ bank, e.reply = .wrote bank → ¬ e.before.InUse bank
  exchanged : ∀ e ∈ record, e.reply ≠ .exchangeFailed
  alive : ∀ e ∈ record, ∀ message, e.reply ≠ .fatal message
  complete : ∀ snapshot ∈ snapshots record, snapshot ∈ publications record
  ordered : (snapshots record).Pairwise (·.1 < ·.1)

/-- The invariant with the record that led to it. -/
structure Recorded (parsers : Parsers) (s : ConfigSystem) (record : List Event) : Prop where
  inv : Invariant parsers s
  orderly : Orderly record
  offered : ∀ waiting, s.offer = some waiting → waiting ∈ publications record
  seen : ∀ snapshot ∈ snapshots record, snapshot.1 ≤ s.seen

theorem orderly_nil : Orderly [] where
  wrote := forall_mem_nil _
  exchanged := forall_mem_nil _
  alive := forall_mem_nil _
  complete := forall_mem_nil _
  ordered := Pairwise.nil

theorem boot_recorded : Recorded parsers boot [] where
  inv := boot_invariant
  orderly := orderly_nil
  offered := by
    intro waiting offered
    cases offered
  seen := forall_mem_nil _

section Effects

variable {s s' : ConfigSystem} {notice : ConfigNotice}

/-- What waits for the desktop waited before or is being published. -/
theorem Effect.waits (effect : Effect s s' notice) {waiting : Nat × ConfigBank}
    (offered : s'.offer = some waiting) :
    s.offer = some waiting ∨ publication notice = some waiting := by
  cases effect with
  | quiet kept =>
    rcases kept with gone | same
    · rw [gone] at offered
      cases offered
    · exact .inl (same ▸ offered)
  | refused _ same | missing same | snapshot _ _ _ same => exact .inl (same ▸ offered)
  | wrote _ _ gone =>
    rw [gone] at offered
    cases offered
  | published _ _ fresh => exact .inr (fresh.symm.trans offered)

/-- A delivered snapshot is the one that waited, and is newer than all before it. -/
theorem Effect.delivers (effect : Effect s s' notice) {snapshot : Nat × ConfigBank}
    (delivered : delivery notice = some snapshot) :
    s.offer = some snapshot ∧ s.seen < snapshot.1 ∧ s'.seen = snapshot.1 := by
  cases effect with
  | snapshot generation files waits _ newer latest =>
    cases delivered
    exact ⟨waits, newer, latest⟩
  | quiet | refused | missing | wrote | published => cases delivered

theorem Effect.seen_le (effect : Effect s s' notice) : s.seen ≤ s'.seen := by
  cases effect with
  | snapshot generation files _ _ newer latest => exact Nat.le_of_lt (latest ▸ newer)
  | quiet _ same | refused _ _ same | missing _ same | wrote _ _ _ same | published _ _ _ same =>
    exact Nat.le_of_eq same.symm

end Effects

theorem Recorded.step {s : ConfigSystem} {record : List Event}
    (recorded : Recorded parsers s record) (countable : Countable s move) :
    Recorded parsers (s.step parsers move).1
      (record ++ [Trace.event (ConfigSystem.step parsers) s move]) := by
  obtain ⟨inv, effect⟩ := step_ok recorded.inv countable
  obtain ⟨wrote, exchanged, alive, complete, ordered⟩ := recorded.orderly
  have delivered : ∀ snapshot ∈ (delivery (s.step parsers move).2).toList,
      s.offer = some snapshot ∧ s.seen < snapshot.1 ∧ (s.step parsers move).1.seen = snapshot.1 :=
    fun snapshot member => effect.delivers (Option.mem_toList.mp member)
  refine ⟨inv, ⟨Trace.forall_mem_snoc wrote ?_, Trace.forall_mem_snoc exchanged ?_,
    Trace.forall_mem_snoc alive ?_, ?_, ?_⟩, ?_, ?_⟩
  · intro bank reply
    rw [show (s.step parsers move).2 = .wrote bank from reply] at effect
    cases effect with
    | wrote bank free => exact free
  · intro reply
    rw [show (s.step parsers move).2 = .exchangeFailed from reply] at effect
    cases effect
  · intro message reply
    rw [show (s.step parsers move).2 = .fatal message from reply] at effect
    cases effect
  · rw [publications, snapshots, Trace.outputs_snoc, Trace.outputs_snoc]
    intro snapshot member
    rcases mem_append.mp member with earlier | last
    · exact mem_append_left _ (complete snapshot earlier)
    · exact mem_append_left _ (recorded.offered snapshot (delivered snapshot last).1)
  · rw [snapshots, Trace.outputs_snoc]
    refine pairwise_append.mpr ⟨ordered, ?_, ?_⟩
    · cases delivery (s.step parsers move).2 <;> simp
    · intro earlier member last lastMember
      exact Nat.lt_of_le_of_lt (recorded.seen earlier member) (delivered last lastMember).2.1
  · intro waiting offered
    rw [publications, Trace.outputs_snoc]
    rcases effect.waits offered with before | fresh
    · exact mem_append_left _ (recorded.offered waiting before)
    · exact mem_append_right _ (Option.mem_toList.mpr fresh)
  · rw [snapshots, Trace.outputs_snoc]
    intro snapshot member
    rcases mem_append.mp member with earlier | last
    · exact Nat.le_trans (recorded.seen snapshot earlier) effect.seen_le
    · exact Nat.le_of_eq (delivered snapshot last).2.2.symm

/-! ## Complete loads -/

def acceptAll : Parsers where
  parseNiriLayout := fun _ => true
  parseNiriShellConfig := fun _ => true
  parseWaybarConfig := fun _ => some .top
  parseWaybarStyle := fun _ => true
  parseSwwwEnvironment := fun _ => true

def shortFile : OpenedFile := ⟨1, "x".toUTF8, "x"⟩

/-- A load that finds the same short file for every slot. -/
def publishMoves : List ConfigMove :=
  .load false :: List.replicate 12 (.block (some shortFile))

/-- The desktop takes, applies and acknowledges. -/
def takeMoves : List ConfigMove := List.replicate 5 .desktop

theorem contents_short (slot : ConfigSlot) :
    (LoadItem.candidate slot).contents (some shortFile) = some (shortFile.bytes, shortFile.path) := by
  cases slot <;> rfl

theorem write_short (slot : ConfigSlot) :
    ConfigFile.write slot.capacity shortFile.bytes shortFile.path = .ok ⟨"x", "x"⟩ := by
  have decoded : String.fromUTF8? "x".toUTF8 = some "x" := by decide
  have fits : ¬ ("x".toUTF8.size = 0 ∨ "x".toUTF8.size > slot.capacity) := by
    cases slot <;> decide
  rw [shortFile, ConfigFile.write, if_neg fits, decoded]

variable (banks : Bank → ConfigBank) (bank : Option Bank) (n : Nat)

/-- Both tasks are idle and generation `n` is the one in use. -/
def resting : ConfigSystem where
  statics :=
    { banks := banks
      publishedBank := bank
      generation := n
      consumedGeneration := n
      writing := false
      configAppliedGeneration := n }
  block := .idle
  desktop := { task := .idle, configGeneration := n, current := bank }
  halted := none

/-- The bank that `begin_write` chooses. -/
def spare : Bank := if bank = some 0 then 1 else 0

/-- The state after a load from rest. -/
def publishedAt (n next : Nat) : ConfigSystem where
  statics :=
    { banks := banks
      publishedBank := some (spare bank)
      generation := next
      consumedGeneration := n
      writing := false
      configAppliedGeneration := n }
  block := .idle
  desktop := { task := .idle, configGeneration := n, current := bank }
  halted := none

def shortBundle : ConfigBank := ⟨⟨"x", "x"⟩, ⟨"x", "x"⟩, ⟨"x", "x"⟩, ⟨"x", "x"⟩⟩

section

variable (banks : Bank → ConfigBank) (bank : Option Bank) (n : Nat)

theorem publish_run : Trace.run (step acceptAll) (resting banks bank n) publishMoves =
      publishedAt (Function.update banks (spare bank) shortBundle) bank n (saturatingAdd n 1) := by
  simp [publishMoves, Trace.run, step, claim, blockStep, resting, publishedAt, loadPlan,
    contents_short, LoadItem.slot, write_short, validate, acceptAll, spare, shortBundle,
    ConfigBank.set]

theorem take_run : Trace.run (step acceptAll) (publishedAt banks bank n (n + 1)) takeMoves =
      resting banks (some (spare bank)) (n + 1) := by
  simp [takeMoves, Trace.run, step, desktopStep, resting, publishedAt, applyFatal, acceptAll]

end

/-- Every generation that fits is reached. -/
theorem rests_at (fits : n ≤ u64Max) :
    ∃ moves banks bank, Trace.run (step acceptAll) boot moves = resting banks bank n ∧
      (0 < n → bank ≠ none) := by
  induction n with
  | zero => exact ⟨[], _, none, rfl, fun positive => absurd positive (Nat.lt_irrefl 0)⟩
  | succ n ih =>
    obtain ⟨moves, banks, bank, rests, -⟩ := ih (Nat.le_of_succ_le fits)
    refine ⟨moves ++ (publishMoves ++ takeMoves), Function.update banks (spare bank) shortBundle,
      some (spare bank), ?_, nofun⟩
    rw [Trace.run_append, Trace.run_append, rests, publish_run, saturatingAdd, Nat.min_eq_left fits,
      take_run]

/-- The accesses of a load up to its first write. -/
def openMoves : List ConfigMove := .load false :: List.replicate 3 (.block none)

/-- The state before that write. -/
def fillingAt (borrowed : Option Bank) (published bank : Bank) (n : Nat) : ConfigSystem where
  statics :=
    { banks := banks
      publishedBank := some published
      generation := n
      consumedGeneration := n
      writing := true
      configAppliedGeneration := n }
  block := .filling bank (loadPlan false) .empty
  desktop := { task := .idle, configGeneration := n, current := borrowed }
  halted := none

theorem open_run : Trace.run (step acceptAll) (publishedAt banks bank n n) openMoves =
      fillingAt banks bank (spare bank) (spare (some (spare bank))) n := by
  simp [openMoves, Trace.run, step, claim, blockStep, publishedAt, fillingAt, spare]

theorem spare_spare (bank : Bank) : spare (some (spare (some bank))) = bank := by
  revert bank
  decide

/-! ## Every interleaving -/

/-- In every interleaving in which the generation does not run out, no bank in use is
written, each snapshot is one published bundle, the generations reach the desktop in
increasing order, and neither an exchange fails nor a fatal branch is taken. -/
theorem config_handoff_orderly (parsers : Parsers) (moves : List ConfigMove)
    (countable : Trace.Admits (ConfigSystem.step parsers) Countable boot moves) :
    Orderly (history parsers moves) := by
  have recorded : Recorded parsers (Trace.run (step parsers) boot moves)
      ([] ++ history parsers moves) :=
    Trace.holds_along _ (fun _ recorded countable => recorded.step countable) boot_recorded countable
  exact recorded.orderly

theorem config_handoff_orderly_once :
    Trace.Admits (ConfigSystem.step acceptAll) Countable boot (publishMoves ++ takeMoves) ∧
      Orderly (history acceptAll (publishMoves ++ takeMoves)) ∧
      snapshots (history acceptAll (publishMoves ++ takeMoves)) = [(1, shortBundle)] := by
  have countable : Trace.Admits (step acceptAll) Countable boot
      (publishMoves ++ takeMoves) := by
    simp [publishMoves, takeMoves, Trace.Admits, Trace.events, Trace.event, step, claim, blockStep,
      desktopStep, boot, loadPlan, contents_short, LoadItem.slot, write_short, validate, applyFatal,
      acceptAll, Countable, u64Max]
  exact ⟨countable, config_handoff_orderly acceptAll _ countable, rfl⟩

/-- Once the generation has run out, a publication leaves it unchanged, is never taken, and
the next load writes the bank that the desktop borrows from. -/
theorem exhausted_generation_writes_used_bank :
    ∃ moves, ∃ e ∈ history acceptAll moves, ∃ bank, e.reply = .wrote bank ∧ e.before.InUse bank := by
  obtain ⟨moves, banks, bank, rests, held⟩ := rests_at u64Max (Nat.le_refl _)
  obtain ⟨borrowed, rfl⟩ := Option.ne_none_iff_exists'.mp (held (by decide))
  have full : saturatingAdd u64Max 1 = u64Max := Nat.min_eq_right (Nat.le_succ _)
  have opened : Trace.run (step acceptAll) boot (moves ++ (publishMoves ++ openMoves)) =
      fillingAt (Function.update banks (spare (some borrowed)) shortBundle) (some borrowed)
        (spare (some borrowed)) borrowed u64Max := by
    rw [Trace.run_append, Trace.run_append, rests, publish_run, full, open_run, spare_spare]
  refine ⟨moves ++ (publishMoves ++ openMoves) ++ [.block (some shortFile)], _,
    Trace.last_event_mem boot _ _, borrowed, ?_, .inl ?_⟩
  · rw [opened]
    simp [Trace.event, step, blockStep, fillingAt, loadPlan, contents_short, LoadItem.slot,
      write_short]
  · rw [opened]
    rfl

end SlopOS.Desktop.ConfigSystem
