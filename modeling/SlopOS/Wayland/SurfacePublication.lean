import SlopOS.Wayland.SurfaceCommits
import SlopOS.Wayland.SurfaceService

/-!
# Who may write to a surface bank

`Effect` says all that a submission can do.  `Counted` relates the counters to the phase
of the session; it shows that the generations cannot run out before the event sequence
does.  A bank that a snapshot borrows is pinned until a later generation is acknowledged.
-/

namespace SlopOS.Wayland

open ByteCodec SingleSurfaceSession

variable {generation : Nat}

namespace SurfaceService

variable (s : SurfaceService)

/-- The statics after an event was published and the session replaced. -/
def answered (session : SingleSurfaceSession) (event : EventBank) : SurfaceService :=
  { s with session := some session, event := event, eventSequence := s.eventSequence + 1 }

/-- The statics after the bank that is not active was written. -/
def written (bank : SurfaceBank) : SurfaceService :=
  { s with banks := Function.update s.banks s.freeBank bank }

/-- The statics after a surface was published and the session replaced. -/
def surfaced (session : SingleSurfaceSession) (bank : SurfaceBank) : SurfaceService :=
  { s.written bank with
    session := some session, publishedBank := some s.freeBank, generation := s.generation + 1 }

/-- All that a submission can do. -/
inductive Effect (s : SurfaceService) : Submitted → Prop
  | refused (error : WaylandServiceError) : Effect s (s.refuse error)
  | answered {session candidate : SingleSurfaceSession} {event : SurfaceSessionEvent}
      {bank : EventBank} {submission : WaylandSubmission} :
    s.candidate = .ok session → Turn session.phase event candidate.phase →
    (∀ surface, event ≠ .committed surface) → s.eventSequence = s.eventAck →
    s.eventSequence ≠ counterMax →
    Effect s ⟨s.answered candidate bank, none, .ok submission⟩
  | exhausted {session candidate : SingleSurfaceSession} {metadata : CommittedSurface}
      {bank : SurfaceBank} :
    s.candidate = .ok session → Turn session.phase (.committed metadata) candidate.phase →
    s.eventSequence = s.eventAck → s.generation = s.acknowledgedGeneration →
    s.generation = counterMax →
    Effect s ⟨s.written bank, some s.freeBank, .error .commitPending⟩
  | surfaced {session candidate : SingleSurfaceSession} {metadata : CommittedSurface}
      {bank : SurfaceBank} {submission : WaylandSubmission} :
    s.candidate = .ok session → Turn session.phase (.committed metadata) candidate.phase →
    s.eventSequence = s.eventAck → s.generation = s.acknowledgedGeneration →
    Effect s ⟨s.surfaced candidate bank, some s.freeBank, .ok submission⟩

variable {s' : SurfaceService} {session : SingleSurfaceSession} {sequence : Nat}

section Submission

variable {s : SurfaceService}

theorem publishEvent_ok {kind : EventKind} {wire : Bytes}
    (published : s.publishEvent kind wire = .ok (s', sequence)) :
    s.eventSequence = s.eventAck ∧ s.eventSequence ≠ counterMax ∧
      s' = { s with event := ⟨some kind, wire⟩, eventSequence := s.eventSequence + 1 } := by
  simp only [publishEvent, Except.ite_error_eq_ok_iff] at published
  obtain ⟨idle, room, done⟩ := published
  cases done
  exact ⟨not_not.mp fun pending => idle (.inl pending), room, rfl⟩

theorem effect_answer {candidate : SingleSurfaceSession} {event : SurfaceSessionEvent}
    (found : s.candidate = .ok session) (turn : Turn session.phase event candidate.phase)
    (other : ∀ surface, event ≠ .committed surface) (kind : EventKind) (events : List Encoder)
    (submission : Nat → WaylandSubmission) :
    Effect s (s.answer candidate kind events submission) := by
  unfold answer
  split
  · exact .refused _
  split
  case h_1 => exact .refused _
  case h_2 published =>
    obtain ⟨idle, room, rfl⟩ := publishEvent_ok published
    exact .answered found turn other idle room

theorem publishSurface_cases (pixels : Bytes) (metadata : CommittedSurface) :
    s.publishSurface pixels metadata = s.refuse .commitPending ∨
      s.generation = s.acknowledgedGeneration ∧
        (s.generation = counterMax ∧ s.publishSurface pixels metadata =
            ⟨s.written ⟨some metadata, pixels⟩, some s.freeBank, .error .commitPending⟩ ∨
          s.publishSurface pixels metadata = ⟨{ s.written ⟨some metadata, pixels⟩ with
                publishedBank := some s.freeBank, generation := s.generation + 1 },
              some s.freeBank, .ok (.surface (s.generation + 1) metadata)⟩) := by
  unfold publishSurface
  split
  case isTrue => exact .inl rfl
  case isFalse settled =>
  refine .inr ⟨not_not.mp settled, ?_⟩
  split
  case isTrue full => exact .inl ⟨full, rfl⟩
  case isFalse => exact .inr rfl

/-- A submission does one of these things. -/
theorem effect_submitParts (pid : Nat) (wire : Bytes) (descriptorReceived : Bool)
    (pixels : Bytes) : Effect s (s.submitParts pid wire descriptorReceived pixels) := by
  unfold submitParts
  split
  · exact .refused _
  split
  · exact .refused _
  split
  · exact .refused _
  rename_i idle
  split
  case h_1 => exact .refused _
  case h_2 session found =>
  dsimp only
  split
  case h_1 => exact .refused _
  case h_2 accepted =>
    exact effect_answer found (acceptBatch_turn accepted) nofun _ _ _
  case h_3 accepted =>
    exact effect_answer found (acceptBatch_turn accepted) nofun _ _ _
  case h_4 candidate metadata _ accepted =>
  have turn := acceptBatch_turn accepted
  rcases s.publishSurface_cases pixels metadata with same | ⟨settled, ⟨full, same⟩ | same⟩
  · rw [same]
    exact .refused _
  · rw [same]
    exact .exhausted found turn (not_not.mp idle) settled full
  · rw [same]
    exact .surfaced found turn (not_not.mp idle) settled

theorem effect_submit (pid : Nat) (commit : WaylandSurfaceCommit) :
    Effect s (s.submit pid commit) := by
  unfold submit
  split
  · exact .refused _
  · exact effect_submitParts _ _ _ _

end Submission

/-! ## The counters and the phase of the session -/

/-- The counters in each phase. -/
def CountedIn : SurfacePhase → Prop
  | .awaitRegistry => s.eventSequence = 0 ∧ s.generation = 0 ∧ s.acknowledgedGeneration = 0
  | .awaitInitialCommit => s.eventSequence = 1 ∧ s.generation = 0 ∧ s.acknowledgedGeneration = 0
  | .awaitConfiguredCommit => s.eventSequence = s.acknowledgedGeneration + 2 ∧
      s.generation = s.acknowledgedGeneration
  | .committed => s.eventSequence = s.acknowledgedGeneration + 2 ∧
      s.generation = s.acknowledgedGeneration + 1

structure Counted (s : SurfaceService) : Prop where
  phase : ∀ session, s.candidate = .ok session → s.CountedIn session.phase
  bounded : s.eventSequence ≤ counterMax
  settled : s.generation = s.acknowledgedGeneration → s.publishedBank = s.activeBank
  pending : s.generation ≠ s.acknowledgedGeneration →
    s.publishedBank ≠ s.activeBank ∧ s.publishedBank ≠ none

section Counters

variable {s : SurfaceService}

theorem freeBank_ne : s.activeBank ≠ some s.freeBank := by
  unfold freeBank
  split
  case isTrue zero =>
    rw [zero]
    decide
  case isFalse other => exact other

/-- The generations do not run out. -/
theorem Counted.room (counted : s.Counted) (found : s.candidate = .ok session)
    (phase : session.phase = .awaitConfiguredCommit) : s.generation < counterMax := by
  have counts := counted.phase session found
  rw [phase] at counts
  obtain ⟨sequence, generation⟩ := counts
  have bounded := counted.bounded
  omega

theorem Counted.submission {outcome : Submitted} (counted : s.Counted)
    (effect : Effect s outcome) : outcome.service.Counted := by
  cases effect with
  | refused => exact counted
  | answered found turn other idle room =>
    have counts := counted.phase _ found
    have bounded := counted.bounded
    refine ⟨?_, ?_, counted.settled, counted.pending⟩
    · intro session same
      cases same
      rcases turn.ofOther other with ⟨before, after⟩ | ⟨before, after⟩
      · rw [before] at counts
        rw [after]
        obtain ⟨sequence, generation, acknowledged⟩ := counts
        exact ⟨congrArg (· + 1) sequence, generation, acknowledged⟩
      · rw [before] at counts
        rw [after]
        obtain ⟨sequence, generation, acknowledged⟩ := counts
        refine ⟨?_, generation.trans acknowledged.symm⟩
        rw [show (s.answered _ _).acknowledgedGeneration = 0 from acknowledged]
        exact congrArg (· + 1) sequence
    · exact lt_of_le_of_ne bounded room
  | exhausted found turn _ _ full =>
    exact absurd full (ne_of_lt (counted.room found turn.ofCommit.1))
  | surfaced found turn idle settled =>
    have counts := counted.phase _ found
    rw [turn.ofCommit.1] at counts
    refine ⟨?_, counted.bounded, fun same => ?_, fun _ => ⟨fun same => ?_, nofun⟩⟩
    · intro session same
      cases same
      rw [turn.ofCommit.2]
      exact ⟨counts.1, congrArg (· + 1) settled⟩
    · exact absurd (settled.trans same.symm) (ne_of_lt (Nat.lt_succ_self _))
    · exact freeBank_ne same.symm

/-- A presentation that did not stop the kernel published an event. -/
theorem present_ok (presented : s.present generation = ⟨s', none⟩) :
    ∃ session candidate event, s.session = some session ∧ session.phase = .committed ∧
      candidate.phase = .awaitConfiguredCommit ∧ s.eventSequence ≠ counterMax ∧
      s' = s.answered candidate event := by
  unfold present at presented
  split at presented
  case h_1 => cases presented
  case h_2 session found =>
  split at presented
  case h_1 => cases presented
  case h_2 candidate shown showing =>
  split at presented
  case h_1 => cases presented
  case h_2 wire encoded =>
  split at presented
  case h_1 => cases presented
  case h_2 service sequence published =>
  cases presented
  obtain ⟨-, room, rfl⟩ := publishEvent_ok published
  obtain ⟨committed, waiting⟩ := present_phase showing
  exact ⟨session, candidate, ⟨some .presented, wire⟩, found, committed, waiting, room, rfl⟩

/-- An acknowledgement that did not stop the kernel presented the pending surface. -/
theorem acknowledge_ok (acknowledged : s.acknowledge generation = ⟨s', none⟩) :
    ∃ bank session candidate event, s.publishedBank = some bank ∧ s.session = some session ∧
      session.phase = .committed ∧ candidate.phase = .awaitConfiguredCommit ∧
      generation = s.generation ∧ s.eventSequence ≠ counterMax ∧
      s' = { s.answered candidate event with
        acknowledgedGeneration := generation, activeBank := some bank } := by
  unfold acknowledge at acknowledged
  split at acknowledged
  case h_1 => cases acknowledged
  case h_2 bank published =>
  split at acknowledged
  case isTrue => cases acknowledged
  case isFalse valid =>
  rw [not_or, not_or, not_not] at valid
  obtain ⟨session, candidate, event, found, committed, waiting, room, rfl⟩ :=
    present_ok acknowledged
  exact ⟨bank, session, candidate, event, published, found, committed, waiting, valid.2.1, room,
    rfl⟩

theorem candidate_of_session (found : s.session = some session) : s.candidate = .ok session := by
  unfold candidate
  rw [found]

theorem Counted.acknowledge (counted : s.Counted)
    (acknowledged : s.acknowledge generation = ⟨s', none⟩) : s'.Counted := by
  obtain ⟨bank, session, candidate, event, published, found, committed, waiting, rfl, room, rfl⟩ :=
    acknowledge_ok acknowledged
  have counts := counted.phase session (candidate_of_session found)
  rw [committed] at counts
  obtain ⟨sequence, current⟩ := counts
  refine ⟨?_, lt_of_le_of_ne counted.bounded room, fun _ => published, fun other => absurd rfl other⟩
  intro session' same
  cases same
  rw [waiting]
  refine ⟨?_, rfl⟩
  show s.eventSequence + 1 = s.generation + 2
  omega

/-- Acknowledging an event changes its own counter only. -/
theorem acknowledgeEvent_ok (acknowledged : s.acknowledgeEvent sequence = ⟨s', none⟩) :
    s' = { s with eventAck := sequence } := by
  unfold acknowledgeEvent at acknowledged
  split at acknowledged
  · cases acknowledged
  · cases acknowledged
    rfl

theorem Counted.acknowledgeEvent (counted : s.Counted)
    (acknowledged : s.acknowledgeEvent sequence = ⟨s', none⟩) : s'.Counted := by
  obtain rfl := acknowledgeEvent_ok acknowledged
  refine ⟨?_, counted.bounded, counted.settled, counted.pending⟩
  intro session found
  have counts := counted.phase session found
  cases phase : session.phase <;> rw [phase] at counts <;> exact counts

/-- An acknowledgement writes to no bank, stopped or not. -/
theorem acknowledge_banks (generation : Nat) :
    (s.acknowledge generation).service.banks = s.banks := by
  unfold acknowledge present
  split
  · rfl
  split
  · rfl
  split
  · rfl
  split
  · rfl
  split
  · rfl
  split
  case h_1 => rfl
  case h_2 published =>
    obtain ⟨-, -, rfl⟩ := publishEvent_ok published
    rfl

end Counters

end SurfaceService

/-! ## Runs -/

namespace ServiceSystem

open SurfaceService

/-- The bank is active, or published and not yet acknowledged. -/
def InUse (s : SurfaceService) (bank : Fin 2) : Prop :=
  s.activeBank = some bank ∨
    s.generation ≠ s.acknowledgedGeneration ∧ s.publishedBank = some bank

/-- What a call must not do. -/
structure Orderly (call : Trace.Event ServiceSystem ServiceCall ServiceReply) : Prop where
  /-- A bank in use is not written. -/
  untouched : ∀ bank, InUse call.before.service bank →
    (∀ result, call.reply ≠ .submitted (some bank) result) ∧
      call.after.service.banks bank = call.before.service.banks bank
  /-- A submission that fails changes nothing. -/
  unchanged : ∀ wrote error, call.reply = .submitted wrote (.error error) →
    call.after = call.before

/-- The bank of the snapshot is as it was borrowed, and will not be chosen for writing. -/
structure Pinned (snapshot : WaylandSurfaceSnapshot) (system : ServiceSystem) : Prop where
  kept : system.service.banks snapshot.bank = ⟨some snapshot.metadata, snapshot.pixels⟩
  holds : system.halted = false → system.service.generation = snapshot.generation ∧
      system.service.publishedBank = some snapshot.bank ∨
    system.service.generation = snapshot.generation + 1 ∧
      system.service.acknowledgedGeneration = snapshot.generation ∧
      system.service.activeBank = some snapshot.bank

/-- A running system has its counters in order. -/
def Regular (system : ServiceSystem) : Prop := system.halted = false → system.service.Counted

section Steps

variable {system : ServiceSystem} {call : ServiceCall} {snapshot : WaylandSurfaceSnapshot}

theorem boot_regular : Regular boot := by
  intro _
  refine ⟨?_, Nat.zero_le _, fun _ => rfl, fun other => absurd rfl other⟩
  intro session found
  cases found
  exact ⟨rfl, rfl, rfl⟩

/-- What a call does to a running system. -/
inductive Stepped (s : SurfaceService) : ServiceCall → ServiceSystem × ServiceReply → Prop
  | submits {call : ServiceCall} {outcome : Submitted} : Effect s outcome →
    (∀ generation, call ≠ .acknowledge generation) →
    Stepped s call (submitted outcome)
  | reads {call : ServiceCall} {reply : ServiceReply} :
    (∀ wrote result, reply ≠ .submitted wrote result) →
    (∀ generation, call ≠ .acknowledge generation) → Stepped s call (⟨s, false⟩, reply)
  | acknowledges (generation : Nat) :
    Stepped s (.acknowledge generation) (acknowledged (s.acknowledge generation))
  | acknowledgesEvent (sequence : Nat) :
    Stepped s (.acknowledgeEvent sequence) (acknowledged (s.acknowledgeEvent sequence))

theorem stepped (running : system.halted = false) (call : ServiceCall) :
    Stepped system.service call (system.step call) := by
  obtain ⟨service, halted⟩ := system
  cases running
  cases call with
  | submit pid commit => exact .submits (effect_submit pid commit) nofun
  | submitWire pid wire descriptorReceived pixels =>
    exact .submits (effect_submitParts pid wire descriptorReceived pixels) nofun
  | latestAfter | eventAfter => exact .reads nofun nofun
  | acknowledge generation => exact .acknowledges generation
  | acknowledgeEvent sequence => exact .acknowledgesEvent sequence

theorem step_halted (stopped : system.halted = true) (call : ServiceCall) :
    system.step call = (system, .halted) :=
  if_pos stopped

theorem acknowledged_service (outcome : Outcome) :
    (acknowledged outcome).1.service = outcome.service := by
  unfold acknowledged
  split <;> rfl

/-- A system that still runs after an acknowledgement. -/
theorem acknowledged_running {outcome : Outcome}
    (running : (acknowledged outcome).1.halted = false) : outcome = ⟨outcome.service, none⟩ := by
  obtain ⟨service, fatal⟩ := outcome
  cases fatal with
  | none => rfl
  | some reason => cases running

theorem acknowledged_reply (outcome : Outcome) (wrote : Option (Fin 2))
    (result : Except WaylandServiceError WaylandSubmission) :
    (acknowledged outcome).2 ≠ .submitted wrote result := by
  unfold acknowledged
  split <;> nofun

theorem acknowledgeEvent_banks {s : SurfaceService} (sequence : Nat) :
    (s.acknowledgeEvent sequence).service.banks = s.banks := by
  unfold acknowledgeEvent
  split <;> rfl

/-! ## One call of a running system -/

section Stepped

variable {s : SurfaceService} {result : ServiceSystem × ServiceReply} {bank : Fin 2}

theorem Stepped.counted (taken : Stepped s call result) (counted : s.Counted)
    (running : result.1.halted = false) : result.1.service.Counted := by
  cases taken with
  | submits effect => exact counted.submission effect
  | reads => exact counted
  | acknowledges generation =>
    rw [acknowledged_service]
    exact counted.acknowledge (acknowledged_running running)
  | acknowledgesEvent sequence =>
    rw [acknowledged_service]
    exact counted.acknowledgeEvent (acknowledged_running running)

/-- The bank that is free while nothing is pending is not in use. -/
theorem freeBank_of_inUse (settled : s.generation = s.acknowledgedGeneration) (used : InUse s bank)
    : bank ≠ s.freeBank := by
  rintro rfl
  rcases used with active | ⟨pending, -⟩
  · exact freeBank_ne active
  · exact pending settled

/-- Only a submission that was not refused writes, and only to the free bank. -/
theorem Stepped.wrote (taken : Stepped s call result) (used : InUse s bank) :
    (∀ outcome, result.2 ≠ .submitted (some bank) outcome) ∧
      result.1.service.banks bank = s.banks bank := by
  cases taken with
  | submits effect =>
    cases effect with
    | refused | answered => exact ⟨nofun, rfl⟩
    | exhausted _ _ _ settled | surfaced _ _ _ settled =>
      have other := freeBank_of_inUse settled used
      refine ⟨fun _ same => ?_, Function.update_of_ne other _ _⟩
      cases same
      exact other rfl
  | reads silent => exact ⟨fun _ => silent _ _, rfl⟩
  | acknowledges generation =>
    rw [acknowledged_service, acknowledge_banks]
    exact ⟨fun _ => acknowledged_reply _ _ _, rfl⟩
  | acknowledgesEvent sequence =>
    rw [acknowledged_service, acknowledgeEvent_banks]
    exact ⟨fun _ => acknowledged_reply _ _ _, rfl⟩

/-- A submission that fails leaves the statics alone. -/
theorem Stepped.failed (taken : Stepped s call result) (counted : s.Counted)
    {wrote : Option (Fin 2)} {error : WaylandServiceError}
    (failed : result.2 = .submitted wrote (.error error)) : result.1 = ⟨s, false⟩ := by
  cases taken with
  | submits effect =>
    cases effect with
    | refused => rfl
    | answered => cases failed
    | exhausted found turn _ _ full =>
      exact absurd full (ne_of_lt (counted.room found turn.ofCommit.1))
    | surfaced => cases failed
  | reads silent => exact absurd failed (silent _ _)
  | acknowledges | acknowledgesEvent => exact absurd failed (acknowledged_reply _ _ _)

/-- The bank of a snapshot stays pinned unless a later generation is acknowledged. -/
theorem Stepped.pinned (taken : Stepped s call result) (counted : s.Counted)
    (pinned : Pinned snapshot ⟨s, false⟩)
    (early : ∀ generation, call = .acknowledge generation → generation ≤ snapshot.generation) :
    Pinned snapshot result.1 := by
  have used : InUse s snapshot.bank := by
    rcases pinned.holds rfl with ⟨-, published⟩ | ⟨-, -, active⟩
    · by_cases settled : s.generation = s.acknowledgedGeneration
      · exact .inl ((counted.settled settled).symm.trans published)
      · exact .inr ⟨settled, published⟩
    · exact .inl active
  refine ⟨(taken.wrote used).2.trans pinned.kept, fun running => ?_⟩
  cases taken with
  | submits effect =>
    cases effect with
    | refused | answered | exhausted => exact pinned.holds rfl
    | surfaced _ _ _ settled =>
      rcases pinned.holds rfl with ⟨current, published⟩ | ⟨current, acknowledged, -⟩
      · -- the pinned bank is active now, and the new generation is in the other one
        refine .inr ⟨congrArg (· + 1) current, settled.symm.trans current, ?_⟩
        exact (counted.settled settled).symm.trans published
      · dsimp only at current acknowledged
        omega
  | reads => exact pinned.holds rfl
  | acknowledges generation =>
    have none := acknowledged_running running
    rw [acknowledged_service]
    obtain ⟨bank, session, candidate, event, published, -, -, -, same, -, after⟩ :=
      acknowledge_ok none
    rw [after]
    rcases pinned.holds rfl with ⟨current, onBank⟩ | ⟨current, -, -⟩
    · exact .inl ⟨current, onBank⟩
    · have bound := early generation rfl
      dsimp only at current
      omega
  | acknowledgesEvent sequence =>
    have after := acknowledgeEvent_ok (acknowledged_running running)
    rw [acknowledged_service, after]
    exact pinned.holds rfl

end Stepped

/-! ## One call of any system -/

theorem regular_step (regular : Regular system) (call : ServiceCall) :
    Regular (system.step call).1 := by
  cases stopped : system.halted with
  | true =>
    rw [step_halted stopped]
    exact regular
  | false => exact (stepped stopped call).counted (regular stopped)

theorem orderly_step (regular : Regular system) (call : ServiceCall) :
    Orderly (Trace.event step system call) := by
  cases stopped : system.halted with
  | true =>
    rw [Trace.event, step_halted stopped]
    exact ⟨fun _ _ => ⟨nofun, rfl⟩, nofun⟩
  | false =>
    have taken := stepped stopped call
    refine ⟨fun bank used => taken.wrote used, fun wrote error failed => ?_⟩
    refine (taken.failed (regular stopped) failed).trans ?_
    obtain ⟨service, halted⟩ := system
    cases stopped
    rfl

theorem pinned_step (regular : Regular system) (pinned : Pinned snapshot system)
    (call : ServiceCall)
    (early : ∀ generation, call = .acknowledge generation → generation ≤ snapshot.generation) :
    Pinned snapshot (system.step call).1 := by
  cases stopped : system.halted with
  | true =>
    rw [step_halted stopped]
    exact pinned
  | false =>
    have taken := stepped stopped call
    obtain ⟨service, halted⟩ := system
    cases stopped
    exact taken.pinned (regular rfl) pinned early

/-- A snapshot pins its bank. -/
theorem pinned_latestAfter
    (taken : (system.step (.latestAfter generation)).2 = .snapshot (some snapshot)) :
    Pinned snapshot (system.step (.latestAfter generation)).1 := by
  cases stopped : system.halted with
  | true =>
    rw [step_halted stopped] at taken
    cases taken
  | false =>
    have moved : system.step (.latestAfter generation) =
        (system, .snapshot (system.service.latestAfter generation)) :=
      if_neg (by simp [stopped])
    rw [moved] at taken ⊢
    have found : system.service.latestAfter generation = some snapshot := by
      injection taken
    unfold latestAfter at found
    split at found
    case isTrue => cases found
    split at found
    case h_1 => cases found
    case h_2 bank published =>
    split at found
    case h_1 => cases found
    case h_2 metadata named =>
    cases found
    refine ⟨?_, fun _ => .inl ⟨rfl, published⟩⟩
    rw [← named]

/-! ## Runs -/

/-- What holds after a run, and of the calls it made. -/
structure Recorded (system : ServiceSystem)
    (record : List (Trace.Event ServiceSystem ServiceCall ServiceReply)) : Prop where
  regular : Regular system
  orderly : ∀ call ∈ record, Orderly call

theorem Recorded.step {record : List (Trace.Event ServiceSystem ServiceCall ServiceReply)}
    (recorded : Recorded system record) (call : ServiceCall) :
    Recorded (system.step call).1 (record ++ [Trace.event ServiceSystem.step system call]) :=
  ⟨regular_step recorded.regular call,
    Trace.forall_mem_snoc recorded.orderly (orderly_step recorded.regular call)⟩

theorem recorded_run (calls : List ServiceCall) :
    Recorded (Trace.run step boot calls) (Trace.events step boot calls) := by
  have start : Recorded boot [] := ⟨boot_regular, List.forall_mem_nil _⟩
  exact Trace.holds_always Recorded (fun call recorded => recorded.step call) start calls

/-- A bank stays pinned along calls that acknowledge no later generation. -/
theorem pinned_run (later : List ServiceCall) (regular : Regular system)
    (pinned : Pinned snapshot system)
    (early : ∀ generation, .acknowledge generation ∈ later → generation ≤ snapshot.generation) :
    Pinned snapshot (Trace.run step system later) := by
  induction later generalizing system with
  | nil => exact pinned
  | cons call rest ih =>
    refine ih (regular_step regular call) (pinned_step regular pinned call ?_) ?_
    · rintro generation rfl
      exact early generation List.mem_cons_self
    · intro generation member
      exact early generation (List.mem_cons_of_mem _ member)

end Steps

/-- A snapshot taken in a run keeps its metadata and pixels in every continuation of the
run in which no later generation is acknowledged. -/
def KeepsSnapshots (calls : List ServiceCall) : Prop :=
  ∀ generation snapshot later,
    (step (Trace.run step boot calls) (.latestAfter generation)).2 = .snapshot (some snapshot) →
    (∀ generation, .acknowledge generation ∈ later → generation ≤ snapshot.generation) →
    (Trace.run step boot (calls ++ .latestAfter generation :: later)).service.banks snapshot.bank =
      ⟨some snapshot.metadata, snapshot.pixels⟩

/-- In every run, no call writes to a bank in use, a submission that fails changes nothing,
and a snapshot keeps its contents until a later generation is acknowledged. -/
theorem surface_banks_orderly (calls : List ServiceCall) :
    (∀ call ∈ Trace.events step boot calls, Orderly call) ∧ KeepsSnapshots calls := by
  have recorded := recorded_run calls
  refine ⟨recorded.orderly, ?_⟩
  intro generation snapshot later taken early
  rw [Trace.run_append]
  exact (pinned_run later (regular_step recorded.regular _) (pinned_latestAfter taken) early).kept

end ServiceSystem

end SlopOS.Wayland
