import SlopOS.Wayland.SurfaceCommits

/-!
# Cycles of commit and presentation

A session that is ready takes the requests of a further commit: attach the buffer, damage
all of it, ask for a frame callback under the id that was released, commit.  The
presentation after it makes the session ready again, so the cycle can be repeated without
end.
-/

namespace SlopOS.Wayland

open ByteCodec List

section

variable (surface buffer callback width height : Nat)

/-- The requests of a commit after the first, on the wire. -/
def commitWire : Bytes :=
  messageBytes surface 1 (words [buffer, 0, 0]) ++
    (messageBytes surface 9 (words [0, 0, width, height]) ++
      (messageBytes surface 3 (words [callback]) ++ (messageBytes surface 6 (words []) ++ [])))

/-- The same requests, as they are decoded. -/
def commitRequests : List Request :=
  [.surfaceAttach surface (some buffer) 0 0, .surfaceDamage surface true 0 0 width height,
    .surfaceFrame surface callback, .surfaceCommit surface]

theorem commitWire_length : (commitWire surface buffer callback width height).length = 60 + 4 := by
  simp [commitWire, messageBytes, words_length]

end

theorem ObjectMap.WellFormed.expect {map : ObjectMap} {id : Nat} {interface : Interface}
    (wf : map.WellFormed) (live : map.Live id interface) :
    ∃ object, map.expect id interface = .ok object := by
  obtain ⟨object, member, rfl, rfl, active⟩ := live
  refine ⟨object, ?_⟩
  rw [ObjectMap.expect, wf.get_of_mem member active]
  exact if_neg (not_not.mpr rfl)

namespace SingleSurfaceSession

section Cycle

variable {s s' : SingleSurfaceSession} {log : List Exchange}
  {pixelLength callback fuel opcode : Nat} {objects : ObjectMap} {object : Object}
  {request : Request} {buffer : BufferState}

theorem acceptFrames_nil {fd : Option Int} :
    acceptFrames fuel s [] fd pixelLength = .ok (s, []) := by
  cases fuel <;> rfl

/-- One more round of the loop: a message to the surface is decoded and applied. -/
theorem acceptFrames_surface {payload rest : Bytes} {requests : List Request}
    {s'' : SingleSurfaceSession} (pending : s.initialCommitted = false)
    (uncommitted : s.committed = false) (found : s.objects.get object.id = .ok object)
    (isSurface : object.interface = .surface) (named : 0 < object.id ∧ object.id < 2 ^ 32)
    (dispatched : s.objects.dispatchSurface object opcode payload = .ok (objects, request, []))
    (applied : { s with objects := objects }.applyRequest request 0 pixelLength = .ok s')
    (others : acceptFrames fuel s' rest none pixelLength = .ok (s'', requests))
    (opcodeFits : opcode < 2 ^ 16 := by decide)
    (sizeFits : headerSize + payload.length < 2 ^ 16 := by simp [words_length, headerSize])
    (aligned : payload.length % 4 = 0 := by simp [words_length]) :
    acceptFrames (fuel + 1) s (messageBytes object.id opcode payload ++ rest) none pixelLength =
      .ok (s'', request :: requests) := by
  have decoded : Frame.decode (messageBytes object.id opcode payload ++ rest) =
      .ok (⟨⟨object.id, opcode, headerSize + payload.length⟩, payload⟩, rest) :=
    decode_messageBytes named.1 named.2 opcodeFits sizeFits aligned
  have whole : s.objects.dispatch (messageBytes object.id opcode payload ++ rest) [] =
      .ok (objects, request, rest) := by
    unfold ObjectMap.dispatch
    rw [decoded]
    simp only [bind, Except.bind, found, ObjectMap.dispatchObject, isSurface, dispatched]
    rfl
  have first : s.acceptFrame (messageBytes object.id opcode payload ++ rest) none pixelLength =
      .ok (s', request, rest) := by
    unfold acceptFrame
    rw [if_neg (by simp [pending, uncommitted]), decoded]
    simp only [bind, Except.bind, liftWire, found, Option.isSome_none, Bool.false_eq_true,
      and_false, if_false, whole, Option.getD_none, applied]
    rfl
  cases wire : messageBytes object.id opcode payload ++ rest with
  | nil => simpa [messageBytes] using congrArg length wire
  | cons byte later =>
    rw [wire] at first
    unfold acceptFrames
    simp only [bind, Except.bind, first, others]
    rfl

/-! ## The four requests -/

theorem dispatchSurface_attach {buffer : Nat} (known : s.Known log)
    (onBuffer : s.role .buffer = some buffer) :
    s.objects.dispatchSurface object 1 (words [buffer, 0, 0]) =
      .ok (s.objects, .surfaceAttach object.id (some buffer) 0 0, []) := by
  have live := known.live .buffer buffer onBuffer
  obtain ⟨slot, member, same, -⟩ := known.live .buffer buffer onBuffer
  obtain ⟨named, fits⟩ := known.bounded slot member
  rw [same] at named fits
  obtain ⟨expected, found⟩ := known.objects.expect live
  rw [ObjectMap.dispatchSurface, nullableObject_words named fits]
  simp only [bind, Except.bind, ObjectMap.expectNullable, found, int_words (show 0 < 2 ^ 31 by
    decide)]
  rfl

theorem dispatchSurface_damage {width height : Nat} (version : 4 ≤ object.version)
    (wide : width < 2 ^ 31) (high : height < 2 ^ 31) :
    objects.dispatchSurface object 9 (words [0, 0, width, height]) =
      .ok (objects, .surfaceDamage object.id true 0 0 width height, []) := by
  rw [ObjectMap.dispatchSurface, ObjectMap.dispatchDamage,
    if_neg fun older => Nat.not_lt_of_le version older.2]
  simp only [bind, Except.bind, int_words (show 0 < 2 ^ 31 by decide), int_words wide,
    int_words high]
  rfl

theorem dispatchSurface_frame {objects' : ObjectMap} (named : 0 < callback ∧ callback < 2 ^ 32)
    (inserted : objects.insert callback .callback 1 = .ok objects') :
    objects.dispatchSurface object 3 (words [callback]) =
      .ok (objects', .surfaceFrame object.id callback, []) := by
  rw [ObjectMap.dispatchSurface, object_words named.1 named.2]
  simp only [bind, Except.bind, inserted]
  rfl

section Apply

variable {surface : Nat}

theorem applyRequest_configured {fd : Int} (phase : s.phase = .awaitConfiguredCommit) :
    s.applyRequest request fd pixelLength = s.applyConfigured request fd pixelLength := by
  unfold applyRequest
  rw [phase]

section

variable (phase : s.phase = .awaitConfiguredCommit) (onSurface : s.surface = some surface)
include phase onSurface

theorem applyRequest_attach (onBuffer : s.buffer = some buffer) (detached : s.attached = false) :
    s.applyRequest (.surfaceAttach surface (some buffer.id) 0 0) 0 pixelLength =
      .ok { s with attached := true } := by
  rw [applyRequest_configured phase]
  exact if_pos ⟨rfl, rfl, rfl, onSurface, congrArg (Option.map BufferState.id) onBuffer, detached⟩

theorem applyRequest_damage (onBuffer : s.buffer = some buffer) (undamaged : s.damaged = false) :
    s.applyRequest (.surfaceDamage surface true 0 0 buffer.width buffer.height) 0 pixelLength =
      .ok { s with damaged := true } := by
  rw [applyRequest_configured phase, applyConfigured, if_pos ⟨rfl, rfl, rfl, onSurface, undamaged⟩,
    requireWhole, onBuffer]
  simp [require, toU32]

theorem applyRequest_frame (noCallback : s.frameCallback = none) :
    s.applyRequest (.surfaceFrame surface callback) 0 pixelLength =
      .ok { s with frameCallback := some callback } := by
  rw [applyRequest_configured phase]
  exact if_pos ⟨onSurface, noCallback⟩

theorem applyRequest_commit (onBuffer : s.buffer = some buffer)
    (fits : buffer.stride * buffer.height < 2 ^ 32)
    (complete : s.Complete (buffer.stride * buffer.height)) :
    s.applyRequest (.surfaceCommit surface) 0 (buffer.stride * buffer.height) =
      .ok { s with committed := true } := by
  obtain ⟨-, acked, attached, damaged, geometry, callback, onCallback⟩ := complete
  rw [applyRequest_configured phase, applyConfigured, if_pos onSurface]
  simp only [applyCommit, Except.bind_eq_ok_iff, require_eq_ok_iff, Except.ite_error_eq_ok_iff]
  exact ⟨buffer, onBuffer, Nat.not_le_of_lt fits, not_not.mpr rfl,
    by simp [acked, attached, damaged, geometry, onCallback]⟩

end

end Apply

/-! ## The commit -/

/-- The session after the requests of the commit. -/
def withCommit (s : SingleSurfaceSession) (objects : ObjectMap) (callback : Nat) :
    SingleSurfaceSession :=
  { s with
    objects := objects, attached := true, damaged := true, frameCallback := some callback
    committed := true }

theorem role_withCommit {interface : Interface} (other : interface ≠ .callback) :
    (s.withCommit objects callback).role interface = s.role interface := by
  cases interface <;> first | rfl | exact absurd rfl other

/-- The four requests are applied one after the other. -/
theorem Ready.acceptFrames (between : s.Between log) (ready : s.Ready callback)
    (onSurface : s.surface = some object.id) (member : object ∈ s.objects.held)
    (active : object.state = .active) (isSurface : object.interface = .surface)
    (version : 4 ≤ object.version) (onBuffer : s.buffer = some buffer)
    (wide : buffer.width < 2 ^ 31) (high : buffer.height < 2 ^ 31)
    (inserted : s.objects.insert callback .callback 1 = .ok objects) :
    acceptFrames (commitWire object.id buffer.id callback buffer.width buffer.height).length s
        (commitWire object.id buffer.id callback buffer.width buffer.height) none
        (buffer.stride * buffer.height) = .ok (s.withCommit objects callback,
        commitRequests object.id buffer.id callback buffer.width buffer.height) := by
  have known := between.known
  have pending := between.initial
  obtain ⟨undamaged, uncommitted⟩ := between.idle (by rw [ready.phase]; nofun)
  have named := known.bounded object member
  have found := known.objects.get_of_mem member active
  have found' : objects.get object.id = .ok object := by
    obtain ⟨-, -, -, perm, -⟩ := ObjectMap.insert_ok inserted
    exact (known.objects.insert inserted).get_of_mem
      (perm.mem_iff.mpr (mem_cons_of_mem _ member)) active
  have complete : SingleSurfaceSession.Complete { s with
      objects := objects, attached := true, damaged := true, frameCallback := some callback }
      (buffer.stride * buffer.height) :=
    ⟨⟨buffer, onBuffer, rfl⟩, ready.acked, rfl, rfl, ready.geometry, callback, rfl⟩
  rw [commitWire_length]
  refine acceptFrames_surface pending uncommitted found isSurface named
    (dispatchSurface_attach known (congrArg (Option.map BufferState.id) onBuffer))
    (applyRequest_attach ready.phase onSurface onBuffer ready.detached) ?_
  refine acceptFrames_surface pending uncommitted found isSurface named
    (dispatchSurface_damage version wide high)
    (applyRequest_damage ready.phase onSurface onBuffer undamaged) ?_
  refine acceptFrames_surface pending uncommitted found isSurface named
    (dispatchSurface_frame ready.named inserted)
    (applyRequest_frame ready.phase onSurface ready.noCallback) ?_
  exact acceptFrames_surface pending uncommitted found' isSurface named rfl
    (applyRequest_commit ready.phase onSurface onBuffer (known.proper buffer onBuffer).fits
      complete) acceptFrames_nil

/-- Everything the snapshot asks for is there. -/
theorem snapshot_of_filled
    (filled : ∀ interface ∈ requiredInterfaces, ∃ id, s.role interface = some id)
    (onBuffer : s.buffer = some buffer) (onCallback : s.frameCallback = some callback) :
    ∃ surface, s.snapshot = .ok surface := by
  simp only [requiredInterfaces, forall_mem_cons] at filled
  obtain ⟨-, -, ⟨seat, onSeat⟩, ⟨pointer, onPointer⟩, ⟨keyboard, onKeyboard⟩, ⟨output, onOutput⟩, -,
    ⟨surface, onSurface⟩, ⟨xdgSurface, onXdgSurface⟩, ⟨toplevel, onToplevel⟩, -⟩ := filled
  simp only [snapshot, Except.bind_eq_ok_iff, require_eq_ok_iff]
  exact ⟨_, buffer, onBuffer, surface, onSurface, xdgSurface, onXdgSurface, toplevel, onToplevel,
    callback, onCallback, seat, onSeat, pointer, onPointer, keyboard, onKeyboard, output, onOutput,
    rfl⟩

/-- A ready session takes a further commit under the released callback id. -/
theorem Ready.commit {surface : Nat} (between : s.Between log) (ready : s.Ready callback)
    (onSurface : s.surface = some surface) (onBuffer : s.buffer = some buffer) :
    ∃ accepted committed,
      s.acceptBatch (commitWire surface buffer.id callback buffer.width buffer.height) none
        (buffer.stride * buffer.height) = .ok accepted ∧
      accepted.event = .committed committed ∧ accepted.session.frameCallback = some callback ∧
      accepted.session.surface = s.surface ∧ accepted.session.buffer = s.buffer := by
  obtain ⟨object, member, role, active, isSurface, version⟩ := ready.versioned
  cases onSurface.symm.trans role
  obtain ⟨stride, rowFits, fits⟩ := between.known.proper buffer onBuffer
  obtain ⟨buffer', onBuffer', nonzero⟩ := ready.buffer
  cases onBuffer.symm.trans onBuffer'
  have wide : buffer.width < 2 ^ 31 := by omega
  have high : buffer.height < 2 ^ 31 := by
    have positive : 4 ≤ buffer.stride := by
      rcases Nat.eq_zero_or_pos buffer.stride with zero | positive
      · rw [zero, Nat.zero_mul] at nonzero
        exact absurd rfl nonzero
      · omega
    have scaled : 4 * buffer.height ≤ buffer.stride * buffer.height := Nat.mul_le_mul_right _ positive
    omega
  obtain ⟨objects, inserted⟩ : ∃ objects, s.objects.insert callback .callback 1 = .ok objects :=
    ObjectMap.insert_of_room (pos_iff_ne_zero.mp ready.named.1) Nat.one_ne_zero ready.fresh
      ready.room
  have frames := ready.acceptFrames between onSurface member active isSurface version onBuffer wide
    high inserted
  have filled : ∀ interface ∈ requiredInterfaces,
      ∃ id, (s.withCommit objects callback).role interface = some id := by
    intro interface needed
    rw [role_withCommit fun isCallback => absurd (isCallback ▸ needed) (by decide)]
    exact (between.known.configured (.inl ready.phase)).filled interface needed
  obtain ⟨committed, snapshot⟩ := snapshot_of_filled filled onBuffer rfl
  refine ⟨⟨{ s.withCommit objects callback with phase := .committed }, .committed committed,
    commitRequests object.id buffer.id callback buffer.width buffer.height⟩, committed, ?_, rfl, rfl, rfl, rfl⟩
  unfold acceptBatch
  rw [if_neg, frames]
  · simp only [bind, Except.bind]
    unfold conclude
    rw [show (s.withCommit objects callback).phase = .awaitConfiguredCommit from ready.phase]
    simp only [snapshot]
    rfl
  · rintro (empty | shown | zero | ⟨early, -⟩ | ⟨-, supplied⟩)
    · have length := commitWire_length object.id buffer.id callback buffer.width buffer.height
      rw [empty] at length
      cases length
    · rw [ready.phase] at shown
      cases shown
    · exact nonzero (zero.mp ready.phase)
    · exact early ready.phase
    · cases supplied

end Cycle

/-! ## Runs -/

theorem between_new {capacity configureSerial : Nat} {s : SingleSurfaceSession}
    (made : new capacity configureSerial = .ok s) : s.Between [] := by
  unfold new at made
  split at made
  · cases made
  obtain ⟨objects, lifted, finished⟩ := Except.bind_ok made
  cases finished
  have held := ObjectMap.held_new (liftWire_ok lifted)
  refine ⟨⟨(ObjectMap.Consistent.new (liftWire_ok lifted)).toWellFormed, ?_, ?_, ?_, nofun, nofun, nofun, ?_⟩, rfl, fun _ => ⟨rfl, rfl⟩, nofun⟩
  · intro object member
    rw [held, mem_singleton] at member
    rw [member]
    decide
  · intro interface id role
    cases interface <;> cases role
    exact ⟨_, by rw [held]; exact mem_cons_self, rfl, rfl, rfl⟩
  · intro interface id client role
    cases interface <;> cases role
    exact absurd rfl client
  · rintro (phase | phase) <;> cases phase

end SingleSurfaceSession

namespace SurfaceRun

open SingleSurfaceSession

/-- The commit of a further frame and its presentation. -/
def commitCycle (surface buffer callback width height pixelLength : Nat) : List SurfaceCall :=
  [.acceptBatch (commitWire surface buffer callback width height) none pixelLength, .present]

/-- The call committed or presented a surface. -/
def Shows : SurfaceReply → Prop
  | .accepted (.committed _) _ => True
  | .presented _ => True
  | _ => False

instance : DecidablePred Shows
  | .accepted (.committed _) _ => .isTrue trivial
  | .accepted (.registry _) _ => .isFalse not_false
  | .accepted (.configure ..) _ => .isFalse not_false
  | .presented _ => .isTrue trivial
  | .failed _ => .isFalse not_false

/-- What a call of a run has to do. -/
structure Correct (call : Trace.Event SurfaceRun SurfaceCall SurfaceReply) : Prop where
  /-- A commit is justified, and the surface can be presented next. -/
  committed : ∀ wire fd pixelLength surface requests,
    call.operation = .acceptBatch wire fd pixelLength →
    call.reply = .accepted (.committed surface) requests →
    Justified (call.before.log ++ requests.map .received) requests pixelLength
        call.after.session.objects call.after.session.configureSerial surface ∧
      ∃ shown, (call.after.step .present).2 = .presented shown
  /-- A presentation makes room, and any number of cycles that reuse the callback's id
  succeed after it. -/
  presented : ∀ shown, call.reply = .presented shown →
    (∃ slot ∈ call.after.session.objects.slots, slot.isEmpty = true) ∧
      ∃ width height pixelLength, ∀ cycles,
        ∀ later ∈ Trace.events step call.after (List.replicate cycles
          (commitCycle shown.surface shown.buffer shown.frameCallback width height
            pixelLength)).flatten, Shows later.reply

/-- The run waits for a further commit of the given surface. -/
structure Cycling (surface : Nat) (buffer : BufferState) (callback : Nat) (run : SurfaceRun) :
    Prop where
  between : run.session.Between run.log
  ready : run.session.Ready callback
  onSurface : run.session.surface = some surface
  onBuffer : run.session.buffer = some buffer

section Run

variable {run : SurfaceRun} {surface callback : Nat} {buffer : BufferState}

theorem step_acceptBatch {wire : Bytes} {fd : Option Int} {pixelLength : Nat} {accepted : Accepted}
    (ok : run.session.acceptBatch wire fd pixelLength = .ok accepted) :
    run.step (.acceptBatch wire fd pixelLength) =
      (⟨accepted.session, run.log ++ accepted.requests.map .received ++ [.sent accepted.event]⟩,
        .accepted accepted.event accepted.requests) := by
  rw [step, ok]

theorem step_present {session session' : SingleSurfaceSession} {shown : PresentedSurface}
    (log : List Exchange) (ok : session.present = .ok (session', shown)) :
    step ⟨session, log⟩ .present = (⟨session', log ++ [.presented shown]⟩, .presented shown) := by
  rw [step, ok]

/-- One cycle succeeds and can be repeated. -/
theorem Cycling.cycle (cycling : Cycling surface buffer callback run) :
    (∀ call ∈ Trace.events step run (commitCycle surface buffer.id callback buffer.width
        buffer.height (buffer.stride * buffer.height)), Shows call.reply) ∧
      Cycling surface buffer callback (Trace.run step run (commitCycle surface buffer.id callback
        buffer.width buffer.height (buffer.stride * buffer.height))) := by
  obtain ⟨between, ready, onSurface, onBuffer⟩ := cycling
  obtain ⟨⟨session, event, requests⟩, committed, accepted, rfl, onCallback, sameSurface, sameBuffer⟩ :=
    ready.commit between onSurface onBuffer
  obtain ⟨between', justified⟩ := between.acceptBatch accepted
  obtain ⟨phase, -⟩ := justified committed rfl
  obtain ⟨session', shown, presented, between'', ready', onCallback', surface', -, buffer', -⟩ :=
    between'.present phase
  cases onCallback.symm.trans onCallback'
  have first := step_acceptBatch accepted
  have second := fun log => step_present log presented
  simp only [commitCycle, Trace.events, Trace.event, Trace.run, first, second]
  refine ⟨?_, between'', ready', surface'.trans (sameSurface.trans onSurface),
    buffer'.trans (sameBuffer.trans onBuffer)⟩
  simp [Shows]

/-- Any number of cycles succeed. -/
theorem Cycling.cycles (cycling : Cycling surface buffer callback run) (cycles : Nat) :
    ∀ call ∈ Trace.events step run (replicate cycles (commitCycle surface buffer.id callback
      buffer.width buffer.height (buffer.stride * buffer.height))).flatten, Shows call.reply := by
  induction cycles generalizing run with
  | zero => exact forall_mem_nil _
  | succ cycles ih =>
    obtain ⟨shows, cycling'⟩ := cycling.cycle
    exact forall_mem_append.mpr ⟨shows, ih cycling'⟩

/-- Every call keeps what holds between calls. -/
theorem between_step (call : SurfaceCall) (between : run.session.Between run.log) :
    (run.step call).1.session.Between (run.step call).1.log := by
  cases call with
  | acceptBatch wire fd pixelLength =>
    cases outcome : run.session.acceptBatch wire fd pixelLength with
    | error error => rwa [step, outcome]
    | ok accepted =>
      rw [step_acceptBatch outcome]
      exact (between.acceptBatch outcome).1
  | present =>
    obtain ⟨session, log⟩ := run
    cases outcome : session.present with
    | error error => rwa [step, outcome]
    | ok result =>
      rw [step_present log outcome]
      obtain ⟨session', shown, presented, between', -⟩ := between.present (present_phase outcome).1
      cases outcome.symm.trans presented
      exact between'

/-- Every call is correct. -/
theorem correct_step (call : SurfaceCall) (between : run.session.Between run.log) :
    Correct (Trace.event step run call) := by
  constructor
  case committed =>
    rintro wire fd pixelLength surface requests called replied
    cases (called : call = .acceptBatch wire fd pixelLength)
    cases outcome : run.session.acceptBatch wire fd pixelLength with
    | error error =>
      simp only [Trace.event, step, outcome] at replied
      cases replied
    | ok accepted =>
      simp only [Trace.event, step_acceptBatch outcome, SurfaceReply.accepted.injEq] at replied ⊢
      obtain ⟨committed, rfl⟩ := replied
      obtain ⟨between', justified⟩ := between.acceptBatch outcome
      obtain ⟨phase, justified⟩ := justified surface committed
      obtain ⟨session', shown, presented, -⟩ := between'.present phase
      refine ⟨justified, shown, ?_⟩
      rw [step_present _ presented]
  case presented =>
    intro shown replied
    obtain ⟨session, log⟩ := run
    cases call with
    | acceptBatch wire fd pixelLength =>
      cases outcome : session.acceptBatch wire fd pixelLength with
      | error | ok =>
        simp only [Trace.event, step, outcome] at replied
        cases replied
    | present =>
      cases outcome : session.present with
      | error error =>
        simp only [Trace.event, step, outcome] at replied
        cases replied
      | ok result =>
        obtain ⟨session', shown', presented, between', ready, -, -, onSurface, -, onBuffer⟩ :=
          between.present (present_phase outcome).1
        have stepped := step_present log presented
        simp only [Trace.event, stepped, SurfaceReply.presented.injEq] at replied ⊢
        subst replied
        obtain ⟨buffer, found, same⟩ := Option.map_eq_some_iff.mp onBuffer
        refine ⟨ready.room, buffer.width, buffer.height, buffer.stride * buffer.height, ?_⟩
        rw [← same]
        exact Cycling.cycles ⟨between', ready, onSurface, found⟩

/-- What holds after a run, and of the calls it made. -/
structure Recorded (run : SurfaceRun)
    (record : List (Trace.Event SurfaceRun SurfaceCall SurfaceReply)) : Prop where
  between : run.session.Between run.log
  correct : ∀ call ∈ record, Correct call

theorem Recorded.step {record : List (Trace.Event SurfaceRun SurfaceCall SurfaceReply)}
    (recorded : Recorded run record) (call : SurfaceCall) :
    Recorded (run.step call).1 (record ++ [Trace.event SurfaceRun.step run call]) :=
  ⟨between_step call recorded.between,
    Trace.forall_mem_snoc recorded.correct (correct_step call recorded.between)⟩

end Run

/-- In every run of a session, each commit is justified and can be presented, and each
presentation can be followed by any number of cycles. -/
theorem surface_session_correct {capacity configureSerial : Nat} {session : SingleSurfaceSession}
    (made : SingleSurfaceSession.new capacity configureSerial = .ok session)
    (calls : List SurfaceCall) : ∀ call ∈ Trace.events step ⟨session, []⟩ calls, Correct call := by
  have start : Recorded ⟨session, []⟩ [] := ⟨between_new made, forall_mem_nil _⟩
  have recorded := Trace.holds_always Recorded (fun call recorded => recorded.step call) start calls
  exact recorded.correct

/-- A string argument of ASCII characters. -/
def asciiText (text : String) : Bytes :=
  let bytes : Bytes := text.toList.map fun c => BitVec.ofNat 8 c.toNat
  toLE 4 (bytes.length + 1) ++ bytes ++
    List.replicate (align4 (bytes.length + 1) - bytes.length) 0

/-- A client that shows one pixel. -/
def onePixel : List SurfaceCall :=
  [.acceptBatch (messageBytes 1 1 (words [2])) none 0,
    .acceptBatch (messageBytes 2 0 (words [1] ++ asciiText "wl_compositor" ++ words [4, 3]) ++
      messageBytes 2 0 (words [2] ++ asciiText "wl_shm" ++ words [1, 4]) ++
      messageBytes 2 0 (words [3] ++ asciiText "wl_seat" ++ words [5, 5]) ++
      messageBytes 2 0 (words [4] ++ asciiText "wl_output" ++ words [3, 6]) ++
      messageBytes 2 0 (words [5] ++ asciiText "xdg_wm_base" ++ words [2, 7]) ++
      messageBytes 5 0 (words [8]) ++ messageBytes 5 1 (words [9]) ++
      messageBytes 3 0 (words [10]) ++ messageBytes 7 2 (words [11, 10]) ++
      messageBytes 11 1 (words [12]) ++ messageBytes 12 2 (asciiText "pixel") ++
      messageBytes 12 3 (asciiText "org.pixel") ++ messageBytes 10 6 []) none 0,
    .acceptBatch (messageBytes 4 0 (words [13, 4]) ++
      messageBytes 13 0 (words [14, 0, 1, 1, 4, 1]) ++ messageBytes 11 4 (words [1]) ++
      messageBytes 11 3 (words [0, 0, 1, 1]) ++ commitWire 10 14 15 1 1) (some 3) 4,
    .present]

/-- The client of one pixel commits and is shown. -/
theorem surface_session_correct_onePixel : ∃ session, SingleSurfaceSession.new 16 1 = .ok session ∧
    (Trace.events step ⟨session, []⟩ onePixel).map (fun call => decide (Shows call.reply)) =
      [false, false, true, true] ∧
    ∀ call ∈ Trace.events step ⟨session, []⟩ onePixel, Correct call :=
  ⟨_, rfl, by decide +kernel,
    surface_session_correct (show new 16 1 = _ from rfl) onePixel⟩

end SurfaceRun

end SlopOS.Wayland
