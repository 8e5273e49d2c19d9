import SlopOS.Base.Trace
import SlopOS.Executor.InputQueue

/-!
# The executor loop and its interrupts

`kernel/src/executor.rs` with `NextDesktopEvent::poll` of `kernel/src/ps2.rs`, one atomic
access at a time, so that an interrupt may come between any two of them while interrupts
are enabled.  An interrupt handler runs with interrupts disabled and is one step.  `sti`
takes effect behind the instruction that follows it, so `sti; hlt` is one step too.

What the desktop does with an event and what the other two tasks do is left open, except
that they may call `wake_task`; whether one of the other event sources has an update is a
choice of the run.
-/

namespace SlopOS.Executor

open List

/-! ## Ready tasks -/

def INPUT_TASK : Nat := 0
def TIMER_TASK : Nat := 1
def BLOCK_TASK : Nat := 2
def TASK_COUNT : Nat := 3
def ALL_TASKS : BitVec 64 := (1#64 <<< TASK_COUNT) - 1

variable (ready : BitVec 64)

/-- `wake_task` on the mask of ready tasks. -/
def wakeTask (task : Nat) : BitVec 64 :=
  if task < TASK_COUNT then ready ||| (1#64 <<< task) else ready

/-- `ready & (1 << task) != 0`. -/
def isReady (task : Nat) : Bool := ready &&& (1#64 <<< task) != 0

theorem isReady_wakeTask {ready : BitVec 64} (set : isReady ready INPUT_TASK = true) (task : Nat) :
    isReady (wakeTask ready task) INPUT_TASK = true := by
  unfold isReady at set ⊢
  rw [and_bit (by decide)] at set ⊢
  unfold wakeTask
  split
  · rw [BitVec.getLsbD_or, set, Bool.true_or]
  · exact set

theorem isReady_wakeInput : isReady (wakeTask ready INPUT_TASK) INPUT_TASK = true := by
  unfold isReady
  rw [and_bit (by decide), wakeTask, if_pos (by decide), BitVec.getLsbD_or]
  exact Bool.or_true _

/-! ## The machine -/

/-- Where the executor stands.  `ready` is the mask that the round has taken. -/
inductive Location where
  /-- `READY_TASKS.store(ALL_TASKS)`. -/
  | start
  /-- `sti`, before the first round and behind a check that found work. -/
  | enable
  /-- `READY_TASKS.swap(0)`. -/
  | swap
  | input (ready : BitVec 64)
  /-- The start of `NextDesktopEvent::poll`: the four other sources. -/
  | poll (ready : BitVec 64)
  | loadTail (ready : BitVec 64)
  | loadHead (ready : BitVec 64) (tail : Nat)
  | loadCell (ready : BitVec 64) (tail : Nat)
  | storeTail (ready : BitVec 64) (tail : Nat) (encoded : BitVec 16)
  /-- The desktop works on an event. -/
  | desktop (ready : BitVec 64)
  | timer (ready : BitVec 64)
  | pollTimer (ready : BitVec 64)
  | block (ready : BitVec 64)
  | pollBlock
  /-- `cli`. -/
  | disable
  /-- The load of the mask with interrupts disabled. -/
  | check
  /-- `sti; hlt`. -/
  | arm
  | halted

structure Machine where
  queue : InputQueue
  ready : BitVec 64
  interrupts : Bool
  /-- The input task waits in `next_desktop_event`: its last poll was pending. -/
  suspended : Bool
  location : Location

/-- Entry to `run`, with whatever was woken before. -/
def Machine.boot : Machine := ⟨.empty, ready, false, false, .start⟩

/-- What reaches the processor; `status` and `value` are read from the ports. -/
inductive Interrupt where
  | keyboard (status value : BitVec 8)
  | mouse (status value : BitVec 8)
  | timer
  | virtio (status : BitVec 8)
  | spurious

/-- What the code that is left open does next. -/
inductive Choice where
  | proceed
  /-- One of the other four sources has an update. -/
  | update
  | wake (task : Nat)

inductive Action where
  | advance (choice : Choice)
  | interrupt (arrived : Interrupt)

/-- What a step does with input bytes. -/
inductive Effect where
  | quiet
  | received (byte : RawInputByte)
  | consumed (byte : RawInputByte)

namespace Machine

variable (s : Machine)

def wake (task : Nat) : Machine := { s with ready := wakeTask s.ready task }

def goto (location : Location) : Machine := { s with location }

/-- `enqueue_interrupt_byte`. -/
def enqueueInterruptByte (byte : RawInputByte) : Machine :=
  let (queue, stored) := s.queue.enqueue byte
  let s := { s with queue }
  if stored then s.wake INPUT_TASK else s

/-- `consume_ps2_irq`: a byte is there if bit 0 of the status is set, and bit 5 says that
it comes from the mouse. -/
def consumePs2Irq (status value : BitVec 8) : Machine × Effect :=
  if status &&& 1 != 0 then
    let byte : RawInputByte := ⟨status &&& 0x20 != 0, value⟩
    (s.enqueueInterruptByte byte, .received byte)
  else (s, .quiet)

def handle : Interrupt → Machine × Effect
  | .keyboard status value => s.consumePs2Irq status value
  | .mouse status value => s.consumePs2Irq status value
  | .timer => (s.wake TIMER_TASK, .quiet)
  | .virtio status => (if status &&& 1 != 0 then s.wake BLOCK_TASK else s, .quiet)
  | .spurious => (s, .quiet)

/-- The handler returns behind `hlt`. -/
def resume : Machine :=
  match s.location with
  | .halted => s.goto .swap
  | _ => s

/-- Code that is left open: it wakes a task, or it is done. -/
def work (choice : Choice) (next : Location) : Machine :=
  match choice with
  | .wake task => s.wake task
  | _ => s.goto next

def advance (choice : Choice) : Machine × Effect :=
  match s.location with
  | .start => ({ s with ready := ALL_TASKS, location := .enable }, .quiet)
  | .enable => ({ s with interrupts := true, location := .swap }, .quiet)
  | .swap => ({ s with ready := 0, location := .input s.ready }, .quiet)
  | .input ready =>
    if isReady ready INPUT_TASK then
      ({ s with suspended := false, location := .poll ready }, .quiet)
    else (s.goto (.timer ready), .quiet)
  | .poll ready =>
    match choice with
    | .update => (s.goto (.desktop ready), .quiet)
    | _ => (s.goto (.loadTail ready), .quiet)
  | .loadTail ready => (s.goto (.loadHead ready s.queue.tail), .quiet)
  | .loadHead ready tail =>
    if tail = s.queue.head then
      -- `Poll::Pending`: the desktop is suspended and the executor goes on.
      ({ s with suspended := true, location := .timer ready }, .quiet)
    else (s.goto (.loadCell ready tail), .quiet)
  | .loadCell ready tail => (s.goto (.storeTail ready tail (s.queue.cell tail)), .quiet)
  | .storeTail ready tail encoded =>
    ({ s with queue := s.queue.advance tail, location := .desktop ready },
      .consumed (.decode encoded))
  | .desktop ready => (s.work choice (.poll ready), .quiet)
  | .timer ready =>
    (s.goto (if isReady ready TIMER_TASK then .pollTimer ready else .block ready), .quiet)
  | .pollTimer ready => (s.work choice (.block ready), .quiet)
  | .block ready => (s.goto (if isReady ready BLOCK_TASK then .pollBlock else .disable), .quiet)
  | .pollBlock => (s.work choice .disable, .quiet)
  | .disable => ({ s with interrupts := false, location := .check }, .quiet)
  | .check => (s.goto (if s.ready = 0 then .arm else .enable), .quiet)
  | .arm => ({ s with interrupts := true, location := .halted }, .quiet)
  | .halted => (s, .quiet)

/-- An interrupt that arrives while interrupts are disabled waits; it is another action
later. -/
def step : Action → Machine × Effect
  | .advance choice => s.advance choice
  | .interrupt arrived =>
    if s.interrupts then
      ((s.handle arrived).1.resume, (s.handle arrived).2)
    else (s, .quiet)

end Machine

/-! ## Runs -/

abbrev Event := Trace.Event Machine Action Effect

def reached (actions : List Action) : Machine :=
  Trace.run Machine.step (.boot ready) actions

def history (actions : List Action) : List Event :=
  Trace.events Machine.step (.boot ready) actions

/-- The bytes that the interrupts delivered. -/
def received (record : List Event) : List RawInputByte :=
  Trace.outputs (fun effect : Effect => match effect with
    | .received byte => some byte
    | _ => none) record

/-- The bytes that the desktop took. -/
def consumed (record : List Event) : List RawInputByte :=
  Trace.outputs (fun effect : Effect => match effect with
    | .consumed byte => some byte
    | _ => none) record

/-- The bytes that wait for the desktop. -/
def Machine.waiting (s : Machine) : List RawInputByte := s.queue.waiting.map RawInputByte.decode

/-! ## The bytes -/

/-- The bytes taken and those that wait are among the bytes delivered, in order, and the
others have been counted. -/
structure Bytes (queue : InputQueue) (record : List Event) : Prop where
  valid : queue.Valid
  ordered : (consumed record ++ queue.waiting.map RawInputByte.decode).Sublist (received record)
  dropped : ∃ lost, (received record).length =
    (consumed record).length + queue.waiting.length + lost ∧
      queue.droppedBytes = BitVec.ofNat 64 lost

section Record

variable {queue : InputQueue} {record : List Event} {e : Event}

theorem Bytes.quiet (bytes : Bytes queue record) (reply : e.reply = .quiet) :
    Bytes queue (record ++ [e]) := by
  have sameReceived : received (record ++ [e]) = received record := by
    rw [received, Trace.outputs_snoc, reply]
    exact append_nil _
  have sameConsumed : consumed (record ++ [e]) = consumed record := by
    rw [consumed, Trace.outputs_snoc, reply]
    exact append_nil _
  refine ⟨bytes.valid, ?_, ?_⟩
  · rw [sameReceived, sameConsumed]
    exact bytes.ordered
  · rw [sameReceived, sameConsumed]
    exact bytes.dropped

theorem Bytes.enqueue (bytes : Bytes queue record) {byte : RawInputByte}
    (reply : e.reply = .received byte) : Bytes (queue.enqueue byte).1 (record ++ [e]) := by
  have grown : received (record ++ [e]) = received record ++ [byte] := by
    rw [received, Trace.outputs_snoc, reply]
    rfl
  have same : consumed (record ++ [e]) = consumed record := by
    rw [consumed, Trace.outputs_snoc, reply]
    exact append_nil _
  obtain ⟨lost, total, counted⟩ := bytes.dropped
  rcases bytes.valid.enqueue_cases byte with ⟨-, waiting, dropped⟩ | ⟨-, waiting, dropped⟩
  · refine ⟨(bytes.valid.enqueue byte).1, ?_, lost, ?_, dropped.trans counted⟩
    · rw [grown, same, waiting, map_append, ← append_assoc, map_singleton,
        RawInputByte.decode_encode]
      exact bytes.ordered.append (Sublist.refl _)
    · rw [grown, same, waiting, length_append, length_append]
      simp only [length_singleton]
      omega
  · refine ⟨(bytes.valid.enqueue byte).1, ?_, lost + 1, ?_, ?_⟩
    · rw [grown, same, waiting]
      exact bytes.ordered.trans (sublist_append_left _ _)
    · rw [grown, same, waiting, length_append, length_singleton]
      omega
    · rw [dropped, counted]
      exact (BitVec.ofNat_add ..).symm

theorem Bytes.take (bytes : Bytes queue record) (present : queue.tail ≠ queue.head)
    (reply : e.reply = .consumed (.decode (queue.cell queue.tail))) :
    Bytes (queue.advance queue.tail) (record ++ [e]) := by
  have same : received (record ++ [e]) = received record := by
    rw [received, Trace.outputs_snoc, reply]
    exact append_nil _
  have grown : consumed (record ++ [e]) = consumed record ++ [.decode (queue.cell queue.tail)] := by
    rw [consumed, Trace.outputs_snoc, reply]
    rfl
  have first := bytes.valid.waiting_cons present
  obtain ⟨lost, total, counted⟩ := bytes.dropped
  refine ⟨bytes.valid.advance, ?_, lost, ?_, counted⟩
  · have ordered := bytes.ordered
    rw [first] at ordered
    rw [same, grown, append_assoc]
    exact ordered
  · rw [first, length_cons] at total
    rw [same, grown, length_append, length_singleton]
    omega

end Record

/-! ## The invariant -/

/-- What a poll has read of the queue. -/
def Location.Reading (queue : InputQueue) : Location → Prop
  | .loadHead _ tail => tail = queue.tail
  | .loadCell _ tail => tail = queue.tail ∧ queue.tail ≠ queue.head
  | .storeTail _ tail encoded =>
    tail = queue.tail ∧ queue.tail ≠ queue.head ∧ encoded = queue.cell queue.tail
  | _ => True

/-- The round has taken the bit of the input task and is about to poll it. -/
def Location.polls : Location → Bool
  | .input ready => isReady ready INPUT_TASK
  | _ => false

/-- From `cli` to `hlt` interrupts are disabled, and from the check on no task is ready. -/
def Location.Idle (interrupts : Bool) : Location → Prop
  | .check => interrupts = false
  | .arm => ready = 0 ∧ interrupts = false
  | .halted => ready = 0
  | _ => True

structure Holds (s : Machine) (record : List Event) : Prop where
  bytes : Bytes s.queue record
  reading : s.location.Reading s.queue
  awake : s.suspended = true → s.queue.tail ≠ s.queue.head →
    isReady s.ready INPUT_TASK = true ∨ s.location.polls = true
  idle : s.location.Idle s.ready s.interrupts

variable {s s' : Machine} {record : List Event} {e : Event} {location : Location}

section

variable (holds : Holds s record) (reply : e.reply = .quiet)
include holds reply

/-- A step that leaves the queue alone. -/
theorem Holds.move (queue : s'.queue = s.queue) (reading : s'.location.Reading s.queue)
    (awake : s'.suspended = true → s.queue.tail ≠ s.queue.head →
      isReady s'.ready INPUT_TASK = true ∨ s'.location.polls = true)
    (idle : s'.location.Idle s'.ready s'.interrupts) : Holds s' (record ++ [e]) := by
  refine ⟨?_, ?_, ?_, idle⟩
  · rw [queue]
    exact holds.bytes.quiet reply
  · rw [queue]
    exact reading
  · rw [queue]
    exact awake

/-- A step to a place where nothing has been read or checked, outside the polls of the
input task. -/
theorem Holds.goto (polls : s.location.polls = false) (reading : location.Reading s.queue)
    (idle : location.Idle s.ready s.interrupts) : Holds (s.goto location) (record ++ [e]) := by
  refine holds.move reply rfl reading (fun suspended present => ?_) idle
  rcases holds.awake suspended present with set | polled
  · exact .inl set
  · exact Bool.noConfusion (polls.symm.trans polled)

/-- A call of `wake_task` where no check has been made. -/
theorem Holds.wake (task : Nat) (idle : s.location.Idle (wakeTask s.ready task) s.interrupts) :
    Holds (s.wake task) (record ++ [e]) :=
  holds.move reply rfl holds.reading (fun suspended present =>
    (holds.awake suspended present).imp (isReady_wakeTask · task) id) idle

theorem Holds.work (choice : Choice) {next : Location} (polls : s.location.polls = false)
    (idle : ∀ ready, s.location.Idle ready s.interrupts) (reading : next.Reading s.queue)
    (idle' : next.Idle s.ready s.interrupts) : Holds (s.work choice next) (record ++ [e]) := by
  cases choice with
  | wake task => exact holds.wake reply task (idle _)
  | proceed | update => exact holds.goto reply polls reading idle'

end

/-! ## Interrupts -/

/-- What a handler can do: it wakes tasks, or it delivers a byte, which wakes the input task
if there is room for it. -/
inductive Handled (s : Machine) : Machine → Effect → Prop where
  | woke {ready : BitVec 64}
      (kept : isReady s.ready INPUT_TASK = true → isReady ready INPUT_TASK = true) :
      Handled s { s with ready } .quiet
  | stored {byte : RawInputByte} (stored : (s.queue.enqueue byte).2 = true) :
      Handled s { s with
        queue := (s.queue.enqueue byte).1
        ready := wakeTask s.ready INPUT_TASK } (.received byte)
  | refused {byte : RawInputByte} (refused : (s.queue.enqueue byte).2 = false) :
      Handled s { s with queue := (s.queue.enqueue byte).1 } (.received byte)

theorem handled_ps2 (s : Machine) (status value : BitVec 8) :
    Handled s (s.consumePs2Irq status value).1 (s.consumePs2Irq status value).2 := by
  unfold Machine.consumePs2Irq
  split
  case isFalse => exact .woke id
  case isTrue =>
  dsimp only [Machine.enqueueInterruptByte]
  split
  case isTrue stored => exact .stored stored
  case isFalse refused => exact .refused (Bool.eq_false_iff.mpr refused)

theorem handled (s : Machine) (arrived : Interrupt) :
    Handled s (s.handle arrived).1 (s.handle arrived).2 := by
  cases arrived with
  | keyboard status value | mouse status value => exact handled_ps2 s status value
  | timer => exact .woke (isReady_wakeTask · TIMER_TASK)
  | virtio status =>
    show Handled s (if status &&& 1 != 0 then s.wake BLOCK_TASK else s) .quiet
    split
    case isTrue => exact .woke (isReady_wakeTask · BLOCK_TASK)
    case isFalse => exact .woke id
  | spurious => exact .woke id

/-- A poll that is under way has still read what it has read. -/
theorem reading_enqueue {queue : InputQueue} (valid : queue.Valid) (byte : RawInputByte)
    (reading : location.Reading queue) : location.Reading (queue.enqueue byte).1 := by
  obtain ⟨-, tail⟩ := valid.enqueue byte
  cases location with
  | loadHead ready tail' => exact reading.trans tail.symm
  | loadCell ready tail' =>
    obtain ⟨same, present⟩ := reading
    exact ⟨same.trans tail.symm, (valid.cell_enqueue present byte).1⟩
  | storeTail ready tail' encoded =>
    obtain ⟨same, present, stored⟩ := reading
    obtain ⟨present', cell⟩ := valid.cell_enqueue present byte
    refine ⟨same.trans tail.symm, present', ?_⟩
    rw [tail, cell]
    exact stored
  | _ => exact trivial

/-- Behind `hlt` the next round starts. -/
theorem resume_holds {queue : InputQueue} {ready : BitVec 64} {interrupts suspended : Bool}
    (enabled : interrupts = true) (bytes : Bytes queue record) (reading : location.Reading queue)
    (awake : suspended = true → queue.tail ≠ queue.head →
      isReady ready INPUT_TASK = true ∨ location.polls = true)
    (idle : location.Idle s.ready interrupts) :
    Holds (Machine.resume ⟨queue, ready, interrupts, suspended, location⟩) record := by
  cases location with
  | halted =>
    exact ⟨bytes, trivial, awake, trivial⟩
  | check => exact Bool.noConfusion (enabled.symm.trans idle)
  | arm => exact Bool.noConfusion (enabled.symm.trans idle.2)
  | _ => exact ⟨bytes, reading, awake, trivial⟩

theorem Holds.interrupt (holds : Holds s record) (enabled : s.interrupts = true)
    {effect : Effect} (handled : Handled s s' effect) (reply : e.reply = effect) :
    Holds s'.resume (record ++ [e]) := by
  cases handled with
  | woke kept =>
    exact resume_holds enabled (holds.bytes.quiet reply) holds.reading
      (fun suspended present => (holds.awake suspended present).imp kept id) holds.idle
  | stored =>
    exact resume_holds enabled (holds.bytes.enqueue reply)
      (reading_enqueue holds.bytes.valid _ holds.reading)
      (fun _ _ => .inl (isReady_wakeInput s.ready)) holds.idle
  | @refused byte refused =>
    refine resume_holds enabled (holds.bytes.enqueue reply)
      (reading_enqueue holds.bytes.valid _ holds.reading) (fun suspended present => ?_) holds.idle
    -- What waits is what waited before.
    have valid := holds.bytes.valid
    refine holds.awake suspended fun empty => present ?_
    rcases valid.enqueue_cases byte with ⟨stored, -⟩ | ⟨-, same, -⟩
    · exact Bool.noConfusion (refused.symm.trans stored)
    · exact (valid.enqueue byte).1.waiting_eq_nil.mp (same.trans (valid.waiting_eq_nil.mpr empty))

/-! ## Steps of the executor -/

theorem isReady_all : isReady ALL_TASKS INPUT_TASK = true := by decide

theorem Holds.advance (holds : Holds s record) (choice : Choice)
    (reply : e.reply = (s.advance choice).2) : Holds (s.advance choice).1 (record ++ [e]) := by
  obtain ⟨queue, mask, interrupts, suspended, location⟩ := s
  obtain ⟨bytes, reading, awake, idle⟩ := id holds
  dsimp only at bytes reading awake idle
  cases location with
  | start => exact holds.move reply rfl trivial (fun _ _ => .inl isReady_all) trivial
  | enable => exact holds.move reply rfl trivial awake trivial
  | swap =>
    -- The bit goes from the mask to the round.
    refine holds.move reply rfl trivial (fun suspended present => ?_) trivial
    rcases awake suspended present with set | polled
    · exact .inr set
    · cases polled
  | input ready =>
    unfold Machine.advance at reply ⊢
    dsimp only at reply ⊢
    split at reply
    case isTrue polled =>
      rw [if_pos polled]
      exact holds.move reply rfl trivial (fun suspended => Bool.noConfusion suspended) trivial
    case isFalse polled =>
      rw [if_neg polled]
      refine holds.move reply rfl trivial (fun suspended present => ?_) trivial
      rcases awake suspended present with set | promised
      · exact .inl set
      · exact absurd promised polled
  | poll ready =>
    cases choice with
    | update | proceed | wake => exact holds.goto reply rfl trivial trivial
  | loadTail ready => exact holds.goto reply rfl rfl trivial
  | loadHead ready tail =>
    obtain rfl : tail = queue.tail := reading
    unfold Machine.advance at reply ⊢
    dsimp only at reply ⊢
    split at reply
    case isTrue empty =>
      -- Nothing waits at the moment of the load; what comes later wakes the task.
      rw [if_pos empty]
      exact holds.move reply rfl trivial (fun _ present => absurd empty present) trivial
    case isFalse present =>
      rw [if_neg present]
      exact holds.goto reply rfl ⟨rfl, present⟩ trivial
  | loadCell ready tail =>
    obtain ⟨rfl, present⟩ := reading
    exact holds.goto reply rfl ⟨rfl, present, rfl⟩ trivial
  | storeTail ready tail encoded =>
    obtain ⟨rfl, present, rfl⟩ := reading
    exact ⟨bytes.take present reply, trivial, fun suspended _ => awake suspended present, trivial⟩
  | desktop | pollTimer | pollBlock =>
    exact holds.work reply choice rfl (fun _ => trivial) trivial trivial
  | timer | block =>
    refine holds.goto reply rfl ?_ ?_
    · split <;> exact trivial
    · split <;> exact trivial
  | disable => exact holds.move reply rfl trivial awake rfl
  | check =>
    refine holds.goto reply rfl ?_ ?_
    · split <;> exact trivial
    · split
      case isTrue none => exact ⟨none, idle⟩
      case isFalse => exact trivial
  | arm => exact holds.move reply rfl trivial awake idle.1
  | halted => exact holds.move reply rfl reading awake idle

theorem Holds.step (holds : Holds s record) (action : Action) :
    Holds (s.step action).1 (record ++ [Trace.event Machine.step s action]) := by
  cases action with
  | advance choice => exact holds.advance choice rfl
  | interrupt arrived =>
    unfold Trace.event Machine.step
    dsimp only
    split
    case isTrue enabled => exact holds.interrupt enabled (handled s arrived) rfl
    case isFalse => exact holds.move rfl rfl holds.reading holds.awake holds.idle

theorem boot_holds : Holds (.boot ready) [] := by
  have bytes : Bytes .empty [] := by
    refine ⟨InputQueue.empty_valid, ?_, 0, ?_, rfl⟩
    · exact Sublist.refl _
    · rfl
  exact ⟨bytes, trivial, nofun, trivial⟩

theorem reached_holds (actions : List Action) :
    Holds (reached ready actions) (history ready actions) :=
  Trace.holds_always Holds (fun action holds => holds.step action) (boot_holds ready) actions

/-- For every interleaving of interrupts with the executor and its tasks: the bytes that the
desktop took, followed by those that wait, are a subsequence of the bytes delivered; the bytes
missing from it are counted; and the processor does not halt with no task ready while the
input task is suspended and a byte waits for it. -/
theorem input_wakeups (ready : BitVec 64) (actions : List Action) :
    (consumed (history ready actions) ++ (reached ready actions).waiting).Sublist
        (received (history ready actions)) ∧ (reached ready actions).queue.droppedBytes =
        BitVec.ofNat 64 ((received (history ready actions)).length -
          (consumed (history ready actions) ++ (reached ready actions).waiting).length) ∧
      ¬ ((reached ready actions).location = .halted ∧ (reached ready actions).ready = 0 ∧
        (reached ready actions).suspended = true ∧ (reached ready actions).waiting ≠ []) := by
  have holds := reached_holds ready actions
  generalize reached ready actions = s at holds
  generalize history ready actions = record at holds
  refine ⟨holds.bytes.ordered, ?_, ?_⟩
  · obtain ⟨lost, total, counted⟩ := holds.bytes.dropped
    rw [counted, total, length_append, Machine.waiting, length_map, Nat.add_sub_cancel_left]
  rintro ⟨halted, none, suspended, waits⟩
  have present : s.queue.tail ≠ s.queue.head := by
    intro empty
    refine waits ?_
    rw [Machine.waiting, holds.bytes.valid.waiting_eq_nil.mpr empty, map_nil]
  rcases holds.awake suspended present with set | polled
  · rw [none] at set
    exact absurd set (by decide)
  · rw [halted] at polled
    cases polled

end SlopOS.Executor
