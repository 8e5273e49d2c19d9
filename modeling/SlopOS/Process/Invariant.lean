import SlopOS.Process.Table
import Mathlib.Data.List.Nodup

/-!
# The invariant of the process table

`Transition` says what an operation can do to the processes the table holds, up to the order
of their slots: nothing, a new process, a change of the one process it names, or its removal.
The invariant and what it means for a single process id follow from that.
-/

namespace SlopOS.Process

open Vfs ProcessTable List

variable {N FDS : Nat} {table table' : ProcessTable N FDS} {pid : ProcessId} {operation : Operation}
  {reply : Except ProcessError Reply} {slot : ProcessSlot}

/-- The processes in the table. -/
def ProcessTable.held (table : ProcessTable N FDS) : List ProcessSlot :=
  table.slots.filter (·.occupied)

/-- The exit status is there exactly when the process has exited. -/
def ProcessSlot.Ended (slot : ProcessSlot) : Prop :=
  slot.exitStatus.isSome ↔ slot.state = some .exited

structure ProcessTable.Valid (table : ProcessTable N FDS) : Prop where
  capacity : table.slots.length = N
  unique : (table.held.map (·.pid)).Nodup
  issued : ∀ slot ∈ table.held, slot.pid.toNat < table.nextPid.toNat
  count : table.count = table.held.length
  ended : ∀ slot ∈ table.held, slot.Ended

theorem new_valid : (new : ProcessTable N FDS).Valid := by
  have none : (new : ProcessTable N FDS).held = [] := filter_eq_nil_iff.mpr fun slot member => by
      rw [eq_of_mem_replicate member]
      exact Bool.false_ne_true
  refine ⟨length_replicate, ?_, ?_, ?_, ?_⟩
  · rw [none]
    exact nodup_nil
  · rw [none]
    exact fun _ member => absurd member not_mem_nil
  · rw [none]
    rfl
  · rw [none]
    exact fun _ member => absurd member not_mem_nil

/-- A process id finds the one process that carries it. -/
theorem ProcessTable.Valid.slot_eq_some (valid : table.Valid) :
    table.slot pid = some slot ↔ slot ∈ table.held ∧ slot.pid = pid := by
  have accepted {slot : ProcessSlot} : slot.isOf pid = true ↔
      slot.occupied = true ∧ slot.pid = pid := by
    rw [ProcessSlot.isOf, Bool.and_eq_true, beq_iff_eq]
  constructor
  · intro found
    obtain ⟨occupied, same⟩ := accepted.mp (find?_some found)
    exact ⟨mem_filter.mpr ⟨mem_of_find?_eq_some found, occupied⟩, same⟩
  rintro ⟨member, same⟩
  obtain ⟨inside, occupied⟩ := mem_filter.mp member
  cases found : table.slot pid with
  | none =>
    have refused := find?_eq_none.mp found slot inside
    exact absurd (accepted.mpr ⟨occupied, same⟩) refused
  | some other =>
    obtain ⟨occupied', same'⟩ := accepted.mp (find?_some found)
    have held : other ∈ table.held := mem_filter.mpr ⟨mem_of_find?_eq_some found, occupied'⟩
    rw [inj_on_of_nodup_map valid.unique held member (same'.trans same.symm)]

/-! ## What one operation can do -/

/-- The moves between states. -/
def moves : Option ProcessState → Option ProcessState → Bool
  | some .ready, some .running => true
  | some .runnable, some .running => true
  | some .running, some .runnable => true
  | some .running, some .blocked => true
  | some .running, some .exited => true
  | some .blocked, some .runnable => true
  | _, _ => false

/-- How an operation may change the process that it names. -/
structure ProcessSlot.Follows (slot slot' : ProcessSlot) : Prop where
  pid : slot'.pid = slot.pid
  state : slot'.state = slot.state ∨ moves slot.state slot'.state = true
  occupied : slot.occupied = true → slot'.occupied = true
  ended : slot.Ended → slot'.Ended

/-- The process an operation works on. -/
def Operation.subject : Operation → Option ProcessId
  | .spawn .. => none
  | .markRunning pid => some pid
  | .markRunnable pid => some pid
  | .markBlocked pid => some pid
  | .recordSyscall pid => some pid
  | .exit pid _ => some pid
  | .reap pid => some pid
  | .snapshot pid => some pid
  | .openFile pid .. => some pid
  | .openLocalSocket pid .. => some pid
  | .openSharedMemory pid .. => some pid
  | .openSharedMemoryReadOnly pid .. => some pid
  | .openDesktopEvents pid _ => some pid
  | .descriptorObject pid _ => some pid
  | .readableDescriptorObject pid _ => some pid
  | .setDescriptorObjectOffset pid .. => some pid
  | .descriptorObjects pid _ => some pid
  | .readWindow pid .. => some pid
  | .writeWindow pid .. => some pid
  | .advanceFd pid .. => some pid
  | .advanceDescriptorObject pid .. => some pid
  | .seekFd pid .. => some pid
  | .closeFd pid _ => some pid
  | .closeAllFiles pid => some pid
  | .nextSchedulableAfter _ => none
  | .childCount _ => none
  | .firstExitedChild _ => none

/-- The process id that a spawn hands out. -/
def issuedPid : Operation → Except ProcessError Reply → Option ProcessId
  | .spawn .., .ok (.pid pid) => some pid
  | _, _ => none

theorem issuedPid_of_subject (subject : operation.subject = some pid)
    (reply : Except ProcessError Reply) : issuedPid operation reply = none := by
  cases operation with
  | spawn => cases subject
  | _ => rfl

/-- The effects of an operation on `table`. -/
inductive Transition (table : ProcessTable N FDS) :
    Operation → Except ProcessError Reply → ProcessTable N FDS → Prop
  | kept {operation : Operation} {reply : Except ProcessError Reply}
      (quiet : issuedPid operation reply = none) : Transition table operation reply table
  | spawned {parent : Option ProcessId} {image : ProcessImage} {table' : ProcessTable N FDS}
      (length : table'.slots.length = table.slots.length)
      (held : table'.held.Perm (spawned FDS table.nextPid parent image :: table.held))
      (next : table'.nextPid.toNat = table.nextPid.toNat + 1)
      (count : table'.count = table.count + 1) :
      Transition table (.spawn parent image) (.ok (.pid table.nextPid)) table'
  | changed {operation : Operation} {reply : Except ProcessError Reply} {pid : ProcessId}
      {slot slot' : ProcessSlot} {rest : List ProcessSlot} {table' : ProcessTable N FDS}
      (subject : operation.subject = some pid) (named : slot.pid = pid)
      (follows : slot.Follows slot')
      (length : table'.slots.length = table.slots.length)
      (before : table.held.Perm (slot :: rest)) (after : table'.held.Perm (slot' :: rest))
      (next : table'.nextPid = table.nextPid) (count : table'.count = table.count) :
      Transition table operation reply table'
  | reaped {pid : ProcessId} {reply : Except ProcessError Reply} {slot : ProcessSlot}
      {rest : List ProcessSlot} {table' : ProcessTable N FDS}
      (named : slot.pid = pid) (exited : slot.state = some .exited)
      (length : table'.slots.length = table.slots.length)
      (before : table.held.Perm (slot :: rest)) (after : table'.held.Perm rest)
      (next : table'.nextPid = table.nextPid) (count : table'.count = table.count - 1) :
      Transition table (.reap pid) reply table'

theorem filter_singleton_occupied (occupied : slot.occupied = true) :
    [slot].filter (·.occupied) = [slot] := filter_cons_of_pos occupied

/-- The process found under an id may be replaced. -/
theorem replaced (found : table.slot pid = some slot) (slot' : ProcessSlot) :
    ∃ rest, (table.overwritten pid slot').length = table.slots.length ∧ slot.pid = pid ∧
      slot.occupied = true ∧ table.held.Perm (slot :: rest) ∧
      ((table.overwritten pid slot').filter (·.occupied)).Perm
        ([slot'].filter (·.occupied) ++ rest) := by
  have satisfies : slot.isOf pid = true := find?_some found
  rw [ProcessSlot.isOf, Bool.and_eq_true, beq_iff_eq] at satisfies
  obtain ⟨slots, rest, updated, before, after⟩ :=
    Slots.updateFirst_of_find found (fun _ => slot') (·.occupied)
  rw [filter_singleton_occupied satisfies.1] at before
  rw [overwritten, updated]
  exact ⟨rest, Slots.updateFirst_length updated, satisfies.2, satisfies.1, before, after⟩

section Acts

variable {α : Type} {act : ProcessSlot → Except ProcessError (α × ProcessSlot)}

/-- The act keeps to what an operation may change. -/
def Allowed (act : ProcessSlot → Except ProcessError (α × ProcessSlot)) : Prop :=
  ∀ slot value slot', act slot = .ok (value, slot') → slot.Follows slot'

theorem withSlot_transition (allowed : Allowed act) (subject : operation.subject = some pid)
    (reply : α → Reply) : Transition table operation ((table.withSlot pid act).2.map reply)
      (table.withSlot pid act).1 := by
  unfold withSlot
  split
  case h_1 => exact .kept (issuedPid_of_subject subject _)
  case h_2 slot found =>
  split
  case h_1 => exact .kept (issuedPid_of_subject subject _)
  case h_2 value slot' acted =>
  have follows := allowed slot value slot' acted
  obtain ⟨rest, length, named, occupied, before, after⟩ := replaced found slot'
  rw [filter_singleton_occupied (follows.occupied occupied)] at after
  exact .changed subject named follows length before after rfl rfl

/-- A change of state on its own. -/
theorem follows_state {state : ProcessState} (moved : moves slot.state (some state) = true)
    (live : state ≠ .exited) : slot.Follows { slot with state := some state } where
  pid := rfl
  state := .inr moved
  occupied _ := rfl
  ended was := by
    have alive : slot.state ≠ some .exited := by
      intro exited
      rw [exited] at moved
      cases state <;> cases moved
    have empty : ¬ slot.exitStatus.isSome = true := fun present => alive (was.mp present)
    exact ⟨fun present => absurd present empty, fun exited => absurd (Option.some.inj exited) live⟩

/-- A change of anything but the id, the state and the exit status. -/
theorem follows_same {slot' : ProcessSlot} (pid : slot'.pid = slot.pid)
    (state : slot'.state = slot.state) (status : slot'.exitStatus = slot.exitStatus) :
    slot.Follows slot' where
  pid := pid
  state := .inl state
  occupied was := by
    rw [ProcessSlot.occupied, state]
    exact was
  ended was := by
    rw [ProcessSlot.Ended, state, status]
    exact was

theorem allowed_whenRunning
    (running : ∀ slot value slot', slot.state = some .running → act slot = .ok (value, slot') →
      slot.Follows slot') : Allowed (whenRunning act) := by
  intro slot value slot' acted
  unfold whenRunning at acted
  split at acted
  case isTrue => cases acted
  case isFalse is =>
    rw [not_not] at is
    exact running slot value slot' is acted

theorem withDescriptors_transition
    (act : FileDescriptorTable → Except VfsError (α × FileDescriptorTable))
    (subject : operation.subject = some pid) (reply : α → Reply) :
    Transition table operation ((table.withDescriptors pid act).2.map reply)
      (table.withDescriptors pid act).1 := by
  refine withSlot_transition (fun slot value slot' acted => ?_) subject reply
  split at acted
  case isTrue => cases acted
  case isFalse =>
  obtain ⟨⟨value', descriptors⟩, -, done⟩ := Except.bind_ok acted
  cases done
  exact follows_same rfl rfl rfl

end Acts

theorem spawn_transition (parent : Option ProcessId) (image : ProcessImage) :
    Transition table (.spawn parent image) ((table.spawn parent image).2.map .pid)
      (table.spawn parent image).1 := by
  unfold spawn
  split
  case h_1 => exact .kept rfl
  case h_2 =>
  split
  case isTrue => exact .kept rfl
  case isFalse =>
  split
  case h_1 => exact .kept rfl
  case h_2 slots updated =>
  split
  case isFalse => exact .kept rfl
  case isTrue small =>
  obtain ⟨slot, rest, free, -, before, after⟩ := Slots.updateFirst_filter updated (·.occupied)
  have unused : [slot].filter (·.occupied) = [] := by
    rw [filter_cons_of_neg (by simpa using free), filter_nil]
  rw [unused] at before
  refine .spawned (Slots.updateFirst_length updated) ?_ ?_ rfl
  · exact after.trans (Perm.cons _ before.symm)
  · show (table.nextPid + 1#32).toNat = _
    exact Nat.mod_eq_of_lt small

theorem reap_transition (pid : ProcessId) :
    Transition table (.reap pid) ((table.reap pid).2.map .process) (table.reap pid).1 := by
  unfold reap
  split
  case h_1 => exact .kept rfl
  case h_2 slot found =>
  split
  case isTrue => exact .kept rfl
  case isFalse exited =>
  rw [not_not] at exited
  split
  case h_1 => exact .kept rfl
  case h_2 snapshot taken =>
    obtain ⟨rest, length, named, -, before, after⟩ := replaced found (.empty FDS)
    exact .reaped named exited length before after rfl rfl

/-- Everything that an operation can do. -/
theorem step_transition (operation : Operation) :
    Transition table operation (table.step operation).2 (table.step operation).1 := by
  cases operation with
  | spawn parent image => exact spawn_transition parent image
  | markRunning pid =>
    refine withSlot_transition (fun slot value slot' acted => ?_) rfl _
    split at acted
    case isFalse => cases acted
    case isTrue waiting =>
      cases acted
      exact follows_state (by rcases waiting with is | is <;> rw [is] <;> rfl) (by decide)
  | markRunnable pid =>
    refine withSlot_transition (fun slot value slot' acted => ?_) rfl _
    split at acted
    case isFalse => cases acted
    case isTrue stopped =>
      cases acted
      exact follows_state (by rcases stopped with is | is <;> rw [is] <;> rfl) (by decide)
  | markBlocked pid =>
    refine withSlot_transition (allowed_whenRunning fun slot value slot' running acted => ?_) rfl _
    cases acted
    exact follows_state (by rw [running]; rfl) (by decide)
  | recordSyscall pid =>
    refine withSlot_transition (allowed_whenRunning fun slot value slot' running acted => ?_) rfl _
    split at acted
    case isFalse => cases acted
    case isTrue =>
      cases acted
      exact follows_same rfl rfl rfl
  | exit pid status =>
    refine withSlot_transition (allowed_whenRunning fun slot value slot' running acted => ?_) rfl _
    cases acted
    exact ⟨rfl, .inr (by rw [running]; rfl), fun _ => rfl, fun _ => ⟨fun _ => rfl, fun _ => rfl⟩⟩
  | reap pid => exact reap_transition pid
  | closeAllFiles pid =>
    refine withSlot_transition (fun slot value slot' acted => ?_) rfl _
    split at acted
    case isTrue => cases acted
    case isFalse =>
      cases acted
      exact follows_same rfl rfl rfl
  | openFile pid node accessMode =>
    exact withDescriptors_transition (·.openWithMode node accessMode) rfl _
  | openLocalSocket pid index generation =>
    exact withDescriptors_transition (·.openLocalSocket index generation) rfl _
  | openSharedMemory pid index generation =>
    exact withDescriptors_transition (·.openSharedMemory index generation) rfl _
  | openSharedMemoryReadOnly pid index generation =>
    exact withDescriptors_transition (·.openSharedMemoryReadOnly index generation) rfl _
  | openDesktopEvents pid generation =>
    exact withDescriptors_transition (·.openDesktopEvents generation) rfl _
  | setDescriptorObjectOffset pid fd offset =>
    exact withDescriptors_transition (silently <| ·.setObjectOffset fd offset) rfl _
  | advanceFd pid fd length =>
    exact withDescriptors_transition (silently <| ·.advance fd length) rfl _
  | advanceDescriptorObject pid fd length objectSize =>
    exact withDescriptors_transition
      (silently <| ·.advanceObject fd length objectSize) rfl _
  | seekFd pid fd offset =>
    exact withDescriptors_transition (silently <| ·.seek fd offset) rfl _
  | closeFd pid fd =>
    exact withDescriptors_transition (silently <| ·.close fd) rfl _
  | snapshot | descriptorObject | readableDescriptorObject | descriptorObjects | readWindow
  | writeWindow | nextSchedulableAfter | childCount | firstExitedChild => exact .kept rfl

/-! ## The invariant -/

theorem Transition.valid (transition : Transition table operation reply table')
    (valid : table.Valid) : table'.Valid := by
  cases transition with
  | kept => exact valid
  | @spawned parent image _ length held next count =>
    have members {slot : ProcessSlot} (member : slot ∈ table'.held) :
        slot = ProcessTable.spawned FDS table.nextPid parent image ∨ slot ∈ table.held :=
      mem_cons.mp (held.mem_iff.mp member)
    refine ⟨length.trans valid.capacity, ?_, fun slot member => ?_, ?_, fun slot member => ?_⟩
    · rw [(held.map _).nodup_iff, map_cons, nodup_cons]
      refine ⟨fun again => ?_, valid.unique⟩
      obtain ⟨slot, member, same⟩ := mem_map.mp again
      have earlier := valid.issued slot member
      rw [same] at earlier
      exact lt_irrefl _ earlier
    · rcases members member with rfl | old
      · rw [next]
        exact Nat.lt_succ_self _
      · have earlier := valid.issued slot old
        omega
    · rw [count, valid.count, held.length_eq, length_cons]
    · rcases members member with rfl | old
      · exact ⟨nofun, nofun⟩
      · exact valid.ended slot old
  | @changed _ _ pid slot slot' rest _ subject named follows length before after next count =>
    have members {other : ProcessSlot} (member : other ∈ table'.held) :
        other = slot' ∨ other ∈ table.held := by
      rcases mem_cons.mp (after.mem_iff.mp member) with same | old
      · exact .inl same
      · exact .inr (before.mem_iff.mpr (mem_cons_of_mem _ old))
    have inside : slot ∈ table.held := before.mem_iff.mpr mem_cons_self
    have pids : (table'.held.map (·.pid)).Perm (table.held.map (·.pid)) := by
      refine (after.map _).trans (trans ?_ (before.map _).symm)
      rw [map_cons, map_cons, follows.pid]
    refine ⟨length.trans valid.capacity, pids.nodup_iff.mpr valid.unique, fun other member => ?_,
      ?_, fun other member => ?_⟩
    · rw [next]
      rcases members member with rfl | old
      · rw [follows.pid]
        exact valid.issued slot inside
      · exact valid.issued other old
    · rw [count, valid.count, after.length_eq, before.length_eq]
      rfl
    · rcases members member with rfl | old
      · exact follows.ended (valid.ended slot inside)
      · exact valid.ended other old
  | @reaped pid _ slot rest _ named exited length before after next count =>
    have members {other : ProcessSlot} (member : other ∈ table'.held) : other ∈ table.held :=
      before.mem_iff.mpr (mem_cons_of_mem _ (after.mem_iff.mp member))
    refine ⟨length.trans valid.capacity, ?_, fun other member => ?_, ?_, fun other member => ?_⟩
    · have unique := valid.unique
      rw [(before.map _).nodup_iff, map_cons, nodup_cons] at unique
      exact (after.map _).nodup_iff.mpr unique.2
    · rw [next]
      exact valid.issued other (members member)
    · rw [count, valid.count, after.length_eq, before.length_eq]
      rfl
    · exact valid.ended other (members member)

/-- The table after `ops` on a new one. -/
def reached (N FDS : Nat) (ops : List Operation) : ProcessTable N FDS :=
  Trace.run ProcessTable.step new ops

abbrev Event (N FDS : Nat) := Trace.Event (ProcessTable N FDS) Operation (Except ProcessError Reply)

def history (N FDS : Nat) (ops : List Operation) : List (Event N FDS) :=
  Trace.events ProcessTable.step new ops

/-- The process ids that were handed out. -/
def issuedPids (record : List (Event N FDS)) : List ProcessId :=
  record.filterMap fun e => issuedPid e.operation e.reply

/-! ## What a step means for one process id -/

/-- A process appears ready, moves between states, and disappears once it has exited. -/
def Moved : Option ProcessSlot → Option ProcessSlot → Prop
  | none, none => True
  | none, some slot' => slot'.state = some .ready
  | some slot, none => slot.state = some .exited
  | some slot, some slot' => slot'.state = slot.state ∨ moves slot.state slot'.state = true

theorem Moved.refl (slot : Option ProcessSlot) : Moved slot slot := by
  cases slot with
  | none => exact trivial
  | some slot => exact .inl rfl

/-- What an operation may do to the processes: ids that are handed out are new and their
processes have nothing open, states move as they may, and the other processes stay as they
are. -/
structure Orderly (e : Event N FDS) : Prop where
  moved : ∀ pid, Moved (e.before.slot pid) (e.after.slot pid)
  fresh : ∀ pid, issuedPid e.operation e.reply = some pid → e.before.slot pid = none ∧
    ∃ slot, e.after.slot pid = some slot ∧
      ∀ descriptor ∈ slot.descriptors.descriptors, descriptor.isOpen = false
  others : ∀ pid, e.operation.subject ≠ some pid → issuedPid e.operation e.reply ≠ some pid →
    e.after.slot pid = e.before.slot pid

section Exchange

variable {rest : List ProcessSlot} (valid : table.Valid)
include valid

theorem ProcessTable.Valid.others (held : table.held.Perm (slot :: rest)) :
    ∀ other ∈ rest, other.pid ≠ slot.pid := by
  have unique := valid.unique
  rw [(held.map _).nodup_iff, map_cons, nodup_cons] at unique
  exact fun other member same => unique.1 (same ▸ mem_map_of_mem member)

/-- What a table finds that holds `process`, if any, and others under other ids. -/
theorem ProcessTable.Valid.slot_of_held {process : Option ProcessSlot}
    (held : table.held.Perm (process.toList ++ rest)) (apart : ∀ other ∈ rest, other.pid ≠ pid)
    (named : ∀ slot, process = some slot → slot.pid = pid) : table.slot pid = process ∧
      ∀ other, pid ≠ other → ∀ slot, table.slot other = some slot ↔
        slot ∈ rest ∧ slot.pid = other := by
  have found (other : ProcessId) (slot : ProcessSlot) : table.slot other = some slot ↔
      (process = some slot ∨ slot ∈ rest) ∧ slot.pid = other := by
    rw [valid.slot_eq_some, held.mem_iff, mem_append, Option.mem_toList]
  refine ⟨Option.ext fun slot => ?_, fun other different slot => ?_⟩
  · rw [found]
    refine ⟨?_, fun same => ⟨.inl same, named slot same⟩⟩
    rintro ⟨same | inRest, is⟩
    · exact same
    · exact absurd is (apart slot inRest)
  · rw [found]
    exact and_congr_left fun is => or_iff_right fun same =>
      different ((named slot same).symm.trans is)

/-- The process of one id is exchanged. -/
theorem orderly_of_exchanged (valid' : table'.Valid) (old new : Option ProcessSlot)
    (before : table.held.Perm (old.toList ++ rest)) (after : table'.held.Perm (new.toList ++ rest))
    (apart : ∀ other ∈ rest, other.pid ≠ pid)
    (named : ∀ slot, old = some slot ∨ new = some slot → slot.pid = pid) (moved : Moved old new)
    (fresh : ∀ other, issuedPid operation reply = some other → other = pid ∧ old = none ∧
      ∃ slot, new = some slot ∧ ∀ descriptor ∈ slot.descriptors.descriptors,
        descriptor.isOpen = false)
    (subject : operation.subject = some pid ∨ issuedPid operation reply = some pid) :
    Orderly ⟨table, operation, reply, table'⟩ := by
  obtain ⟨found, others⟩ := valid.slot_of_held before apart fun slot is => named slot (.inl is)
  obtain ⟨found', others'⟩ := valid'.slot_of_held after apart fun slot is => named slot (.inr is)
  have same (other : ProcessId) (different : pid ≠ other) : table'.slot other = table.slot other :=
    Option.ext fun slot => (others' other different slot).trans (others other different slot).symm
  refine ⟨fun other => ?_, fun other issued => ?_, fun other quiet silent => same other ?_⟩
  · show Moved (table.slot other) (table'.slot other)
    by_cases here : pid = other
    · rw [← here, found, found']
      exact moved
    · rw [same other here]
      exact Moved.refl _
  · obtain ⟨rfl, none, slot, some, closed⟩ := fresh other issued
    exact ⟨found.trans none, slot, found'.trans some, closed⟩
  · rintro rfl
    exact subject.elim quiet silent

end Exchange

theorem Transition.orderly (transition : Transition table operation reply table')
    (valid : table.Valid) : Orderly ⟨table, operation, reply, table'⟩ := by
  have valid' := transition.valid valid
  cases transition with
  | kept quiet =>
    exact ⟨fun pid => Moved.refl _, fun pid issued => absurd (quiet.symm.trans issued) nofun,
      fun _ _ _ => rfl⟩
  | @spawned parent image _ length held next count =>
    refine orderly_of_exchanged valid valid' none (some _) (.refl _) held (valid'.others held)
      (by simp) rfl (fun other issued => ?_) (.inr rfl)
    cases issued
    refine ⟨rfl, rfl, _, rfl, fun descriptor member => ?_⟩
    rw [eq_of_mem_replicate member]
    rfl
  | @changed _ _ pid slot slot' rest _ subject named follows length before after next count =>
    have quiet := issuedPid_of_subject subject reply
    subst named
    exact orderly_of_exchanged valid valid' (some slot) (some slot') before after
      (valid.others before) (by simp [or_imp, forall_and, follows.pid]) follows.state
      (fun other issued => absurd (quiet.symm.trans issued) nofun) (.inl subject)
  | @reaped pid _ slot rest _ named exited length before after next count =>
    subst named
    exact orderly_of_exchanged valid valid' (some slot) none before after (valid.others before)
      (by simp) exited nofun (.inl rfl)

/-! ## Reachable tables -/

/-- The table and its history, with the ids handed out so far. -/
structure Recorded (table : ProcessTable N FDS) (record : List (Event N FDS)) : Prop where
  valid : table.Valid
  orderly : ∀ e ∈ record, Orderly e
  distinct : (issuedPids record).Nodup
  earlier : ∀ pid ∈ issuedPids record, pid.toNat < table.nextPid.toNat

theorem Transition.issued (transition : Transition table operation reply table') :
    (issuedPid operation reply = none ∧ table'.nextPid = table.nextPid) ∨
      (issuedPid operation reply = some table.nextPid ∧
        table'.nextPid.toNat = table.nextPid.toNat + 1) := by
  cases transition with
  | kept quiet => exact .inl ⟨quiet, rfl⟩
  | spawned _ _ next _ => exact .inr ⟨rfl, next⟩
  | changed subject _ _ _ _ _ next _ => exact .inl ⟨issuedPid_of_subject subject _, next⟩
  | reaped _ _ _ _ _ next _ => exact .inl ⟨rfl, next⟩

theorem Recorded.step {record : List (Event N FDS)} (recorded : Recorded table record)
    (operation : Operation) : Recorded (table.step operation).1
      (record ++ [Trace.event ProcessTable.step table operation]) := by
  have transition : Transition table operation _ _ := step_transition operation
  have snoc : issuedPids (record ++ [Trace.event ProcessTable.step table operation]) =
      issuedPids record ++ (issuedPid operation (table.step operation).2).toList := by
    unfold issuedPids
    rw [filterMap_append, filterMap_cons, Trace.event]
    cases issuedPid operation (table.step operation).2 <;> rfl
  refine ⟨transition.valid recorded.valid,
    Trace.forall_mem_snoc recorded.orderly (transition.orderly recorded.valid), ?_, ?_⟩
  · rw [snoc]
    rcases transition.issued with ⟨none, -⟩ | ⟨some, -⟩
    · rw [none, Option.toList_none, append_nil]
      exact recorded.distinct
    rw [some]
    refine nodup_append.mpr ⟨recorded.distinct, nodup_singleton _, fun pid old other new same => ?_⟩
    have below := recorded.earlier pid old
    rw [same, mem_singleton.mp new] at below
    exact lt_irrefl _ below
  · rw [snoc]
    intro pid member
    rcases transition.issued with ⟨none, next⟩ | ⟨some, next⟩
    · rw [none, Option.toList_none, append_nil] at member
      rw [next]
      exact recorded.earlier pid member
    rw [some] at member
    rcases mem_append.mp member with old | new
    · have below := recorded.earlier pid old
      omega
    · rw [mem_singleton.mp new]
      omega

theorem reached_recorded (ops : List Operation) :
    Recorded (reached N FDS ops) (history N FDS ops) :=
  Trace.holds_always Recorded (fun operation recorded => recorded.step operation)
    ⟨new_valid, forall_mem_nil _, nodup_nil, forall_mem_nil _⟩ ops

/-- What holds of the entries at any time. -/
structure ProcessTable.Consistent (table : ProcessTable N FDS) : Prop where
  unique : ∀ (i j : Nat) (first second : ProcessSlot), table.slots[i]? = some first →
    table.slots[j]? = some second → first.occupied = true → second.occupied = true →
    first.pid = second.pid → i = j
  count : table.count = table.slots.countP (·.occupied)
  capacity : table.count ≤ N
  ended : ∀ slot ∈ table.slots, slot.occupied = true →
    (slot.exitStatus.isSome ↔ slot.state = some .exited)

theorem ProcessTable.Valid.apart (valid : table.Valid) : table.slots.Pairwise fun first second =>
      first.occupied = true → second.occupied = true → first.pid ≠ second.pid :=
  pairwise_filter.mp (pairwise_map.mp valid.unique)

theorem ProcessTable.Valid.consistent (valid : table.Valid) : table.Consistent where
  unique i j first second atFirst atSecond occupied occupied' same := by
    obtain ⟨below, rfl⟩ := List.getElem?_eq_some_iff.mp atFirst
    obtain ⟨below', rfl⟩ := List.getElem?_eq_some_iff.mp atSecond
    have apart := pairwise_iff_getElem.mp valid.apart
    rcases lt_trichotomy i j with before | equal | after
    · exact absurd same (apart i j below below' before occupied occupied')
    · exact equal
    · exact absurd same.symm (apart j i below' below after occupied' occupied)
  count := by
    rw [valid.count, countP_eq_length_filter]
    rfl
  capacity := by
    rw [valid.count]
    exact (length_filter_le _ _).trans_eq valid.capacity
  ended slot member occupied := valid.ended slot (mem_filter.mpr ⟨member, occupied⟩)

/-- For every sequence of operations with any arguments: no process id is handed out twice,
the entries are consistent, and every operation was orderly. -/
theorem process_table_orderly (N FDS : Nat) (ops : List Operation) :
    (issuedPids (history N FDS ops)).Nodup ∧ (reached N FDS ops).Consistent ∧
      ∀ e ∈ history N FDS ops, Orderly e :=
  have recorded := reached_recorded ops
  ⟨recorded.distinct, recorded.valid.consistent, recorded.orderly⟩

end SlopOS.Process
