import SlopOS.Vfs.Descriptors
import SlopOS.Base.Trace

/-!
# The process table

`crates/process/src/lib.rs`: a fixed array of slots, each free or with one process and its
descriptor table.  Process ids come from a counter.  Operations name a process by its id, and
find the first occupied slot that carries it.

Every operation returns the table beside its result.  A table of descriptors is a list here, and
a snapshot of its objects returns those written to the front of the caller's buffer.
-/

namespace SlopOS.Process

open Vfs

abbrev ProcessId := BitVec 32

inductive ProcessState where
  | ready
  | running
  | blocked
  | runnable
  | exited
  deriving DecidableEq, Repr

structure ProcessImage where
  addressSpaceRoot : BitVec 64
  entry : BitVec 64
  stackPointer : BitVec 64
  stackTop : BitVec 64
  userMemoryStart : BitVec 64
  userMemoryEnd : BitVec 64
  deriving DecidableEq, Repr

structure ProcessSnapshot where
  pid : ProcessId
  parent : Option ProcessId
  state : ProcessState
  image : ProcessImage
  exitStatus : Option (BitVec 32)
  syscallCount : BitVec 64
  deriving DecidableEq, Repr

inductive ProcessError where
  | invalidImage
  | tableFull
  | pidExhausted
  | notFound
  | invalidState
  | counterOverflow
  | vfs (error : VfsError)
  deriving DecidableEq, Repr

structure ProcessSlot where
  pid : ProcessId
  parent : Option ProcessId
  state : Option ProcessState
  image : ProcessImage
  exitStatus : Option (BitVec 32)
  syscallCount : BitVec 64
  descriptors : FileDescriptorTable
  deriving DecidableEq, Repr

namespace ProcessSlot

def empty (FDS : Nat) : ProcessSlot where
  pid := 0#32
  parent := none
  state := none
  image := ⟨0#64, 0#64, 0#64, 0#64, 0#64, 0#64⟩
  exitStatus := none
  syscallCount := 0#64
  descriptors := .new FDS

def snapshot (slot : ProcessSlot) : Option ProcessSnapshot :=
  slot.state.map fun state =>
    ⟨slot.pid, slot.parent, state, slot.image, slot.exitStatus, slot.syscallCount⟩

def occupied (slot : ProcessSlot) : Bool := slot.state.isSome

/-- The slot is the one of process `pid`. -/
def isOf (pid : ProcessId) (slot : ProcessSlot) : Bool := slot.occupied && slot.pid == pid

def schedulable (slot : ProcessSlot) : Bool :=
  slot.state = some .ready || slot.state = some .runnable

end ProcessSlot

structure ProcessTable (N FDS : Nat) where
  slots : List ProcessSlot
  nextPid : ProcessId
  count : Nat
  deriving DecidableEq, Repr

def validateImage (image : ProcessImage) : Except ProcessError Unit :=
  if image.addressSpaceRoot = 0#64 ∨ image.addressSpaceRoot &&& 0xfff#64 ≠ 0#64 ∨
      image.userMemoryEnd ≤ image.userMemoryStart ∨ image.entry < image.userMemoryStart ∨
      image.userMemoryEnd ≤ image.entry ∨ image.stackPointer ≤ image.userMemoryEnd ∨
      image.stackTop < image.stackPointer ∨ image.stackTop ≤ image.userMemoryEnd then
    throw .invalidImage
  else .ok ()

namespace ProcessTable

variable {N FDS : Nat} {α : Type}

def new : ProcessTable N FDS := ⟨List.replicate N (.empty FDS), 1#32, 0⟩

/-- A table with what the operation on it returned. -/
abbrev Outcome (N FDS : Nat) (α : Type) := ProcessTable N FDS × Except ProcessError α

variable (table : ProcessTable N FDS)

def slot (pid : ProcessId) : Option ProcessSlot := table.slots.find? (·.isOf pid)

/-- The slot of a new process. -/
def spawned (FDS : Nat) (pid : ProcessId) (parent : Option ProcessId) (image : ProcessImage) :
    ProcessSlot where
  pid
  parent
  state := some .ready
  image
  exitStatus := none
  syscallCount := 0#64
  descriptors := .new FDS

def spawn (parent : Option ProcessId) (image : ProcessImage) : Outcome N FDS ProcessId :=
  match validateImage image with
  | .error error => (table, .error error)
  | .ok () =>
      if parent.any fun parent => (table.slot parent).isNone then (table, .error .notFound)
      else
        match Slots.updateFirst (fun slot => !slot.occupied)
            (fun _ => spawned FDS table.nextPid parent image) table.slots with
        | none => (table, .error .tableFull)
        | some slots =>
            if table.nextPid.toNat + 1 < 2 ^ 32 then
              (⟨slots, table.nextPid + 1#32, table.count + 1⟩, .ok table.nextPid)
            else (table, .error .pidExhausted)

/-! ## One process -/

variable (pid : ProcessId)

/-- The slots with the one of `pid` overwritten. -/
def overwritten (slot : ProcessSlot) : List ProcessSlot :=
  (Slots.updateFirst (·.isOf pid) (fun _ => slot) table.slots).getD table.slots

variable (act : ProcessSlot → Except ProcessError (α × ProcessSlot))

/-- An operation on the slot of `pid`: it fails and leaves the slot, or replaces it. -/
def withSlot : Outcome N FDS α :=
  match table.slot pid with
  | none => (table, .error .notFound)
  | some slot =>
      match act slot with
      | .error error => (table, .error error)
      | .ok (value, slot') => ({ table with slots := table.overwritten pid slot' }, .ok value)

def markRunning : Outcome N FDS Unit :=
  table.withSlot pid fun slot =>
    if slot.state = some .ready ∨ slot.state = some .runnable then
      .ok ((), { slot with state := some .running })
    else throw .invalidState

def markRunnable : Outcome N FDS Unit :=
  table.withSlot pid fun slot =>
    if slot.state = some .running ∨ slot.state = some .blocked then
      .ok ((), { slot with state := some .runnable })
    else throw .invalidState

/-- `running_slot_mut`. -/
def whenRunning (slot : ProcessSlot) : Except ProcessError (α × ProcessSlot) :=
  if slot.state ≠ some .running then throw .invalidState else act slot

def markBlocked : Outcome N FDS Unit :=
  table.withSlot pid <| whenRunning fun slot => .ok ((), { slot with state := some .blocked })

def recordSyscall : Outcome N FDS (BitVec 64) :=
  table.withSlot pid <| whenRunning fun slot =>
    if slot.syscallCount.toNat + 1 < 2 ^ 64 then
      .ok (slot.syscallCount + 1#64, { slot with syscallCount := slot.syscallCount + 1#64 })
    else throw .counterOverflow

def exit (status : BitVec 32) : Outcome N FDS Unit :=
  table.withSlot pid <| whenRunning fun slot =>
    .ok ((), { slot with state := some .exited, exitStatus := some status })

def reap : Outcome N FDS ProcessSnapshot :=
  match table.slot pid with
  | none => (table, .error .notFound)
  | some slot =>
      if slot.state ≠ some .exited then (table, .error .invalidState)
      else
        match slot.snapshot with
        | none => (table, .error .notFound)
        | some snapshot =>
            ({ table with
                slots := table.overwritten pid (.empty FDS)
                count := table.count - 1 }, .ok snapshot)

def snapshot : Except ProcessError ProcessSnapshot :=
  match (table.slot pid).bind ProcessSlot.snapshot with
  | none => throw .notFound
  | some snapshot => .ok snapshot

/-! ## Descriptors -/

/-- `live_slot`: the process has not exited. -/
def liveSlot : Except ProcessError ProcessSlot :=
  match table.slot pid with
  | none => throw .notFound
  | some slot => if slot.state = some .exited then throw .invalidState else .ok slot

/-- `map_err(ProcessError::Vfs)`. -/
def lift (result : Except VfsError α) : Except ProcessError α := result.mapError .vfs

/-- `live_slot_mut`: an operation on the descriptors of a process that has not exited. -/
def withDescriptors (act : FileDescriptorTable → Except VfsError (α × FileDescriptorTable)) :
    Outcome N FDS α :=
  table.withSlot pid fun slot =>
    if slot.state = some .exited then throw .invalidState
    else do
      let (value, descriptors) ← lift (act slot.descriptors)
      return (value, { slot with descriptors })

/-- An operation whose only result is the table. -/
def silently (result : Except VfsError FileDescriptorTable) :
    Except VfsError (Unit × FileDescriptorTable) :=
  result.map fun descriptors => ((), descriptors)

def openFile (node : FileNode) (accessMode : AccessMode) : Outcome N FDS Nat :=
  table.withDescriptors pid (·.openWithMode node accessMode)

variable (index generation : BitVec 16)

def openLocalSocket : Outcome N FDS Nat :=
  table.withDescriptors pid (·.openLocalSocket index generation)

def openSharedMemory : Outcome N FDS Nat :=
  table.withDescriptors pid (·.openSharedMemory index generation)

def openSharedMemoryReadOnly : Outcome N FDS Nat :=
  table.withDescriptors pid (·.openSharedMemoryReadOnly index generation)

def openDesktopEvents (generation : BitVec 64) : Outcome N FDS Nat :=
  table.withDescriptors pid (·.openDesktopEvents generation)

section

variable (fd : Nat)

def descriptorObject : Except ProcessError DescriptorObject := do
  lift ((← table.liveSlot pid).descriptors.object fd)

def readableDescriptorObject : Except ProcessError (DescriptorObject × BitVec 64) := do
  lift ((← table.liveSlot pid).descriptors.readableObject fd)

def setDescriptorObjectOffset (offset : BitVec 64) : Outcome N FDS Unit :=
  table.withDescriptors pid fun descriptors => silently (descriptors.setObjectOffset fd offset)

end

def descriptorObjects (size : Nat) : Except ProcessError (List DescriptorObject) :=
  match table.slot pid with
  | none => throw .notFound
  | some slot => .ok (slot.descriptors.snapshotObjects size)

def readWindow (fd requested : Nat) : Except ProcessError Window := do
  lift ((← table.liveSlot pid).descriptors.readWindow fd requested)

def writeWindow (fd requested : Nat) : Except ProcessError Window := do
  lift ((← table.liveSlot pid).descriptors.writeWindow fd requested)

def advanceFd (fd length : Nat) : Outcome N FDS Unit :=
  table.withDescriptors pid fun descriptors => silently (descriptors.advance fd length)

def advanceDescriptorObject (fd length : Nat) (objectSize : BitVec 64) : Outcome N FDS Unit :=
  table.withDescriptors pid fun descriptors =>
    silently (descriptors.advanceObject fd length objectSize)

def seekFd (fd : Nat) (offset : BitVec 64) : Outcome N FDS Unit :=
  table.withDescriptors pid fun descriptors => silently (descriptors.seek fd offset)

def closeFd (fd : Nat) : Outcome N FDS Unit :=
  table.withDescriptors pid fun descriptors => silently (descriptors.close fd)

def closeAllFiles : Outcome N FDS Nat :=
  table.withSlot pid fun slot =>
    if slot.state ≠ some .exited then throw .invalidState
    else
      let (closed, descriptors) := slot.descriptors.closeAll
      .ok (closed, { slot with descriptors })

/-! ## Scheduling and children -/

/-- `Iterator::min`. -/
def least (pids : List ProcessId) : Option ProcessId :=
  pids.foldl (fun found pid => some (match found with
    | none => pid
    | some other => if pid < other then pid else other)) none

def nextSchedulableAfter : Option ProcessId :=
  let waiting := (table.slots.filter (·.schedulable)).map (·.pid)
  (least (waiting.filter (pid < ·))).or (least waiting)

def childCount (parent : ProcessId) : Nat :=
  table.slots.countP fun slot => slot.occupied && slot.parent == some parent

def firstExitedChild (parent : ProcessId) : Option ProcessSnapshot :=
  let exited := table.slots.filter fun slot =>
    slot.parent == some parent && slot.state == some .exited
  (exited.filterMap ProcessSlot.snapshot).foldl (fun found process => some (match found with
    | none => process
    | some other => if process.pid < other.pid then process else other)) none

end ProcessTable

/-! ## Operations as data -/

inductive Operation where
  | spawn (parent : Option ProcessId) (image : ProcessImage)
  | markRunning (pid : ProcessId)
  | markRunnable (pid : ProcessId)
  | markBlocked (pid : ProcessId)
  | recordSyscall (pid : ProcessId)
  | exit (pid : ProcessId) (status : BitVec 32)
  | reap (pid : ProcessId)
  | snapshot (pid : ProcessId)
  | openFile (pid : ProcessId) (node : FileNode) (accessMode : AccessMode)
  | openLocalSocket (pid : ProcessId) (index generation : BitVec 16)
  | openSharedMemory (pid : ProcessId) (index generation : BitVec 16)
  | openSharedMemoryReadOnly (pid : ProcessId) (index generation : BitVec 16)
  | openDesktopEvents (pid : ProcessId) (generation : BitVec 64)
  | descriptorObject (pid : ProcessId) (fd : Nat)
  | readableDescriptorObject (pid : ProcessId) (fd : Nat)
  | setDescriptorObjectOffset (pid : ProcessId) (fd : Nat) (offset : BitVec 64)
  | descriptorObjects (pid : ProcessId) (size : Nat)
  | readWindow (pid : ProcessId) (fd requested : Nat)
  | writeWindow (pid : ProcessId) (fd requested : Nat)
  | advanceFd (pid : ProcessId) (fd length : Nat)
  | advanceDescriptorObject (pid : ProcessId) (fd length : Nat) (objectSize : BitVec 64)
  | seekFd (pid : ProcessId) (fd : Nat) (offset : BitVec 64)
  | closeFd (pid : ProcessId) (fd : Nat)
  | closeAllFiles (pid : ProcessId)
  | nextSchedulableAfter (pid : ProcessId)
  | childCount (parent : ProcessId)
  | firstExitedChild (parent : ProcessId)

inductive Reply where
  | done
  | pid (pid : ProcessId)
  | word (value : BitVec 64)
  | number (value : Nat)
  | process (snapshot : ProcessSnapshot)
  | object (object : DescriptorObject)
  | positioned (object : DescriptorObject) (offset : BitVec 64)
  | objects (objects : List DescriptorObject)
  | window (window : Window)
  | nextPid (pid : Option ProcessId)
  | child (snapshot : Option ProcessSnapshot)
  deriving DecidableEq, Repr

namespace ProcessTable

variable {N FDS : Nat}

def step (table : ProcessTable N FDS) :
    Operation → ProcessTable N FDS × Except ProcessError Reply
  | .spawn parent image => (table.spawn parent image).map id (·.map .pid)
  | .markRunning pid => (table.markRunning pid).map id (·.map fun _ => .done)
  | .markRunnable pid => (table.markRunnable pid).map id (·.map fun _ => .done)
  | .markBlocked pid => (table.markBlocked pid).map id (·.map fun _ => .done)
  | .recordSyscall pid => (table.recordSyscall pid).map id (·.map .word)
  | .exit pid status => (table.exit pid status).map id (·.map fun _ => .done)
  | .reap pid => (table.reap pid).map id (·.map .process)
  | .snapshot pid => (table, (table.snapshot pid).map .process)
  | .openFile pid node accessMode => (table.openFile pid node accessMode).map id (·.map .number)
  | .openLocalSocket pid index generation =>
      (table.openLocalSocket pid index generation).map id (·.map .number)
  | .openSharedMemory pid index generation =>
      (table.openSharedMemory pid index generation).map id (·.map .number)
  | .openSharedMemoryReadOnly pid index generation =>
      (table.openSharedMemoryReadOnly pid index generation).map id (·.map .number)
  | .openDesktopEvents pid generation =>
      (table.openDesktopEvents pid generation).map id (·.map .number)
  | .descriptorObject pid fd => (table, (table.descriptorObject pid fd).map .object)
  | .readableDescriptorObject pid fd =>
      (table, (table.readableDescriptorObject pid fd).map fun (object, offset) =>
        .positioned object offset)
  | .setDescriptorObjectOffset pid fd offset =>
      (table.setDescriptorObjectOffset pid fd offset).map id (·.map fun _ => .done)
  | .descriptorObjects pid size => (table, (table.descriptorObjects pid size).map .objects)
  | .readWindow pid fd requested => (table, (table.readWindow pid fd requested).map .window)
  | .writeWindow pid fd requested => (table, (table.writeWindow pid fd requested).map .window)
  | .advanceFd pid fd length => (table.advanceFd pid fd length).map id (·.map fun _ => .done)
  | .advanceDescriptorObject pid fd length objectSize =>
      (table.advanceDescriptorObject pid fd length objectSize).map id (·.map fun _ => .done)
  | .seekFd pid fd offset => (table.seekFd pid fd offset).map id (·.map fun _ => .done)
  | .closeFd pid fd => (table.closeFd pid fd).map id (·.map fun _ => .done)
  | .closeAllFiles pid => (table.closeAllFiles pid).map id (·.map .number)
  | .nextSchedulableAfter pid => (table, .ok (.nextPid (table.nextSchedulableAfter pid)))
  | .childCount parent => (table, .ok (.number (table.childCount parent)))
  | .firstExitedChild parent => (table, .ok (.child (table.firstExitedChild parent)))

end ProcessTable

end SlopOS.Process
