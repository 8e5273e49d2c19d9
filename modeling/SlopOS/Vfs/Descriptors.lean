import SlopOS.Vfs.Paths

/-!
# Descriptor tables

One table per process.  A descriptor names a file, a socket, a shared-memory object or
the desktop event stream, and carries the access mode it was opened with.
-/

namespace SlopOS.Vfs

def FIRST_FILE_DESCRIPTOR : Nat := 3

structure FileNode where
  filesystemId : BitVec 16
  nodeId : BitVec 64
  size : BitVec 64
  deriving DecidableEq, Repr

inductive DescriptorObject where
  | file (node : FileNode)
  | localSocket (index generation : BitVec 16)
  | sharedMemory (index generation : BitVec 16)
  | desktopEvents
  deriving DecidableEq, Repr

def DescriptorObject.isFile : DescriptorObject → Bool
  | .file _ => true
  | _ => false

inductive AccessMode where
  | readOnly
  | writeOnly
  | readWrite
  deriving DecidableEq, Repr

def AccessMode.readable : AccessMode → Bool
  | .readOnly => true
  | .writeOnly => false
  | .readWrite => true

def AccessMode.writable : AccessMode → Bool
  | .readOnly => false
  | .writeOnly => true
  | .readWrite => true

structure Descriptor where
  object : DescriptorObject
  offset : BitVec 64
  accessMode : AccessMode
  isOpen : Bool
  deriving DecidableEq, Repr

def Descriptor.EMPTY : Descriptor := ⟨.file ⟨0#16, 0#64, 0#64⟩, 0#64, .readOnly, false⟩

/-- The offset `length` bytes further, if it is a 64-bit number. -/
def Descriptor.advanced (descriptor : Descriptor) (length : Nat) : Except VfsError (BitVec 64) :=
  if descriptor.offset.toNat + length < 2 ^ 64 then .ok (descriptor.offset + BitVec.ofNat 64 length)
  else throw .invalidOffset

/-- `ReadWindow` and `WriteWindow`: the part of a file a request covers. -/
structure Window where
  node : FileNode
  offset : BitVec 64
  length : Nat
  deriving DecidableEq, Repr

structure FileDescriptorTable where
  descriptors : List Descriptor
  deriving DecidableEq, Repr

namespace FileDescriptorTable

def new (capacity : Nat) : FileDescriptorTable :=
  ⟨List.replicate capacity Descriptor.EMPTY⟩

section

variable (table : FileDescriptorTable)

/-- The first closed slot; a table is far smaller than the descriptor numbers. -/
def openObject (object : DescriptorObject)
    (accessMode : AccessMode) : Except VfsError (Nat × FileDescriptorTable) :=
  match table.descriptors.findIdx? (fun descriptor => !descriptor.isOpen) with
  | none => throw .fileTableFull
  | some index => .ok (FIRST_FILE_DESCRIPTOR + index,
      ⟨table.descriptors.set index ⟨object, 0#64, accessMode, true⟩⟩)

def openWithMode (node : FileNode)
    (accessMode : AccessMode) : Except VfsError (Nat × FileDescriptorTable) :=
  table.openObject (.file node) accessMode

variable (fd : Nat)

/-- `descriptor`: the open descriptor behind a number. -/
def descriptor : Except VfsError Descriptor :=
  if fd < FIRST_FILE_DESCRIPTOR then throw .badFileDescriptor
  else
    match table.descriptors[fd - FIRST_FILE_DESCRIPTOR]? with
    | some descriptor => if descriptor.isOpen then .ok descriptor else throw .badFileDescriptor
    | none => throw .badFileDescriptor

/-- Writes through `descriptor_mut`. -/
def replace (descriptor : Descriptor) : FileDescriptorTable :=
  ⟨table.descriptors.set (fd - FIRST_FILE_DESCRIPTOR) descriptor⟩

/-- The cursor of an event stream starts at the generation it is opened at. -/
def openDesktopEvents (generation : BitVec 64) :
    Except VfsError (Nat × FileDescriptorTable) := do
  let (fd, table) ← table.openObject .desktopEvents .readOnly
  let descriptor ← table.descriptor fd
  return (fd, table.replace fd { descriptor with offset := generation })

def close : Except VfsError FileDescriptorTable := do
  let _ ← table.descriptor fd
  return table.replace fd Descriptor.EMPTY

section

variable (index generation : BitVec 16)

def openLocalSocket : Except VfsError (Nat × FileDescriptorTable) :=
  table.openObject (.localSocket index generation) .readWrite

def openSharedMemory : Except VfsError (Nat × FileDescriptorTable) :=
  table.openObject (.sharedMemory index generation) .readWrite

def openSharedMemoryReadOnly : Except VfsError (Nat × FileDescriptorTable) :=
  table.openObject (.sharedMemory index generation) .readOnly

end

/-! ## Windows and offsets -/

section

variable (fd requested : Nat)

/-- The two windows differ in the access they ask for. -/
def window (permits : AccessMode → Bool) (refusal : VfsError) :
    Except VfsError Window := do
  let descriptor ← table.descriptor fd
  if permits descriptor.accessMode = false then throw refusal
  match descriptor.object with
  | .file node =>
      return ⟨node, descriptor.offset, min requested (node.size.toNat - descriptor.offset.toNat)⟩
  | _ => throw .badFileDescriptor

def readWindow : Except VfsError Window :=
  table.window fd requested AccessMode.readable .notReadable

def writeWindow : Except VfsError Window :=
  table.window fd requested AccessMode.writable .notWritable

end

def advance (fd length : Nat) :
    Except VfsError FileDescriptorTable := do
  let descriptor ← table.descriptor fd
  let newOffset ← descriptor.advanced length
  match descriptor.object with
  | .file node =>
      if newOffset > node.size then throw .invalidOffset
      return table.replace fd { descriptor with offset := newOffset }
  | _ => throw .badFileDescriptor

def seek (offset : BitVec 64) : Except VfsError FileDescriptorTable := do
  let descriptor ← table.descriptor fd
  match descriptor.object with
  | .file node =>
      if offset > node.size then throw .invalidOffset
      return table.replace fd { descriptor with offset }
  | _ => throw .badFileDescriptor

def object : Except VfsError DescriptorObject := do
  return (← table.descriptor fd).object

def readableObject : Except VfsError (DescriptorObject × BitVec 64) := do
  let descriptor ← table.descriptor fd
  if descriptor.accessMode.readable = false then throw .notReadable
  return (descriptor.object, descriptor.offset)

def advanceObject (fd length : Nat)
    (objectSize : BitVec 64) : Except VfsError FileDescriptorTable := do
  let descriptor ← table.descriptor fd
  let newOffset ← descriptor.advanced length
  if newOffset > objectSize then throw .invalidOffset
  return table.replace fd { descriptor with offset := newOffset }

def setObjectOffset (offset : BitVec 64) : Except VfsError FileDescriptorTable := do
  let descriptor ← table.descriptor fd
  if descriptor.accessMode.readable = false ∨ descriptor.object.isFile then
    throw .badFileDescriptor
  return table.replace fd { descriptor with offset }

/-- The open objects that fit into an output of `size` entries. -/
def snapshotObjects (size : Nat) : List DescriptorObject :=
  ((table.descriptors.filter (·.isOpen)).map (·.object)).take size

/-- The number of descriptors that were open, with the table that has none. -/
def closeAll : Nat × FileDescriptorTable :=
  (table.descriptors.countP (·.isOpen),
    ⟨table.descriptors.map fun descriptor =>
      if descriptor.isOpen then Descriptor.EMPTY else descriptor⟩)

end

/-! ## Opening -/

variable {table : FileDescriptorTable} {object : DescriptorObject} {accessMode : AccessMode}

/-- Opening takes a slot that was closed and leaves the others alone. -/
theorem openObject_ok {table' : FileDescriptorTable} {fd : Nat}
    (opened : table.openObject object accessMode = .ok (fd, table')) :
    ∃ index closed, fd = FIRST_FILE_DESCRIPTOR + index ∧ table.descriptors[index]? = some closed ∧
      closed.isOpen = false ∧
      table'.descriptors = table.descriptors.set index ⟨object, 0#64, accessMode, true⟩ := by
  unfold openObject at opened
  split at opened
  · exact absurd opened Except.throw_ne_ok
  next index found =>
  obtain ⟨bound, closed, -⟩ := List.findIdx?_eq_some_iff_getElem.mp found
  cases opened
  rw [Bool.not_eq_true'] at closed
  exact ⟨index, _, rfl, List.getElem?_eq_getElem bound, closed, rfl⟩

/-- Opening fails only when every slot is taken. -/
theorem openObject_error {e : VfsError}
    (refused : table.openObject object accessMode = .error e) :
    ∀ descriptor ∈ table.descriptors, descriptor.isOpen = true := by
  unfold openObject at refused
  split at refused
  · next absent =>
    intro descriptor member
    have taken := List.findIdx?_eq_none_iff.mp absent descriptor member
    rwa [Bool.not_eq_false'] at taken
  · cases refused

/-- A descriptor that was just opened is found under its number. -/
theorem descriptor_set {index : Nat} {descriptor : Descriptor}
    (bound : index < table.descriptors.length) (isOpen : descriptor.isOpen = true) :
    (mk (table.descriptors.set index descriptor)).descriptor
      (FIRST_FILE_DESCRIPTOR + index) = .ok descriptor := by
  unfold FileDescriptorTable.descriptor
  rw [if_neg (not_lt.mpr (Nat.le_add_right _ _)), Nat.add_sub_cancel_left,
    List.getElem?_set_self bound]
  dsimp only
  rw [if_pos isOpen]

theorem openDesktopEvents_cases (table : FileDescriptorTable)
    (generation : BitVec 64) :
    (∃ index, index < table.descriptors.length ∧ table.openDesktopEvents generation =
      .ok (FIRST_FILE_DESCRIPTOR + index, ⟨table.descriptors.set index
        ⟨.desktopEvents, generation, .readOnly, true⟩⟩)) ∨
    ((∃ e, table.openDesktopEvents generation = .error e) ∧
      ∀ descriptor ∈ table.descriptors, descriptor.isOpen = true) := by
  unfold openDesktopEvents
  cases opened : table.openObject .desktopEvents .readOnly with
  | error e =>
    exact .inr ⟨⟨e, rfl⟩, openObject_error opened⟩
  | ok result =>
    obtain ⟨fd, table'⟩ := result
    obtain ⟨index, closed, rfl, found, -, rest⟩ := openObject_ok opened
    have bound := (getElem?_eq_some_iff.mp found).1
    refine .inl ⟨index, bound, ?_⟩
    obtain ⟨descriptors⟩ := table'
    cases rest
    have here := @descriptor_set table index ⟨.desktopEvents, 0#64, .readOnly, true⟩ bound rfl
    show (descriptor _ _ >>= _) = _
    rw [here]
    show Except.ok _ = _
    unfold replace
    rw [Nat.add_sub_cancel_left, List.set_set]

end FileDescriptorTable

end SlopOS.Vfs
