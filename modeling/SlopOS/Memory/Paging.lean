import SlopOS.Base.PageWalk
import SlopOS.Memory.Allocator

/-!
# Page tables of the kernel and of user processes

`kernel/src/paging.rs` over the frame allocator.  `crate::fatal` ends the
kernel, so a function that can reach it returns an `Option`.  Tables are read
and written through the identity map, that is, at their physical address; every
index the source passes to `get_entry` and `set_entry` is masked with `0x1ff` or
is a constant below `ENTRY_COUNT`, so their bounds check never fires.
-/

namespace SlopOS.Memory

open PageWalk

def ENTRY_COUNT : Nat := 512
def HUGE_PAGE_SIZE : Nat := 2 * 1024 * 1024
def PRESENT : BitVec 64 := 1#64 <<< 0
def WRITABLE : BitVec 64 := 1#64 <<< 1
def WRITE_THROUGH : BitVec 64 := 1#64 <<< 3
def CACHE_DISABLE : BitVec 64 := 1#64 <<< 4
def USER_ACCESSIBLE : BitVec 64 := 1#64 <<< 2
def HUGE : BitVec 64 := 1#64 <<< 7
def USER_CODE_BASE : Nat := 0x40000000
def USER_CODE_PAGES : Nat := 4
def USER_STACK_PAGES : Nat := 3
def USER_STACK_BASE : Nat := USER_CODE_BASE + USER_CODE_PAGES * PAGE_SIZE
def USER_STACK_TOP : Nat := USER_STACK_BASE + USER_STACK_PAGES * PAGE_SIZE
def USER_SHARED_BASE : Nat := USER_STACK_TOP
def USER_SHARED_END : Nat := USER_SHARED_BASE + PAGE_SIZE

structure MmioRange where
  base : Nat
  size : Nat
  deriving DecidableEq, Repr

structure PagingStats where
  pml4 : Nat
  pageTableFrames : Nat
  hugePages : Nat
  deriving DecidableEq, Repr

structure UserAddressSpace where
  root : Nat
  codeFrames : List Nat
  stackFrames : List Nat
  tableFrames : List Nat
  deriving DecidableEq, Repr

/-- The frame allocator and the physical memory. -/
structure Machine where
  allocator : Allocator
  memory : PageWalk.Memory

def Machine.withMemory (m : Machine) (memory : PageWalk.Memory) : Machine := { m with memory }

/-! ## Memory accesses -/

/-- Byte `position` of a page, or what the word held there before. -/
def byteOr (bytes : List (BitVec 8)) (position : Nat) (old : BitVec 64) (lane : Nat) : BitVec 64 :=
  match bytes[position]? with
  | some byte => byte.setWidth 64 <<< (8 * lane)
  | none => old &&& (0xff#64 <<< (8 * lane))

section

variable (memory : PageWalk.Memory)

def setEntry (table index : Nat) (value : BitVec 64) : PageWalk.Memory :=
  fun frame slot => if frame = table ∧ slot = index then value else memory frame slot

def getEntry (table index : Nat) : BitVec 64 := memory table index

/-- `write_bytes(frame, 0, PAGE_SIZE)`. -/
def zeroFrame (target : Nat) : PageWalk.Memory :=
  fun frame slot => if frame = target then 0#64 else memory frame slot

/-- `copy_nonoverlapping` of `bytes` to the start of a frame, little-endian. -/
def writeBytes (target : Nat) (bytes : List (BitVec 8)) : PageWalk.Memory :=
  fun frame slot =>
    if frame = target then
      (List.range 8).foldl
        (fun word lane => word ||| byteOr bytes (8 * slot + lane) (memory frame slot) lane) 0
    else memory frame slot

/-- The loop that copies the 512 entries of `source` to `target`. -/
@[irreducible] def copyTable (target source : Nat) : PageWalk.Memory :=
  (List.range ENTRY_COUNT).foldl
    (fun memory index => setEntry memory target index (getEntry memory source index)) memory

end

/-- The frame bits of an entry, as the kernel masks them. -/
def tableAddress (e : BitVec 64) : Nat := (e &&& ~~~0xfff#64).toNat

def Machine.dataFrame (m : Machine) : Option (Nat × Machine) :=
  match m.allocator.allocateFrame with
  | (none, _) => none
  | (some frame, allocator) => some (frame, ⟨allocator, zeroFrame m.memory frame⟩)

def Machine.tableFrame (m : Machine) : Option (Nat × Machine) := m.dataFrame

/-- `count` calls of `data_frame`, in order. -/
def Machine.dataFrames : Nat → Machine → Option (List Nat × Machine)
  | 0, m => some ([], m)
  | count + 1, m => do
      let (frame, m) ← m.dataFrame
      let (frames, m) ← Machine.dataFrames count m
      return (frame :: frames, m)

/-- The loop that maps `frames` at consecutive entries of `table` from `index` on. -/
def mapPages (table : Nat) (flags : BitVec 64) : Nat → List Nat → PageWalk.Memory → PageWalk.Memory
  | _, [], memory => memory
  | index, frame :: rest, memory =>
      mapPages table flags (index + 1) rest (setEntry memory table index (entry frame flags))

/-! ## The kernel tables -/

structure Install where
  machine : Machine
  pageTableFrames : Nat
  hugePages : Nat

/-- The table behind entry `index` of `parent`, allocated and linked if absent. -/
def ensureTable (parent index : Nat) (s : Install) : Option (Nat × Install) :=
  let e := getEntry s.machine.memory parent index
  if e &&& PRESENT = 0 then do
    let (table, machine) ← s.machine.tableFrame
    let e := entry table (PRESENT ||| WRITABLE)
    return (tableAddress e,
      { s with
        machine := machine.withMemory (setEntry machine.memory parent index e)
        pageTableFrames := s.pageTableFrames + 1 })
  else some (tableAddress e, s)

/-- One iteration of the loop of `map_mmio_range`. -/
def mapMmioPage (pml4 physical : Nat) (s : Install) : Option Install :=
  if physical / 2 ^ 48 ≠ 0 then none
  else do
    let (targetPdpt, s) ← ensureTable pml4 (physical / 2 ^ 39 % 512) s
    let (directory, s) ← ensureTable targetPdpt (physical / 2 ^ 30 % 512) s
    let index := physical / 2 ^ 21 % 512
    let mapping := getEntry s.machine.memory directory index
    let s := if mapping &&& PRESENT = 0 then { s with hugePages := s.hugePages + 1 } else s
    if mapping &&& (WRITE_THROUGH ||| CACHE_DISABLE) ≠ WRITE_THROUGH ||| CACHE_DISABLE then
      let e := entry physical
        (PRESENT ||| WRITABLE ||| WRITE_THROUGH ||| CACHE_DISABLE ||| HUGE)
      return { s with
        machine := s.machine.withMemory (setEntry s.machine.memory directory index e) }
    else return s

/-- The `while physical < end` loop, over the number of pages left. -/
def mapMmioPages (pml4 : Nat) : Nat → Nat → Install → Option Install
  | 0, _, s => some s
  | pages + 1, physical, s => do
      let s ← mapMmioPage pml4 physical s
      mapMmioPages pml4 pages (physical + HUGE_PAGE_SIZE) s

def mapMmioRange (pml4 base size : Nat) (s : Install) : Option Install :=
  let start := base / HUGE_PAGE_SIZE * HUGE_PAGE_SIZE
  -- `saturating_add`, then `next_multiple_of`, which wraps in the release profile.
  let sum := min (base + size) (2 ^ 64 - 1)
  let end_ := (sum + (HUGE_PAGE_SIZE - 1)) / HUGE_PAGE_SIZE * HUGE_PAGE_SIZE % 2 ^ 64
  mapMmioPages pml4 ((end_ - start) / HUGE_PAGE_SIZE) start s

def mapMmioRanges (pml4 : Nat) : List MmioRange → Install → Option Install
  | [], s => some s
  | range :: rest, s =>
      if range.base = 0 ∨ range.size = 0 then mapMmioRanges pml4 rest s
      else do
        let s ← mapMmioRange pml4 range.base range.size s
        mapMmioRanges pml4 rest s

/-- The loop that identity-maps the first GiB. -/
@[irreducible] def identityMap (directory : Nat) (memory : PageWalk.Memory) : PageWalk.Memory :=
  (List.range ENTRY_COUNT).foldl
    (fun memory index => setEntry memory directory index
      (entry (index * HUGE_PAGE_SIZE) (PRESENT ||| WRITABLE ||| HUGE))) memory

/-- `install`, up to the switch of CR3 to the new root. -/
def install (framebuffer : MmioRange) (mmioRanges : List MmioRange) (m : Machine) :
    Option (PagingStats × Machine) := do
  let (pml4, m) ← m.tableFrame
  let (pdpt, m) ← m.tableFrame
  let m := m.withMemory (setEntry m.memory pml4 0 (entry pdpt (PRESENT ||| WRITABLE)))
  let (lowDirectory, m) ← m.tableFrame
  let m := m.withMemory
    (setEntry m.memory pdpt 0 (entry lowDirectory (PRESENT ||| WRITABLE)))
  let m := m.withMemory (identityMap lowDirectory m.memory)
  let s ← mapMmioRange pml4 framebuffer.base framebuffer.size ⟨m, 3, ENTRY_COUNT⟩
  let s ← mapMmioRanges pml4 mmioRanges s
  return (⟨pml4, s.pageTableFrames, s.hugePages⟩, s.machine)

/-! ## User address spaces -/

/-- The loop that copies the image page by page into the code frames. -/
def copyImage (image : List (BitVec 8)) : Nat → List Nat → PageWalk.Memory → PageWalk.Memory
  | _, [], memory => memory
  | index, frame :: rest, memory =>
      let sourceStart := index * PAGE_SIZE
      let sourceEnd := min (sourceStart + PAGE_SIZE) image.length
      if sourceEnd ≤ sourceStart then memory
      else
        copyImage image (index + 1) rest
          (writeBytes memory frame ((image.drop sourceStart).take (sourceEnd - sourceStart)))

/-- A copy of the kernel root whose low table is a private, user-accessible copy. -/
def copyKernelTables (activeRoot : Nat) (m : Machine) : Option ((Nat × Nat) × Machine) := do
  let (root, m) ← m.tableFrame
  let m := m.withMemory (copyTable m.memory root activeRoot)
  let activeLowEntry := getEntry m.memory activeRoot 0
  if activeLowEntry &&& PRESENT = 0 then none
  else
    let activeLowPdpt := tableAddress activeLowEntry
    let (processLowPdpt, m) ← m.tableFrame
    let m := m.withMemory (copyTable m.memory processLowPdpt activeLowPdpt)
    let m := m.withMemory
      (setEntry m.memory root 0 (entry processLowPdpt (PRESENT ||| WRITABLE ||| USER_ACCESSIBLE)))
    return ((root, processLowPdpt), m)

def pdptIndex : Nat := USER_CODE_BASE / 2 ^ 30 % 512
def directoryIndex : Nat := USER_CODE_BASE / 2 ^ 21 % 512
def codeIndex : Nat := USER_CODE_BASE / 2 ^ 12 % 512
def firstStackIndex : Nat := codeIndex + USER_CODE_PAGES
def lastStackIndex : Nat := firstStackIndex + USER_STACK_PAGES - 1

/-- The entries that `create_user_address_space` writes below the copied tables. -/
def linkUserTables (processLowPdpt userDirectory userTable : Nat)
    (codeFrames stackFrames : List Nat) (memory : PageWalk.Memory) : PageWalk.Memory :=
  let memory := setEntry memory processLowPdpt pdptIndex
    (entry userDirectory (PRESENT ||| WRITABLE ||| USER_ACCESSIBLE))
  let memory := setEntry memory userDirectory directoryIndex
    (entry userTable (PRESENT ||| WRITABLE ||| USER_ACCESSIBLE))
  let memory := mapPages userTable (PRESENT ||| USER_ACCESSIBLE) codeIndex codeFrames memory
  mapPages userTable (PRESENT ||| WRITABLE ||| USER_ACCESSIBLE) firstStackIndex stackFrames memory

def createUserAddressSpace (activeRoot : Nat) (image : List (BitVec 8)) (memorySize : Nat)
    (m : Machine) : Option (UserAddressSpace × Machine) :=
  if image = [] ∨ memorySize = 0 ∨ USER_CODE_PAGES * PAGE_SIZE < memorySize ∨
      memorySize < image.length then none
  else do
    let ((root, processLowPdpt), m) ← copyKernelTables activeRoot m
    let (userDirectory, m) ← m.tableFrame
    let (userTable, m) ← m.tableFrame
    let (codeFrames, m) ← m.dataFrames USER_CODE_PAGES
    let (stackFrames, m) ← m.dataFrames USER_STACK_PAGES
    let m := m.withMemory (copyImage image 0 codeFrames m.memory)
    if getEntry m.memory processLowPdpt pdptIndex &&& PRESENT ≠ 0 ∨
        ENTRY_COUNT ≤ lastStackIndex then none
    else
      let m := m.withMemory
        (linkUserTables processLowPdpt userDirectory userTable codeFrames stackFrames m.memory)
      return (⟨root, codeFrames, stackFrames, [root, processLowPdpt, userDirectory, userTable]⟩, m)

/-- `deallocate_frame` on each frame in order. -/
def deallocateFrames : List Nat → Allocator → Option Allocator
  | [], a => some a
  | frame :: rest, a =>
      match a.deallocateFrame frame with
      | .error _ => none
      | .ok a => deallocateFrames rest a

def releaseUserAddressSpace (space : UserAddressSpace) (m : Machine) : Option Machine := do
  let allocator ← deallocateFrames
    (space.tableFrames ++ space.codeFrames ++ space.stackFrames) m.allocator
  return { m with allocator }

def sharedIndex : Nat := USER_SHARED_BASE / 2 ^ 12 % 512

def mapUserSharedPage (userTable frame : Nat) (m : Machine) : Except Unit Machine :=
  if userTable % PAGE_SIZE ≠ 0 ∨ frame % PAGE_SIZE ≠ 0 then .error ()
  else if getEntry m.memory userTable sharedIndex &&& PRESENT ≠ 0 then .error ()
  else .ok (m.withMemory (setEntry m.memory userTable sharedIndex
    (entry frame (PRESENT ||| WRITABLE ||| USER_ACCESSIBLE))))

end SlopOS.Memory
