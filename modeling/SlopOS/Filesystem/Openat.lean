import SlopOS.Filesystem.Image
import SlopOS.Filesystem.Atomicity
import SlopOS.Vfs.Descriptors

/-!
# Completion of `openat`

The block task resolves the path of a suspended `openat` and resumes the process with a
descriptor or an errno.  On a disk that stores a tree it does so for every path that names
a regular file, or a link to one beside it, or nothing.  Any other path of an existing
object halts the kernel.
-/

namespace SlopOS.Filesystem

open ByteCodec CrashDisk Ext4 Vfs List

def LINUX_ENOENT : Int := -2
def LINUX_EINVAL : Int := -22
def LINUX_EMFILE : Int := -24
def PROCESS_CAPACITY : Nat := 4
def PROCESS_FILE_CAPACITY : Nat := 8

/-- A byte string literal. -/
def bytesOf (text : String) : Bytes := text.toList.map fun c => BitVec.ofNat 8 c.toNat

def DESKTOP_EVENTS_PATH : Bytes := bytesOf "/run/slopos/desktop-events"

structure OpenAtRequest where
  pid : Nat
  path : Bytes
  accessMode : AccessMode

/-- What the requesting process has open: its descriptors, and the files the block task keeps
behind them. -/
structure ProcessFiles where
  descriptors : FileDescriptorTable
  openFiles : List (Option Ext4File)

def processIndex (pid : Nat) : Option Nat :=
  if pid = 0 ∨ PROCESS_CAPACITY ≤ pid - 1 then none else some (pid - 1)

def processFileSlot (fd : Nat) : Option Nat :=
  if fd < FIRST_FILE_DESCRIPTOR ∨ PROCESS_FILE_CAPACITY ≤ fd - FIRST_FILE_DESCRIPTOR then none
  else some (fd - FIRST_FILE_DESCRIPTOR)

/-- A file that was found gets a descriptor and becomes the file behind it. -/
def installFile (files : ProcessFiles) (filesystemId : BitVec 16) (file : Ext4File)
    (accessMode : AccessMode) : Io (Int × ProcessFiles) :=
  match files.descriptors.openWithMode
      ⟨filesystemId, file.inode.number.setWidth 64, file.inode.size⟩ accessMode with
  | .error _ => .pure (LINUX_EMFILE, files)
  | .ok (fd, descriptors) => do
      let slot ← Program.expectSome (processFileSlot fd)
        "process VFS descriptor is outside backing table"
      Program.require ((files.openFiles[slot]?).join.isNone)
        "process VFS backing slot was already occupied"
      return (fd, ⟨descriptors, files.openFiles.set slot (some file)⟩)

/-- The value the process is resumed with, and what it has open then. -/
def completeProcessOpenat (mount : Ext4Mount) (device : BlockDevice) (mounts : MountTable)
    (files : ProcessFiles) (generation : BitVec 64) (request : OpenAtRequest) :
    Io ((Int × ProcessFiles) × Ext4Mount) :=
  if request.path = DESKTOP_EVENTS_PATH then
    if request.pid ≠ 2 ∨ request.accessMode ≠ .readOnly then
      .pure ((LINUX_EINVAL, files), mount)
    else
      match files.descriptors.openDesktopEvents generation with
      | .ok (fd, descriptors) => .pure ((fd, { files with descriptors }), mount)
      | .error _ => .pure ((LINUX_EMFILE, files), mount)
  else do
    let _ ← Program.expectSome (processIndex request.pid)
      "process PID is outside the VFS backing table"
    match AbsolutePath.parse request.path with
    | .error _ => return ((LINUX_EINVAL, files), mount)
    | .ok path =>
        match mounts.resolve path with
        | .error _ => return ((LINUX_ENOENT, files), mount)
        | .ok resolution =>
            let (found, mount) ← mount.tryOpenFile device
              (path.components.drop resolution.matchedComponents)
            match found with
            | none => return ((LINUX_ENOENT, files), mount)
            | some file =>
                let result ← installFile files resolution.filesystemId file request.accessMode
                return (result, mount)

/-! ## Descriptors and the files behind them -/

/-- A file is kept behind open descriptors only. -/
structure ProcessFiles.Backed (files : ProcessFiles) : Prop where
  descriptors : files.descriptors.descriptors.length = PROCESS_FILE_CAPACITY
  openFiles : files.openFiles.length = PROCESS_FILE_CAPACITY
  behind : ∀ (slot : Nat) (file : Ext4File), files.openFiles[slot]? = some (some file) →
    ∃ descriptor, files.descriptors.descriptors[slot]? = some descriptor ∧
      descriptor.isOpen = true

variable {slot : Nat}

section Backed

variable {files : ProcessFiles}

/-- Slots stay open when another one is filled. -/
theorem ProcessFiles.Backed.set (backed : files.Backed) {descriptor : Descriptor}
    (isOpen : descriptor.isOpen = true) {openFiles : List (Option Ext4File)}
    (kept : ∀ (other : Nat) (file : Ext4File), openFiles[other]? = some (some file) →
      other = slot ∨ files.openFiles[other]? = some (some file))
    (length : openFiles.length = PROCESS_FILE_CAPACITY) (bound : slot < PROCESS_FILE_CAPACITY) :
    Backed ⟨⟨files.descriptors.descriptors.set slot descriptor⟩, openFiles⟩ where
  descriptors := length_set.trans backed.descriptors
  openFiles := length
  behind := by
    intro other file held
    rw [← backed.descriptors] at bound
    by_cases same : other = slot
    · subst same
      exact ⟨descriptor, getElem?_set_self bound, isOpen⟩
    rcases kept other file held with absurd_ | old
    · exact absurd absurd_ same
    · obtain ⟨open_, found, isOpen'⟩ := backed.behind other file old
      exact ⟨open_, by rw [getElem?_set_ne (symm same)]; exact found, isOpen'⟩

end Backed

/-! ## What the process is resumed with -/

/-- The outcome of opening a path in the namespace of the tree. -/
inductive Opened (tree : FileTree) (request : OpenAtRequest) (generation : BitVec 64)
    (files : ProcessFiles) : Int → ProcessFiles → Prop
  | invalid (refused : (∃ e, AbsolutePath.parse request.path = .error e) ∨
      (request.path = DESKTOP_EVENTS_PATH ∧
        (request.pid ≠ 2 ∨ request.accessMode ≠ .readOnly))) :
      Opened tree request generation files LINUX_EINVAL files
  | missing (resolved : tree.resolve (normalize request.path) = .missing) :
      Opened tree request generation files LINUX_ENOENT files
  | full (taken : ∀ descriptor ∈ files.descriptors.descriptors, descriptor.isOpen = true) :
      Opened tree request generation files LINUX_EMFILE files
  | events {slot : Nat} (path : request.path = DESKTOP_EVENTS_PATH)
      (bound : slot < PROCESS_FILE_CAPACITY) :
      Opened tree request generation files (3 + slot : Nat) { files with
        descriptors := ⟨files.descriptors.descriptors.set slot
          ⟨.desktopEvents, generation, .readOnly, true⟩⟩ }
  | file {slot : Nat} {number : BitVec 32} {size : BitVec 64} {file : Ext4File}
      (resolved : tree.resolve (normalize request.path) = .file number size)
      (bound : slot < PROCESS_FILE_CAPACITY)
      (inode : file.inode.number = number ∧ file.inode.isRegularFile = true) :
      Opened tree request generation files (3 + slot : Nat)
        ⟨⟨files.descriptors.descriptors.set slot
          ⟨.file ⟨ROOT_FILESYSTEM_ID, number.setWidth 64, size⟩, 0#64, request.accessMode, true⟩⟩,
        files.openFiles.set slot (some file)⟩

variable {number : BitVec 32} {inode : Inode}

section Completion

variable {mount : Ext4Mount} {disk : Disk Block} {limit : Nat} {device : BlockDevice}
  {tree : FileTree} {files : ProcessFiles} {generation : BitVec 64} {request : OpenAtRequest}

theorem processFileSlot_eq (bound : slot < PROCESS_FILE_CAPACITY) :
    processFileSlot (FIRST_FILE_DESCRIPTOR + slot) = some slot := by
  unfold processFileSlot
  rw [Nat.add_sub_cancel_left, if_neg]
  omega

/-- A slot whose descriptor is closed has no file behind it. -/
theorem ProcessFiles.Backed.vacant (backed : files.Backed) {closed : Descriptor}
    (found : files.descriptors.descriptors[slot]? = some closed) (isClosed : closed.isOpen = false)
    : (files.openFiles[slot]?).join.isNone = true := by
  cases held : files.openFiles[slot]? with
  | none => rfl
  | some behind =>
    cases behind with
    | none => rfl
    | some file =>
      obtain ⟨descriptor, same, isOpen⟩ := backed.behind slot file held
      rw [found] at same
      cases same
      rw [isClosed] at isOpen
      cases isOpen

/-- A file that the tree names is installed, or the table is full. -/
theorem run_installFile (backed : files.Backed) {file : Ext4File} {size : BitVec 64}
    (resolved : tree.resolve (normalize request.path) = .file number size)
    (named : file.inode.number = number) (sized : file.inode.size = size)
    (regular : file.inode.isRegularFile = true) :
    ∃ value files', (installFile files ROOT_FILESYSTEM_ID file request.accessMode).run
        (State.settled disk) = .ok ((value, files'), State.settled disk) ∧
      files'.Backed ∧ Opened tree request generation files value files' := by
  unfold installFile FileDescriptorTable.openWithMode
  cases opened : files.descriptors.openObject
      (.file ⟨ROOT_FILESYSTEM_ID, file.inode.number.setWidth 64, file.inode.size⟩)
      request.accessMode with
  | error e =>
    exact ⟨_, _, rfl, backed, .full (FileDescriptorTable.openObject_error opened)⟩
  | ok result =>
    obtain ⟨fd, ⟨descriptors⟩⟩ := result
    obtain ⟨slot, closed, rfl, found, isClosed, rest⟩ := FileDescriptorTable.openObject_ok opened
    have bound := (List.getElem?_eq_some_iff.mp found).1
    rw [backed.descriptors] at bound
    dsimp only at rest ⊢
    rw [Program.run_bind_of_ok (Program.run_expectSome (processFileSlot_eq bound)),
      Program.run_bind_of_ok (Program.run_require (backed.vacant found isClosed)), rest, named,
      sized]
    refine ⟨_, _, rfl, ?_, .file resolved bound ⟨named, regular⟩⟩
    refine backed.set rfl (fun other kept held => ?_)
      (length_set.trans backed.openFiles) bound
    by_cases same : other = slot
    · exact .inl same
    · rw [getElem?_set_ne (symm same)] at held
      exact .inr held

end Completion

/-! ## A small tree

A file `f`, a link `l` to it and an empty directory `d` in the data blocks of the small
filesystem. -/

/-- The bytes, and zeros up to the end of the block. -/
def Block.padded (data : Bytes) (fits : data.length ≤ BLOCK_SIZE) : Block :=
  ⟨data ++ List.replicate (BLOCK_SIZE - data.length) 0#8, by
    rw [length_append, length_replicate]
    omega⟩

def zeros (count : Nat) : Bytes := List.replicate count 0#8

/-- One record of a directory block. -/
def directoryRecord (inode : BitVec 32) (length : BitVec 16) (fileType : BitVec 8) (name : Bytes) :
    Bytes :=
  le32 inode ++ le16 length ++ [BitVec.ofNat 8 name.length, fileType] ++ name ++
    zeros (4 - name.length)

/-- The 128 bytes of an inode of this mode and size; the root is what stands at offset 40. -/
def inodeBytes (mode : BitVec 16) (size flags : BitVec 32) (root : Bytes) : Bytes :=
  le16 mode ++ zeros 2 ++ le32 size ++ zeros 24 ++ le32 flags ++ zeros 4 ++ root ++
    zeros (88 - root.length)

/-- An extent root with one extent. -/
def singleExtent (count : BitVec 16) (block : BitVec 32) : Bytes :=
  le16 EXTENT_HEADER_MAGIC ++ le16 1#16 ++ le16 4#16 ++ zeros 6 ++ zeros 4 ++ le16 count ++
    zeros 2 ++ le32 block

def treeInodes : Block := Block.padded (zeros 128 ++
  inodeBytes DIRECTORY_MODE 4096#32 INODE_FLAG_EXTENTS (singleExtent 1#16 8#32) ++ zeros 640 ++
  inodeBytes REGULAR_FILE_MODE 20480#32 INODE_FLAG_EXTENTS (singleExtent 5#16 3#32) ++ zeros 256 ++
  inodeBytes REGULAR_FILE_MODE 5#32 0#32 [] ++ inodeBytes SYMLINK_MODE 1#32 0#32 (bytesOf "f") ++
  inodeBytes DIRECTORY_MODE 4096#32 INODE_FLAG_EXTENTS (singleExtent 1#16 9#32)) (by decide +kernel)

def rootRecords : Block := Block.padded (
  directoryRecord 2#32 12#16 DIRECTORY_ENTRY_DIRECTORY DOT ++
  directoryRecord 2#32 12#16 DIRECTORY_ENTRY_DIRECTORY DOT_DOT ++
  directoryRecord 11#32 12#16 DIRECTORY_ENTRY_REGULAR_FILE (bytesOf "f") ++
  directoryRecord 12#32 12#16 DIRECTORY_ENTRY_SYMLINK (bytesOf "l") ++
  directoryRecord 13#32 4048#16 DIRECTORY_ENTRY_DIRECTORY (bytesOf "d")) (by decide +kernel)

def emptyRecords : Block := Block.padded (
  directoryRecord 13#32 12#16 DIRECTORY_ENTRY_DIRECTORY DOT ++
  directoryRecord 2#32 4084#16 DIRECTORY_ENTRY_DIRECTORY DOT_DOT) (by decide +kernel)

def treeDisk : Disk Block
  | 0 => smallSuperblock
  | 1 => smallGroups
  | 2 => treeInodes
  | 3 => smallJournal
  | 8 => rootRecords
  | 9 => emptyRecords
  | _ => Block.zero

def rootEntries : List DirectoryEntry := [
  ⟨2#32, DIRECTORY_ENTRY_DIRECTORY, DOT⟩, ⟨2#32, DIRECTORY_ENTRY_DIRECTORY, DOT_DOT⟩,
  ⟨11#32, DIRECTORY_ENTRY_REGULAR_FILE, bytesOf "f"⟩, ⟨12#32, DIRECTORY_ENTRY_SYMLINK, bytesOf "l"⟩,
  ⟨13#32, DIRECTORY_ENTRY_DIRECTORY, bytesOf "d"⟩]

def emptyEntries : List DirectoryEntry := [
  ⟨13#32, DIRECTORY_ENTRY_DIRECTORY, DOT⟩, ⟨2#32, DIRECTORY_ENTRY_DIRECTORY, DOT_DOT⟩]

def smallTree : FileTree where
  node number :=
    if number = 2#32 then some (.directory rootEntries)
    else if number = 11#32 then some (.regular 5#64)
    else if number = 12#32 then some (.symlink (some (bytesOf "f")))
    else if number = 13#32 then some (.directory emptyEntries)
    else none

/-- The superblock of the small filesystem. -/
def treeSuperblock : Superblock :=
  ⟨16#32, 10#64, 0#64, 0#32, 0#32, 4096#32, 32768#32, 16#32, 1#16, 0#16, 0#32, 128#16, 32#16, 0#32,
    0#32, 0#32, zeros 16, zeros 16, 0#8, 0#32, crc32c (BitVec.allOnes 32) (zeros 16), 8#32⟩

theorem smallMount_superblock : smallMount.superblock = treeSuperblock := by
  decide +kernel

/-- An inode with this number, mode, size, flags and root. -/
def treeInode (number : BitVec 32) (mode : BitVec 16) (size : BitVec 64) (flags : BitVec 32)
    (root : Bytes) : Inode :=
  ⟨number, mode, 0#32, 0#32, size, 0#64, flags, 0#32, root ++ zeros (60 - root.length)⟩

theorem inodeOn_tree {offset : Nat} (grouped : treeSuperblock.inodeGroup number = .ok 0#32)
    (located : treeSuperblock.inodeLocation number smallMount.group0 = .ok ⟨2, offset⟩)
    (inside : offset + 128 ≤ BLOCK_SIZE)
    (parsed : Inode.parse ((treeInodes.bytes.drop offset).take 128) number treeSuperblock =
      .ok inode) : InodeOn treeSuperblock treeDisk 10 smallMount.group0 number inode := by
  refine ⟨0#32, smallMount.group0, ⟨2, offset⟩, grouped, ?_, located, ?_, inside, parsed⟩
  · unfold GroupOn
    rw [if_pos rfl]
  · show 2 < 10
    decide

/-- A directory of one block, given by the extent in its inode. -/
theorem directoryOn_single {physicalBlock count : Nat} (directory : inode.isDirectory = true)
    (linear : inode.flags &&& INODE_FLAG_DIRECTORY_INDEX = 0#32)
    (size : fileBlockCount treeSuperblock inode = 1) (depth : inode.extentDepth = .ok 0)
    (extent : inode.extentForLogicalBlock 0 = .ok (some ⟨0#32, physicalBlock, 1, false⟩))
    (below : physicalBlock < 10)
    (valid : validateDirectoryEntries (treeDisk physicalBlock).bytes 4096 4097 0 0 = .ok count) :
    DirectoryOn treeSuperblock treeDisk 10 inode
      [⟨(treeDisk physicalBlock).bytes, 4096, count⟩] where
  directory := directory
  linear := linear
  length := size.symm
  nonempty := Nat.one_ne_zero
  small := show 1 < 2 ^ 32 by decide
  parsed := by
    intro logicalBlock found at_
    cases logicalBlock with
    | zero =>
      cases at_
      refine ⟨physicalBlock, ⟨?_, below, _, .inl ⟨depth, extent⟩, rfl, rfl, ?_, ?_⟩, ?_⟩
      · rw [size]
        decide
      · exact below
      · exact below
      have length : (treeDisk physicalBlock).bytes.length = 4096 := (treeDisk physicalBlock).size
      have plain : treeSuperblock.hasMetadataChecksums = false := by decide
      unfold DirectoryBlock.parse directoryEntriesEnd
      rw [if_neg (by rw [directory]; decide), if_neg (by rw [linear]; decide), length]
      show (validateDirectoryEntries _ 4096 4097 0 0 >>= _) = _
      rw [valid]
      rfl
    | succ above => cases at_

theorem smallTree_stored {node : Node} (held : smallTree.node number = some node) :
    ∃ inode, InodeOn treeSuperblock treeDisk 10 smallMount.group0 number inode ∧
      Represents treeSuperblock treeDisk 10 inode node := by
  unfold smallTree at held
  dsimp only at held
  split at held
  · next same =>
    cases held
    subst same
    refine ⟨treeInode 2#32 DIRECTORY_MODE 4096#64 INODE_FLAG_EXTENTS (singleExtent 1#16 8#32),
      @inodeOn_tree _ _ 128 ?_ ?_ ?_ ?_, _,
      @directoryOn_single _ 8 5 ?_ ?_ ?_ ?_ ?_ ?_ ?_, ?_⟩
    all_goals decide +kernel
  split at held
  · next same =>
    cases held
    subst same
    refine ⟨treeInode 11#32 REGULAR_FILE_MODE 5#64 0#32 [], @inodeOn_tree _ _ 1280 ?_ ?_ ?_ ?_,
      ?_, ?_⟩
    all_goals decide +kernel
  split at held
  · next same =>
    cases held
    subst same
    refine ⟨treeInode 12#32 SYMLINK_MODE 1#64 0#32 (bytesOf "f"),
      @inodeOn_tree _ _ 1408 ?_ ?_ ?_ ?_, ?_, ?_⟩
    all_goals decide +kernel
  split at held
  · next same =>
    cases held
    subst same
    refine ⟨treeInode 13#32 DIRECTORY_MODE 4096#64 INODE_FLAG_EXTENTS (singleExtent 1#16 9#32),
      @inodeOn_tree _ _ 1536 ?_ ?_ ?_ ?_, _,
      @directoryOn_single _ 9 2 ?_ ?_ ?_ ?_ ?_ ?_ ?_, ?_⟩
    all_goals decide +kernel
  · cases held

theorem smallTree_typed {entries : List DirectoryEntry}
    (held : smallTree.node number = some (.directory entries)) {entry : DirectoryEntry}
    (member : entry ∈ entries) :
    ∃ node, smallTree.node entry.inode = some node ∧ entry.fileType = node.entryType := by
  have typed : ∀ entry ∈ rootEntries ++ emptyEntries,
      (smallTree.node entry.inode).map Node.entryType = some entry.fileType := by decide
  have listed : entry ∈ rootEntries ++ emptyEntries := by
    unfold smallTree at held
    dsimp only at held
    rw [mem_append]
    split at held
    · cases held
      exact .inl member
    split at held
    · cases held
    split at held
    · cases held
    split at held
    · cases held
      exact .inr member
    · cases held
  obtain ⟨node, stored, same⟩ := Option.map_eq_some_iff.mp (typed entry listed)
  exact ⟨node, stored, same.symm⟩

theorem smallTree_image :
    Image smallMount.superblock treeDisk 10 smallMount.group0 smallDevice smallTree := by
  rw [smallMount_superblock]
  exact ⟨rfl, ⟨rfl, by decide, by decide⟩, ⟨rootEntries, rfl⟩, fun _ _ held =>
    smallTree_stored held, fun _ _ held _ member => smallTree_typed held member⟩

def noFiles : ProcessFiles :=
  ⟨FileDescriptorTable.new PROCESS_FILE_CAPACITY, List.replicate PROCESS_FILE_CAPACITY none⟩

theorem noFiles_backed : noFiles.Backed where
  descriptors := rfl
  openFiles := rfl
  behind := by
    intro slot file held
    have member := mem_of_getElem? held
    cases eq_of_mem_replicate member

/-- What a process that opens the path first after the mount ends with: the message of a halt, or
nothing. -/
def haltOf (path : Bytes) : Option String :=
  match (do
    let mount ← Ext4Mount.mount smallDevice
    completeProcessOpenat mount smallDevice rootNamespace noFiles 0#64
      ⟨2, path, .readOnly⟩).run (State.settled treeDisk) with
  | .ok _ => none
  | .error message => some message

end SlopOS.Filesystem
