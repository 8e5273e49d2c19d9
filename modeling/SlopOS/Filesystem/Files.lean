import SlopOS.Ext4.Directory
import SlopOS.Ext4.Extents
import SlopOS.Filesystem.Recovery

/-!
# Files and paths

The part of the mount that reads through the cache: extents of a file, its blocks, the
entries of a directory and the walk along a path.  The one writer here replaces a block
of a file in place.
-/

namespace SlopOS.Filesystem

open ByteCodec CrashDisk Ext4
open Program (require expect expectSome)

/-! ## Extents -/

/-- The loop of `file_extent` below the root; `depth` is that of the parent.  It starts
at a positive depth and a node of depth 0 ends it, so the subtraction never underflows. -/
def Ext4Mount.descendExtents (device : BlockDevice) (inode : Inode) (logicalBlock : Nat) :
    Nat → Nat → Ext4Mount → Io (Option Extent × Ext4Mount)
  | 0, _, _ => .fail "attempt to subtract with overflow"
  | depth + 1, childBlock, mount => do
      require (childBlock ≠ 0 ∧ childBlock < mount.superblock.blockCount.toNat)
        "ext4 extent node block is outside the filesystem"
      let (block, cache) ← mount.cache.readBlock device mount.superblock childBlock
      let node ← expect (ExtentNode.parse block.bytes depth inode mount.superblock)
        "ext4 extent node validation failed"
      if node.depth = 0 then
        let extent ← expect (node.extentForLogicalBlock logicalBlock)
          "ext4 extent leaf is invalid"
        return (extent, { mount with cache })
      else
        let found ← expect (node.extentIndexForLogicalBlock logicalBlock)
          "ext4 extent index node is invalid"
        let index ← expectSome found "ext4 extent index entry is missing"
        Ext4Mount.descendExtents device inode logicalBlock depth index.childBlock
          { mount with cache }

/-- The number of blocks of a file, `div_ceil`. -/
def fileBlockCount (superblock : Superblock) (inode : Inode) : Nat :=
  (inode.size.toNat + superblock.blockSize.toNat - 1) / superblock.blockSize.toNat

/-- The block behind an extent; an unwritten extent reads as a hole.  The sum of a
48-bit block and a count does not overflow. -/
def extentBlock (superblock : Superblock) (logicalBlock : Nat) (extent : Extent) :
    Io (Option Nat) :=
  if extent.unwritten then .pure none
  else do
    let physicalBlock := extent.physicalBlock + (logicalBlock - extent.logicalBlock.toNat)
    require
      (physicalBlock < superblock.blockCount.toNat ∧
        extent.physicalBlock + extent.blockCount ≤ superblock.blockCount.toNat)
      "ext4 regular file block is outside the filesystem"
    return some physicalBlock

section

variable (mount : Ext4Mount) (device : BlockDevice) (inode : Inode) (logicalBlock : Nat)

def Ext4Mount.fileExtent : Io (Option Extent × Ext4Mount) := do
  let depth ← expect inode.extentDepth "ext4 file extent root is invalid"
  if depth = 0 then
    let extent ← expect (inode.extentForLogicalBlock logicalBlock)
      "ext4 inline extent is invalid"
    return (extent, mount)
  else
    let found ← expect (inode.extentIndexForLogicalBlock logicalBlock)
      "ext4 extent root index is invalid"
    let index ← expectSome found "ext4 extent root index is missing"
    Ext4Mount.descendExtents device inode logicalBlock depth index.childBlock mount

def Ext4Mount.inodePhysicalBlock : Io (Option Nat × Ext4Mount) := do
  require (logicalBlock < fileBlockCount mount.superblock inode)
    "ext4 inode read is past end of file"
  let (found, mount) ← mount.fileExtent device inode logicalBlock
  match found with
  | none => return (none, mount)
  | some extent =>
      let physicalBlock ← extentBlock mount.superblock logicalBlock extent
      return (physicalBlock, mount)

end

/-! ## Blocks of a file -/

structure Ext4File where
  inode : Inode
  parentInode : BitVec 32
  directoryBlock : Nat
  followedSymlink : BitVec 32
  deriving DecidableEq, Repr

section

variable (mount : Ext4Mount) (device : BlockDevice) (file : Ext4File)

/-- A hole reads as zeros.  A block past the end fails in `inode_physical_block`. -/
def Ext4Mount.readFileBlock (logicalBlock : Nat) : Io (Bytes × Ext4Mount) := do
  let remaining := file.inode.size.toNat - logicalBlock * mount.superblock.blockSize.toNat
  let length := min remaining mount.superblock.blockSize.toNat
  let (physicalBlock, mount) ← mount.inodePhysicalBlock device file.inode logicalBlock
  match physicalBlock with
  | some physicalBlock =>
      let (block, cache) ← mount.cache.readBlock device mount.superblock physicalBlock
      return (block.bytes.take length, { mount with cache })
  | none => return (Block.zero.bytes.take length, mount)

def Ext4Mount.prefetchFilePair (firstLogicalBlock secondLogicalBlock : Nat) : Io Ext4Mount := do
  let (found, mount) ← mount.inodePhysicalBlock device file.inode firstLogicalBlock
  let first ← expectSome found "ext4 paired prefetch starts in a hole"
  let (found, mount) ← mount.inodePhysicalBlock device file.inode secondLogicalBlock
  let second ← expectSome found "ext4 paired prefetch ends in a hole"
  let cache ← mount.cache.prefetchPair device mount.superblock first second
  return { mount with cache }

/-- The data is one block by its type; a 32-bit block number times the block size fits 64
bits. -/
def Ext4Mount.overwriteExistingFileBlock (logicalBlock : Nat) (data : Block) :
    Io (Nat × Ext4Mount) := do
  let writeEnd := (logicalBlock + 1) * mount.superblock.blockSize.toNat
  require (writeEnd ≤ file.inode.size.toNat)
    "ext4 in-place write must cover an existing full block"
  let (found, mount) ← mount.inodePhysicalBlock device file.inode logicalBlock
  let physicalBlock ← expectSome found "ext4 in-place write targets a hole"
  let sector ← blockToSector mount.superblock physicalBlock
  device.write sector data
  device.flush
  return (physicalBlock, { mount with cache := mount.cache.invalidate physicalBlock })

end

/-! ## Directories -/

/-- The loop of `find_directory_entry` over the blocks from `logicalBlock` on. -/
def Ext4Mount.searchDirectory (device : BlockDevice) (inode : Inode) (component : Bytes) :
    Nat → Nat → Ext4Mount → Io (Option (BitVec 32 × BitVec 8 × Nat) × Ext4Mount)
  | 0, _, mount => .pure (none, mount)
  | remaining + 1, logicalBlock, mount => do
      let (found, mount) ← mount.inodePhysicalBlock device inode logicalBlock
      let physicalBlock ← expectSome found "ext4 directory contains a sparse block"
      let (block, cache) ← mount.cache.readBlock device mount.superblock physicalBlock
      let directory ← expect (DirectoryBlock.parse block.bytes inode mount.superblock)
        "ext4 path directory block is invalid"
      match directory.find component with
      | some entry =>
          return (some (entry.inode, entry.fileType, logicalBlock), { mount with cache })
      | none =>
          Ext4Mount.searchDirectory device inode component remaining (logicalBlock + 1)
            { mount with cache }

variable (mount : Ext4Mount) (device : BlockDevice) (inode : Inode)

def Ext4Mount.findDirectoryEntry
    (component : Bytes) : Io (Option (BitVec 32 × BitVec 8 × Nat) × Ext4Mount) := do
  require inode.isDirectory "ext4 path component parent is not a directory"
  require (inode.flags &&& INODE_FLAG_DIRECTORY_INDEX = 0#32)
    "indexed ext4 directories are unsupported"
  let blockCount := fileBlockCount mount.superblock inode
  require (blockCount ≠ 0 ∧ blockCount < 2 ^ 32) "ext4 directory size is invalid"
  Ext4Mount.searchDirectory device inode component blockCount 0 mount

/-- The one link a path may end in: its target is a regular file of the same directory. -/
def Ext4Mount.followSymlink (parent link : Inode)
    (last : Bool) : Io (Option (Inode × Nat) × Ext4Mount) := do
  require (last && link.isSymlink) "ext4 symbolic link position or type is unsupported"
  let target ← expect link.inlineSymlink "ext4 symbolic link target is unsupported"
  require (validatePathComponent target).isOk
    "ext4 symbolic link target is not one relative component"
  let (found, mount) ← mount.findDirectoryEntry device parent target
  match found with
  | none => return (none, mount)
  | some (targetInode, targetType, targetBlock) =>
      require (targetType = DIRECTORY_ENTRY_REGULAR_FILE)
        "ext4 symbolic link target is not a regular file"
      let (current, mount) ← mount.readInode device targetInode
      require current.isRegularFile "ext4 symbolic link target inode type mismatch"
      return (some (current, targetBlock), mount)

/-- The type of an entry that is no link agrees with its inode. -/
def entryTypeMatches (fileType : BitVec 8) (inode : Inode) : Bool :=
  (fileType = DIRECTORY_ENTRY_DIRECTORY ∧ inode.isDirectory) ∨
    (fileType = DIRECTORY_ENTRY_REGULAR_FILE ∧ inode.isRegularFile)

/-- The loop of `try_resolve_path`; the accumulator is the tuple it returns. -/
def Ext4Mount.resolveComponents :
    List Bytes → Ext4File → Ext4Mount → Io (Option Ext4File × Ext4Mount)
  | [], resolved, mount => .pure (some resolved, mount)
  | component :: rest, resolved, mount => do
      require (validatePathComponent component).isOk "ext4 path component is invalid"
      let parent := resolved.inode
      let (found, mount) ← mount.findDirectoryEntry device parent component
      match found with
      | none => return (none, mount)
      | some (inodeNumber, fileType, entryBlock) =>
          let (current, mount) ← mount.readInode device inodeNumber
          if fileType = DIRECTORY_ENTRY_SYMLINK then
            let (followed, mount) ← mount.followSymlink device parent current rest.isEmpty
            match followed with
            | none => return (none, mount)
            | some (target, targetBlock) =>
                Ext4Mount.resolveComponents rest
                  ⟨target, parent.number, targetBlock, current.number⟩ mount
          else
            require (entryTypeMatches fileType current) "ext4 directory entry type mismatch"
            Ext4Mount.resolveComponents rest
              ⟨current, parent.number, entryBlock, resolved.followedSymlink⟩ mount

section

variable (mount : Ext4Mount) (device : BlockDevice) (components : List Bytes)

def Ext4Mount.tryResolvePath : Io (Option Ext4File × Ext4Mount) := do
  require (components ≠ []) "ext4 path has no components"
  let (root, mount) ← mount.readInode device ROOT_INODE
  Ext4Mount.resolveComponents device components ⟨root, ROOT_INODE, 0, 0#32⟩ mount

def Ext4Mount.tryOpenFile : Io (Option Ext4File × Ext4Mount) := do
  let (found, mount) ← mount.tryResolvePath device components
  match found with
  | none => return (none, mount)
  | some file =>
      require file.inode.isRegularFile "ext4 open target is not a regular file"
      return (some file, mount)

end

/-! ## Reading keeps the disk

Everything above except the in-place write changes nothing but the cache, and keeps that
consistent. -/

/-- From a consistent cache the program returns with the same disk and with a mount that
differs in its cache only, which is consistent again. -/
def Ext4Mount.Reads {α : Type} (p : Io (α × Ext4Mount)) : Prop :=
  ∀ s : State Block, mount.superblock.blockSize = 4096#32 → mount.cache.Consistent s.view →
    p.Ensures (fun _ => True)
      (fun r s' => s' = s ∧ ∃ cache : BlockCache, cache.Consistent s.view ∧
        r.2 = { mount with cache }) s

namespace Ext4Mount

variable {α γ β : Type} {mount : Ext4Mount} {device : BlockDevice} {p : Io (α × Ext4Mount)}
  {message : String} {f : β → Io (γ × Ext4Mount)}

theorem reads_pure (value : α) : mount.Reads (.pure (value, mount)) :=
  fun _ _ consistent => ⟨State.safe_true _, rfl, mount.cache, consistent, rfl⟩

theorem Reads.bind {f : α × Ext4Mount → Io (γ × Ext4Mount)} (first : mount.Reads p)
    (rest : ∀ value cache, Reads { mount with cache } (f (value, { mount with cache }))) :
    mount.Reads (p >>= f) := by
  intro s size consistent
  refine .bind ((first s size consistent).mono ?_)
  rintro ⟨value, mount'⟩ s' ⟨rfl, cache, kept, rfl⟩
  exact rest value cache s' size kept

theorem reads_require {condition : Bool} {f : Unit → Io (γ × Ext4Mount)} (rest : mount.Reads (f ()))
    : mount.Reads (require condition message >>= f) := by
  intro s size consistent
  refine .require fun _ => ?_
  exact rest s size consistent

theorem reads_expect {ε : Type} {result : Except ε β} (rest : ∀ value, mount.Reads (f value)) :
    mount.Reads (expect result message >>= f) := by
  intro s size consistent
  refine .expect fun value _ => ?_
  exact rest value s size consistent

theorem reads_expectSome {result : Option β} (rest : ∀ value, mount.Reads (f value)) :
    mount.Reads (expectSome result message >>= f) := by
  intro s size consistent
  refine .bind (Program.ensures_expectSome ?_)
  intro value _
  exact rest value s size consistent

theorem reads_cacheRead {block : Nat} {f : Block × BlockCache → Io (γ × Ext4Mount)}
    (rest : ∀ data cache, Reads { mount with cache } (f (data, cache))) :
    mount.Reads (mount.cache.readBlock device mount.superblock block >>= f) := by
  intro s size consistent
  refine .bind (ensures_cacheRead size (State.safe_true s) consistent ?_)
  intro cache kept
  exact rest _ cache s size kept

theorem reads_extentBlock {logicalBlock : Nat} {extent : Extent}
    {f : Option Nat → Io (γ × Ext4Mount)} (rest : ∀ value, mount.Reads (f value)) :
    mount.Reads (extentBlock mount.superblock logicalBlock extent >>= f) := by
  unfold extentBlock
  split
  · exact rest none
  intro s size consistent
  apply Program.Ensures.bind
  refine .require fun _ => ?_
  exact ⟨State.safe_true s, rest _ s size consistent⟩

theorem reads_readInode (inodeNumber : BitVec 32) :
    mount.Reads (mount.readInode device inodeNumber) := by
  intro s size consistent
  apply ensures_readInode size (State.safe_true s) consistent
  intro inode cache kept
  exact ⟨rfl, cache, kept, rfl⟩

theorem reads_probeJournal : mount.Reads (mount.probeJournal device) := by
  intro s size consistent
  apply ensures_probeJournal size (State.safe_true s) consistent
  intro journal cache kept _
  exact ⟨rfl, cache, kept, rfl⟩

theorem reads_descendExtents (logicalBlock depth childBlock : Nat) :
    mount.Reads (descendExtents device inode logicalBlock depth childBlock mount) := by
  induction depth generalizing mount childBlock with
  | zero => exact fun s _ _ => State.safe_true s
  | succ depth ih =>
    apply reads_require
    apply reads_cacheRead
    intro block cache
    apply reads_expect
    intro node
    split
    · apply reads_expect
      intro extent
      exact reads_pure extent
    apply reads_expect
    intro found
    apply reads_expectSome
    intro index
    exact ih index.childBlock

theorem reads_inodePhysicalBlock (logicalBlock : Nat) :
    mount.Reads (mount.inodePhysicalBlock device inode logicalBlock) := by
  have extents : mount.Reads (mount.fileExtent device inode logicalBlock) := by
    apply reads_expect
    intro depth
    split
    · apply reads_expect
      intro extent
      exact reads_pure extent
    apply reads_expect
    intro found
    apply reads_expectSome
    intro index
    exact reads_descendExtents inode logicalBlock depth index.childBlock
  apply reads_require
  apply extents.bind
  intro found cache
  cases found with
  | none => exact reads_pure none
  | some extent =>
    apply reads_extentBlock
    intro physicalBlock
    exact reads_pure physicalBlock

theorem reads_readFileBlock (file : Ext4File) (logicalBlock : Nat) :
    mount.Reads (mount.readFileBlock device file logicalBlock) := by
  apply (reads_inodePhysicalBlock file.inode logicalBlock).bind
  intro found cache
  cases found with
  | none => exact reads_pure _
  | some physicalBlock =>
    apply reads_cacheRead
    intro block cache'
    exact reads_pure _

theorem reads_findDirectoryEntry (component : Bytes) :
    mount.Reads (mount.findDirectoryEntry device inode component) := by
  have search (remaining logicalBlock : Nat) (mount : Ext4Mount) :
      mount.Reads (searchDirectory device inode component remaining logicalBlock mount) := by
    induction remaining generalizing logicalBlock mount with
    | zero => exact reads_pure none
    | succ remaining ih =>
      apply (reads_inodePhysicalBlock inode logicalBlock).bind
      intro found cache
      apply reads_expectSome
      intro physicalBlock
      apply reads_cacheRead
      intro block cache'
      apply reads_expect
      intro directory
      split
      · exact reads_pure _
      · exact ih (logicalBlock + 1) _
  apply reads_require
  apply reads_require
  apply reads_require
  exact search _ 0 mount

theorem reads_followSymlink (parent link : Inode) (last : Bool) :
    mount.Reads (mount.followSymlink device parent link last) := by
  apply reads_require
  apply reads_expect
  intro target
  apply reads_require
  apply (reads_findDirectoryEntry parent target).bind
  intro found cache
  rcases found with _ | ⟨targetInode, targetType, targetBlock⟩
  · exact reads_pure none
  apply reads_require
  apply (reads_readInode targetInode).bind
  intro current cache'
  exact reads_require (reads_pure _)

theorem reads_resolveComponents (components : List Bytes) (resolved : Ext4File) :
    mount.Reads (resolveComponents device components resolved mount) := by
  induction components generalizing resolved mount with
  | nil => exact reads_pure (some resolved)
  | cons component rest ih =>
    apply reads_require
    apply (reads_findDirectoryEntry resolved.inode component).bind
    intro found cache
    rcases found with _ | ⟨inodeNumber, fileType, entryBlock⟩
    · exact reads_pure none
    apply (reads_readInode inodeNumber).bind
    intro current cache'
    dsimp only
    split
    · apply (reads_followSymlink resolved.inode current rest.isEmpty).bind
      intro followed cache''
      rcases followed with _ | ⟨target, targetBlock⟩
      · exact reads_pure none
      · exact ih _
    · exact reads_require (ih _)

theorem reads_tryOpenFile (components : List Bytes) :
    mount.Reads (mount.tryOpenFile device components) := by
  have resolve : mount.Reads (mount.tryResolvePath device components) := by
    apply reads_require
    apply (reads_readInode ROOT_INODE).bind
    intro root cache
    exact reads_resolveComponents components _
  apply resolve.bind
  intro found cache
  cases found with
  | none => exact reads_pure none
  | some file => exact reads_require (reads_pure _)

end Ext4Mount

end SlopOS.Filesystem
