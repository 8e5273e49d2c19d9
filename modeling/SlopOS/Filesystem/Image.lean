import SlopOS.Filesystem.Files

/-!
# Well-formed images and path resolution

A tree of directories, regular files and symbolic links, and what it means that a disk
stores it.  `FileTree.resolve` says what a list of components names, in the terms of the tree;
on a disk that stores the tree the walk of the mount finds exactly that, whatever the
cache holds.
-/

namespace SlopOS.Filesystem

open ByteCodec CrashDisk Ext4
open Program (run_bind_of_ok run_require run_expect run_expectSome require expect expectSome)

/-! ## Trees -/

inductive Node where
  | directory (entries : List DirectoryEntry)
  | regular (size : BitVec 64)
  /-- The target, when it is stored in the inode. -/
  | symlink (target : Option Bytes)

def Node.entryType : Node → BitVec 8
  | .directory _ => DIRECTORY_ENTRY_DIRECTORY
  | .regular _ => DIRECTORY_ENTRY_REGULAR_FILE
  | .symlink _ => DIRECTORY_ENTRY_SYMLINK

/-- The inodes in use. -/
structure FileTree where
  node : BitVec 32 → Option Node

def lookup (entries : List DirectoryEntry) (name : Bytes) : Option DirectoryEntry :=
  entries.find? fun entry => decide (entry.name = name)

inductive Resolution where
  | missing
  | file (inode : BitVec 32) (size : BitVec 64)
  /-- Something other than a regular file, or a link that is not followed. -/
  | unsupported
  deriving DecidableEq

/-- One step along a link: its target is a regular file of the same directory. -/
def FileTree.follow (tree : FileTree) (entries : List DirectoryEntry) : Option Bytes → Resolution
  | none => .unsupported
  | some target =>
      if (validatePathComponent target).isOk then
        match lookup entries target with
        | none => .missing
        | some entry =>
            match tree.node entry.inode with
            | some (.regular size) => .file entry.inode size
            | _ => .unsupported
      else .unsupported

/-- The components are looked up from the directory with these entries on; a link may
stand at the end only. -/
def FileTree.resolveIn (tree : FileTree) : List DirectoryEntry → List Bytes → Resolution
  | _, [] => .unsupported
  | entries, component :: rest =>
      match lookup entries component with
      | none => .missing
      | some entry =>
          match tree.node entry.inode with
          | some (.directory below) => tree.resolveIn below rest
          | some (.regular size) => if rest = [] then .file entry.inode size else .unsupported
          | some (.symlink target) => if rest = [] then tree.follow entries target else .unsupported
          | none => .unsupported

def FileTree.resolve (tree : FileTree) (components : List Bytes) : Resolution :=
  match tree.node ROOT_INODE with
  | some (.directory entries) => tree.resolveIn entries components
  | _ => .unsupported

/-! ## What a disk stores

All blocks that are read lie below `limit`. -/

section Stored

variable (superblock : Superblock) (disk : Disk Block) (limit : Nat)

/-- The descriptor of a group; the mount keeps that of group 0. -/
def GroupOn (group0 : GroupDescriptor) (groupIndex : BitVec 32) (group : GroupDescriptor) : Prop :=
  if groupIndex = 0#32 then group = group0
  else ∃ location, superblock.groupDescriptorLocation groupIndex = .ok location ∧
    location.block < limit ∧
    location.offset + superblock.descriptorSize.toNat ≤ BLOCK_SIZE ∧
    GroupDescriptor.parse (((disk location.block).bytes.drop location.offset).take
      superblock.descriptorSize.toNat) groupIndex superblock = .ok group

def InodeOn (group0 : GroupDescriptor) (number : BitVec 32) (inode : Inode) : Prop :=
  ∃ groupIndex group location, superblock.inodeGroup number = .ok groupIndex ∧
    GroupOn superblock disk limit group0 groupIndex group ∧
    superblock.inodeLocation number group = .ok location ∧ location.block < limit ∧
    location.offset + superblock.inodeSize.toNat ≤ BLOCK_SIZE ∧
    Inode.parse (((disk location.block).bytes.drop location.offset).take
      superblock.inodeSize.toNat) number superblock = .ok inode

/-- The extent of a logical block below an index entry of the given depth. -/
inductive ExtentOn (inode : Inode) (logicalBlock : Nat) : Nat → Nat → Extent → Prop
  | leaf {childBlock : Nat} {node : ExtentNode} {extent : Extent}
      (inside : childBlock ≠ 0 ∧ childBlock < superblock.blockCount.toNat)
      (below : childBlock < limit)
      (parsed : ExtentNode.parse (disk childBlock).bytes 0 inode superblock = .ok node)
      (found : node.extentForLogicalBlock logicalBlock = .ok (some extent)) :
      ExtentOn inode logicalBlock 1 childBlock extent
  | index {depth childBlock : Nat} {node : ExtentNode} {entry : ExtentIndex} {extent : Extent}
      (inside : childBlock ≠ 0 ∧ childBlock < superblock.blockCount.toNat)
      (below : childBlock < limit)
      (parsed : ExtentNode.parse (disk childBlock).bytes (depth + 1) inode superblock =
        .ok node)
      (found : node.extentIndexForLogicalBlock logicalBlock = .ok (some entry))
      (rest : ExtentOn inode logicalBlock (depth + 1) entry.childBlock extent) :
      ExtentOn inode logicalBlock (depth + 2) childBlock extent

/-- The extent of a logical block: in the inode or in the tree below it. -/
def FileExtentOn (inode : Inode) (logicalBlock : Nat) (extent : Extent) : Prop :=
  (inode.extentDepth = .ok 0 ∧ inode.extentForLogicalBlock logicalBlock = .ok (some extent)) ∨
  ∃ depth entry, depth ≠ 0 ∧ inode.extentDepth = .ok depth ∧
    inode.extentIndexForLogicalBlock logicalBlock = .ok (some entry) ∧
    ExtentOn superblock disk limit inode logicalBlock depth entry.childBlock extent

/-- The block of the disk behind a logical block that is no hole. -/
def BlockOn (inode : Inode) (logicalBlock physicalBlock : Nat) : Prop :=
  logicalBlock < fileBlockCount superblock inode ∧ physicalBlock < limit ∧
  ∃ extent, FileExtentOn superblock disk limit inode logicalBlock extent ∧
    extent.unwritten = false ∧
    physicalBlock = extent.physicalBlock + (logicalBlock - extent.logicalBlock.toNat) ∧
    physicalBlock < superblock.blockCount.toNat ∧
    extent.physicalBlock + extent.blockCount ≤ superblock.blockCount.toNat

/-- A linear directory without holes, and its blocks. -/
structure DirectoryOn (inode : Inode) (blocks : List DirectoryBlock) : Prop where
  directory : inode.isDirectory = true
  linear : inode.flags &&& INODE_FLAG_DIRECTORY_INDEX = 0#32
  length : blocks.length = fileBlockCount superblock inode
  nonempty : blocks.length ≠ 0
  small : blocks.length < 2 ^ 32
  parsed : ∀ logicalBlock block, blocks[logicalBlock]? = some block →
    ∃ physicalBlock, BlockOn superblock disk limit inode logicalBlock physicalBlock ∧
      DirectoryBlock.parse (disk physicalBlock).bytes inode superblock = .ok block

/-- The inode and the blocks behind it are those of the node. -/
def Represents (inode : Inode) : Node → Prop
  | .directory entries => ∃ blocks, DirectoryOn superblock disk limit inode blocks ∧
      entries = blocks.flatMap (·.entries)
  | .regular size => inode.isRegularFile = true ∧ inode.size = size
  | .symlink target => inode.isSymlink = true ∧ inode.inlineSymlink.toOption = target

/-- The disk stores the tree: every inode in use is where the mount looks for it, and every
entry of a directory has the type of its inode. -/
structure Image (group0 : GroupDescriptor) (device : BlockDevice) (tree : FileTree) : Prop where
  size : superblock.blockSize = 4096#32
  fits : device.Fits limit
  root : ∃ entries, tree.node ROOT_INODE = some (.directory entries)
  stored : ∀ number node, tree.node number = some node →
    ∃ inode, InodeOn superblock disk limit group0 number inode ∧
      Represents superblock disk limit inode node
  typed : ∀ number entries, tree.node number = some (.directory entries) → ∀ entry ∈ entries,
    ∃ node, tree.node entry.inode = some node ∧ entry.fileType = node.entryType

end Stored

/-! ## Programs that find a value -/

/-- From any consistent cache the program returns the value; the disk stays as it is and the
mount changes in its cache only. -/
def Ext4Mount.Finds {α : Type} (mount : Ext4Mount) (disk : Disk Block) (p : Io (α × Ext4Mount))
    (value : α) : Prop :=
  mount.cache.Consistent disk → ∃ cache : BlockCache, cache.Consistent disk ∧
    p.run (State.settled disk) = .ok ((value, { mount with cache }), State.settled disk)

namespace Ext4Mount

variable {α γ ε β : Type} {mount : Ext4Mount} {disk : Disk Block} {device : BlockDevice}
  {limit : Nat} {p : Io (α × Ext4Mount)} {value : α} {result : γ} {message : String}
  {f : β → Io (γ × Ext4Mount)} {found : β}

theorem finds_pure (value : α) : mount.Finds disk (.pure (value, mount)) value :=
  fun consistent => ⟨mount.cache, consistent, rfl⟩

theorem Finds.bind {f : α × Ext4Mount → Io (γ × Ext4Mount)} (first : mount.Finds disk p value)
    (rest : ∀ cache, Finds { mount with cache } disk (f (value, { mount with cache })) result) :
    mount.Finds disk (p >>= f) result := by
  intro consistent
  obtain ⟨cache, kept, ran⟩ := first consistent
  obtain ⟨cache', kept', ran'⟩ := rest cache kept
  exact ⟨cache', kept', (run_bind_of_ok ran).trans ran'⟩

theorem finds_require {condition : Bool} {f : Unit → Io (γ × Ext4Mount)} (holds : condition = true)
    (rest : mount.Finds disk (f ()) result) :
    mount.Finds disk (require condition message >>= f) result := by
  intro consistent
  rw [run_bind_of_ok (run_require holds)]
  exact rest consistent

theorem finds_expect {outcome : Except ε β} (holds : outcome = .ok found)
    (rest : mount.Finds disk (f found) result) :
    mount.Finds disk (expect outcome message >>= f) result := by
  intro consistent
  rw [run_bind_of_ok (run_expect holds)]
  exact rest consistent

theorem finds_expectSome {outcome : Option β} (holds : outcome = some found)
    (rest : mount.Finds disk (f found) result) :
    mount.Finds disk (expectSome outcome message >>= f) result := by
  intro consistent
  rw [run_bind_of_ok (run_expectSome holds)]
  exact rest consistent

theorem run_cacheRead {cache : BlockCache} {superblock : Superblock} {block : Nat}
    (size : superblock.blockSize = 4096#32) (fits : device.Fits limit) (below : block < limit)
    (consistent : cache.Consistent disk) : ∃ cache' : BlockCache, cache'.Consistent disk ∧
      (cache.readBlock device superblock block).run (State.settled disk) =
        .ok ((disk block, cache'), State.settled disk) := by
  unfold BlockCache.readBlock
  cases found : cache.find block with
  | some entry =>
    obtain ⟨member, valid, same⟩ := BlockCache.find_some found
    have data := consistent.coherent entry member valid
    rw [same] at data
    refine ⟨{ cache with hits := cache.hits + 1 }, ⟨⟨consistent.full, consistent.victim,
      consistent.distinct⟩, consistent.coherent⟩, ?_⟩
    rw [← data]
    rfl
  | none =>
    refine ⟨_, consistent.fill found, ?_⟩
    exact (run_bind_of_ok (run_readBlock size fits below)).trans rfl

theorem finds_cacheRead (mount : Ext4Mount) {block : Nat}
    {f : Block × BlockCache → Io (γ × Ext4Mount)}
    (size : mount.superblock.blockSize = 4096#32) (fits : device.Fits limit) (below : block < limit)
    (rest : ∀ cache, Finds { mount with cache } disk (f (disk block, cache)) result) :
    mount.Finds disk (mount.cache.readBlock device mount.superblock block >>= f) result := by
  intro consistent
  obtain ⟨cache, kept, ran⟩ := run_cacheRead size fits below consistent
  obtain ⟨cache', kept', ran'⟩ := rest cache kept
  exact ⟨cache', kept', (run_bind_of_ok ran).trans ran'⟩

/-! ## The walk on a stored tree -/

variable {inode link : Inode} {logicalBlock physicalBlock : Nat} {blocks : List DirectoryBlock}
  {number : BitVec 32} {name : Bytes}

section

variable (size : mount.superblock.blockSize = 4096#32) (fits : device.Fits limit)
include size fits

theorem run_readGroup {groupIndex : BitVec 32} {group : GroupDescriptor}
    (stored : GroupOn mount.superblock disk limit mount.group0 groupIndex group)
    (consistent : mount.cache.Consistent disk) : ∃ cache : BlockCache, cache.Consistent disk ∧
      (mount.readGroup device groupIndex).run (State.settled disk) =
        .ok ((group, cache), State.settled disk) := by
  unfold readGroup
  unfold GroupOn at stored
  split at stored
  · next zero =>
    rw [if_pos zero, stored]
    exact ⟨mount.cache, consistent, rfl⟩
  next nonzero =>
  obtain ⟨location, located, below, inside, parsed⟩ := stored
  obtain ⟨cache, kept, ran⟩ := run_cacheRead size fits below consistent
  refine ⟨cache, kept, ?_⟩
  rw [if_neg nonzero]
  unfold readGroupDescriptor
  rw [run_bind_of_ok (run_expect located), run_bind_of_ok ran]
  rw [run_bind_of_ok (run_require (decide_eq_true inside)), run_bind_of_ok (run_expect parsed)]
  rfl

theorem finds_readInode (stored : InodeOn mount.superblock disk limit mount.group0 number inode) :
    mount.Finds disk (mount.readInode device number) inode := by
  obtain ⟨groupIndex, group, location, grouped, groupOn, located, below, inside, parsed⟩ := stored
  apply finds_expect grouped
  intro consistent
  obtain ⟨cache, kept, ran⟩ := run_readGroup size fits groupOn consistent
  rw [run_bind_of_ok ran]
  revert kept
  apply @finds_expect _ _ _ { mount with cache }
  · exact located
  apply finds_cacheRead { mount with cache } size fits below
  intro cache'
  apply finds_require (decide_eq_true inside)
  apply finds_expect parsed
  exact finds_pure inode

theorem finds_descendExtents {depth childBlock : Nat} {extent : Extent}
    (stored : ExtentOn mount.superblock disk limit inode logicalBlock depth childBlock extent) :
    mount.Finds disk (descendExtents device inode logicalBlock depth childBlock mount)
      (some extent) := by
  have general : ∀ cache, Finds { mount with cache } disk
      (descendExtents device inode logicalBlock depth childBlock { mount with cache })
      (some extent) := by
    induction stored with
    | leaf inside below parsed found =>
      intro cache
      apply finds_require (decide_eq_true inside)
      apply finds_cacheRead { mount with cache } size fits below
      intro cache'
      apply finds_expect parsed
      rw [if_pos (ExtentNode.parse_depth parsed)]
      apply finds_expect found
      exact finds_pure _
    | index inside below parsed found rest ih =>
      intro cache
      apply finds_require (decide_eq_true inside)
      apply finds_cacheRead { mount with cache } size fits below
      intro cache'
      apply finds_expect parsed
      rw [if_neg (by rw [ExtentNode.parse_depth parsed]; exact Nat.succ_ne_zero _)]
      apply finds_expect found
      apply finds_expectSome rfl
      exact ih cache'
  exact general mount.cache

theorem finds_inodePhysicalBlock
    (stored : BlockOn mount.superblock disk limit inode logicalBlock physicalBlock) :
    mount.Finds disk (mount.inodePhysicalBlock device inode logicalBlock) (some physicalBlock) := by
  obtain ⟨bound, -, extent, extentOn, written, place, inside, ends⟩ := stored
  have found : mount.Finds disk (mount.fileExtent device inode logicalBlock) (some extent) := by
    rcases extentOn with ⟨inlined, found⟩ | ⟨depth, entry, nonzero, depthed, indexed, below⟩
    · apply finds_expect inlined
      apply finds_expect found
      exact finds_pure _
    · apply finds_expect depthed
      rw [if_neg nonzero]
      apply finds_expect indexed
      apply finds_expectSome rfl
      exact finds_descendExtents size fits below
  apply finds_require (decide_eq_true bound)
  apply found.bind
  intro cache consistent
  have block : (extentBlock mount.superblock logicalBlock extent).run (State.settled disk) =
      .ok (some physicalBlock, State.settled disk) := by
    unfold extentBlock
    rw [if_neg (by rw [written]; exact Bool.false_ne_true)]
    rw [← place, run_bind_of_ok (run_require (decide_eq_true ⟨inside, ends⟩))]
    rfl
  exact ⟨cache, consistent, run_bind_of_ok block⟩

end

/-- The first record with the name, and the block it is in. -/
def searchBlocks (name : Bytes) : List DirectoryBlock → Nat → Option (BitVec 32 × BitVec 8 × Nat)
  | [], _ => none
  | block :: rest, logicalBlock =>
      match block.find name with
      | some entry => some (entry.inode, entry.fileType, logicalBlock)
      | none => searchBlocks name rest (logicalBlock + 1)

theorem searchBlocks_eq (name : Bytes) (blocks : List DirectoryBlock) (logicalBlock : Nat) :
    (searchBlocks name blocks logicalBlock).map (fun found => (found.1, found.2.1)) =
      (lookup (blocks.flatMap (·.entries)) name).map fun entry => (entry.inode, entry.fileType) := by
  induction blocks generalizing logicalBlock with
  | nil => rfl
  | cons block rest ih =>
    unfold searchBlocks lookup
    rw [List.flatMap_cons, List.find?_append, ← DirectoryBlock.find_eq]
    cases found : block.find name with
    | some entry => rfl
    | none =>
      exact ih (logicalBlock + 1)

theorem finds_findDirectoryEntry (size : mount.superblock.blockSize = 4096#32)
    (fits : device.Fits limit) (stored : DirectoryOn mount.superblock disk limit inode blocks) :
    mount.Finds disk (mount.findDirectoryEntry device inode name) (searchBlocks name blocks 0) := by
  have search (rest : List DirectoryBlock) : ∀ first cache, (∀ offset block,
      rest[offset]? = some block → ∃ physicalBlock,
        BlockOn mount.superblock disk limit inode (first + offset) physicalBlock ∧
        DirectoryBlock.parse (disk physicalBlock).bytes inode mount.superblock = .ok block) →
      Finds { mount with cache } disk
        (searchDirectory device inode name rest.length first { mount with cache })
        (searchBlocks name rest first) := by
    induction rest with
    | nil => exact fun _ _ _ => finds_pure none
    | cons block rest ih =>
      intro first cache held
      obtain ⟨physicalBlock, blockOn, parsed⟩ := held 0 block rfl
      have here : Finds { mount with cache } disk
          (inodePhysicalBlock { mount with cache } device inode first) (some physicalBlock) :=
        finds_inodePhysicalBlock size fits blockOn
      apply here.bind
      intro cache'
      apply finds_expectSome rfl
      apply finds_cacheRead { mount with cache := cache' } size fits blockOn.2.1
      intro cache''
      apply finds_expect parsed
      unfold searchBlocks
      cases found : block.find name with
      | some entry => exact finds_pure _
      | none =>
        apply ih (first + 1) cache''
        intro offset later inside
        rw [Nat.add_assoc, Nat.add_comm 1 offset]
        exact held (offset + 1) later inside
  apply finds_require stored.directory
  apply finds_require (decide_eq_true stored.linear)
  apply finds_require
  · apply decide_eq_true
    rw [← stored.length]
    exact ⟨stored.nonempty, stored.small⟩
  rw [← stored.length]
  apply search blocks 0 mount.cache
  intro offset block inside
  rw [Nat.zero_add]
  exact stored.parsed offset block inside

/-! ## Resolution on the disk -/

/-- What the walk returns for what the tree says. -/
def Answers (outcome : Option Ext4File) : Resolution → Prop
  | .missing => outcome = none
  | .file number size => ∃ file, outcome = some file ∧ file.inode.number = number ∧
      file.inode.size = size ∧ file.inode.isRegularFile = true
  | .unsupported => False

variable {tree : FileTree} {entry : DirectoryEntry}

theorem inodeOn_number (stored : InodeOn mount.superblock disk limit mount.group0 number inode) :
    inode.number = number := by
  obtain ⟨groupIndex, group, location, -, -, -, -, -, parsed⟩ := stored
  exact Inode.parse_number parsed

/-- An entry of a directory leads to the stored node of its type. -/
theorem exists_stored (image : Image mount.superblock disk limit mount.group0 device tree)
    {entries : List DirectoryEntry} (directory : tree.node number = some (.directory entries))
    (found : lookup entries name = some entry) :
    ∃ node inode, tree.node entry.inode = some node ∧ entry.fileType = node.entryType ∧
      InodeOn mount.superblock disk limit mount.group0 entry.inode inode ∧
      Represents mount.superblock disk limit inode node := by
  obtain ⟨node, present, typed⟩ :=
    image.typed number entries directory entry (List.mem_of_find?_eq_some found)
  obtain ⟨inode, stored, represents⟩ := image.stored entry.inode node present
  exact ⟨node, inode, present, typed, stored, represents⟩

theorem searchBlocks_none (absent : lookup (blocks.flatMap (·.entries)) name = none) :
    searchBlocks name blocks 0 = none := by
  have same := searchBlocks_eq name blocks 0
  rw [absent, Option.map_none, Option.map_eq_none_iff] at same
  exact same

theorem searchBlocks_some (found : lookup (blocks.flatMap (·.entries)) name = some entry) :
    ∃ place, searchBlocks name blocks 0 = some (entry.inode, entry.fileType, place) := by
  have same := searchBlocks_eq name blocks 0
  rw [found, Option.map_some, Option.map_eq_some_iff] at same
  obtain ⟨⟨number, fileType, place⟩, searched, pair⟩ := same
  cases pair
  exact ⟨place, searched⟩

theorem inlineSymlink_eq (targeted : link.inlineSymlink.toOption = some name) :
    link.inlineSymlink = .ok name := by
  cases outcome : link.inlineSymlink with
  | ok other =>
    rw [outcome] at targeted
    exact congrArg Except.ok (Option.some.inj targeted)
  | error e =>
    rw [outcome] at targeted
    cases targeted

theorem finds_followSymlink (image : Image mount.superblock disk limit mount.group0 device tree)
    {parent : Inode} {target : Option Bytes}
    (directory : tree.node number = some (.directory (blocks.flatMap (·.entries))))
    (stored : DirectoryOn mount.superblock disk limit parent blocks)
    (symlink : link.isSymlink = true) (targeted : link.inlineSymlink.toOption = target)
    (supported : tree.follow (blocks.flatMap (·.entries)) target ≠ .unsupported) :
    ∃ followed, (∀ cache, Finds { mount with cache } disk
        (followSymlink { mount with cache } device parent link true) followed) ∧
      ∀ parentInode followedSymlink, Answers (followed.map fun found =>
        ⟨found.1, parentInode, found.2, followedSymlink⟩)
        (tree.follow (blocks.flatMap (·.entries)) target) := by
  unfold FileTree.follow at supported ⊢
  cases target with
  | none => exact absurd rfl supported
  | some name =>
    dsimp only at supported ⊢
    split at supported
    · next valid =>
      rw [if_pos valid]
      have searched (cache : BlockCache) : Finds { mount with cache } disk
          (findDirectoryEntry { mount with cache } device parent name)
          (searchBlocks name blocks 0) :=
        finds_findDirectoryEntry image.size image.fits stored
      have last : (true && link.isSymlink) = true := symlink
      have inlined := inlineSymlink_eq targeted
      cases found : lookup (blocks.flatMap (·.entries)) name with
      | none =>
        refine ⟨none, fun cache => ?_, fun _ _ => rfl⟩
        apply finds_require last
        apply finds_expect inlined
        apply finds_require valid
        apply (searched cache).bind
        intro cache'
        rw [searchBlocks_none found]
        exact finds_pure none
      | some entry =>
        rw [found] at supported
        obtain ⟨node, inode, present, typed, inodeOn, represents⟩ :=
          exists_stored image directory found
        obtain ⟨place, here⟩ := searchBlocks_some found
        dsimp only at supported ⊢
        rw [present] at supported ⊢
        cases node with
        | directory | symlink => exact absurd rfl supported
        | regular size =>
          refine ⟨some (inode, place), fun cache => ?_, fun _ _ =>
            ⟨_, rfl, inodeOn_number inodeOn, represents.2, represents.1⟩⟩
          apply finds_require last
          apply finds_expect inlined
          apply finds_require valid
          apply (searched cache).bind
          intro cache'
          rw [here]
          apply finds_require (decide_eq_true typed)
          have read : Finds { mount with cache := cache' } disk
              (readInode { mount with cache := cache' } device entry.inode) inode :=
            finds_readInode image.size image.fits inodeOn
          apply read.bind
          intro cache''
          apply finds_require represents.1
          exact finds_pure _
    · exact absurd rfl supported

section

variable (image : Image mount.superblock disk limit mount.group0 device tree)
  {components : List Bytes}
  (valid : ∀ component ∈ components, validatePathComponent component = .ok ())
include image valid

/-- The walk from a stored directory answers what the tree says. -/
theorem finds_resolveComponents :
    ∀ {number : BitVec 32} {blocks : List DirectoryBlock} (resolved : Ext4File),
      tree.node number = some (.directory (blocks.flatMap (·.entries))) →
      DirectoryOn mount.superblock disk limit resolved.inode blocks →
      tree.resolveIn (blocks.flatMap (·.entries)) components ≠ .unsupported →
      ∃ outcome, (∀ cache, Finds { mount with cache } disk
          (resolveComponents device components resolved { mount with cache }) outcome) ∧
        Answers outcome (tree.resolveIn (blocks.flatMap (·.entries)) components) := by
  induction components with
  | nil => exact fun _ _ _ supported => absurd rfl supported
  | cons component rest ih =>
    intro number blocks resolved directory stored supported
    have accepted : (validatePathComponent component).isOk = true := by
      rw [valid component List.mem_cons_self]
      rfl
    have searched (cache : BlockCache) : Finds { mount with cache } disk
        (findDirectoryEntry { mount with cache } device resolved.inode component)
        (searchBlocks component blocks 0) :=
      finds_findDirectoryEntry image.size image.fits stored
    unfold FileTree.resolveIn at supported ⊢
    cases found : lookup (blocks.flatMap (·.entries)) component with
    | none =>
      refine ⟨none, fun cache => ?_, rfl⟩
      apply finds_require accepted
      apply (searched cache).bind
      intro cache'
      rw [searchBlocks_none found]
      exact finds_pure none
    | some entry =>
      rw [found] at supported
      obtain ⟨node, inode, present, typed, inodeOn, represents⟩ :=
        exists_stored image directory found
      obtain ⟨place, here⟩ := searchBlocks_some found
      dsimp only at supported ⊢
      rw [present] at supported ⊢
      have read (cache : BlockCache) : Finds { mount with cache } disk
          (readInode { mount with cache } device entry.inode) inode :=
        finds_readInode image.size image.fits inodeOn
      cases node with
      | directory below =>
        obtain ⟨blocks', stored', rfl⟩ := represents
        have typed : entry.fileType = DIRECTORY_ENTRY_DIRECTORY := typed
        obtain ⟨outcome, walk, answers⟩ := ih
          (fun part member => valid part (List.mem_cons_of_mem _ member))
          ⟨inode, resolved.inode.number, place, resolved.followedSymlink⟩ present stored' supported
        refine ⟨outcome, fun cache => ?_, answers⟩
        apply finds_require accepted
        apply (searched cache).bind
        intro cache'
        rw [here]
        apply (read cache').bind
        intro cache''
        rw [typed]
        apply finds_require
        · exact decide_eq_true (.inl ⟨rfl, stored'.directory⟩)
        · exact walk cache''
      | regular size =>
        dsimp only at supported ⊢
        split at supported
        · next last =>
          subst last
          have typed : entry.fileType = DIRECTORY_ENTRY_REGULAR_FILE := typed
          refine ⟨some ⟨inode, resolved.inode.number, place, resolved.followedSymlink⟩,
            fun cache => ?_, _, rfl, inodeOn_number inodeOn, represents.2, represents.1⟩
          apply finds_require accepted
          apply (searched cache).bind
          intro cache'
          rw [here]
          apply (read cache').bind
          intro cache''
          rw [typed]
          apply finds_require
          · exact decide_eq_true (.inr ⟨rfl, represents.1⟩)
          · exact finds_pure _
        · exact absurd rfl supported
      | symlink target =>
        dsimp only at supported ⊢
        split at supported
        · next last =>
          subst last
          have typed : entry.fileType = DIRECTORY_ENTRY_SYMLINK := typed
          obtain ⟨followed, follows, answers⟩ :=
            finds_followSymlink image directory stored represents.1 represents.2 supported
          refine ⟨_, fun cache => ?_, answers resolved.inode.number inode.number⟩
          apply finds_require accepted
          apply (searched cache).bind
          intro cache'
          rw [here]
          apply (read cache').bind
          intro cache''
          rw [typed]
          apply (follows cache'').bind
          intro cacheAfter
          rcases followed with _ | ⟨target, targetBlock⟩
          · exact finds_pure none
          · exact finds_pure _
        · exact absurd rfl supported

/-- Opening a path on a disk that stores the tree answers what the tree says. -/
theorem finds_tryOpenFile (supported : tree.resolve components ≠ .unsupported) :
    ∃ outcome, mount.Finds disk (mount.tryOpenFile device components) outcome ∧
      Answers outcome (tree.resolve components) := by
  obtain ⟨entries, root⟩ := image.root
  obtain ⟨inode, inodeOn, blocks, stored, rfl⟩ := image.stored ROOT_INODE _ root
  unfold FileTree.resolve at supported ⊢
  rw [root] at supported ⊢
  obtain ⟨outcome, walk, answers⟩ := finds_resolveComponents image valid
    ⟨inode, ROOT_INODE, 0, 0#32⟩ root stored supported
  refine ⟨outcome, ?_, answers⟩
  have nonempty : components ≠ [] := by
    rintro rfl
    exact supported rfl
  have resolved : mount.Finds disk (mount.tryResolvePath device components) outcome := by
    apply finds_require (decide_eq_true nonempty)
    apply (finds_readInode image.size image.fits inodeOn).bind
    intro cache
    exact walk cache
  apply resolved.bind
  intro cache
  cases outcome with
  | none => exact finds_pure none
  | some file =>
    have regular : file.inode.isRegularFile = true := by
      cases resolution : tree.resolveIn (blocks.flatMap (·.entries)) components with
      | missing =>
        rw [resolution] at answers
        cases answers
      | unsupported => exact absurd resolution supported
      | file number size =>
        rw [resolution] at answers
        obtain ⟨found, same, -, -, regular⟩ := answers
        cases same
        exact regular
    apply finds_require regular
    exact finds_pure _

end

end Ext4Mount

end SlopOS.Filesystem
