import SlopOS.Ext4.Superblock

/-!
# Group descriptors, inodes and inline extents

What the mount reads to find the journal: the location of a group descriptor and
of an inode, their checksummed parsers, and the lookup in an inline extent root.
-/

namespace SlopOS.Ext4

open ByteCodec

def INODE_FLAG_EXTENTS : BitVec 32 := 0x00080000#32
def JOURNAL_INODE : BitVec 32 := 8#32
def REGULAR_FILE_MODE : BitVec 16 := 0x8000#16
def MODE_TYPE_MASK : BitVec 16 := 0xf000#16
def EXTENT_HEADER_MAGIC : BitVec 16 := 0xf30a#16
def EXTENT_HEADER_SIZE : Nat := 12
def EXTENT_ENTRY_SIZE : Nat := 12
def MAX_EXTENT_DEPTH : Nat := 5

/-- A 32-bit field from its two halves. -/
def joinHalves16 (low high : BitVec 16) : BitVec 32 :=
  low.setWidth 32 ||| (high.setWidth 32 <<< 16)

/-! ## Locations -/

variable (s : Superblock)

def Superblock.groupDescriptorBlock : Nat := s.firstDataBlock.toNat + 1

/-- `div_ceil` of the data blocks by the group size. -/
def Superblock.groupCount : Nat :=
  (s.blockCount.toNat - s.firstDataBlock.toNat + s.blocksPerGroup.toNat - 1) /
    s.blocksPerGroup.toNat

def Superblock.inodeGroup (inodeNumber : BitVec 32) : Except ParseError (BitVec 32) :=
  if inodeNumber = 0#32 ∨ s.inodeCount.toNat < inodeNumber.toNat then throw .invalidInode
  else .ok ((inodeNumber - 1#32) / s.inodesPerGroup)

structure GroupDescriptorLocation where
  block : Nat
  offset : Nat
  deriving DecidableEq, Repr

/-- The byte offset of a 32-bit index times a 16-bit size fits 64 bits. -/
def Superblock.groupDescriptorLocation (groupIndex : BitVec 32) :
    Except ParseError GroupDescriptorLocation :=
  if s.groupCount ≤ groupIndex.toNat then throw .invalidGeometry
  else
    let byteOffset := groupIndex.toNat * s.descriptorSize.toNat
    .ok ⟨s.groupDescriptorBlock + byteOffset / s.blockSize.toNat, byteOffset % s.blockSize.toNat⟩

structure GroupDescriptor where
  groupIndex : BitVec 32
  blockBitmapBlock : BitVec 64
  inodeBitmapBlock : BitVec 64
  inodeTableBlock : BitVec 64
  freeBlockCount : BitVec 32
  freeInodeCount : BitVec 32
  usedDirectoryCount : BitVec 32
  unusedInodeCount : BitVec 32
  checksum : BitVec 16
  deriving DecidableEq, Repr

structure InodeLocation where
  block : Nat
  offset : Nat
  deriving DecidableEq, Repr

def Superblock.inodeLocation (inodeNumber : BitVec 32) (group : GroupDescriptor) :
    Except ParseError InodeLocation :=
  if inodeNumber = 0#32 ∨ s.inodeCount.toNat < inodeNumber.toNat then throw .invalidInode
  else
    let zeroBased := inodeNumber - 1#32
    if zeroBased / s.inodesPerGroup ≠ group.groupIndex then throw .invalidInode
    else
      let indexInGroup := (zeroBased % s.inodesPerGroup).toNat
      let start := group.inodeTableBlock.toNat * s.blockSize.toNat
      let offset := indexInGroup * s.inodeSize.toNat
      -- `checked_mul` and `checked_add` on 64 bits.
      if 2 ^ 64 ≤ start ∨ 2 ^ 64 ≤ offset ∨ 2 ^ 64 ≤ start + offset then throw .invalidInode
      else .ok ⟨(start + offset) / s.blockSize.toNat, (start + offset) % s.blockSize.toNat⟩

/-! ## Group descriptors -/

def groupDescriptorChecksum (descriptor : Bytes) (groupIndex : BitVec 32) (s : Superblock) :
    BitVec 16 :=
  let computed := crc32c s.checksumSeed (leBytes32 groupIndex)
  let computed := crc32c computed (descriptor.take 30)
  let computed := crc32c computed [0#8, 0#8]
  (crc32c computed (descriptor.drop 32)).setWidth 16

variable (bytes : Bytes)

def GroupDescriptor.parse (groupIndex : BitVec 32) (s : Superblock) :
    Except ParseError GroupDescriptor :=
  let descriptorSize := s.descriptorSize.toNat
  if bytes.length < descriptorSize then throw .truncated
  else
    let descriptor := bytes.take descriptorSize
    do
      let checksum ← readU16 descriptor 30
      if s.hasMetadataChecksums ∧ groupDescriptorChecksum descriptor groupIndex s ≠ checksum then
        throw .invalidChecksum
      else
        let wide := has64Bit s.featureIncompat
        let blockBitmapHigh ← readIf wide (readU32 descriptor 32) 0#32
        let inodeBitmapHigh ← readIf wide (readU32 descriptor 36) 0#32
        let inodeTableHigh ← readIf wide (readU32 descriptor 40) 0#32
        let inodeTableLow ← readU32 descriptor 8
        let inodeTableBlock := joinHalves inodeTableLow inodeTableHigh
        if inodeTableBlock = 0#64 ∨ s.blockCount.toNat ≤ inodeTableBlock.toNat then
          throw .invalidGeometry
        else
          let blockBitmapLow ← readU32 descriptor 0
          let inodeBitmapLow ← readU32 descriptor 4
          let freeBlocks ← readU16 descriptor 12
          let freeInodes ← readU16 descriptor 14
          let usedDirectories ← readU16 descriptor 16
          let unusedInodes ← readU16 descriptor 28
          return {
            groupIndex
            blockBitmapBlock := joinHalves blockBitmapLow blockBitmapHigh
            inodeBitmapBlock := joinHalves inodeBitmapLow inodeBitmapHigh
            inodeTableBlock
            freeBlockCount := joinHalves16 freeBlocks (readU16OrZero descriptor 44)
            freeInodeCount := joinHalves16 freeInodes (readU16OrZero descriptor 46)
            usedDirectoryCount := joinHalves16 usedDirectories (readU16OrZero descriptor 48)
            unusedInodeCount := joinHalves16 unusedInodes (readU16OrZero descriptor 50)
            checksum }

/-! ## Inodes -/

structure Inode where
  number : BitVec 32
  mode : BitVec 16
  uid : BitVec 32
  gid : BitVec 32
  size : BitVec 64
  blockCount512 : BitVec 64
  flags : BitVec 32
  generation : BitVec 32
  extentRoot : Bytes
  deriving DecidableEq, Repr

/-- The upper checksum half is stored when the extra fields reach it. -/
def hasHighChecksum (inode : Bytes) : Except ParseError Bool :=
  if 131 < inode.length then (readU16 inode 128).map fun extra => decide (4 ≤ extra.toNat)
  else .ok false

def inodeStoredChecksum (inode : Bytes) : Except ParseError (BitVec 32) := do
  let low ← readU16 inode 124
  let hasHigh ← hasHighChecksum inode
  let high ← readIf hasHigh (readU16 inode 130) 0#16
  return joinHalves16 low high

section

variable (inode : Bytes) (inodeNumber generation : BitVec 32) (s : Superblock)

def inodeChecksum : Except ParseError (BitVec 32) :=
  if inode.length < 126 then throw .truncated
  else do
    let hasHigh ← hasHighChecksum inode
    let checksum := crc32c s.checksumSeed (leBytes32 inodeNumber)
    let checksum := crc32c checksum (leBytes32 generation)
    let checksum := crc32c checksum (inode.take 124)
    let checksum := crc32c checksum [0#8, 0#8]
    if hasHigh then
      let checksum := crc32c checksum ((inode.drop 126).take 4)
      let checksum := crc32c checksum [0#8, 0#8]
      return crc32c checksum (inode.drop 132)
    else return crc32c checksum (inode.drop 126)

/-- The checksum comparison, made only on filesystems that have one. -/
def inodeChecksumMatches : Except ParseError Bool :=
  if s.hasMetadataChecksums then do
    let computed ← inodeChecksum inode inodeNumber generation s
    let stored ← inodeStoredChecksum inode
    return computed == stored
  else .ok true

end

def Inode.parse (inodeNumber : BitVec 32) (s : Superblock) : Except ParseError Inode :=
  let inodeSize := s.inodeSize.toNat
  if inodeNumber = 0#32 ∨ s.inodeCount.toNat < inodeNumber.toNat then throw .invalidInode
  else if bytes.length < inodeSize then throw .truncated
  else
    let inode := bytes.take inodeSize
    do
      let generation ← readU32 inode 100
      let intact ← inodeChecksumMatches inode inodeNumber generation s
      if intact = false then throw .invalidChecksum
      else
        let mode ← readU16 inode 0
        let flags ← readU32 inode 32
        let uid ← readU16 inode 2
        let gid ← readU16 inode 24
        let sizeLow ← readU32 inode 4
        let sizeHigh ← readU32 inode 108
        let blocks ← readU32 inode 28
        return {
          number := inodeNumber
          mode
          uid := joinHalves16 uid (readU16OrZero inode 120)
          gid := joinHalves16 gid (readU16OrZero inode 122)
          size := joinHalves sizeLow sizeHigh
          blockCount512 := joinHalves blocks ((readU16OrZero inode 116).setWidth 32)
          flags
          generation
          extentRoot := (inode.drop 40).take 60 }

theorem Inode.parse_number {bytes : Bytes} {inodeNumber : BitVec 32} {s : Superblock} {inode : Inode}
    (parsed : parse bytes inodeNumber s = .ok inode) : inode.number = inodeNumber := by
  simp only [parse, Except.ite_throw_eq_ok_iff, Except.bind_eq_ok_iff,
    Except.pure_eq_ok_iff] at parsed
  obtain ⟨-, -, -, -, -, -, -, -, -, -, -, -, -, -, -, -, -, -, -, -, -, rfl⟩ := parsed
  rfl

def Inode.isRegularFile (i : Inode) : Bool := i.mode &&& MODE_TYPE_MASK = REGULAR_FILE_MODE

/-! ## Inline extents -/

structure ExtentHeader where
  entries : Nat
  maximum : Nat
  depth : Nat
  deriving DecidableEq, Repr

def parseExtentHeader (maximumAllowed : Nat) : Except ParseError ExtentHeader := do
  let magic ← readU16 bytes 0
  if magic ≠ EXTENT_HEADER_MAGIC then throw .invalidExtent
  else
    let entries ← readU16 bytes 2
    let maximum ← readU16 bytes 4
    let depth ← readU16 bytes 6
    if maximum = 0#16 ∨ maximumAllowed < maximum.toNat ∨ maximum.toNat < entries.toNat ∨
        (0 < depth.toNat ∧ entries = 0#16) then throw .invalidExtent
    else if MAX_EXTENT_DEPTH < depth.toNat then throw .unsupportedExtentDepth
    else return ⟨entries.toNat, maximum.toNat, depth.toNat⟩

structure Extent where
  logicalBlock : BitVec 32
  physicalBlock : Nat
  blockCount : Nat
  unwritten : Bool
  deriving DecidableEq, Repr

def parseExtent (index : Nat) : Except ParseError Extent := do
  let offset := EXTENT_HEADER_SIZE + index * EXTENT_ENTRY_SIZE
  let rawLength ← readU16 bytes (offset + 4)
  if rawLength = 0#16 then throw .invalidExtent
  else
    let unwritten : Bool := 0x8000 < rawLength.toNat
    let blockCount := if unwritten then rawLength.toNat - 0x8000 else rawLength.toNat
    let low ← readU32 bytes (offset + 8)
    let high ← readU16 bytes (offset + 6)
    -- 48 bits, so adding the block count cannot overflow.
    let physicalBlock := (joinHalves low (high.setWidth 32)).toNat
    let logicalBlock ← readU32 bytes offset
    return ⟨logicalBlock, physicalBlock, blockCount, unwritten⟩

/-- The end of an extent, when it fits 32 bits. -/
def Extent.end_ (e : Extent) : Except ParseError Nat :=
  if e.logicalBlock.toNat + e.blockCount < 2 ^ 32 then .ok (e.logicalBlock.toNat + e.blockCount)
  else throw .invalidExtent

/-- The loop of `validate_extents` over the entries from `index` on. -/
def validateExtents : Nat → Nat → Nat → Except ParseError Unit
  | 0, _, _ => .ok ()
  | remaining + 1, index, previousEnd => do
      let extent ← parseExtent bytes index
      let finish ← extent.end_
      if index ≠ 0 ∧ extent.logicalBlock.toNat < previousEnd then throw .invalidExtent
      else validateExtents remaining (index + 1) finish

/-- The search loop over the entries from `index` on. -/
def searchExtents (logicalBlock : Nat) : Nat → Nat → Except ParseError (Option Extent)
  | 0, _ => .ok none
  | remaining + 1, index => do
      let extent ← parseExtent bytes index
      let finish ← extent.end_
      if extent.logicalBlock.toNat ≤ logicalBlock ∧ logicalBlock < finish then return some extent
      else searchExtents logicalBlock remaining (index + 1)

def extentForLogicalBlock (header : ExtentHeader) (logicalBlock : Nat) :
    Except ParseError (Option Extent) := do
  validateExtents bytes header.entries 0 0
  searchExtents bytes logicalBlock header.entries 0

def Inode.extentHeader (i : Inode) : Except ParseError ExtentHeader :=
  if i.flags &&& INODE_FLAG_EXTENTS = 0#32 then throw .invalidExtent
  else parseExtentHeader i.extentRoot 4

def Inode.extentDepth (i : Inode) : Except ParseError Nat := i.extentHeader.map (·.depth)

def Inode.extentForLogicalBlock (i : Inode) (logicalBlock : Nat) :
    Except ParseError (Option Extent) := do
  let header ← i.extentHeader
  if header.depth ≠ 0 then throw .unsupportedExtentDepth
  else Ext4.extentForLogicalBlock i.extentRoot header logicalBlock

end SlopOS.Ext4
