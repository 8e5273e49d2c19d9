import SlopOS.Ext4.Inode

/-!
# Extent trees

Index entries and the nodes below the root in the inode.  A node is accepted only at
the depth its parent promises, with its checksum and with entries inside the
filesystem.
-/

namespace SlopOS.Ext4

open ByteCodec

def EXTENT_TAIL_SIZE : Nat := 4

structure ExtentIndex where
  logicalBlock : BitVec 32
  childBlock : Nat
  deriving DecidableEq, Repr

variable (bytes : Bytes)

def parseExtentIndex (index : Nat) : Except ParseError ExtentIndex := do
  let offset := EXTENT_HEADER_SIZE + index * EXTENT_ENTRY_SIZE
  let logicalBlock ← readU32 bytes offset
  let low ← readU32 bytes (offset + 4)
  let high ← readU16 bytes (offset + 8)
  return ⟨logicalBlock, (joinHalves low (high.setWidth 32)).toNat⟩

/-- The loop of `validate_extent_indexes` over the entries from `index` on. -/
def validateExtentIndexes : Nat → Nat → Nat → Except ParseError Unit
  | 0, _, _ => .ok ()
  | remaining + 1, index, previous => do
      let entry ← parseExtentIndex bytes index
      if index ≠ 0 ∧ entry.logicalBlock.toNat ≤ previous then throw .invalidExtent
      else validateExtentIndexes remaining (index + 1) entry.logicalBlock.toNat

/-- The last entry that starts at or before the block. -/
def searchExtentIndexes (logicalBlock : Nat) :
    Nat → Nat → Option ExtentIndex → Except ParseError (Option ExtentIndex)
  | 0, _, selected => .ok selected
  | remaining + 1, index, selected => do
      let entry ← parseExtentIndex bytes index
      if logicalBlock < entry.logicalBlock.toNat then return selected
      else searchExtentIndexes logicalBlock remaining (index + 1) (some entry)

def extentIndexForLogicalBlock (header : ExtentHeader) (logicalBlock : Nat) :
    Except ParseError (Option ExtentIndex) := do
  validateExtentIndexes bytes header.entries 0 0
  searchExtentIndexes bytes logicalBlock header.entries 0 none

def Inode.extentIndexForLogicalBlock (i : Inode) (logicalBlock : Nat) :
    Except ParseError (Option ExtentIndex) := do
  let header ← i.extentHeader
  if header.depth = 0 then throw .invalidExtent
  else Ext4.extentIndexForLogicalBlock i.extentRoot header logicalBlock

/-! ## Nodes -/

structure ExtentNode where
  bytes : Bytes
  header : ExtentHeader
  deriving DecidableEq, Repr

def ExtentNode.depth (node : ExtentNode) : Nat := node.header.depth

variable (node : ExtentNode) (logicalBlock : Nat)

def ExtentNode.extentForLogicalBlock : Except ParseError (Option Extent) :=
  if node.depth ≠ 0 then throw .invalidExtent
  else Ext4.extentForLogicalBlock node.bytes node.header logicalBlock

def ExtentNode.extentIndexForLogicalBlock : Except ParseError (Option ExtentIndex) :=
  if node.depth = 0 then throw .invalidExtent
  else Ext4.extentIndexForLogicalBlock node.bytes node.header logicalBlock

/-- A leaf entry inside the filesystem. -/
def checkLeafEntry (s : Superblock) (index : Nat) : Except ParseError Unit := do
  let extent ← parseExtent bytes index
  if extent.physicalBlock = 0 ∨ s.blockCount.toNat < extent.physicalBlock + extent.blockCount then
    throw .invalidExtent
  else return ()

/-- An index entry whose child is inside the filesystem. -/
def checkIndexEntry (s : Superblock) (index : Nat) : Except ParseError Unit := do
  let entry ← parseExtentIndex bytes index
  if entry.childBlock = 0 ∨ s.blockCount.toNat ≤ entry.childBlock then throw .invalidExtent
  else return ()

def ExtentNode.validateEntries (s : Superblock) : Except ParseError Unit :=
  if node.depth = 0 then do
    validateExtents node.bytes node.header.entries 0 0
    (List.range node.header.entries).forM (checkLeafEntry node.bytes s)
  else do
    validateExtentIndexes node.bytes node.header.entries 0 0
    (List.range node.header.entries).forM (checkIndexEntry node.bytes s)

/-- The checksum over the entries, seeded with the inode that owns the node. -/
def extentNodeChecksum (inode : Inode) (s : Superblock) (tailOffset : Nat) : BitVec 32 :=
  let checksum := crc32c s.checksumSeed (leBytes32 inode.number)
  let checksum := crc32c checksum (leBytes32 inode.generation)
  crc32c checksum (bytes.take tailOffset)

def ExtentNode.parse (expectedDepth : Nat) (inode : Inode) (s : Superblock) :
    Except ParseError ExtentNode :=
  let blockSize := s.blockSize.toNat
  if bytes.length < blockSize then throw .truncated
  else if MAX_EXTENT_DEPTH ≤ expectedDepth then throw .unsupportedExtentDepth
  else
    let bytes := bytes.take blockSize
    do
      let header ← parseExtentHeader bytes ((blockSize - EXTENT_HEADER_SIZE) / EXTENT_ENTRY_SIZE)
      let tailOffset := EXTENT_HEADER_SIZE + header.maximum * EXTENT_ENTRY_SIZE
      if header.depth ≠ expectedDepth then throw .invalidExtent
      else if blockSize < tailOffset + EXTENT_TAIL_SIZE then throw .invalidExtent
      else
        let stored ← readIf s.hasMetadataChecksums (readU32 bytes tailOffset)
          (extentNodeChecksum bytes inode s tailOffset)
        if stored ≠ extentNodeChecksum bytes inode s tailOffset then throw .invalidChecksum
        else
          ExtentNode.validateEntries ⟨bytes, header⟩ s
          return ⟨bytes, header⟩

/-- A node has the depth it was parsed at. -/
theorem ExtentNode.parse_depth {bytes : Bytes} {expectedDepth : Nat} {inode : Inode}
    {s : Superblock} {node : ExtentNode}
    (parsed : parse bytes expectedDepth inode s = .ok node) :
    node.depth = expectedDepth := by
  simp only [parse, Except.ite_throw_eq_ok_iff, Except.bind_eq_ok_iff] at parsed
  obtain ⟨-, -, header, -, same, -, stored, -, -, -, -, parsed⟩ := parsed
  cases parsed
  exact not_not.mp same

/-! ## Looking a block up -/

/-- The entry at `index` maps the block. -/
def MapsBlock (bytes : Bytes) (block index : Nat) (e : Extent) : Prop :=
  parseExtent bytes index = .ok e ∧ e.logicalBlock.toNat ≤ block ∧
    block < e.logicalBlock.toNat + e.blockCount

/-- Validated entries after the first start at `previousEnd` or later, so the search
through them answers with the only one that maps the block. -/
theorem searchExtents_spec {bytes : Bytes} {block remaining index previousEnd : Nat}
    (validated : validateExtents bytes remaining index previousEnd = .ok ()) :
    (index ≠ 0 → ∀ k e, index ≤ k → k < index + remaining → parseExtent bytes k = .ok e →
      previousEnd ≤ e.logicalBlock.toNat) ∧
    ∃ answer, searchExtents bytes block remaining index = .ok answer ∧ ∀ e, answer = some e ↔
      ∃ k, index ≤ k ∧ k < index + remaining ∧ MapsBlock bytes block k e := by
  induction remaining generalizing index previousEnd with
  | zero => exact ⟨fun _ k e _ _ => by omega, none, rfl, fun e => by grind⟩
  | succ remaining ih =>
    simp only [validateExtents, Except.bind_eq_ok_iff, Except.ite_throw_eq_ok_iff] at validated
    obtain ⟨extent, parsed, finish, ends, ordered, rest⟩ := validated
    obtain ⟨later, answer, searched, found⟩ := ih rest
    have place : finish = extent.logicalBlock.toNat + extent.blockCount := by
      unfold Extent.end_ at ends
      split at ends
      · exact (Except.ok.inj ends).symm
      · cases ends
    have here : extent.logicalBlock.toNat ≤ block ∧ block < finish →
        MapsBlock bytes block index extent := fun covers => ⟨parsed, covers.1, place ▸ covers.2⟩
    refine ⟨by grind, ?_⟩
    simp only [searchExtents, parsed, ends, bind, Except.bind]
    split
    · exact ⟨_, rfl, fun e => by grind [MapsBlock]⟩
    · exact ⟨answer, searched, fun e => (found e).trans (by grind [MapsBlock])⟩

end SlopOS.Ext4
