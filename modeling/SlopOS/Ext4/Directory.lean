import SlopOS.Ext4.Inode

/-!
# Linear directories and inline symbolic links

A directory block is a chain of records that ends exactly at its checksum tail.  The
chain is validated once; a search then walks it again.
-/

namespace SlopOS.Ext4

open ByteCodec

def ROOT_INODE : BitVec 32 := 2#32
def INODE_FLAG_DIRECTORY_INDEX : BitVec 32 := 0x00001000#32
def DIRECTORY_MODE : BitVec 16 := 0x4000#16
def SYMLINK_MODE : BitVec 16 := 0xa000#16
def DIRECTORY_ENTRY_REGULAR_FILE : BitVec 8 := 1#8
def DIRECTORY_ENTRY_DIRECTORY : BitVec 8 := 2#8
def DIRECTORY_ENTRY_SYMLINK : BitVec 8 := 7#8
def DIRECTORY_CHECKSUM_FILE_TYPE : BitVec 8 := 0xde#8

/-- `b'/'`. -/
def SLASH : BitVec 8 := 0x2f#8

/-- `b"."`. -/
def DOT : Bytes := [0x2e#8]

/-- `b".."`. -/
def DOT_DOT : Bytes := [0x2e#8, 0x2e#8]

def validatePathComponent (component : Bytes) : Except ParseError Unit :=
  if component = [] ∨ 255 < component.length ∨ component = DOT ∨ component = DOT_DOT ∨
      component.any (fun byte => byte == 0#8 || byte == SLASH) then throw .invalidPathComponent
  else .ok ()

/-! ## Kinds of inodes -/

def Inode.isDirectory (i : Inode) : Bool := i.mode &&& MODE_TYPE_MASK = DIRECTORY_MODE

def Inode.isSymlink (i : Inode) : Bool := i.mode &&& MODE_TYPE_MASK = SYMLINK_MODE

/-- A target stored in place of the extent root. -/
def Inode.inlineSymlink (i : Inode) : Except ParseError Bytes :=
  if i.isSymlink = false then throw .notSymlink
  else if i.size = 0#64 ∨ i.extentRoot.length < i.size.toNat ∨ i.blockCount512 ≠ 0#64 then
    throw .unsupportedSymlink
  else
    let target := i.extentRoot.take i.size.toNat
    if 0#8 ∈ target then throw .invalidSymlink else .ok target

/-! ## Directory blocks -/

structure DirectoryEntry where
  inode : BitVec 32
  fileType : BitVec 8
  name : Bytes
  deriving DecidableEq, Repr

structure DirectoryBlock where
  bytes : Bytes
  entriesEnd : Nat
  entryCount : Nat
  deriving DecidableEq, Repr

/-- The loop of `validate_directory_entries`.  A record has at least eight bytes, so a
round for each byte is enough. -/
def validateDirectoryEntries (bytes : Bytes) (entriesEnd : Nat) :
    Nat → Nat → Nat → Except ParseError Nat
  | 0, _, _ => throw .invalidDirectory
  | rounds + 1, offset, count =>
      if offset < entriesEnd then
        if entriesEnd < offset + 8 then throw .invalidDirectory
        else do
          let inode ← readU32 bytes offset
          let recordLength ← readU16 bytes (offset + 4)
          let nameLength := (bytes.getD (offset + 6) 0#8).toNat
          if recordLength.toNat < 8 ∨ recordLength &&& 3#16 ≠ 0#16 ∨
              entriesEnd < offset + recordLength.toNat ∨
              recordLength.toNat - 8 < nameLength then throw .invalidDirectory
          else
            validateDirectoryEntries bytes entriesEnd rounds (offset + recordLength.toNat)
              (if inode ≠ 0#32 then count + 1 else count)
      else if offset ≠ entriesEnd then throw .invalidDirectory
      else return count

section

variable (bytes : Bytes) (inode : Inode) (s : Superblock)

/-- The checksum over the records, seeded with the inode of the directory. -/
def directoryChecksum (tail : Nat) : BitVec 32 :=
  let checksum := crc32c s.checksumSeed (leBytes32 inode.number)
  let checksum := crc32c checksum (leBytes32 inode.generation)
  crc32c checksum (bytes.take tail)

/-- Where the records end: before the tail that holds the checksum, if there is one. -/
def directoryEntriesEnd : Except ParseError Nat :=
  if s.hasMetadataChecksums then
    if bytes.length < 12 then throw .truncated
    else
      let tail := bytes.length - 12
      do
        let tailInode ← readU32 bytes tail
        let tailLength ← readU16 bytes (tail + 4)
        if tailInode ≠ 0#32 ∨ tailLength ≠ 12#16 ∨ bytes.getD (tail + 6) 0#8 ≠ 0#8 ∨
            bytes.getD (tail + 7) 0#8 ≠ DIRECTORY_CHECKSUM_FILE_TYPE then throw .invalidDirectory
        else
          let stored ← readU32 bytes (bytes.length - 4)
          if directoryChecksum bytes inode s tail ≠ stored then throw .invalidChecksum
          else return tail
  else .ok bytes.length

def DirectoryBlock.parse : Except ParseError DirectoryBlock :=
  if inode.isDirectory = false then throw .notDirectory
  else if inode.flags &&& INODE_FLAG_DIRECTORY_INDEX ≠ 0#32 then throw .unsupportedDirectoryIndex
  else if bytes.length ≠ s.blockSize.toNat then throw .invalidDirectory
  else do
    let entriesEnd ← directoryEntriesEnd bytes inode s
    let entryCount ← validateDirectoryEntries bytes entriesEnd (entriesEnd + 1) 0 0
    return ⟨bytes, entriesEnd, entryCount⟩

end

/-- The search from the record at `offset`; a deleted record has inode 0. -/
def DirectoryBlock.findFrom (directory : DirectoryBlock) (name : Bytes) :
    Nat → Nat → Option DirectoryEntry
  | 0, _ => none
  | rounds + 1, offset =>
      if offset < directory.entriesEnd then do
        let inode ← (readU32 directory.bytes offset).toOption
        let recordLength ← (readU16 directory.bytes (offset + 4)).toOption
        let nameLength := (directory.bytes.getD (offset + 6) 0#8).toNat
        let here := (directory.bytes.drop (offset + 8)).take nameLength
        if inode ≠ 0#32 ∧ here = name then
          some ⟨inode, directory.bytes.getD (offset + 7) 0#8, here⟩
        else directory.findFrom name rounds (offset + recordLength.toNat)
      else none

def DirectoryBlock.find (directory : DirectoryBlock) (name : Bytes) : Option DirectoryEntry :=
  directory.findFrom name (directory.entriesEnd + 1) 0

/-! ## The records of a block -/

/-- The live records from `offset` on, in the order of the block. -/
def DirectoryBlock.entriesFrom (directory : DirectoryBlock) : Nat → Nat → List DirectoryEntry
  | 0, _ => []
  | rounds + 1, offset =>
      if offset < directory.entriesEnd then
        match readU32 directory.bytes offset, readU16 directory.bytes (offset + 4) with
        | .ok inode, .ok recordLength =>
            let nameLength := (directory.bytes.getD (offset + 6) 0#8).toNat
            let here := (directory.bytes.drop (offset + 8)).take nameLength
            let later := directory.entriesFrom rounds (offset + recordLength.toNat)
            if inode ≠ 0#32 then
              ⟨inode, directory.bytes.getD (offset + 7) 0#8, here⟩ :: later
            else later
        | _, _ => []
      else []

section

variable (directory : DirectoryBlock)

def DirectoryBlock.entries : List DirectoryEntry :=
  directory.entriesFrom (directory.entriesEnd + 1) 0

/-- The search returns the first live record with the name. -/
theorem DirectoryBlock.findFrom_eq (name : Bytes) (rounds offset : Nat) :
    directory.findFrom name rounds offset =
      (directory.entriesFrom rounds offset).find? fun entry => decide (entry.name = name) := by
  induction rounds generalizing offset with
  | zero => rfl
  | succ rounds ih =>
    unfold findFrom entriesFrom
    split
    · cases inodeRead : readU32 directory.bytes offset with
      | error e => rfl
      | ok inode =>
        cases lengthRead : readU16 directory.bytes (offset + 4) with
        | error e => rfl
        | ok recordLength =>
          simp only [Except.toOption, Option.bind_eq_bind, Option.bind_some]
          by_cases live : inode = 0#32
          · simp [live, ih]
          rw [if_pos (show inode ≠ 0#32 from live), List.find?_cons]
          split
          · next same => rw [decide_eq_true same.2]
          · next other => rw [decide_eq_false fun same => other ⟨live, same⟩, ih]
    · rfl

theorem DirectoryBlock.find_eq (name : Bytes) :
    directory.find name = directory.entries.find? fun entry => decide (entry.name = name) :=
  directory.findFrom_eq name _ _

end

end SlopOS.Ext4
