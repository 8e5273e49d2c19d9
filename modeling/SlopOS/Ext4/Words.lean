import SlopOS.Base.ByteCodec
import SlopOS.Base.Fallible

/-!
# Words and checksums of the on-disk format

The crate's bounded reads and writes of 16- and 32-bit words in both byte orders,
and the CRC-32C that guards ext4 metadata.
-/

namespace SlopOS.Ext4

open ByteCodec

inductive ParseError where
  | truncated
  | invalidMagic
  | invalidBlockSize
  | invalidInodeSize
  | invalidDescriptorSize
  | invalidGeometry
  | unsupportedChecksum
  | unsupportedFeature
  | dirtyFilesystem
  | invalidChecksum
  | invalidInode
  | invalidExtent
  | unsupportedExtentDepth
  | unsupportedDirectoryIndex
  | notDirectory
  | invalidDirectory
  | invalidPathComponent
  | notSymlink
  | unsupportedSymlink
  | invalidSymlink
  | invalidJournal
  deriving DecidableEq, Repr

/-- `is_power_of_two`. -/
def isPowerOfTwo (n : Nat) : Bool := n ≠ 0 && n &&& (n - 1) = 0

section

variable (order : Order) (width : Nat) (bytes : Bytes) (offset : Nat)

/-- A bounded read in the given byte order. -/
def readAs : Except ParseError (BitVec (8 * width)) :=
  match readWord order width bytes offset with
  | some value => .ok value
  | none => .error .truncated

/-- A bounded write in the given byte order. -/
def writeAs (value : BitVec (8 * width)) : Except ParseError Bytes :=
  if offset + width ≤ bytes.length then .ok (writeWord order width bytes offset value)
  else .error .truncated

end

section

variable (bytes : Bytes) (offset : Nat)

def readU16 : Except ParseError (BitVec 16) :=
  readAs .little 2 bytes offset

def readU32 : Except ParseError (BitVec 32) :=
  readAs .little 4 bytes offset

def writeU16 (value : BitVec 16) : Except ParseError Bytes :=
  writeAs .little 2 bytes offset value

def writeU32 (value : BitVec 32) : Except ParseError Bytes :=
  writeAs .little 4 bytes offset value

def readBeU16 : Except ParseError (BitVec 16) :=
  readAs .big 2 bytes offset

def readBeU32 : Except ParseError (BitVec 32) :=
  readAs .big 4 bytes offset

def writeBeU16 (value : BitVec 16) : Except ParseError Bytes :=
  writeAs .big 2 bytes offset value

def writeBeU32 (value : BitVec 32) : Except ParseError Bytes :=
  writeAs .big 4 bytes offset value

def readU16OrZero : BitVec 16 :=
  match readU16 bytes offset with
  | .ok value => value
  | .error _ => 0#16

end

/-- `to_le_bytes` of a 32-bit word. -/
def leBytes32 (value : BitVec 32) : Bytes := encode .little 4 value

/-- The eight rounds for one byte. -/
def crcByte (checksum : BitVec 32) (byte : BitVec 8) : BitVec 32 :=
  (List.range 8).foldl
    (fun checksum _ =>
      if checksum &&& 1#32 ≠ 0#32 then (checksum >>> 1) ^^^ 0x82f63b78#32 else checksum >>> 1)
    (checksum ^^^ byte.setWidth 32)

def crc32c (seed : BitVec 32) (bytes : Bytes) : BitVec 32 := bytes.foldl crcByte seed

theorem crc32c_append (seed : BitVec 32) (first second : Bytes) :
    crc32c seed (first ++ second) = crc32c (crc32c seed first) second :=
  List.foldl_append

/-! ## Words inside the buffer -/

section

variable (bytes : Bytes) (offset : Nat)

/-- The 16-bit word at an offset. -/
def u16 : BitVec 16 := wordAt .little 2 bytes offset

def u32 : BitVec 32 := wordAt .little 4 bytes offset

def be16 : BitVec 16 := wordAt .big 2 bytes offset

def be32 : BitVec 32 := wordAt .big 4 bytes offset

/-- The buffer with the word at an offset replaced. -/
def setU32 (value : BitVec 32) : Bytes :=
  writeWord .little 4 bytes offset value

def setU16 (value : BitVec 16) : Bytes :=
  writeWord .little 2 bytes offset value

def setBe16 (value : BitVec 16) : Bytes :=
  writeWord .big 2 bytes offset value

def setBe32 (value : BitVec 32) : Bytes :=
  writeWord .big 4 bytes offset value

end

section

variable {bytes : Bytes} {offset : Nat}

section

variable {order : Order} {width : Nat} (inside : offset + width ≤ bytes.length)
include inside

theorem readAs_eq : readAs order width bytes offset = .ok (wordAt order width bytes offset) := by
  unfold readAs
  rw [readWord_eq inside]

theorem writeAs_eq {value : BitVec (8 * width)} :
    writeAs order width bytes offset value = .ok (writeWord order width bytes offset value) :=
  if_pos inside

end

section

variable {value : BitVec 32}

theorem writeU32_eq (inside : offset + 4 ≤ bytes.length := by omega) :
    writeU32 bytes offset value = .ok (setU32 bytes offset value) := writeAs_eq inside

theorem writeBeU32_eq (inside : offset + 4 ≤ bytes.length := by omega) :
    writeBeU32 bytes offset value = .ok (setBe32 bytes offset value) := writeAs_eq inside

theorem readU32_eq (inside : offset + 4 ≤ bytes.length := by omega) :
    readU32 bytes offset = .ok (u32 bytes offset) := readAs_eq inside

theorem readBeU32_eq (inside : offset + 4 ≤ bytes.length := by omega) :
    readBeU32 bytes offset = .ok (be32 bytes offset) := readAs_eq inside

end

theorem writeU16_eq {value : BitVec 16} (inside : offset + 2 ≤ bytes.length := by omega) :
    writeU16 bytes offset value = .ok (setU16 bytes offset value) := writeAs_eq inside

theorem writeBeU16_eq {value : BitVec 16} (inside : offset + 2 ≤ bytes.length := by omega) :
    writeBeU16 bytes offset value = .ok (setBe16 bytes offset value) := writeAs_eq inside

theorem readU16_eq (inside : offset + 2 ≤ bytes.length := by omega) :
    readU16 bytes offset = .ok (u16 bytes offset) := readAs_eq inside

theorem readBeU16_eq (inside : offset + 2 ≤ bytes.length := by omega) :
    readBeU16 bytes offset = .ok (be16 bytes offset) := readAs_eq inside

section

variable (value : BitVec 32)

theorem setU32_length (inside : offset + 4 ≤ bytes.length := by omega) :
    (setU32 bytes offset value).length = bytes.length :=
  writeWord_length (show BitVec (8 * 4) from value) inside

theorem setBe32_length (inside : offset + 4 ≤ bytes.length := by omega) :
    (setBe32 bytes offset value).length = bytes.length :=
  writeWord_length (show BitVec (8 * 4) from value) inside

theorem u32_setU32 (inside : offset + 4 ≤ bytes.length := by omega) :
    u32 (setU32 bytes offset value) offset = value :=
  wordAt_writeWord (show BitVec (8 * 4) from value) inside

end

theorem setU16_length (value : BitVec 16) (inside : offset + 2 ≤ bytes.length := by omega) :
    (setU16 bytes offset value).length = bytes.length :=
  writeWord_length (show BitVec (8 * 2) from value) inside

theorem setBe16_length (value : BitVec 16) (inside : offset + 2 ≤ bytes.length) :
    (setBe16 bytes offset value).length = bytes.length :=
  writeWord_length (show BitVec (8 * 2) from value) inside

theorem setU32_u32 (inside : offset + 4 ≤ bytes.length) :
    setU32 bytes offset (u32 bytes offset) = bytes :=
  writeWord_wordAt inside

theorem setU32_setU32 (value value' : BitVec 32) (inside : offset + 4 ≤ bytes.length := by omega) :
    setU32 (setU32 bytes offset value) offset value' = setU32 bytes offset value' :=
  writeWord_writeWord (show BitVec (8 * 4) from value) (show BitVec (8 * 4) from value') inside

variable {at_ count : Nat}

theorem take_drop_setU32 (value : BitVec 32) (inside : offset + 4 ≤ bytes.length)
    (bound : at_ + count ≤ bytes.length) (apart : at_ + count ≤ offset ∨ offset + 4 ≤ at_) :
    ((setU32 bytes offset value).drop at_).take count = (bytes.drop at_).take count :=
  take_drop_writeWord (show BitVec (8 * 4) from value) inside bound apart

theorem setU32_comm {offset' : Nat} (value value' : BitVec 32)
    (inside : offset + 4 ≤ bytes.length) (inside' : offset' + 4 ≤ bytes.length)
    (apart : offset + 4 ≤ offset' ∨ offset' + 4 ≤ offset) :
    setU32 (setU32 bytes offset value) offset' value' =
      setU32 (setU32 bytes offset' value') offset value := by
  refine splice_comm ?_ ?_ ?_
  all_goals simp only [encode_length]
  all_goals assumption

end

end SlopOS.Ext4
