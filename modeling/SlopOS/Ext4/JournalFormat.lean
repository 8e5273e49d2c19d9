import SlopOS.Ext4.Superblock
import Mathlib.Data.List.Forall2

/-!
# The JBD2 journal format

The journal superblock, the descriptor block with its tags, the commit block and
the escaped data blocks, each with its encoder and parser.  Encoding and parsing
are inverse, and a zero block is neither a descriptor nor a commit record.
-/

namespace SlopOS.Ext4

open ByteCodec List

def JOURNAL_SUPERBLOCK_SIZE : Nat := 1024
def JOURNAL_MAGIC : BitVec 32 := 0xc03b3998#32
def JOURNAL_DESCRIPTOR_BLOCK : BitVec 32 := 1#32
def JOURNAL_COMMIT_BLOCK : BitVec 32 := 2#32

/-! ## The journal superblock -/

structure JournalSuperblock where
  blockSize : BitVec 32
  maxLength : BitVec 32
  firstLogBlock : BitVec 32
  sequence : BitVec 32
  start : BitVec 32
  error : BitVec 32
  featureCompat : BitVec 32
  featureIncompat : BitVec 32
  featureReadOnlyCompat : BitVec 32
  uuid : Bytes
  userCount : BitVec 32
  deriving DecidableEq, Repr

/-- A start block outside the log. -/
def startOutside (start firstLogBlock maxLength : BitVec 32) : Bool :=
  start ≠ 0#32 ∧ (start.toNat < firstLogBlock.toNat ∨ maxLength.toNat ≤ start.toNat)

def JournalSuperblock.parse (bytes : Bytes) : Except ParseError JournalSuperblock :=
  if bytes.length < JOURNAL_SUPERBLOCK_SIZE then throw .truncated
  else do
    let magic ← readBeU32 bytes 0
    let kind ← readBeU32 bytes 4
    if magic ≠ JOURNAL_MAGIC ∨ kind ≠ 4#32 then throw .invalidMagic
    else
      let headerSequence ← readBeU32 bytes 8
      if headerSequence ≠ 0#32 then throw .invalidJournal
      else
        let blockSize ← readBeU32 bytes 12
        let maxLength ← readBeU32 bytes 16
        let firstLogBlock ← readBeU32 bytes 20
        let start ← readBeU32 bytes 28
        if blockSize.toNat < 1024 ∨ ¬ isPowerOfTwo blockSize.toNat ∨ firstLogBlock = 0#32 ∨
            maxLength.toNat ≤ firstLogBlock.toNat ∨
            startOutside start firstLogBlock maxLength then throw .invalidJournal
        else
          let featureCompat ← readBeU32 bytes 36
          let featureIncompat ← readBeU32 bytes 40
          let featureReadOnlyCompat ← readBeU32 bytes 44
          if featureCompat ≠ 0#32 ∨ featureIncompat ≠ 0#32 ∨ featureReadOnlyCompat ≠ 0#32 then
            throw .unsupportedFeature
          else
            let uuid := (bytes.drop 48).take 16
            let userCount ← readBeU32 bytes 64
            if userCount = 0#32 then throw .invalidJournal
            else
              let sequence ← readBeU32 bytes 24
              let error ← readBeU32 bytes 32
              return {
                blockSize, maxLength, firstLogBlock, sequence, start, error, featureCompat,
                featureIncompat, featureReadOnlyCompat, uuid, userCount }

def setJournalSuperblockState (bytes : Bytes) (sequence start : BitVec 32) :
    Except ParseError Bytes := do
  let superblock ← JournalSuperblock.parse bytes
  if sequence = 0#32 ∨ startOutside start superblock.firstLogBlock superblock.maxLength then
    throw .invalidJournal
  else
    let bytes ← writeBeU32 bytes 24 sequence
    let bytes ← writeBeU32 bytes 28 start
    let _ ← JournalSuperblock.parse bytes
    return bytes

/-! ## Descriptor blocks -/

def JOURNAL_TAG_ESCAPE : BitVec 16 := 0x0001#16
def JOURNAL_TAG_SAME_UUID : BitVec 16 := 0x0002#16
def JOURNAL_TAG_DELETED : BitVec 16 := 0x0004#16
def JOURNAL_TAG_LAST : BitVec 16 := 0x0008#16
def JOURNAL_TAG_SUPPORTED : BitVec 16 :=
  JOURNAL_TAG_ESCAPE ||| JOURNAL_TAG_SAME_UUID ||| JOURNAL_TAG_LAST

structure JournalTag where
  targetBlock : BitVec 32
  escaped : Bool
  deriving DecidableEq, Repr

structure ParsedJournalTag where
  tag : JournalTag
  flags : BitVec 16
  uuid : Option Bytes
  nextOffset : Nat
  deriving DecidableEq, Repr

/-- One tag.  Offsets stay below the buffer length, so the checked additions of
the source do not overflow. -/
def parseJournalTag (bytes : Bytes) (offset : Nat) (transactionUuid : Option Bytes) :
    Except ParseError ParsedJournalTag :=
  if bytes.length < offset + 8 then throw .truncated
  else do
    let checksum ← readBeU16 bytes (offset + 4)
    let flags ← readBeU16 bytes (offset + 6)
    if checksum ≠ 0#16 ∨ flags &&& JOURNAL_TAG_DELETED ≠ 0#16 ∨
        flags &&& ~~~JOURNAL_TAG_SUPPORTED ≠ 0#16 ∨
        (transactionUuid = none ∧ flags &&& JOURNAL_TAG_SAME_UUID ≠ 0#16) then
      throw .invalidJournal
    else if flags &&& JOURNAL_TAG_SAME_UUID = 0#16 then
      if bytes.length < offset + 8 + 16 then throw .truncated
      else
        let targetBlock ← readBeU32 bytes offset
        return {
          tag := ⟨targetBlock, flags &&& JOURNAL_TAG_ESCAPE ≠ 0#16⟩, flags
          uuid := some ((bytes.drop (offset + 8)).take 16), nextOffset := offset + 8 + 16 }
    else
      let targetBlock ← readBeU32 bytes offset
      return {
        tag := ⟨targetBlock, flags &&& JOURNAL_TAG_ESCAPE ≠ 0#16⟩, flags
        uuid := none, nextOffset := offset + 8 }

structure JournalDescriptorBlock where
  bytes : Bytes
  sequence : BitVec 32
  uuid : Bytes
  tagCount : Nat
  deriving DecidableEq, Repr

/-- The uuid of the transaction after a tag that may carry one. -/
def adoptUuid (transactionUuid found : Option Bytes) : Except ParseError (Option Bytes) :=
  match found, transactionUuid with
  | none, known => .ok known
  | some uuid, none => .ok (some uuid)
  | some uuid, some expected => if uuid ≠ expected then throw .invalidJournal else .ok (some expected)

/-- The loop over the tags.  Every tag takes eight bytes, so a fuel of the buffer
length is never used up. -/
def parseTags (bytes : Bytes) : Nat → Nat → Nat → Option Bytes → Except ParseError (Nat × Option Bytes)
  | 0, _, _, _ => throw .truncated
  | fuel + 1, offset, tagCount, transactionUuid => do
      let parsed ← parseJournalTag bytes offset transactionUuid
      let transactionUuid ← adoptUuid transactionUuid parsed.uuid
      if parsed.flags &&& JOURNAL_TAG_LAST ≠ 0#16 then return (tagCount + 1, transactionUuid)
      else parseTags bytes fuel parsed.nextOffset (tagCount + 1) transactionUuid

def JournalDescriptorBlock.parse (bytes : Bytes) : Except ParseError JournalDescriptorBlock :=
  if bytes.length < 36 then throw .truncated
  else do
    let magic ← readBeU32 bytes 0
    let kind ← readBeU32 bytes 4
    if magic ≠ JOURNAL_MAGIC ∨ kind ≠ JOURNAL_DESCRIPTOR_BLOCK then throw .invalidMagic
    else
      let sequence ← readBeU32 bytes 8
      if sequence = 0#32 then throw .invalidJournal
      else
        let tags ← parseTags bytes bytes.length 12 0 none
        match tags.2 with
        | none => throw .invalidJournal
        | some uuid => return ⟨bytes, sequence, uuid, tags.1⟩

/-- The walk to tag `index`. -/
def tagAt (bytes : Bytes) : Nat → Nat → Option Bytes → Except ParseError JournalTag
  | index, offset, transactionUuid => do
      let parsed ← parseJournalTag bytes offset transactionUuid
      match index with
      | 0 => return parsed.tag
      | index + 1 => tagAt bytes index parsed.nextOffset (parsed.uuid.or transactionUuid)

def JournalDescriptorBlock.tag (d : JournalDescriptorBlock) (index : Nat) :
    Except ParseError JournalTag :=
  if d.tagCount ≤ index then throw .invalidJournal else tagAt d.bytes index 12 none

structure JournalDescriptor where
  sequence : BitVec 32
  targetBlock : BitVec 32
  escaped : Bool
  uuid : Bytes
  deriving DecidableEq, Repr

def JournalDescriptor.parse (bytes : Bytes) : Except ParseError JournalDescriptor := do
  let descriptor ← JournalDescriptorBlock.parse bytes
  if descriptor.tagCount ≠ 1 then throw .invalidJournal
  else
    let tag ← descriptor.tag 0
    return ⟨descriptor.sequence, tag.targetBlock, tag.escaped, descriptor.uuid⟩

structure JournalCommit where
  sequence : BitVec 32
  deriving DecidableEq, Repr

def JournalCommit.parse (bytes : Bytes) : Except ParseError JournalCommit :=
  if bytes.length < 12 then throw .truncated
  else do
    let magic ← readBeU32 bytes 0
    let kind ← readBeU32 bytes 4
    if magic ≠ JOURNAL_MAGIC ∨ kind ≠ JOURNAL_COMMIT_BLOCK then throw .invalidMagic
    else
      let sequence ← readBeU32 bytes 8
      if sequence = 0#32 then throw .invalidJournal else return ⟨sequence⟩

/-! ## Encoders -/

/-- A block length the journal accepts. -/
def journalLength (length : Nat) : Bool := 1024 ≤ length ∧ isPowerOfTwo length

def magicBytes : Bytes := encode .big 4 JOURNAL_MAGIC

/-- The journal copy of a home block, and whether its magic was escaped. -/
def encodeJournalDataBlock (home : Bytes) : Except ParseError (Bytes × Bool) :=
  if ¬ journalLength home.length then throw .invalidJournal
  else if home.take 4 = magicBytes then .ok (List.replicate 4 0#8 ++ home.drop 4, true)
  else .ok (home, false)

def tagFlags (first escaped last : Bool) : BitVec 16 :=
  (if escaped then JOURNAL_TAG_ESCAPE else 0#16) ||| (if first then 0#16 else JOURNAL_TAG_SAME_UUID) |||
    (if last then JOURNAL_TAG_LAST else 0#16)

/-- The loop that writes the tags; the first one carries the uuid. -/
def encodeTags (uuid : Bytes) : Bool → Nat → List (BitVec 32 × Bool) → Bytes → Except ParseError Bytes
  | _, _, [], bytes => .ok bytes
  | first, offset, (targetBlock, escaped) :: rest, bytes => do
      let bytes ← writeBeU32 bytes offset targetBlock
      let bytes ← writeBeU16 bytes (offset + 4) 0#16
      let bytes ← writeBeU16 bytes (offset + 6) (tagFlags first escaped rest.isEmpty)
      if first then encodeTags uuid false (offset + 24) rest (splice bytes (offset + 8) uuid)
      else encodeTags uuid false (offset + 8) rest bytes

/-- A descriptor written over a buffer of the given length. -/
def encodeJournalDescriptorBlock (length : Nat) (sequence : BitVec 32)
    (targetBlocks : List (BitVec 32)) (escapedTags : List Bool) (uuid : Bytes) :
    Except ParseError Bytes :=
  if ¬ journalLength length ∨ sequence = 0#32 ∨ targetBlocks = [] ∨
      targetBlocks.length ≠ escapedTags.length then throw .invalidJournal
  else if length < 12 + 24 + (targetBlocks.length - 1) * 8 then throw .invalidJournal
  else do
    let bytes ← writeBeU32 (List.replicate length 0#8) 0 JOURNAL_MAGIC
    let bytes ← writeBeU32 bytes 4 JOURNAL_DESCRIPTOR_BLOCK
    let bytes ← writeBeU32 bytes 8 sequence
    let bytes ← encodeTags uuid true 12 (targetBlocks.zip escapedTags) bytes
    let _ ← JournalDescriptorBlock.parse bytes
    return bytes

def encodeJournalCommitBlock (length : Nat) (sequence : BitVec 32) : Except ParseError Bytes :=
  if ¬ journalLength length ∨ sequence = 0#32 then throw .invalidJournal
  else do
    let bytes ← writeBeU32 (List.replicate length 0#8) 0 JOURNAL_MAGIC
    let bytes ← writeBeU32 bytes 4 JOURNAL_COMMIT_BLOCK
    let bytes ← writeBeU32 bytes 8 sequence
    let _ ← JournalCommit.parse bytes
    return bytes

/-- The descriptor, data and commit blocks of a transaction with one target. -/
def encodeSingleBlockJournalTransaction (sequence targetBlock : BitVec 32) (uuid home : Bytes) :
    Except ParseError (Bytes × Bytes × Bytes) :=
  if ¬ journalLength home.length then throw .invalidJournal
  else if sequence = 0#32 then throw .invalidJournal
  else do
    let encoded ← encodeJournalDataBlock home
    let descriptor ←
      encodeJournalDescriptorBlock home.length sequence [targetBlock] [encoded.2] uuid
    let commit ← encodeJournalCommitBlock home.length sequence
    return (descriptor, encoded.1, commit)

/-- The home block of a journal data block. -/
def decodeJournalTagData (data : Bytes) (tag : JournalTag) : Except ParseError Bytes :=
  if data.length < 4 then throw .invalidJournal
  else if tag.escaped then .ok (magicBytes ++ data.drop 4)
  else .ok data

/-! ## The journal superblock as one decision -/

section Superblock

variable (bytes : Bytes)

/-- The fields of a buffer that is long enough. -/
def JournalSuperblock.fields : JournalSuperblock where
  blockSize := be32 bytes 12
  maxLength := be32 bytes 16
  firstLogBlock := be32 bytes 20
  sequence := be32 bytes 24
  start := be32 bytes 28
  error := be32 bytes 32
  featureCompat := be32 bytes 36
  featureIncompat := be32 bytes 40
  featureReadOnlyCompat := be32 bytes 44
  uuid := (bytes.drop 48).take 16
  userCount := be32 bytes 64

/-- The first error of the parse. -/
def JournalSuperblock.reject : Option ParseError :=
  if be32 bytes 0 ≠ JOURNAL_MAGIC ∨ be32 bytes 4 ≠ 4#32 then some .invalidMagic
  else if be32 bytes 8 ≠ 0#32 then some .invalidJournal
  else if (be32 bytes 12).toNat < 1024 ∨ ¬ isPowerOfTwo (be32 bytes 12).toNat ∨
      be32 bytes 20 = 0#32 ∨ (be32 bytes 16).toNat ≤ (be32 bytes 20).toNat ∨
      startOutside (be32 bytes 28) (be32 bytes 20) (be32 bytes 16) then some .invalidJournal
  else if be32 bytes 36 ≠ 0#32 ∨ be32 bytes 40 ≠ 0#32 ∨ be32 bytes 44 ≠ 0#32 then
    some .unsupportedFeature
  else if be32 bytes 64 = 0#32 then some .invalidJournal
  else none

variable {bytes} {j : JournalSuperblock}

theorem JournalSuperblock.parse_eq (long : JOURNAL_SUPERBLOCK_SIZE ≤ bytes.length) : parse bytes =
      verdict (reject bytes) (fields bytes) := by
  unfold JOURNAL_SUPERBLOCK_SIZE at long
  unfold parse
  rw [if_neg (by unfold JOURNAL_SUPERBLOCK_SIZE; omega)]
  simp (disch := omega) only [readBeU32_eq, ok_bind]
  refine check_eq_verdict fun _ => ?_
  refine check_eq_verdict fun _ => ?_
  refine check_eq_verdict fun _ => ?_
  refine check_eq_verdict fun _ => ?_
  exact check_eq_verdict fun _ => rfl

theorem JournalSuperblock.parse_ok_iff : parse bytes = .ok j ↔
      JOURNAL_SUPERBLOCK_SIZE ≤ bytes.length ∧ reject bytes = none ∧ j = fields bytes := by
  by_cases long : JOURNAL_SUPERBLOCK_SIZE ≤ bytes.length
  · rw [parse_eq long]
    cases rejected : reject bytes with
    | some e => simp [verdict]
    | none => simp [verdict, long, eq_comm]
  · unfold parse
    rw [if_pos (by omega)]
    simp [long, Except.throw_ne_ok]

/-- The buffer with a new sequence number and start block. -/
def stampState (bytes : Bytes) (sequence start : BitVec 32) : Bytes :=
  setBe32 (setBe32 bytes 24 sequence) 28 start

section

variable (long : JOURNAL_SUPERBLOCK_SIZE ≤ bytes.length) (sequence start : BitVec 32)
include long

theorem stored_stampState : Stored [(24, encode .big 4 sequence), (28, encode .big 4 start)] bytes
      (stampState bytes sequence start) := by
  unfold JOURNAL_SUPERBLOCK_SIZE at long
  exact stored_storeAll (by simp; omega) (by simp [Apart])

theorem stampState_take_drop {at_ count : Nat} (apart : at_ + count ≤ 24 ∨ 32 ≤ at_) :
    ((stampState bytes sequence start).drop at_).take count = (bytes.drop at_).take count :=
  (stored_stampState long sequence start).slice_kept (by simp; omega)

theorem be32_stampState {at_ : Nat} (apart : at_ + 4 ≤ 24 ∨ 32 ≤ at_) :
    be32 (stampState bytes sequence start) at_ = be32 bytes at_ :=
  (stored_stampState long sequence start).word_kept (by simp; omega)

end

section

variable (parsed : JournalSuperblock.parse bytes = .ok j) {sequence start : BitVec 32}
  (inside : startOutside start j.firstLogBlock j.maxLength = false)
include parsed inside

/-- A new state inside the log parses with exactly the two fields changed. -/
theorem JournalSuperblock.parse_stampState :
    parse (stampState bytes sequence start) = .ok { j with sequence, start } := by
  obtain ⟨long, accepted, rfl⟩ := parse_ok_iff.mp parsed
  have stored := stored_stampState long sequence start
  have newStart : be32 (stampState bytes sequence start) 28 = start := stored.word (by simp)
  have newSequence : be32 (stampState bytes sequence start) 24 = sequence := stored.word (by simp)
  refine parse_ok_iff.mpr ⟨stored.length.symm ▸ long, ?_, ?_⟩
  · unfold reject at accepted ⊢
    simp (disch := omega) only [be32_stampState long, newStart]
    simp only [ite_some_eq_none_iff, not_or] at accepted ⊢
    obtain ⟨magic, header, ⟨small, uneven, zero, empty, -⟩, rest⟩ := accepted
    exact ⟨magic, header, ⟨small, uneven, zero, empty, Bool.eq_false_iff.mp inside⟩, rest⟩
  · unfold fields
    simp (disch := omega) only [be32_stampState long, newStart, newSequence,
      stampState_take_drop long]

theorem setJournalSuperblockState_eq (nonzero : sequence ≠ 0#32) :
    setJournalSuperblockState bytes sequence start = .ok (stampState bytes sequence start) := by
  have long := (JournalSuperblock.parse_ok_iff.mp parsed).1
  unfold JOURNAL_SUPERBLOCK_SIZE at long
  have first : (setBe32 bytes 24 sequence).length = bytes.length := setBe32_length _
  have allowed : ¬ (sequence = 0#32 ∨ startOutside start j.firstLogBlock j.maxLength = true) := by
    rw [inside]
    simp [nonzero]
  have reparsed : JournalSuperblock.parse (stampState bytes sequence start) =
      .ok { j with sequence, start } := JournalSuperblock.parse_stampState parsed inside
  unfold stampState at reparsed
  unfold setJournalSuperblockState
  rw [parsed, ok_bind, if_neg allowed, writeBeU32_eq, ok_bind, writeBeU32_eq, ok_bind, reparsed]
  rfl

end

theorem setJournalSuperblockState_ok {sequence start : BitVec 32} {result : Bytes}
    (done : setJournalSuperblockState bytes sequence start = .ok result) :
    ∃ j, JournalSuperblock.parse bytes = .ok j ∧ sequence ≠ 0#32 ∧
      startOutside start j.firstLogBlock j.maxLength = false ∧
      result = stampState bytes sequence start := by
  have started := done
  obtain ⟨j, parsed, started⟩ := Except.bind_ok started
  split at started
  · cases started
  next allowed =>
  rw [not_or] at allowed
  have inside : startOutside start j.firstLogBlock j.maxLength = false := by
    simpa using allowed.2
  rw [setJournalSuperblockState_eq parsed inside allowed.1] at done
  cases done
  exact ⟨j, parsed, allowed.1, inside, rfl⟩

end Superblock

/-! ## Tags in a descriptor block -/

/-- The bytes of a tag; the first tag carries the uuid. -/
def tagSize (first : Bool) : Nat := if first then 24 else 8

def tagsSize : Bool → List (BitVec 32 × Bool) → Nat
  | _, [] => 0
  | first, _ :: rest => tagSize first + tagsSize false rest

/-- `bytes` holds the tags of a transaction from `offset` on. -/
def TagsAt (bytes uuid : Bytes) : Bool → Nat → List (BitVec 32 × Bool) → Prop
  | _, _, [] => True
  | first, offset, (targetBlock, escaped) :: rest =>
      offset + tagSize first ≤ bytes.length ∧ be32 bytes offset = targetBlock ∧
      be16 bytes (offset + 4) = 0#16 ∧
      be16 bytes (offset + 6) = tagFlags first escaped rest.isEmpty ∧
      (first = true → (bytes.drop (offset + 8)).take 16 = uuid) ∧
      TagsAt bytes uuid false (offset + tagSize first) rest

theorem eight_le_tagSize (first : Bool) : 8 ≤ tagSize first := by
  unfold tagSize
  split <;> omega

variable {escaped : Bool}

section Tags

variable {bytes uuid : Bytes} {rest : List (BitVec 32 × Bool)} {targetBlock : BitVec 32}

/-- What the parser reads off the flags of an encoded tag. -/
theorem tagFlags_spec (first escaped last : Bool) :
    tagFlags first escaped last &&& JOURNAL_TAG_DELETED = 0#16 ∧
    tagFlags first escaped last &&& ~~~JOURNAL_TAG_SUPPORTED = 0#16 ∧
    (tagFlags first escaped last &&& JOURNAL_TAG_SAME_UUID = 0#16 ↔ first = true) ∧
    (tagFlags first escaped last &&& JOURNAL_TAG_LAST ≠ 0#16 ↔ last = true) ∧
    decide (tagFlags first escaped last &&& JOURNAL_TAG_ESCAPE ≠ 0#16) = escaped := by
  cases first <;> cases escaped <;> cases last <;> decide

/-- The uuid known before a tag: none before the first, then the transaction's. -/
def knownUuid (uuid : Bytes) (first : Bool) : Option Bytes := if first then none else some uuid

theorem parseJournalTag_of_tagsAt {first : Bool} {offset : Nat}
    (held : TagsAt bytes uuid first offset ((targetBlock, escaped) :: rest)) :
    parseJournalTag bytes offset (knownUuid uuid first) = .ok {
      tag := ⟨targetBlock, escaped⟩
      flags := tagFlags first escaped rest.isEmpty
      uuid := if first then some uuid else none
      nextOffset := offset + tagSize first } := by
  obtain ⟨bound, target, checksum, flags, carried, -⟩ := held
  obtain ⟨deleted, supported, same, -, escape⟩ := tagFlags_spec first escaped rest.isEmpty
  have small := eight_le_tagSize first
  have allowed : ¬ (0#16 ≠ 0#16 ∨ tagFlags first escaped rest.isEmpty &&& JOURNAL_TAG_DELETED ≠ 0#16 ∨
      tagFlags first escaped rest.isEmpty &&& ~~~JOURNAL_TAG_SUPPORTED ≠ 0#16 ∨
      (knownUuid uuid first = none ∧
        tagFlags first escaped rest.isEmpty &&& JOURNAL_TAG_SAME_UUID ≠ 0#16)) := by
    simp only [deleted, supported, ne_eq, same]
    cases first <;> simp [knownUuid]
  unfold parseJournalTag
  rw [if_neg (by omega), readBeU16_eq, ok_bind, readBeU16_eq, ok_bind, checksum, flags, if_neg
    allowed, readBeU32_eq, target, escape]
  cases first with
  | true =>
    simp only [tagSize, if_true] at bound
    rw [if_pos (same.mpr rfl), if_neg (by omega), carried rfl]
    rfl
  | false =>
    rw [if_neg fun zero => Bool.false_ne_true (same.mp zero)]
    rfl

theorem adoptUuid_known (first : Bool) :
    adoptUuid (knownUuid uuid first) (if first then some uuid else none) = .ok (some uuid) := by
  cases first with
  | true => rfl
  | false => rfl

/-- The tag loop counts the tags and finds the uuid. -/
theorem parseTags_of_tagsAt {first : Bool} {tag : BitVec 32 × Bool} {offset fuel tagCount : Nat}
    (held : TagsAt bytes uuid first offset (tag :: rest)) (enough : rest.length < fuel) :
    parseTags bytes fuel offset tagCount (knownUuid uuid first) =
      .ok (tagCount + rest.length + 1, some uuid) := by
  induction fuel generalizing first tag rest offset tagCount with
  | zero => exact absurd enough (Nat.not_lt_zero _)
  | succ fuel ih =>
    obtain ⟨targetBlock, escaped⟩ := tag
    obtain ⟨-, -, -, last, -⟩ := tagFlags_spec first escaped rest.isEmpty
    rw [parseTags, parseJournalTag_of_tagsAt held, ok_bind, adoptUuid_known]
    simp only [last]
    cases rest with
    | nil => rfl
    | cons next rest =>
      have tail : TagsAt bytes uuid false (offset + tagSize first) (next :: rest) := held.2.2.2.2.2
      rw [length_cons] at enough ⊢
      refine (ih tail (by omega)).trans ?_
      congr 2
      omega

/-- The walk to a tag returns it. -/
theorem tagAt_of_tagsAt {first : Bool} {tags : List (BitVec 32 × Bool)} {offset index : Nat}
    (held : TagsAt bytes uuid first offset tags)
    (found : tags[index]? = some (targetBlock, escaped)) :
    tagAt bytes index offset (knownUuid uuid first) = .ok ⟨targetBlock, escaped⟩ := by
  induction tags generalizing first offset index with
  | nil => cases found
  | cons tag rest ih =>
    unfold tagAt
    rw [parseJournalTag_of_tagsAt held]
    cases index with
    | zero =>
      cases found
      rfl
    | succ index =>
      have tail : TagsAt bytes uuid false (offset + tagSize first) rest := held.2.2.2.2.2
      have walked := ih tail found
      cases first with
      | true | false => exact walked

/-- The header of one tag, written over a buffer that has room for it. -/
theorem tagHeader_written {offset : Nat} (targetBlock : BitVec 32) (flags : BitVec 16)
    (room : offset + 8 ≤ bytes.length) :
    let written := setBe16 (setBe16 (setBe32 bytes offset targetBlock) (offset + 4) 0#16)
      (offset + 6) flags
    written.length = bytes.length ∧ be32 written offset = targetBlock ∧
      be16 written (offset + 4) = 0#16 ∧ be16 written (offset + 6) = flags ∧
      ∀ at_ count, at_ + count ≤ offset →
        (written.drop at_).take count = (bytes.drop at_).take count := by
  have stored : Stored [(offset, encode .big 4 targetBlock), (offset + 4, encode .big 2 0#16),
      (offset + 6, encode .big 2 flags)] bytes (setBe16 (setBe16 (setBe32 bytes offset targetBlock)
        (offset + 4) 0#16) (offset + 6) flags) :=
    stored_storeAll (by simp; omega) (by simp [Apart])
  exact ⟨stored.length, stored.word (by simp), stored.word (by simp), stored.word (by simp),
    fun at_ count below => stored.slice_kept (by simp; omega)⟩

/-- The tag writer lays the tags out and leaves the bytes before them alone. -/
theorem encodeTags_spec (sized : uuid.length = 16) (tags : List (BitVec 32 × Bool)) {first : Bool}
    {offset : Nat} (room : offset + tagsSize first tags ≤ bytes.length) :
    ∃ result, encodeTags uuid first offset tags bytes = .ok result ∧ result.length = bytes.length ∧
      (∀ at_ count, at_ + count ≤ offset →
        (result.drop at_).take count = (bytes.drop at_).take count) ∧
      TagsAt result uuid first offset tags := by
  induction tags generalizing bytes first offset with
  | nil => exact ⟨bytes, rfl, rfl, fun _ _ _ => rfl, trivial⟩
  | cons tag rest ih =>
    obtain ⟨targetBlock, escaped⟩ := tag
    have small := eight_le_tagSize first
    simp only [tagsSize] at room
    have first_ : (setBe32 bytes offset targetBlock).length = bytes.length := setBe32_length _
    have second : (setBe16 (setBe32 bytes offset targetBlock) (offset + 4) 0#16).length =
        bytes.length := by rw [setBe16_length _ (by omega), first_]
    obtain ⟨length, target, checksum, flags, below⟩ := tagHeader_written targetBlock
      (tagFlags first escaped rest.isEmpty) (show offset + 8 ≤ bytes.length by omega)
    unfold encodeTags
    rw [writeBeU32_eq, ok_bind, writeBeU16_eq, ok_bind, writeBeU16_eq]
    generalize setBe16 (setBe16 (setBe32 bytes offset targetBlock) (offset + 4) 0#16)
      (offset + 6) (tagFlags first escaped rest.isEmpty) = header at *
    -- Either way the loop goes on behind the header, which it leaves alone.
    obtain ⟨result, encoded, resultLength, kept, carried, held⟩ : ∃ result,
        (if first then encodeTags uuid false (offset + 24) rest (splice header (offset + 8) uuid)
          else encodeTags uuid false (offset + 8) rest header) = .ok result ∧
        result.length = header.length ∧
        (∀ at_ count, at_ + count ≤ offset + 8 →
          (result.drop at_).take count = (header.drop at_).take count) ∧
        (first = true → (result.drop (offset + 8)).take 16 = uuid) ∧
        TagsAt result uuid false (offset + tagSize first) rest := by
      cases first with
      | true =>
        simp only [tagSize, if_true] at room ⊢
        have spliced : (splice header (offset + 8) uuid).length = header.length :=
          splice_length (by omega)
        obtain ⟨result, encoded, resultLength, kept, held⟩ :=
          @ih (splice header (offset + 8) uuid) false (offset + 24) (by omega)
        refine ⟨result, encoded, resultLength.trans spliced, fun at_ count inside => ?_, fun _ => ?_,
          held⟩
        · rw [kept at_ count (by omega)]
          exact take_drop_congr fun i _ _ => by
            rw [getElem?_splice (by omega), if_neg (by omega)]
        · have copied : slice (splice header (offset + 8) uuid) (offset + 8) uuid.length =
              some uuid := slice_splice_same (by omega)
          rw [kept (offset + 8) 16 (by omega)]
          rw [sized] at copied
          exact (slice_eq_some_iff.mp copied).2
      | false =>
        simp only [Bool.false_eq_true] at room ⊢
        obtain ⟨result, encoded, resultLength, kept, held⟩ :=
          @ih header false (offset + 8) (by omega)
        exact ⟨result, encoded, resultLength, kept, False.elim, held⟩
    refine ⟨result, encoded, resultLength.trans length, ?_, by omega, ?_, ?_, ?_, carried, held⟩
    · intro at_ count before
      rw [kept at_ count (by omega), below at_ count before]
    · rw [be32, wordAt, kept _ _ (by omega)]
      exact target
    · rw [be16, wordAt, kept _ _ (by omega)]
      exact checksum
    · rw [be16, wordAt, kept _ _ (by omega)]
      exact flags

end Tags

/-! ## Records read back -/

/-- A block with a header: magic, kind and sequence number. -/
def headed (length : Nat) (magic kind sequence : BitVec 32) : Bytes :=
  setBe32 (setBe32 (setBe32 (List.replicate length 0#8) 0 magic) 4 kind) 8 sequence

section

variable {length : Nat} (long : 12 ≤ length) (magic kind sequence : BitVec 32)
include long

theorem headed_spec : (headed length magic kind sequence).length = length ∧
      be32 (headed length magic kind sequence) 0 = magic ∧
      be32 (headed length magic kind sequence) 4 = kind ∧
      be32 (headed length magic kind sequence) 8 = sequence := by
  have stored : Stored [(0, encode .big 4 magic), (4, encode .big 4 kind),
      (8, encode .big 4 sequence)] (replicate length 0#8)
      (headed length magic kind sequence) :=
    stored_storeAll (by simp; omega) (by simp [Apart])
  exact ⟨stored.length.trans length_replicate, stored.word (by simp), stored.word (by simp),
    stored.word (by simp)⟩

/-- The three writes of a header succeed. -/
theorem writeHeader_bind (rest : Bytes → Except ParseError Bytes) : (do
      let bytes ← writeBeU32 (replicate length 0#8) 0 magic
      let bytes ← writeBeU32 bytes 4 kind
      let bytes ← writeBeU32 bytes 8 sequence
      rest bytes) = rest (headed length magic kind sequence) := by
  have zero : (replicate length 0#8).length = length := length_replicate
  have first : (setBe32 (replicate length 0#8) 0 magic).length = length := by
    rw [setBe32_length _, zero]
  rw [writeBeU32_eq, ok_bind, writeBeU32_eq, ok_bind,
    writeBeU32_eq (by rw [setBe32_length _, first]; omega), ok_bind]
  rfl

end

theorem tagsSize_true (tag : BitVec 32 × Bool) (rest : List (BitVec 32 × Bool)) :
    tagsSize true (tag :: rest) = 24 + rest.length * 8 := by
  have others : tagsSize false rest = rest.length * 8 := by
    induction rest with
    | nil => rfl
    | cons tag rest ih =>
      rw [tagsSize, length_cons, tagSize]
      simp only [Bool.false_eq_true, if_false]
      omega
  rw [tagsSize, others, tagSize]
  simp only [if_true]

section Records

variable {length : Nat} {sequence : BitVec 32} {uuid home : Bytes}

section

variable (accepted : journalLength length = true)
include accepted

theorem journalLength_long : 1024 ≤ length := by
  exact (of_decide_eq_true accepted).1

/-- The encoder succeeds on tags that fit, and the parser returns what it was given. -/
theorem encodeJournalDescriptorBlock_spec {targetBlocks : List (BitVec 32)}
    {escapedTags : List Bool} (nonzero : sequence ≠ 0#32) (nonempty : targetBlocks ≠ [])
    (same : targetBlocks.length = escapedTags.length)
    (room : 12 + 24 + (targetBlocks.length - 1) * 8 ≤ length) (sized : uuid.length = 16) :
    ∃ bytes, encodeJournalDescriptorBlock length sequence targetBlocks escapedTags uuid =
        .ok bytes ∧ bytes.length = length ∧
      JournalDescriptorBlock.parse bytes = .ok ⟨bytes, sequence, uuid, targetBlocks.length⟩ ∧
      ∀ index targetBlock escaped, targetBlocks[index]? = some targetBlock →
        escapedTags[index]? = some escaped →
        tagAt bytes index 12 none = .ok ⟨targetBlock, escaped⟩ := by
  have long : 12 ≤ length := by omega
  obtain ⟨headerLength, magic, kind, number⟩ :=
    headed_spec long JOURNAL_MAGIC JOURNAL_DESCRIPTOR_BLOCK sequence
  obtain ⟨tag, rest, zipped⟩ :
      ∃ tag rest, targetBlocks.zip escapedTags = tag :: rest := by
    cases targetBlocks with
    | nil => exact absurd rfl nonempty
    | cons target targets =>
      cases escapedTags with
      | nil => simp at same
      | cons escaped escapes => exact ⟨_, _, zip_cons_cons⟩
  have counted : rest.length + 1 = targetBlocks.length := by
    have zipLength := congrArg List.length zipped
    rw [length_zip, length_cons] at zipLength
    omega
  obtain ⟨bytes, encoded, bytesLength, kept, held⟩ := @encodeTags_spec
    (headed length JOURNAL_MAGIC JOURNAL_DESCRIPTOR_BLOCK sequence) uuid sized (tag :: rest) true 12
    (by rw [tagsSize_true, headerLength]; omega)
  have byteLength : bytes.length = length := bytesLength.trans headerLength
  have word (at_ : Nat) (below : at_ + 4 ≤ 12) : be32 bytes at_ =
      be32 (headed length JOURNAL_MAGIC JOURNAL_DESCRIPTOR_BLOCK sequence) at_ := by
    rw [be32, wordAt, kept at_ 4 below]
    rfl
  have tags : parseTags bytes bytes.length 12 0 none = .ok (targetBlocks.length, some uuid) := by
    have parsed : parseTags bytes bytes.length 12 0 (knownUuid uuid true) =
        .ok (0 + rest.length + 1, some uuid) := parseTags_of_tagsAt held (by omega)
    rw [Nat.zero_add, counted] at parsed
    exact parsed
  have parsed : JournalDescriptorBlock.parse bytes =
      .ok ⟨bytes, sequence, uuid, targetBlocks.length⟩ := by
    unfold JournalDescriptorBlock.parse
    rw [if_neg (by omega), readBeU32_eq, ok_bind, readBeU32_eq, ok_bind, word 0 (by omega), word 4
      (by omega), kind, readBeU32_eq, ok_bind, word 8 (by omega), number, if_neg nonzero, tags]
    rfl
  refine ⟨bytes, ?_, byteLength, parsed, ?_⟩
  · unfold encodeJournalDescriptorBlock
    rw [if_neg (by simp [accepted, nonzero, nonempty, same]), if_neg (by omega),
      writeHeader_bind long, zipped, encoded, ok_bind, parsed]
    rfl
  · intro index targetBlock escaped atTarget atEscaped
    have found : (tag :: rest)[index]? = some (targetBlock, escaped) := by
      rw [← zipped, getElem?_zip_eq_some]
      exact ⟨atTarget, atEscaped⟩
    exact tagAt_of_tagsAt held found

theorem encodeJournalCommitBlock_spec (nonzero : sequence ≠ 0#32) :
    ∃ bytes, encodeJournalCommitBlock length sequence = .ok bytes ∧ bytes.length = length ∧
      JournalCommit.parse bytes = .ok ⟨sequence⟩ := by
  have long := journalLength_long accepted
  obtain ⟨headerLength, magic, kind, number⟩ :=
    headed_spec (show 12 ≤ length by omega) JOURNAL_MAGIC JOURNAL_COMMIT_BLOCK sequence
  have parsed : JournalCommit.parse (headed length JOURNAL_MAGIC JOURNAL_COMMIT_BLOCK sequence) =
      .ok ⟨sequence⟩ := by
    unfold JournalCommit.parse
    rw [if_neg (by omega)]
    simp (disch := omega) only [readBeU32_eq, ok_bind]
    rw [kind, number, if_neg nonzero]
    rfl
  refine ⟨_, ?_, headerLength, parsed⟩
  unfold encodeJournalCommitBlock
  rw [if_neg (by simp [accepted, nonzero]), writeHeader_bind (by omega), parsed]
  rfl

end

/-- The journal copy of a home block decodes to it, whatever the target. -/
theorem encodeJournalDataBlock_spec (accepted : journalLength home.length = true) :
    ∃ data escaped, encodeJournalDataBlock home = .ok (data, escaped) ∧ data.length = home.length ∧
      ∀ targetBlock, decodeJournalTagData data ⟨targetBlock, escaped⟩ = .ok home := by
  have long := journalLength_long accepted
  unfold encodeJournalDataBlock
  rw [if_neg (by simp [accepted])]
  split
  · next escaped =>
    have length : (replicate 4 0#8 ++ home.drop 4).length = home.length := by
      rw [length_append, length_replicate, length_drop]
      omega
    refine ⟨_, true, rfl, length, fun targetBlock => ?_⟩
    unfold decodeJournalTagData
    rw [if_neg (by omega), if_pos rfl, drop_append_of_le_length (by rw [length_replicate]),
      drop_of_length_le (by rw [length_replicate]), nil_append, ← escaped,
      take_append_drop]
  · refine ⟨home, false, rfl, rfl, fun targetBlock => ?_⟩
    unfold decodeJournalTagData
    rw [if_neg (by omega), if_neg (by simp)]

/-- No journal copy can be taken for a record of the journal. -/
theorem encodeJournalDataBlock_take {data : Bytes}
    (encoded : encodeJournalDataBlock home = .ok (data, escaped)) : data.take 4 ≠ magicBytes := by
  unfold encodeJournalDataBlock at encoded
  split at encoded
  · cases encoded
  split at encoded
  · cases encoded
    rw [take_append_of_le_length (by rw [length_replicate])]
    decide
  · next plain =>
    cases encoded
    exact plain

theorem encodeJournalDataBlock_all {homes : List Bytes} (accepted : journalLength length = true)
    (blocks : ∀ home ∈ homes, home.length = length) :
    ∃ copies, Forall₂ (fun home copy => encodeJournalDataBlock home = .ok copy) homes copies := by
  induction homes with
  | nil => exact ⟨[], .nil⟩
  | cons home homes ih =>
    have size : journalLength home.length = true := by
      rw [blocks home mem_cons_self]
      exact accepted
    obtain ⟨data, escaped, encoded, -⟩ := encodeJournalDataBlock_spec size
    obtain ⟨copies, rest⟩ := ih fun other member => blocks other (mem_cons_of_mem _ member)
    exact ⟨(data, escaped) :: copies, .cons encoded rest⟩

/-- Encoding the records of a transaction and parsing them gives the transaction
back: the sequence number, the uuid and the tags from the descriptor, the sequence
number from the commit record, and each home block from its journal copy and its
tag.  No copy starts with the magic of a record. -/
theorem journal_records_read_back (length : Nat) (sequence : BitVec 32) (uuid : Bytes)
    (targetBlocks : List (BitVec 32)) (homes : List Bytes) (accepted : journalLength length = true)
    (nonzero : sequence ≠ 0#32) (sized : uuid.length = 16) (nonempty : targetBlocks ≠ [])
    (room : 12 + 24 + (targetBlocks.length - 1) * 8 ≤ length)
    (paired : homes.length = targetBlocks.length) (blocks : ∀ home ∈ homes, home.length = length) :
    ∃ copies descriptor commit,
      List.Forall₂ (fun home copy => encodeJournalDataBlock home = .ok copy) homes copies ∧
      encodeJournalDescriptorBlock length sequence targetBlocks (copies.map (·.2)) uuid =
        .ok descriptor ∧ encodeJournalCommitBlock length sequence = .ok commit ∧
      JournalCommit.parse commit = .ok ⟨sequence⟩ ∧
      ∃ parsed, JournalDescriptorBlock.parse descriptor = .ok parsed ∧
        parsed.sequence = sequence ∧ parsed.uuid = uuid ∧ parsed.tagCount = targetBlocks.length ∧
        ∀ index targetBlock home data escaped, targetBlocks[index]? = some targetBlock →
          homes[index]? = some home → copies[index]? = some (data, escaped) →
          parsed.tag index = .ok ⟨targetBlock, escaped⟩ ∧
          decodeJournalTagData data ⟨targetBlock, escaped⟩ = .ok home ∧
          data.take 4 ≠ magicBytes := by
  obtain ⟨copies, encoded⟩ := encodeJournalDataBlock_all accepted blocks
  have same : targetBlocks.length = (copies.map (·.2)).length := by
    rw [length_map, ← encoded.length_eq, paired]
  obtain ⟨descriptor, described, -, parsed, tags⟩ :=
    encodeJournalDescriptorBlock_spec accepted nonzero nonempty same room sized
  obtain ⟨commit, committed, -, closed⟩ := encodeJournalCommitBlock_spec accepted nonzero
  refine ⟨copies, descriptor, commit, encoded, described, committed, closed, _, parsed, rfl, rfl,
    rfl, fun index targetBlock home data escaped target atHome copy => ?_⟩
  have inside : index < targetBlocks.length := (List.getElem?_eq_some_iff.mp target).1
  have stored : encodeJournalDataBlock home = .ok (data, escaped) := by
    obtain ⟨homeInside, rfl⟩ := List.getElem?_eq_some_iff.mp atHome
    obtain ⟨copyInside, value⟩ := List.getElem?_eq_some_iff.mp copy
    rw [← value]
    exact forall₂_iff_get.mp encoded |>.2 index homeInside copyInside
  refine ⟨?_, ?_, encodeJournalDataBlock_take stored⟩
  · unfold JournalDescriptorBlock.tag
    rw [if_neg (not_le.mpr inside)]
    exact tags index targetBlock escaped target (by rw [getElem?_map, copy]; rfl)
  have size : journalLength home.length = true := by
    rw [blocks home (mem_of_getElem? atHome)]
    exact accepted
  obtain ⟨data', escaped', encoded', -, decoded⟩ := encodeJournalDataBlock_spec size
  rw [stored] at encoded'
  cases encoded'
  exact decoded targetBlock

/-- A block that starts with the magic beside one that does not. -/
theorem journal_records_read_back_escaped : ∃ copies descriptor commit,
    List.Forall₂ (fun home copy => encodeJournalDataBlock home = .ok copy)
      [magicBytes ++ List.replicate 1020 7#8, List.replicate 1024 7#8] copies ∧
    encodeJournalDescriptorBlock 1024 5#32 [40#32, 41#32] (copies.map (·.2))
      (List.replicate 16 3#8) = .ok descriptor ∧
    encodeJournalCommitBlock 1024 5#32 = .ok commit := by
  obtain ⟨copies, descriptor, commit, encoded, described, committed, -⟩ :=
    journal_records_read_back 1024 5#32 (replicate 16 3#8) [40#32, 41#32]
      [magicBytes ++ replicate 1020 7#8, replicate 1024 7#8] (by decide) (by decide)
      length_replicate (by decide) (by decide) rfl (by
        intro home member
        rcases mem_pair.mp member with rfl | rfl
        · rw [length_append, length_replicate]
          rfl
        · exact length_replicate)
  exact ⟨copies, descriptor, commit, encoded, described, committed⟩

/-- The encoders refuse the sequence number zero, which no log uses. -/
theorem journal_records_refuse_zero :
    encodeJournalDescriptorBlock 1024 0#32 [40#32] [false] (List.replicate 16 3#8) =
        .error .invalidJournal ∧ encodeJournalCommitBlock 1024 0#32 = .error .invalidJournal := by
  constructor
  · rfl
  · rfl

end Records

end SlopOS.Ext4
