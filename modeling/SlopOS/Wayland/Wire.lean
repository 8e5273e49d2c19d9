import SlopOS.Base.ByteCodec
import SlopOS.Base.Fallible

/-!
# The Wayland wire format

A message is a header of two little-endian words, the object and the size with the
opcode, and a payload of four-byte aligned arguments.  An `ArgumentReader` is the rest
of the payload, so each read returns the value and what is left.
-/

namespace SlopOS.Wayland

open ByteCodec List

inductive WireError
  | truncatedHeader
  | nullObject
  | invalidSize
  | unalignedSize
  | truncatedMessage
  | bufferTooSmall
  | messageTooLarge
  | truncatedArgument
  | trailingArguments
  | invalidString
  | invalidArray
  | missingFileDescriptor
  | unexpectedFileDescriptor
  | unknownObject
  | wrongInterface
  | duplicateObject
  | objectCapacity
  | objectNotRetired
  | unknownOpcode
  | unsupportedVersion
  | unknownGlobal
  | interfaceMismatch
  | invalidVersion
  | invalidArgument
  deriving DecidableEq

def headerSize : Nat := 8
def displayObjectId : Nat := 1

structure Header where
  objectId : Nat
  opcode : Nat
  size : Nat

structure Frame where
  header : Header
  payload : Bytes

/-- The first message of `bytes` and the bytes after it. -/
def Frame.decode (bytes : Bytes) : Except WireError (Frame × Bytes) :=
  let objectId := fromLE (bytes.take 4)
  let word := fromLE ((bytes.drop 4).take 4)
  let size := word / 2 ^ 16
  if bytes.length < headerSize then .error .truncatedHeader
  else if objectId = 0 then .error .nullObject
  else if size < headerSize then .error .invalidSize
  else if size % 4 ≠ 0 then .error .unalignedSize
  else if bytes.length < size then .error .truncatedMessage
  else .ok (⟨⟨objectId, word % 2 ^ 16, size⟩, (bytes.take size).drop headerSize⟩, bytes.drop size)

/-- `u32 as i32`. -/
def toI32 (value : Nat) : Int := if value < 2 ^ 31 then value else value - 2 ^ 32

def align4 (value : Nat) : Nat := (value + 3) / 4 * 4

def textOf (bytes : Bytes) : Option String :=
  String.fromUTF8? ⟨(bytes.map UInt8.ofBitVec).toArray⟩

variable {rest : Bytes}

namespace ArgumentReader

def take (length : Nat) (rest : Bytes) : Except WireError (Bytes × Bytes) :=
  if length ≤ rest.length then .ok (rest.take length, rest.drop length)
  else .error .truncatedArgument

section

variable (rest : Bytes)

def uint : Except WireError (Nat × Bytes) := do
  let (word, rest) ← take 4 rest
  pure (fromLE word, rest)

def int : Except WireError (Int × Bytes) := do
  let (value, rest) ← uint rest
  pure (toI32 value, rest)

def object : Except WireError (Nat × Bytes) := do
  let (id, rest) ← uint rest
  if id = 0 then .error .nullObject else .ok (id, rest)

def nullableObject : Except WireError (Option Nat × Bytes) := do
  let (id, rest) ← uint rest
  pure (if id = 0 then none else some id, rest)

def nullableString : Except WireError (Option String × Bytes) := do
  let (length, rest) ← uint rest
  if length = 0 then .ok (none, rest)
  else
    let (padded, rest) ← take (align4 length) rest
    let value := padded.take length
    if value.getLast? ≠ some 0 ∨ (value.take (length - 1)).contains 0 then .error .invalidString
    else match textOf (value.take (length - 1)) with
      | none => .error .invalidString
      | some text => .ok (some text, rest)

def string : Except WireError (String × Bytes) := do
  match ← nullableString rest with
  | (none, _) => .error .invalidString
  | (some text, rest) => .ok (text, rest)

end

theorem uint_lt : (uint rest).Ends (fun result => result.1 < 2 ^ 32) fun _ => True := by
  unfold uint take
  split
  case isTrue enough =>
    have bound := fromLE_lt (rest.take 4)
    rw [length_take, Nat.min_eq_left enough] at bound
    exact bound
  case isFalse => trivial

theorem object_lt : (object rest).Ends (fun result => result.1 < 2 ^ 32) fun _ => True :=
  uint_lt.bind fun _ bound => .guard fun _ => bound

end ArgumentReader

/-! ## Messages as they are written -/

/-- A message with a given payload. -/
def messageBytes (objectId opcode : Nat) (payload : Bytes) : Bytes :=
  toLE 4 objectId ++ (toLE 4 ((headerSize + payload.length) * 2 ^ 16 + opcode) ++ payload)

/-- What is written as a message is read as one. -/
theorem decode_messageBytes {objectId opcode : Nat} {payload : Bytes} (named : 0 < objectId)
    (idFits : objectId < 2 ^ 32) (opcodeFits : opcode < 2 ^ 16)
    (sizeFits : headerSize + payload.length < 2 ^ 16) (aligned : payload.length % 4 = 0) :
    Frame.decode (messageBytes objectId opcode payload ++ rest) =
      .ok (⟨⟨objectId, opcode, headerSize + payload.length⟩, payload⟩, rest) := by
  have length : (messageBytes objectId opcode payload).length = headerSize + payload.length := by
    simp [messageBytes, headerSize]
    omega
  have first : (messageBytes objectId opcode payload ++ rest).take 4 = toLE 4 objectId := by
    rw [messageBytes, append_assoc, take_left' (toLE_length 4 _)]
  have second : ((messageBytes objectId opcode payload ++ rest).drop 4).take 4 =
      toLE 4 ((headerSize + payload.length) * 2 ^ 16 + opcode) := by
    rw [messageBytes, append_assoc, drop_left' (toLE_length 4 _), append_assoc,
      take_left' (toLE_length 4 _)]
  have word : ((headerSize + payload.length) * 2 ^ 16 + opcode) % 256 ^ 4 =
      (headerSize + payload.length) * 2 ^ 16 + opcode := Nat.mod_eq_of_lt (by omega)
  have size : ((headerSize + payload.length) * 2 ^ 16 + opcode) / 2 ^ 16 =
      headerSize + payload.length := by omega
  have low : ((headerSize + payload.length) * 2 ^ 16 + opcode) % 2 ^ 16 = opcode := by omega
  have whole : (messageBytes objectId opcode payload ++ rest).take (headerSize + payload.length) =
      messageBytes objectId opcode payload := by
    rw [← length, take_left]
  have body : (messageBytes objectId opcode payload).drop headerSize = payload := by
    rw [messageBytes, ← append_assoc]
    exact drop_left' (by simp [headerSize])
  have after : (messageBytes objectId opcode payload ++ rest).drop (headerSize + payload.length) =
      rest := by
    rw [← length, drop_left]
  unfold Frame.decode
  dsimp only
  rw [first, second, fromLE_toLE, fromLE_toLE, word, size, low, whole, body, after, Nat.mod_eq_of_lt
    (show objectId < 256 ^ 4 by omega), length_append, if_neg (by omega), if_neg (by omega), if_neg
    (by omega), if_neg (by simp [headerSize]; omega), if_neg (by omega)]

theorem uint_toLE {value : Nat} (fits : value < 2 ^ 32) (rest : Bytes) :
    ArgumentReader.uint (toLE 4 value ++ rest) = .ok (value, rest) := by
  have enough : 4 ≤ (toLE 4 value ++ rest).length := by simp
  unfold ArgumentReader.uint ArgumentReader.take
  rw [if_pos enough, take_left' (toLE_length 4 _), drop_left' (toLE_length 4 _)]
  simp only [bind, Except.bind, pure, Except.pure, fromLE_toLE]
  rw [Nat.mod_eq_of_lt (show value < 256 ^ 4 by omega)]

/-- Arguments of one word each. -/
def words (values : List Nat) : Bytes := values.flatMap (toLE 4)

theorem words_length (values : List Nat) : (words values).length = 4 * values.length := by
  induction values with
  | nil => rfl
  | cons value rest ih =>
    rw [words, flatMap_cons, length_append, toLE_length, ← words, length_cons]
    omega

section Words

variable {value : Nat} {rest : List Nat}

theorem uint_words (fits : value < 2 ^ 32) :
    ArgumentReader.uint (words (value :: rest)) = .ok (value, words rest) :=
  uint_toLE fits (words rest)

theorem int_words (fits : value < 2 ^ 31) :
    ArgumentReader.int (words (value :: rest)) = .ok ((value : Int), words rest) := by
  rw [ArgumentReader.int, uint_words (by omega)]
  simp only [bind, Except.bind, toI32, if_pos fits]
  rfl

theorem object_words (named : 0 < value) (fits : value < 2 ^ 32) :
    ArgumentReader.object (words (value :: rest)) = .ok (value, words rest) := by
  rw [ArgumentReader.object, uint_words fits]
  exact if_neg (pos_iff_ne_zero.mp named)

theorem nullableObject_words (named : 0 < value) (fits : value < 2 ^ 32) :
    ArgumentReader.nullableObject (words (value :: rest)) = .ok (some value, words rest) := by
  rw [ArgumentReader.nullableObject, uint_words fits]
  simp only [bind, Except.bind, if_neg (pos_iff_ne_zero.mp named)]
  rfl

end Words

end SlopOS.Wayland
