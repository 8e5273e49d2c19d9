import Mathlib.Data.BitVec

/-!
Instruction encoding of the in-kernel eBPF subset (`ebpf/src/lib.rs`): the
eight-byte slot, the opcode tables and the two error types.

`verify` and `execute` match on the opcode with the same arms in the same
order.  `Opcode.arm` names the arm selected, so that both matches are read off
one classification.
-/

namespace SlopOS.Ebpf

def MAX_INSTRUCTIONS : Nat := 4096
def STACK_SIZE : Nat := 512
def REGISTER_COUNT : Nat := 11
def UNREACHED : BitVec 16 := 0xffff

structure Instruction where
  opcode : BitVec 8
  registers : BitVec 8
  offset : BitVec 16
  immediate : BitVec 32
  deriving DecidableEq, Repr

def Instruction.new (opcode destination source : BitVec 8) (offset : BitVec 16)
    (immediate : BitVec 32) : Instruction :=
  ⟨opcode, (source <<< 4) ||| (destination &&& 0x0f), offset, immediate⟩

def Instruction.destination (i : Instruction) : Nat := (i.registers &&& 0x0f).toNat

def Instruction.source (i : Instruction) : Nat := (i.registers >>> 4).toNat

/-- Little-endian decoding of one slot. -/
def Instruction.decode (b0 b1 b2 b3 b4 b5 b6 b7 : BitVec 8) : Instruction :=
  ⟨b0, b1, b3 ++ b2, b7 ++ b6 ++ b5 ++ b4⟩

inductive VerifyError where
  | emptyProgram
  | programTooLarge
  | invalidOpcode (pc : Nat) (opcode : BitVec 8)
  | invalidRegister (pc register : Nat)
  | framePointerWrite (pc : Nat)
  | uninitializedRegister (pc register : Nat)
  | invalidJump (pc : Nat)
  | backwardJump (pc : Nat)
  | jumpIntoWideImmediate (pc : Nat)
  | truncatedWideImmediate (pc : Nat)
  | invalidWideImmediate (pc : Nat)
  | invalidHelper (pc : Nat) (helper : BitVec 32)
  | invalidStackBase (pc : Nat)
  | stackOutOfBounds (pc : Nat)
  | reachableFallthrough (pc : Nat)
  | missingExit
  deriving DecidableEq, Repr

inductive RuntimeError where
  | divisionByZero (pc : Nat)
  | invalidHelper (pc : Nat) (helper : BitVec 32)
  | invalidStackAccess (pc : Nat)
  | stepLimit
  deriving DecidableEq, Repr

/-! ## Opcode tables -/

section

variable (opcode : BitVec 8)

def accessSize : Nat :=
  if opcode &&& 0x18 = 0x00#8 then 4
  else if opcode &&& 0x18 = 0x08#8 then 2
  else if opcode &&& 0x18 = 0x10#8 then 1
  else if opcode &&& 0x18 = 0x18#8 then 8
  else 0

def isAluImmediate : Bool :=
  [0x07#8, 0x17#8, 0x27#8, 0x37#8, 0x47#8, 0x57#8, 0x67#8, 0x77#8, 0x97#8, 0xa7#8,
    0xc7#8].contains opcode

def isAluRegister : Bool :=
  [0x0f#8, 0x1f#8, 0x2f#8, 0x3f#8, 0x4f#8, 0x5f#8, 0x6f#8, 0x7f#8, 0x9f#8, 0xaf#8,
    0xcf#8].contains opcode

def isConditionalJumpImmediate : Bool :=
  [0x15#8, 0x25#8, 0x35#8, 0x45#8, 0x55#8, 0x65#8, 0x75#8, 0xa5#8, 0xb5#8, 0xc5#8,
    0xd5#8].contains opcode

def isConditionalJumpRegister : Bool :=
  [0x1d#8, 0x2d#8, 0x3d#8, 0x4d#8, 0x5d#8, 0x6d#8, 0x7d#8, 0xad#8, 0xbd#8, 0xcd#8,
    0xdd#8].contains opcode

def isStackLoad : Bool :=
  [0x61#8, 0x69#8, 0x71#8, 0x79#8].contains opcode

def isStackStoreImmediate : Bool :=
  [0x62#8, 0x6a#8, 0x72#8, 0x7a#8].contains opcode

def isStackStoreRegister : Bool :=
  [0x63#8, 0x6b#8, 0x73#8, 0x7b#8].contains opcode

def isSupportedOpcode : Bool :=
  opcode == 0x18#8 || opcode == 0xb7#8 || opcode == 0xbf#8 || opcode == 0x87#8 || opcode == 0x05#8 ||
    opcode == 0x85#8 || opcode == 0x95#8 || isAluImmediate opcode || isAluRegister opcode ||
    isConditionalJumpImmediate opcode || isConditionalJumpRegister opcode ||
    isStackLoad opcode || isStackStoreImmediate opcode || isStackStoreRegister opcode

end

/-- The arms of the two opcode matches, in source order. -/
inductive Arm where
  | loadWide
  | movImmediate
  | movRegister
  | aluImmediate
  | aluRegister
  | negate
  | stackLoad
  | stackStoreImmediate
  | stackStoreRegister
  | jump
  | conditionalJumpImmediate
  | conditionalJumpRegister
  | call
  | exit
  | other
  deriving DecidableEq, Repr

/-- The pattern or guard of an arm. -/
def Arm.accepts : Arm → BitVec 8 → Bool
  | .loadWide, opcode => opcode == 0x18#8
  | .movImmediate, opcode => opcode == 0xb7#8
  | .movRegister, opcode => opcode == 0xbf#8
  | .aluImmediate, opcode => isAluImmediate opcode
  | .aluRegister, opcode => isAluRegister opcode
  | .negate, opcode => opcode == 0x87#8
  | .stackLoad, opcode => isStackLoad opcode
  | .stackStoreImmediate, opcode => isStackStoreImmediate opcode
  | .stackStoreRegister, opcode => isStackStoreRegister opcode
  | .jump, opcode => opcode == 0x05#8
  | .conditionalJumpImmediate, opcode => isConditionalJumpImmediate opcode
  | .conditionalJumpRegister, opcode => isConditionalJumpRegister opcode
  | .call, opcode => opcode == 0x85#8
  | .exit, opcode => opcode == 0x95#8
  | .other, _ => true

/-- The arms as both matches list them; the last one is the catch-all. -/
def Arm.order : List Arm :=
  [.loadWide, .movImmediate, .movRegister, .aluImmediate, .aluRegister, .negate, .stackLoad,
    .stackStoreImmediate, .stackStoreRegister, .jump, .conditionalJumpImmediate,
    .conditionalJumpRegister, .call, .exit]

/-- The first arm that accepts the opcode. -/
def Opcode.arm (opcode : BitVec 8) : Arm :=
  (Arm.order.find? (·.accepts opcode)).getD .other

def Instruction.arm (i : Instruction) : Arm := Opcode.arm i.opcode

/-! ## What the arm says about the opcode -/

theorem Opcode.arm_accepts (opcode : BitVec 8) : (arm opcode).accepts opcode = true := by
  unfold arm
  cases found : Arm.order.find? (·.accepts opcode) with
  | none => rfl
  | some arm =>
    have accepts := List.find?_some found
    exact accepts

theorem Instruction.arm_eq_loadWide_iff {i : Instruction} :
    i.arm = .loadWide ↔ i.opcode = 0x18#8 := by
  constructor
  · intro arm
    have accepts := Opcode.arm_accepts i.opcode
    rw [show Opcode.arm i.opcode = .loadWide from arm] at accepts
    exact eq_of_beq accepts
  · intro wide
    unfold arm
    rw [wide]
    rfl

end SlopOS.Ebpf
