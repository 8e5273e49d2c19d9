import SlopOS.Ebpf.Instruction

/-!
The interpreter (`execute` of `ebpf/src/lib.rs`).

Every way in which the Rust code could stop is visible in the result: an
`Err(RuntimeError)`, or a panic at an `unreachable!` arm or at an array index.
The helper registry is a state machine over an arbitrary state, since
`HelperRegistry::call` takes `&mut self`.
-/

namespace SlopOS.Ebpf

inductive Panic where
  | unreachable
  | indexOutOfBounds
  deriving DecidableEq, Repr

/-- The ways a run stops other than by returning a value. -/
inductive Halt where
  | err (e : RuntimeError)
  | panic (p : Panic)
  deriving DecidableEq, Repr

abbrev Registers := Vector (BitVec 64) REGISTER_COUNT
abbrev Stack := Vector (BitVec 8) STACK_SIZE

structure HelperRegistry (σ : Type) where
  call : σ → BitVec 32 → Registers → Option (BitVec 64) × σ

/-! ## Checked array accesses -/

section

variable {α : Type} {n : Nat} (values : Vector α n) (index : Nat)

def readIndex : Except Halt α :=
  match values[index]? with
  | some value => .ok value
  | none => .error (.panic .indexOutOfBounds)

def writeIndex (value : α) : Except Halt (Vector α n) :=
  if h : index < n then .ok (values.set index value h)
  else .error (.panic .indexOutOfBounds)

end

def fetch (instructions : List Instruction) (pc : Nat) : Except Halt Instruction :=
  match instructions[pc]? with
  | some i => .ok i
  | none => .error (.panic .indexOutOfBounds)

/-! ## Operators -/

def branchPc (pc : Nat) (offset : BitVec 16) : Nat :=
  -- `offset as usize` sign-extends to 64 bits.
  (pc + 1 + (offset.signExtend 64).toNat) % 2 ^ 64

def applyAlu (opcode : BitVec 8) (destination rhs : BitVec 64) (pc : Nat) :
    Except Halt (BitVec 64) :=
  let operation := opcode &&& 0xf0
  if operation = 0x00#8 then .ok (destination + rhs)
  else if operation = 0x10#8 then .ok (destination - rhs)
  else if operation = 0x20#8 then .ok (destination * rhs)
  else if operation = 0x30#8 then
    if rhs = 0 then .error (.err (.divisionByZero pc)) else .ok (destination / rhs)
  else if operation = 0x40#8 then .ok (destination ||| rhs)
  else if operation = 0x50#8 then .ok (destination &&& rhs)
  else if operation = 0x60#8 then .ok (destination <<< (rhs &&& 63).toNat)
  else if operation = 0x70#8 then .ok (destination >>> (rhs &&& 63).toNat)
  else if operation = 0x90#8 then
    if rhs = 0 then .error (.err (.divisionByZero pc)) else .ok (destination % rhs)
  else if operation = 0xa0#8 then .ok (destination ^^^ rhs)
  else if operation = 0xc0#8 then .ok (destination.sshiftRight (rhs &&& 63).toNat)
  else .error (.panic .unreachable)

def compare (opcode : BitVec 8) (lhs rhs : BitVec 64) : Bool :=
  let operation := opcode &&& 0xf0
  if operation = 0x10#8 then lhs == rhs
  else if operation = 0x20#8 then rhs.ult lhs
  else if operation = 0x30#8 then rhs.ule lhs
  else if operation = 0x40#8 then lhs &&& rhs != 0
  else if operation = 0x50#8 then lhs != rhs
  else if operation = 0x60#8 then rhs.slt lhs
  else if operation = 0x70#8 then rhs.sle lhs
  else if operation = 0xa0#8 then lhs.ult rhs
  else if operation = 0xb0#8 then lhs.ule rhs
  else if operation = 0xc0#8 then lhs.slt rhs
  else if operation = 0xd0#8 then lhs.sle rhs
  else false

def stackAddress (offset : BitVec 16) (size pc : Nat) : Except Halt Nat :=
  let start : Int := STACK_SIZE + offset.toInt
  if start < 0 ∨ STACK_SIZE < start.toNat + size then .error (.err (.invalidStackAccess pc))
  else .ok start.toNat

def loadStack (stack : Stack) (start size : Nat) : Except Halt (BitVec 64) :=
  (List.range size).foldlM (fun value index => do
    let byte ← readIndex stack (start + index)
    return value ||| (byte.setWidth 64 <<< (index * 8))) 0

def storeStack (stack : Stack) (start size : Nat) (value : BitVec 64) : Except Halt Stack :=
  (List.range size).foldlM (fun stack index =>
    writeIndex stack (start + index) ((value >>> (index * 8)).setWidth 8)) stack

/-! ## One iteration of the loop -/

structure Machine (σ : Type) where
  pc : Nat
  registers : Registers
  stack : Stack
  helpers : σ

inductive Next (σ : Type) where
  | continue (machine : Machine σ)
  | exit (value : BitVec 64)

variable {σ : Type}

/-- Store into a register and fall through to the next slot. -/
def Machine.assign (m : Machine σ) (register : Nat) (value : BitVec 64) (pc : Nat) :
    Except Halt (Next σ) := do
  let registers ← writeIndex m.registers register value
  return .continue { m with registers, pc }

section

variable (registry : HelperRegistry σ) (instructions : List Instruction) (m : Machine σ)

/-- The opcode match of the loop, at the instruction fetched from `m.pc`. -/
def stepInstruction (i : Instruction) : Except Halt (Next σ) :=
  let destination := i.destination
  let source := i.source
  let immediate := i.immediate.signExtend 64
  match i.arm with
  | .loadWide => do
      let high ← fetch instructions (m.pc + 1)
      m.assign destination
        (i.immediate.setWidth 64 ||| (high.immediate.setWidth 64 <<< 32)) (m.pc + 2)
  | .movImmediate => m.assign destination immediate (m.pc + 1)
  | .movRegister => do
      let value ← readIndex m.registers source
      m.assign destination value (m.pc + 1)
  | .aluImmediate => do
      let lhs ← readIndex m.registers destination
      let value ← applyAlu i.opcode lhs immediate m.pc
      m.assign destination value (m.pc + 1)
  | .aluRegister => do
      let rhs ← readIndex m.registers source
      let lhs ← readIndex m.registers destination
      let value ← applyAlu i.opcode lhs rhs m.pc
      m.assign destination value (m.pc + 1)
  | .negate => do
      let value ← readIndex m.registers destination
      m.assign destination (-value) (m.pc + 1)
  | .stackLoad => do
      let start ← stackAddress i.offset (accessSize i.opcode) m.pc
      let value ← loadStack m.stack start (accessSize i.opcode)
      m.assign destination value (m.pc + 1)
  | .stackStoreImmediate => do
      let start ← stackAddress i.offset (accessSize i.opcode) m.pc
      let stack ← storeStack m.stack start (accessSize i.opcode) immediate
      return .continue { m with stack, pc := m.pc + 1 }
  | .stackStoreRegister => do
      let start ← stackAddress i.offset (accessSize i.opcode) m.pc
      let value ← readIndex m.registers source
      let stack ← storeStack m.stack start (accessSize i.opcode) value
      return .continue { m with stack, pc := m.pc + 1 }
  | .jump => return .continue { m with pc := branchPc m.pc i.offset }
  | .conditionalJumpImmediate => do
      let lhs ← readIndex m.registers destination
      if compare i.opcode lhs immediate then
        return .continue { m with pc := branchPc m.pc i.offset }
      else return .continue { m with pc := m.pc + 1 }
  | .conditionalJumpRegister => do
      let lhs ← readIndex m.registers destination
      let rhs ← readIndex m.registers source
      if compare i.opcode lhs rhs then
        return .continue { m with pc := branchPc m.pc i.offset }
      else return .continue { m with pc := m.pc + 1 }
  | .call =>
      match registry.call m.helpers i.immediate m.registers with
      | (none, _) => throw (.err (.invalidHelper m.pc i.immediate))
      | (some value, helpers) => do
          let registers ← writeIndex m.registers 0 value
          return .continue { m with registers, helpers, pc := m.pc + 1 }
  | .exit => do
      let value ← readIndex m.registers 0
      return .exit value
  | .other => throw (.panic .unreachable)

/-- The body of the `while` loop after the step counter. -/
def step : Except Halt (Next σ) := do
  let i ← fetch instructions m.pc
  stepInstruction registry instructions m i

end

variable (registry : HelperRegistry σ) (instructions : List Instruction)

/-- The `while` loop with `remaining = MAX_INSTRUCTIONS - steps`. -/
def runLoop : Nat → Machine σ → Except Halt (BitVec 64)
  | 0, _ => .error (.err .stepLimit)
  | remaining + 1, m =>
      if m.pc < instructions.length then
        match step registry instructions m with
        | .error halt => .error halt
        | .ok (.exit value) => .ok value
        | .ok (.continue next) => runLoop remaining next
      else .error (.err .stepLimit)

def Machine.initial (helpers : σ) (context : BitVec 64) : Machine σ where
  pc := 0
  registers := ((Vector.replicate REGISTER_COUNT 0).set 1 context (by decide)).set 10
    (BitVec.ofNat 64 STACK_SIZE) (by decide)
  stack := Vector.replicate STACK_SIZE 0
  helpers := helpers

def execute (helpers : σ) (context : BitVec 64) : Except Halt (BitVec 64) :=
  runLoop registry instructions MAX_INSTRUCTIONS (Machine.initial helpers context)

/-- The machines at which the loop of `execute` fetches an instruction. -/
inductive Reaches (registry : HelperRegistry σ) (instructions : List Instruction)
    (start : Machine σ) : Machine σ → Prop
  | refl : Reaches registry instructions start start
  | tail {m next : Machine σ} : Reaches registry instructions start m →
      step registry instructions m = .ok (.continue next) →
      Reaches registry instructions start next

end SlopOS.Ebpf
