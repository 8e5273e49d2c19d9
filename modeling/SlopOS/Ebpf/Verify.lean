import SlopOS.Ebpf.Instruction

/-!
The load-time verifier (`verify` of `ebpf/src/lib.rs`).

The first pass pairs wide immediates and checks opcodes and register numbers.
The second pass carries, for each slot, the set of registers initialised on
every path found so far (`incoming`), or `UNREACHED`.  Both passes are loops
over the slots; they are written here as recursions over the remaining suffix
of the instruction slice.
-/

namespace SlopOS.Ebpf

abbrev Masks := Nat → BitVec 16

def Masks.set (masks : Masks) (pc : Nat) (mask : BitVec 16) : Masks :=
  fun slot => if slot = pc then mask else masks slot

structure VerifiedProgram where
  instructions : List Instruction
  deriving DecidableEq, Repr

/-! ## Checks -/

def validateRegisterNumbers (pc : Nat) (i : Instruction) : Except VerifyError Unit :=
  if REGISTER_COUNT ≤ i.destination then .error (.invalidRegister pc i.destination)
  else if REGISTER_COUNT ≤ i.source then .error (.invalidRegister pc i.source)
  else .ok ()

def ensureWritableDestination (pc destination : Nat) : Except VerifyError Unit :=
  if destination = 10 then .error (.framePointerWrite pc) else .ok ()

def requireInitialized (initialized : BitVec 16) (pc register : Nat) : Except VerifyError Unit :=
  if initialized &&& (1#16 <<< register) = 0#16 then .error (.uninitializedRegister pc register)
  else .ok ()

def requireStackAccess (pc base : Nat) (offset : BitVec 16) (size : Nat) :
    Except VerifyError Unit :=
  if base ≠ 10 then .error (.invalidStackBase pc)
  else
    let start : Int := STACK_SIZE + offset.toInt
    if start < 0 ∨ STACK_SIZE < start.toNat + size then .error (.stackOutOfBounds pc)
    else .ok ()

def jumpTarget (length pc : Nat) (offset : BitVec 16) : Except VerifyError Nat :=
  if offset.toInt < 0 then .error (.backwardJump pc)
  else
    let target := pc + 1 + offset.toInt.toNat
    if length ≤ target then .error (.invalidJump pc) else .ok target

def propagate (incoming : Masks) (length target : Nat) (state : BitVec 16) (sourcePc : Nat) :
    Except VerifyError Masks :=
  if length ≤ target then .error (.reachableFallthrough sourcePc)
  else if incoming target = UNREACHED then .ok (incoming.set target state)
  else .ok (incoming.set target (incoming target &&& state))

def propagateNext (incoming : Masks) (length pc : Nat) (state : BitVec 16) :
    Except VerifyError Masks :=
  propagate incoming length (pc + 1) state pc

def propagateBranch (incoming : Masks) (wideSecond : Nat → Bool) (length pc : Nat)
    (offset : BitVec 16) (state : BitVec 16) : Except VerifyError Masks := do
  let target ← jumpTarget length pc offset
  if wideSecond target then throw (.jumpIntoWideImmediate pc)
  else do
    let incoming ← propagate incoming length (pc + 1) state pc
    propagate incoming length target state pc

/-! ## First pass -/

/-- The slots still to visit start at `pc`; the result adds the second slots of
the wide immediates among them to `wideSecond`. -/
def pairWideImmediates (wideSecond : Nat → Bool) :
    Nat → List Instruction → Except VerifyError (Nat → Bool)
  | _, [] => .ok wideSecond
  | pc, i :: rest => do
      validateRegisterNumbers pc i
      if i.opcode = 0x18#8 then
        match rest with
        | [] => throw (.truncatedWideImmediate pc)
        | continuation :: rest =>
            if i.source ≠ 0 ∨ continuation.opcode ≠ 0 ∨ continuation.registers ≠ 0 ∨
                continuation.offset ≠ 0 then
              throw (.invalidWideImmediate pc)
            else
              pairWideImmediates (fun slot => if slot = pc + 1 then true else wideSecond slot)
                (pc + 2) rest
      else if !isSupportedOpcode i.opcode then throw (.invalidOpcode pc i.opcode)
      else pairWideImmediates wideSecond (pc + 1) rest

/-! ## Second pass -/

structure Flow where
  incoming : Masks
  sawExit : Bool

/-- Continue with new masks and an unchanged exit flag. -/
def Flow.with (flow : Flow) (incoming : Masks) : Flow := { flow with incoming }

section

variable (length : Nat) (wideSecond : Nat → Bool) (allowedHelpers : List (BitVec 32)) (pc : Nat)
  (i : Instruction)

/-- One arm of the second pass: slot `pc` is reached with the registers in
`initialized` and is not the second slot of a wide immediate. -/
def flowInstruction (initialized : BitVec 16) (flow : Flow) : Except VerifyError Flow :=
  let destination := i.destination
  let source := i.source
  match i.arm with
  | .loadWide => do
      ensureWritableDestination pc destination
      return flow.with
        (← propagate flow.incoming length (pc + 2) (initialized ||| 1#16 <<< destination) pc)
  | .movImmediate => do
      ensureWritableDestination pc destination
      return flow.with
        (← propagateNext flow.incoming length pc (initialized ||| 1#16 <<< destination))
  | .movRegister => do
      ensureWritableDestination pc destination
      requireInitialized initialized pc source
      return flow.with
        (← propagateNext flow.incoming length pc (initialized ||| 1#16 <<< destination))
  | .aluImmediate => do
      ensureWritableDestination pc destination
      requireInitialized initialized pc destination
      return flow.with
        (← propagateNext flow.incoming length pc (initialized ||| 1#16 <<< destination))
  | .aluRegister => do
      ensureWritableDestination pc destination
      requireInitialized initialized pc destination
      requireInitialized initialized pc source
      return flow.with
        (← propagateNext flow.incoming length pc (initialized ||| 1#16 <<< destination))
  | .negate => do
      ensureWritableDestination pc destination
      requireInitialized initialized pc destination
      return flow.with (← propagateNext flow.incoming length pc initialized)
  | .stackLoad => do
      ensureWritableDestination pc destination
      requireStackAccess pc source i.offset (accessSize i.opcode)
      return flow.with
        (← propagateNext flow.incoming length pc (initialized ||| 1#16 <<< destination))
  | .stackStoreImmediate => do
      requireStackAccess pc destination i.offset (accessSize i.opcode)
      return flow.with (← propagateNext flow.incoming length pc initialized)
  | .stackStoreRegister => do
      requireStackAccess pc destination i.offset (accessSize i.opcode)
      requireInitialized initialized pc source
      return flow.with (← propagateNext flow.incoming length pc initialized)
  | .jump => do
      let target ← jumpTarget length pc i.offset
      if wideSecond target then throw (.jumpIntoWideImmediate pc)
      else return flow.with (← propagate flow.incoming length target initialized pc)
  | .conditionalJumpImmediate => do
      requireInitialized initialized pc destination
      return flow.with
        (← propagateBranch flow.incoming wideSecond length pc i.offset initialized)
  | .conditionalJumpRegister => do
      requireInitialized initialized pc destination
      requireInitialized initialized pc source
      return flow.with
        (← propagateBranch flow.incoming wideSecond length pc i.offset initialized)
  | .call => do
      if !allowedHelpers.contains i.immediate then throw (.invalidHelper pc i.immediate)
      else
        return flow.with
          (← propagateNext flow.incoming length pc ((initialized &&& ~~~0x3e#16) ||| 1#16))
  | .exit => do
      requireInitialized initialized pc 0
      return { flow with sawExit := true }
  | .other => throw (.invalidOpcode pc i.opcode)

/-- The body of the `for` loop, with its `continue`. -/
def flowSlot (flow : Flow) : Except VerifyError Flow :=
  if flow.incoming pc = UNREACHED ∨ wideSecond pc then .ok flow
  else flowInstruction length wideSecond allowedHelpers pc i (flow.incoming pc) flow

end

def flowFrom (length : Nat) (wideSecond : Nat → Bool) (allowedHelpers : List (BitVec 32)) :
    Nat → List Instruction → Flow → Except VerifyError Flow
  | _, [], flow => .ok flow
  | pc, i :: rest, flow => do
      let flow ← flowSlot length wideSecond allowedHelpers pc i flow
      flowFrom length wideSecond allowedHelpers (pc + 1) rest flow

/-- `r1` holds the context and `r10` the frame pointer; nothing else is reached. -/
def Flow.initial : Flow :=
  ⟨Masks.set (fun _ => UNREACHED) 0 ((1#16 <<< 1) ||| (1#16 <<< 10)), false⟩

def verify (instructions : List Instruction) (allowedHelpers : List (BitVec 32)) :
    Except VerifyError VerifiedProgram :=
  if instructions = [] then throw .emptyProgram
  else if MAX_INSTRUCTIONS < instructions.length then throw .programTooLarge
  else do
    let wideSecond ← pairWideImmediates (fun _ => false) 0 instructions
    let flow ← flowFrom instructions.length wideSecond allowedHelpers 0 instructions Flow.initial
    if !flow.sawExit then throw .missingExit else return ⟨instructions⟩

end SlopOS.Ebpf
