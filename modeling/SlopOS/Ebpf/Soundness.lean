import SlopOS.Ebpf.Execute
import SlopOS.Ebpf.Flow
import Mathlib.Data.Vector.Defs

/-!
# Soundness of the verifier

A machine is `Placed` when its program counter is a first slot that the second
pass of `verify` reached.  One iteration of the interpreter from a placed
machine exits, divides by zero, or continues at a placed machine further on
(`step_ends`); `execute` therefore stops inside its step budget.
-/

namespace SlopOS.Ebpf

open List hiding Vector

variable {σ : Type} {registry : HelperRegistry σ} {instructions : List Instruction}
  {allowedHelpers : List (BitVec 32)} {wideSecond : Nat → Bool} {masks : Masks} {i : Instruction}
  {m : Machine σ} {pc : Nat}

/-- The only failure a verified program may end in. -/
def DivisionOnly (halt : Halt) : Prop := ∃ pc, halt = .err (.divisionByZero pc)

/-- The registry answers every helper of the allow-list, in every state. -/
def HelperRegistry.Answers (registry : HelperRegistry σ) (allowedHelpers : List (BitVec 32)) :
    Prop :=
  ∀ helper ∈ allowedHelpers, ∀ state registers,
    ∃ value, (registry.call state helper registers).1 = some value

/-! ## Accesses in range -/

section

variable {α : Type} {n : Nat} {values : Vector α n} {index : Nat} (inside : index < n)
include inside

theorem readIndex_ok : ∃ value, readIndex values index = .ok value := by
  refine ⟨values[index], ?_⟩
  unfold readIndex
  rw [Vector.getElem?_eq_getElem inside]

theorem writeIndex_ok {value : α} : ∃ result, writeIndex values index value = .ok result := by
  unfold writeIndex
  rw [dif_pos inside]
  exact ⟨_, rfl⟩

end

theorem fetch_ok (fetched : instructions[pc]? = some i) : fetch instructions pc = .ok i := by
  unfold fetch
  rw [fetched]

theorem stackAddress_ends {base : Nat} {offset : BitVec 16} {size : Nat} {onError : Halt → Prop}
    (access : StackAccess base offset size) :
    Except.Ends (fun start => start + size ≤ STACK_SIZE) onError (stackAddress offset size pc) := by
  obtain ⟨-, above, within⟩ := access
  unfold stackAddress
  rw [if_neg (by omega)]
  exact within

section

variable {stack : Stack} {start size : Nat} (within : start + size ≤ STACK_SIZE)
include within

theorem loadStack_ok : ∃ value, loadStack stack start size = .ok value := by
  apply Except.foldlM_ok
  intro index member value
  have inside : index < size := mem_range.mp member
  obtain ⟨byte, read⟩ : ∃ byte, readIndex stack (start + index) = .ok byte :=
    readIndex_ok (by omega)
  rw [read]
  exact ⟨_, rfl⟩

theorem storeStack_ok {value : BitVec 64} :
    ∃ result, storeStack stack start size value = .ok result := by
  apply Except.foldlM_ok
  intro index member stack
  have inside : index < size := mem_range.mp member
  exact writeIndex_ok (by omega)

end

theorem branchPc_eq_branchTarget (small : pc < MAX_INSTRUCTIONS) (forward : 0 ≤ i.offset.toInt) :
    branchPc pc i.offset = branchTarget pc i := by
  have positive : i.offset.msb = false := by
    rw [BitVec.msb_eq_toInt]
    simpa using forward
  unfold branchPc branchTarget
  rw [BitVec.signExtend_eq_setWidth_of_msb_false positive, BitVec.toNat_setWidth_of_le (by omega),
    BitVec.toInt_eq_toNat_of_msb positive]
  unfold MAX_INSTRUCTIONS at small
  exact Nat.mod_eq_of_lt (by omega)

/-- Every opcode of the two ALU tables selects an operation of `apply_alu`. -/
theorem applyAlu_ends {opcode : BitVec 8} {lhs rhs : BitVec 64}
    (alu : isAluImmediate opcode = true ∨ isAluRegister opcode = true) :
    Except.Ends (fun _ => True) DivisionOnly (applyAlu opcode lhs rhs pc) := by
  have division : Except.Ends (fun _ : BitVec 64 => True) DivisionOnly
      (.error (.err (.divisionByZero pc))) := ⟨pc, rfl⟩
  unfold isAluImmediate isAluRegister at alu
  simp only [contains_iff_mem, mem_cons, not_mem_nil, or_false] at alu
  rcases alu with
    (rfl | rfl | rfl | rfl | rfl | rfl | rfl | rfl | rfl | rfl | rfl) |
    (rfl | rfl | rfl | rfl | rfl | rfl | rfl | rfl | rfl | rfl | rfl) <;>
  first
  | exact trivial
  | (change Except.Ends _ _ (if rhs = 0 then Except.error _ else Except.ok _)
     split
     · exact division
     · exact trivial)

/-! ## One iteration -/

/-- The program counter of `m` is a first slot that the verifier reached. -/
structure Placed (instructions : List Instruction) (masks : Masks) (m : Machine σ) : Prop where
  inside : m.pc < instructions.length
  start : SlotStart instructions m.pc
  reached : masks m.pc ≠ UNREACHED

/-- An iteration either leaves the loop or continues at one of `targets`. -/
def ContinuesAt (targets : List Nat) : Next σ → Prop
  | .continue next => next.pc ∈ targets
  | .exit _ => True

theorem Machine.assign_ends {register : Nat} {value : BitVec 64} {targets : List Nat}
    (bound : register < REGISTER_COUNT) (target : pc ∈ targets) :
    Except.Ends (ContinuesAt targets) DivisionOnly (m.assign register value pc) := by
  unfold assign
  obtain ⟨registers, written⟩ : ∃ registers, writeIndex m.registers register value = .ok registers :=
    writeIndex_ok bound
  rw [written]
  exact target

/-- One iteration at an instruction that both passes accepted. -/
theorem step_ends (fetched : instructions[m.pc]? = some i) (small : m.pc < MAX_INSTRUCTIONS)
    (valid : SlotValid instructions m.pc i)
    (admissible : Admissible wideSecond allowedHelpers m.pc i (masks m.pc))
    (answers : registry.Answers allowedHelpers) :
    Except.Ends (ContinuesAt (successors m.pc i)) DivisionOnly (step registry instructions m) := by
  have destination : ∃ value, readIndex m.registers i.destination = .ok value :=
    readIndex_ok valid.destination
  have source : ∃ value, readIndex m.registers i.source = .ok value := readIndex_ok valid.source
  have accepts : i.arm.accepts i.opcode = true := Opcode.arm_accepts i.opcode
  unfold step
  rw [fetch_ok fetched]
  change Except.Ends _ _ (stepInstruction registry instructions m i)
  unfold stepInstruction
  unfold Admissible at admissible
  unfold successors
  cases arm : i.arm <;> simp only [arm] at admissible accepts ⊢
  case loadWide =>
    obtain ⟨high, highAt, -⟩ := valid.wide (Instruction.arm_eq_loadWide_iff.mp arm)
    exact .of_ok ⟨high, fetch_ok highAt⟩ fun _ =>
      Machine.assign_ends valid.destination mem_cons_self
  case movImmediate => exact Machine.assign_ends valid.destination mem_cons_self
  case movRegister =>
    exact .of_ok source fun _ => Machine.assign_ends valid.destination mem_cons_self
  case aluImmediate =>
    exact .of_ok destination fun _ => (applyAlu_ends (.inl accepts)).bind fun _ _ =>
      Machine.assign_ends valid.destination mem_cons_self
  case aluRegister =>
    exact .of_ok source fun _ => .of_ok destination fun _ =>
      (applyAlu_ends (.inr accepts)).bind fun _ _ =>
        Machine.assign_ends valid.destination mem_cons_self
  case negate =>
    exact .of_ok destination fun _ => Machine.assign_ends valid.destination mem_cons_self
  case stackLoad =>
    exact (stackAddress_ends admissible.2).bind fun _ within =>
      .of_ok (loadStack_ok within) fun _ =>
        Machine.assign_ends valid.destination mem_cons_self
  case stackStoreImmediate =>
    exact (stackAddress_ends admissible).bind fun _ within =>
      .of_ok (storeStack_ok within) fun _ => mem_cons_self
  case stackStoreRegister =>
    exact (stackAddress_ends admissible.1).bind fun _ within => .of_ok source fun _ =>
      .of_ok (storeStack_ok within) fun _ => mem_cons_self
  case jump =>
    rw [branchPc_eq_branchTarget small admissible.1]
    exact mem_cons_self
  case conditionalJumpImmediate =>
    refine .of_ok destination fun lhs => ?_
    rw [branchPc_eq_branchTarget small admissible.2.1]
    split
    · exact mem_cons_of_mem _ mem_cons_self
    · exact mem_cons_self
  case conditionalJumpRegister =>
    refine .of_ok destination fun lhs => .of_ok source fun rhs => ?_
    rw [branchPc_eq_branchTarget small admissible.2.2.1]
    split
    · exact mem_cons_of_mem _ mem_cons_self
    · exact mem_cons_self
  case call =>
    obtain ⟨value, answered⟩ := answers i.immediate admissible m.helpers m.registers
    cases called : registry.call m.helpers i.immediate m.registers with
    | mk answer helpers =>
      rw [called] at answered
      subst answered
      exact .of_ok (writeIndex_ok (by decide)) fun _ => mem_cons_self
  case exit => exact .of_ok (readIndex_ok (by decide)) fun _ => trivial

/-! ## Whole runs -/

section

variable (accepted : Accepted instructions allowedHelpers wideSecond masks)
include accepted

/-- Every successor of a placed slot is placed. -/
theorem Accepted.slotStart_of_edge {q : Nat} (start : SlotStart instructions pc)
    (fetched : instructions[pc]? = some i)
    (checked : SlotChecked instructions wideSecond allowedHelpers masks pc i)
    (edge : q ∈ successors pc i) : SlotStart instructions q := by
  have inside := checked.inside q edge
  have narrow : i.arm ≠ .loadWide → SlotStart instructions (pc + 1) := by
    intro arm
    exact start.narrow fetched fun wide => arm (Instruction.arm_eq_loadWide_iff.mpr wide)
  have admissible := checked.admissible
  unfold Admissible at admissible
  unfold successors at edge
  cases arm : i.arm <;> simp only [arm, mem_cons, not_mem_nil, or_false] at admissible edge
  case loadWide =>
    rw [edge]
    exact start.wide fetched (Instruction.arm_eq_loadWide_iff.mp arm)
  case jump =>
    exact accepted.split.start_of_not_second inside (edge ▸ admissible.2)
  case conditionalJumpImmediate =>
    rcases edge with next | taken
    · rw [next]; exact narrow (by rw [arm]; decide)
    · exact accepted.split.start_of_not_second inside (taken ▸ admissible.2.2)
  case conditionalJumpRegister =>
    rcases edge with next | taken
    · rw [next]; exact narrow (by rw [arm]; decide)
    · exact accepted.split.start_of_not_second inside (taken ▸ admissible.2.2.2)
  all_goals
    rw [edge]
    exact narrow (by rw [arm]; decide)

section

variable (answers : registry.Answers allowedHelpers)
include answers

/-- One iteration from a placed machine: it exits, divides by zero, or goes on
at a placed machine further down. -/
theorem Placed.step_ends (placed : Placed instructions masks m) :
    Except.Ends (fun next => match next with
        | .continue next => m.pc < next.pc ∧ Placed instructions masks next
        | .exit _ => True) DivisionOnly (step registry instructions m) := by
  obtain ⟨i, fetched⟩ : ∃ i, instructions[m.pc]? = some i := ⟨_, getElem?_eq_getElem placed.inside⟩
  have valid := accepted.split.valid m.pc _ placed.start fetched
  have narrow : wideSecond m.pc = false := by
    rw [← Bool.not_eq_true, accepted.split.second]
    exact placed.start.not_wideSecond
  have checked := accepted.analysed.checked m.pc _ placed.inside fetched placed.reached narrow
  have small : m.pc < MAX_INSTRUCTIONS := lt_of_lt_of_le placed.inside accepted.bounded
  have ends := Ebpf.step_ends fetched small valid checked.admissible answers
  cases outcome : step registry instructions m with
  | error halt =>
    rw [outcome] at ends
    exact ends
  | ok next =>
    rw [outcome] at ends
    cases next with
    | exit value => exact trivial
    | «continue» next =>
      have edge : next.pc ∈ successors m.pc i := ends
      exact ⟨successors_forward edge, checked.inside _ edge,
        accepted.slotStart_of_edge placed.start fetched checked edge, (checked.edges _ edge).1⟩

/-- The program counter grows in every iteration, so the budget left is never
less than the slots left. -/
theorem runLoop_ends (remaining : Nat) (placed : Placed instructions masks m)
    (budget : instructions.length ≤ m.pc + remaining) :
    Except.Ends (fun _ => True) DivisionOnly (runLoop registry instructions remaining m) := by
  induction remaining generalizing m with
  | zero =>
    have := placed.inside
    omega
  | succ remaining ih =>
    have ends := placed.step_ends accepted answers
    unfold runLoop
    rw [if_pos placed.inside]
    cases outcome : step registry instructions m with
    | error halt =>
      rw [outcome] at ends
      exact ends
    | ok next =>
      rw [outcome] at ends
      cases next with
      | exit value => exact trivial
      | «continue» next =>
        obtain ⟨further, placedNext⟩ := ends
        exact ih placedNext (by omega)

theorem Placed.reaches {start : Machine σ} (placed : Placed instructions masks start)
    (reaches : Reaches registry instructions start m) : Placed instructions masks m := by
  induction reaches with
  | refl => exact placed
  | tail _ stepped ih =>
    have ends := ih.step_ends accepted answers
    rw [stepped] at ends
    exact ends.2

end

theorem Placed.initial (helpers : σ) (context : BitVec 64) :
    Placed instructions masks (Machine.initial helpers context) where
  inside := accepted.nonempty
  start := .zero
  reached := by
    show masks 0 ≠ UNREACHED
    rw [accepted.analysed.entry]
    decide

end

/-- **Soundness.**  An accepted program runs to a value or to a division by
zero, for every context and every registry that answers the allowed helpers,
and no iteration stands on the second slot of a wide immediate. -/
theorem verify_sound (registry : HelperRegistry σ) (instructions : List Instruction)
    (allowedHelpers : List (BitVec 32)) (program : VerifiedProgram) (helpers : σ)
    (context : BitVec 64) (ok : verify instructions allowedHelpers = .ok program)
    (answers : registry.Answers allowedHelpers) :
    ((∃ r0, execute registry program.instructions helpers context = .ok r0) ∨
      ∃ pc, execute registry program.instructions helpers context =
        .error (.err (.divisionByZero pc))) ∧
    ∀ m, Reaches registry program.instructions (Machine.initial helpers context) m →
      m.pc < program.instructions.length ∧ ¬ WideSecond program.instructions m.pc := by
  obtain ⟨same, wideSecond, masks, accepted⟩ := verify_accepted ok
  rw [same]
  have placed := Placed.initial accepted helpers context
  constructor
  · have ends := runLoop_ends accepted answers MAX_INSTRUCTIONS placed
      (le_trans accepted.bounded (by omega))
    unfold execute
    cases outcome : runLoop registry instructions MAX_INSTRUCTIONS
        (Machine.initial helpers context) with
    | ok r0 => exact .inl ⟨r0, rfl⟩
    | error halt =>
      rw [outcome] at ends
      obtain ⟨pc, rfl⟩ := ends
      exact .inr ⟨pc, rfl⟩
  · intro m reaches
    have placedM := placed.reaches accepted answers reaches
    exact ⟨placedM.inside, placedM.start.not_wideSecond⟩

/-- A wide load, a helper call and an exit, with a registry that counts its
calls and answers helper 7. -/
def countingRegistry : HelperRegistry Nat where
  call calls helper _ := if helper = 7 then (some 42, calls + 1) else (none, calls)

def wideCallProgram : List Instruction :=
  [.new 0x18 1 0 0 1, .new 0 0 0 0 2, .new 0x85 0 0 0 7, .new 0x95 0 0 0 0]

theorem verify_sound_wideCallProgram : verify wideCallProgram [7] = .ok ⟨wideCallProgram⟩ ∧
    ((∃ r0, execute countingRegistry wideCallProgram 0 5 = .ok r0) ∨
      ∃ pc, execute countingRegistry wideCallProgram 0 5 = .error (.err (.divisionByZero pc))) ∧
    ∀ m, Reaches countingRegistry wideCallProgram (Machine.initial 0 5) m →
      m.pc < wideCallProgram.length ∧ ¬ WideSecond wideCallProgram m.pc := by
  have ok : verify wideCallProgram [7] = .ok ⟨wideCallProgram⟩ := by rfl
  refine ⟨ok, verify_sound countingRegistry wideCallProgram [7] ⟨wideCallProgram⟩ 0 5 ok ?_⟩
  intro helper allowed state registers
  obtain rfl := mem_singleton.mp allowed
  exact ⟨42, rfl⟩

/-! ## Confinement -/

theorem Placed.admissible (accepted : Accepted instructions allowedHelpers wideSecond masks)
    (placed : Placed instructions masks m) (fetched : instructions[m.pc]? = some i) :
    Admissible wideSecond allowedHelpers m.pc i (masks m.pc) := by
  refine (accepted.analysed.checked m.pc _ placed.inside fetched placed.reached ?_).admissible
  rw [← Bool.not_eq_true, accepted.split.second]
  exact placed.start.not_wideSecond

/-- The frame pointer is as the initial machine sets it. -/
def Machine.Framed (m : Machine σ) : Prop :=
  m.registers[10]? = some (BitVec.ofNat 64 STACK_SIZE)

section

variable {next : Machine σ} (framed : m.Framed)
include framed

theorem Machine.Framed.assign {register : Nat} {value : BitVec 64} (other : register ≠ 10)
    (assigned : m.assign register value pc = .ok (.continue next)) : next.Framed := by
  unfold Machine.assign writeIndex at assigned
  split at assigned
  · next inside =>
    cases assigned
    exact (Vector.getElem?_set_ne inside other).trans framed
  · cases assigned

theorem Machine.Framed.step (fetched : instructions[m.pc]? = some i)
    (admissible : Admissible wideSecond allowedHelpers m.pc i (masks m.pc))
    (stepped : step registry instructions m = .ok (.continue next)) : next.Framed := by
  unfold Ebpf.step at stepped
  rw [fetch_ok fetched] at stepped
  change stepInstruction registry instructions m i = _ at stepped
  unfold stepInstruction at stepped
  unfold Admissible at admissible
  cases arm : i.arm <;>
    simp only [arm, Except.bind_eq_ok_iff, pure, Except.pure] at admissible stepped
  case call =>
    split at stepped
    · cases stepped
    · grind [Machine.Framed, writeIndex, Except.bind_eq_ok_iff]
  all_goals grind [Machine.Framed.assign, Machine.Framed]

end

/-- In every iteration of an accepted program the frame pointer is untouched, and a helper
that is called is an allowed one. -/
theorem verify_confines {program : VerifiedProgram} {helpers : σ} {context : BitVec 64}
    (ok : verify instructions allowedHelpers = .ok program)
    (answers : registry.Answers allowedHelpers)
    (reaches : Reaches registry program.instructions (Machine.initial helpers context) m) :
    m.Framed ∧ ∀ i, program.instructions[m.pc]? = some i → i.arm = .call →
      i.immediate ∈ allowedHelpers := by
  obtain ⟨same, wideSecond, masks, accepted⟩ := verify_accepted ok
  rw [same] at reaches ⊢
  have start := Placed.initial accepted helpers context
  constructor
  · induction reaches with
    | refl => rfl
    | tail earlier stepped ih =>
      have placed := start.reaches accepted answers earlier
      have fetched := getElem?_eq_getElem placed.inside
      exact Machine.Framed.step ih fetched (placed.admissible accepted fetched) stepped
  · intro i fetched call
    have allowed := (start.reaches accepted answers reaches).admissible accepted fetched
    unfold Admissible at allowed
    rwa [call] at allowed

/-- At the call, after the wide load. -/
theorem verify_confines_wideCallProgram : ∃ m,
    Reaches countingRegistry wideCallProgram (Machine.initial 0 5) m ∧ m.pc = 2 ∧
      m.Framed ∧ ∀ i, wideCallProgram[m.pc]? = some i → i.arm = .call → i.immediate ∈ [7] := by
  have ok : verify wideCallProgram [7] = .ok ⟨wideCallProgram⟩ := by rfl
  have reaches := Reaches.tail (@Reaches.refl _ countingRegistry wideCallProgram
    (Machine.initial 0 5)) rfl
  refine ⟨_, reaches, rfl, verify_confines ok ?_ reaches⟩
  intro helper allowed state registers
  obtain rfl := mem_singleton.mp allowed
  exact ⟨42, rfl⟩

end SlopOS.Ebpf
