import SlopOS.Ebpf.Slots

/-!
# The forward dataflow of the second pass

`flowInstruction` mixes checks with updates of the masks.  `flowInstruction_ok_iff`
separates the two: the instruction is `Admissible` under the mask that reaches
it, its `successors` lie inside the program, and each successor's mask is met
with the `outgoing` mask.  The pass is forward only, so a slot's mask is final
when the slot is visited; `Analysed` collects what therefore holds at the end.
-/

namespace SlopOS.Ebpf

open List

/-! ## Control flow and transfer -/

/-- The target of a taken branch. -/
def branchTarget (pc : Nat) (i : Instruction) : Nat := pc + 1 + i.offset.toInt.toNat

def successors (pc : Nat) (i : Instruction) : List Nat :=
  match i.arm with
  | .loadWide => [pc + 2]
  | .jump => [branchTarget pc i]
  | .conditionalJumpImmediate | .conditionalJumpRegister => [pc + 1, branchTarget pc i]
  | .exit | .other => []
  | _ => [pc + 1]

def outgoing (i : Instruction) (mask : BitVec 16) : BitVec 16 :=
  match i.arm with
  | .loadWide | .movImmediate | .movRegister | .aluImmediate | .aluRegister | .stackLoad =>
      mask ||| 1#16 <<< i.destination
  | .call => (mask &&& ~~~0x3e#16) ||| 1#16
  | _ => mask

def Initialized (mask : BitVec 16) (register : Nat) : Prop := mask &&& (1#16 <<< register) ≠ 0#16

/-- An access of `size` bytes at `base + offset` lies in the stack frame. -/
def StackAccess (base : Nat) (offset : BitVec 16) (size : Nat) : Prop :=
  base = 10 ∧ 0 ≤ (STACK_SIZE : Int) + offset.toInt ∧
    ((STACK_SIZE : Int) + offset.toInt).toNat + size ≤ STACK_SIZE

/-- A forward branch that does not enter a wide immediate. -/
def ForwardBranch (wideSecond : Nat → Bool) (pc : Nat) (i : Instruction) : Prop :=
  0 ≤ i.offset.toInt ∧ wideSecond (branchTarget pc i) = false

/-- The condition each arm places on its operands. -/
def Admissible (wideSecond : Nat → Bool) (allowedHelpers : List (BitVec 32)) (pc : Nat)
    (i : Instruction) (mask : BitVec 16) : Prop :=
  match i.arm with
  | .loadWide | .movImmediate => i.destination ≠ 10
  | .movRegister => i.destination ≠ 10 ∧ Initialized mask i.source
  | .aluImmediate | .negate => i.destination ≠ 10 ∧ Initialized mask i.destination
  | .aluRegister =>
      i.destination ≠ 10 ∧ Initialized mask i.destination ∧ Initialized mask i.source
  | .stackLoad => i.destination ≠ 10 ∧ StackAccess i.source i.offset (accessSize i.opcode)
  | .stackStoreImmediate => StackAccess i.destination i.offset (accessSize i.opcode)
  | .stackStoreRegister =>
      StackAccess i.destination i.offset (accessSize i.opcode) ∧ Initialized mask i.source
  | .jump => ForwardBranch wideSecond pc i
  | .conditionalJumpImmediate =>
      Initialized mask i.destination ∧ ForwardBranch wideSecond pc i
  | .conditionalJumpRegister =>
      Initialized mask i.destination ∧ Initialized mask i.source ∧
        ForwardBranch wideSecond pc i
  | .call => i.immediate ∈ allowedHelpers
  | .exit => Initialized mask 0
  | .other => False

/-- The mask of `target` after a path arrives there with `state`. -/
def Masks.meet (masks : Masks) (state : BitVec 16) (target : Nat) : Masks :=
  masks.set target (if masks target = UNREACHED then state else masks target &&& state)

/-! ## The checks as conditions -/

variable {pc : Nat} {u : Unit}

theorem ensureWritableDestination_ok_iff {destination : Nat} :
    ensureWritableDestination pc destination = .ok u ↔ destination ≠ 10 := by
  exact Except.guard_eq_ok_iff

variable {mask : BitVec 16}

theorem requireInitialized_ok_iff {register : Nat} :
    requireInitialized mask pc register = .ok u ↔ Initialized mask register := by
  exact Except.guard_eq_ok_iff

theorem requireStackAccess_ok_iff {base : Nat} {offset : BitVec 16} {size : Nat} :
    requireStackAccess pc base offset size = .ok u ↔ StackAccess base offset size := by
  unfold requireStackAccess StackAccess
  by_cases frame : base = 10
  · rw [if_neg (not_not.mpr frame)]
    rw [Except.guard_eq_ok_iff]
    omega
  · simp [frame]

variable {i : Instruction} {length target : Nat}

theorem jumpTarget_ok_iff : jumpTarget length pc i.offset = .ok target ↔
      0 ≤ i.offset.toInt ∧ branchTarget pc i < length ∧ target = branchTarget pc i := by
  unfold jumpTarget branchTarget
  split
  · simp only [reduceCtorEq, false_iff]
    omega
  dsimp only
  split
  · simp only [reduceCtorEq, false_iff]
    omega
  · simp only [Except.ok.injEq]
    omega

variable {state : BitVec 16} {result incoming : Masks}

theorem propagate_ok_iff {sourcePc : Nat} :
    propagate incoming length target state sourcePc = .ok result ↔
      target < length ∧ result = incoming.meet state target := by
  unfold propagate Masks.meet
  split
  · simp only [reduceCtorEq, false_iff]
    omega
  · have inside : target < length := by omega
    split <;> simp [inside, eq_comm]

theorem propagateNext_ok_iff : propagateNext incoming length pc state = .ok result ↔
      pc + 1 < length ∧ result = incoming.meet state (pc + 1) :=
  propagate_ok_iff

theorem propagateBranch_ok_iff {wideSecond : Nat → Bool} :
    propagateBranch incoming wideSecond length pc i.offset state = .ok result ↔
      ForwardBranch wideSecond pc i ∧ pc + 1 < length ∧ branchTarget pc i < length ∧
        result = (incoming.meet state (pc + 1)).meet state (branchTarget pc i) := by
  unfold propagateBranch
  simp only [Except.bind_eq_ok_iff, jumpTarget_ok_iff]
  constructor
  · rintro ⟨target, ⟨forward, inside, rfl⟩, rest⟩
    split at rest
    · cases rest
    next narrow =>
    simp only [Except.bind_eq_ok_iff, propagate_ok_iff] at rest
    obtain ⟨_, ⟨next, rfl⟩, _, rfl⟩ := rest
    exact ⟨⟨forward, by simpa using narrow⟩, next, inside, rfl⟩
  · rintro ⟨⟨forward, narrow⟩, next, inside, rfl⟩
    refine ⟨_, ⟨forward, inside, rfl⟩, ?_⟩
    simp only [narrow, Bool.false_eq_true, if_false, Except.bind_eq_ok_iff, propagate_ok_iff]
    exact ⟨_, ⟨next, rfl⟩, inside, rfl⟩

/-- One arm of the second pass, as a condition and an update. -/
theorem flowInstruction_ok_iff {wideSecond : Nat → Bool} {allowedHelpers : List (BitVec 32)}
    {flow result : Flow} :
    flowInstruction length wideSecond allowedHelpers pc i mask flow = .ok result ↔
      Admissible wideSecond allowedHelpers pc i mask ∧
      (∀ target ∈ successors pc i, target < length) ∧
      result = ⟨(successors pc i).foldl (·.meet (outgoing i mask)) flow.incoming,
        flow.sawExit || i.arm == .exit⟩ := by
  unfold flowInstruction Admissible successors outgoing
  cases arm : i.arm <;>
    simp only [Except.bind_eq_ok_iff, ensureWritableDestination_ok_iff, requireInitialized_ok_iff,
      requireStackAccess_ok_iff, propagate_ok_iff, propagateNext_ok_iff, propagateBranch_ok_iff,
      jumpTarget_ok_iff, Except.pure_eq_ok_iff, Except.ite_throw_eq_ok_iff, Flow.with, mem_cons,
      not_mem_nil, or_false, forall_eq, foldl_nil]
  case jump =>
    constructor
    · rintro ⟨target, ⟨forward, inside, rfl⟩, narrow, masks, ⟨-, rfl⟩, rfl⟩
      exact ⟨⟨forward, by simpa using narrow⟩, inside, by simp⟩
    · rintro ⟨⟨forward, narrow⟩, inside, rfl⟩
      exact ⟨_, ⟨forward, inside, rfl⟩, by simp [narrow], _, ⟨inside, rfl⟩, by simp⟩
  case call =>
    constructor
    · rintro ⟨allowed, masks, ⟨inside, rfl⟩, rfl⟩
      exact ⟨by simpa using allowed, inside, by simp⟩
    · rintro ⟨allowed, inside, rfl⟩
      exact ⟨by simpa using allowed, _, ⟨inside, rfl⟩, by simp⟩
  case other => simp
  all_goals grind

/-! ## Register masks -/

/-- A mask of register numbers: only the bits below `REGISTER_COUNT` are set. -/
def RegisterMask (mask : BitVec 16) : Prop := mask &&& 0xf800#16 = 0#16

/-- The registers of `sub` are among those of `mask`. -/
def Within (sub mask : BitVec 16) : Prop := sub &&& mask = sub

theorem RegisterMask.reached (small : RegisterMask mask) : mask ≠ UNREACHED := by
  rintro rfl
  unfold RegisterMask at small
  exact absurd small (by decide)

theorem RegisterMask.and (small : RegisterMask mask) (other : BitVec 16) :
    RegisterMask (mask &&& other) := by
  unfold RegisterMask at small ⊢
  rw [BitVec.and_assoc, BitVec.and_comm other, ← BitVec.and_assoc, small, BitVec.zero_and]

theorem RegisterMask.or {left right : BitVec 16} (smallLeft : RegisterMask left)
    (smallRight : RegisterMask right) : RegisterMask (left ||| right) := by
  unfold RegisterMask at smallLeft smallRight ⊢
  rw [BitVec.and_or_distrib_right, smallLeft, smallRight, BitVec.zero_or]

theorem RegisterMask.register {register : Nat} (bound : register < REGISTER_COUNT) :
    RegisterMask (1#16 <<< register) := by
  have numbers : ∀ r < 11, (1#16 <<< r) &&& 0xf800#16 = 0#16 := by decide
  exact numbers register bound

theorem Within.refl (mask : BitVec 16) : Within mask mask := BitVec.and_self

theorem Within.trans {a b c : BitVec 16} (left : Within a b) (right : Within b c) : Within a c := by
  unfold Within at left right ⊢
  rw [← left, BitVec.and_assoc, right]

theorem RegisterMask.outgoing (small : RegisterMask mask)
    (destination : i.destination < REGISTER_COUNT) : RegisterMask (outgoing i mask) := by
  have written := small.or (RegisterMask.register destination)
  unfold Ebpf.outgoing
  split
  · exact written
  · exact written
  · exact written
  · exact written
  · exact written
  · exact written
  · exact (small.and _).or (show 1#16 &&& 0xf800#16 = 0#16 by decide)
  · exact small

/-! ## Meeting masks along edges -/

def RegisterMasks (masks : Masks) : Prop := ∀ q, masks q ≠ UNREACHED → RegisterMask (masks q)

/-- `masks` reaches every slot that `earlier` reaches, with no more registers. -/
def Masks.Below (masks earlier : Masks) : Prop :=
  ∀ q, earlier q ≠ UNREACHED → masks q ≠ UNREACHED ∧ Within (masks q) (earlier q)

theorem Masks.Below.refl (masks : Masks) : masks.Below masks :=
  fun _ reached => ⟨reached, Within.refl _⟩

theorem Masks.Below.trans {a b c : Masks} (left : a.Below b) (right : b.Below c) : a.Below c := by
  intro q reached
  obtain ⟨reachedB, withinB⟩ := right q reached
  obtain ⟨reachedA, withinA⟩ := left q reachedB
  exact ⟨reachedA, withinA.trans withinB⟩

/-- What meeting `state` into each of `targets` does to the masks. -/
structure Met (masks result : Masks) (state : BitVec 16) (targets : List Nat) : Prop where
  small : RegisterMasks result
  below : result.Below masks
  met : ∀ q ∈ targets, result q ≠ UNREACHED ∧ Within (result q) state
  frame : ∀ q, q ∉ targets → result q = masks q

variable {masks : Masks}

theorem Masks.meet_met (target : Nat) (small : RegisterMasks masks)
    (smallState : RegisterMask state) : Met masks (masks.meet state target) state [target] := by
  have here : masks.meet state target target =
      if masks target = UNREACHED then state else masks target &&& state := by
    simp [meet, set]
  have there : ∀ q, q ≠ target → masks.meet state target q = masks q := by
    intro q other
    simp [meet, set, other]
  have smallHere : RegisterMask (masks.meet state target target) := by
    rw [here]
    split
    · exact smallState
    · next reached => exact (small target reached).and state
  refine ⟨?_, ?_, ?_, ?_⟩
  · intro q reached
    by_cases same : q = target
    · rw [same]; exact smallHere
    · rw [there q same] at reached ⊢
      exact small q reached
  · intro q reached
    by_cases same : q = target
    · subst same
      refine ⟨smallHere.reached, ?_⟩
      rw [here, if_neg reached]
      unfold Within
      rw [BitVec.and_assoc, BitVec.and_comm state, ← BitVec.and_assoc, BitVec.and_self]
    · rw [there q same]
      exact ⟨reached, Within.refl _⟩
  · intro q member
    obtain rfl := mem_singleton.mp member
    refine ⟨smallHere.reached, ?_⟩
    rw [here]
    split
    · exact Within.refl _
    · unfold Within
      rw [BitVec.and_assoc, BitVec.and_self]
  · intro q absent
    exact there q (by simpa using absent)

theorem Masks.foldl_meet_met (smallState : RegisterMask state) (targets : List Nat)
    (small : RegisterMasks masks) :
    Met masks (targets.foldl (·.meet state) masks) state targets := by
  induction targets generalizing masks with
  | nil => exact ⟨small, .refl _, by simp, fun _ _ => rfl⟩
  | cons target rest ih =>
    have first := meet_met target small smallState
    have others := ih first.small
    refine ⟨others.small, others.below.trans first.below, ?_, ?_⟩
    · intro q member
      rcases mem_cons.mp member with rfl | member
      · obtain ⟨reached, within⟩ := first.met q (mem_singleton.mpr rfl)
        obtain ⟨reached', within'⟩ := others.below q reached
        exact ⟨reached', within'.trans within⟩
      · exact others.met q member
    · intro q absent
      rw [mem_cons, not_or] at absent
      rw [foldl_cons, others.frame q absent.2]
      exact first.frame q (by simpa using absent.1)

/-! ## The whole pass -/

theorem successors_forward {q : Nat} (edge : q ∈ successors pc i) : pc < q := by
  unfold successors branchTarget at edge
  split at edge <;> simp only [mem_cons, not_mem_nil, or_false] at edge <;> omega

/-- The instruction at `pc` was checked under its mask, and each successor's
mask accounts for the edge. -/
structure SlotChecked (instructions : List Instruction) (wideSecond : Nat → Bool)
    (allowedHelpers : List (BitVec 32)) (masks : Masks) (pc : Nat) (i : Instruction) :
    Prop where
  admissible : Admissible wideSecond allowedHelpers pc i (masks pc)
  inside : ∀ q ∈ successors pc i, q < instructions.length
  edges : ∀ q ∈ successors pc i,
    masks q ≠ UNREACHED ∧ Within (masks q) (outgoing i (masks pc))

/-- What the second pass has established when it stands at slot `upTo`. -/
structure Analysed (instructions : List Instruction) (wideSecond : Nat → Bool)
    (allowedHelpers : List (BitVec 32)) (masks : Masks) (upTo : Nat) : Prop where
  small : RegisterMasks masks
  entry : masks 0 = (1#16 <<< 1) ||| (1#16 <<< 10)
  checked : ∀ pc i, pc < upTo → instructions[pc]? = some i → masks pc ≠ UNREACHED →
    wideSecond pc = false → SlotChecked instructions wideSecond allowedHelpers masks pc i

variable {instructions : List Instruction} {wideSecond : Nat → Bool}
  {allowedHelpers : List (BitVec 32)}

theorem Analysed.initial :
    Analysed instructions wideSecond allowedHelpers Flow.initial.incoming 0 where
  small := by
    intro q reached
    by_cases entry : q = 0
    · subst entry
      show ((1#16 <<< 1) ||| (1#16 <<< 10)) &&& 0xf800#16 = 0#16
      decide
    · simp [Flow.initial, Masks.set, entry] at reached
  entry := rfl
  checked := by intro pc i before; omega

/-- Later edges only shrink the masks of later slots, so what was checked at an
earlier slot stays checked. -/
theorem SlotChecked.below {targets : List Nat} (met : Met masks result state targets)
    (unchanged : pc ∉ targets)
    (checked : SlotChecked instructions wideSecond allowedHelpers masks pc i) :
    SlotChecked instructions wideSecond allowedHelpers result pc i where
  admissible := by rw [met.frame pc unchanged]; exact checked.admissible
  inside := checked.inside
  edges := by
    intro q edge
    obtain ⟨reached, within⟩ := checked.edges q edge
    obtain ⟨reached', within'⟩ := met.below q reached
    rw [met.frame pc unchanged]
    exact ⟨reached', within'.trans within⟩

theorem Analysed.flowSlot {flow result : Flow} (split : Split instructions wideSecond)
    (analysed : Analysed instructions wideSecond allowedHelpers flow.incoming pc)
    (fetched : instructions[pc]? = some i)
    (ok : flowSlot instructions.length wideSecond allowedHelpers pc i flow = .ok result) :
    Analysed instructions wideSecond allowedHelpers result.incoming (pc + 1) := by
  unfold Ebpf.flowSlot at ok
  split at ok
  · next skipped =>
    cases ok
    refine ⟨analysed.small, analysed.entry, ?_⟩
    intro q j before at₀ reached narrow
    by_cases same : q = pc
    · subst same
      rcases skipped with unreached | second
      · exact absurd unreached reached
      · rw [narrow] at second; cases second
    · exact analysed.checked q j (by omega) at₀ reached narrow
  · next visited =>
    rw [not_or, Bool.not_eq_true] at visited
    obtain ⟨reachedHere, narrowHere⟩ := visited
    have inside : pc < instructions.length := (List.getElem?_eq_some_iff.mp fetched).1
    have valid := split.valid pc i (split.start_of_not_second inside narrowHere) fetched
    obtain ⟨admissible, within, update⟩ := flowInstruction_ok_iff.mp ok
    have state : RegisterMask (outgoing i (flow.incoming pc)) :=
      (analysed.small pc reachedHere).outgoing valid.destination
    have met : Met flow.incoming result.incoming (outgoing i (flow.incoming pc))
        (successors pc i) := by
      rw [update]
      exact Masks.foldl_meet_met state (successors pc i) analysed.small
    have earlier : ∀ q, q ≤ pc → q ∉ successors pc i := by
      intro q before edge
      have := successors_forward edge
      omega
    refine ⟨met.small, ?_, ?_⟩
    · rw [met.frame 0 (earlier 0 (by omega))]
      exact analysed.entry
    intro q j before at₀ reached narrow
    by_cases same : q = pc
    · subst same
      obtain rfl : i = j := Option.some.inj (fetched.symm.trans at₀)
      refine ⟨?_, within, ?_⟩
      · rw [met.frame q (earlier q le_rfl)]
        exact admissible
      · intro t edge
        rw [met.frame q (earlier q le_rfl)]
        exact met.met t edge
    · have unchanged := earlier q (by omega)
      rw [met.frame q unchanged] at reached
      exact (analysed.checked q j (by omega) at₀ reached narrow).below met unchanged

theorem Analysed.flowFrom (split : Split instructions wideSecond) :
    ∀ {suffix : List Instruction} {pc : Nat} {flow result : Flow}, instructions.drop pc = suffix →
      Analysed instructions wideSecond allowedHelpers flow.incoming pc →
      flowFrom instructions.length wideSecond allowedHelpers pc suffix flow = .ok result →
      Analysed instructions wideSecond allowedHelpers result.incoming instructions.length := by
  intro suffix
  induction suffix with
  | nil =>
    intro pc flow result suffixAt analysed ok
    cases ok
    have beyond : instructions.length ≤ pc := drop_eq_nil_iff.mp suffixAt
    exact ⟨analysed.small, analysed.entry, fun q i before =>
      analysed.checked q i (by omega)⟩
  | cons i rest ih =>
    intro pc flow result suffixAt analysed ok
    obtain ⟨middle, here, ok⟩ := Except.bind_ok ok
    have fetched : instructions[pc]? = some i := by
      rw [← Nat.add_zero pc, ← getElem?_drop, suffixAt]; rfl
    have tailAt : instructions.drop (pc + 1) = rest := by
      rw [← drop_drop, suffixAt]; rfl
    exact ih tailAt (analysed.flowSlot split fetched here) ok

/-- Everything `verify` has established when it accepts. -/
structure Accepted (instructions : List Instruction) (allowedHelpers : List (BitVec 32))
    (wideSecond : Nat → Bool) (masks : Masks) : Prop where
  nonempty : 0 < instructions.length
  bounded : instructions.length ≤ MAX_INSTRUCTIONS
  split : Split instructions wideSecond
  analysed : Analysed instructions wideSecond allowedHelpers masks instructions.length

theorem verify_accepted {program : VerifiedProgram}
    (ok : verify instructions allowedHelpers = .ok program) : program.instructions = instructions ∧
      ∃ wideSecond masks, Accepted instructions allowedHelpers wideSecond masks := by
  obtain ⟨nonempty, ok⟩ := Except.ite_throw_eq_ok_iff.mp ok
  obtain ⟨bounded, ok⟩ := Except.ite_throw_eq_ok_iff.mp ok
  obtain ⟨wideSecond, pairing, ok⟩ := Except.bind_ok ok
  obtain ⟨flow, flowing, ok⟩ := Except.bind_ok ok
  obtain ⟨-, ok⟩ := Except.ite_throw_eq_ok_iff.mp ok
  have split := pairWideImmediates_split pairing
  refine ⟨(congrArg VerifiedProgram.instructions (Except.ok.inj ok)).symm, wideSecond,
    flow.incoming, ?_, by omega, split, ?_⟩
  · exact length_pos_of_ne_nil nonempty
  · exact Analysed.flowFrom split drop_zero Analysed.initial flowing

end SlopOS.Ebpf
