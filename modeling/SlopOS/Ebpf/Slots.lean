import SlopOS.Base.Fallible
import SlopOS.Ebpf.Verify

/-!
# Instruction slots

The first pass of `verify` splits the slice into one-slot and two-slot
instructions.  `SlotStart` says where an instruction starts, independently of
the pass; `pairWideImmediates_spec` says that the pass finds exactly the second
slots and leaves only well-formed instructions.
-/

namespace SlopOS.Ebpf

/-- Slot `pc` is the first slot of an instruction of the slice. -/
inductive SlotStart (instructions : List Instruction) : Nat → Prop
  | zero : SlotStart instructions 0
  | narrow {pc : Nat} {i : Instruction} : SlotStart instructions pc →
      instructions[pc]? = some i → i.opcode ≠ 0x18#8 → SlotStart instructions (pc + 1)
  | wide {pc : Nat} {i : Instruction} : SlotStart instructions pc →
      instructions[pc]? = some i → i.opcode = 0x18#8 → SlotStart instructions (pc + 2)

/-- Slot `slot` holds the high half of a wide immediate. -/
def WideSecond (instructions : List Instruction) (slot : Nat) : Prop :=
  ∃ pc i, SlotStart instructions pc ∧ instructions[pc]? = some i ∧ i.opcode = 0x18#8 ∧
    slot = pc + 1

variable {instructions rest : List Instruction} {i : Instruction}

/-- The next start after a start is one or two slots on, as its opcode says. -/
theorem SlotStart.next_le {p q : Nat} (first : SlotStart instructions p)
    (fetched : instructions[p]? = some i) (second : SlotStart instructions q) (before : p < q) :
    p + (if i.opcode = 0x18#8 then 2 else 1) ≤ q := by
  induction q using Nat.strong_induction_on generalizing p i with
  | _ q ih =>
    cases second with
    | zero => omega
    | @narrow q₀ j start at₀ narrow =>
      by_cases same : p = q₀
      · subst same
        obtain rfl : i = j := Option.some.inj (fetched.symm.trans at₀)
        simp [narrow]
      · have := ih q₀ (by omega) first fetched start (by omega)
        omega
    | @wide q₀ j start at₀ wide =>
      by_cases same : p = q₀
      · split <;> omega
      by_cases inside : p = q₀ + 1
      · -- A start inside a wide instruction would lie before the next start.
        have := ih p (by omega) start at₀ first (by omega)
        rw [if_pos wide] at this
        omega
      · have := ih q₀ (by omega) first fetched start (by omega)
        omega

variable {pc : Nat}

theorem SlotStart.not_wideSecond (start : SlotStart instructions pc) :
    ¬ WideSecond instructions pc := by
  rintro ⟨p, i, first, fetched, wide, rfl⟩
  have := first.next_le fetched start (by omega)
  rw [if_pos wide] at this
  omega

/-! ## What the first pass checks -/

/-- The structural conditions on the instruction that starts at `pc`. -/
structure SlotValid (instructions : List Instruction) (pc : Nat) (i : Instruction) : Prop where
  destination : i.destination < REGISTER_COUNT
  source : i.source < REGISTER_COUNT
  supported : isSupportedOpcode i.opcode = true
  wide : i.opcode = 0x18#8 → ∃ high, instructions[pc + 1]? = some high ∧
    i.source = 0 ∧ high.opcode = 0 ∧ high.registers = 0 ∧ high.offset = 0

theorem validateRegisterNumbers_ok {u : Unit} (ok : validateRegisterNumbers pc i = .ok u) :
    i.destination < REGISTER_COUNT ∧ i.source < REGISTER_COUNT := by
  unfold validateRegisterNumbers at ok
  split at ok
  · cases ok
  · split at ok
    · cases ok
    · omega

/-- What the first pass has established when it stands at `pc`. -/
structure Paired (instructions : List Instruction) (wideSecond : Nat → Bool) (pc : Nat) :
    Prop where
  start : SlotStart instructions pc
  valid : ∀ q i, q < pc → SlotStart instructions q → instructions[q]? = some i →
    SlotValid instructions q i
  second : ∀ slot, wideSecond slot = true ↔ ∃ q i, q < pc ∧ SlotStart instructions q ∧
    instructions[q]? = some i ∧ i.opcode = 0x18#8 ∧ slot = q + 1

theorem Paired.initial (instructions : List Instruction) :
    Paired instructions (fun _ => false) 0 where
  start := .zero
  valid := by intro q i before; omega
  second := by intro slot; simp

variable {wideSecond result : Nat → Bool}

section

variable (paired : Paired instructions wideSecond pc) (fetched : instructions[pc]? = some i)
include paired fetched

/-- One instruction, whose second slot is marked if it has one. -/
theorem Paired.step {next : Nat} (valid : SlotValid instructions pc i)
    (follows : next = pc + if i.opcode = 0x18#8 then 2 else 1)
    (marked : ∀ slot, result slot = true ↔
      wideSecond slot = true ∨ i.opcode = 0x18#8 ∧ slot = pc + 1) :
    Paired instructions result next := by
  have later : pc < next := by
    rw [follows]
    split <;> omega
  have known {q : Nat} {j : Instruction} (before : q < next) (start : SlotStart instructions q)
      (at₀ : instructions[q]? = some j) : q < pc ∨ q = pc ∧ j = i := by
    rcases lt_trichotomy q pc with earlier | rfl | inside
    · exact .inl earlier
    · exact .inr ⟨rfl, Option.some.inj (at₀.symm.trans fetched)⟩
    · have := paired.start.next_le fetched start inside
      omega
  refine ⟨?_, fun q j before start at₀ => ?_, fun slot => ?_⟩
  · rw [follows]
    split
    · next wide => exact paired.start.wide fetched wide
    · next narrow => exact paired.start.narrow fetched narrow
  · rcases known before start at₀ with earlier | ⟨rfl, rfl⟩
    · exact paired.valid q j earlier start at₀
    · exact valid
  rw [marked, paired.second]
  constructor
  · rintro (⟨q, j, before, rest⟩ | ⟨wide, rfl⟩)
    · exact ⟨q, j, by omega, rest⟩
    · exact ⟨pc, i, later, paired.start, fetched, wide, rfl⟩
  · rintro ⟨q, j, before, start, at₀, wide, rfl⟩
    rcases known before start at₀ with earlier | ⟨rfl, rfl⟩
    · exact .inl ⟨q, j, earlier, start, at₀, wide, rfl⟩
    · exact .inr ⟨wide, rfl⟩

end

theorem pairWideImmediates_narrow_ok (narrow : i.opcode ≠ 0x18#8)
    (ok : pairWideImmediates wideSecond pc (i :: rest) = .ok result) :
    i.destination < REGISTER_COUNT ∧ i.source < REGISTER_COUNT ∧ isSupportedOpcode i.opcode = true ∧
      pairWideImmediates wideSecond (pc + 1) rest = .ok result := by
  unfold pairWideImmediates at ok
  obtain ⟨u, registers, ok⟩ := Except.bind_ok ok
  obtain ⟨destination, source⟩ := validateRegisterNumbers_ok registers
  rw [if_neg narrow] at ok
  by_cases supported : isSupportedOpcode i.opcode = true
  · simp only [supported] at ok
    exact ⟨destination, source, supported, ok⟩
  · simp [supported] at ok

theorem pairWideImmediates_wide_ok (wide : i.opcode = 0x18#8)
    (ok : pairWideImmediates wideSecond pc (i :: rest) = .ok result) :
    ∃ high rest', rest = high :: rest' ∧ i.destination < REGISTER_COUNT ∧
      i.source < REGISTER_COUNT ∧ i.source = 0 ∧ high.opcode = 0 ∧ high.registers = 0 ∧
      high.offset = 0 ∧
      pairWideImmediates (fun slot => if slot = pc + 1 then true else wideSecond slot)
        (pc + 2) rest' = .ok result := by
  unfold pairWideImmediates at ok
  obtain ⟨u, registers, ok⟩ := Except.bind_ok ok
  obtain ⟨destination, source⟩ := validateRegisterNumbers_ok registers
  rw [if_pos wide] at ok
  cases rest with
  | nil => simp at ok
  | cons high rest' =>
    by_cases malformed : i.source ≠ 0 ∨ high.opcode ≠ 0 ∨ high.registers ≠ 0 ∨ high.offset ≠ 0
    · simp only [malformed] at ok
      cases ok
    simp only [malformed] at ok
    simp only [not_or, not_not] at malformed
    obtain ⟨source0, opcode0, registers0, offset0⟩ := malformed
    exact ⟨high, rest', rfl, destination, source, source0, opcode0, registers0, offset0, ok⟩

/-- The whole first pass, from any point of the slice.  The induction is on the
number of slots left, since a wide immediate takes two at once. -/
theorem pairWideImmediates_paired :
    ∀ {suffix : List Instruction} {pc : Nat} {wideSecond result : Nat → Bool},
      instructions.drop pc = suffix → Paired instructions wideSecond pc →
      pairWideImmediates wideSecond pc suffix = .ok result →
      Paired instructions result (pc + suffix.length) := by
  intro suffix
  induction h : suffix.length using Nat.strong_induction_on generalizing suffix with
  | _ n ih =>
    intro pc wideSecond result suffixAt paired ok
    subst h
    cases suffix with
    | nil =>
      cases ok
      exact paired
    | cons i rest =>
      have fetched : instructions[pc]? = some i := by
        rw [← Nat.add_zero pc, ← List.getElem?_drop, suffixAt]; rfl
      have tailAt : instructions.drop (pc + 1) = rest := by
        rw [← List.drop_drop, suffixAt]; rfl
      by_cases wide : i.opcode = 0x18#8
      · obtain ⟨high, rest', rfl, destination, source, source0, opcode0, registers0, offset0, ok⟩ :=
          pairWideImmediates_wide_ok wide ok
        have highAt : instructions[pc + 1]? = some high := by
          rw [← Nat.add_zero (pc + 1), ← List.getElem?_drop, tailAt]; rfl
        have restAt : instructions.drop (pc + 2) = rest' := by
          rw [show pc + 2 = pc + 1 + 1 from rfl, ← List.drop_drop, tailAt]; rfl
        have valid : SlotValid instructions pc i := ⟨destination, source, by rw [wide]; decide,
            fun _ => ⟨high, highAt, source0, opcode0, registers0, offset0⟩⟩
        have done := ih rest'.length (by simp only [List.length_cons]; omega) rfl restAt (paired.step fetched valid (by rw [if_pos wide]) (by grind)) ok
        have length : pc + (i :: high :: rest').length = pc + 2 + rest'.length := by
          simp only [List.length_cons]; omega
        rw [length]
        exact done
      · obtain ⟨destination, source, supported, ok⟩ := pairWideImmediates_narrow_ok wide ok
        have valid : SlotValid instructions pc i :=
          ⟨destination, source, supported, fun h => absurd h wide⟩
        have done := ih rest.length (by simp) rfl tailAt (paired.step fetched valid (by rw [if_neg wide]) (by simp [wide])) ok
        have length : pc + (i :: rest).length = pc + 1 + rest.length := by
          simp only [List.length_cons]; omega
        rw [length]
        exact done

/-! ## The result of the first pass -/

/-- The slice has been split: every start is valid, and `wideSecond` is exactly
the set of second slots. -/
structure Split (instructions : List Instruction) (wideSecond : Nat → Bool) : Prop where
  valid : ∀ pc i, SlotStart instructions pc → instructions[pc]? = some i →
    SlotValid instructions pc i
  second : ∀ slot, wideSecond slot = true ↔ WideSecond instructions slot

theorem pairWideImmediates_split
    (ok : pairWideImmediates (fun _ => false) 0 instructions = .ok wideSecond) :
    Split instructions wideSecond := by
  have paired := pairWideImmediates_paired (List.drop_zero) (Paired.initial instructions) ok
  rw [Nat.zero_add] at paired
  have inside : ∀ {pc i}, instructions[pc]? = some i → pc < instructions.length := by
    intro pc i fetched
    exact (getElem?_eq_some_iff.mp fetched).1
  constructor
  · intro pc i start fetched
    exact paired.valid pc i (inside fetched) start fetched
  intro slot
  rw [paired.second]
  constructor
  · rintro ⟨q, i, -, rest⟩
    exact ⟨q, i, rest⟩
  · rintro ⟨q, i, start, fetched, rest⟩
    exact ⟨q, i, inside fetched, start, fetched, rest⟩

/-- In a split slice a slot that is not a second slot starts an instruction. -/
theorem Split.start_of_not_second (split : Split instructions wideSecond) {slot : Nat}
    (inside : slot < instructions.length) (narrow : wideSecond slot = false) :
    SlotStart instructions slot := by
  have cover : ∀ q, q < instructions.length →
      SlotStart instructions q ∨ WideSecond instructions q := by
    intro q
    induction q with
    | zero => intro _; exact .inl .zero
    | succ q ih =>
      intro within
      have inside : q < instructions.length := by omega
      rcases ih inside with start | ⟨p, i, start, fetched, wide, rfl⟩
      · have fetched : instructions[q]? = some instructions[q] := List.getElem?_eq_getElem inside
        by_cases wide : instructions[q].opcode = 0x18#8
        · exact .inr ⟨q, _, start, fetched, wide, rfl⟩
        · exact .inl (start.narrow fetched wide)
      · exact .inl (start.wide fetched wide)
  rcases cover slot inside with start | second
  · exact start
  · rw [(split.second slot).mpr second] at narrow
    cases narrow

end SlopOS.Ebpf
