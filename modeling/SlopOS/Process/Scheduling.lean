import SlopOS.Base.RoundRobin
import SlopOS.Process.Table

/-!
# Whose turn it is

The scheduler takes the process with the next larger id among those that are ready or
runnable, wherever their slots are.  A timer interrupt makes the running process one of them
before `schedule_after_preemption`, which stops the machine if its choice is that process.
-/

namespace SlopOS.Process

open RoundRobin ProcessTable List

variable {N FDS : Nat}

namespace ProcessTable

/-- The processes that wait for their turn. -/
def waiting (table : ProcessTable N FDS) : Finset ProcessId :=
  ((table.slots.filter (·.schedulable)).map (·.pid)).toFinset

/-- The process that `run_process` is called for, or the text of the fatal error. -/
def scheduleAfterPreemption (table : ProcessTable N FDS) (afterPid : ProcessId) :
    Except String ProcessId :=
  match table.nextSchedulableAfter afterPid with
  | none => .error "preemptive scheduler found no runnable process"
  | some pid =>
    if pid = afterPid then .error "timer preemption did not select a different process"
    else
      match table.snapshot pid with
      | .error _ => .error "preemptive scheduler selected a missing process"
      | .ok process =>
        match process.state with
        | .ready | .runnable => .ok pid
        | .running | .blocked | .exited => .error "preemptive scheduler selected an invalid state"

end ProcessTable

theorem least_cases (pids : List ProcessId) : least pids = none ∧ pids = [] ∨
    ∃ first ∈ pids, least pids = some first ∧ ∀ pid ∈ pids, first.toNat ≤ pid.toNat := by
  refine Slots.foldl_best BitVec.toNat (fun _ => rfl) (fun first pid => ?_) pids
  dsimp only
  split
  case isTrue below => exact .inr ⟨rfl, le_of_lt below⟩
  case isFalse above => exact .inl ⟨rfl, not_lt.mp above⟩

theorem nextSchedulableAfter_cases (table : ProcessTable N FDS) (pid : ProcessId) :
    table.nextSchedulableAfter pid = none ∧ table.waiting = ∅ ∨
      ∃ next, table.nextSchedulableAfter pid = some next ∧
        IsNext BitVec.toNat table.waiting pid next := by
  unfold nextSchedulableAfter waiting
  generalize (table.slots.filter (·.schedulable)).map (·.pid) = waiting
  simp only [IsNext, mem_toFinset]
  rcases least_cases (waiting.filter (pid < ·)) with ⟨none, last⟩ | ⟨next, member, found, lowest⟩
  · rw [none]
    have before (other : ProcessId) (inside : other ∈ waiting) : other.toNat ≤ pid.toNat := by
      exact not_lt.mp fun above => filter_eq_nil_iff.mp last other inside (decide_eq_true above)
    rcases least_cases waiting with ⟨none, rfl⟩ | ⟨first, member, found, lowest⟩
    · exact .inl ⟨none, rfl⟩
    · exact .inr ⟨first, found, member, .inr ⟨before, lowest⟩⟩
  · rw [found]
    obtain ⟨inside, above⟩ := mem_filter.mp member
    refine .inr ⟨next, rfl, inside, .inl ⟨of_decide_eq_true above, fun other member after => ?_⟩⟩
    exact lowest other (mem_filter.mpr ⟨member, decide_eq_true after⟩)

/-- **Round robin** over the processes that are ready or runnable: one of them is found if there
is one, never the caller's own process beside another, and while their set stays the same each
has exactly one of as many turns in a row as there are processes. -/
theorem next_schedulable_round_robin (table : ProcessTable N FDS) (pid : ProcessId) :
    (table.waiting.Nonempty → ∃ next ∈ table.waiting, table.nextSchedulableAfter pid = some next) ∧
    (∀ other ∈ table.waiting, other ≠ pid →
      table.nextSchedulableAfter pid ≠ some pid ∧ table.scheduleAfterPreemption pid ≠
        .error "timer preemption did not select a different process") ∧
    ∀ (tables : Nat → ProcessTable N FDS) (turn : Nat → ProcessId),
      (∀ i, (tables i).waiting = table.waiting) →
      (∀ i, (tables i).nextSchedulableAfter (turn i) = some (turn (i + 1))) →
      ∀ start, Set.BijOn turn (Finset.Ioc start (start + table.waiting.card)) table.waiting := by
  refine ⟨?_, ?_, ?_⟩
  · intro nonempty
    rcases nextSchedulableAfter_cases table pid with ⟨-, empty⟩ | ⟨next, found, isNext⟩
    · exact absurd empty nonempty.ne_empty
    · exact ⟨next, isNext.1, found⟩
  · intro other member different
    rcases nextSchedulableAfter_cases table pid with ⟨-, empty⟩ | ⟨next, found, isNext⟩
    · rw [empty] at member
      exact absurd member (Finset.notMem_empty other)
    have changed := isNext.ne (fun _ _ => BitVec.eq_of_toNat_eq) member different
    unfold scheduleAfterPreemption
    rw [found]
    refine ⟨fun same => changed (Option.some.inj same), ?_⟩
    dsimp only
    rw [if_neg changed]
    split
    · simp
    · split <;> simp
  · intro tables turn fixed taken
    refine turns (fun _ _ => BitVec.eq_of_toNat_eq) fun i => ?_
    rcases nextSchedulableAfter_cases (tables i) (turn i) with ⟨none, -⟩ | ⟨next, found, isNext⟩
    · rw [taken] at none
      cases none
    · rw [taken] at found
      cases found
      rw [← fixed i]
      exact isNext

end SlopOS.Process
