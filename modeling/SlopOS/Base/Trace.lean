import Mathlib.Algebra.Ring.Nat
import Mathlib.Data.List.Basic

/-!
# Runs of a deterministic machine with their history

`step` takes a state and an operation to the next state and a reply.  `events` is
the record of a run: every operation with its reply and the states around it.
`holds_along` is the induction rule for a property of the state together with
the record so far.
-/

namespace Trace

open List

variable {σ Op Reply : Type}

structure Event (σ Op Reply : Type) where
  before : σ
  operation : Op
  reply : Reply
  after : σ

/-- The event of one step. -/
def event (step : σ → Op → σ × Reply) (s : σ) (operation : Op) : Event σ Op Reply :=
  ⟨s, operation, (step s operation).2, (step s operation).1⟩

def run (step : σ → Op → σ × Reply) : σ → List Op → σ
  | s, [] => s
  | s, operation :: rest => run step (step s operation).1 rest

def events (step : σ → Op → σ × Reply) : σ → List Op → List (Event σ Op Reply)
  | _, [] => []
  | s, operation :: rest => event step s operation :: events step (step s operation).1 rest

variable {step : σ → Op → σ × Reply} {allowed : σ → Op → Prop} {record : List (Event σ Op Reply)}

theorem run_append (s : σ) (first second : List Op) :
    run step s (first ++ second) = run step (run step s first) second := by
  induction first generalizing s with
  | nil => rfl
  | cons operation rest ih => exact ih _

theorem events_append (s : σ) (first second : List Op) : events step s (first ++ second) =
      events step s first ++ events step (run step s first) second := by
  induction first generalizing s with
  | nil => rfl
  | cons operation rest ih => exact congrArg _ (ih _)

theorem last_event_mem (s : σ) (ops : List Op) (operation : Op) :
    event step (run step s ops) operation ∈ events step s (ops ++ [operation]) := by
  rw [events_append]
  exact mem_append_right _ (mem_singleton.mpr rfl)

/-- Every step of the run is one that `allowed` admits. -/
def Admits (step : σ → Op → σ × Reply) (allowed : σ → Op → Prop) (s : σ) (ops : List Op) : Prop :=
  ∀ e ∈ events step s ops, allowed e.before e.operation

theorem admits_cons {s : σ} {operation : Op} {rest : List Op} :
    Admits step allowed s (operation :: rest) ↔
      allowed s operation ∧ Admits step allowed (step s operation).1 rest :=
  forall_mem_cons

/-- A property that every admitted step keeps holds after every admitted run. -/
theorem holds_along (holds : σ → List (Event σ Op Reply) → Prop)
    (kept : ∀ {s record} operation, holds s record → allowed s operation →
      holds (step s operation).1 (record ++ [event step s operation]))
    (start : holds s record) (admitted : Admits step allowed s ops) :
    holds (run step s ops) (record ++ events step s ops) := by
  induction ops generalizing s record with
  | nil => rwa [events, append_nil]
  | cons operation rest ih =>
    obtain ⟨first, later⟩ := admits_cons.mp admitted
    have final := ih (kept operation start first) later
    rwa [append_assoc] at final

/-- A property that every step keeps. -/
theorem holds_always (holds : σ → List (Event σ Op Reply) → Prop)
    (kept : ∀ {s record} operation, holds s record →
      holds (step s operation).1 (record ++ [event step s operation]))
    (start : holds s record) (ops : List Op) :
    holds (run step s ops) (record ++ events step s ops) :=
  holds_along holds (fun operation before (_ : True) => kept operation before) start
    fun _ _ => trivial

/-- A property of the state alone. -/
theorem invariant (holds : σ → Prop) (kept : ∀ {s} operation, holds s → holds (step s operation).1)
    (start : holds s) (ops : List Op) : holds (run step s ops) :=
  @holds_always σ Op Reply step [] s (fun s _ => holds s) kept start ops

/-! ## Marks at stream positions -/

variable {ρ : Type}

/-- The marks of a record, each with the position reached before it; `size` is how
far an event moves the position. -/
def stamps {ε : Type} (size : ε → Nat) (mark : ε → Option ρ) : Nat → List ε → List (Nat × ρ)
  | _, [] => []
  | position, e :: rest =>
      (mark e).toList.map (position, ·) ++ stamps size mark (position + size e) rest

section

variable {ε : Type} (size : ε → Nat) (mark : ε → Option ρ) (position : Nat)

theorem stamps_append (first second : List ε) :
    stamps size mark position (first ++ second) = stamps size mark position first ++
      stamps size mark (position + (first.map size).sum) second := by
  induction first generalizing position with
  | nil => rfl
  | cons e rest ih =>
    rw [cons_append, stamps, stamps, ih, append_assoc, map_cons, sum_cons, Nat.add_assoc]

theorem stamps_snoc (record : List ε) (e : ε) :
    stamps size mark position (record ++ [e]) = stamps size mark position record ++
      (mark e).toList.map (position + (record.map size).sum, ·) := by
  rw [stamps_append, stamps, stamps, append_nil]

end

/-! ## What the replies of a record carry -/

theorem filterMap_snoc {ε : Type} (mark : ε → Option ρ) (record : List ε) (e : ε) :
    filterMap mark (record ++ [e]) = filterMap mark record ++ (mark e).toList := by
  rw [filterMap_append, filterMap_eq_flatMap_toList mark [e], flatMap_singleton]

section

variable (carried : Reply → Option ρ) (record : List (Event σ Op Reply))

def outputs : List ρ :=
  record.filterMap fun e => carried e.reply

theorem outputs_snoc (e : Event σ Op Reply) :
    outputs carried (record ++ [e]) = outputs carried record ++ (carried e.reply).toList := by
  rw [outputs, outputs, filterMap_snoc]

end

/-- A property of every event of a record that is extended by one event. -/
theorem forall_mem_snoc {motive : Event σ Op Reply → Prop} {e : Event σ Op Reply}
    (earlier : ∀ e' ∈ record, motive e') (last : motive e) : ∀ e' ∈ record ++ [e], motive e' :=
  forall_mem_append.mpr ⟨earlier, forall_mem_singleton.mpr last⟩

end Trace
