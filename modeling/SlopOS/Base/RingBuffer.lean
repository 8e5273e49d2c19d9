import Mathlib.Data.Nat.ModEq
import Mathlib.Data.List.Basic
import Mathlib.Data.Vector.Defs

/-!
# Ring buffers in fixed arrays

A queue kept in `n` cells: it starts at a head position and its `k`-th entry lies
in cell `(head + k) % n`.  `window` is the queue read out in order.  Writing
behind the tail appends to it, and moving the head drops from its front.
-/

namespace RingBuffer

open List hiding Vector

variable {α : Type} {n : Nat}

/-- The `count` entries that start at `head`, in queue order. -/
def window (fallback : α) (cells : Vector α n) (head count : Nat) : List α :=
  (List.range count).map fun k => cells[(head + k) % n]?.getD fallback

/-- Writes `data` to the cells from position `start` on. -/
def write (cells : Vector α n) (start : Nat) : List α → Vector α n
  | [] => cells
  | entry :: rest => write (cells.setIfInBounds (start % n) entry) (start + 1) rest

section

variable (fallback : α) (cells : Vector α n)

@[simp] theorem window_length (head count : Nat) :
    (window fallback cells head count).length = count := by
  rw [window, length_map, length_range]

theorem window_succ (head count : Nat) : window fallback cells head (count + 1) =
      window fallback cells head count ++ [cells[(head + count) % n]?.getD fallback] := by
  rw [window, range_succ, map_append]
  rfl

/-- The window splits where a reader stops. -/
theorem window_add (head first second : Nat) : window fallback cells head (first + second) =
      window fallback cells head first ++ window fallback cells ((head + first) % n) second := by
  unfold window
  rw [range_add, map_append, map_map]
  congr 1
  refine map_congr_left fun k _ => ?_
  rw [Function.comp_apply, Nat.mod_add_mod, Nat.add_assoc]

end

section

variable {fallback : α} {cells : Vector α n} {head count limit : Nat} (within : limit ≤ count)
include within

theorem window_take :
    (window fallback cells head count).take limit = window fallback cells head limit := by
  obtain ⟨rest, rfl⟩ := Nat.exists_eq_add_of_le within
  rw [window_add, take_left' (window_length ..)]

theorem window_drop : (window fallback cells head count).drop limit =
      window fallback cells ((head + limit) % n) (count - limit) := by
  obtain ⟨rest, rfl⟩ := Nat.exists_eq_add_of_le within
  rw [window_add, drop_left' (window_length ..), Nat.add_sub_cancel_left]

end

/-- Positions less than one turn apart use different cells. -/
theorem position_injective {head first second : Nat} (insideFirst : first < n)
    (insideSecond : second < n) (same : (head + first) % n = (head + second) % n) :
    first = second := by
  have equal : first % n = second % n := Nat.ModEq.add_left_cancel' head same
  rwa [Nat.mod_eq_of_lt insideFirst, Nat.mod_eq_of_lt insideSecond] at equal

/-- The head cell lies outside the window that starts behind it. -/
theorem head_ne_later {head k : Nat} (inside : head < n) (within : k + 1 < n) :
    head ≠ ((head + 1) % n + k) % n := by
  intro same
  have wrapped : (head + 0) % n = (head + (1 + k)) % n := by
    rw [Nat.add_zero, Nat.mod_eq_of_lt inside, ← Nat.add_assoc, ← Nat.mod_add_mod]
    exact same
  have impossible := position_injective (by omega) (by omega) wrapped
  omega

/-- A cell outside the window may change. -/
theorem window_setIfInBounds {fallback entry : α} {cells : Vector α n} {head count i : Nat}
    (outside : ∀ k < count, i ≠ (head + k) % n) :
    window fallback (cells.setIfInBounds i entry) head count =
      window fallback cells head count := by
  refine map_congr_left fun k member => ?_
  rw [Vector.getElem?_setIfInBounds_ne (outside k (mem_range.mp member))]

theorem window_push {fallback entry : α} {cells : Vector α n} {head count : Nat}
    (room : count < n) :
    window fallback (cells.setIfInBounds ((head + count) % n) entry) head (count + 1) =
      window fallback cells head count ++ [entry] := by
  have inside : (head + count) % n < n := Nat.mod_lt _ (by omega)
  rw [window_succ, Vector.getElem?_setIfInBounds_self_of_lt inside, Option.getD_some,
    window_setIfInBounds]
  intro k within same
  exact absurd (position_injective room (by omega) same) (by omega)

/-- Writing behind the tail appends to the queue. -/
theorem window_write {fallback : α} {cells : Vector α n} {head count : Nat} {data : List α}
    (room : count + data.length ≤ n) :
    window fallback (write cells (head + count) data) head (count + data.length) =
      window fallback cells head count ++ data := by
  induction data generalizing cells count with
  | nil => exact (append_nil _).symm
  | cons entry rest ih =>
    rw [length_cons] at room
    have later := @ih (cells.setIfInBounds ((head + count) % n) entry) (count + 1) (by omega)
    rw [window_push (by omega), append_assoc, singleton_append] at later
    rw [length_cons, ← later]
    congr 1
    omega

end RingBuffer
