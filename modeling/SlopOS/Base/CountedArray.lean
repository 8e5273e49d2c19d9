import Mathlib.Data.List.Perm.Basic
import Mathlib.Data.List.Nodup
import Mathlib.Data.Vector.Defs

/-!
# Fixed arrays with a count

A `Vector α n` of which the first `count` elements are in use, edited by the loops
that shift elements one place up or down.  `held` is the list of the elements in
use; each loop is described element by element, and then as an edit of that list.
-/

namespace CountedArray

open List hiding Vector

variable {α : Type} {n : Nat}

/-- The first `count` elements. -/
def held (v : Vector α n) (count : Nat) : List α := v.toList.take count

def write (v : Vector α n) (i : Nat) (x : α) : Vector α n := v.setIfInBounds i x

section

variable {v : Vector α n} {i count : Nat} {x : α}

theorem length_held (capacity : count ≤ n) : (held v count).length = count := by
  rw [held, length_take, Vector.length_toList, Nat.min_eq_left capacity]

@[simp] theorem held_zero : held v 0 = [] := take_zero

theorem held_write : held (write v i x) count = (held v count).set i x := by
  rw [held, held, write, Vector.toList_setIfInBounds, take_set]

end

variable [Inhabited α]

/-- The element at `i`.  The default stands for an index outside the array. -/
def read (v : Vector α n) (i : Nat) : α := v[i]?.getD default

/-- `for index in first..last { v[index] = v[index + 1] }` -/
def shiftDown (v : Vector α n) (first last : Nat) : Vector α n :=
  (List.range' first (last - first)).foldl (fun v index => write v index (read v (index + 1))) v

/-- `for index in (first..last).rev() { v[index + 1] = v[index] }` -/
def shiftUp (v : Vector α n) (first last : Nat) : Vector α n :=
  (List.range' first (last - first)).reverse.foldl
    (fun v index => write v (index + 1) (read v index)) v

def swap (v : Vector α n) (i j : Nat) : Vector α n := write (write v i (read v j)) j (read v i)

variable {v v' : Vector α n} {i j first last count : Nat} {x : α}

/-! ## Element by element -/

theorem read_write (inside : i < n := by omega) : read (write v i x) j = if i = j then x else read v j := by
  rw [read, write, Vector.getElem?_setIfInBounds, if_pos inside]
  split
  case isTrue => rfl
  case isFalse => rfl

@[simp] theorem read_write_same (inside : i < n) : read (write v i x) i = x := by
  rw [read_write inside, if_pos rfl]

theorem read_write_other (different : i ≠ j := by omega) : read (write v i x) j = read v j := by
  rw [read, write, Vector.getElem?_setIfInBounds, if_neg different, read]

theorem read_replicate {m : Nat} : read (Vector.replicate m x) i = if i < m then x else default := by
  rw [read, Vector.getElem?_replicate]
  split
  case isTrue => rfl
  case isFalse => rfl

/-- Each round reads an element that no earlier round wrote. -/
theorem read_shiftDown (inside : last < n) : read (shiftDown v first last) i =
      if first ≤ i ∧ i < last then read v (i + 1) else read v i := by
  unfold shiftDown
  generalize rounds : last - first = k
  induction k generalizing v first with
  | zero => exact (if_neg (by omega)).symm
  | succ k ih =>
    rw [range'_succ, foldl_cons, ih (by omega)]
    rcases Nat.lt_trichotomy i first with before | rfl | after
    · rw [if_neg (by omega), if_neg (by omega), read_write_other]
    · rw [if_neg (by omega), if_pos (by omega), read_write_same (by omega)]
    · rw [read_write_other, read_write_other]
      exact if_congr (by omega) rfl rfl

theorem read_shiftUp (inside : last < n) : read (shiftUp v first last) i =
      if first < i ∧ i ≤ last then read v (i - 1) else read v i := by
  unfold shiftUp
  generalize rounds : last - first = k
  induction k generalizing v last with
  | zero => exact (if_neg (by omega)).symm
  | succ k ih =>
    -- The first round writes the topmost element, which no later round reads.
    obtain rfl : last = first + k + 1 := by omega
    rw [range'_concat, reverse_concat, foldl_cons, Nat.one_mul,
      ih (by omega : first + k < n) (by omega)]
    rcases Nat.lt_trichotomy i (first + k + 1) with below | rfl | above
    · rw [read_write_other, read_write_other]
      exact if_congr (by omega) rfl rfl
    · rw [if_neg (by omega), if_pos (by omega), read_write_same inside, Nat.add_sub_cancel]
    · rw [if_neg (by omega), if_neg (by omega), read_write_other]

theorem read_swap (left : i < n) (right : j < n) {k : Nat} :
    read (swap v i j) k = if k = j then read v i else if k = i then read v j else read v k := by
  rw [swap, read_write right]
  rcases eq_or_ne j k with rfl | other
  · rw [if_pos rfl, if_pos rfl]
  · rw [if_neg other, if_neg (symm other), read_write left]
    exact if_congr eq_comm rfl rfl

/-! ## The elements in use -/

theorem getElem?_held :
    (held v count)[i]? = if i < count ∧ i < n then some (read v i) else none := by
  rw [held, getElem?_take, Vector.getElem?_toList, read]
  by_cases inUse : i < count
  · by_cases inside : i < n
    · simp [inUse, inside]
    · simp [inUse, inside]
  · simp [inUse]

theorem mem_held (capacity : count ≤ n) : x ∈ held v count ↔ ∃ i < count, read v i = x := by
  rw [mem_iff_getElem?]
  constructor
  · rintro ⟨i, found⟩
    rw [getElem?_held] at found
    split at found
    case isTrue inUse => exact ⟨i, inUse.1, Option.some.inj found⟩
    case isFalse => cases found
  · rintro ⟨i, inUse, rfl⟩
    exact ⟨i, by rw [getElem?_held, if_pos ⟨inUse, by omega⟩]⟩

theorem read_mem_held (inUse : i < count) (capacity : count ≤ n) : read v i ∈ held v count :=
  (mem_held capacity).mpr ⟨i, inUse, rfl⟩

/-- An array is determined on its used part by the elements read there. -/
theorem held_congr (same : ∀ i < count, read v i = read v' i) : held v count = held v' count := by
  apply ext_getElem?
  intro i
  rw [getElem?_held, getElem?_held]
  split
  case isTrue inUse => rw [same i inUse.1]
  case isFalse => rfl

theorem held_write_beyond (unused : count ≤ i) : held (write v i x) count = held v count :=
  held_congr fun j inUse => read_write_other

/-- Storing behind the elements in use. -/
theorem held_append (room : count < n) : held (write v count x) (count + 1) = held v count ++ [x] := by
  apply ext_getElem?
  intro i
  rw [getElem?_held, getElem?_append, length_held (by omega), getElem?_held]
  rcases Nat.lt_trichotomy i count with below | rfl | above
  · rw [if_pos (by omega), if_pos below, if_pos (by omega), read_write_other]
  · rw [if_pos (by omega), if_neg (by omega), read_write_same room, Nat.sub_self]
    rfl
  · rw [if_neg (by omega), if_neg (by omega), getElem?_eq_none]
    simp only [length_cons, length_nil]
    omega

theorem held_succ (room : count < n) : held v (count + 1) = held v count ++ [read v count] := by
  apply ext_getElem?
  intro i
  rw [getElem?_held, getElem?_append, length_held (by omega), getElem?_held]
  rcases Nat.lt_trichotomy i count with below | rfl | above
  · rw [if_pos (by omega), if_pos below, if_pos (by omega)]
  · rw [if_pos (by omega), if_neg (by omega), Nat.sub_self]
    rfl
  · rw [if_neg (by omega), if_neg (by omega), getElem?_eq_none]
    simp only [length_cons, length_nil]
    omega

/-- Closing the gap at `i`. -/
theorem held_shiftDown (inUse : i < count) (capacity : count ≤ n) :
    held (shiftDown v i (count - 1)) (count - 1) = (held v count).eraseIdx i := by
  apply ext_getElem?
  intro j
  rw [getElem?_eraseIdx, getElem?_held, getElem?_held, getElem?_held, read_shiftDown (by omega)]
  by_cases below : j < i
  · have kept : ¬ (i ≤ j ∧ j < count - 1) := by omega
    rw [if_pos below, if_neg kept]
    exact if_congr (by omega) rfl rfl
  rw [if_neg below]
  by_cases later : j + 1 < count
  · rw [if_pos (by omega), if_pos (by omega), if_pos (by omega)]
  · rw [if_neg (by omega), if_neg (by omega)]

/-- Opening a gap at `i` and filling it. -/
theorem held_shiftUp (inUse : i ≤ count) (room : count < n) :
    held (write (shiftUp v i count) i x) (count + 1) = (held v count).insertIdx i x := by
  apply ext_getElem?
  intro j
  rw [getElem?_insertIdx, getElem?_held, getElem?_held, getElem?_held, length_held (by omega)]
  rcases Nat.lt_trichotomy j i with below | rfl | above
  · have kept : ¬ (i < j ∧ j ≤ count) := by omega
    rw [if_pos below, read_write_other, read_shiftUp room, if_neg kept]
    exact if_congr (by omega) rfl rfl
  · have new : j < count + 1 ∧ j < n := by omega
    rw [if_pos new, read_write_same new.2, if_neg (Nat.lt_irrefl j), if_pos rfl, if_pos inUse]
  · have behind : ¬ j < i := by omega
    rw [if_neg behind, if_neg (by omega : j ≠ i), read_write_other, read_shiftUp room]
    by_cases later : j ≤ count
    · rw [if_pos (by omega), if_pos (by omega), if_pos (by omega)]
    · rw [if_neg (by omega), if_neg (by omega)]

/-- An array is determined by its elements. -/
theorem ext_read (same : ∀ i < n, read v i = read v' i) : v = v' := by
  apply Vector.ext
  intro i inside
  have element := same i inside
  rwa [read, read, Vector.getElem?_eq_getElem inside, Vector.getElem?_eq_getElem inside] at element

/-! ## Reorderings -/

section

variable (inUse : i < count) (capacity : count ≤ n)
include inUse capacity

theorem getElem_held (bound : i < (held v count).length) : (held v count)[i] = read v i := by
  have found : (held v count)[i]? = some (read v i) := by
    rw [getElem?_held, if_pos ⟨inUse, by omega⟩]
  rw [getElem?_eq_getElem bound] at found
  exact Option.some.inj found

theorem perm_cons_eraseIdx : (held v count).Perm (read v i :: (held v count).eraseIdx i) := by
  have bound : i < (held v count).length := by rwa [length_held capacity]
  rw [← getElem_held inUse capacity bound]
  exact (getElem_cons_eraseIdx_perm bound).symm

theorem held_write_perm : (held (write v i x) count).Perm (x :: (held v count).eraseIdx i) := by
  have front := perm_cons_eraseIdx (v := write v i x) inUse capacity
  rwa [read_write_same (by omega), held_write, eraseIdx_set_eq, ← held_write] at front

end

theorem held_swap_perm (left : i < count) (right : j < count) (capacity : count ≤ n) :
    (held (swap v i j) count).Perm (held v count) := by
  have leftBound : i < (held v count).length := by rwa [length_held capacity]
  have rightBound : j < (held v count).length := by rwa [length_held capacity]
  rw [swap, held_write, held_write, ← getElem_held left capacity leftBound,
    ← getElem_held right capacity rightBound]
  exact set_set_perm leftBound rightBound

/-- The element at `i` brought to the front. -/
theorem held_to_front (inUse : i < count) (capacity : count ≤ n) :
    held (write (shiftUp v 0 i) 0 (read v i)) count = read v i :: (held v count).eraseIdx i := by
  apply ext_getElem?
  intro k
  cases k with
  | zero => rw [getElem?_held, if_pos (by omega), read_write_same (by omega), getElem?_cons_zero]
  | succ k =>
    rw [getElem?_held, getElem?_cons_succ, getElem?_eraseIdx, getElem?_held, getElem?_held,
      read_write_other, read_shiftUp (by omega)]
    by_cases before : k < i
    · have moved : 0 < k + 1 ∧ k + 1 ≤ i := by omega
      rw [if_pos before, if_pos moved]
      exact if_congr (by omega) rfl rfl
    · have kept : ¬ (0 < k + 1 ∧ k + 1 ≤ i) := by omega
      rw [if_neg before, if_neg kept]

/-- The element at `i` brought to the end. -/
theorem held_to_back (inUse : i < count) (capacity : count ≤ n) :
    held (write (shiftDown v i (count - 1)) (count - 1) (read v i)) count =
      (held v count).eraseIdx i ++ [read v i] := by
  obtain ⟨last, rfl⟩ : ∃ last, count = last + 1 := Nat.exists_eq_add_one.mpr (by omega)
  rw [Nat.add_sub_cancel, held_append (by omega)]
  exact congrArg (· ++ [read v i]) (held_shiftDown inUse capacity)

end CountedArray
