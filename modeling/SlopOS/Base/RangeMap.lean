import Mathlib.Data.List.GetD

/-!
# Ranges of an address space

A map from addresses to cells, read and written in runs of consecutive cells.
-/

namespace RangeMap

open List

variable {β : Type} {cells : Nat → β} {start other count address : Nat} {data : List β} {cell : β}

/-- The `count` cells from `start` on. -/
def view (cells : Nat → β) (start count : Nat) : List β :=
  (List.range count).map fun offset => cells (start + offset)

/-- The cells with `data` written from `start` on. -/
def put (cells : Nat → β) (start : Nat) (data : List β) : Nat → β := fun address =>
  if start ≤ address then data.getD (address - start) (cells address) else cells address

@[simp] theorem view_length : (view cells start count).length = count := by
  rw [view, length_map, length_range]

theorem view_congr {cells' : Nat → β} (same : ∀ offset < count,
    cells (start + offset) = cells' (start + offset)) :
    view cells start count = view cells' start count := by
  exact map_congr_left fun offset member => same offset (mem_range.mp member)

theorem put_inside {offset : Nat} (inside : offset < data.length) :
    put cells start data (start + offset) = data.get ⟨offset, inside⟩ := by
  unfold put
  rw [if_pos (Nat.le_add_right ..), Nat.add_sub_cancel_left, getD_eq_getElem _ _ inside]
  rfl

theorem put_outside (outside : address < start ∨ start + data.length ≤ address) :
    put cells start data address = cells address := by
  unfold put
  split
  · next above =>
    rw [getD_eq_default]
    omega
  · rfl

theorem view_put_self : view (put cells start data) start data.length = data := by
  unfold view
  apply ext_getElem (by rw [length_map, length_range])
  intro offset _ inside
  rw [getElem_map, getElem_range, put_inside inside]
  rfl

theorem view_put_apart (apart : start + data.length ≤ other ∨ other + count ≤ start) :
    view (put cells start data) other count = view cells other count := by
  apply view_congr
  intro offset inside
  exact put_outside (by omega)

/-- A single cell. -/
theorem put_singleton_self : put cells start [cell] start = cell := by
  unfold put
  rw [if_pos (Nat.le_refl start), Nat.sub_self]
  rfl

theorem put_singleton_ne (other : address ≠ start) :
    put cells start [cell] address = cells address := by
  apply put_outside
  rw [length_singleton]
  omega

theorem view_put_singleton (apart : address < start ∨ start + count ≤ address) :
    view (put cells address [cell]) start count = view cells start count := by
  apply view_put_apart
  rw [length_singleton]
  omega

end RangeMap
