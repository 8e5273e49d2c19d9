import Mathlib.Data.Nat.ModEq
import Mathlib.Order.Interval.Finset.Nat

/-!
# Taking turns

After an element comes the one with the next larger key, and after the last one the first.
The position of an element among the keys grows by one at each turn, modulo the number of
elements, so that as many turns in a row as there are elements are a turn of each.
-/

namespace RoundRobin

open Finset

variable {α : Type} {key : α → Nat} {s : Finset α} {a b : α}

/-- `b` has its turn after `a`. -/
def IsNext (key : α → Nat) (s : Finset α) (a b : α) : Prop :=
  b ∈ s ∧ (key a < key b ∧ (∀ x ∈ s, key a < key x → key b ≤ key x) ∨
    (∀ x ∈ s, key x ≤ key a) ∧ ∀ x ∈ s, key b ≤ key x)

theorem IsNext.ne {c : α} (next : IsNext key s a b) (unique : key.Injective) (member : c ∈ s)
    (other : c ≠ a) : b ≠ a := by
  rintro rfl
  obtain ⟨-, ⟨above, -⟩ | ⟨last, first⟩⟩ := next
  · exact lt_irrefl _ above
  · exact other (unique (le_antisymm (last c member) (first c member)))

/-- How many elements come before `a`. -/
def position (key : α → Nat) (s : Finset α) (a : α) : Nat := #{x ∈ s | key x < key a}

theorem position_lt (member : a ∈ s) : position key s a < #s :=
  card_lt_card (filter_ssubset.mpr ⟨a, member, lt_irrefl _⟩)

theorem position_add_one (unique : key.Injective) (member : a ∈ s) :
    position key s a + 1 = #{x ∈ s | key x ≤ key a} := by
  classical
  have own : {x ∈ s | key x ≤ key a} = insert a {x ∈ s | key x < key a} := by
    ext x
    rw [mem_insert, mem_filter, mem_filter, le_iff_lt_or_eq, unique.eq_iff]
    constructor
    · rintro ⟨inside, below | same⟩
      · exact .inr ⟨inside, below⟩
      · exact .inl same
    · rintro (rfl | ⟨inside, below⟩)
      · exact ⟨member, .inr rfl⟩
      · exact ⟨inside, .inl below⟩
  rw [own, card_insert_of_notMem (by simp), position]

theorem IsNext.position (next : IsNext key s a b) :
    position key s b = #{x ∈ s | key x ≤ key a} % #s := by
  unfold RoundRobin.position
  obtain ⟨member, ⟨above, least⟩ | ⟨last, first⟩⟩ := next
  · have same : {x ∈ s | key x < key b} = {x ∈ s | key x ≤ key a} := by
      refine filter_congr fun x inside => ⟨fun below => ?_, fun before => before.trans_lt above⟩
      exact not_lt.mp fun after => absurd (least x inside after) (not_le.mpr below)
    rw [same, Nat.mod_eq_of_lt]
    refine card_lt_card (filter_ssubset.mpr ⟨b, member, not_le.mpr above⟩)
  · rw [filter_true_of_mem last, Nat.mod_self, filter_false_of_mem, card_empty]
    exact fun x inside => not_lt.mpr (first x inside)

/-- Of `#s` turns in a row each element has exactly one. -/
theorem turns {turn : Nat → α} (unique : key.Injective)
    (next : ∀ i, IsNext key s (turn i) (turn (i + 1))) (start : Nat) :
    Set.BijOn turn (Ioc start (start + #s)) s := by
  classical
  have member (i : Nat) : turn (i + 1) ∈ s := (next i).1
  have moves (k : Nat) : position key s (turn (start + 1 + k)) =
      (position key s (turn (start + 1)) + k) % #s := by
    induction k with
    | zero => exact (Nat.mod_eq_of_lt (position_lt (member _))).symm
    | succ k ih =>
      have here : turn (start + 1 + k) ∈ s := by
        rw [Nat.add_right_comm]
        exact member _
      rw [← Nat.add_assoc, (next _).position, ← position_add_one unique here, ih, Nat.mod_add_mod,
        Nat.add_assoc]
  have apart : Set.InjOn turn (Ioc start (start + #s)) := by
    intro i inside j inside' same
    rw [mem_coe, mem_Ioc] at inside inside'
    obtain ⟨k, rfl⟩ := Nat.exists_eq_add_of_le inside.1
    obtain ⟨l, rfl⟩ := Nat.exists_eq_add_of_le inside'.1
    have positions := (moves k).symm.trans ((congrArg (position key s) same).trans (moves l))
    have turns : k ≡ l [MOD #s] := Nat.ModEq.add_left_cancel' _ positions
    rw [turns.eq_of_lt_of_lt (by omega) (by omega)]
  have image : (Ioc start (start + #s)).image turn = s := by
    refine eq_of_subset_of_card_le (image_subset_iff.mpr fun i inside => ?_) ?_
    · obtain ⟨j, rfl⟩ := Nat.exists_eq_add_of_lt (mem_Ioc.mp inside).1
      exact member _
    · rw [card_image_of_injOn apart, Nat.card_Ioc, Nat.add_sub_cancel_left]
  have all := apart.bijOn_image
  rw [← coe_image, image] at all
  exact all

end RoundRobin
