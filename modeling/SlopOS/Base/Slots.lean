import Mathlib.Data.List.Perm.Basic
import Mathlib.Data.List.Induction
import Mathlib.Order.Basic

/-!
# Arrays of slots

A fixed array is searched for its first slot with some property and that slot is
replaced.  What the array holds is the list of its slots that are in use, up to order.
-/

namespace Slots

open List

variable {α : Type} {p : α → Bool} {f : α → α} {slots slots' : List α}

/-- `slots` with the first slot that satisfies `p` replaced. -/
def updateFirst (p : α → Bool) (f : α → α) : List α → Option (List α)
  | [] => none
  | slot :: rest =>
    if p slot then some (f slot :: rest) else (updateFirst p f rest).map (slot :: ·)

theorem filter_middle (used : α → Bool) (before after : List α) (slot : α) :
    ((before ++ slot :: after).filter used).Perm
      ([slot].filter used ++ (before.filter used ++ after.filter used)) := by
  rw [filter_append, filter_cons]
  split
  case isTrue inUse =>
    rw [filter_cons_of_pos inUse]
    exact perm_middle
  case isFalse unused =>
    rw [filter_cons_of_neg unused]
    exact Perm.refl _

section

variable (updated : updateFirst p f slots = some slots')
include updated

theorem updateFirst_eq_some : ∃ before slot after, slots = before ++ slot :: after ∧ p slot = true ∧
      slots' = before ++ f slot :: after := by
  induction slots generalizing slots' with
  | nil => cases updated
  | cons slot rest ih =>
    rw [updateFirst] at updated
    split at updated
    case isTrue found =>
      cases updated
      exact ⟨[], slot, rest, rfl, found, rfl⟩
    case isFalse =>
      obtain ⟨rest', later, rfl⟩ := Option.map_eq_some_iff.mp updated
      obtain ⟨before, slot', after, rfl, found, rfl⟩ := ih later
      exact ⟨slot :: before, slot', after, rfl, found, rfl⟩

/-- Every slot afterwards was there or is the changed one. -/
theorem mem_updateFirst {slot' : α} (member : slot' ∈ slots') :
    slot' ∈ slots ∨ ∃ slot ∈ slots, p slot = true ∧ slot' = f slot := by
  obtain ⟨before, slot, after, rfl, found, rfl⟩ := updateFirst_eq_some updated
  simp only [mem_append, mem_cons] at member ⊢
  rcases member with left | rfl | right
  · exact .inl (.inl left)
  · exact .inr ⟨slot, .inr (.inl rfl), found, rfl⟩
  · exact .inl (.inr (.inr right))

theorem updateFirst_length : slots'.length = slots.length := by
  obtain ⟨before, slot, after, rfl, -, rfl⟩ := updateFirst_eq_some updated
  simp

/-- The slots in use, with the changed slot in front. -/
theorem updateFirst_filter (used : α → Bool) : ∃ slot rest, p slot = true ∧ slot ∈ slots ∧
      (slots.filter used).Perm ([slot].filter used ++ rest) ∧
      (slots'.filter used).Perm ([f slot].filter used ++ rest) := by
  obtain ⟨before, slot, after, rfl, found, rfl⟩ := updateFirst_eq_some updated
  exact ⟨slot, _, found, mem_append_right _ mem_cons_self, filter_middle .., filter_middle ..⟩

end

theorem updateFirst_isSome (found : ∃ slot ∈ slots, p slot = true) :
    ∃ slots', updateFirst p f slots = some slots' := by
  induction slots with
  | nil =>
    obtain ⟨slot, member, -⟩ := found
    cases member
  | cons slot rest ih =>
    rw [updateFirst]
    split
    case isTrue => exact ⟨_, rfl⟩
    case isFalse other =>
    obtain ⟨slot', member, satisfies⟩ := found
    rcases mem_cons.mp member with rfl | later
    · exact absurd satisfies other
    · obtain ⟨rest', updated⟩ := ih ⟨slot', later, satisfies⟩
      rw [updated]
      exact ⟨_, rfl⟩

/-- The slot that a search finds is the one that an update replaces. -/
theorem updateFirst_of_find {slot : α} (found : slots.find? p = some slot) (f : α → α)
    (used : α → Bool) : ∃ slots' rest, updateFirst p f slots = some slots' ∧
      (slots.filter used).Perm ([slot].filter used ++ rest) ∧
      (slots'.filter used).Perm ([f slot].filter used ++ rest) := by
  obtain ⟨satisfies, before, after, rfl, others⟩ := find?_eq_some_iff_append.mp found
  have updated : ∀ {earlier : List α}, (∀ other ∈ earlier, !p other) →
      updateFirst p f (earlier ++ slot :: after) = some (earlier ++ f slot :: after) := by
    intro earlier refuse
    induction earlier with
    | nil => simp [updateFirst, satisfies]
    | cons other earlier ih =>
      simp_all [updateFirst]
  exact ⟨_, _, updated others, filter_middle .., filter_middle ..⟩

/-- A free slot is filled. -/
theorem mem_set_free {entries : List (Option α)} {slot : Nat} {new entry : α}
    (free : entries[slot]? = some none) :
    some entry ∈ entries.set slot (some new) ↔ entry = new ∨ some entry ∈ entries := by
  obtain ⟨inside, empty⟩ := List.getElem?_eq_some_iff.mp free
  have whole : entries = entries.take slot ++ none :: entries.drop (slot + 1) := by
    rw [← empty, ← drop_eq_getElem_cons inside, take_append_drop]
  rw [set_eq_take_append_cons_drop, if_pos inside]
  conv_rhs => rw [whole]
  simp only [mem_append, mem_cons, Option.some.injEq, reduceCtorEq, false_or]
  exact or_left_comm

/-- A search that keeps the better of what it has found and what it meets. -/
theorem foldl_best {β : Type} [Preorder β] {pick : Option α → α → Option α} (rank : α → β)
    (first : ∀ a, pick none a = some a) (either : ∀ a b, pick (some a) b = some a ∧
      rank a ≤ rank b ∨ pick (some a) b = some b ∧ rank b ≤ rank a) (list : List α) :
    list.foldl pick none = none ∧ list = [] ∨
      ∃ a ∈ list, list.foldl pick none = some a ∧ ∀ b ∈ list, rank a ≤ rank b := by
  induction list using reverseRecOn with
  | nil => exact .inl ⟨rfl, rfl⟩
  | append_singleton list b ih =>
    simp only [foldl_append, forall_mem_append, forall_mem_singleton]
    refine .inr ?_
    rcases ih with ⟨none, rfl⟩ | ⟨a, member, found, best⟩
    · exact ⟨b, mem_singleton_self b, first b, nofun, le_rfl⟩
    rw [found]
    rcases either a b with ⟨kept, better⟩ | ⟨taken, better⟩
    · exact ⟨a, mem_append_left _ member, kept, best, better⟩
    · exact ⟨b, mem_append_right _ (mem_singleton_self b), taken,
        fun c inside => better.trans (best c inside), le_rfl⟩

end Slots
