import SlopOS.Ipc.Table

/-!
# Rings and slots

What a byte ring holds after a push or a pop, what a slot must satisfy on its own,
and how slots are read after one of them is replaced.
-/

namespace SlopOS.Ipc

variable {SOCKETS BACKLOG BYTES generation : Nat} {slot : SocketSlot SOCKETS BACKLOG BYTES}

/-! ## Byte rings -/

namespace ByteRing

/-- The length is within the capacity and the head names a cell. -/
structure WellFormed (ring : ByteRing BYTES) : Prop where
  length_le : ring.length ≤ BYTES
  head_lt : BYTES ≠ 0 → ring.head < BYTES

theorem empty_wellFormed : (empty : ByteRing BYTES).WellFormed :=
  ⟨Nat.zero_le _, fun positive => Nat.pos_of_ne_zero positive⟩

@[simp] theorem contents_length (ring : ByteRing BYTES) : ring.contents.length = ring.length :=
  RingBuffer.window_length ..

theorem contents_eq_nil {ring : ByteRing BYTES} (drained : ring.length = 0) : ring.contents = [] :=
  List.length_eq_zero_iff.mp ((contents_length ring).trans drained)

variable (ring : ByteRing BYTES) (input : List (BitVec 8))

theorem push_count : (ring.push input).2 = min input.length ring.available := rfl

theorem push_length : (ring.push input).1.length = ring.length + (ring.push input).2 := rfl

section

variable {ring : ByteRing BYTES} (wf : ring.WellFormed) (input : List (BitVec 8))
include wf

theorem WellFormed.push : (ring.push input).1.WellFormed := by
  refine ⟨?_, wf.head_lt⟩
  have within := wf.length_le
  rw [push_length, push_count, available]
  omega

/-- A push appends the accepted front of the input. -/
theorem contents_push :
    (ring.push input).1.contents = ring.contents ++ input.take (ring.push input).2 := by
  have within := wf.length_le
  have accepted : (input.take (ring.push input).2).length = (ring.push input).2 := by
    rw [List.length_take, push_count]
    omega
  have room : ring.length + (input.take (ring.push input).2).length ≤ BYTES := by
    rw [accepted, push_count, available]
    omega
  have written := @RingBuffer.window_write _ _ 0 ring.bytes ring.head _ _ room
  rw [accepted] at written
  exact written

end

/-- Nothing is written when nothing is accepted. -/
theorem push_eq_self {ring : ByteRing BYTES} {input : List (BitVec 8)}
    (full : (ring.push input).2 = 0) : (ring.push input).1 = ring := by
  rw [push_count] at full
  simp only [push, full, List.take_zero, RingBuffer.write, Nat.add_zero]

theorem pop_length (size : Nat) : (ring.pop size).1.length = ring.length - min size ring.length := rfl

theorem pop_output (size : Nat) : (ring.pop size).2 = ring.contents.take size := by
  have bounded : ring.contents.take size = ring.contents.take (min size ring.length) := by
    rw [← contents_length, List.take_eq_take_min]
  rw [bounded]
  exact (RingBuffer.window_take (Nat.min_le_right _ _)).symm

section

variable {ring : ByteRing BYTES} (wf : ring.WellFormed)
include wf

theorem WellFormed.pop (size : Nat) : (ring.pop size).1.WellFormed := by
  refine ⟨le_trans (Nat.sub_le _ _) wf.length_le, fun positive => ?_⟩
  simp only [ByteRing.pop, if_pos positive]
  exact Nat.mod_lt _ (Nat.pos_of_ne_zero positive)

/-- A pop takes its output off the front. -/
theorem contents_pop (size : Nat) :
    ring.contents = (ring.pop size).2 ++ (ring.pop size).1.contents := by
  by_cases capacity : BYTES = 0
  · have drained : ring.length = 0 := Nat.le_zero.mp (capacity ▸ wf.length_le)
    have rest : (ring.pop size).1.contents = [] := by
      refine contents_eq_nil ?_
      rw [pop_length, drained, Nat.zero_sub]
    rw [pop_output, rest, contents_eq_nil drained, List.take_nil, List.append_nil]
  · have dropped := @RingBuffer.window_drop _ _ 0 ring.bytes ring.head _ _
      (Nat.min_le_right size ring.length)
    have rest : (ring.pop size).1.contents = ring.contents.drop (min size ring.length) := by
      rw [contents, contents, dropped]
      simp only [pop, ne_eq, capacity, not_false_eq_true, if_true]
    have front : (ring.pop size).2 = ring.contents.take (min size ring.length) :=
      (RingBuffer.window_take (Nat.min_le_right _ _)).symm
    rw [rest, front, List.take_append_drop]

/-- Nothing moves when nothing is returned. -/
theorem pop_eq_self {size : Nat} (nothing : (ring.pop size).2.length = 0) :
    (ring.pop size).1 = ring := by
  have count : min size ring.length = 0 := by
    simpa only [pop, RingBuffer.window_length] using nothing
  simp only [pop, count, Nat.add_zero, Nat.sub_zero]
  split
  · next positive => rw [Nat.mod_eq_of_lt (wf.head_lt positive)]
  · rfl

end

end ByteRing

/-! ## Slots -/

namespace SocketSlot

/-- The slots queued for `accept`, in order. -/
def queue (slot : SocketSlot SOCKETS BACKLOG BYTES) : List (Option (Fin SOCKETS)) :=
  RingBuffer.window none slot.pending slot.pendingHead slot.pendingLength

/-- What holds of every slot by itself. -/
structure WellFormed (slot : SocketSlot SOCKETS BACKLOG BYTES) : Prop where
  ring : slot.receive.WellFormed
  pendingLength_le : slot.pendingLength ≤ BACKLOG
  pendingHead_lt : BACKLOG ≠ 0 → slot.pendingHead < BACKLOG
  /-- A cell of the backlog is occupied exactly if it lies in the window. -/
  occupied : ∀ cell < BACKLOG, (slot.pending[cell]?.getD none).isSome ↔
    ∃ k < slot.pendingLength, cell = (slot.pendingHead + k) % BACKLOG
  /-- Only a listener has pending connections. -/
  backlog : slot.state ≠ .listening → slot.pendingLength = 0
  /-- Only a connected slot takes part in a stream. -/
  idle : slot.state ≠ .connected → slot.receive.length = 0 ∧ slot.rights = none ∧
    slot.peer = none ∧ slot.peerClosed = false
  /-- Only a bound or listening slot has a path. -/
  unnamed : slot.named = false → slot.path = []
  generation_lt : slot.generation < 2 ^ 16

theorem empty_wellFormed (bounded : generation < 2 ^ 16) :
    (empty generation : SocketSlot SOCKETS BACKLOG BYTES).WellFormed where
  ring := ByteRing.empty_wellFormed
  pendingLength_le := Nat.zero_le _
  pendingHead_lt positive := Nat.pos_of_ne_zero positive
  occupied cell inside := by
    simp [empty, inside]
  backlog _ := rfl
  idle _ := ⟨rfl, rfl, rfl, rfl⟩
  unnamed _ := rfl
  generation_lt := bounded

theorem resetForAllocation_wellFormed (bounded : generation < 2 ^ 16) :
    (resetForAllocation generation : SocketSlot SOCKETS BACKLOG BYTES).WellFormed :=
  { empty_wellFormed bounded with
    backlog := fun _ => rfl
    idle := fun _ => ⟨rfl, rfl, rfl, rfl⟩
    unnamed := fun _ => rfl }

/-- Every queued entry is present. -/
theorem WellFormed.queue_isSome (wf : slot.WellFormed) {entry : Option (Fin SOCKETS)}
    (member : entry ∈ slot.queue) : entry.isSome := by
  obtain ⟨k, within, rfl⟩ := List.mem_map.mp member
  have within := List.mem_range.mp within
  have capacity := wf.pendingLength_le
  have inside : (slot.pendingHead + k) % BACKLOG < BACKLOG := Nat.mod_lt _ (by omega)
  exact (wf.occupied _ inside).mpr ⟨k, within, rfl⟩

end SocketSlot

/-! ## Tables -/

namespace LocalSocketTable

variable (table : LocalSocketTable SOCKETS BACKLOG BYTES) {index : Fin SOCKETS}

@[simp] theorem slot_new (index : Fin SOCKETS) :
    (new : LocalSocketTable SOCKETS BACKLOG BYTES).slot index = .empty 0 := by
  simp [new, slot]

theorem slot_setSlot (index other : Fin SOCKETS) (slot : SocketSlot SOCKETS BACKLOG BYTES) :
    (table.setSlot index slot).slot other = if other = index then slot else table.slot other := by
  simp only [setSlot, LocalSocketTable.slot, Vector.getElem_set, Fin.ext_iff, eq_comm]

@[simp] theorem slot_setSlot_self (index : Fin SOCKETS)
    (slot : SocketSlot SOCKETS BACKLOG BYTES) : (table.setSlot index slot).slot index = slot := by
  rw [slot_setSlot, if_pos rfl]

@[simp] theorem slot_setSlot_ne {other : Fin SOCKETS} (different : other ≠ index)
    (slot : SocketSlot SOCKETS BACKLOG BYTES) :
    (table.setSlot index slot).slot other = table.slot other := by
  rw [slot_setSlot, if_neg different]

@[ext] theorem ext {table table' : LocalSocketTable SOCKETS BACKLOG BYTES}
    (same : ∀ index, table.slot index = table'.slot index) : table = table' := by
  cases table with
  | mk slots =>
    cases table' with
    | mk slots' =>
      congr 1
      exact Vector.ext fun i inside => same ⟨i, inside⟩

/-- What a replaced slot has in common with the old one is the same in every slot. -/
theorem setSlot_field {α : Type} (field : SocketSlot SOCKETS BACKLOG BYTES → α)
    {table : LocalSocketTable SOCKETS BACKLOG BYTES} (same : field slot = field (table.slot index))
    (other : Fin SOCKETS) :
    field ((table.setSlot index slot).slot other) = field (table.slot other) := by
  rw [slot_setSlot]
  split
  · next here => rw [here, same]
  · rfl

/-- Writing a slot back changes nothing. -/
@[simp] theorem setSlot_slot (index : Fin SOCKETS) :
    table.setSlot index (table.slot index) = table := by
  refine ext fun other => ?_
  rw [slot_setSlot]
  split
  · next same => rw [same]
  · rfl

section

variable {table : LocalSocketTable SOCKETS BACKLOG BYTES}
  {accepts : Fin SOCKETS → SocketSlot SOCKETS BACKLOG BYTES → Bool}

theorem position_eq_some (found : table.position accepts = some index) :
    accepts index (table.slot index) = true :=
  @List.find?_some _ (fun index => accepts index (table.slot index)) _ _ found

theorem position_eq_none (missing : table.position accepts = none) (index : Fin SOCKETS) :
    accepts index (table.slot index) = false :=
  Bool.eq_false_iff.mpr (List.find?_eq_none.mp missing index (List.mem_finRange index))

end

/-- A handle names a slot: the index lies in the table, the slot is in use and the
generations agree. -/
theorem index_eq_ok {table : LocalSocketTable SOCKETS BACKLOG BYTES} {handle : SocketHandle} :
    table.index handle = .ok index ↔
      handle = ⟨index.val, (table.slot index).generation⟩ ∧ (table.slot index).state ≠ .free := by
  unfold LocalSocketTable.index
  constructor
  · intro found
    split at found
    · next inside =>
      dsimp only at found
      split at found
      · next named =>
        cases found
        exact ⟨by rw [named.2], named.1⟩
      · cases found
    · cases found
  · rintro ⟨rfl, used⟩
    rw [dif_pos index.isLt]
    exact if_pos ⟨used, rfl⟩

end LocalSocketTable

end SlopOS.Ipc
