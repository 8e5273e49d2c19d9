import SlopOS.Base.RingBuffer

/-!
# The queue of input bytes

`INPUT_QUEUE` of `kernel/src/ps2.rs`: a ring of 128 cells between the keyboard and
mouse interrupts, which move its head, and the desktop, which moves its tail.  One cell
stays free, so that a full ring differs from an empty one.
-/

namespace SlopOS.Executor

def QUEUE_CAPACITY : Nat := 128

/-- The test of one bit with a mask. -/
theorem and_bit {w i : Nat} {x : BitVec w} (inside : i < w) :
    (x &&& (1#w <<< i) != 0) = x.getLsbD i := by
  rw [show 1#w <<< i = BitVec.twoPow w i from rfl, BitVec.and_twoPow]
  cases set : x.getLsbD i with
  | false => simp
  | true =>
    have nonzero : BitVec.twoPow w i ≠ 0 := by
      intro zero
      have bit := congrArg (BitVec.getLsbD · i) zero
      simp [inside] at bit
    simpa using nonzero

structure RawInputByte where
  mouse : Bool
  value : BitVec 8
  deriving DecidableEq, Repr

namespace RawInputByte

/-- The byte in its cell: bit 8 says that it comes from the mouse. -/
def encode (byte : RawInputByte) : BitVec 16 :=
  byte.value.setWidth 16 ||| if byte.mouse then 1#16 <<< 8 else 0

def decode (encoded : BitVec 16) : RawInputByte :=
  ⟨encoded &&& (1#16 <<< 8) != 0, encoded.setWidth 8⟩

theorem decode_encode (byte : RawInputByte) : decode byte.encode = byte := by
  obtain ⟨mouse, value⟩ := byte
  refine congrArg₂ mk ?_ ?_
  · rw [and_bit (by omega), encode, BitVec.getLsbD_or]
    cases mouse with
    | false => simp
    | true => simp
  · rw [encode, BitVec.setWidth_or, BitVec.setWidth_setWidth_of_le _ (by omega)]
    cases mouse with
    | false => exact BitVec.or_zero
    | true =>
      show value ||| (1#16 <<< 8).setWidth 8 = value
      rw [show (1#16 <<< 8).setWidth 8 = 0#8 by decide, BitVec.or_zero]

end RawInputByte

structure InputQueue where
  cells : Vector (BitVec 16) QUEUE_CAPACITY
  head : Nat
  tail : Nat
  droppedBytes : BitVec 64

namespace InputQueue

def empty : InputQueue := ⟨Vector.replicate _ 0, 0, 0, 0⟩

/-- The part of `enqueue_interrupt_byte` before the wake-up; the reply says whether the
byte has been stored. -/
def enqueue (queue : InputQueue) (byte : RawInputByte) : InputQueue × Bool :=
  let next := (queue.head + 1) % QUEUE_CAPACITY
  if next = queue.tail then
    ({ queue with droppedBytes := queue.droppedBytes + 1 }, false)
  else
    ({ queue with cells := queue.cells.setIfInBounds queue.head byte.encode, head := next }, true)

/-- The cell that `tail` points to. -/
def cell (queue : InputQueue) (tail : Nat) : BitVec 16 := queue.cells[tail]?.getD 0

/-- The store of the tail behind the byte that was read. -/
def advance (queue : InputQueue) (tail : Nat) : InputQueue :=
  { queue with tail := (tail + 1) % QUEUE_CAPACITY }

/-! ## The bytes that wait -/

structure Valid (queue : InputQueue) : Prop where
  head : queue.head < QUEUE_CAPACITY
  tail : queue.tail < QUEUE_CAPACITY

def count (queue : InputQueue) : Nat :=
  (queue.head + QUEUE_CAPACITY - queue.tail) % QUEUE_CAPACITY

/-- The bytes between tail and head, in order. -/
def waiting (queue : InputQueue) : List (BitVec 16) :=
  RingBuffer.window 0 queue.cells queue.tail queue.count

variable {queue : InputQueue}

theorem empty_valid : empty.Valid := ⟨by decide, by decide⟩

namespace Valid

variable (valid : queue.Valid)
include valid

theorem head_eq : (queue.tail + queue.count) % QUEUE_CAPACITY = queue.head := by
  have head := valid.head
  have tail := valid.tail
  unfold count
  unfold QUEUE_CAPACITY at *
  omega

theorem waiting_eq_nil : queue.waiting = [] ↔ queue.tail = queue.head := by
  have head := valid.head
  have tail := valid.tail
  rw [← List.length_eq_zero_iff, waiting, RingBuffer.window_length]
  unfold count
  unfold QUEUE_CAPACITY at *
  omega

theorem enqueue (byte : RawInputByte) :
    (queue.enqueue byte).1.Valid ∧ (queue.enqueue byte).1.tail = queue.tail := by
  unfold InputQueue.enqueue
  dsimp only
  split
  case isTrue => exact ⟨⟨valid.head, valid.tail⟩, rfl⟩
  case isFalse => exact ⟨⟨Nat.mod_lt _ (by decide), valid.tail⟩, rfl⟩

/-- A stored byte comes last, and one that is refused is counted. -/
theorem enqueue_cases (byte : RawInputByte) : ((queue.enqueue byte).2 = true ∧
        (queue.enqueue byte).1.waiting = queue.waiting ++ [byte.encode] ∧
        (queue.enqueue byte).1.droppedBytes = queue.droppedBytes) ∨
      ((queue.enqueue byte).2 = false ∧ (queue.enqueue byte).1.waiting = queue.waiting ∧
        (queue.enqueue byte).1.droppedBytes = queue.droppedBytes + 1) := by
  have tail := valid.tail
  have position := valid.head_eq
  unfold InputQueue.enqueue
  dsimp only
  split
  case isTrue => exact .inr ⟨rfl, rfl, rfl⟩
  case isFalse room =>
  refine .inl ⟨rfl, ?_, rfl⟩
  have grown : (⟨queue.cells.setIfInBounds queue.head byte.encode,
      (queue.head + 1) % QUEUE_CAPACITY, queue.tail, queue.droppedBytes⟩ : InputQueue).count =
      queue.count + 1 := by
    unfold count
    dsimp only
    unfold QUEUE_CAPACITY at *
    omega
  have space : queue.count < QUEUE_CAPACITY := Nat.mod_lt _ (by decide)
  rw [waiting, grown, ← position]
  exact RingBuffer.window_push space

/-- The byte at the tail is the first that waits. -/
theorem waiting_cons (present : queue.tail ≠ queue.head) :
    queue.waiting = queue.cell queue.tail :: (queue.advance queue.tail).waiting := by
  have head := valid.head
  have tail := valid.tail
  have fewer : queue.count = 1 + (queue.advance queue.tail).count := by
    unfold count advance
    dsimp only
    unfold QUEUE_CAPACITY at *
    omega
  have first : RingBuffer.window 0 queue.cells queue.tail 1 = [queue.cell queue.tail] := by
    rw [RingBuffer.window_succ, Nat.add_zero, Nat.mod_eq_of_lt tail]
    rfl
  rw [waiting, fewer, RingBuffer.window_add, first]
  rfl

/-- A byte that comes in leaves the first one in its cell. -/
theorem cell_enqueue (present : queue.tail ≠ queue.head) (byte : RawInputByte) :
    (queue.enqueue byte).1.tail ≠ (queue.enqueue byte).1.head ∧
      (queue.enqueue byte).1.cell queue.tail = queue.cell queue.tail := by
  obtain ⟨valid', tail⟩ := valid.enqueue byte
  have first := valid.waiting_cons present
  have grown : ∃ added, (queue.enqueue byte).1.waiting = queue.waiting ++ added := by
    rcases valid.enqueue_cases byte with ⟨-, stored, -⟩ | ⟨-, same, -⟩
    · exact ⟨_, stored⟩
    · exact ⟨[], by rw [same, List.append_nil]⟩
  obtain ⟨added, grown⟩ := grown
  have present' : (queue.enqueue byte).1.tail ≠ (queue.enqueue byte).1.head := by
    intro empty
    rw [valid'.waiting_eq_nil.mpr empty, first] at grown
    cases grown
  refine ⟨present', ?_⟩
  rw [valid'.waiting_cons present', first, tail] at grown
  exact (List.cons.inj grown).1

theorem advance : (queue.advance queue.tail).Valid :=
  ⟨valid.head, Nat.mod_lt _ (by decide)⟩

end Valid

end InputQueue

end SlopOS.Executor
