import Mathlib.Data.BitVec

/-!
# Four-level address translation

The long-mode page walk over a physical memory seen as page-sized frames of 512
entries.  Permissions are conjunctions over the entries of the walk.  A frame is
named by its base address; the address field of an entry has bits 12 to 51.
-/

namespace PageWalk

/-- Entry `m frame index` of the frame at a physical base address. -/
abbrev Memory := Nat → Nat → BitVec 64

def presentBit : BitVec 64 := 0x1
def writableBit : BitVec 64 := 0x2
def userBit : BitVec 64 := 0x4
def hugeBit : BitVec 64 := 0x80
def addressField : BitVec 64 := 0x000ffffffffff000

variable (e : BitVec 64)

def Present : Prop := e &&& presentBit ≠ 0#64
def Writable : Prop := e &&& writableBit ≠ 0#64
def User : Prop := e &&& userBit ≠ 0#64
def Huge : Prop := e &&& hugeBit ≠ 0#64

instance (e : BitVec 64) : Decidable (Present e) := inferInstanceAs (Decidable (_ ≠ _))
instance (e : BitVec 64) : Decidable (Writable e) := inferInstanceAs (Decidable (_ ≠ _))
instance (e : BitVec 64) : Decidable (User e) := inferInstanceAs (Decidable (_ ≠ _))
instance (e : BitVec 64) : Decidable (Huge e) := inferInstanceAs (Decidable (_ ≠ _))

/-- The frame an entry points to. -/
def frameOf : Nat := (e &&& addressField).toNat

/-- A page-aligned address of the 52-bit physical space. -/
def IsFrame (frame : Nat) : Prop := frame % 4096 = 0 ∧ frame < 2 ^ 52

/-- The table index selected by the nine address bits from `shift` on. -/
def tableIndex (address : BitVec 64) (shift : Nat) : Nat := ((address >>> shift) &&& 0x1ff).toNat

/-- Bits 63 to 47 are equal: the address lies in the lower or the upper half. -/
def Canonical (address : BitVec 64) : Prop :=
  address.toNat < 2 ^ 47 ∨ 2 ^ 64 - 2 ^ 47 ≤ address.toNat

instance (address : BitVec 64) : Decidable (Canonical address) :=
  inferInstanceAs (Decidable (_ ∨ _))

structure Mapping where
  physical : Nat
  writable : Bool
  user : Bool
  deriving DecidableEq, Repr

/-- The levels of the walk, by the shift of their index. -/
def levels : List Nat := [39, 30, 21, 12]

/-- Walk the remaining levels from `table`, with the permissions collected so far.
An entry of the two middle levels may map a large page. -/
def walk (m : Memory) (address : BitVec 64) : List Nat → Nat → Bool → Bool → Option Mapping
  | [], _, _, _ => none
  | shift :: rest, table, writable, user =>
      let e := m table (tableIndex address shift)
      let writable := writable && decide (Writable e)
      let user := user && decide (User e)
      if Present e then
        if rest = [] ∨ (Huge e ∧ shift ≤ 30) then
          some ⟨frameOf e / 2 ^ shift * 2 ^ shift + address.toNat % 2 ^ shift, writable, user⟩
        else walk m address rest (frameOf e) writable user
      else none

def translateAddress (m : Memory) (root : Nat) (address : BitVec 64) : Option Mapping :=
  if Canonical address then walk m address levels root true true else none

/-- The address can be accessed from user mode. -/
def UserAccessible (m : Memory) (root : Nat) (address : BitVec 64) : Prop :=
  ∃ mapping, translateAddress m root address = some mapping ∧ mapping.user = true

/-- `frame` is one of the tables the walk from `table` can visit. -/
inductive TableBelow (m : Memory) : List Nat → Nat → Nat → Prop
  | self {levels : List Nat} {table : Nat} : levels ≠ [] → TableBelow m levels table table
  | child {shift : Nat} {rest : List Nat} {table frame index : Nat} : index < 512 →
      Present (m table index) → ¬ (Huge (m table index) ∧ shift ≤ 30) →
      TableBelow m rest (frameOf (m table index)) frame →
      TableBelow m (shift :: rest) table frame

/-! ## Entries built from a frame and flags -/

/-- An entry for `frame` with the low flag bits `flags`. -/
def entry (frame : Nat) (flags : BitVec 64) : BitVec 64 := BitVec.ofNat 64 frame ||| flags

/-- Flags lie in the low twelve bits. -/
def IsFlags (flags : BitVec 64) : Prop := flags &&& 0xfff#64 = flags

instance (flags : BitVec 64) : Decidable (IsFlags flags) := inferInstanceAs (Decidable (_ = _))

variable {frame : Nat} {bit : BitVec 64}

theorem IsFrame.field (isFrame : IsFrame frame) :
    BitVec.ofNat 64 frame &&& addressField = BitVec.ofNat 64 frame := by
  obtain ⟨aligned, bounded⟩ := isFrame
  have shifted : frame = (frame / 4096) <<< 12 := by
    omega
  have field : addressField.toNat = (2 ^ 40 - 1) <<< 12 := rfl
  apply BitVec.eq_of_toNat_eq
  rw [BitVec.toNat_and, field, BitVec.toNat_ofNat, Nat.mod_eq_of_lt (by omega), shifted,
    ← Nat.shiftLeft_and_distrib, Nat.and_two_pow_sub_one_eq_mod, Nat.mod_eq_of_lt (by omega)]

/-- A frame has none of the flag bits. -/
theorem IsFrame.flag (isFrame : IsFrame frame) (low : addressField &&& bit = 0#64) :
    BitVec.ofNat 64 frame &&& bit = 0#64 := by
  rw [← isFrame.field, BitVec.and_assoc, low, BitVec.and_zero]

variable {flags : BitVec 64}

theorem frameOf_entry (isFrame : IsFrame frame) (isFlags : IsFlags flags) :
    frameOf (entry frame flags) = frame := by
  have none : flags &&& addressField = 0#64 := by
    rw [← isFlags, BitVec.and_assoc, show 0xfff#64 &&& addressField = 0#64 by decide,
      BitVec.and_zero]
  unfold frameOf entry
  rw [BitVec.and_or_distrib_right, isFrame.field, none, BitVec.or_zero]
  exact Nat.mod_eq_of_lt (by have := isFrame.2; omega)

/-- The flag bits of an entry are those it was built with. -/
theorem entry_and_bit (isFrame : IsFrame frame) (low : addressField &&& bit = 0#64) :
    entry frame flags &&& bit = flags &&& bit := by
  unfold entry
  rw [BitVec.and_or_distrib_right, isFrame.flag low, BitVec.zero_or]

section EntryFlags

section

variable (isFrame : IsFrame frame)
include isFrame

theorem present_entry_iff : Present (entry frame flags) ↔ Present flags := by
  unfold Present
  rw [entry_and_bit isFrame (by decide)]

theorem writable_entry_iff : Writable (entry frame flags) ↔ Writable flags := by
  unfold Writable
  rw [entry_and_bit isFrame (by decide)]

theorem user_entry_iff : User (entry frame flags) ↔ User flags := by
  unfold User
  rw [entry_and_bit isFrame (by decide)]

theorem huge_entry_iff : Huge (entry frame flags) ↔ Huge flags := by
  unfold Huge
  rw [entry_and_bit isFrame (by decide)]

end

end EntryFlags

theorem not_present_zero : ¬ Present 0#64 := by decide

/-! ## One level at a time -/

variable {m : Memory} {address : BitVec 64} {shift table : Nat} {rest : List Nat}
  {writable user : Bool}

theorem walk_absent (absent : ¬ Present (m table (tableIndex address shift))) :
    walk m address (shift :: rest) table writable user = none := by
  simp only [walk, if_neg absent]

/-- A walk passes through an entry that points to a table. -/
theorem walk_table {next : Nat} (read : m table (tableIndex address shift) = entry next flags)
    (isFrame : IsFrame next) (link : IsFlags flags ∧ Present flags ∧ ¬ Huge flags ∧ rest ≠ []) :
    walk m address (shift :: rest) table writable user =
      walk m address rest next (writable && decide (Writable flags))
        (user && decide (User flags)) := by
  obtain ⟨isFlags, present, small, more⟩ := link
  simp only [walk]
  rw [read, if_pos ((present_entry_iff isFrame).mpr present), if_neg, frameOf_entry isFrame isFlags,
    decide_eq_decide.mpr (writable_entry_iff isFrame), decide_eq_decide.mpr (user_entry_iff isFrame)]
  intro leaf
  rcases leaf with empty | ⟨huge, -⟩
  · exact more empty
  · exact small ((huge_entry_iff isFrame).mp huge)

/-- A walk ends at an entry of the last level. -/
theorem walk_page (flags : BitVec 64) (read : m table (tableIndex address 12) = entry frame flags)
    (isFrame : IsFrame frame) (link : IsFlags flags ∧ Present flags) :
    walk m address [12] table writable user =
      some ⟨frame + address.toNat % 4096, writable && decide (Writable flags),
        user && decide (User flags)⟩ := by
  have aligned := isFrame.1
  simp only [walk]
  rw [read, if_pos ((present_entry_iff isFrame).mpr link.2), if_pos (.inl trivial),
    frameOf_entry isFrame link.1, decide_eq_decide.mpr (writable_entry_iff isFrame),
    decide_eq_decide.mpr (user_entry_iff isFrame)]
  congr 2
  omega

/-- Permissions only shrink along a walk. -/
theorem walk_user_le {levels : List Nat} {mapping : Mapping}
    (walked : walk m address levels table writable user = some mapping)
    (accessible : mapping.user = true) : user = true := by
  induction levels generalizing table writable user with
  | nil => cases walked
  | cons shift rest ih =>
    simp only [walk] at walked
    split at walked
    · split at walked
      · cases walked
        exact (Bool.and_eq_true_iff.mp accessible).1
      · exact (Bool.and_eq_true_iff.mp (ih walked)).1
    · cases walked

/-- Two memories that agree on one entry, and on the walk after it, agree. -/
theorem walk_congr {m' : Memory} {table' : Nat}
    (read : m table (tableIndex address shift) = m' table' (tableIndex address shift))
    (later : ∀ next w u, walk m address rest next w u = walk m' address rest next w u) :
    walk m address (shift :: rest) table writable user =
      walk m' address (shift :: rest) table' writable user := by
  simp only [walk, read, later]

theorem tableIndex_eq (address : BitVec 64) (shift : Nat) :
    tableIndex address shift = address.toNat / 2 ^ shift % 512 := by
  unfold tableIndex
  rw [BitVec.toNat_and, BitVec.toNat_ushiftRight, Nat.shiftRight_eq_div_pow,
    show (0x1ff : BitVec 64).toNat = 2 ^ 9 - 1 from rfl, Nat.and_two_pow_sub_one_eq_mod]

theorem tableIndex_lt (address : BitVec 64) (shift : Nat) : tableIndex address shift < 512 := by
  rw [tableIndex_eq]
  exact Nat.mod_lt _ (by decide)

end PageWalk
