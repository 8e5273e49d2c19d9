import Mathlib.Algebra.Ring.Nat
import Mathlib.Data.List.Nodup
import Mathlib.Data.List.Perm.Basic
import Mathlib.Order.Lattice

/-!
# The physical frame allocator

`kernel/src/memory.rs`: one bump pointer per conventional region, a cursor that
only moves forward over the regions, and a stack of recycled frames.  The fixed
arrays of the source with their counts are lists here; the top of the recycle
stack is the head of its list.

`Allocator.Sound a live` relates an allocator to the frames handed out and not
yet given back.  Each operation keeps it.
-/

namespace SlopOS.Memory

open List

def PAGE_SIZE : Nat := 4096
def UEFI_CONVENTIONAL_MEMORY : Nat := 7
def MAX_REGIONS : Nat := 128
def RECYCLED_FRAME_CAPACITY : Nat := 256

structure Region where
  start : Nat
  next : Nat
  end_ : Nat
  deriving DecidableEq, Repr

structure Allocator where
  regions : List Region
  current : Nat
  recycled : List Nat
  deriving DecidableEq, Repr

/-! ## Operations -/

/-- The loop of `allocate_contiguous`; `fuel` counts the regions from the cursor on. -/
def allocateLoop (byteCount : Nat) : Nat → Allocator → Option Nat × Allocator
  | 0, a => (none, a)
  | fuel + 1, a =>
      match a.regions[a.current]? with
      | none => (none, a)
      | some region =>
          if region.next + byteCount < 2 ^ 64 ∧ region.next + byteCount ≤ region.end_ then
            (some region.next,
              { a with regions :=
                  a.regions.set a.current { region with next := region.next + byteCount } })
          else allocateLoop byteCount fuel { a with current := a.current + 1 }

def Allocator.allocateContiguous (a : Allocator) (pageCount : Nat) : Option Nat × Allocator :=
  -- `checked_mul` on a 64-bit byte count.
  if 2 ^ 64 ≤ pageCount * PAGE_SIZE then (none, a)
  else allocateLoop (pageCount * PAGE_SIZE) (a.regions.length - a.current) a

def Allocator.allocateFrame (a : Allocator) : Option Nat × Allocator :=
  match a.recycled with
  | frame :: rest => (some frame, { a with recycled := rest })
  | [] => a.allocateContiguous 1

def Allocator.deallocateFrame (a : Allocator) (frame : Nat) : Except Unit Allocator :=
  if frame % PAGE_SIZE ≠ 0 ∨
      ¬ (a.regions.any fun region => decide (region.start ≤ frame ∧ frame < region.next)) ∨
      a.recycled.contains frame ∨ a.recycled.length = RECYCLED_FRAME_CAPACITY then
    .error ()
  else .ok { a with recycled := frame :: a.recycled }

/-! ## Building the regions from the firmware map -/

structure Descriptor where
  memoryType : Nat
  physicalStart : Nat
  pageCount : Nat
  deriving DecidableEq, Repr

structure MemoryMapInfo where
  size : Nat
  descriptorSize : Nat
  /-- The descriptors in map order; entry `i` lies at byte offset `i * descriptorSize`. -/
  descriptors : List Descriptor
  deriving DecidableEq, Repr

/-- Least multiple of the page size that is not below `address`. -/
def pageCeil (address : Nat) : Nat := (address + (PAGE_SIZE - 1)) / PAGE_SIZE * PAGE_SIZE

variable (d : Descriptor)

def Descriptor.region : Region :=
  let start := pageCeil (max d.physicalStart 0x100000)
  let end_ := min (d.physicalStart + min (d.pageCount * PAGE_SIZE) (2 ^ 64 - 1)) (2 ^ 64 - 1)
  ⟨start, start, end_⟩

/-- The regions accepted from the descriptors `index, index + 1, ...`, after
`count` regions have been stored. -/
def regionsFrom (map : MemoryMapInfo) : Nat → Nat → List Descriptor → List Region
  | _, _, [] => []
  | index, count, d :: rest =>
      if map.size < index * map.descriptorSize + 40 ∨ count = MAX_REGIONS then []
      else if d.memoryType ≠ UEFI_CONVENTIONAL_MEMORY then regionsFrom map (index + 1) count rest
      else if d.region.end_ ≤ d.region.start then regionsFrom map (index + 1) count rest
      else d.region :: regionsFrom map (index + 1) (count + 1) rest

def initializeAllocator (map : MemoryMapInfo) : Allocator :=
  ⟨regionsFrom map 0 0 map.descriptors, 0, []⟩

/-! ## The invariant -/

structure Region.WellFormed (r : Region) : Prop where
  aboveLowMemory : 0x100000 ≤ r.start
  startAligned : r.start % PAGE_SIZE = 0
  nextAligned : r.next % PAGE_SIZE = 0
  started : r.start ≤ r.next
  bounded : r.next ≤ r.end_

def Region.Apart (r s : Region) : Prop := r.end_ ≤ s.start ∨ s.end_ ≤ r.start

/-- `frame` has been handed out by a bump pointer at some time. -/
def Allocator.Issued (a : Allocator) (frame : Nat) : Prop :=
  frame % PAGE_SIZE = 0 ∧ ∃ r ∈ a.regions, r.start ≤ frame ∧ frame < r.next

/-- `live` lists the frames handed out and not given back. -/
structure Allocator.Sound (a : Allocator) (live : List Nat) : Prop where
  regions : ∀ r ∈ a.regions, r.WellFormed
  apart : ∀ (i j : Nat) (r s : Region), i ≠ j → a.regions[i]? = some r →
    a.regions[j]? = some s → r.Apart s
  issued : ∀ frame ∈ a.recycled ++ live, a.Issued frame
  distinct : (a.recycled ++ live).Nodup

/-- The pages of an allocation of `count` pages at `start`. -/
def framesFrom (start count : Nat) : List Nat :=
  (List.range count).map fun index => start + index * PAGE_SIZE

variable {count frame i : Nat}

theorem mem_framesFrom {start : Nat} :
    frame ∈ framesFrom start count ↔ ∃ index < count, frame = start + index * PAGE_SIZE := by
  simp only [framesFrom, mem_map, mem_range, eq_comm]

theorem framesFrom_nodup (start count : Nat) : (framesFrom start count).Nodup := by
  refine nodup_range.map ?_
  intro i j same
  simp only [PAGE_SIZE] at same
  omega

/-! ## Bump allocation -/

variable {a : Allocator} {live : List Nat}

theorem Allocator.Sound.moveCursor (sound : a.Sound live) (current : Nat) :
    ({ a with current } : Allocator).Sound live :=
  ⟨sound.regions, sound.apart, sound.issued, sound.distinct⟩

/-- The region after the bump pointer has moved over `count` pages. -/
def Region.bump (r : Region) (count : Nat) : Region :=
  { r with next := r.next + count * PAGE_SIZE }

variable {r s : Region}

theorem Region.WellFormed.bump (wf : r.WellFormed) (fits : r.next + count * PAGE_SIZE ≤ r.end_) :
    (r.bump count).WellFormed where
  aboveLowMemory := wf.aboveLowMemory
  startAligned := wf.startAligned
  nextAligned := by
    have aligned := wf.nextAligned
    simp only [Region.bump, PAGE_SIZE] at aligned ⊢
    omega
  started := by
    have started := wf.started
    simp only [Region.bump]
    omega
  bounded := fits

/-- One pointer moves, the others move by nothing. -/
theorem Allocator.getElem?_set_bump (here : a.regions[i]? = some r) (j : Nat) :
    (a.regions.set i (r.bump count))[j]? =
      a.regions[j]?.map (·.bump (if i = j then count else 0)) := by
  by_cases same : i = j
  · subst same
    rw [getElem?_set_self (List.getElem?_eq_some_iff.mp here).1, here, if_pos rfl]
    rfl
  · rw [getElem?_set_ne same, if_neg same]
    simp [Region.bump]

theorem Allocator.Issued.bump (here : a.regions[i]? = some r) (issued : a.Issued frame) :
    ({ a with regions := a.regions.set i (r.bump count) } : Allocator).Issued frame := by
  obtain ⟨aligned, s, member, above, below⟩ := issued
  obtain ⟨j, there⟩ := mem_iff_getElem?.mp member
  have moved : (a.regions.set i (r.bump count))[j]? = _ := getElem?_set_bump here j
  rw [there] at moved
  exact ⟨aligned, _, mem_of_getElem? moved, above, lt_of_lt_of_le below (Nat.le_add_right _ _)⟩

/-- Moving a bump pointer hands out frames that were never issued before. -/
theorem Allocator.Sound.bump (sound : a.Sound live) (here : a.regions[i]? = some r)
    (fits : r.next + count * PAGE_SIZE ≤ r.end_) :
    ({ a with regions := a.regions.set i (r.bump count) } : Allocator).Sound
      (framesFrom r.next count ++ live) := by
  have member : r ∈ a.regions := mem_of_getElem? here
  have wf := sound.regions r member
  have inside : i < a.regions.length := (List.getElem?_eq_some_iff.mp here).1
  have fresh : ∀ frame ∈ framesFrom r.next count, ¬ a.Issued frame := by
    intro frame new issued
    obtain ⟨index, within, rfl⟩ := mem_framesFrom.mp new
    obtain ⟨-, s, memberS, above, below⟩ := issued
    obtain ⟨j, insideS, rfl⟩ := mem_iff_getElem.mp memberS
    have wfS := sound.regions _ memberS
    have started := wf.started
    have boundedS := wfS.bounded
    simp only [PAGE_SIZE] at fits above below
    by_cases same : i = j
    · subst same
      have region : a.regions[i] = r :=
        Option.some.inj ((getElem?_eq_getElem insideS).symm.trans here)
      rw [region] at below
      omega
    · -- Another region's issued frames lie in its own range, apart from this one.
      rcases sound.apart i j r _ same here (getElem?_eq_getElem insideS) with first | second
      · omega
      · omega
  refine ⟨?_, ?_, ?_, ?_⟩
  · intro s memberS
    rcases mem_or_eq_of_mem_set memberS with old | rfl
    · exact sound.regions s old
    · exact wf.bump fits
  · intro j k s t different hs ht
    rw [getElem?_set_bump here, Option.map_eq_some_iff] at hs ht
    obtain ⟨s₀, atS, rfl⟩ := hs
    obtain ⟨t₀, atT, rfl⟩ := ht
    exact sound.apart j k s₀ t₀ different atS atT
  · intro frame memberF
    rcases mem_append.mp memberF with old | memberF
    · exact (sound.issued frame (mem_append_left _ old)).bump here
    rcases mem_append.mp memberF with new | old
    · obtain ⟨index, within, rfl⟩ := mem_framesFrom.mp new
      have aligned := wf.nextAligned
      have started := wf.started
      refine ⟨?_, r.bump count, mem_set inside _, ?_, ?_⟩
      · simp only [PAGE_SIZE] at aligned ⊢
        omega
      · simp only [Region.bump]
        omega
      · simp only [Region.bump, PAGE_SIZE]
        omega
    · exact (sound.issued frame (mem_append_right _ old)).bump here
  · have reordered : (a.recycled ++ (framesFrom r.next count ++ live)).Perm
        (framesFrom r.next count ++ (a.recycled ++ live)) := by
      rw [← append_assoc, ← append_assoc]
      exact perm_append_comm.append_right live
    rw [reordered.nodup_iff]
    refine nodup_append.mpr ⟨framesFrom_nodup _ _, sound.distinct, ?_⟩
    intro frame new other old same
    subst same
    exact fresh frame new (sound.issued frame old)

variable {a' : Allocator}

/-- Every region of `a'` spans a region of `a`; only the bump pointers may differ. -/
def Allocator.SameBounds (a a' : Allocator) : Prop :=
  ∀ r ∈ a'.regions, ∃ old ∈ a.regions, r.start = old.start ∧ r.end_ = old.end_

theorem Allocator.SameBounds.refl (a : Allocator) : a.SameBounds a :=
  fun r member => ⟨r, member, rfl, rfl⟩

theorem Allocator.SameBounds.trans {b c : Allocator} (first : a.SameBounds b)
    (second : b.SameBounds c) : a.SameBounds c := by
  intro r member
  obtain ⟨middle, memberMiddle, startMiddle, endMiddle⟩ := second r member
  obtain ⟨old, memberOld, startOld, endOld⟩ := first middle memberMiddle
  exact ⟨old, memberOld, startMiddle.trans startOld, endMiddle.trans endOld⟩

/-- The frames that an allocation of `count` pages adds to the live ones. -/
def issuedBy (result : Option Nat) (count : Nat) : List Nat :=
  match result with
  | some start => framesFrom start count
  | none => []

/-- What `allocateLoop` hands out. -/
theorem allocateLoop_sound {fuel : Nat} {result : Option Nat} (sound : a.Sound live)
    (allocated : allocateLoop (count * PAGE_SIZE) fuel a = (result, a')) :
    a'.Sound (issuedBy result count ++ live) ∧ a.SameBounds a' := by
  induction fuel generalizing a with
  | zero =>
    cases allocated
    exact ⟨sound, .refl _⟩
  | succ fuel ih =>
    unfold allocateLoop at allocated
    split at allocated
    · cases allocated
      exact ⟨sound, .refl _⟩
    next region here =>
    split at allocated
    · next fits =>
      cases allocated
      refine ⟨sound.bump here fits.2, fun r member => ?_⟩
      rcases mem_or_eq_of_mem_set member with old | rfl
      · exact ⟨r, old, rfl, rfl⟩
      · exact ⟨region, mem_of_getElem? here, rfl, rfl⟩
    · have later := ih (sound.moveCursor _) allocated
      exact later

theorem Allocator.Sound.allocateContiguous {pageCount : Nat} {result : Option Nat}
    (sound : a.Sound live) (allocated : a.allocateContiguous pageCount = (result, a')) :
    a'.Sound (issuedBy result pageCount ++ live) ∧ a.SameBounds a' := by
  unfold Allocator.allocateContiguous at allocated
  split at allocated
  · cases allocated
    exact ⟨sound, .refl a⟩
  · exact allocateLoop_sound sound allocated

/-! ## Single frames -/

/-- Frames move between the recycled and the live ones. -/
theorem Allocator.Sound.move {recycled live' : List Nat} (sound : a.Sound live)
    (moved : (recycled ++ live').Perm (a.recycled ++ live)) :
    ({ a with recycled } : Allocator).Sound live' :=
  ⟨sound.regions, sound.apart, fun f member => sound.issued f (moved.mem_iff.mp member),
    moved.nodup_iff.mpr sound.distinct⟩

theorem Allocator.Sound.allocateFrame {result : Option Nat} (sound : a.Sound live)
    (allocated : a.allocateFrame = (result, a')) :
    a'.Sound (result.toList ++ live) ∧ a.SameBounds a' := by
  unfold Allocator.allocateFrame at allocated
  split at allocated
  · next frame rest recycled =>
    cases allocated
    refine ⟨sound.move ?_, .refl a⟩
    rw [recycled]
    exact perm_middle
  · have bumped := sound.allocateContiguous allocated
    cases result with
    | none => exact bumped
    | some start =>
      exact bumped

theorem Allocator.Sound.deallocateFrame (sound : a.Sound (frame :: live))
    (freed : a.deallocateFrame frame = .ok a') : a'.Sound live ∧ a.SameBounds a' := by
  unfold Allocator.deallocateFrame at freed
  split at freed
  · cases freed
  cases freed
  exact ⟨sound.move perm_middle.symm, .refl a⟩

theorem Allocator.Sound.perm {live' : List Nat} (sound : a.Sound live) (same : live.Perm live') :
    a.Sound live' :=
  sound.move (same.symm.append_left _)

theorem Allocator.Sound.nodup (sound : a.Sound live) : live.Nodup :=
  (nodup_append.mp sound.distinct).2.1

/-! ## The physical address range -/

/-- Every region ends at or below `limit`. -/
def Allocator.Within (a : Allocator) (limit : Nat) : Prop := ∀ r ∈ a.regions, r.end_ ≤ limit

variable {limit : Nat}

theorem Allocator.Within.of_sameBounds (within : a.Within limit) (same : a.SameBounds a') :
    a'.Within limit := by
  intro r member
  obtain ⟨old, memberOld, -, sameEnd⟩ := same r member
  rw [sameEnd]
  exact within old memberOld

theorem Allocator.Sound.live_lt (sound : a.Sound live) (within : a.Within limit)
    (member : frame ∈ live) : frame < limit ∧ frame % PAGE_SIZE = 0 ∧ 0x100000 ≤ frame := by
  obtain ⟨aligned, r, memberR, above, below⟩ := sound.issued frame (mem_append_right _ member)
  have wf := sound.regions r memberR
  have low := wf.aboveLowMemory
  have bounded := wf.bounded
  have limited := within r memberR
  exact ⟨by omega, aligned, by omega⟩

/-! ## The initial allocator -/

def Descriptor.Conventional : Prop := d.memoryType = UEFI_CONVENTIONAL_MEMORY

/-- Conventional regions are page aligned, end at or below `limit`, and are
pairwise disjoint. -/
structure MemoryMapInfo.Sane (map : MemoryMapInfo) (limit : Nat) : Prop where
  aligned : ∀ d ∈ map.descriptors, d.Conventional → d.physicalStart % PAGE_SIZE = 0
  bounded : ∀ d ∈ map.descriptors, d.Conventional →
    d.physicalStart + d.pageCount * PAGE_SIZE ≤ limit
  disjoint : map.descriptors.Pairwise fun d e => d.Conventional → e.Conventional →
    d.physicalStart + d.pageCount * PAGE_SIZE ≤ e.physicalStart ∨
      e.physicalStart + e.pageCount * PAGE_SIZE ≤ d.physicalStart

variable {map : MemoryMapInfo} {ds : List Descriptor}

theorem mem_regionsFrom {index : Nat} (member : r ∈ regionsFrom map index count ds) :
    ∃ d ∈ ds, d.Conventional ∧ r = d.region ∧ d.region.start < d.region.end_ := by
  induction ds generalizing index count with
  | nil => cases member
  | cons d rest ih =>
    rw [exists_mem_cons_iff]
    unfold regionsFrom at member
    split at member
    · cases member
    split at member
    · exact .inr (ih member)
    next conventional =>
    split at member
    · exact .inr (ih member)
    next nonempty =>
    rcases mem_cons.mp member with rfl | member
    · exact .inl ⟨not_not.mp conventional, rfl, by omega⟩
    · exact .inr (ih member)

theorem pageCeil_aligned (address : Nat) : pageCeil address % PAGE_SIZE = 0 := by
  exact Nat.mul_mod_left _ _

theorem le_pageCeil (address : Nat) : address ≤ pageCeil address := by
  unfold pageCeil PAGE_SIZE
  omega

theorem Descriptor.region_end_le : d.region.end_ ≤ d.physicalStart + d.pageCount * PAGE_SIZE := by
  unfold region
  dsimp only
  omega

theorem Descriptor.physicalStart_le_region_start : d.physicalStart ≤ d.region.start :=
  le_trans (le_max_left _ _) (le_pageCeil _)

theorem Descriptor.region_wellFormed (nonempty : d.region.start < d.region.end_) :
    d.region.WellFormed where
  aboveLowMemory := le_trans (le_max_right _ _) (le_pageCeil _)
  startAligned := pageCeil_aligned _
  nextAligned := pageCeil_aligned _
  started := le_rfl
  bounded := le_of_lt nonempty

theorem Region.Apart.symm (apart : r.Apart s) : s.Apart r := Or.symm apart

theorem regionsFrom_apart (map : MemoryMapInfo) (index count : Nat)
    (disjoint : ds.Pairwise fun d e => d.Conventional → e.Conventional →
      d.physicalStart + d.pageCount * PAGE_SIZE ≤ e.physicalStart ∨
        e.physicalStart + e.pageCount * PAGE_SIZE ≤ d.physicalStart) :
    (regionsFrom map index count ds).Pairwise Region.Apart := by
  induction ds generalizing index count with
  | nil => exact Pairwise.nil
  | cons d rest ih =>
    obtain ⟨head, tail⟩ := pairwise_cons.mp disjoint
    unfold regionsFrom
    split
    · exact Pairwise.nil
    split
    · exact ih _ _ tail
    next conventional =>
    split
    · exact ih _ _ tail
    refine pairwise_cons.mpr ⟨?_, ih _ _ tail⟩
    intro r member
    obtain ⟨e, inRest, conventionalE, rfl, -⟩ := mem_regionsFrom member
    have endD := d.region_end_le
    have endE := e.region_end_le
    have startD := d.physicalStart_le_region_start
    have startE := e.physicalStart_le_region_start
    rcases head e inRest (not_not.mp conventional) conventionalE with before | after
    · exact .inl (by omega)
    · exact .inr (by omega)

/-- Nothing is live in a freshly initialised allocator. -/
theorem initializeAllocator_sound (sane : map.Sane limit) :
    (initializeAllocator map).Sound [] ∧ (initializeAllocator map).Within limit := by
  refine ⟨⟨?_, ?_, ?_, nodup_nil⟩, ?_⟩
  · intro r member
    obtain ⟨d, -, -, rfl, nonempty⟩ := mem_regionsFrom member
    exact d.region_wellFormed nonempty
  · intro i j r s different hr hs
    have pairwise := pairwise_iff_getElem.mp
      (regionsFrom_apart map 0 0 sane.disjoint)
    obtain ⟨insideR, rfl⟩ := List.getElem?_eq_some_iff.mp hr
    obtain ⟨insideS, rfl⟩ := List.getElem?_eq_some_iff.mp hs
    rcases lt_or_gt_of_ne different with before | after
    · exact pairwise i j insideR insideS before
    · exact (pairwise j i insideS insideR after).symm
  · intro frame member
    cases member
  · intro r member
    obtain ⟨d, inMap, conventional, rfl, -⟩ := mem_regionsFrom member
    exact le_trans d.region_end_le (sane.bounded d inMap conventional)

/-! ## Whole histories -/

/-- The allocators that a history of calls can produce from a firmware map, with
the frames live at that point.  A frame is only freed while it is live. -/
inductive AllocatorRun (map : MemoryMapInfo) : Allocator → List Nat → Prop
  | initial : AllocatorRun map (initializeAllocator map) []
  | frame {a a' : Allocator} {live : List Nat} {result : Option Nat} :
      AllocatorRun map a live → a.allocateFrame = (result, a') →
      AllocatorRun map a' (result.toList ++ live)
  | contiguous {a a' : Allocator} {live : List Nat} {pageCount : Nat} {result : Option Nat} :
      AllocatorRun map a live → a.allocateContiguous pageCount = (result, a') →
      AllocatorRun map a' (issuedBy result pageCount ++ live)
  | free {a a' : Allocator} {live : List Nat} {frame : Nat} :
      AllocatorRun map a live → frame ∈ live → a.deallocateFrame frame = .ok a' →
      AllocatorRun map a' (live.erase frame)

theorem AllocatorRun.sound (sane : map.Sane limit) (run : AllocatorRun map a live) :
    a.Sound live ∧ a.Within limit := by
  induction run with
  | initial => exact initializeAllocator_sound sane
  | frame _ allocated ih =>
    exact (ih.1.allocateFrame allocated).imp_right ih.2.of_sameBounds
  | contiguous _ allocated ih =>
    exact (ih.1.allocateContiguous allocated).imp_right ih.2.of_sameBounds
  | free _ member freed ih =>
    exact ((ih.1.perm (perm_cons_erase member)).deallocateFrame freed).imp_right
      ih.2.of_sameBounds

end SlopOS.Memory
