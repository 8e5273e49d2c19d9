import SlopOS.Memory.Allocator

/-!
# Live allocations as page ranges

The allocator keeps no record of what it handed out.  Here a history of calls
carries that record beside it: an allocation adds the range it returned, and a
freed frame is cut out of the range that holds it, since a contiguous run is
given back page by page.  `Allocator.Sound` over the frames of the ranges is kept
by every call, and the shape of the ranges is read off it.
-/

namespace SlopOS.Memory

open List

/-! ## Ranges -/

/-- `count` pages from `start` on. -/
structure PageRange where
  start : Nat
  count : Nat
  deriving DecidableEq, Repr

def PageRange.frames (range : PageRange) : List Nat := framesFrom range.start range.count

/-- `address` is a byte of the range. -/
def PageRange.Contains (range : PageRange) (address : Nat) : Prop :=
  range.start ≤ address ∧ address < range.start + range.count * PAGE_SIZE

/-- No byte lies in both ranges. -/
def PageRange.Disjoint (range other : PageRange) : Prop :=
  ∀ address, ¬ (range.Contains address ∧ other.Contains address)

/-- What is left of a range without the page at `frame`. -/
def PageRange.without (frame : Nat) (range : PageRange) : List PageRange :=
  if frame ∈ range.frames then
    let before := (frame - range.start) / PAGE_SIZE
    [⟨range.start, before⟩, ⟨frame + PAGE_SIZE, range.count - before - 1⟩]
  else [range]

theorem framesFrom_append (start first second : Nat) : framesFrom start (first + second) =
      framesFrom start first ++ framesFrom (start + first * PAGE_SIZE) second := by
  unfold framesFrom
  rw [range_add, map_append, map_map]
  congr 1
  refine map_congr_left fun index _ => ?_
  simp only [Function.comp_apply, Nat.add_mul, Nat.add_assoc]

variable {range : PageRange} {frame : Nat}

/-- Cutting a page out of a range takes exactly that page away. -/
theorem PageRange.frames_without (member : frame ∈ range.frames) :
    range.frames.Perm (frame :: (range.without frame).flatMap frames) := by
  obtain ⟨index, within, rfl⟩ := mem_framesFrom.mp member
  have before : (range.start + index * PAGE_SIZE - range.start) / PAGE_SIZE = index := by
    rw [Nat.add_sub_cancel_left, Nat.mul_div_cancel _ (by decide)]
  have split : range.count = index + (1 + (range.count - index - 1)) := by omega
  rw [without, if_pos member]
  rw [before, flatMap_cons, flatMap_singleton]
  have pages : range.frames = framesFrom range.start index ++
      (range.start + index * PAGE_SIZE) ::
        framesFrom (range.start + index * PAGE_SIZE + PAGE_SIZE) (range.count - index - 1) := by
    rw [frames, split, framesFrom_append, framesFrom_append, ← split]
    rfl
  rw [pages]
  exact perm_middle

theorem PageRange.without_of_notMem (absent : frame ∉ range.frames) :
    range.without frame = [range] :=
  if_neg absent

/-! ## The ledger -/

/-- The allocator with the ranges that are allocated. -/
structure Ledger where
  allocator : Allocator
  live : List PageRange
  deriving DecidableEq, Repr

def Ledger.frames (ledger : Ledger) : List Nat := ledger.live.flatMap PageRange.frames

inductive AllocatorCall where
  | allocateFrame
  | allocateContiguous (pageCount : Nat)
  | deallocateFrame (frame : Nat)
  deriving DecidableEq, Repr

/-- The range that an allocation of `count` pages returned, if it returned one. -/
def returnedRange (result : Option Nat) (count : Nat) : List PageRange :=
  match result with
  | some start => [⟨start, count⟩]
  | none => []

def Ledger.step (ledger : Ledger) : AllocatorCall → Ledger
  | .allocateFrame =>
      let (result, allocator) := ledger.allocator.allocateFrame
      ⟨allocator, returnedRange result 1 ++ ledger.live⟩
  | .allocateContiguous pageCount =>
      let (result, allocator) := ledger.allocator.allocateContiguous pageCount
      ⟨allocator, returnedRange result pageCount ++ ledger.live⟩
  | .deallocateFrame frame =>
      match ledger.allocator.deallocateFrame frame with
      | .ok allocator => ⟨allocator, ledger.live.flatMap (PageRange.without frame)⟩
      -- A refused frame stays with its owner.
      | .error () => ledger

def Ledger.initial (map : MemoryMapInfo) : Ledger := ⟨initializeAllocator map, []⟩

def Ledger.run : Ledger → List AllocatorCall → Ledger
  | ledger, [] => ledger
  | ledger, call :: rest => (ledger.step call).run rest

/-- Only an allocated frame is given back. -/
def Ledger.Permits (ledger : Ledger) : AllocatorCall → Prop
  | .deallocateFrame frame => frame ∈ ledger.frames
  | _ => True

/-- Every call of the history is permitted where it is made. -/
def Ledger.PermitsAll : Ledger → List AllocatorCall → Prop
  | _, [] => True
  | ledger, call :: rest => ledger.Permits call ∧ (ledger.step call).PermitsAll rest

/-! ## One call -/

theorem frames_returnedRange (result : Option Nat) (count : Nat) :
    (returnedRange result count).flatMap PageRange.frames = issuedBy result count := by
  cases result with
  | none => rfl
  | some start => exact flatMap_singleton _ _

/-- A frame that is live once leaves the record without a trace. -/
theorem perm_without {live : List PageRange} (distinct : (live.flatMap PageRange.frames).Nodup)
    (member : frame ∈ live.flatMap PageRange.frames) : (live.flatMap PageRange.frames).Perm
      (frame :: (live.flatMap (PageRange.without frame)).flatMap PageRange.frames) := by
  induction live with
  | nil => cases member
  | cons range rest ih =>
    obtain ⟨-, restDistinct, apart⟩ := nodup_append.mp distinct
    rw [flatMap_cons, flatMap_cons, flatMap_append]
    by_cases here : frame ∈ range.frames
    · -- The page lies in this range, so no later range is touched.
      have untouched : rest.flatMap (PageRange.without frame) = rest := by
        have same : ∀ other ∈ rest, PageRange.without frame other = [other] := by
          intro other memberOther
          refine PageRange.without_of_notMem fun inOther => ?_
          exact apart frame here frame (mem_flatMap.mpr ⟨other, memberOther, inOther⟩) rfl
        rw [flatMap_congr same, flatMap_singleton']
      rw [untouched]
      exact (PageRange.frames_without here).append_right _
    · rw [PageRange.without_of_notMem here, flatMap_singleton]
      have later := ih restDistinct ((mem_append.mp member).resolve_left here)
      exact (later.append_left _).trans perm_middle

/-- The allocator is sound for the recorded ranges, and its regions are those of
the firmware map. -/
structure Ledger.Kept (map : MemoryMapInfo) (ledger : Ledger) : Prop where
  sound : ledger.allocator.Sound ledger.frames
  bounds : (initializeAllocator map).SameBounds ledger.allocator

variable {map : MemoryMapInfo} {ledger : Ledger}

theorem Ledger.Kept.step (kept : ledger.Kept map) {call : AllocatorCall}
    (permitted : ledger.Permits call) : (ledger.step call).Kept map := by
  cases call with
  | allocateFrame =>
    cases outcome : ledger.allocator.allocateFrame with
    | mk result allocator =>
      obtain ⟨sound, bounds⟩ := kept.sound.allocateFrame outcome
      simp only [Ledger.step, outcome]
      refine ⟨?_, kept.bounds.trans bounds⟩
      cases result with
      | none => exact sound
      | some start =>
        exact sound
  | allocateContiguous pageCount =>
    obtain ⟨sound, bounds⟩ := kept.sound.allocateContiguous rfl
    refine ⟨?_, kept.bounds.trans bounds⟩
    simp only [Ledger.step, frames, flatMap_append, frames_returnedRange]
    exact sound
  | deallocateFrame frame =>
    simp only [Ledger.step]
    cases freed : ledger.allocator.deallocateFrame frame with
    | error _ => exact kept
    | ok allocator =>
      have moved := perm_without kept.sound.nodup permitted
      obtain ⟨sound, bounds⟩ := (kept.sound.perm moved).deallocateFrame freed
      exact ⟨sound, kept.bounds.trans bounds⟩

/-! ## Whole histories -/

/-- The conventional descriptors of the map are page aligned and pairwise disjoint. -/
structure MemoryMapInfo.Disjoint (map : MemoryMapInfo) : Prop where
  aligned : ∀ d ∈ map.descriptors, d.Conventional → d.physicalStart % PAGE_SIZE = 0
  disjoint : map.descriptors.Pairwise fun d e => d.Conventional → e.Conventional →
    d.physicalStart + d.pageCount * PAGE_SIZE ≤ e.physicalStart ∨
      e.physicalStart + e.pageCount * PAGE_SIZE ≤ d.physicalStart

/-- A finite map ends somewhere. -/
theorem MemoryMapInfo.Disjoint.exists_sane (disjoint : map.Disjoint) : ∃ limit, map.Sane limit := by
  have bounded : ∃ limit, ∀ d ∈ map.descriptors,
      d.physicalStart + d.pageCount * PAGE_SIZE ≤ limit := by
    generalize map.descriptors = descriptors
    induction descriptors with
    | nil => exact ⟨0, fun d member => nomatch member⟩
    | cons d rest ih =>
      obtain ⟨limit, below⟩ := ih
      refine ⟨max limit (d.physicalStart + d.pageCount * PAGE_SIZE), fun e member => ?_⟩
      rcases mem_cons.mp member with rfl | inRest
      · exact le_max_right _ _
      · exact le_trans (below e inRest) (le_max_left _ _)
  obtain ⟨limit, below⟩ := bounded
  exact ⟨limit, disjoint.aligned, fun d member _ => below d member, disjoint.disjoint⟩

theorem Ledger.initial_kept (disjoint : map.Disjoint) : (initial map).Kept map := by
  obtain ⟨limit, sane⟩ := disjoint.exists_sane
  exact ⟨(initializeAllocator_sound sane).1, .refl _⟩

theorem Ledger.Kept.run (kept : ledger.Kept map) {calls : List AllocatorCall}
    (permitted : ledger.PermitsAll calls) : (ledger.run calls).Kept map := by
  induction calls generalizing ledger with
  | nil => exact kept
  | cons call rest ih => exact ih (kept.step permitted.1) permitted.2

/-! ## What the record says -/

/-- `address` lies in a conventional descriptor of the map. -/
def MemoryMapInfo.Covers (map : MemoryMapInfo) (address : Nat) : Prop :=
  ∃ d ∈ map.descriptors, d.Conventional ∧ d.physicalStart ≤ address ∧
    address < d.physicalStart + d.pageCount * PAGE_SIZE

/-- Safety of an allocator with its live allocations. -/
structure Ledger.Safe (map : MemoryMapInfo) (ledger : Ledger) : Prop where
  disjoint : ledger.live.Pairwise PageRange.Disjoint
  aligned : ∀ range ∈ ledger.live, 0 < range.count → range.start % PAGE_SIZE = 0
  inside : ∀ range ∈ ledger.live, ∀ address, range.Contains address →
    map.Covers address ∧ 0x100000 ≤ address
  apart : ∀ frame ∈ ledger.allocator.recycled, ∀ range ∈ ledger.live, ¬ range.Contains frame
  once : ledger.allocator.recycled.Nodup

variable {address : Nat}

/-- The page of a byte of an aligned range is one of the range's frames. -/
theorem PageRange.Contains.page_mem (contains : range.Contains address)
    (aligned : range.start % PAGE_SIZE = 0) : address / PAGE_SIZE * PAGE_SIZE ∈ range.frames := by
  obtain ⟨above, below⟩ := contains
  refine mem_framesFrom.mpr ⟨(address - range.start) / PAGE_SIZE, ?_, ?_⟩
  · simp only [PAGE_SIZE] at above below ⊢
    omega
  · simp only [PAGE_SIZE] at above aligned ⊢
    omega

theorem PageRange.start_mem (nonempty : 0 < range.count) : range.start ∈ range.frames :=
  mem_framesFrom.mpr ⟨0, nonempty, by rw [Nat.zero_mul, Nat.add_zero]⟩

namespace Ledger.Kept

variable (kept : ledger.Kept map)
include kept

theorem aligned (member : range ∈ ledger.live) (nonempty : 0 < range.count) :
    range.start % PAGE_SIZE = 0 := by
  have live : range.start ∈ ledger.frames :=
    mem_flatMap.mpr ⟨range, member, PageRange.start_mem nonempty⟩
  exact (kept.sound.issued _ (mem_append_right _ live)).1

/-- The page that holds a byte of a live range is a live frame. -/
theorem page_live (member : range ∈ ledger.live) (contains : range.Contains address) :
    address / PAGE_SIZE * PAGE_SIZE ∈ range.frames := by
  have nonempty : 0 < range.count := by
    rcases Nat.eq_zero_or_pos range.count with empty | positive
    · have below := contains.2
      rw [empty] at below
      exact absurd contains.1 (Nat.not_le_of_lt below)
    · exact positive
  exact contains.page_mem (kept.aligned member nonempty)

theorem disjoint : ledger.live.Pairwise PageRange.Disjoint := by
  have pages := (nodup_flatMap.mp kept.sound.nodup).2
  refine (Pairwise.imp_mem).mpr ?_
  refine ((Pairwise.imp_mem).mp pages).imp ?_
  intro range other separate inRange inOther address both
  exact separate inRange inOther (kept.page_live inRange both.1) (kept.page_live inOther both.2)

/-- Every byte of a page below a bump pointer lies in a conventional descriptor. -/
theorem covers (issued : ledger.allocator.Issued frame) (above : frame ≤ address)
    (below : address < frame + PAGE_SIZE) : map.Covers address ∧ 0x100000 ≤ address := by
  obtain ⟨alignedFrame, r, memberR, startBelow, nextAbove⟩ := issued
  have wf := kept.sound.regions r memberR
  obtain ⟨old, memberOld, sameStart, sameEnd⟩ := kept.bounds r memberR
  obtain ⟨d, inMap, conventional, rfl, -⟩ := mem_regionsFrom memberOld
  have low := wf.aboveLowMemory
  have bounded := wf.bounded
  have startD := d.physicalStart_le_region_start
  have endD := d.region_end_le
  have lastPage : frame + PAGE_SIZE ≤ r.next := by
    have nextAligned := wf.nextAligned
    simp only [PAGE_SIZE] at nextAligned alignedFrame ⊢
    omega
  exact ⟨⟨d, inMap, conventional, by omega, by omega⟩, by omega⟩

theorem safe : ledger.Safe map := by
  have distinct := nodup_append.mp kept.sound.distinct
  refine ⟨kept.disjoint, fun range member => kept.aligned member, ?_, ?_, distinct.1⟩
  · intro range member address contains
    have page := mem_flatMap.mpr ⟨range, member, kept.page_live member contains⟩
    refine kept.covers (kept.sound.issued _ (mem_append_right _ page)) ?_ ?_
    · exact Nat.div_mul_le_self _ _
    · simp only [PAGE_SIZE]
      omega
  · intro frame recycled range member contains
    have aligned := (kept.sound.issued frame (mem_append_left _ recycled)).1
    have page := kept.page_live member contains
    rw [Nat.div_mul_cancel (Nat.dvd_of_mod_eq_zero aligned)] at page
    exact distinct.2.2 frame recycled frame (mem_flatMap.mpr ⟨range, member, page⟩) rfl

end Ledger.Kept

/-- For every firmware map with aligned and disjoint conventional regions, and
every history of calls that gives back only allocated frames, the live
allocations are disjoint aligned ranges inside the conventional regions at or
above 1 MiB, no recycled frame is live, and each recycled frame is listed once. -/
theorem frame_allocator_safe (map : MemoryMapInfo) (disjoint : map.Disjoint)
    (calls : List AllocatorCall) (permitted : (Ledger.initial map).PermitsAll calls) :
    ((Ledger.initial map).run calls).Safe map :=
  ((Ledger.initial_kept disjoint).run permitted).safe

/-- Two pages at 1 MiB: a run of two is allocated, its second page given back and
handed out again. -/
theorem frame_allocator_safe_two_pages :
    ((Ledger.initial ⟨40, 40, [⟨UEFI_CONVENTIONAL_MEMORY, 0x100000, 2⟩]⟩).run
      [.allocateContiguous 2, .deallocateFrame 0x101000, .allocateFrame]).Safe
        ⟨40, 40, [⟨UEFI_CONVENTIONAL_MEMORY, 0x100000, 2⟩]⟩ := by
  refine frame_allocator_safe _ ⟨?_, ?_⟩ _ ⟨trivial, ?_, trivial, trivial⟩
  · intro d member _
    rw [mem_singleton.mp member]
    rfl
  · exact pairwise_singleton _ _
  · exact mem_flatMap.mpr ⟨⟨0x100000, 2⟩, mem_singleton_self _, by decide⟩

end SlopOS.Memory
