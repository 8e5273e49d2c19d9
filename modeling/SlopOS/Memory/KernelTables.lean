import SlopOS.Memory.Paging

/-!
# The kernel's own tables

Every table that `install` links has one of three shapes: the root points to
low tables, these point to directories, and a directory holds only large pages
without the user bit.  `KernelTables` states the shape together with the
ownership of the frames; `install_kernelTables` shows that `install` builds it.
-/

namespace SlopOS.Memory

open PageWalk List

/-- Flags of an entry that links two kernel tables. -/
def kernelLink : BitVec 64 := PRESENT ||| WRITABLE

/-- Flags of an entry on the path to user pages, and of a writable user page. -/
def userLink : BitVec 64 := PRESENT ||| WRITABLE ||| USER_ACCESSIBLE

/-! ## Memory updates -/

section Updates

variable {memory : PageWalk.Memory} {table index frame slot : Nat} {value : BitVec 64}

@[simp] theorem setEntry_same : setEntry memory table index value table index = value := by
  simp [setEntry]

theorem setEntry_other (other : frame ≠ table ∨ slot ≠ index) :
    setEntry memory table index value frame slot = memory frame slot := by
  unfold setEntry
  rw [if_neg]
  intro same
  rcases other with frame | slot
  · exact frame same.1
  · exact slot same.2

theorem setEntry_frame (other : frame ≠ table) :
    setEntry memory table index value frame = memory frame :=
  funext fun _ => setEntry_other (.inl other)

@[simp] theorem zeroFrame_same : zeroFrame memory frame frame slot = 0#64 := by
  simp [zeroFrame]

theorem zeroFrame_frame {target : Nat} (other : frame ≠ target) :
    zeroFrame memory target frame = memory frame := by
  funext slot
  simp [zeroFrame, other]

end Updates

variable {frame parent child : Nat} {e : BitVec 64}

/-- The kernel's mask recovers the table of an entry it wrote. -/
theorem tableAddress_entry {flags : BitVec 64} (isFrame : IsFrame frame) (isFlags : IsFlags flags) :
    tableAddress (entry frame flags) = frame := by
  have dropped : flags &&& ~~~0xfff#64 = 0#64 := by
    rw [← isFlags, BitVec.and_assoc, show 0xfff#64 &&& ~~~0xfff#64 = 0#64 by decide,
      BitVec.and_zero]
  have kept : BitVec.ofNat 64 frame &&& ~~~0xfff#64 = BitVec.ofNat 64 frame := by
    rw [← isFrame.field, BitVec.and_assoc,
      show addressField &&& ~~~0xfff#64 = addressField by decide]
  unfold tableAddress entry
  rw [BitVec.and_or_distrib_right, kept, dropped, BitVec.or_zero]
  exact Nat.mod_eq_of_lt (by have := isFrame.2; omega)

theorem and_PRESENT_eq_zero_iff : e &&& PRESENT = 0 ↔ ¬ Present e := by
  exact not_not.symm

/-! ## Allocation -/

variable {live : List Nat} {m' : Machine}

theorem Machine.dataFrame_spec {m : Machine} (sound : m.allocator.Sound live)
    (within : m.allocator.Within (2 ^ 52)) (allocated : m.dataFrame = some (frame, m')) :
    m'.allocator.Sound (frame :: live) ∧ m'.allocator.Within (2 ^ 52) ∧
      m'.memory = zeroFrame m.memory frame := by
  unfold dataFrame at allocated
  split at allocated
  · cases allocated
  next f allocator result =>
  cases allocated
  obtain ⟨soundAfter, same⟩ := sound.allocateFrame result
  exact ⟨soundAfter, within.of_sameBounds same, rfl⟩

theorem Allocator.Sound.isFrame {a : Allocator} (sound : a.Sound live) (within : a.Within (2 ^ 52))
    (member : frame ∈ live) : IsFrame frame := by
  obtain ⟨bounded, aligned, -⟩ := sound.live_lt within member
  exact ⟨aligned, bounded⟩

theorem Allocator.Sound.ne_fresh {a : Allocator} (sound : a.Sound (child :: live))
    (member : frame ∈ live) : frame ≠ child :=
  fun same => (nodup_cons.mp sound.nodup).1 (same ▸ member)

/-! ## The shape of the kernel tables -/

/-- Every entry of a parent is absent or links one of the children. -/
def Points (memory : PageWalk.Memory) (parents children : List Nat) : Prop :=
  ∀ p ∈ parents, ∀ i, memory p i = 0#64 ∨ ∃ c ∈ children, memory p i = entry c kernelLink

/-- Every entry of a directory is absent or a large page closed to user mode. -/
def Leaves (memory : PageWalk.Memory) (directories : List Nat) : Prop :=
  ∀ d ∈ directories, ∀ i, memory d i = 0#64 ∨ (Huge (memory d i) ∧ ¬ User (memory d i))

structure KernelTables (m : Machine) (root : Nat) (pdpts directories reserved : List Nat) :
    Prop where
  sound : m.allocator.Sound (root :: (pdpts ++ directories ++ reserved))
  within : m.allocator.Within (2 ^ 52)
  top : Points m.memory [root] pdpts
  middle : Points m.memory pdpts directories
  leaves : Leaves m.memory directories
  low : ∃ pdpt ∈ pdpts, m.memory root 0 = entry pdpt kernelLink

variable {memory memory' : PageWalk.Memory} {children : List Nat}

section

variable {parents : List Nat} (points : Points memory parents children)
include points

theorem Points.congr (same : ∀ p ∈ parents, memory' p = memory p) :
    Points memory' parents children := by
  intro p member i
  rw [same p member]
  exact points p member i

theorem Points.more : Points memory parents (child :: children) := by
  intro p member i
  rcases points p member i with absent | ⟨c, inChildren, link⟩
  · exact .inl absent
  · exact .inr ⟨c, mem_cons_of_mem _ inChildren, link⟩

/-- Linking a fresh child. -/
theorem Points.link {index : Nat} (fresh : child ∉ parents) :
    Points (setEntry (zeroFrame memory child) parent index (entry child kernelLink)) parents
      (child :: children) := by
  intro p member i
  have other : p ≠ child := by
    intro same
    exact fresh (same ▸ member)
  by_cases here : p = parent ∧ i = index
  · obtain ⟨rfl, rfl⟩ := here
    exact .inr ⟨child, mem_cons_self, setEntry_same⟩
  · rw [setEntry_other (not_and_or.mp here), zeroFrame_frame other]
    exact points.more p member i

end

theorem Leaves.congr {directories : List Nat} (leaves : Leaves memory directories)
    (same : ∀ d ∈ directories, memory' d = memory d) : Leaves memory' directories := by
  intro d member i
  rw [same d member]
  exact leaves d member i

/-- What `ensureTable` does at a parent whose entries link known children. -/
theorem ensureTable_spec {s s' : Install} {index target : Nat} {parents : List Nat}
    (sound : s.machine.allocator.Sound live) (within : s.machine.allocator.Within (2 ^ 52))
    (points : Points s.machine.memory parents children) (parentIn : parent ∈ parents)
    (childrenLive : ∀ c ∈ children, c ∈ live)
    (ensured : ensureTable parent index s = some (target, s')) : (s' = s ∧ target ∈ children) ∨
    (¬ Present (s.machine.memory parent index) ∧
      s'.machine.allocator.Sound (target :: live) ∧ s'.machine.allocator.Within (2 ^ 52) ∧
      s'.machine.memory =
        setEntry (zeroFrame s.machine.memory target) parent index (entry target kernelLink)) := by
  unfold ensureTable at ensured
  dsimp only [getEntry] at ensured
  split at ensured
  · next absent =>
    simp only [Option.bind_eq_bind, Option.bind_eq_some_iff] at ensured
    obtain ⟨⟨table, machine⟩, allocated, done⟩ := ensured
    obtain ⟨soundAfter, withinAfter, memoryAfter⟩ := Machine.dataFrame_spec sound within allocated
    have isFrame := soundAfter.isFrame withinAfter mem_cons_self
    cases done
    have address : tableAddress (entry table (PRESENT ||| WRITABLE)) = table :=
      tableAddress_entry isFrame (by decide)
    refine .inr ⟨and_PRESENT_eq_zero_iff.mp absent, ?_, withinAfter, ?_⟩
    · rw [address]
      exact soundAfter
    · rw [address, ← memoryAfter]
      rfl
  · next present =>
    cases ensured
    refine .inl ⟨rfl, ?_⟩
    rcases points parent parentIn index with zero | ⟨c, member, link⟩
    · rw [zero] at present
      exact absurd present not_present_zero
    · rw [link, tableAddress_entry (sound.isFrame within (childrenLive c member)) (by decide)]
      exact member

/-! ## `map_mmio_range` keeps the shape -/

variable {m : Machine} {root physical pdpt : Nat} {pdpts directories reserved : List Nat}
  {directory : Nat}

namespace KernelTables

variable (tables : KernelTables m root pdpts directories reserved)
include tables

theorem root_ne_pdpt (member : frame ∈ pdpts ++ directories ++ reserved) :
    frame ≠ root :=
  tables.sound.ne_fresh member

theorem pdpt_ne_directory (first : pdpt ∈ pdpts) (second : directory ∈ directories) :
    pdpt ≠ directory := by
  have distinct := (nodup_cons.mp tables.sound.nodup).2
  rw [append_assoc] at distinct
  exact (nodup_append.mp distinct).2.2 pdpt first directory (mem_append_left _ second)

/-- A new table below the root. -/
theorem addPdpt {index : Nat} (absent : ¬ Present (m.memory root index))
    (sound : m'.allocator.Sound (pdpt :: root :: (pdpts ++ directories ++ reserved)))
    (within : m'.allocator.Within (2 ^ 52))
    (memory : m'.memory = setEntry (zeroFrame m.memory pdpt) root index (entry pdpt kernelLink)) :
    KernelTables m' root (pdpt :: pdpts) directories reserved := by
  have notRoot : root ≠ pdpt := sound.ne_fresh mem_cons_self
  have unchanged : ∀ frame ∈ pdpts ++ directories ++ reserved, m'.memory frame = m.memory frame := by
    intro frame member
    rw [memory, setEntry_frame (tables.root_ne_pdpt member),
      zeroFrame_frame (sound.ne_fresh (mem_cons_of_mem _ member))]
  refine ⟨sound.perm (Perm.swap _ _ _), within, ?_, ?_, ?_, ?_⟩
  · rw [memory]
    exact tables.top.link (by simpa using notRoot.symm)
  · intro p member i
    rcases mem_cons.mp member with rfl | old
    · refine .inl ?_
      rw [memory, setEntry_other (.inl notRoot.symm), zeroFrame_same]
    · rw [unchanged p (by simp [old])]
      exact tables.middle p old i
  · exact tables.leaves.congr fun d member => unchanged d (by simp [member])
  · obtain ⟨p, member, link⟩ := tables.low
    refine ⟨p, mem_cons_of_mem _ member, ?_⟩
    have isFrame : IsFrame p := tables.sound.isFrame tables.within (by simp [member])
    have other : index ≠ 0 := by
      intro zero
      rw [zero, link, present_entry_iff isFrame] at absent
      exact absent (by decide)
    rw [memory, setEntry_other (.inr (symm other)), zeroFrame_frame notRoot, link]

/-- A new directory below a low table. -/
theorem addDirectory {index : Nat} (parentIn : parent ∈ pdpts)
    (sound : m'.allocator.Sound (directory :: root :: (pdpts ++ directories ++ reserved)))
    (within : m'.allocator.Within (2 ^ 52)) (memory : m'.memory =
      setEntry (zeroFrame m.memory directory) parent index (entry directory kernelLink)) :
    KernelTables m' root pdpts (directory :: directories) reserved := by
  have parentRoot : root ≠ parent := symm (tables.root_ne_pdpt (by simp [parentIn]))
  have rootSame : m'.memory root = m.memory root := by
    rw [memory, setEntry_frame parentRoot, zeroFrame_frame (sound.ne_fresh mem_cons_self)]
  refine ⟨sound.perm ?_, within, ?_, ?_, ?_, ?_⟩
  · have moved : (directory :: (pdpts ++ directories ++ reserved)).Perm
        (pdpts ++ (directory :: directories) ++ reserved) := by
      rw [append_assoc, append_assoc]
      exact perm_middle.symm
    exact (Perm.swap _ _ _).trans (moved.cons root)
  · exact tables.top.congr fun p member => by
      rw [mem_singleton.mp member]
      exact rootSame
  · rw [memory]
    exact tables.middle.link fun member => sound.ne_fresh (by simp [member]) rfl
  · intro d member i
    rcases mem_cons.mp member with rfl | old
    · refine .inl ?_
      have other : parent ≠ d := sound.ne_fresh (by simp [parentIn])
      rw [memory, setEntry_other (.inl other.symm), zeroFrame_same]
    · rw [memory, setEntry_other (.inl (symm (tables.pdpt_ne_directory parentIn old))),
        zeroFrame_frame (sound.ne_fresh (by simp [old]))]
      exact tables.leaves d old i
  · obtain ⟨p, member, link⟩ := tables.low
    exact ⟨p, member, by rw [rootSame, link]⟩

/-- A large page in a directory. -/
theorem setLeaf (index : Nat) (directoryIn : directory ∈ directories) (huge : Huge e)
    (closed : ¬ User e) :
    KernelTables (m.withMemory (setEntry m.memory directory index e)) root pdpts directories
      reserved := by
  have notRoot : root ≠ directory := symm (tables.root_ne_pdpt (by simp [directoryIn]))
  refine ⟨tables.sound, tables.within, ?_, ?_, ?_, ?_⟩
  · exact tables.top.congr fun p member => by
      rw [mem_singleton.mp member]
      exact setEntry_frame notRoot
  · exact tables.middle.congr fun p member =>
      setEntry_frame (tables.pdpt_ne_directory member directoryIn)
  · intro d member i
    dsimp only [Machine.withMemory]
    by_cases here : d = directory ∧ i = index
    · obtain ⟨rfl, rfl⟩ := here
      rw [setEntry_same]
      exact .inr ⟨huge, closed⟩
    · rw [setEntry_other (not_and_or.mp here)]
      exact tables.leaves d member i
  · obtain ⟨p, member, link⟩ := tables.low
    exact ⟨p, member, by rw [← link]; exact setEntry_other (.inl notRoot)⟩

end KernelTables

/-- The machine has kernel tables below `root`. -/
def HasTables (root : Nat) (reserved : List Nat) (m : Machine) : Prop :=
  ∃ pdpts directories, KernelTables m root pdpts directories reserved

section

variable {s s' : Install} (tables : HasTables root reserved s.machine)
include tables

theorem mapMmioPage_kernelTables (aligned : physical % 4096 = 0)
    (mapped : mapMmioPage root physical s = some s') : HasTables root reserved s'.machine := by
  obtain ⟨pdpts, directories, tables⟩ := tables
  unfold mapMmioPage at mapped
  split at mapped
  · cases mapped
  next canonical =>
  have isFrame : IsFrame physical := ⟨aligned, by omega⟩
  simp only [Option.bind_eq_bind, Option.bind_eq_some_iff] at mapped
  obtain ⟨⟨targetPdpt, s₁⟩, first, ⟨directory, s₂⟩, second, rest⟩ := mapped
  -- First level: the table below the root.
  obtain ⟨pdpts₁, tables₁, pdptIn⟩ : ∃ pdpts₁,
      KernelTables s₁.machine root pdpts₁ directories reserved ∧ targetPdpt ∈ pdpts₁ := by
    rcases ensureTable_spec tables.sound tables.within tables.top (mem_singleton.mpr rfl)
        (fun c member => by simp [member]) first with ⟨rfl, member⟩ | ⟨absent, sound, within, memory⟩
    · exact ⟨pdpts, tables, member⟩
    · exact ⟨_, tables.addPdpt absent sound within memory, mem_cons_self⟩
  -- Second level: the directory below that table.
  obtain ⟨directories₂, tables₂, directoryIn⟩ : ∃ directories₂,
      KernelTables s₂.machine root pdpts₁ directories₂ reserved ∧
        directory ∈ directories₂ := by
    rcases ensureTable_spec tables₁.sound tables₁.within tables₁.middle pdptIn
        (fun c member => by simp [member]) second with ⟨rfl, member⟩ | ⟨-, sound, within, memory⟩
    · exact ⟨directories, tables₁, member⟩
    · exact ⟨_, tables₁.addDirectory pdptIn sound within memory, mem_cons_self⟩
  have huge : Huge (entry physical
      (PRESENT ||| WRITABLE ||| WRITE_THROUGH ||| CACHE_DISABLE ||| HUGE)) :=
    (huge_entry_iff isFrame).mpr (by decide)
  have closed : ¬ User (entry physical
      (PRESENT ||| WRITABLE ||| WRITE_THROUGH ||| CACHE_DISABLE ||| HUGE)) :=
    fun user => absurd ((user_entry_iff isFrame).mp user) (by decide)
  have leaf := tables₂.setLeaf (physical / 2 ^ 21 % 512) directoryIn huge closed
  split at rest
  · cases rest
    refine ⟨pdpts₁, directories₂, ?_⟩
    split
    · exact leaf
    · exact leaf
  · cases rest
    refine ⟨pdpts₁, directories₂, ?_⟩
    split
    · exact tables₂
    · exact tables₂

theorem mapMmioPages_kernelTables (pages : Nat) (aligned : physical % 4096 = 0)
    (mapped : mapMmioPages root pages physical s = some s') : HasTables root reserved s'.machine := by
  induction pages generalizing physical s with
  | zero =>
    cases mapped
    exact tables
  | succ pages ih =>
    obtain ⟨s₁, first, rest⟩ := Option.bind_eq_some_iff.mp mapped
    have tables₁ := mapMmioPage_kernelTables tables aligned first
    exact ih tables₁ (by unfold HUGE_PAGE_SIZE; omega) rest

theorem mapMmioRange_kernelTables {base size : Nat}
    (mapped : mapMmioRange root base size s = some s') : HasTables root reserved s'.machine := by
  exact mapMmioPages_kernelTables tables _ (by unfold HUGE_PAGE_SIZE; omega) mapped

theorem mapMmioRanges_kernelTables (ranges : List MmioRange)
    (mapped : mapMmioRanges root ranges s = some s') : HasTables root reserved s'.machine := by
  induction ranges generalizing s with
  | nil =>
    cases mapped
    exact tables
  | cons range rest ih =>
    unfold mapMmioRanges at mapped
    split at mapped
    · exact ih tables mapped
    · obtain ⟨s₁, first, mapped⟩ := Option.bind_eq_some_iff.mp mapped
      exact ih (mapMmioRange_kernelTables tables first) mapped

end

/-! ## `install` -/

/-- The identity map fills one directory with large pages. -/
theorem identityMap_kernelTables (tables : KernelTables m root pdpts directories reserved)
    (directoryIn : directory ∈ directories) (count : Nat) (bound : count ≤ ENTRY_COUNT) :
    KernelTables (m.withMemory ((range count).foldl
        (fun memory index => setEntry memory directory index
          (entry (index * HUGE_PAGE_SIZE) (PRESENT ||| WRITABLE ||| HUGE))) m.memory))
      root pdpts directories reserved := by
  induction count with
  | zero => exact tables
  | succ count ih =>
    rw [range_succ, foldl_append]
    have isFrame : IsFrame (count * HUGE_PAGE_SIZE) := by
      unfold ENTRY_COUNT at bound
      unfold IsFrame HUGE_PAGE_SIZE
      omega
    exact (ih (by omega)).setLeaf _ directoryIn ((huge_entry_iff isFrame).mpr (by decide))
      fun user => absurd ((user_entry_iff isFrame).mp user) (by decide)

theorem install_kernelTables {framebuffer : MmioRange} {ranges : List MmioRange} {m : Machine}
    {stats : PagingStats} {reserved : List Nat} (sound : m.allocator.Sound reserved)
    (within : m.allocator.Within (2 ^ 52))
    (installed : install framebuffer ranges m = some (stats, m')) :
    HasTables stats.pml4 reserved m' := by
  unfold install at installed
  simp only [Option.bind_eq_bind, Option.bind_eq_some_iff] at installed
  obtain ⟨⟨pml4, m₁⟩, first, ⟨pdpt, m₂⟩, second, ⟨lowDirectory, m₃⟩, third, s, frame, s', ranges,
    done⟩ := installed
  cases done
  obtain ⟨sound₁, within₁, memory₁⟩ := Machine.dataFrame_spec sound within first
  obtain ⟨sound₂, within₂, memory₂⟩ := Machine.dataFrame_spec sound₁ within₁ second
  have notRoot : pml4 ≠ pdpt := sound₂.ne_fresh mem_cons_self
  -- The root and its first table, before any directory.
  have tables₂ : KernelTables
      (m₂.withMemory (setEntry m₂.memory pml4 0 (entry pdpt (PRESENT ||| WRITABLE))))
      pml4 [pdpt] [] reserved := by
    have zeroRoot : ∀ i, m₂.memory pml4 i = 0#64 := by
      intro i
      rw [memory₂, zeroFrame_frame notRoot, memory₁, zeroFrame_same]
    refine ⟨sound₂.perm (Perm.swap _ _ _), within₂, ?_, ?_, ?_, ?_⟩
    · intro p member i
      rw [mem_singleton.mp member]
      by_cases here : i = 0
      · subst here
        exact .inr ⟨pdpt, mem_cons_self, setEntry_same⟩
      · exact .inl ((setEntry_other (.inr here)).trans (zeroRoot i))
    · intro p member i
      rw [mem_singleton.mp member]
      refine .inl ((setEntry_other (.inl (symm notRoot))).trans ?_)
      rw [memory₂, zeroFrame_same]
    · intro d member
      cases member
    · exact ⟨pdpt, mem_cons_self, setEntry_same⟩
  obtain ⟨sound₃, within₃, memory₃⟩ := Machine.dataFrame_spec tables₂.sound tables₂.within third
  have tables₃ : KernelTables
      (m₃.withMemory (setEntry m₃.memory pdpt 0 (entry lowDirectory (PRESENT ||| WRITABLE))))
      pml4 [pdpt] [lowDirectory] reserved :=
    tables₂.addDirectory mem_cons_self sound₃ within₃ (by rw [← memory₃]; rfl)
  have tables₄ := identityMap_kernelTables tables₃ mem_cons_self ENTRY_COUNT le_rfl
  unfold identityMap at frame
  exact mapMmioRanges_kernelTables (mapMmioRange_kernelTables ⟨_, _, tables₄⟩ frame) _ ranges

end SlopOS.Memory
