import SlopOS.Memory.KernelTables

/-!
# Building one user address space

`SpaceTables` describes the four private tables of a process entry by entry: the
root and the low table are the kernel's except for one link each, and below that
link only the code, stack and shared pages are present.  The specification of
`create_user_address_space` is assembled from one for each of its phases.
-/

namespace SlopOS.Memory

open PageWalk List

/-- The two memories hold the same words in the frames of `frames`. -/
def AgreeOn (frames : List Nat) (memory memory' : PageWalk.Memory) : Prop :=
  ∀ f ∈ frames, memory' f = memory f

theorem AgreeOn.trans {frames : List Nat} {a b c : Memory} (first : AgreeOn frames a b)
    (second : AgreeOn frames b c) : AgreeOn frames a c := by
  intro f member
  rw [second f member, first f member]

theorem AgreeOn.mono {frames frames' : List Nat} {a b : Memory}
    (agree : AgreeOn frames a b) (sub : ∀ f ∈ frames', f ∈ frames) : AgreeOn frames' a b :=
  fun f member => agree f (sub f member)

variable {memory : PageWalk.Memory} {index f target : Nat}

theorem zeroFrame_agreeOn {frames : List Nat} (fresh : target ∉ frames) :
    AgreeOn frames memory (zeroFrame memory target) := by
  intro f member
  exact zeroFrame_frame fun same => fresh (same ▸ member)

theorem setEntry_agreeOn {frames : List Nat} {table : Nat} {value : BitVec 64}
    (outside : table ∉ frames) : AgreeOn frames memory (setEntry memory table index value) := by
  intro f member
  exact setEntry_frame fun same => outside (same ▸ member)

/-! ## Loops over a table -/

theorem copyTable_spec {source : Nat} {frames : List Nat} (fresh : target ∉ frames)
    (member : source ∈ frames) :
    (∀ i < ENTRY_COUNT, copyTable memory target source target i = memory source i) ∧
      AgreeOn frames memory (copyTable memory target source) := by
  have loop : ∀ count,
      let result := (range count).foldl
        (fun memory index => setEntry memory target index (getEntry memory source index)) memory
      (∀ i < count, result target i = memory source i) ∧ AgreeOn frames memory result := by
    intro count
    induction count with
    | zero => exact ⟨fun i below => absurd below (by omega), fun _ _ => rfl⟩
    | succ count ih =>
      obtain ⟨copied, kept⟩ := ih
      simp only [range_succ, foldl_append, foldl_cons, foldl_nil]
      refine ⟨?_, kept.trans (setEntry_agreeOn fresh)⟩
      intro i below
      by_cases last : i = count
      · subst last
        rw [setEntry_same, getEntry, kept source member]
      · rw [setEntry_other (.inr last)]
        exact copied i (by omega)
  unfold copyTable
  exact loop ENTRY_COUNT

section MapPages

variable {table : Nat} {flags : BitVec 64}

theorem mapPages_frame (frames : List Nat) (other : f ≠ table) :
    mapPages table flags index frames memory f = memory f := by
  induction frames generalizing index memory with
  | nil => rfl
  | cons frame rest ih =>
    unfold mapPages
    rw [ih, setEntry_frame other]

theorem mapPages_outside (frames : List Nat) {i : Nat}
    (outside : i < index ∨ index + frames.length ≤ i) :
    mapPages table flags index frames memory table i = memory table i := by
  induction frames generalizing index memory with
  | nil => rfl
  | cons frame rest ih =>
    unfold mapPages
    rw [length_cons] at outside
    rw [ih (by omega), setEntry_other (.inr (by omega))]

theorem mapPages_mapped (frames : List Nat) {k frame : Nat} (mapped : frames[k]? = some frame) :
    mapPages table flags index frames memory table (index + k) = entry frame flags := by
  induction frames generalizing index memory k with
  | nil => cases mapped
  | cons first rest ih =>
    unfold mapPages
    cases k with
    | zero =>
      cases mapped
      rw [mapPages_outside rest (.inl (by omega))]
      exact setEntry_same
    | succ k =>
      rw [show index + (k + 1) = index + 1 + k by omega]
      exact ih mapped

end MapPages

theorem copyImage_frame (image : List (BitVec 8)) (frames : List Nat) (other : f ∉ frames) :
    copyImage image index frames memory f = memory f := by
  induction frames generalizing index memory with
  | nil => rfl
  | cons frame rest ih =>
    rw [mem_cons, not_or] at other
    unfold copyImage
    dsimp only
    split
    · rfl
    · rw [ih other.2]
      funext slot
      simp [writeBytes, other.1]

/-! ## Allocating frames -/

variable {m m' : Machine} {live : List Nat}

/-- A new frame is zero and apart from the frames in use. -/
theorem Machine.dataFrame_fresh {frame : Nat} (sound : m.allocator.Sound live)
    (within : m.allocator.Within (2 ^ 52)) (allocated : m.dataFrame = some (frame, m')) :
    m'.allocator.Sound (frame :: live) ∧ m'.allocator.Within (2 ^ 52) ∧ frame ∉ live ∧
      (∀ i, m'.memory frame i = 0#64) ∧ AgreeOn live m.memory m'.memory := by
  obtain ⟨sound', within', memory⟩ := dataFrame_spec sound within allocated
  have fresh := (nodup_cons.mp sound'.nodup).1
  rw [memory]
  exact ⟨sound', within', fresh, fun _ => zeroFrame_same, zeroFrame_agreeOn fresh⟩

theorem Machine.dataFrames_spec (count : Nat) {frames : List Nat} (sound : m.allocator.Sound live)
    (within : m.allocator.Within (2 ^ 52)) (allocated : m.dataFrames count = some (frames, m')) :
    m'.allocator.Sound (frames ++ live) ∧ m'.allocator.Within (2 ^ 52) ∧
      frames.length = count ∧ AgreeOn live m.memory m'.memory := by
  induction count generalizing m live frames with
  | zero =>
    cases allocated
    exact ⟨sound, within, rfl, fun _ _ => rfl⟩
  | succ count ih =>
    unfold dataFrames at allocated
    simp only [Option.bind_eq_bind, Option.bind_eq_some_iff] at allocated
    obtain ⟨⟨frame, m₁⟩, first, ⟨rest, m₂⟩, second, done⟩ := allocated
    cases done
    obtain ⟨sound₁, within₁, -, -, agree₁⟩ := dataFrame_fresh sound within first
    obtain ⟨sound₂, within₂, length, agree₂⟩ := ih sound₁ within₁ second
    refine ⟨sound₂.perm perm_middle, within₂, by rw [length_cons, length], agree₁.trans ?_⟩
    exact agree₂.mono fun f member => mem_cons_of_mem _ member

/-! ## The copied kernel tables -/

variable {kernelRoot kernelLow : Nat} {pdpts directories reserved : List Nat}

/-- Every frame that is owned before a process is created. -/
abbrev owned (kernelRoot : Nat) (pdpts directories reserved : List Nat) : List Nat :=
  kernelRoot :: (pdpts ++ directories ++ reserved)

theorem copyKernelTables_spec {root processLowPdpt : Nat} (sound : m.allocator.Sound live)
    (within : m.allocator.Within (2 ^ 52)) (rootIn : kernelRoot ∈ live) (lowIn : kernelLow ∈ live)
    (low : m.memory kernelRoot 0 = entry kernelLow kernelLink)
    (copied : copyKernelTables kernelRoot m = some ((root, processLowPdpt), m')) :
    m'.allocator.Sound (processLowPdpt :: root :: live) ∧ m'.allocator.Within (2 ^ 52) ∧
      AgreeOn live m.memory m'.memory ∧ m'.memory root 0 = entry processLowPdpt userLink ∧
      (∀ i < ENTRY_COUNT, i ≠ 0 → m'.memory root i = m.memory kernelRoot i) ∧
      ∀ i < ENTRY_COUNT, m'.memory processLowPdpt i = m.memory kernelLow i := by
  unfold copyKernelTables at copied
  simp only [Option.bind_eq_bind, Option.bind_eq_some_iff] at copied
  obtain ⟨⟨root', m₁⟩, first, copied⟩ := copied
  obtain ⟨sound₁, within₁, freshRoot, -, agree₁⟩ := Machine.dataFrame_fresh sound within first
  obtain ⟨copiedRoot, kept₁⟩ := copyTable_spec freshRoot rootIn
  have before := agree₁.trans kept₁
  have lowEntry : copyTable m₁.memory root' kernelRoot kernelRoot 0 = entry kernelLow kernelLink := by
    rw [before kernelRoot rootIn, low]
  dsimp only [Machine.withMemory, getEntry] at copied
  simp only [lowEntry] at copied
  split at copied
  · cases copied
  rw [tableAddress_entry (sound.isFrame within lowIn) (by decide)] at copied
  simp only [Option.bind_eq_some_iff] at copied
  obtain ⟨⟨pdpt, m₂⟩, second, done⟩ := copied
  obtain ⟨sound₂, within₂, freshPdpt, -, agree₂⟩ :=
    Machine.dataFrame_fresh (m := ⟨m₁.allocator, copyTable m₁.memory root' kernelRoot⟩)
      sound₁ within₁ second
  simp only [Option.pure_def, Option.some.injEq, Prod.mk.injEq] at done
  obtain ⟨⟨rfl, rfl⟩, rfl⟩ := done
  have lowLive := mem_cons_of_mem root' lowIn
  obtain ⟨copiedLow, kept₂⟩ := copyTable_spec freshPdpt lowLive
  have after := agree₂.trans kept₂
  have agree := before.trans (after.mono fun f member => mem_cons_of_mem _ member)
  refine ⟨sound₂, within₂, agree.trans (setEntry_agreeOn freshRoot), setEntry_same, ?_, ?_⟩
  · intro i below nonzero
    refine (setEntry_other (.inr nonzero)).trans ?_
    rw [after root' mem_cons_self]
    exact (copiedRoot i below).trans (congrFun (agree₁ kernelRoot rootIn) i)
  · intro i below
    have other : pdpt ≠ root' := fun same => freshPdpt (same ▸ mem_cons_self)
    refine (setEntry_other (.inl other)).trans ?_
    rw [copiedLow i below, agree₂ kernelLow lowLive]
    exact congrFun (before kernelLow lowIn) i

/-! ## The tables of a process -/

/-- What the entry of the shared page holds. -/
def sharedEntry : Option Nat → BitVec 64
  | none => 0#64
  | some frame => entry frame userLink

/-- The private tables of a process whose shared page is `shared`, over the
kernel root `kernelRoot` and the kernel's first low table `kernelLow`. -/
structure SpaceTables (memory : PageWalk.Memory) (kernelRoot kernelLow : Nat)
    (space : UserAddressSpace) (shared : Option Nat) (pdpt directory table : Nat) : Prop where
  tables : space.tableFrames = [space.root, pdpt, directory, table]
  codePages : space.codeFrames.length = USER_CODE_PAGES
  stackPages : space.stackFrames.length = USER_STACK_PAGES
  rootLink : memory space.root 0 = entry pdpt userLink
  rootRest : ∀ i < ENTRY_COUNT, i ≠ 0 → memory space.root i = memory kernelRoot i
  pdptLink : memory pdpt pdptIndex = entry directory userLink
  pdptRest : ∀ i < ENTRY_COUNT, i ≠ pdptIndex → memory pdpt i = memory kernelLow i
  kernelGap : ¬ Present (memory kernelLow pdptIndex)
  directoryLink : memory directory directoryIndex = entry table userLink
  directoryRest : ∀ i, i ≠ directoryIndex → memory directory i = 0#64
  code : ∀ k frame, space.codeFrames[k]? = some frame →
    memory table (codeIndex + k) = entry frame (PRESENT ||| USER_ACCESSIBLE)
  stack : ∀ k frame, space.stackFrames[k]? = some frame →
    memory table (firstStackIndex + k) = entry frame userLink
  sharedPage : memory table sharedIndex = sharedEntry shared
  tableRest : ∀ i, sharedIndex < i → memory table i = 0#64

/-- The frames that belong to one process. -/
def UserAddressSpace.frames (space : UserAddressSpace) : List Nat :=
  space.tableFrames ++ space.codeFrames ++ space.stackFrames

/-- Kernel tables stay as they are when other frames are allocated and written. -/
theorem KernelTables.extend {reserved' : List Nat}
    (tables : KernelTables m kernelRoot pdpts directories reserved)
    (sound : m'.allocator.Sound (owned kernelRoot pdpts directories reserved'))
    (within : m'.allocator.Within (2 ^ 52))
    (agree : AgreeOn (kernelRoot :: (pdpts ++ directories)) m.memory m'.memory) :
    KernelTables m' kernelRoot pdpts directories reserved' := by
  have rootSame := agree kernelRoot mem_cons_self
  refine ⟨sound, within, ?_, ?_, ?_, ?_⟩
  · exact tables.top.congr fun p member => by rw [mem_singleton.mp member]; exact rootSame
  · exact tables.middle.congr fun p member => agree p (by simp [member])
  · exact tables.leaves.congr fun d member => agree d (by simp [member])
  · obtain ⟨p, member, link⟩ := tables.low
    exact ⟨p, member, by rw [rootSame, link]⟩

/-- The links written below the copied tables, when the two user tables are zero. -/
theorem linkUserTables_spec {pdpt directory table : Nat} {codeFrames stackFrames : List Nat}
    (distinct : [table, directory, pdpt].Nodup) (zeroDirectory : ∀ i, memory directory i = 0#64)
    (zeroTable : ∀ i, memory table i = 0#64) (codePages : codeFrames.length = USER_CODE_PAGES)
    (stackPages : stackFrames.length = USER_STACK_PAGES) :
    let result := linkUserTables pdpt directory table codeFrames stackFrames memory
    (∀ f, f ∉ [table, directory, pdpt] → result f = memory f) ∧
    result pdpt pdptIndex = entry directory userLink ∧
    (∀ i, i ≠ pdptIndex → result pdpt i = memory pdpt i) ∧
    result directory directoryIndex = entry table userLink ∧
    (∀ i, i ≠ directoryIndex → result directory i = 0#64) ∧
    (∀ k frame, codeFrames[k]? = some frame →
      result table (codeIndex + k) = entry frame (PRESENT ||| USER_ACCESSIBLE)) ∧
    (∀ k frame, stackFrames[k]? = some frame →
      result table (firstStackIndex + k) = entry frame userLink) ∧
    ∀ i, sharedIndex ≤ i → result table i = 0#64 := by
  intro result
  simp only [nodup_cons, mem_cons, not_mem_nil, or_false, not_or] at distinct
  obtain ⟨⟨tableDirectory, tablePdpt⟩, directoryPdpt, -⟩ := distinct
  have untouched : ∀ f i, f ≠ table →
      result f i = setEntry (setEntry memory pdpt pdptIndex (entry directory userLink)) directory
        directoryIndex (entry table userLink) f i := by
    intro f i other
    exact congrFun ((mapPages_frame stackFrames other).trans (mapPages_frame codeFrames other)) i
  refine ⟨?_, ?_, ?_, ?_, ?_, ?_, ?_, ?_⟩
  · intro f outside
    simp only [mem_cons, not_mem_nil, or_false, not_or] at outside
    funext i
    rw [untouched f i outside.1, setEntry_other (.inl outside.2.1),
      setEntry_other (.inl outside.2.2)]
  · rw [untouched pdpt _ (symm tablePdpt), setEntry_other (.inl (symm directoryPdpt)),
      setEntry_same]
  · intro i other
    rw [untouched pdpt i (symm tablePdpt), setEntry_other (.inl (symm directoryPdpt)),
      setEntry_other (.inr other)]
  · rw [untouched directory _ (symm tableDirectory), setEntry_same]
  · intro i other
    rw [untouched directory i (symm tableDirectory), setEntry_other (.inr other),
      setEntry_other (.inl directoryPdpt), zeroDirectory]
  · intro k frame mapped
    have inside : k < 4 := by
      have := (List.getElem?_eq_some_iff.mp mapped).1
      rw [codePages] at this
      exact this
    refine (mapPages_outside stackFrames (.inl ?_)).trans (mapPages_mapped codeFrames mapped)
    unfold firstStackIndex USER_CODE_PAGES
    omega
  · intro k frame mapped
    exact mapPages_mapped stackFrames mapped
  · intro i beyond
    have large : firstStackIndex + 3 ≤ i := beyond
    refine (mapPages_outside stackFrames (.inr ?_)).trans
      ((mapPages_outside codeFrames (.inr ?_)).trans ?_)
    · rw [stackPages]
      exact large
    · unfold firstStackIndex at large
      omega
    · rw [setEntry_other (.inl tableDirectory), setEntry_other (.inl tablePdpt), zeroTable]

/-- `create_user_address_space`, on every path that returns. -/
theorem createUserAddressSpace_spec {image : List (BitVec 8)} {memorySize : Nat}
    {space : UserAddressSpace} (sound : m.allocator.Sound live)
    (within : m.allocator.Within (2 ^ 52)) (rootIn : kernelRoot ∈ live) (lowIn : kernelLow ∈ live)
    (low : m.memory kernelRoot 0 = entry kernelLow kernelLink)
    (created : createUserAddressSpace kernelRoot image memorySize m = some (space, m')) :
    m'.allocator.Sound (space.frames ++ live) ∧ m'.allocator.Within (2 ^ 52) ∧
      AgreeOn live m.memory m'.memory ∧ ∃ pdpt directory table,
        SpaceTables m'.memory kernelRoot kernelLow space none pdpt directory table := by
  unfold createUserAddressSpace at created
  split at created
  · cases created
  simp only [Option.bind_eq_bind, Option.bind_eq_some_iff] at created
  obtain ⟨⟨⟨root, pdpt⟩, m₁⟩, first, ⟨directory, m₂⟩, second, ⟨table, m₃⟩, third,
    ⟨codeFrames, m₄⟩, fourth, ⟨stackFrames, m₅⟩, fifth, created⟩ := created
  obtain ⟨sound₁, within₁, agree₁, rootLink, rootRest, pdptRest⟩ :=
    copyKernelTables_spec sound within rootIn lowIn low first
  obtain ⟨sound₂, within₂, -, zero₂, agree₂⟩ := Machine.dataFrame_fresh sound₁ within₁ second
  obtain ⟨sound₃, within₃, -, zero₃, agree₃⟩ := Machine.dataFrame_fresh sound₂ within₂ third
  obtain ⟨sound₄, within₄, codePages, agree₄⟩ := Machine.dataFrames_spec _ sound₃ within₃ fourth
  obtain ⟨sound₅, within₅, stackPages, agree₅⟩ := Machine.dataFrames_spec _ sound₄ within₄ fifth
  -- The tables are written in `m₁` to `m₃`; the data frames do not touch them.
  have imageKept : AgreeOn (table :: directory :: pdpt :: root :: live) m₃.memory
      (copyImage image 0 codeFrames m₅.memory) := by
    refine (agree₄.trans (agree₅.mono fun f member => mem_append_right _ member)).trans ?_
    refine fun f member => copyImage_frame image codeFrames fun inCode => ?_
    exact (nodup_append.mp sound₄.nodup).2.2 f inCode f member rfl
  generalize copyImage image 0 codeFrames m₅.memory = memory₆ at created imageKept
  have kept₂ : AgreeOn (directory :: pdpt :: root :: live) m₂.memory memory₆ :=
    agree₃.trans (imageKept.mono fun f member => mem_cons_of_mem _ member)
  have kept : AgreeOn (pdpt :: root :: live) m₁.memory memory₆ :=
    agree₂.trans (kept₂.mono fun f member => mem_cons_of_mem _ member)
  have zeroTable : ∀ i, memory₆ table i = 0#64 := by
    rw [imageKept table mem_cons_self]
    exact zero₃
  have zeroDirectory : ∀ i, memory₆ directory i = 0#64 := by
    rw [kept₂ directory mem_cons_self]
    exact zero₂
  change (if memory₆ pdpt pdptIndex &&& PRESENT ≠ 0 ∨ ENTRY_COUNT ≤ lastStackIndex then none
    else some (⟨root, codeFrames, stackFrames, [root, pdpt, directory, table]⟩,
      m₅.withMemory (linkUserTables pdpt directory table codeFrames stackFrames memory₆))) =
    some (space, m') at created
  by_cases clear : memory₆ pdpt pdptIndex &&& PRESENT ≠ 0 ∨ ENTRY_COUNT ≤ lastStackIndex
  · rw [if_pos clear] at created
    cases created
  rw [if_neg clear] at created
  obtain ⟨rfl, rfl⟩ := created
  have apart : ([table, directory, pdpt] ++ root :: live).Nodup := sound₃.nodup
  obtain ⟨distinct, -, outside⟩ := nodup_append.mp apart
  obtain ⟨linkFrame, pdptLink, pdptOther, directoryLink, directoryRest, code, stack, rest⟩ :=
    linkUserTables_spec distinct zeroDirectory zeroTable codePages stackPages
  have keptRoot : AgreeOn (root :: live) m₁.memory
      (linkUserTables pdpt directory table codeFrames stackFrames memory₆) := by
    intro f member
    rw [linkFrame f fun inTables => outside f inTables f member rfl,
      kept f (mem_cons_of_mem _ member)]
  have agree := agree₁.trans (keptRoot.mono fun f member => mem_cons_of_mem _ member)
  have pdptSame : ∀ i < ENTRY_COUNT, memory₆ pdpt i =
      linkUserTables pdpt directory table codeFrames stackFrames memory₆ kernelLow i := by
    intro i below
    rw [kept pdpt mem_cons_self, pdptRest i below]
    exact (congrFun (agree kernelLow lowIn) i).symm
  refine ⟨sound₅.perm ?_, within₅, agree, pdpt, directory, table, rfl, codePages, stackPages, ?_, ?_,
    pdptLink, ?_, ?_, directoryLink, directoryRest, code, stack, rest sharedIndex le_rfl,
    fun i beyond => rest i (le_of_lt beyond)⟩
  · rw [perm_iff_count]
    intro frame
    simp only [UserAddressSpace.frames, count_append, count_cons, count_nil]
    omega
  · exact (congrFun (keptRoot root mem_cons_self) 0).trans rootLink
  · intro i below nonzero
    exact (congrFun (keptRoot root mem_cons_self) i).trans
      ((rootRest i below nonzero).trans (congrFun (agree kernelRoot rootIn) i).symm)
  · intro i below other
    exact (pdptOther i other).trans (pdptSame i below)
  · intro present
    refine clear (.inl ?_)
    rw [pdptSame pdptIndex (by decide)]
    exact present

end SlopOS.Memory
