import SlopOS.Memory.AddressSpace

/-!
# Isolation of user address spaces

A `System` is the machine after `install` with the processes created since.  Its
operations create an address space, allocate and map a shared page, and release
an address space, each while the kernel root is active.  `Isolated` is kept by
every operation, and every statement about what a process can reach is read off
it with the page walk.
-/

namespace SlopOS.Memory

open PageWalk List

structure Process where
  space : UserAddressSpace
  /-- The frame mapped at the shared page. -/
  shared : Option Nat

structure System where
  machine : Machine
  kernelRoot : Nat
  processes : List Process
  /-- The frames of shared-memory objects. -/
  sharedFrames : List Nat

inductive Operation where
  | create (image : List (BitVec 8)) (memorySize : Nat)
  | allocateShared
  | mapShared (process frame : Nat)
  | release (process : Nat)

/-- One operation.  `none` is a kernel halt, or a call that names no live
process or no shared frame. -/
def System.step (s : System) : Operation → Option System
  | .create image memorySize => do
      let (space, machine) ← createUserAddressSpace s.kernelRoot image memorySize s.machine
      return { s with machine, processes := ⟨space, none⟩ :: s.processes }
  | .allocateShared =>
      match s.machine.dataFrame with
      | none => some s
      | some (frame, machine) => some { s with machine, sharedFrames := frame :: s.sharedFrames }
  | .mapShared process frame => do
      let p ← s.processes[process]?
      let userTable ← p.space.tableFrames[3]?
      if frame ∈ s.sharedFrames then
        match mapUserSharedPage userTable frame s.machine with
        | .error _ => some s
        | .ok machine =>
            some { s with
              machine, processes := s.processes.set process { p with shared := some frame } }
      else none
  | .release process => do
      let p ← s.processes[process]?
      let machine ← releaseUserAddressSpace p.space s.machine
      return { s with machine, processes := s.processes.eraseIdx process }

/-- The systems that operations lead to. -/
inductive System.Reaches (start : System) : System → Prop
  | refl : System.Reaches start start
  | tail {s s' : System} {operation : Operation} : System.Reaches start s →
      s.step operation = some s' → System.Reaches start s'

/-! ## The invariant -/

def System.userFrames (s : System) : List Nat := s.processes.flatMap (·.space.frames)

structure Isolated (s : System) (pdpts directories reserved : List Nat) (kernelLow : Nat) :
    Prop where
  kernel : KernelTables s.machine s.kernelRoot pdpts directories
    (s.userFrames ++ s.sharedFrames ++ reserved)
  lowIn : kernelLow ∈ pdpts
  low : s.machine.memory s.kernelRoot 0 = entry kernelLow kernelLink
  spaces : ∀ p ∈ s.processes, ∃ pdpt directory table,
    SpaceTables s.machine.memory s.kernelRoot kernelLow p.space p.shared pdpt directory table
  shares : ∀ p ∈ s.processes, ∀ frame, p.shared = some frame → frame ∈ s.sharedFrames

variable {memory : PageWalk.Memory} {space : UserAddressSpace} {shared : Option Nat}

/-- Where the pages of a process lie, and their entries in its last table. -/
theorem layout : USER_CODE_BASE = 0x40000000 ∧ USER_STACK_BASE = 0x40004000 ∧
    USER_STACK_TOP = 0x40007000 ∧ USER_SHARED_BASE = 0x40007000 ∧ USER_SHARED_END = 0x40008000 ∧
    USER_CODE_PAGES = 4 ∧ USER_STACK_PAGES = 3 ∧ codeIndex = 0 ∧ firstStackIndex = 4 ∧
    sharedIndex = 7 ∧ ENTRY_COUNT = 512 ∧ PAGE_SIZE = 4096 := by
  decide

section

variable {memory' : PageWalk.Memory} {kernelRoot kernelLow pdpt directory table : Nat}
  (tables : SpaceTables memory kernelRoot kernelLow space shared pdpt directory table)
include tables

/-- A change of the last table that concerns the shared page at most. -/
theorem SpaceTables.retouch {shared' : Option Nat}
    (agree : AgreeOn [kernelRoot, kernelLow, space.root, pdpt, directory] memory memory')
    (kept : ∀ i, i ≠ sharedIndex → memory' table i = memory table i)
    (page : memory' table sharedIndex = sharedEntry shared') :
    SpaceTables memory' kernelRoot kernelLow space shared' pdpt directory table := by
  have kernelSame := agree kernelRoot (by simp)
  have lowSame := agree kernelLow (by simp)
  have rootSame := agree space.root (by simp)
  have pdptSame := agree pdpt (by simp)
  have directorySame := agree directory (by simp)
  have codePages := tables.codePages
  have stackPages := tables.stackPages
  refine ⟨tables.tables, codePages, stackPages, ?_, ?_, ?_, ?_, ?_, ?_, ?_, ?_, ?_, page, ?_⟩
  · rw [rootSame]; exact tables.rootLink
  · rw [rootSame, kernelSame]; exact tables.rootRest
  · rw [pdptSame]; exact tables.pdptLink
  · rw [pdptSame, lowSame]; exact tables.pdptRest
  · rw [lowSame]; exact tables.kernelGap
  · rw [directorySame]; exact tables.directoryLink
  · rw [directorySame]; exact tables.directoryRest
  · intro k f atK
    have inside := (List.getElem?_eq_some_iff.mp atK).1
    have other : codeIndex + k ≠ sharedIndex := by
      simp only [codePages, layout] at inside ⊢
      omega
    rw [kept _ other]
    exact tables.code k f atK
  · intro k f atK
    have inside := (List.getElem?_eq_some_iff.mp atK).1
    have other : firstStackIndex + k ≠ sharedIndex := by
      simp only [stackPages, layout] at inside ⊢
      omega
    rw [kept _ other]
    exact tables.stack k f atK
  · intro i beyond
    rw [kept i (ne_of_gt beyond)]
    exact tables.tableRest i beyond

theorem SpaceTables.congr
    (agree : AgreeOn (kernelRoot :: kernelLow :: space.tableFrames) memory memory') :
    SpaceTables memory' kernelRoot kernelLow space shared pdpt directory table := by
  rw [tables.tables] at agree
  have tableSame := agree table (by simp)
  refine tables.retouch (agree.mono (by simp)) (fun i _ => by rw [tableSame]) ?_
  rw [tableSame]
  exact tables.sharedPage

end

variable {frame page : Nat} {p : Process} {m : Machine}

section Ownership

variable {s : System} {pdpts directories reserved : List Nat} {kernelLow : Nat}

theorem mem_userFrames (member : p ∈ s.processes) (inFrames : frame ∈ p.space.frames) :
    frame ∈ s.userFrames :=
  mem_flatMap.mpr ⟨p, member, inFrames⟩

theorem tableFrames_subset (member : frame ∈ space.tableFrames) : frame ∈ space.frames :=
  mem_append_left _ (mem_append_left _ member)

theorem KernelTables.isFrame {root : Nat} (tables : KernelTables m root pdpts directories reserved)
    : ∀ f ∈ pdpts ++ directories, IsFrame f := fun _ member =>
  tables.sound.isFrame tables.within (mem_cons_of_mem _ (mem_append_left _ member))

variable (isolated : Isolated s pdpts directories reserved kernelLow)
include isolated

theorem Isolated.userFrames_nodup : s.userFrames.Nodup := by
  have distinct := (nodup_cons.mp isolated.kernel.sound.nodup).2
  exact (nodup_append.mp (nodup_append.mp (nodup_append.mp distinct).2.1).1).1

/-- The frames of two processes are disjoint. -/
theorem Isolated.frames_disjoint {i j : Nat} {q : Process} (different : i ≠ j)
    (atI : s.processes[i]? = some p) (atJ : s.processes[j]? = some q)
    (inP : frame ∈ p.space.frames) : frame ∉ q.space.frames := by
  have pairwise := pairwise_iff_getElem.mp (nodup_flatMap.mp isolated.userFrames_nodup).2
  obtain ⟨insideI, rfl⟩ := List.getElem?_eq_some_iff.mp atI
  obtain ⟨insideJ, rfl⟩ := List.getElem?_eq_some_iff.mp atJ
  rcases lt_or_gt_of_ne different with before | after
  · exact pairwise i j insideI insideJ before inP
  · exact fun inQ => pairwise j i insideJ insideI after inQ inP

/-- A frame of a process is not a kernel table, a shared frame or reserved. -/
theorem Isolated.user_apart (user : frame ∈ s.userFrames) :
    frame ∉ s.kernelRoot :: (pdpts ++ directories) ∧ frame ∉ s.sharedFrames ∧ frame ∉ reserved := by
  have once := nodup_iff_count_le_one.mp isolated.kernel.sound.nodup frame
  have here := count_pos_iff.mpr user
  simp only [← count_eq_zero, count_append, count_cons] at once ⊢
  omega

theorem Isolated.isFrame (member : frame ∈ owned s.kernelRoot pdpts directories
    (s.userFrames ++ s.sharedFrames ++ reserved)) : IsFrame frame :=
  isolated.kernel.sound.isFrame isolated.kernel.within member

end Ownership

/-! ## One operation -/

/-- The operation writes a table of the process at this position. -/
def Operation.WritesTablesOf : Operation → Nat → Prop
  | .mapShared process _, position => process = position
  | _, _ => False

/-- The tables an operation leaves alone: those of the kernel and of every
process it does not map a page into. -/
structure TablesKept (s s' : System) (operation : Operation) (kernelTables : List Nat) : Prop where
  kernel : AgreeOn kernelTables s.machine.memory s'.machine.memory
  others : ∀ j q, s.processes[j]? = some q → ¬ operation.WritesTablesOf j →
    AgreeOn q.space.tableFrames s.machine.memory s'.machine.memory

section Steps

variable {s s' : System} {pdpts directories reserved : List Nat} {kernelLow : Nat} {process : Nat}
  {operation : Operation}

/-- Memory that changes only outside the owned frames keeps every table. -/
theorem TablesKept.of_agreeOn (reserved : List Nat)
    (agree : AgreeOn (owned s.kernelRoot pdpts directories
      (s.userFrames ++ s.sharedFrames ++ reserved)) s.machine.memory s'.machine.memory) :
    TablesKept s s' operation (s.kernelRoot :: (pdpts ++ directories)) := by
  refine ⟨agree.mono ?_, ?_⟩
  · intro f member
    rcases mem_cons.mp member with rfl | member
    · exact mem_cons_self
    · exact mem_cons_of_mem _ (mem_append_left _ member)
  · intro j q atJ _ f member
    have user := mem_userFrames (mem_of_getElem? atJ) (tableFrames_subset member)
    exact agree f (by simp [user])

theorem mapUserSharedPage_ok {userTable : Nat} {m' : Machine}
    (mapped : mapUserSharedPage userTable frame m = .ok m') : m'.allocator = m.allocator ∧
      m'.memory = setEntry m.memory userTable sharedIndex (entry frame userLink) := by
  unfold mapUserSharedPage at mapped
  split at mapped
  · cases mapped
  split at mapped
  · cases mapped
  · cases mapped
    exact ⟨rfl, rfl⟩

theorem userFrames_set {processes : List Process} (atProcess : processes[process]? = some p) :
    (processes.set process { p with shared }).flatMap (·.space.frames) =
      processes.flatMap (·.space.frames) := by
  have spaces : (processes.set process { p with shared }).map (·.space) =
      processes.map (·.space) := by
    obtain ⟨inside, rfl⟩ := List.getElem?_eq_some_iff.mp atProcess
    apply ext_getElem (by simp)
    intro j first second
    simp only [getElem_map, getElem_set]
    split
    · next same => simp only [same]
    · rfl
  have viaSpaces : ∀ l : List Process,
      l.flatMap (·.space.frames) = (l.map (·.space)).flatMap (·.frames) := by
    intro l
    rw [flatMap_map]
  rw [viaSpaces, viaSpaces, spaces]

theorem deallocateFrames_sound (frames : List Nat) {a a' : Allocator} {live : List Nat}
    (sound : a.Sound (frames ++ live)) (within : a.Within (2 ^ 52))
    (freed : deallocateFrames frames a = some a') : a'.Sound live ∧ a'.Within (2 ^ 52) := by
  induction frames generalizing a with
  | nil =>
    cases freed
    exact ⟨sound, within⟩
  | cons frame rest ih =>
    unfold deallocateFrames at freed
    split at freed
    · cases freed
    · next freedOne =>
      obtain ⟨soundAfter, same⟩ := sound.deallocateFrame freedOne
      exact ih soundAfter (within.of_sameBounds same) freed

namespace Isolated

variable (isolated : Isolated s pdpts directories reserved kernelLow)
include isolated

/-- The private tables of a process survive a change outside the owned frames. -/
theorem space_congr (member : p ∈ s.processes)
    (agree : AgreeOn (s.kernelRoot :: (pdpts ++ directories)) s.machine.memory memory)
    (own : AgreeOn p.space.tableFrames s.machine.memory memory) : ∃ pdpt directory table,
      SpaceTables memory s.kernelRoot kernelLow p.space p.shared pdpt directory table := by
  obtain ⟨pdpt, directory, table, tables⟩ := isolated.spaces p member
  refine ⟨pdpt, directory, table, tables.congr ?_⟩
  intro f inTables
  rcases mem_cons.mp inTables with rfl | inTables
  · exact agree _ mem_cons_self
  · rcases mem_cons.mp inTables with rfl | inTables
    · exact agree f (by simp [isolated.lowIn])
    · exact own f inTables

theorem create {image : List (BitVec 8)} {memorySize : Nat}
    (stepped : s.step (.create image memorySize) = some s') :
    Isolated s' pdpts directories reserved kernelLow ∧
      TablesKept s s' (.create image memorySize) (s.kernelRoot :: (pdpts ++ directories)) := by
  obtain ⟨⟨space, machine⟩, created, done⟩ := Option.bind_eq_some_iff.mp stepped
  cases done
  obtain ⟨sound, within, agree, pdpt, directory, table, tables⟩ := createUserAddressSpace_spec
    isolated.kernel.sound isolated.kernel.within mem_cons_self (by simp [isolated.lowIn])
    isolated.low created
  have kept : TablesKept s ⟨machine, s.kernelRoot, ⟨space, none⟩ :: s.processes, s.sharedFrames⟩
      (.create image memorySize) (s.kernelRoot :: (pdpts ++ directories)) := .of_agreeOn reserved agree
  refine ⟨⟨isolated.kernel.extend (sound.perm ?_) within kept.kernel, isolated.lowIn, ?_, ?_, ?_⟩,
    kept⟩
  · rw [perm_iff_count]
    intro f
    simp only [System.userFrames, flatMap_cons, count_append, count_cons]
    omega
  · exact (congrFun (agree s.kernelRoot mem_cons_self) 0).trans isolated.low
  · intro p member
    rcases mem_cons.mp member with rfl | old
    · exact ⟨pdpt, directory, table, tables⟩
    · obtain ⟨j, inside, rfl⟩ := mem_iff_getElem.mp old
      exact isolated.space_congr old kept.kernel
        (kept.others j _ (getElem?_eq_getElem inside) id)
  · intro p member frame shared
    rcases mem_cons.mp member with rfl | old
    · cases shared
    · exact isolated.shares p old frame shared

theorem allocateShared (stepped : s.step .allocateShared = some s') :
    Isolated s' pdpts directories reserved kernelLow ∧
      TablesKept s s' .allocateShared (s.kernelRoot :: (pdpts ++ directories)) := by
  simp only [System.step] at stepped
  split at stepped
  · cases stepped
    exact ⟨isolated, .of_agreeOn reserved fun _ _ => rfl⟩
  next frame machine allocated =>
  cases stepped
  obtain ⟨sound, within, -, -, agree⟩ :=
    Machine.dataFrame_fresh isolated.kernel.sound isolated.kernel.within allocated
  have kept : TablesKept s ⟨machine, s.kernelRoot, s.processes, frame :: s.sharedFrames⟩
      .allocateShared (s.kernelRoot :: (pdpts ++ directories)) := .of_agreeOn reserved agree
  refine ⟨⟨isolated.kernel.extend (sound.perm ?_) within kept.kernel, isolated.lowIn, ?_, ?_, ?_⟩,
    kept⟩
  · rw [perm_iff_count]
    intro f
    simp only [System.userFrames, count_append, count_cons]
    omega
  · exact (congrFun (agree s.kernelRoot mem_cons_self) 0).trans isolated.low
  · intro p member
    obtain ⟨j, inside, rfl⟩ := mem_iff_getElem.mp member
    exact isolated.space_congr member kept.kernel
      (kept.others j _ (getElem?_eq_getElem inside) id)
  · intro p member f shared
    exact mem_cons_of_mem _ (isolated.shares p member f shared)

/-- The four tables of a process are distinct. -/
theorem tables_nodup (member : p ∈ s.processes) : p.space.tableFrames.Nodup := by
  have own := (nodup_flatMap.mp isolated.userFrames_nodup).1 p member
  exact (nodup_append.mp (nodup_append.mp own).1).1

theorem mapShared (stepped : s.step (.mapShared process frame) = some s') :
    Isolated s' pdpts directories reserved kernelLow ∧
      TablesKept s s' (.mapShared process frame) (s.kernelRoot :: (pdpts ++ directories)) := by
  simp only [System.step, Option.bind_eq_bind, Option.bind_eq_some_iff] at stepped
  obtain ⟨p, atProcess, userTable, atTable, stepped⟩ := stepped
  have member := mem_of_getElem? atProcess
  obtain ⟨pdpt, directory, table, tables⟩ := isolated.spaces p member
  obtain rfl : table = userTable := by
    rw [tables.tables] at atTable
    exact Option.some.inj atTable
  have inSpace : table ∈ p.space.frames := tableFrames_subset (by simp [tables.tables])
  have inUsers := mem_userFrames member inSpace
  have notKernel := (isolated.user_apart inUsers).1
  split at stepped
  · next shared =>
    split at stepped
    · cases stepped
      exact ⟨isolated, .of_agreeOn reserved fun _ _ => rfl⟩
    next machine mapped =>
    cases stepped
    obtain ⟨allocator, memory⟩ := mapUserSharedPage_ok mapped
    have kernelKept : AgreeOn (s.kernelRoot :: (pdpts ++ directories)) s.machine.memory
        machine.memory := by
      rw [memory]
      exact setEntry_agreeOn notKernel
    have othersKept : ∀ j q, s.processes[j]? = some q → process ≠ j →
        AgreeOn q.space.tableFrames s.machine.memory machine.memory := by
      intro j q atJ different
      rw [memory]
      refine setEntry_agreeOn fun inOther => ?_
      exact isolated.frames_disjoint different atProcess atJ inSpace
        (tableFrames_subset inOther)
    refine ⟨⟨isolated.kernel.extend ?_ ?_ kernelKept, isolated.lowIn, ?_, ?_, ?_⟩,
      kernelKept, othersKept⟩
    · simp only [System.userFrames, userFrames_set atProcess, allocator]
      exact isolated.kernel.sound
    · simp only [allocator]
      exact isolated.kernel.within
    · exact (congrFun (kernelKept s.kernelRoot mem_cons_self) 0).trans isolated.low
    · intro q inSet
      obtain ⟨j, inside, rfl⟩ := mem_iff_getElem.mp inSet
      rw [length_set] at inside
      by_cases same : process = j
      · -- The process whose page was mapped.
        subst same
        have ownTables := isolated.tables_nodup member
        rw [tables.tables] at ownTables
        refine ⟨pdpt, directory, table, ?_⟩
        simp only [getElem_set_self, memory]
        refine tables.retouch (setEntry_agreeOn ?_) (fun i other => setEntry_other (.inr other))
          setEntry_same
        have lowIn := isolated.lowIn
        simp only [mem_cons, mem_append, not_or] at notKernel
        simp only [nodup_cons, mem_cons, not_mem_nil, or_false, not_or] at ownTables
        simp only [mem_cons, not_mem_nil, or_false, not_or]
        refine ⟨notKernel.1, fun low => notKernel.2.1 (low ▸ lowIn), Ne.symm ownTables.1.2.2,
          Ne.symm ownTables.2.1.2, Ne.symm ownTables.2.2.1⟩
      · simp only [getElem_set_ne same]
        exact isolated.space_congr (getElem_mem inside) kernelKept
          (othersKept j _ (getElem?_eq_getElem inside) same)
    · intro q inSet f sharedAt
      rcases mem_or_eq_of_mem_set inSet with old | rfl
      · exact isolated.shares q old f sharedAt
      · cases sharedAt
        exact shared
  · cases stepped

theorem release (stepped : s.step (.release process) = some s') :
    Isolated s' pdpts directories reserved kernelLow ∧
      TablesKept s s' (.release process) (s.kernelRoot :: (pdpts ++ directories)) := by
  simp only [System.step, releaseUserAddressSpace, Option.bind_eq_bind,
    Option.bind_eq_some_iff] at stepped
  obtain ⟨p, atProcess, machine, ⟨allocator, freed, done⟩, done'⟩ := stepped
  cases done
  cases done'
  have reordered : (s.userFrames).Perm
      (p.space.frames ++ (s.processes.eraseIdx process).flatMap (·.space.frames)) := by
    obtain ⟨inside, rfl⟩ := List.getElem?_eq_some_iff.mp atProcess
    exact ((getElem_cons_eraseIdx_perm inside).flatMap_right (·.space.frames)).symm
  have owning : (owned s.kernelRoot pdpts directories
      (s.userFrames ++ s.sharedFrames ++ reserved)).Perm
      (p.space.frames ++ owned s.kernelRoot pdpts directories
        ((s.processes.eraseIdx process).flatMap (·.space.frames) ++ s.sharedFrames ++
          reserved)) := by
    rw [perm_iff_count] at reordered ⊢
    intro f
    have counted := reordered f
    simp only [count_append, count_cons] at counted ⊢
    omega
  obtain ⟨sound, within⟩ := deallocateFrames_sound p.space.frames
    (isolated.kernel.sound.perm owning) isolated.kernel.within freed
  refine ⟨⟨isolated.kernel.extend sound within fun _ _ => rfl, isolated.lowIn, isolated.low,
    ?_, ?_⟩, fun _ _ => rfl, fun _ _ _ _ _ _ => rfl⟩
  · intro q member
    exact isolated.spaces q (mem_of_mem_eraseIdx member)
  · intro q member
    exact isolated.shares q (mem_of_mem_eraseIdx member)

theorem step (stepped : s.step operation = some s') :
    Isolated s' pdpts directories reserved kernelLow ∧
      TablesKept s s' operation (s.kernelRoot :: (pdpts ++ directories)) := by
  cases operation with
  | create image memorySize => exact isolated.create stepped
  | allocateShared => exact isolated.allocateShared stepped
  | mapShared process frame => exact isolated.mapShared stepped
  | release process => exact isolated.release stepped

end Isolated

theorem Isolated.reaches {start : System}
    (isolated : Isolated start pdpts directories reserved kernelLow)
    (reaches : start.Reaches s) : Isolated s pdpts directories reserved kernelLow := by
  induction reaches with
  | refl => exact isolated
  | tail _ stepped ih => exact (ih.step stepped).1

end Steps

/-! ## What the hardware sees -/

section Walks

variable {kernelRoot kernelLow : Nat} {pdpt directory table : Nat} {address : BitVec 64}

/-- The four indices of an address. -/
structure Selects (address : BitVec 64) (page : Nat) : Prop where
  canonical : Canonical address
  root : tableIndex address 39 = 0
  pdpt : tableIndex address 30 = pdptIndex
  directory : tableIndex address 21 = directoryIndex
  page : tableIndex address 12 = page

/-- An address selects entry `page` of the last user table exactly when it lies
in the page with that number above the code base. -/
theorem selects_iff (bound : page < ENTRY_COUNT) :
    Selects address page ↔ address.toNat / PAGE_SIZE = USER_CODE_BASE / PAGE_SIZE + page := by
  unfold ENTRY_COUNT at bound
  constructor
  · intro selects
    have root := selects.root
    have pdpt := selects.pdpt
    have directory := selects.directory
    have last := selects.page
    have canonical := selects.canonical
    rw [tableIndex_eq] at root pdpt directory last
    unfold Canonical at canonical
    simp only [pdptIndex, directoryIndex, USER_CODE_BASE, PAGE_SIZE] at *
    omega
  · intro at_
    simp only [USER_CODE_BASE, PAGE_SIZE] at at_
    refine ⟨?_, ?_, ?_, ?_, ?_⟩
    · unfold Canonical
      omega
    all_goals
      rw [tableIndex_eq]
      try simp only [pdptIndex, directoryIndex, USER_CODE_BASE]
      omega

namespace SpaceTables

variable (tables : SpaceTables memory kernelRoot kernelLow space shared pdpt directory table)
include tables

/-- The walk to a user page reaches the last user table with all permissions. -/
theorem translate_page (frames : ∀ f ∈ space.tableFrames, IsFrame f)
    (selects : Selects address page) :
    translateAddress memory space.root address = walk memory address [12] table true true := by
  have frameList := tables.tables
  have pdptFrame : IsFrame pdpt := frames pdpt (by simp [frameList])
  have directoryFrame : IsFrame directory := frames directory (by simp [frameList])
  have tableFrame : IsFrame table := frames table (by simp [frameList])
  unfold translateAddress levels
  rw [if_pos selects.canonical,
    walk_table (by rw [selects.root]; exact tables.rootLink) pdptFrame (by decide),
    walk_table (by rw [selects.pdpt]; exact tables.pdptLink) directoryFrame (by decide),
    walk_table (by rw [selects.directory]; exact tables.directoryLink) tableFrame (by decide)]
  rfl

/-- Outside the user GiB the process walks the kernel's own tables, with the
kernel's permissions. -/
theorem translate_kernel {pdpts directories : List Nat}
    (top : Points memory [kernelRoot] pdpts) (middle : Points memory pdpts directories)
    (lowIn : kernelLow ∈ pdpts) (low : memory kernelRoot 0 = entry kernelLow kernelLink)
    (frames : ∀ f ∈ pdpts ++ directories, IsFrame f) (pdptFrame : IsFrame pdpt)
    (outside : ¬ (tableIndex address 39 = 0 ∧ tableIndex address 30 = pdptIndex)) :
    translateAddress memory space.root address = translateAddress memory kernelRoot address ∧
      ∀ mapping, translateAddress memory kernelRoot address = some mapping → mapping.user = false := by
  unfold translateAddress levels
  by_cases canonical : Canonical address
  · rw [if_pos canonical, if_pos canonical]
    have bound := tableIndex_lt address
    by_cases zero : tableIndex address 39 = 0
    · -- The copied low table: its entry is the kernel's, which is closed.
      have other : tableIndex address 30 ≠ pdptIndex := fun same => outside ⟨zero, same⟩
      have ownRead : memory space.root (tableIndex address 39) = entry pdpt userLink := by
        rw [zero]; exact tables.rootLink
      have kernelRead : memory kernelRoot (tableIndex address 39) = entry kernelLow kernelLink := by
        rw [zero]; exact low
      rw [walk_table ownRead pdptFrame (by decide),
        walk_table kernelRead (frames kernelLow (by simp [lowIn])) (by decide)]
      have entries := tables.pdptRest _ (bound 30) other
      rcases middle kernelLow lowIn (tableIndex address 30) with absent | ⟨d, dIn, link⟩
      · have gone : ¬ Present (memory kernelLow (tableIndex address 30)) := by
          rw [absent]; exact not_present_zero
        rw [walk_absent gone, walk_absent (by rw [entries]; exact gone)]
        exact ⟨rfl, fun mapping none => by cases none⟩
      · have dFrame := frames d (by simp [dIn])
        rw [walk_table (entries.trans link) dFrame (by decide), walk_table link dFrame (by decide)]
        refine ⟨rfl, fun mapping walked => ?_⟩
        by_contra open_
        exact absurd (walk_user_le walked (by simpa using open_)) (by decide)
    · -- A shared root entry: both walks are the same and closed.
      have entries := tables.rootRest _ (bound 39) zero
      refine ⟨walk_congr entries fun _ _ _ => rfl, fun mapping walked => ?_⟩
      rcases top kernelRoot (mem_singleton.mpr rfl) (tableIndex address 39) with
        absent | ⟨p, pIn, link⟩
      · rw [walk_absent (by rw [absent]; exact not_present_zero)] at walked
        cases walked
      · rw [walk_table link (frames p (by simp [pIn])) (by decide)] at walked
        by_contra open_
        exact absurd (walk_user_le walked (by simpa using open_)) (by decide)
  · rw [if_neg canonical, if_neg canonical]
    exact ⟨rfl, fun mapping none => by cases none⟩

/-- The kernel maps nothing in the user GiB. -/
theorem kernel_absent (low : memory kernelRoot 0 = entry kernelLow kernelLink)
    (lowFrame : IsFrame kernelLow) (root : tableIndex address 39 = 0)
    (gib : tableIndex address 30 = pdptIndex) :
    translateAddress memory kernelRoot address = none := by
  unfold translateAddress levels
  split
  · rw [walk_table (by rw [root]; exact low) lowFrame (by decide),
      walk_absent (by rw [gib]; exact tables.kernelGap)]
  · rfl

/-- In the user GiB only the first directory entry is present. -/
theorem translate_gap (frames : ∀ f ∈ space.tableFrames, IsFrame f)
    (root : tableIndex address 39 = 0) (gib : tableIndex address 30 = pdptIndex)
    (other : tableIndex address 21 ≠ directoryIndex) :
    translateAddress memory space.root address = none := by
  have frameList := tables.tables
  have pdptFrame : IsFrame pdpt := frames pdpt (by simp [frameList])
  have directoryFrame : IsFrame directory := frames directory (by simp [frameList])
  unfold translateAddress levels
  split
  · rw [walk_table (by rw [root]; exact tables.rootLink) pdptFrame (by decide),
      walk_table (by rw [gib]; exact tables.pdptLink) directoryFrame (by decide),
      walk_absent (by rw [tables.directoryRest _ other]; exact not_present_zero)]
  · rfl

end SpaceTables

end Walks

/-! ## The view from one process -/

section

variable (address : BitVec 64)

def InCode : Prop :=
  USER_CODE_BASE ≤ address.toNat ∧ address.toNat < USER_STACK_BASE

def InStack : Prop :=
  USER_STACK_BASE ≤ address.toNat ∧ address.toNat < USER_STACK_TOP

def InShared : Prop :=
  USER_SHARED_BASE ≤ address.toNat ∧ address.toNat < USER_SHARED_END

/-- The page of an address, counted from the first code page. -/
def userPage : Nat := address.toNat / PAGE_SIZE - USER_CODE_BASE / PAGE_SIZE

end

/-- What user mode and the kernel see through the root of a process. -/
structure ProcessView (memory : PageWalk.Memory) (kernelRoot : Nat) (p : Process) : Prop where
  accessible : ∀ address, UserAccessible memory p.space.root address ↔
    InCode address ∨ InStack address ∨ (p.shared.isSome = true ∧ InShared address)
  code : ∀ address, InCode address → ∃ frame,
    p.space.codeFrames[userPage address]? = some frame ∧
    translateAddress memory p.space.root address =
      some ⟨frame + address.toNat % PAGE_SIZE, false, true⟩
  stack : ∀ address, InStack address → ∃ frame,
    p.space.stackFrames[userPage address - USER_CODE_PAGES]? = some frame ∧
    translateAddress memory p.space.root address = some ⟨frame + address.toNat % PAGE_SIZE, true, true⟩
  shared : ∀ address frame, p.shared = some frame → InShared address →
    translateAddress memory p.space.root address = some ⟨frame + address.toNat % PAGE_SIZE, true, true⟩
  kernel : ∀ address mapping, translateAddress memory kernelRoot address = some mapping →
    translateAddress memory p.space.root address = some mapping ∧ mapping.user = false

section Views

variable {s : System} {pdpts directories reserved : List Nat} {kernelLow : Nat}
  {address : BitVec 64}

theorem selects_userPage (low : USER_CODE_BASE ≤ address.toNat)
    (high : address.toNat < USER_SHARED_END) : Selects address (userPage address) := by
  simp only [layout] at low high
  refine (selects_iff ?_).mpr ?_
  all_goals
    simp only [userPage, layout]
    omega

variable (isolated : Isolated s pdpts directories reserved kernelLow) (member : p ∈ s.processes)
include isolated member

/-- The frames behind the pages of a process are frames. -/
theorem Isolated.space_isFrame (inSpace : frame ∈ p.space.frames) : IsFrame frame :=
  isolated.isFrame (by simp [mem_userFrames member inSpace])

/-- What the last table holds for a page is where its addresses lead. -/
theorem Isolated.translate_entry {pdpt directory table : Nat} (flags : BitVec 64)
    (tables : SpaceTables s.machine.memory s.kernelRoot kernelLow p.space p.shared pdpt directory
      table) (selects : Selects address page)
    (read : s.machine.memory table page = entry frame flags) (isFrame : IsFrame frame)
    (link : IsFlags flags ∧ Present flags) :
    translateAddress s.machine.memory p.space.root address =
      some ⟨frame + address.toNat % PAGE_SIZE, decide (Writable flags), decide (User flags)⟩ := by
  rw [tables.translate_page
    (fun f inTables => isolated.space_isFrame member (tableFrames_subset inTables)) selects]
  exact walk_page flags (by rw [selects.page]; exact read) isFrame link

theorem Isolated.translate_code (inCode : InCode address) : ∃ frame,
    p.space.codeFrames[userPage address]? = some frame ∧
    translateAddress s.machine.memory p.space.root address =
      some ⟨frame + address.toNat % PAGE_SIZE, false, true⟩ := by
  obtain ⟨pdpt, directory, table, tables⟩ := isolated.spaces p member
  obtain ⟨low, high⟩ := inCode
  have selects : Selects address (userPage address) := selects_userPage low (by
    simp only [layout] at high ⊢
    omega)
  have inside : userPage address < p.space.codeFrames.length := by
    rw [tables.codePages]
    simp only [userPage, layout] at low high ⊢
    omega
  have mapped := getElem?_eq_getElem inside
  refine ⟨_, mapped, isolated.translate_entry member (PRESENT ||| USER_ACCESSIBLE) tables selects ?_
    ?_ (by decide)⟩
  · rw [← tables.code _ _ mapped, show codeIndex = 0 from rfl, Nat.zero_add]
  · refine isolated.space_isFrame member ?_
    exact mem_append_left _ (mem_append_right _ (getElem_mem inside))

theorem Isolated.translate_stack (inStack : InStack address) : ∃ frame,
    p.space.stackFrames[userPage address - USER_CODE_PAGES]? = some frame ∧
    translateAddress s.machine.memory p.space.root address =
      some ⟨frame + address.toNat % PAGE_SIZE, true, true⟩ := by
  obtain ⟨pdpt, directory, table, tables⟩ := isolated.spaces p member
  obtain ⟨low, high⟩ := inStack
  simp only [layout] at low high
  have selects : Selects address (userPage address) := by
    refine selects_userPage ?_ ?_
    all_goals
      simp only [layout]
      omega
  have page : 4 ≤ userPage address ∧ userPage address < 7 := by
    simp only [userPage, layout]
    omega
  have inside : userPage address - USER_CODE_PAGES < p.space.stackFrames.length := by
    rw [tables.stackPages]
    simp only [layout]
    omega
  have mapped := getElem?_eq_getElem inside
  refine ⟨_, mapped, isolated.translate_entry member userLink tables selects ?_ ?_ (by decide)⟩
  · have index : firstStackIndex + (userPage address - USER_CODE_PAGES) = userPage address := by
      simp only [layout]
      omega
    rw [← tables.stack _ _ mapped, index]
  · exact isolated.space_isFrame member (mem_append_right _ (getElem_mem inside))

theorem Isolated.translate_shared (mapped : p.shared = some frame) (inShared : InShared address) :
    translateAddress s.machine.memory p.space.root address =
      some ⟨frame + address.toNat % PAGE_SIZE, true, true⟩ := by
  obtain ⟨pdpt, directory, table, tables⟩ := isolated.spaces p member
  obtain ⟨low, high⟩ := inShared
  simp only [layout] at low high
  have selects : Selects address sharedIndex := by
    refine (selects_iff (by decide)).mpr ?_
    simp only [layout]
    omega
  have read := tables.sharedPage
  rw [mapped] at read
  exact isolated.translate_entry member userLink tables selects read
    (isolated.isFrame (by simp [isolated.shares p member frame mapped])) (by decide)

/-- An address that user mode reaches selects one of the pages of the process. -/
theorem Isolated.selects_of_userAccessible
    (reached : UserAccessible s.machine.memory p.space.root address) :
    ∃ page, page < sharedIndex + 1 ∧ Selects address page ∧
      (page = sharedIndex → p.shared.isSome = true) := by
  obtain ⟨mapping, translated, user⟩ := reached
  obtain ⟨pdpt, directory, table, tables⟩ := isolated.spaces p member
  have frames : ∀ f ∈ p.space.tableFrames, IsFrame f := fun f inTables =>
    isolated.space_isFrame member (tableFrames_subset inTables)
  have canonical : Canonical address := by
    unfold translateAddress at translated
    split at translated
    · assumption
    · cases translated
  by_cases gib : tableIndex address 39 = 0 ∧ tableIndex address 30 = pdptIndex
  · by_cases first : tableIndex address 21 = directoryIndex
    · have selects : Selects address (tableIndex address 12) :=
        ⟨canonical, gib.1, gib.2, first, rfl⟩
      rw [tables.translate_page frames selects] at translated
      refine ⟨tableIndex address 12, ?_, selects, ?_⟩
      · by_contra beyond
        rw [walk_absent (by rw [tables.tableRest _ (by omega)]; exact not_present_zero)]
          at translated
        cases translated
      · intro atShared
        by_contra unmapped
        have nothing : p.shared = none := by simpa using unmapped
        have read := tables.sharedPage
        rw [nothing] at read
        rw [walk_absent (by rw [atShared, read]; exact not_present_zero)] at translated
        cases translated
    · rw [tables.translate_gap frames gib.1 gib.2 first] at translated
      cases translated
  · obtain ⟨same, closed⟩ := tables.translate_kernel isolated.kernel.top isolated.kernel.middle
      isolated.lowIn isolated.low isolated.kernel.isFrame (frames pdpt (by simp [tables.tables])) gib
    rw [same] at translated
    rw [closed mapping translated] at user
    cases user

theorem Isolated.translate_of_kernel
    {mapping : Mapping} (mapped : translateAddress s.machine.memory s.kernelRoot address = some mapping) :
    translateAddress s.machine.memory p.space.root address = some mapping ∧ mapping.user = false := by
  obtain ⟨pdpt, directory, table, tables⟩ := isolated.spaces p member
  by_cases gib : tableIndex address 39 = 0 ∧ tableIndex address 30 = pdptIndex
  · rw [tables.kernel_absent isolated.low
      (isolated.kernel.isFrame kernelLow (mem_append_left _ isolated.lowIn)) gib.1 gib.2] at mapped
    cases mapped
  have pdptFrame : IsFrame pdpt :=
    isolated.space_isFrame member (tableFrames_subset (by simp [tables.tables]))
  obtain ⟨same, closed⟩ := tables.translate_kernel isolated.kernel.top isolated.kernel.middle
    isolated.lowIn isolated.low isolated.kernel.isFrame pdptFrame gib
  exact ⟨same.trans mapped, closed mapping mapped⟩

theorem Isolated.processView : ProcessView s.machine.memory s.kernelRoot p where
  accessible := by
    intro address
    constructor
    · intro reached
      obtain ⟨page, bound, selects, mapped⟩ := isolated.selects_of_userAccessible member reached
      have bound' : page < 8 := bound
      have at_ := (selects_iff (by unfold ENTRY_COUNT; omega)).mp selects
      simp only [InCode, InStack, InShared, layout] at at_ mapped ⊢
      by_cases last : page = 7
      · refine .inr (.inr ⟨mapped last, ?_⟩)
        omega
      · omega
    · intro inside
      rcases inside with inCode | inStack | ⟨mapped, inShared⟩
      · obtain ⟨frame, -, translated⟩ := isolated.translate_code member inCode
        exact ⟨_, translated, rfl⟩
      · obtain ⟨frame, -, translated⟩ := isolated.translate_stack member inStack
        exact ⟨_, translated, rfl⟩
      · obtain ⟨frame, mapped⟩ := Option.isSome_iff_exists.mp mapped
        exact ⟨_, isolated.translate_shared member mapped inShared, rfl⟩
  code := fun _ inCode => isolated.translate_code member inCode
  stack := fun _ inStack => isolated.translate_stack member inStack
  shared := fun _ _ mapped inShared => isolated.translate_shared member mapped inShared
  kernel := fun _ _ mapped => isolated.translate_of_kernel member mapped

end Views

/-! ## Every run -/

/-- The walk from the kernel root visits only the root, the directory-pointer
tables and the directories. -/
theorem KernelTables.tableBelow {root : Nat} {pdpts directories reserved : List Nat}
    (tables : KernelTables m root pdpts directories reserved)
    (below : TableBelow m.memory levels root frame) : frame ∈ root :: (pdpts ++ directories) := by
  have isFrame := tables.isFrame
  rcases below with _ | ⟨-, present, -, below⟩
  · exact mem_cons_self
  rcases tables.top root (mem_singleton.mpr rfl) _ with absent | ⟨p, pIn, link⟩
  · rw [absent] at present
    exact absurd present not_present_zero
  rw [link, frameOf_entry (isFrame p (mem_append_left _ pIn)) (by decide)] at below
  rcases below with _ | ⟨-, present, -, below⟩
  · simp [pIn]
  rcases tables.middle p pIn _ with absent | ⟨d, dIn, link⟩
  · rw [absent] at present
    exact absurd present not_present_zero
  rw [link, frameOf_entry (isFrame d (mem_append_right _ dIn)) (by decide)] at below
  rcases below with _ | ⟨-, present, small, -⟩
  · simp [dIn]
  -- A directory holds large pages only, so the walk ends there.
  rcases tables.leaves d dIn _ with absent | ⟨huge, -⟩
  · rw [absent] at present
    exact absurd present not_present_zero
  · exact absurd ⟨huge, by decide⟩ small

/-- The system right after `install`, before any process exists. -/
def System.booted (machine : Machine) (stats : PagingStats) : System :=
  ⟨machine, stats.pml4, [], []⟩

theorem isolated_booted {map : MemoryMapInfo} (sane : map.Sane (2 ^ 52)) {a : Allocator}
    {reserved : List Nat} (run : AllocatorRun map a reserved) {framebuffer : MmioRange}
    {ranges : List MmioRange} {stats : PagingStats}
    (installed : install framebuffer ranges ⟨a, memory⟩ = some (stats, m)) :
    ∃ pdpts directories kernelLow,
      Isolated (System.booted m stats) pdpts directories reserved kernelLow := by
  obtain ⟨sound, within⟩ := run.sound sane
  obtain ⟨pdpts, directories, tables⟩ := install_kernelTables sound within installed
  obtain ⟨kernelLow, lowIn, low⟩ := tables.low
  refine ⟨pdpts, directories, kernelLow, ?_, lowIn, low, ?_, ?_⟩
  · exact tables
  · exact fun p member => absurd member not_mem_nil
  · exact fun p member => absurd member not_mem_nil

/-- Whatever the firmware map, the MMIO ranges and the operations after boot: each
process sees its own pages and nothing else in user mode, keeps the kernel's
mappings, shares no frame with another process but the shared ones, and no
operation writes a kernel table or a table of a process it does not map into. -/
theorem user_address_spaces_isolated {map : MemoryMapInfo} (sane : map.Sane (2 ^ 52))
    {a : Allocator} {reserved : List Nat} (run : AllocatorRun map a reserved)
    {memory : PageWalk.Memory} {framebuffer : MmioRange} {ranges : List MmioRange}
    {stats : PagingStats} {m : Machine}
    (installed : install framebuffer ranges ⟨a, memory⟩ = some (stats, m)) {s : System}
    (reaches : (System.booted m stats).Reaches s) :
    (∀ p ∈ s.processes, ProcessView s.machine.memory s.kernelRoot p ∧
      (∀ frame, p.shared = some frame → frame ∈ s.sharedFrames) ∧
      ∀ frame ∈ p.space.frames, frame ∉ s.sharedFrames ∧ frame ∉ reserved) ∧
    (∀ (i j : Nat) (p q : Process), i ≠ j → s.processes[i]? = some p → s.processes[j]? = some q →
      ∀ frame ∈ p.space.frames, frame ∉ q.space.frames) ∧
    (∀ operation s', s.step operation = some s' →
      (∀ frame, TableBelow s.machine.memory levels s.kernelRoot frame →
        s'.machine.memory frame = s.machine.memory frame) ∧
      ∀ j q, s.processes[j]? = some q → ¬ operation.WritesTablesOf j →
        ∀ frame ∈ q.space.tableFrames, s'.machine.memory frame = s.machine.memory frame) := by
  obtain ⟨pdpts, directories, kernelLow, booted⟩ := isolated_booted sane run installed
  have isolated := booted.reaches reaches
  refine ⟨?_, ?_, ?_⟩
  · intro p member
    refine ⟨isolated.processView member, isolated.shares p member, fun frame inSpace => ?_⟩
    exact (isolated.user_apart (mem_userFrames member inSpace)).2
  · intro i j p q different atI atJ frame inP
    exact isolated.frames_disjoint different atI atJ inP
  · intro operation s' stepped
    obtain ⟨-, kept⟩ := isolated.step stepped
    exact ⟨fun frame below => kept.kernel frame (isolated.kernel.tableBelow below),
      fun j q atJ untouched frame inTables => kept.others j q atJ untouched frame inTables⟩

/-- The operations of a list, in order. -/
def System.run (s : System) : List Operation → Option System
  | [] => some s
  | operation :: rest => (s.step operation).bind fun s' => System.run s' rest

theorem System.Reaches.run {start s s' : System} {operations : List Operation}
    (reached : start.Reaches s) (ran : s.run operations = some s') : start.Reaches s' := by
  induction operations generalizing s with
  | nil =>
    cases ran
    exact reached
  | cons operation rest ih =>
    obtain ⟨next, stepped, ran⟩ := Option.bind_eq_some_iff.mp ran
    exact ih (reached.tail stepped) ran

/-- A firmware map with one conventional region of 64 pages at one MiB. -/
def oneRegionMap : MemoryMapInfo := ⟨48, 48, [⟨UEFI_CONVENTIONAL_MEMORY, 0x100000, 64⟩]⟩

/-- Boot, create two processes and map a shared page into the older one. -/
def bootTwoProcesses : Option System :=
  (install ⟨0, 0⟩ [] ⟨initializeAllocator oneRegionMap, fun _ _ => 0#64⟩).bind fun installed =>
    (System.booted installed.2 installed.1).run
      [.create [0x90#8, 0xF4#8] 2, .create [0xC3#8] 1, .allocateShared, .mapShared 1 0x119000]

theorem user_address_spaces_isolated_bootTwoProcesses : ∃ s, bootTwoProcesses = some s ∧
    s.processes.map (·.shared) = [none, some 0x119000] ∧
    (∀ p ∈ s.processes, ProcessView s.machine.memory s.kernelRoot p) ∧
    ∀ p q, s.processes[0]? = some p → s.processes[1]? = some q →
      ∀ frame ∈ p.space.frames, frame ∉ q.space.frames := by
  have runs : bootTwoProcesses.map (fun s => s.processes.map (·.shared)) =
      some [none, some 0x119000] := by decide +kernel
  obtain ⟨s, ran, shares⟩ := Option.map_eq_some_iff.mp runs
  have split := ran
  simp only [bootTwoProcesses, Option.bind_eq_some_iff] at split
  obtain ⟨⟨stats, m⟩, installed, ran'⟩ := split
  have sane : oneRegionMap.Sane (2 ^ 52) := by
    refine ⟨?_, ?_, pairwise_singleton _ _⟩
    · intro d member _
      rw [mem_singleton.mp member]
      decide
    · intro d member _
      rw [mem_singleton.mp member]
      decide
  obtain ⟨views, disjoint, -⟩ :=
    user_address_spaces_isolated sane .initial installed (System.Reaches.refl.run ran')
  exact ⟨s, ran, shares, fun p member => (views p member).1,
    fun p q atP atQ => disjoint 0 1 p q (by decide) atP atQ⟩

end SlopOS.Memory
