import SlopOS.Base.CrashDisk
import SlopOS.Ext4.Inode
import SlopOS.Filesystem.Block

/-!
# The block device and the block cache

The bounded transfers of the device as block programs, and the cache the mount
reads through.  A device failure halts the
kernel, so it is the failure of the program.
-/

namespace SlopOS.Filesystem

open ByteCodec CrashDisk Ext4 List
open Program (run_bind_of_ok run_require run_expectSome require expectSome)

def SECTOR_SIZE : Nat := 512
def SUPERBLOCK_SECTOR : Nat := 2
def CACHE_ENTRY_COUNT : Nat := 8

/-! ## The device -/

abbrev Io := Program Block

structure BlockDevice where
  capacitySectors : Nat
  flushSupported : Bool
  deriving DecidableEq, Repr

namespace BlockDevice

variable (device : BlockDevice)

/-- `validate_transfer`. -/
def holds (sector byteCount : Nat) : Bool :=
  sector + byteCount / SECTOR_SIZE ≤ device.capacitySectors ∧
    sector + byteCount / SECTOR_SIZE < 2 ^ 64

/-- A read of one block; block-sized transfers start at a block boundary. -/
def read (sector : Nat) : Io Block := do
  require (device.holds sector BLOCK_SIZE) "virtio block transfer is outside device bounds"
  .read (sector / (BLOCK_SIZE / SECTOR_SIZE)) .pure

/-- Two reads published together, after both transfers are checked. -/
def readPair (first second : Nat) : Io (Block × Block) := do
  require (device.holds first BLOCK_SIZE) "virtio block transfer is outside device bounds"
  require (device.holds second BLOCK_SIZE) "virtio block transfer is outside device bounds"
  .read (first / (BLOCK_SIZE / SECTOR_SIZE)) fun a =>
    .read (second / (BLOCK_SIZE / SECTOR_SIZE)) fun b => .pure (a, b)

def write (sector : Nat) (data : Block) : Io Unit := do
  require (device.holds sector BLOCK_SIZE) "virtio block transfer is outside device bounds"
  .write (sector / (BLOCK_SIZE / SECTOR_SIZE)) data (.pure ())

def flush : Io Unit := do
  require device.flushSupported "virtio block device does not support flush"
  .flush (.pure ())

/-- The read of the 1024-byte superblock at sector 2. -/
def readSuperblock : Io Bytes := do
  require (device.holds SUPERBLOCK_SECTOR SUPERBLOCK_SIZE)
    "virtio block transfer is outside device bounds"
  .read 0 fun block => .pure block.superblock

end BlockDevice

def blockToSector (superblock : Superblock) (block : Nat) : Io Nat := do
  let byteOffset := block * superblock.blockSize.toNat
  require (byteOffset < 2 ^ 64) "ext4 block offset overflow"
  require (byteOffset % SECTOR_SIZE = 0) "ext4 block is not sector aligned"
  return byteOffset / SECTOR_SIZE

/-- `checked_add` on 64 bits. -/
def checkedAdd (a b : Nat) (message : String) : Io Nat :=
  expectSome (if a + b < 2 ^ 64 then some (a + b) else none) message

section

variable (device : BlockDevice) (superblock : Superblock)

def readBlock (block : Nat) : Io Block := do
  let sector ← blockToSector superblock block
  device.read sector

def writeBlock (block : Nat) (data : Block) : Io Unit := do
  let sector ← blockToSector superblock block
  device.write sector data

/-- A loop of block writes. -/
def writeBlocks : List (Nat × Block) → Io Unit
  | [] => .pure ()
  | (block, data) :: rest => do
      writeBlock device superblock block data
      writeBlocks rest

/-- A loop of block reads. -/
def readBlocks : List Nat → Io (List Block)
  | [] => .pure []
  | block :: rest => do
      let data ← readBlock device superblock block
      let others ← readBlocks rest
      return data :: others

/-- A loop that reads blocks back and compares them. -/
def verifyBlocks (message : String) : List (Nat × Block) → Io Unit
  | [] => .pure ()
  | (block, expected) :: rest => do
      let data ← readBlock device superblock block
      require (data = expected) message
      verifyBlocks message rest

end

/-! ## The block cache -/

structure CacheEntry where
  block : Nat
  valid : Bool
  /-- The contents of the entry's frame. -/
  data : Block
  deriving DecidableEq

structure BlockCache where
  entries : List CacheEntry
  nextVictim : Nat
  hits : Nat
  misses : Nat
  batchedPairs : Nat
  invalidations : Nat
  deriving DecidableEq

namespace BlockCache

def new : BlockCache :=
  ⟨List.replicate CACHE_ENTRY_COUNT ⟨0, false, Block.zero⟩, 0, 0, 0, 0, 0⟩

variable (cache : BlockCache)

def find (block : Nat) : Option CacheEntry :=
  cache.entries.find? fun entry => entry.valid && entry.block == block

/-- The cache after a miss was filled into the next victim. -/
def fill (block : Nat) (data : Block) : BlockCache :=
  { cache with
    entries := cache.entries.set cache.nextVictim ⟨block, true, data⟩
    nextVictim := (cache.nextVictim + 1) % CACHE_ENTRY_COUNT
    misses := cache.misses + 1 }

variable (device : BlockDevice) (superblock : Superblock) (block : Nat)

def readBlock : Io (Block × BlockCache) :=
  match cache.find block with
  | some entry => .pure (entry.data, { cache with hits := cache.hits + 1 })
  | none => do
      let data ← Filesystem.readBlock device superblock block
      return (data, cache.fill block data)

/-- Both blocks go into the next two victims; a pair of which one is cached is left alone. -/
def prefetchPair (first second : Nat) : Io BlockCache := do
  require (first ≠ second) "ext4 paired prefetch blocks are not distinct"
  if (cache.find first).isSome || (cache.find second).isSome then return cache
  else
    let firstSector ← blockToSector superblock first
    let secondSector ← blockToSector superblock second
    let (a, b) ← device.readPair firstSector secondSector
    return { (cache.fill first a).fill second b with batchedPairs := cache.batchedPairs + 1 }

def invalidate : BlockCache :=
  match cache.entries.findIdx? fun entry => entry.valid && entry.block == block with
  | none => cache
  | some index =>
      { cache with
        entries := cache.entries.modify index fun entry => { entry with valid := false }
        invalidations := cache.invalidations + 1 }

end BlockCache

/-! ## Rules for the transfers

The block size has been checked, so block `b` starts at sector `8 b`. -/

variable {writes : List (Nat × Block)} {message : String}

section Rules

variable {device : BlockDevice} {superblock : Superblock} {crash : Disk Block → Prop}
  {s : State Block} {block : Nat} {data : Block} {disk : Disk Block}

theorem sector_block (block : Nat) : block * 8 / (BLOCK_SIZE / SECTOR_SIZE) = block :=
  Nat.mul_div_cancel block (by decide)

theorem ensures_read {post : Block → State Block → Prop} (safe : s.Safe crash)
    (next : post (s.view block) s) : (device.read (block * 8)).Ensures crash post s := by
  refine .require fun _ => ?_
  rw [sector_block]
  exact ⟨safe, next⟩

section

variable (size : superblock.blockSize = 4096#32)
include size

theorem byteOffset_sector (block : Nat) :
    block * superblock.blockSize.toNat / SECTOR_SIZE = block * 8 := by
  rw [size]
  show block * 4096 / 512 = block * 8
  omega

theorem ensures_blockToSector {post : Nat → State Block → Prop} (safe : s.Safe crash)
    (next : post (block * 8) s) : (blockToSector superblock block).Ensures crash post s := by
  refine .require fun _ => ?_
  refine .require fun _ => ?_
  rw [byteOffset_sector size]
  exact ⟨safe, next⟩

theorem ensures_readBlock {post : Block → State Block → Prop} (safe : s.Safe crash)
    (next : post (s.view block) s) : (readBlock device superblock block).Ensures crash post s :=
  Program.Ensures.bind (ensures_blockToSector size safe (ensures_read safe next))

end

theorem ensures_checkedAdd {post : Nat → State Block → Prop} {a b : Nat} (safe : s.Safe crash)
    (next : post (a + b) s) : (checkedAdd a b message).Ensures crash post s := by
  refine Program.ensures_expectSome fun value found => ?_
  split at found
  · cases found
    exact next
  · cases found

section

variable {post : Unit → State Block → Prop}

theorem ensures_write (safe : (s.write block data).Safe crash) (next : post () (s.write block data))
    : (device.write (block * 8) data).Ensures crash post s := by
  refine .require (fun _ => ?_) safe.of_write
  rw [sector_block]
  exact ⟨safe, next⟩

theorem ensures_flush (safe : s.Safe crash) (settledSafe : crash s.view)
    (next : post () (State.settled s.view)) : device.flush.Ensures crash post s := by
  refine .require fun _ => ?_
  exact ⟨safe, State.safe_settled.mpr settledSafe, next⟩

theorem ensures_writeBlocks (size : superblock.blockSize = 4096#32)
    (safe : (⟨s.durable, s.pending ++ writes⟩ : State Block).Safe crash)
    (next : post () ⟨s.durable, s.pending ++ writes⟩) :
    (writeBlocks device superblock writes).Ensures crash post s := by
  induction writes generalizing s with
  | nil =>
    rw [append_nil] at safe next
    exact ⟨safe, next⟩
  | cons write rest ih =>
    have moved : s.pending ++ write :: rest = (s.write write.1 write.2).pending ++ rest := by
      rw [append_cons]
      rfl
    rw [moved] at safe next
    have first : (s.write write.1 write.2).Safe crash := fun c survived => by
      obtain ⟨kept, sublist, rfl⟩ := survived
      exact safe _ ⟨kept, sublist.trans (sublist_append_left _ _), rfl⟩
    refine .bind (Program.Ensures.bind ?_)
    exact ensures_blockToSector size first.of_write (ensures_write first (ih safe next))

end

variable {α : Type} {rest : Unit → Io α} {post : α → State Block → Prop}

section

variable (size : superblock.blockSize = 4096#32)
include size

/-- A burst of writes and a flush on a settled disk: a crash keeps some of the
writes, and the rest runs with all of them. -/
theorem ensures_burst (torn : ∀ kept, Sublist kept writes → crash (apply disk kept))
    (next : (rest ()).Ensures crash post (State.settled (apply disk writes))) :
    (writeBlocks device superblock writes >>= fun _ => device.flush >>= rest).Ensures crash post
      (State.settled disk) := by
  have safe : (⟨disk, writes⟩ : State Block).Safe crash := fun c survived => by
    obtain ⟨kept, sublist, rfl⟩ := survived
    exact torn kept sublist
  refine .bind (ensures_writeBlocks size safe ?_)
  exact .bind (ensures_flush safe (torn writes (Sublist.refl _)) next)

theorem ensures_readBlocks {post : List Block → State Block → Prop} (safe : s.Safe crash)
    {blocks : List Nat} (next : post (blocks.map s.view) s) :
    (readBlocks device superblock blocks).Ensures crash post s := by
  induction blocks generalizing post with
  | nil => exact ⟨safe, next⟩
  | cons block rest ih =>
    refine .bind (ensures_readBlock size safe ?_)
    exact .bind (ih ⟨safe, next⟩)

theorem ensures_verifyBlocks {post : Unit → State Block → Prop} (safe : s.Safe crash)
    {expected : List (Nat × Block)} (next : post () s) :
    (verifyBlocks device superblock message expected).Ensures crash post s := by
  induction expected with
  | nil => exact ⟨safe, next⟩
  | cons block rest ih =>
    refine .bind (ensures_readBlock size safe ?_)
    exact .require fun _ => ih

end

/-- One write and a flush on a settled disk. -/
theorem ensures_update (before : crash disk)
    (next : (rest ()).Ensures crash post (State.settled (Function.update disk block data))) :
    (device.write (block * 8) data >>= fun _ => device.flush >>= rest).Ensures crash post
      (State.settled disk) := by
  have after := State.safe_settled.mp next.safe
  have safe : ((State.settled disk).write block data).Safe crash := fun c survived => by
    obtain ⟨kept, sublist, rfl⟩ := survived
    rcases sublist_singleton.mp sublist with rfl | rfl
    · exact before
    · exact after
  exact Program.Ensures.bind
    (ensures_write safe (Program.Ensures.bind (ensures_flush safe after next)))

end Rules

end SlopOS.Filesystem

namespace CrashDisk.Program.Ensures

open SlopOS Ext4 Filesystem

/-! A step inside a longer program is safe because the rest of it is. -/

variable {α : Type} {device : BlockDevice} {superblock : Superblock} {crash : Disk Block → Prop}
  {s : State Block} {block : Nat} {post : α → State Block → Prop} {atBlock : Block → Io α}
  {next : Nat → Io α}

theorem adding {a b : Nat} {message : String} (rest : (next (a + b)).Ensures crash post s) :
    (checkedAdd a b message >>= next).Ensures crash post s :=
  .bind (ensures_checkedAdd rest.safe rest)

theorem reading (rest : (atBlock (s.view block)).Ensures crash post s) :
    (device.read (block * 8) >>= atBlock).Ensures crash post s :=
  .bind (ensures_read rest.safe rest)

variable (size : superblock.blockSize = 4096#32)
include size

theorem sector (rest : (next (block * 8)).Ensures crash post s) :
    (blockToSector superblock block >>= next).Ensures crash post s :=
  .bind (ensures_blockToSector size rest.safe rest)

theorem readingBlock (rest : (atBlock (s.view block)).Ensures crash post s) :
    (readBlock device superblock block >>= atBlock).Ensures crash post s :=
  .bind (ensures_readBlock size rest.safe rest)

end CrashDisk.Program.Ensures

namespace SlopOS.Filesystem

open ByteCodec CrashDisk Ext4 List
open Program (run_bind_of_ok run_require run_expectSome)

variable {writes : List (Nat × Block)} {message : String}

/-! ## Transfers that succeed -/

/-- The device holds the blocks below `limit` and can flush. -/
structure BlockDevice.Fits (device : BlockDevice) (limit : Nat) : Prop where
  flush : device.flushSupported = true
  capacity : limit * 8 ≤ device.capacitySectors
  bytes : limit * 4096 < 2 ^ 64

section Runs

variable {device : BlockDevice} {superblock : Superblock} {s : State Block} {limit block : Nat}
  {data : Block}

section

variable (fits : device.Fits limit) (below : block < limit)
include fits below

theorem BlockDevice.Fits.holds : device.holds (block * 8) BLOCK_SIZE = true := by
  have capacity := fits.capacity
  have bytes := fits.bytes
  refine decide_eq_true ?_
  show block * 8 + 4096 / 512 ≤ device.capacitySectors ∧ block * 8 + 4096 / 512 < 2 ^ 64
  omega

theorem BlockDevice.Fits.bytes_lt : block * 4096 < 2 ^ 64 :=
  lt_trans ((Nat.mul_lt_mul_right (by decide)).mpr below) fits.bytes

theorem run_read : (device.read (block * 8)).run s = .ok (s.view block, s) := by
  unfold BlockDevice.read
  rw [run_bind_of_ok (run_require (fits.holds below)), sector_block]
  rfl

theorem run_write : (device.write (block * 8) data).run s = .ok ((), s.write block data) := by
  unfold BlockDevice.write
  rw [run_bind_of_ok (run_require (fits.holds below)), sector_block]
  rfl

end

section

variable (size : superblock.blockSize = 4096#32) (fits : device.Fits limit) (below : block < limit)
include size fits below

theorem run_blockToSector : (blockToSector superblock block).run s = .ok (block * 8, s) := by
  have unit : superblock.blockSize.toNat = 4096 := by rw [size]; decide
  have small : block * superblock.blockSize.toNat < 2 ^ 64 :=
    lt_of_le_of_lt (le_of_eq (congrArg (block * ·) unit)) (fits.bytes_lt below)
  have aligned : block * superblock.blockSize.toNat % SECTOR_SIZE = 0 := by
    rw [unit]
    show block * 4096 % 512 = 0
    omega
  unfold blockToSector
  rw [run_bind_of_ok (run_require (decide_eq_true small)),
    run_bind_of_ok (run_require (decide_eq_true aligned)), byteOffset_sector size]
  rfl

theorem run_readBlock : (readBlock device superblock block).run s = .ok (s.view block, s) := by
  unfold readBlock
  rw [run_bind_of_ok (run_blockToSector size fits below)]
  exact run_read fits below

end

theorem run_flush (fits : device.Fits limit) :
    device.flush.run s = .ok ((), State.settled s.view) := by
  unfold BlockDevice.flush
  rw [run_bind_of_ok (run_require fits.flush)]
  rfl

section

variable (size : superblock.blockSize = 4096#32) (fits : device.Fits limit)
include size fits

theorem run_writeBlocks (below : ∀ write ∈ writes, write.1 < limit) :
    (writeBlocks device superblock writes).run s = .ok ((), ⟨s.durable, s.pending ++ writes⟩) := by
  induction writes generalizing s with
  | nil => rw [append_nil]; rfl
  | cons write rest ih =>
    have first : (writeBlock device superblock write.1 write.2).run s =
        .ok ((), s.write write.1 write.2) := by
      unfold writeBlock
      rw [run_bind_of_ok (run_blockToSector size fits (below write mem_cons_self))]
      exact run_write fits (below write mem_cons_self)
    unfold writeBlocks
    rw [run_bind_of_ok first,
      ih fun write member => below write (mem_cons_of_mem _ member), append_cons]
    rfl

theorem run_readBlocks {blocks : List Nat} (below : ∀ block ∈ blocks, block < limit) :
    (readBlocks device superblock blocks).run s = .ok (blocks.map s.view, s) := by
  induction blocks with
  | nil => rfl
  | cons block rest ih =>
    unfold readBlocks
    rw [run_bind_of_ok (run_readBlock size fits (below block mem_cons_self)),
      run_bind_of_ok (ih fun block member => below block (mem_cons_of_mem _ member))]
    rfl

theorem run_verifyBlocks {expected : List (Nat × Block)}
    (held : ∀ write ∈ expected, write.1 < limit ∧ s.view write.1 = write.2) :
    (verifyBlocks device superblock message expected).run s = .ok ((), s) := by
  induction expected with
  | nil => rfl
  | cons write rest ih =>
    have first := held write mem_cons_self
    unfold verifyBlocks
    rw [run_bind_of_ok (run_readBlock size fits first.1),
      run_bind_of_ok (run_require (decide_eq_true first.2))]
    exact ih fun write member => held write (mem_cons_of_mem _ member)

end

theorem run_checkedAdd {a b : Nat} (small : a + b < 2 ^ 64) :
    (checkedAdd a b message).run s = .ok (a + b, s) :=
  run_expectSome (if_pos small)

end Runs

/-! ## Coherent caches -/

/-- The valid entries hold what the disk holds. -/
def BlockCache.Coherent (cache : BlockCache) (view : Disk Block) : Prop :=
  ∀ entry ∈ cache.entries, entry.valid = true → entry.data = view entry.block

/-- The shape every operation keeps: all slots, a victim among them, and no block number
with two valid entries. -/
structure BlockCache.WellFormed (cache : BlockCache) : Prop where
  full : cache.entries.length = CACHE_ENTRY_COUNT
  victim : cache.nextVictim < CACHE_ENTRY_COUNT
  distinct : ∀ (i j : Nat) (a b : CacheEntry), cache.entries[i]? = some a → cache.entries[j]? = some b →
    a.valid = true → b.valid = true → a.block = b.block → i = j

structure BlockCache.Consistent (cache : BlockCache) (view : Disk Block) : Prop extends
    cache.WellFormed where
  coherent : cache.Coherent view

section Cache

variable {cache : BlockCache} {view : Disk Block} {block : Nat} {entry : CacheEntry}

theorem BlockCache.find_ne_none (member : entry ∈ cache.entries) (valid : entry.valid = true) :
    cache.find entry.block ≠ none := by
  intro absent
  have other := find?_eq_none.mp absent entry member
  simp [valid] at other

theorem BlockCache.find_some (found : cache.find block = some entry) :
    entry ∈ cache.entries ∧ entry.valid = true ∧ entry.block = block := by
  have matched := find?_some found
  rw [Bool.and_eq_true, beq_iff_eq] at matched
  exact ⟨mem_of_find?_eq_some found, matched⟩

theorem BlockCache.consistent_new (view : Disk Block) : new.Consistent view where
  full := length_replicate
  victim := by decide
  distinct := by
    intro i j a b first _ valid
    rw [eq_of_mem_replicate (mem_of_getElem? first)] at valid
    cases valid
  coherent := by
    intro entry member valid
    rw [eq_of_mem_replicate member] at valid
    cases valid

theorem BlockCache.WellFormed.fill (formed : cache.WellFormed) (absent : cache.find block = none)
    (data : Block) : (cache.fill block data).WellFormed where
  full := length_set.trans formed.full
  victim := Nat.mod_lt _ (by decide)
  distinct := by
    intro i j a b first second validA validB same
    -- An entry is the new one or an old one, and no old one has the number of the new one.
    have origin {k : Nat} {entry : CacheEntry}
        (found : (cache.fill block data).entries[k]? = some entry) (valid : entry.valid = true) :
        (k = cache.nextVictim ∧ entry.block = block) ∨
          (cache.entries[k]? = some entry ∧ entry.block ≠ block) := by
      unfold BlockCache.fill at found
      rw [getElem?_set] at found
      split at found
      · next here =>
        split at found
        · cases found
          exact .inl ⟨here.symm, rfl⟩
        · cases found
      · refine .inr ⟨found, fun equal => ?_⟩
        apply find_ne_none (mem_of_getElem? found) valid
        rw [equal]
        exact absent
    rcases origin first validA with ⟨rfl, blockA⟩ | ⟨oldA, otherA⟩
    · rcases origin second validB with ⟨rfl, -⟩ | ⟨-, otherB⟩
      · rfl
      · exact absurd (same.symm.trans blockA) otherB
    · rcases origin second validB with ⟨rfl, blockB⟩ | ⟨oldB, -⟩
      · exact absurd (same.trans blockB) otherA
      · exact formed.distinct i j a b oldA oldB validA validB same

theorem BlockCache.Consistent.fill (consistent : cache.Consistent view)
    (absent : cache.find block = none) : (cache.fill block (view block)).Consistent view where
  toWellFormed := consistent.toWellFormed.fill absent _
  coherent := by
    intro entry member valid
    rcases mem_or_eq_of_mem_set member with old | rfl
    · exact consistent.coherent entry old valid
    · rfl

/-- A block stays uncached when another one is filled in. -/
theorem BlockCache.find_fill_of_ne {other : Nat} {data : Block} (absent : cache.find block = none)
    (apart : block ≠ other) : (cache.fill other data).find block = none := by
  apply find?_eq_none.mpr
  intro entry member
  rcases mem_or_eq_of_mem_set member with old | rfl
  · exact find?_eq_none.mp absent entry old
  · simp [apart.symm]

section

variable {device : BlockDevice} {superblock : Superblock} {crash : Disk Block → Prop}
  {s : State Block} (size : superblock.blockSize = 4096#32) (safe : s.Safe crash)
  (consistent : cache.Consistent s.view)
include size safe consistent

/-- A read through a consistent cache returns the contents of the disk. -/
theorem ensures_cacheRead {post : Block × BlockCache → State Block → Prop}
    (next : ∀ cache' : BlockCache, cache'.Consistent s.view → post (s.view block, cache') s) :
    (cache.readBlock device superblock block).Ensures crash post s := by
  unfold BlockCache.readBlock
  cases found : cache.find block with
  | some entry =>
    obtain ⟨member, valid, same⟩ := BlockCache.find_some found
    have data := consistent.coherent entry member valid
    rw [same] at data
    apply And.intro safe
    rw [data]
    exact next _ ⟨⟨consistent.full, consistent.victim, consistent.distinct⟩, consistent.coherent⟩
  | none =>
    exact .bind (ensures_readBlock size safe ⟨safe, next _ (consistent.fill found)⟩)

/-- A paired read fills in what the disk holds. -/
theorem ensures_prefetchPair {first second : Nat} {post : BlockCache → State Block → Prop}
    (next : ∀ cache' : BlockCache, cache'.Consistent s.view → post cache' s) :
    (cache.prefetchPair device superblock first second).Ensures crash post s := by
  refine .require fun apart => ?_
  have apart := of_decide_eq_true apart
  split
  · exact ⟨safe, next _ consistent⟩
  next uncached =>
  rw [Bool.or_eq_true, not_or, Option.not_isSome_iff_eq_none, Option.not_isSome_iff_eq_none]
    at uncached
  refine .sector size ?_
  refine .sector size ?_
  apply Program.Ensures.bind
  refine .require fun _ => ?_
  refine .require fun _ => ?_
  rw [sector_block, sector_block]
  have still : (cache.fill first (s.view first)).find second = none :=
    BlockCache.find_fill_of_ne uncached.2 apart.symm
  have filled := (consistent.fill uncached.1).fill still
  exact ⟨safe, safe, next _ ⟨⟨filled.full, filled.victim, filled.distinct⟩, filled.coherent⟩⟩

end

theorem BlockCache.getElem?_invalidate {i : Nat}
    (found : (cache.invalidate block).entries[i]? = some entry) (valid : entry.valid = true) :
    cache.entries[i]? = some entry := by
  unfold invalidate at found
  split at found
  · exact found
  rw [getElem?_modify] at found
  cases old : cache.entries[i]? with
  | none =>
    rw [old] at found
    cases found
  | some e =>
    rw [old] at found
    have changed := Option.some.inj found
    dsimp only at changed
    split at changed
    · rw [← changed] at valid
      cases valid
    · rw [changed]

theorem BlockCache.WellFormed.invalidate (formed : cache.WellFormed) (block : Nat) :
    (cache.invalidate block).WellFormed where
  full := by
    unfold BlockCache.invalidate
    split
    · exact formed.full
    · exact (length_modify _ _ _).trans formed.full
  victim := by
    unfold BlockCache.invalidate
    split
    · exact formed.victim
    · exact formed.victim
  distinct := fun i j a b first second validA validB =>
    formed.distinct i j a b (getElem?_invalidate first validA)
      (getElem?_invalidate second validB) validA validB

/-- The invalidated number has no valid entry left. -/
theorem BlockCache.WellFormed.invalidate_ne (formed : cache.WellFormed)
    (member : entry ∈ (cache.invalidate block).entries) (valid : entry.valid = true) :
    entry ∈ cache.entries ∧ entry.block ≠ block := by
  obtain ⟨i, found⟩ := mem_iff_getElem?.mp member
  have old := getElem?_invalidate found valid
  apply And.intro (mem_of_getElem? old)
  intro same
  cases index : cache.entries.findIdx? fun entry => entry.valid && entry.block == block with
  | none =>
    have other := findIdx?_eq_none_iff.mp index entry (mem_of_getElem? old)
    simp [valid, same] at other
  | some k =>
    -- The entry that was cleared is the only one with this number, so it is this one.
    obtain ⟨bound, matched, -⟩ := findIdx?_eq_some_iff_getElem.mp index
    rw [Bool.and_eq_true, beq_iff_eq] at matched
    have here : k = i := formed.distinct k i _ entry (getElem?_eq_getElem bound) old
      matched.1 valid (matched.2.trans same.symm)
    unfold BlockCache.invalidate at found
    rw [index] at found
    rw [here, getElem?_modify, old] at found
    have changed := Option.some.inj found
    dsimp only at changed
    rw [if_pos rfl] at changed
    rw [← changed] at valid
    cases valid

end Cache

end SlopOS.Filesystem
