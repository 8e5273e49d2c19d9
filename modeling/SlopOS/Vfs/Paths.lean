import SlopOS.Base.Slots
import SlopOS.Ext4.Directory

/-!
# Absolute paths and the mount table

`AbsolutePath::parse` keeps at most sixteen components and resolves `.` and `..` without
looking at the filesystem.  `normalize` is that resolution without any bound; a path
that is accepted has exactly the components `normalize` gives it, and each of them is one
a directory can hold.
-/

namespace SlopOS.Vfs

open ByteCodec Ext4 List

def MAX_PATH_COMPONENTS : Nat := 16
def MAX_MOUNT_PATH_BYTES : Nat := 256

inductive VfsError where
  | invalidPath
  | tooManyComponents
  | mountPathTooLong
  | mountTableFull
  | duplicateMount
  | mountNotFound
  | fileTableFull
  | badFileDescriptor
  | invalidOffset
  | notReadable
  | notWritable
  deriving DecidableEq, Repr

/-! ## Paths -/

structure AbsolutePath where
  components : List Bytes
  deriving DecidableEq, Repr

def AbsolutePath.componentCount (path : AbsolutePath) : Nat := path.components.length

/-- The loop over the parts between slashes. -/
def parseComponents : List Bytes → List Bytes → Except VfsError (List Bytes)
  | components, [] => .ok components
  | components, component :: rest =>
      if component = [] ∨ component = DOT then parseComponents components rest
      else if component = DOT_DOT then parseComponents components.dropLast rest
      else if 255 < component.length then throw .invalidPath
      else if components.length = MAX_PATH_COMPONENTS then throw .tooManyComponents
      else parseComponents (components ++ [component]) rest

def AbsolutePath.parse (path : Bytes) : Except VfsError AbsolutePath :=
  if path.head? ≠ some SLASH ∨ 0#8 ∈ path then throw .invalidPath
  else do
    let components ← parseComponents [] (path.splitOn SLASH)
    return ⟨components⟩

/-- One step of the lexical resolution. -/
def normalizeStep (stack : List Bytes) (component : Bytes) : List Bytes :=
  if component = [] ∨ component = DOT then stack
  else if component = DOT_DOT then stack.dropLast
  else stack ++ [component]

/-- The components of a path with empty parts and `.` dropped and `..` resolved. -/
def normalize (path : Bytes) : List Bytes := (path.splitOn SLASH).foldl normalizeStep []

/-! ## The mount table -/

structure MountEntry where
  path : Bytes
  componentCount : Nat
  filesystemId : BitVec 16
  deriving DecidableEq, Repr

structure MountTable where
  entries : List (Option MountEntry)
  count : Nat
  deriving DecidableEq, Repr

structure MountResolution where
  filesystemId : BitVec 16
  matchedComponents : Nat
  deriving DecidableEq, Repr

def MountTable.new (capacity : Nat) : MountTable := ⟨List.replicate capacity none, 0⟩

/-- The loop of `canonical_path`; the first component follows the leading slash. -/
def canonicalFrom : Bytes → Bool → List Bytes → Except VfsError Bytes
  | output, _, [] => .ok output
  | output, first, component :: rest =>
      if first = false ∧ output.length = MAX_MOUNT_PATH_BYTES then throw .mountPathTooLong
      else
        let output := if first then output else output ++ [SLASH]
        if MAX_MOUNT_PATH_BYTES < output.length + component.length then throw .mountPathTooLong
        else canonicalFrom (output ++ component) false rest

def canonicalPath (path : AbsolutePath) : Except VfsError Bytes :=
  canonicalFrom [SLASH] true path.components

variable (table : MountTable) (path : AbsolutePath)

def MountTable.mount (filesystemId : BitVec 16) : Except VfsError MountTable := do
  let canonical ← canonicalPath path
  if table.entries.any (·.any (·.path == canonical)) then throw .duplicateMount
  else
    match table.entries.findIdx? (·.isNone) with
    | none => throw .mountTableFull
    | some slot => return {
        entries := table.entries.set slot (some ⟨canonical, path.componentCount, filesystemId⟩)
        count := table.count + 1 }

/-- The loop of `mount_matches` from a cursor in the mount path. -/
def matchFrom (path : Bytes) : Nat → Bool → List Bytes → Bool
  | cursor, _, [] => cursor == path.length
  | cursor, first, component :: rest =>
      if first = false ∧ path[cursor]? ≠ some SLASH then false
      else
        let cursor := if first then cursor else cursor + 1
        if path.length < cursor + component.length ∨
            (path.drop cursor).take component.length ≠ component then false
        else matchFrom path (cursor + component.length) false rest

def mountMatches (entry : MountEntry) (path : AbsolutePath) : Bool :=
  if entry.componentCount = 0 then entry.path = [SLASH]
  else matchFrom entry.path 1 true (path.components.take entry.componentCount)

/-- `max_by_key`: of two equal keys the later one. -/
def longerMount (best : Option MountEntry) (entry : MountEntry) : Option MountEntry :=
  match best with
  | none => some entry
  | some best => if best.componentCount ≤ entry.componentCount then some entry else some best

def MountTable.resolve : Except VfsError MountResolution :=
  let candidates := table.entries.filterMap fun entry =>
    entry.filter fun entry =>
      entry.componentCount ≤ path.componentCount && mountMatches entry path
  match candidates.foldl longerMount none with
  | some entry => .ok ⟨entry.filesystemId, entry.componentCount⟩
  | none => throw .mountNotFound

/-! ## What parsing accepts -/

section Parsing

variable {path : Bytes} {components rest result : List Bytes} {component : Bytes}
  {parsed : AbsolutePath}

/-- A part that names nothing itself. -/
def Special (component : Bytes) : Prop :=
  component = [] ∨ component = DOT ∨ component = DOT_DOT

/-- What the loop lets through besides the shape of a component. -/
def Named (component : Bytes) : Prop :=
  component ≠ [] ∧ component ≠ DOT ∧ component ≠ DOT_DOT ∧ component.length ≤ 255

theorem Named.not_special (named : Named component) : ¬ Special component := by
  rintro (empty | dot | back)
  · exact named.1 empty
  · exact named.2.1 dot
  · exact named.2.2.1 back

theorem normalizeStep_named (named : ¬ Special component) :
    normalizeStep components component = components ++ [component] := by
  simp only [Special, not_or] at named
  simp [normalizeStep, named]

theorem normalizeStep_special (special : Special component) :
    component.length ≤ 2 ∧ normalizeStep components component <+: components := by
  rcases special with rfl | rfl | rfl
  · exact ⟨by decide, prefix_refl _⟩
  · exact ⟨by decide, prefix_refl _⟩
  · exact ⟨by decide, dropLast_prefix _⟩

/-- One turn of the loop. -/
theorem parseComponents_cons_ok_iff : parseComponents components (component :: rest) = .ok result ↔
    (Special component ∨ Named component ∧ components.length ≠ MAX_PATH_COMPONENTS) ∧
      parseComponents (normalizeStep components component) rest = .ok result := by
  rw [parseComponents]
  unfold normalizeStep Special Named
  split
  case isTrue skipped => rcases skipped with rfl | rfl <;> simp
  case isFalse kept =>
  rw [not_or] at kept
  split
  case isTrue back => simp [back]
  case isFalse forward =>
  rw [Except.ite_throw_eq_ok_iff, Except.ite_throw_eq_ok_iff, ← and_assoc]
  simp [kept, forward]

theorem parseComponents_eq (parsed : parseComponents components rest = .ok result) :
    result = rest.foldl normalizeStep components := by
  induction rest generalizing components with
  | nil =>
    cases parsed
    rfl
  | cons component rest ih => exact ih (parseComponents_cons_ok_iff.mp parsed).2

theorem parseComponents_named (parsed : parseComponents components rest = .ok result)
    (member : component ∈ result) :
    component ∈ components ∨ (component ∈ rest ∧ Named component) := by
  induction rest generalizing components with
  | nil =>
    cases parsed
    exact .inl member
  | cons part rest ih =>
    obtain ⟨kind, continued⟩ := parseComponents_cons_ok_iff.mp parsed
    rcases ih continued with old | ⟨inRest, named⟩
    · rcases kind with special | ⟨named, -⟩
      · exact .inl ((normalizeStep_special special).2.subset old)
      · rw [normalizeStep_named named.not_special] at old
        rcases mem_append.mp old with old | new
        · exact .inl old
        · rw [mem_singleton.mp new]
          exact .inr ⟨mem_cons_self, named⟩
    · exact .inr ⟨mem_cons_of_mem _ inRest, named⟩

theorem AbsolutePath.parse_ok_iff : parse path = .ok parsed ↔ path.head? = some SLASH ∧ 0#8 ∉ path ∧
      parseComponents [] (path.splitOn SLASH) = .ok parsed.components := by
  unfold parse
  rw [Except.ite_throw_eq_ok_iff, not_or, not_not, and_assoc, Except.bind_eq_ok_iff]
  refine and_congr_right fun _ => and_congr_right fun _ => ⟨?_, fun loop => ⟨_, loop, rfl⟩⟩
  rintro ⟨components, loop, built⟩
  cases built
  exact loop

/-- The parts between slashes are made of the bytes of the path, without slashes. -/
theorem mem_splitOn (member : component ∈ path.splitOn SLASH) :
    ∀ byte ∈ component, byte ∈ path ∧ byte ≠ SLASH := by
  unfold splitOn at member
  induction path generalizing component with
  | nil =>
    rw [splitOnP_nil, mem_singleton] at member
    rw [member]
    exact fun _ absurd => by cases absurd
  | cons first rest ih =>
    have weaken {component : Bytes} (inside : component ∈ splitOnP (· == SLASH) rest) :
        ∀ byte ∈ component, byte ∈ first :: rest ∧ byte ≠ SLASH := fun byte found =>
      ⟨mem_cons_of_mem _ (ih inside byte found).1, (ih inside byte found).2⟩
    rw [splitOnP_cons_eq_if_modifyHead] at member
    split at member
    · rcases mem_cons.mp member with rfl | inside
      · exact fun _ absurd => by cases absurd
      · exact weaken inside
    next notSlash =>
    have notSlash : first ≠ SLASH := fun same => notSlash (beq_iff_eq.mpr same)
    cases parts : splitOnP (· == SLASH) rest with
    | nil => exact absurd parts (splitOnP_ne_nil _ _)
    | cons head others =>
      rw [parts] at member
      rcases mem_cons.mp member with rfl | inside
      · intro byte found
        rcases mem_cons.mp found with rfl | later
        · exact ⟨mem_cons_self, notSlash⟩
        · exact weaken (parts ▸ mem_cons_self) byte later
      · exact weaken (parts ▸ mem_cons_of_mem _ inside)

/-- What an accepted path consists of. -/
def Parts (components : List Bytes) : Prop :=
  ∀ c ∈ components, Named c ∧ SLASH ∉ c ∧ 0#8 ∉ c

section

variable (ok : AbsolutePath.parse path = .ok parsed)
include ok

/-- An accepted path has the components its lexical normalisation gives it. -/
theorem AbsolutePath.parse_eq : parsed.components = normalize path :=
  parseComponents_eq (parse_ok_iff.mp ok).2.2

theorem AbsolutePath.parse_parts : Parts parsed.components := by
  obtain ⟨-, zero, loop⟩ := parse_ok_iff.mp ok
  intro c member
  rcases parseComponents_named loop member with absurd | ⟨part, named⟩
  · cases absurd
  · exact ⟨named, fun slash => (mem_splitOn part _ slash).2 rfl,
      fun nul => zero (mem_splitOn part _ nul).1⟩

/-- The filesystem accepts every component of an accepted path. -/
theorem AbsolutePath.parse_valid (member : component ∈ parsed.components) :
    validatePathComponent component = .ok () := by
  obtain ⟨⟨nonempty, notDot, notBack, short⟩, slash, zero⟩ := parse_parts ok _ member
  apply if_neg
  rintro (empty | long | dot | back | bad)
  · exact nonempty empty
  · exact absurd short (not_le.mpr long)
  · exact notDot dot
  · exact notBack back
  obtain ⟨byte, found, bad⟩ := any_eq_true.mp bad
  rw [Bool.or_eq_true, beq_iff_eq, beq_iff_eq] at bad
  rcases bad with rfl | rfl
  · exact zero found
  · exact slash found

end

end Parsing

/-! ## Normalisation and printing -/

section Printing

variable {path : Bytes} {components rest : List Bytes}

/-- The loop ends well when no part is too long and the stack never holds too much. -/
theorem parseComponents_ok_iff (room : components.length ≤ MAX_PATH_COMPONENTS) :
    (∃ result, parseComponents components rest = .ok result) ↔
      (∀ part ∈ rest, part.length ≤ 255) ∧ ∀ first, first <+: rest →
        (first.foldl normalizeStep components).length ≤ MAX_PATH_COMPONENTS := by
  induction rest generalizing components with
  | nil => simp [parseComponents, room]
  | cons part rest ih =>
    simp only [parseComponents_cons_ok_iff, exists_and_left, forall_mem_cons]
    constructor
    · rintro ⟨kind, continued⟩
      have step : part.length ≤ 255 ∧
          (normalizeStep components part).length ≤ MAX_PATH_COMPONENTS := by
        rcases kind with special | ⟨named, free⟩
        · obtain ⟨short, start⟩ := @normalizeStep_special components part special
          exact ⟨by omega, start.length_le.trans room⟩
        · rw [normalizeStep_named named.not_special, length_append]
          exact ⟨named.2.2.2, lt_of_le_of_ne room free⟩
      obtain ⟨short, bounded⟩ := (ih step.2).mp continued
      refine ⟨⟨step.1, short⟩, fun first start => ?_⟩
      rcases prefix_cons_iff.mp start with rfl | ⟨later, rfl, inner⟩
      · exact room
      · exact bounded later inner
    · rintro ⟨⟨short, others⟩, bounded⟩
      have next := bounded [part] (prefix_append [part] rest)
      refine ⟨?_, (ih next).mpr ⟨others, fun first start => bounded (part :: first) ?_⟩⟩
      · by_cases special : Special part
        · exact .inl special
        · rw [foldl_cons, normalizeStep_named special, foldl_nil, length_append] at next
          simp only [Special, not_or] at special
          exact .inr ⟨⟨special.1, special.2.1, special.2.2, short⟩, ne_of_lt next⟩
      · exact (prefix_cons_inj part).mpr start

/-- The components joined by slashes, behind the slash of the root. -/
def printed (components : List Bytes) : Bytes := SLASH :: [SLASH].intercalate components

theorem printed_cons (component : Bytes) (components : List Bytes) :
    printed (component :: components) = (component :: components).flatMap (SLASH :: ·) := by
  unfold printed
  induction components generalizing component with
  | nil => simp
  | cons next components ih =>
    rw [intercalate_cons_cons, append_assoc, flatMap_cons, ← ih next]
    rfl

theorem splitOn_printed (plain : ∀ c ∈ components, SLASH ∉ c) :
    (printed components).splitOn SLASH = [] :: if components = [] then [[]] else components := by
  have first : (printed components).splitOn SLASH =
      [] :: ([SLASH].intercalate components).splitOn SLASH := by
    unfold printed splitOn
    rw [splitOnP_cons_eq_if_modifyHead, if_pos (beq_self_eq_true _)]
  rw [first]
  split
  case isTrue empty =>
    subst empty
    rfl
  case isFalse nonempty => rw [splitOn_intercalate SLASH plain nonempty]

theorem parseComponents_append (named : ∀ c ∈ rest, Named c)
    (room : (components ++ rest).length ≤ MAX_PATH_COMPONENTS) :
    parseComponents components rest = .ok (components ++ rest) := by
  induction rest generalizing components with
  | nil => rw [append_nil]; rfl
  | cons c rest ih =>
    rw [forall_mem_cons] at named
    rw [append_cons] at room ⊢
    rw [parseComponents_cons_ok_iff, normalizeStep_named named.1.not_special]
    refine ⟨.inr ⟨named.1, ?_⟩, ih named.2 room⟩
    simp only [length_append, length_cons] at room
    omega

/-- **Path normalisation**: what is accepted, the components it then has, and that printing
them gives a path with the same components. -/
theorem parse_normalizes (path : Bytes) :
    ((∃ parsed, AbsolutePath.parse path = .ok parsed) ↔ path.head? = some SLASH ∧ 0#8 ∉ path ∧
      (∀ part ∈ path.splitOn SLASH, part.length ≤ 255) ∧ ∀ first, first <+: path.splitOn SLASH →
        (first.foldl normalizeStep []).length ≤ MAX_PATH_COMPONENTS) ∧
    ∀ parsed, AbsolutePath.parse path = .ok parsed → parsed.components = normalize path ∧
      AbsolutePath.parse (printed parsed.components) = .ok parsed := by
  have accepted := @parseComponents_ok_iff [] (path.splitOn SLASH) (Nat.zero_le _)
  constructor
  · rw [← accepted]
    constructor
    · rintro ⟨parsed, ok⟩
      obtain ⟨slash, zero, loop⟩ := AbsolutePath.parse_ok_iff.mp ok
      exact ⟨slash, zero, _, loop⟩
    · rintro ⟨slash, zero, components, loop⟩
      exact ⟨⟨components⟩, AbsolutePath.parse_ok_iff.mpr ⟨slash, zero, loop⟩⟩
  · intro parsed ok
    have parts := AbsolutePath.parse_parts ok
    refine ⟨AbsolutePath.parse_eq ok, AbsolutePath.parse_ok_iff.mpr ⟨rfl, ?_, ?_⟩⟩
    · cases held : parsed.components with
      | nil => decide
      | cons component components =>
        rw [printed_cons, ← held, mem_flatMap]
        rintro ⟨c, member, inside⟩
        exact (parts c member).2.2 (mem_of_ne_of_mem (by decide) inside)
    · obtain ⟨-, -, loop⟩ := AbsolutePath.parse_ok_iff.mp ok
      have bounded := (accepted.mp ⟨_, loop⟩).2 _ (prefix_refl _)
      rw [← parseComponents_eq loop] at bounded
      rw [splitOn_printed fun c member => (parts c member).2.1, parseComponents_cons_ok_iff]
      refine ⟨.inl (.inl rfl), ?_⟩
      split
      case isTrue empty => rw [empty]; rfl
      case isFalse => exact parseComponents_append (fun c member => (parts c member).1) bounded

end Printing

/-! ## The slots of a path -/

/-- The fields of a parsed path: behind the count the slots keep what was written there. -/
structure StoredPath where
  slots : List Bytes
  componentCount : Nat
  deriving DecidableEq

def storeComponents : StoredPath → List Bytes → Except VfsError StoredPath
  | stored, [] => .ok stored
  | stored, component :: rest =>
      if component = [] ∨ component = DOT then storeComponents stored rest
      else if component = DOT_DOT then
        storeComponents { stored with componentCount := stored.componentCount - 1 } rest
      else if 255 < component.length then throw .invalidPath
      else if stored.componentCount = MAX_PATH_COMPONENTS then throw .tooManyComponents
      else storeComponents ⟨stored.slots.set stored.componentCount component,
        stored.componentCount + 1⟩ rest

def StoredPath.parse (path : Bytes) : Except VfsError StoredPath :=
  if path.head? ≠ some SLASH ∨ 0#8 ∈ path then throw .invalidPath
  else storeComponents ⟨List.replicate MAX_PATH_COMPONENTS [], 0⟩ (path.splitOn SLASH)

def StoredPath.components (stored : StoredPath) : List Bytes :=
  stored.slots.take stored.componentCount

/-- Both loops end alike: the list is in the first slots, and `..` aside nothing new is
behind it. -/
inductive Agrees (behind rest : List Bytes) :
    Except VfsError StoredPath → Except VfsError (List Bytes) → Prop
  | failed (e : VfsError) : Agrees behind rest (.error e) (.error e)
  | done {components after : List Bytes} (size : (components ++ after).length = MAX_PATH_COMPONENTS)
      (tidy : DOT_DOT ∉ rest → after <:+ behind) :
      Agrees behind rest (.ok ⟨components ++ after, components.length⟩) (.ok components)

section Slots

variable {components behind rest : List Bytes} {path path' : Bytes} {stored stored' : StoredPath}

theorem Agrees.mono {behind' rest' : List Bytes} {result : Except VfsError StoredPath}
    {shown : Except VfsError (List Bytes)} (agrees : Agrees behind rest result shown)
    (weaker : DOT_DOT ∉ rest' → DOT_DOT ∉ rest ∧ behind <:+ behind') :
    Agrees behind' rest' result shown := by
  cases agrees with
  | failed e => exact .failed e
  | done size tidy =>
    exact .done size fun forward => (tidy (weaker forward).1).trans (weaker forward).2

theorem storeComponents_agrees (size : (components ++ behind).length = MAX_PATH_COMPONENTS) :
    Agrees behind rest (storeComponents ⟨components ++ behind, components.length⟩ rest)
      (parseComponents components rest) := by
  induction rest generalizing components behind with
  | nil => exact .done size fun _ => suffix_refl _
  | cons part rest ih =>
    have later (forward : DOT_DOT ∉ part :: rest) : DOT_DOT ∉ rest := not_mem_of_not_mem_cons forward
    rw [storeComponents, parseComponents]
    split
    · exact (ih size).mono fun forward => ⟨later forward, suffix_refl _⟩
    split
    · next back =>
      rcases eq_nil_or_concat components with rfl | ⟨start, last, rfl⟩
      · exact (ih size).mono fun forward => ⟨later forward, suffix_refl _⟩
      · rw [concat_eq_append, append_assoc] at size ⊢
        rw [length_append, dropLast_concat]
        exact (ih size).mono fun forward => absurd (back ▸ mem_cons_self) forward
    split
    · exact .failed _
    split
    · exact .failed _
    next free =>
    cases behind with
    | nil => exact absurd (by simpa using size) free
    | cons slot behind =>
      rw [set_append_right _ _ (le_refl _), Nat.sub_self, set_cons_zero, append_cons]
      have step := @ih (components ++ [part]) behind (by simpa using size)
      rw [length_append] at step
      exact step.mono fun forward => ⟨later forward, suffix_cons _ _⟩

/-- The slots show the path of the other model. -/
theorem StoredPath.parse_agrees (path : Bytes) :
    Agrees (replicate MAX_PATH_COMPONENTS []) (path.splitOn SLASH) (parse path)
      ((AbsolutePath.parse path).map AbsolutePath.components) := by
  have loops := @storeComponents_agrees [] (replicate MAX_PATH_COMPONENTS [])
    (path.splitOn SLASH) length_replicate
  unfold parse AbsolutePath.parse
  split
  · exact .failed _
  cases parsed : parseComponents [] (path.splitOn SLASH) with
  | error e | ok components =>
    rw [parsed] at loops
    exact loops

theorem StoredPath.parse_forward (parsed : parse path = .ok stored)
    (forward : DOT_DOT ∉ path.splitOn SLASH) :
    stored = ⟨stored.components ++ replicate (MAX_PATH_COMPONENTS - stored.components.length) [],
      stored.components.length⟩ := by
  have agrees := parse_agrees path
  rw [parsed] at agrees
  generalize (AbsolutePath.parse path).map AbsolutePath.components = shown at agrees
  cases agrees with
  | done size tidy =>
    have empty := (suffix_replicate_iff.mp (tidy forward)).2
    rw [components, take_left, ← size, length_append, Nat.add_sub_cancel_left, ← empty]

end Slots

/-! ## Mounts -/

/-- Where a filesystem is mounted. -/
abbrev Mount := List Bytes × BitVec 16

/-- A mount of a path given by its bytes, with the components it is made at. -/
def MountTable.attempt (call : Bytes × BitVec 16) : Except VfsError (MountTable × Mount) := do
  let path ← AbsolutePath.parse call.1
  let table ← table.mount path call.2
  return (table, path.components, call.2)

/-- One call with the mounts made before it; a call that fails makes none. -/
def mountStep (s : MountTable × List Mount) (call : Bytes × BitVec 16) :
    MountTable × List Mount :=
  match s.1.attempt call with
  | .error _ => s
  | .ok (table, made) => (table, made :: s.2)

variable (capacity : Nat) (calls : List (Bytes × BitVec 16))

def mountAll : MountTable × List Mount :=
  calls.foldl mountStep (MountTable.new capacity, [])

/-- The entry of a mount. -/
def entryOf (mount : Mount) : MountEntry :=
  ⟨printed mount.1, mount.1.length, mount.2⟩

/-- The table holds the mounts that were made, one for each list of components. -/
structure Mounted (s : MountTable × List Mount) : Prop where
  entries : ∀ entry, some entry ∈ s.1.entries ↔ ∃ mount ∈ s.2, entryOf mount = entry
  parts : ∀ mount ∈ s.2, Parts mount.1
  unique : ∀ mount ∈ s.2, ∀ other ∈ s.2, mount.1 = other.1 → mount = other

section Mounts

variable {path : Bytes} {components : List Bytes} {parsed : AbsolutePath} {table : MountTable}

theorem canonicalFrom_ok {output result : Bytes}
    (built : canonicalFrom output false components = .ok result) :
    result = output ++ components.flatMap (SLASH :: ·) := by
  induction components generalizing output with
  | nil =>
    cases built
    exact (append_nil _).symm
  | cons component components ih =>
    rw [canonicalFrom, Except.ite_throw_eq_ok_iff] at built
    have later := (Except.ite_throw_eq_ok_iff.mp built.2).2
    rw [ih later]
    simp

theorem canonicalPath_ok {canonical : Bytes} (built : canonicalPath parsed = .ok canonical) :
    canonical = printed parsed.components := by
  unfold canonicalPath at built
  cases held : parsed.components with
  | nil =>
    rw [held] at built
    cases built
    rfl
  | cons component components =>
    rw [held, canonicalFrom, Except.ite_throw_eq_ok_iff] at built
    rw [canonicalFrom_ok (Except.ite_throw_eq_ok_iff.mp built.2).2, printed_cons]
    rfl

/-- The cursor passes over one component. -/
theorem component_at_iff {component tail : Bytes} {cursor : Nat} {follows : Nat → Bool}
    (inside : cursor ≤ path.length)
    (later : ∀ cursor ≤ path.length, follows cursor = true ↔ path.drop cursor = tail) :
    (if path.length < cursor + component.length ∨
        (path.drop cursor).take component.length ≠ component then false
      else follows (cursor + component.length)) = true ↔ path.drop cursor = component ++ tail := by
  split
  case isTrue other =>
    refine iff_of_false Bool.false_ne_true fun split => ?_
    have length := congrArg length split
    rw [length_drop, length_append] at length
    rw [split, take_left] at other
    exact other.elim (by omega) (· rfl)
  case isFalse same =>
    rw [not_or, not_not, not_lt] at same
    rw [later _ same.1, ← drop_drop]
    conv_rhs => rw [← take_append_drop component.length (path.drop cursor), same.2]
    exact (append_cancel_left_eq _ _ _).symm.to_iff

theorem matchFrom_iff {cursor : Nat} (inside : cursor ≤ path.length) :
    matchFrom path cursor false components = true ↔
      path.drop cursor = components.flatMap (SLASH :: ·) := by
  induction components generalizing cursor with
  | nil =>
    simp only [matchFrom, beq_iff_eq, flatMap_nil, drop_eq_nil_iff]
    omega
  | cons component components ih =>
    rw [matchFrom, flatMap_cons, cons_append]
    by_cases slash : path[cursor]? = some SLASH
    · obtain ⟨below, here⟩ := List.getElem?_eq_some_iff.mp slash
      rw [if_neg (by simp [slash]), drop_eq_getElem_cons below, here, cons.injEq, and_iff_right rfl]
      exact component_at_iff below fun _ => ih
    · rw [if_pos ⟨rfl, slash⟩]
      refine iff_of_false Bool.false_ne_true fun split => slash ?_
      rw [← Nat.add_zero cursor, ← getElem?_drop, split]
      rfl

theorem printed_inj {components' : List Bytes} (parts : Parts components)
    (parts' : Parts components') (same : printed components = printed components') :
    components = components' := by
  have split := congrArg (splitOn SLASH) same
  rw [splitOn_printed fun c member => (parts c member).2.1,
    splitOn_printed fun c member => (parts' c member).2.1, cons.injEq, and_iff_right rfl] at split
  split at split
  case isTrue empty =>
    split at split
    case isTrue empty' => rw [empty, empty']
    case isFalse => exact absurd rfl (parts' [] (split ▸ mem_cons_self)).1.1
  case isFalse =>
    split at split
    case isTrue => exact absurd rfl (parts [] (split ▸ mem_cons_self)).1.1
    case isFalse => exact split

/-- A mount matches the paths that begin with its components. -/
theorem mountMatches_iff {mount : Mount} (own : Parts mount.1)
    (parts : Parts parsed.components) (short : mount.1.length ≤ parsed.components.length) :
    mountMatches (entryOf mount) parsed = true ↔ mount.1 <+: parsed.components := by
  have count : (parsed.components.take mount.1.length).length = mount.1.length := by
    rw [length_take]
    omega
  have parts' : Parts (parsed.components.take mount.1.length) := fun c member =>
    parts c (mem_of_mem_take member)
  rw [prefix_iff_eq_take]
  unfold mountMatches entryOf
  generalize parsed.components.take mount.1.length = start at count parts'
  cases start with
  | nil =>
    have empty : mount.1 = [] := length_eq_zero_iff.mp count.symm
    simp [empty, printed]
  | cons first rest =>
    rw [if_neg (by simp [← count])]
    refine (component_at_iff (Nat.le_add_left 1 _) fun _ => matchFrom_iff).trans ⟨fun same => ?_, ?_⟩
    · refine printed_inj own parts' ?_
      rw [printed_cons]
      exact congrArg (SLASH :: ·) same
    · intro same
      rw [same, printed_cons]
      rfl

theorem mountStep_mounted {s : MountTable × List Mount} (mounted : Mounted s)
    (call : Bytes × BitVec 16) : Mounted (mountStep s call) := by
  unfold mountStep
  split
  case h_1 => exact mounted
  case h_2 table made attempted =>
  obtain ⟨path, ok, attempted⟩ := Except.bind_ok attempted
  obtain ⟨table', done, same⟩ := Except.bind_ok attempted
  cases same
  have parts := AbsolutePath.parse_parts ok
  obtain ⟨canonical, built, done⟩ := Except.bind_ok done
  obtain rfl := canonicalPath_ok built
  obtain ⟨fresh, done⟩ := Except.ite_throw_eq_ok_iff.mp done
  split at done
  case h_1 => exact absurd done Except.throw_ne_ok
  case h_2 slot found =>
  cases done
  have new (mount : Mount) (member : mount ∈ s.2) : mount.1 ≠ path.components := by
    intro same
    refine fresh (any_eq_true.mpr ⟨some (entryOf mount), ?_, ?_⟩)
    · exact (mounted.entries _).mpr ⟨mount, member, rfl⟩
    · simp [entryOf, same]
  have free : s.1.entries[slot]? = some none := by
    obtain ⟨inside, empty, -⟩ := findIdx?_eq_some_iff_getElem.mp found
    rw [getElem?_eq_getElem inside, Option.isNone_iff_eq_none.mp empty]
  constructor
  · intro entry
    rw [Slots.mem_set_free free, mounted.entries, exists_mem_cons_iff]
    exact or_congr_left eq_comm
  · exact forall_mem_cons.mpr ⟨parts, mounted.parts⟩
  · intro mount member other member' same
    rcases mem_cons.mp member with rfl | old
    · rcases mem_cons.mp member' with rfl | old'
      · rfl
      · exact absurd same.symm (new other old')
    · rcases mem_cons.mp member' with rfl | old'
      · exact absurd same (new mount old)
      · exact mounted.unique mount old other old' same

theorem mountAll_mounted : Mounted (mountAll capacity calls) := by
  have start : Mounted (MountTable.new capacity, []) := ⟨by simp [MountTable.new], nofun, nofun⟩
  exact foldlRecOn calls mountStep start fun _ mounted call _ => mountStep_mounted mounted call

theorem longest_cases (entries : List MountEntry) :
    entries.foldl longerMount none = none ∧ entries = [] ∨
      ∃ entry ∈ entries, entries.foldl longerMount none = some entry ∧
        ∀ other ∈ entries, other.componentCount ≤ entry.componentCount := by
  refine @Slots.foldl_best _ _ _ longerMount (fun entry => OrderDual.toDual entry.componentCount)
    (fun _ => rfl) (fun best entry => ?_) entries
  unfold longerMount
  dsimp only
  split
  case isTrue longer => exact .inr ⟨rfl, longer⟩
  case isFalse shorter => exact .inl ⟨rfl, Nat.le_of_not_le shorter⟩

/-- The longest of the mounts that are prefixes of the path. -/
def Longest (mounts : List Mount) (path : List Bytes) (mount : Mount) : Prop :=
  (mount ∈ mounts ∧ mount.1 <+: path) ∧
    ∀ other ∈ mounts, other.1 <+: path → other.1.length ≤ mount.1.length

section

variable {s : MountTable × List Mount} (mounted : Mounted s)
  (parts : Parts parsed.components)
include mounted parts

/-- The entries that are compared are those of the mounts that are prefixes. -/
theorem Mounted.mem_candidates (entry : MountEntry) :
    (entry ∈ s.1.entries.filterMap fun entry => entry.filter fun entry =>
      entry.componentCount ≤ parsed.componentCount && mountMatches entry parsed) ↔
      ∃ mount ∈ s.2, mount.1 <+: parsed.components ∧ entryOf mount = entry := by
  simp only [mem_filterMap, Option.filter_eq_some_iff, Bool.and_eq_true, decide_eq_true_iff]
  constructor
  · rintro ⟨-, inside, rfl, short, found⟩
    obtain ⟨mount, member, rfl⟩ := (mounted.entries entry).mp inside
    exact ⟨mount, member, (mountMatches_iff (mounted.parts mount member) parts short).mp found, rfl⟩
  · rintro ⟨mount, member, start, rfl⟩
    have short := start.length_le
    exact ⟨_, (mounted.entries _).mpr ⟨mount, member, rfl⟩, rfl, short,
      (mountMatches_iff (mounted.parts mount member) parts short).mpr start⟩

theorem Mounted.resolve_cases : (s.1.resolve parsed = .error .mountNotFound ∧
      ∀ mount ∈ s.2, ¬ mount.1 <+: parsed.components) ∨
    ∃ mount, s.1.resolve parsed = .ok ⟨mount.2, mount.1.length⟩ ∧
      Longest s.2 parsed.components mount := by
  have candidates := mounted.mem_candidates parts
  unfold MountTable.resolve
  dsimp only
  generalize s.1.entries.filterMap _ = list at candidates
  rcases longest_cases list with ⟨none, rfl⟩ | ⟨entry, listed, found, longest⟩
  · refine .inl ⟨rfl, fun mount member start => ?_⟩
    cases (candidates _).mpr ⟨mount, member, start, rfl⟩
  · obtain ⟨mount, member, start, rfl⟩ := (candidates entry).mp listed
    rw [found]
    exact .inr ⟨mount, rfl, ⟨member, start⟩, fun other member' start' =>
      longest _ ((candidates _).mpr ⟨other, member', start', rfl⟩)⟩

theorem Mounted.resolve_longest {mount : Mount} (longest : Longest s.2 parsed.components mount) :
    s.1.resolve parsed = .ok ⟨mount.2, mount.1.length⟩ := by
  obtain ⟨⟨member, start⟩, most⟩ := longest
  rcases mounted.resolve_cases parts with ⟨-, absent⟩ | ⟨other, resolved, ⟨member', start'⟩, most'⟩
  · exact absurd start (absent mount member)
  · have length := le_antisymm (most' _ member start) (most _ member' start')
    have same : mount.1 = other.1 := by
      rw [prefix_iff_eq_take.mp start, prefix_iff_eq_take.mp start', length]
    rw [resolved, mounted.unique mount member other member' same]

theorem Mounted.resolve_none (absent : ∀ mount ∈ s.2, ¬ mount.1 <+: parsed.components) :
    s.1.resolve parsed = .error .mountNotFound := by
  rcases mounted.resolve_cases parts with ⟨none, -⟩ | ⟨mount, -, ⟨member, start⟩, -⟩
  · exact none
  · exact absurd start (absent mount member)

end

/-- **Mount resolution**: of the mounts that were made the longest one that is a prefix of
the path answers, whatever the order of the calls. -/
theorem resolve_longest_mount (capacity : Nat) (calls : List (Bytes × BitVec 16))
    (ok : AbsolutePath.parse path = .ok parsed) :
    (∀ mount, Longest (mountAll capacity calls).2 parsed.components mount →
      (mountAll capacity calls).1.resolve parsed = .ok ⟨mount.2, mount.1.length⟩) ∧
    ((∀ mount ∈ (mountAll capacity calls).2, ¬ mount.1 <+: parsed.components) →
      (mountAll capacity calls).1.resolve parsed = .error .mountNotFound) ∧
    ∀ capacity' calls',
      (∀ mount, mount ∈ (mountAll capacity' calls').2 ↔ mount ∈ (mountAll capacity calls).2) →
      (mountAll capacity' calls').1.resolve parsed = (mountAll capacity calls).1.resolve parsed := by
  have parts := AbsolutePath.parse_parts ok
  have mounted := mountAll_mounted capacity calls
  refine ⟨fun mount => mounted.resolve_longest parts, mounted.resolve_none parts, ?_⟩
  intro capacity' calls' same
  have mounted' := mountAll_mounted capacity' calls'
  rcases mounted.resolve_cases parts with ⟨none, absent⟩ | ⟨mount, found, ⟨member, start⟩, most⟩
  · rw [none]
    exact mounted'.resolve_none parts fun mount member => absent mount ((same mount).mp member)
  · rw [found]
    exact mounted'.resolve_longest parts ⟨⟨(same mount).mpr member, start⟩,
      fun other member' => most other ((same other).mp member')⟩

/-- `/` and `/a`, asked for `/a/b`. -/
theorem resolve_longest_mount_nested :
    (mountAll 4 [([0x2f], 1), ([0x2f, 0x61], 2)]).1.resolve ⟨[[0x61], [0x62]]⟩ = .ok ⟨2, 1⟩ :=
  (@resolve_longest_mount [0x2f, 0x61, 0x2f, 0x62] _ 4 _ rfl).1 ([[0x61]], 2)
    ⟨by decide, by decide⟩

end Mounts

/-! ## The namespace of the kernel -/

def ROOT_FILESYSTEM_ID : BitVec 16 := 1#16

/-- The table with the root filesystem at `/`. -/
def rootNamespace : MountTable :=
  ⟨some ⟨[SLASH], 0, ROOT_FILESYSTEM_ID⟩ :: List.replicate 3 none, 1⟩

/-- It is what the kernel builds. -/
theorem mount_root : (do
    let root ← AbsolutePath.parse [SLASH]
    (MountTable.new 4).mount root ROOT_FILESYSTEM_ID) = .ok rootNamespace := by
  rfl

theorem resolve_rootNamespace : rootNamespace.resolve path = .ok ⟨ROOT_FILESYSTEM_ID, 0⟩ := rfl

end SlopOS.Vfs
