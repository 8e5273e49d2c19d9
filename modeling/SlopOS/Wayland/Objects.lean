import SlopOS.Base.Slots
import SlopOS.Wayland.Wire
import Mathlib.Data.List.Nodup

/-!
# The object map of a connection

A fixed array of slots names the client's objects.  `held` is what the array holds; the
operations are described by what they do to it, up to order.
-/

namespace SlopOS.Wayland

open List

inductive Interface
  | display
  | registry
  | callback
  | compositor
  | surface
  | region
  | shm
  | shmPool
  | buffer
  | seat
  | pointer
  | keyboard
  | output
  | xdgWmBase
  | xdgSurface
  | xdgToplevel
  deriving DecidableEq

namespace Interface

def name : Interface → String
  | display => "wl_display"
  | registry => "wl_registry"
  | callback => "wl_callback"
  | compositor => "wl_compositor"
  | surface => "wl_surface"
  | region => "wl_region"
  | shm => "wl_shm"
  | shmPool => "wl_shm_pool"
  | buffer => "wl_buffer"
  | seat => "wl_seat"
  | pointer => "wl_pointer"
  | keyboard => "wl_keyboard"
  | output => "wl_output"
  | xdgWmBase => "xdg_wm_base"
  | xdgSurface => "xdg_surface"
  | xdgToplevel => "xdg_toplevel"

def fromName (name : String) : Option Interface :=
  if name = "wl_display" then some display
  else if name = "wl_registry" then some registry
  else if name = "wl_callback" then some callback
  else if name = "wl_compositor" then some compositor
  else if name = "wl_surface" then some surface
  else if name = "wl_region" then some region
  else if name = "wl_shm" then some shm
  else if name = "wl_shm_pool" then some shmPool
  else if name = "wl_buffer" then some buffer
  else if name = "wl_seat" then some seat
  else if name = "wl_pointer" then some pointer
  else if name = "wl_keyboard" then some keyboard
  else if name = "wl_output" then some output
  else if name = "xdg_wm_base" then some xdgWmBase
  else if name = "xdg_surface" then some xdgSurface
  else if name = "xdg_toplevel" then some xdgToplevel
  else none

end Interface

inductive ObjectState
  | empty
  | active
  | retired
  deriving DecidableEq

structure Object where
  id : Nat
  interface : Interface
  version : Nat
  state : ObjectState
  deriving DecidableEq

namespace Object

def empty : Object := ⟨0, .display, 0, .empty⟩

def isActive (object : Object) : Bool := object.state = .active

def isRetired (object : Object) : Bool := object.state = .retired

def isEmpty (object : Object) : Bool := object.state = .empty

end Object

structure ObjectMap where
  slots : List Object

namespace ObjectMap

/-- A map of `capacity` slots with the display in the first. -/
def new : Nat → Except WireError ObjectMap
  | 0 => .error .objectCapacity
  | rest + 1 => .ok ⟨⟨displayObjectId, .display, 1, .active⟩ :: List.replicate rest .empty⟩

section

variable (map : ObjectMap) (id : Nat)

def get : Except WireError Object :=
  match map.slots.find? fun slot => slot.id = id && slot.isActive with
  | none => .error .unknownObject
  | some object => .ok object

def insert (interface : Interface) (version : Nat) : Except WireError ObjectMap :=
  if id = 0 then .error .nullObject
  else if version = 0 then .error .invalidVersion
  else if map.slots.any fun slot => slot.id = id then .error .duplicateObject
  else match Slots.updateFirst Object.isEmpty (fun _ => ⟨id, interface, version, .active⟩)
      map.slots with
    | none => .error .objectCapacity
    | some slots => .ok ⟨slots⟩

def retire : Except WireError ObjectMap :=
  if id = displayObjectId then .error .invalidArgument
  else match Slots.updateFirst (fun slot => slot.id = id && slot.isActive)
      (fun slot => { slot with state := .retired }) map.slots with
    | none => .error .unknownObject
    | some slots => .ok ⟨slots⟩

def deleteIdSent : Except WireError ObjectMap :=
  match Slots.updateFirst (fun slot => slot.id = id && slot.isRetired) (fun _ => .empty)
      map.slots with
    | none => .error .objectNotRetired
    | some slots => .ok ⟨slots⟩

end

/-! ## What a map holds -/

variable (map : ObjectMap)

/-- The slots in use. -/
def held : List Object := map.slots.filter fun slot => !slot.isEmpty

/-- Ids name one object each, and empty slots name none. -/
structure WellFormed (map : ObjectMap) : Prop where
  distinct : (map.held.map Object.id).Nodup
  unnamed : ∀ slot ∈ map.slots, slot.isEmpty = true → slot.id = 0

/-- `id` names an active object. -/
def Live (id : Nat) (interface : Interface) : Prop :=
  ∃ object ∈ map.held, object.id = id ∧ object.interface = interface ∧ object.state = .active

section Held

variable {map map' : ObjectMap} {id version : Nat} {interface interface' : Interface}
  {object other : Object}

theorem mem_held : object ∈ map.held ↔ object ∈ map.slots ∧ object.isEmpty = false := by
  simp [held, mem_filter]

theorem WellFormed.object_unique (wf : map.WellFormed) {object' : Object}
    (first : object ∈ map.held) (second : object' ∈ map.held) (same : object.id = object'.id) :
    object = object' :=
  inj_on_of_nodup_map wf.distinct first second same

/-- An id has one interface. -/
theorem WellFormed.interface_unique (wf : map.WellFormed) (first : map.Live id interface)
    (second : map.Live id interface') : interface = interface' := by
  obtain ⟨object, member, rfl, rfl, -⟩ := first
  obtain ⟨object', member', same, rfl, -⟩ := second
  rw [wf.object_unique member member' same.symm]

theorem get_ok (found : map.get id = .ok object) :
    object ∈ map.held ∧ object.id = id ∧ object.state = .active := by
  unfold get at found
  split at found
  case h_1 => cases found
  case h_2 slot located =>
  cases found
  have member := mem_of_find?_eq_some located
  have satisfies := find?_some located
  simp only [Object.isActive, Bool.and_eq_true, decide_eq_true_eq] at satisfies
  exact ⟨mem_held.mpr ⟨member, by simp [Object.isEmpty, satisfies.2]⟩, satisfies⟩

/-- An active object is found under its id. -/
theorem WellFormed.get_of_mem (wf : map.WellFormed) (member : object ∈ map.held)
    (active : object.state = .active) : map.get object.id = .ok object := by
  unfold get
  split
  case h_1 missing =>
    rw [find?_eq_none] at missing
    have absent := missing object (mem_held.mp member).1
    simp [Object.isActive, active] at absent
  case h_2 slot located =>
    have found : map.get object.id = .ok slot := by
      unfold get
      rw [located]
    obtain ⟨held', same, -⟩ := get_ok found
    rw [wf.object_unique held' member same]

/-- A new object is one more under an id that was not in use. -/
theorem insert_ok (inserted : map.insert id interface version = .ok map') :
    id ≠ 0 ∧ (∀ object ∈ map.slots, object.id ≠ id) ∧ map'.slots.length = map.slots.length ∧
      map'.held.Perm (⟨id, interface, version, .active⟩ :: map.held) ∧
      (∀ slot ∈ map'.slots, slot.isEmpty = true → slot ∈ map.slots) := by
  simp only [insert, Except.ite_error_eq_ok_iff] at inserted
  obtain ⟨named, -, fresh, inserted⟩ := inserted
  split at inserted
  · cases inserted
  rename_i slots updated
  cases inserted
  refine ⟨named, ?_, Slots.updateFirst_length updated, ?_, ?_⟩
  · simpa using fresh
  · obtain ⟨slot, rest, empty, -, before, after⟩ :=
      Slots.updateFirst_filter updated fun slot => !slot.isEmpty
    have unused : [slot].filter (fun slot => !slot.isEmpty) = [] := by simp [empty]
    rw [unused] at before
    exact after.trans (before.symm.cons _)
  · intro slot' member empty
    rcases Slots.mem_updateFirst updated member with old | ⟨slot, -, -, rfl⟩
    · exact old
    · cases empty

theorem WellFormed.insert (wf : map.WellFormed)
    (inserted : map.insert id interface version = .ok map') : map'.WellFormed := by
  obtain ⟨-, fresh, -, held, empties⟩ := insert_ok inserted
  constructor
  · rw [(held.map Object.id).nodup_iff, map_cons, nodup_cons]
    refine ⟨?_, wf.distinct⟩
    intro used
    obtain ⟨object, member, same⟩ := mem_map.mp used
    exact fresh object (mem_held.mp member).1 same
  · intro slot member empty
    exact wf.unnamed slot (empties slot member empty) empty

theorem live_insert (inserted : map.insert id interface version = .ok map') :
    map'.Live id interface := by
  obtain ⟨-, -, -, held, -⟩ := insert_ok inserted
  exact ⟨_, held.mem_iff.mpr mem_cons_self, rfl, rfl, rfl⟩

/-- There is room and the id is not in use. -/
theorem insert_of_room (named : id ≠ 0) (versioned : version ≠ 0)
    (fresh : ∀ object ∈ map.slots, object.id ≠ id)
    (room : ∃ slot ∈ map.slots, slot.isEmpty = true) :
    ∃ map', map.insert id interface version = .ok map' := by
  unfold insert
  have absent : ¬ (map.slots.any fun slot => slot.id = id) = true := by simpa using fresh
  rw [if_neg named, if_neg versioned, if_neg absent]
  obtain ⟨slots, updated⟩ := Slots.updateFirst_isSome
    room
  rw [updated]
  exact ⟨_, rfl⟩

/-- The second map is the first without the object. -/
structure Released (map : ObjectMap) (object : Object) (map' : ObjectMap) : Prop where
  held : map.held.Perm (object :: map'.held)
  wellFormed : map'.WellFormed
  length : map'.slots.length = map.slots.length

/-- The slot that a search by id and state finds is emptied, or changed under its id. -/
theorem WellFormed.updateFirst (wf : map.WellFormed) {state : ObjectState} {slots : List Object}
    {f : Object → Object} (updated : Slots.updateFirst
      (fun slot => slot.id = id && decide (slot.state = state)) f map.slots = some slots)
    (used : state ≠ .empty)
    (named : ∀ slot, f slot = .empty ∨ (f slot).isEmpty = false ∧ (f slot).id = slot.id) :
    ∃ object rest, object.id = id ∧ object.state = state ∧ map.held.Perm (object :: rest) ∧
      (held ⟨slots⟩).Perm ([f object].filter (fun slot => !slot.isEmpty) ++ rest) ∧
      WellFormed ⟨slots⟩ ∧ slots.length = map.slots.length := by
  obtain ⟨object, rest, found, -, before, after⟩ :=
    Slots.updateFirst_filter updated fun slot => !slot.isEmpty
  simp only [Bool.and_eq_true, decide_eq_true_eq] at found
  obtain ⟨same, isState⟩ := found
  rw [filter_cons_of_pos (by simp [Object.isEmpty, isState, used])] at before
  have distinct := (before.map Object.id).nodup_iff.mp wf.distinct
  refine ⟨object, rest, same, isState, before, after, ⟨?_, ?_⟩, Slots.updateFirst_length updated⟩
  · refine (after.map Object.id).nodup_iff.mpr ?_
    rcases named object with empty | ⟨full, kept⟩
    · rw [empty]
      exact (nodup_cons.mp distinct).2
    · rw [filter_cons_of_pos (by rw [full]; rfl)]
      simpa [kept] using distinct
  · intro slot' member empty
    rcases Slots.mem_updateFirst updated member with old | ⟨slot, -, -, rfl⟩
    · exact wf.unnamed slot' old empty
    · rcases named slot with vacant | ⟨full, -⟩
      · rw [vacant]
        rfl
      · exact absurd (full.symm.trans empty) nofun

/-- A retired object keeps its id. -/
theorem WellFormed.retire (wf : map.WellFormed) (done : map.retire id = .ok map') :
    ∃ object rest, object.id = id ∧ object.state = .active ∧ id ≠ displayObjectId ∧
      map.held.Perm (object :: rest) ∧
      map'.held.Perm ({ object with state := .retired } :: rest) ∧ map'.WellFormed ∧
      map'.slots.length = map.slots.length := by
  unfold ObjectMap.retire at done
  split at done
  · cases done
  rename_i client
  split at done
  · cases done
  rename_i slots updated
  cases done
  obtain ⟨object, rest, same, active, before, after, kept⟩ :=
    wf.updateFirst updated nofun fun slot => .inr ⟨rfl, rfl⟩
  exact ⟨object, rest, same, active, client, before, after, kept⟩

theorem WellFormed.deleteIdSent (wf : map.WellFormed) (done : map.deleteIdSent id = .ok map') :
    ∃ object, object.id = id ∧ object.state = .retired ∧ Released map object map' := by
  unfold ObjectMap.deleteIdSent at done
  split at done
  · cases done
  rename_i slots updated
  cases done
  obtain ⟨object, rest, same, retired, before, after, wf', length⟩ :=
    wf.updateFirst updated nofun fun slot => .inl rfl
  exact ⟨object, same, retired, before.trans (after.symm.cons object), wf', length⟩

/-- Retiring an object and deleting its id at once takes it out of the map. -/
theorem WellFormed.release (wf : map.WellFormed) (member : object ∈ map.held)
    (active : object.state = .active) (client : object.id ≠ displayObjectId) :
    ∃ middle map', map.retire object.id = .ok middle ∧ middle.deleteIdSent object.id = .ok map' ∧
      Released map object map' := by
  obtain ⟨middle, retired⟩ : ∃ middle, map.retire object.id = .ok middle := by
    obtain ⟨slots, updated⟩ := Slots.updateFirst_isSome
      (p := fun slot => slot.id = object.id && slot.isActive)
     
      ⟨object, (mem_held.mp member).1, by simp [Object.isActive, active]⟩
    exact ⟨⟨slots⟩, by rw [ObjectMap.retire, if_neg client, updated]⟩
  obtain ⟨object', rest, same, -, -, before, after, wf₁, length⟩ := wf.retire retired
  obtain rfl := wf.object_unique (before.mem_iff.mpr mem_cons_self) member same
  have waiting : { object' with state := ObjectState.retired } ∈ middle.held :=
    after.mem_iff.mpr mem_cons_self
  obtain ⟨map', deleted⟩ : ∃ map', middle.deleteIdSent object'.id = .ok map' := by
    obtain ⟨slots, updated⟩ := Slots.updateFirst_isSome
      (p := fun slot => slot.id = object'.id && slot.isRetired)
      ⟨_, (mem_held.mp waiting).1, by simp [Object.isRetired]⟩
    exact ⟨⟨slots⟩, by rw [ObjectMap.deleteIdSent, updated]⟩
  obtain ⟨object, same', -, released⟩ := wf₁.deleteIdSent deleted
  obtain rfl := wf₁.object_unique (released.held.mem_iff.mpr mem_cons_self) waiting same'
  exact ⟨middle, map', retired, deleted, before.trans
    ((after.symm.trans released.held).cons_inv.cons object'), released.wellFormed,
    released.length.trans length⟩

/-- A map that holds fewer objects than it has slots has room. -/
theorem room_of_length (fewer : map.held.length < map.slots.length) :
    ∃ slot ∈ map.slots, slot.isEmpty = true := by
  by_contra none
  have full : map.held = map.slots := by
    rw [held, filter_eq_self]
    intro slot member
    by_contra empty
    exact none ⟨slot, member, by simpa using empty⟩
  rw [full] at fewer
  exact lt_irrefl _ fewer

section

variable (released : Released map object map')
include released

theorem Released.remains (member : other ∈ map'.held) : other ∈ map.held :=
  released.held.mem_iff.mpr (mem_cons_of_mem _ member)

theorem Released.kept (member : other ∈ map.held) (different : other.interface ≠ object.interface) :
    other ∈ map'.held := by
  rcases mem_cons.mp (released.held.mem_iff.mp member) with rfl | old
  · exact absurd rfl different
  · exact old

/-- The id that was released is free. -/
theorem Released.fresh (wf : map.WellFormed) (named : object.id ≠ 0) :
    ∀ slot ∈ map'.slots, slot.id ≠ object.id := by
  intro slot member same
  have distinct := (released.held.map Object.id).nodup_iff.mp wf.distinct
  rw [map_cons, nodup_cons] at distinct
  cases used : slot.isEmpty with
  | false => exact distinct.1 (mem_map.mpr ⟨slot, mem_held.mpr ⟨member, used⟩, same⟩)
  | true => exact named (same.symm.trans (released.wellFormed.unnamed slot member used))

/-- The slot that was released is free. -/
theorem Released.room : ∃ slot ∈ map'.slots, slot.isEmpty = true := by
  refine room_of_length ?_
  have fewer := released.held.length_eq
  have most : map.held.length ≤ map.slots.length := length_filter_le _ _
  have length := released.length
  rw [length_cons] at fewer
  omega

end

end Held

/-! ## Histories -/

inductive Operation
  | get (id : Nat)
  | insert (id : Nat) (interface : Interface) (version : Nat)
  | retire (id : Nat)
  | deleteIdSent (id : Nat)
  | activeCount

/-- A call that fails leaves the map as it is. -/
def perform : Operation → ObjectMap
  | .insert id interface version => (map.insert id interface version).toOption.getD map
  | .retire id => (map.retire id).toOption.getD map
  | .deleteIdSent id => (map.deleteIdSent id).toOption.getD map
  | .get _ | .activeCount => map

def performAll (operations : List Operation) : ObjectMap :=
  operations.foldl perform map

/-- `id` was retired and its `delete_id` is still to be sent. -/
def Waiting (id : Nat) : Prop :=
  ∃ object ∈ map.held, object.id = id ∧ object.state = .retired

/-- What holds of a map in every history. -/
structure Consistent (capacity : Nat) (map : ObjectMap) : Prop extends map.WellFormed where
  length : map.slots.length = capacity
  named : ∀ object ∈ map.held, object.id ≠ 0
  display : ⟨displayObjectId, .display, 1, .active⟩ ∈ map.held

section Histories

variable {map map' : ObjectMap} {id capacity : Nat}

/-- An operation keeps the map consistent, and an id waits until its own deletion. -/
theorem Consistent.perform (consistent : Consistent capacity map) (operation : Operation) :
    Consistent capacity (map.perform operation) ∧
      ∀ id, map.Waiting id → operation ≠ .deleteIdSent id → (map.perform operation).Waiting id := by
  have unchanged : Consistent capacity map ∧
      ∀ id, map.Waiting id → operation ≠ .deleteIdSent id → map.Waiting id :=
    ⟨consistent, fun _ waiting _ => waiting⟩
  obtain ⟨wf, length, named, display⟩ := consistent
  unfold ObjectMap.perform Waiting at *
  cases operation with
  | get | activeCount => exact unchanged
  | insert id interface version =>
    dsimp only
    cases done : map.insert id interface version with
    | error e => exact unchanged
    | ok map' =>
      obtain ⟨nonzero, -, length', held, -⟩ := insert_ok done
      refine ⟨⟨wf.insert done, length'.trans length, ?_, ?_⟩, ?_⟩
      all_goals grind [Except.toOption]
  | retire id =>
    dsimp only
    cases done : map.retire id with
    | error e => exact unchanged
    | ok map' =>
      obtain ⟨object, rest, rfl, active, client, before, after, wf', length'⟩ := wf.retire done
      have old := fun other => before.mem_iff (a := other)
      refine ⟨⟨wf', length'.trans length, ?_, ?_⟩, ?_⟩
      all_goals grind [Except.toOption]
  | deleteIdSent id =>
    dsimp only
    cases done : map.deleteIdSent id with
    | error e => exact unchanged
    | ok map' =>
      obtain ⟨object, rfl, retired, released⟩ := wf.deleteIdSent done
      have old := fun other => released.held.mem_iff (a := other)
      refine ⟨⟨released.wellFormed, released.length.trans length, ?_, ?_⟩, ?_⟩
      all_goals grind [Except.toOption]

theorem Consistent.performAll (consistent : Consistent capacity map)
    (operations : List Operation) : Consistent capacity (map.performAll operations) ∧
      ∀ id, map.Waiting id → .deleteIdSent id ∉ operations →
        (map.performAll operations).Waiting id := by
  induction operations generalizing map with
  | nil => exact ⟨consistent, fun _ waiting _ => waiting⟩
  | cons operation rest ih =>
    obtain ⟨next, waits⟩ := consistent.perform operation
    obtain ⟨last, waits'⟩ := ih next
    refine ⟨last, fun id waiting absent => ?_⟩
    rw [mem_cons, not_or] at absent
    exact waits' id (waits id waiting (symm absent.1)) absent.2

/-- A new map holds the display. -/
theorem held_new (created : new capacity = .ok map) :
    map.held = [⟨displayObjectId, .display, 1, .active⟩] := by
  cases capacity with
  | zero => cases created
  | succ rest =>
    obtain rfl := Except.ok.inj created
    simp [held, Object.isEmpty, Object.empty]

theorem Consistent.new (created : new capacity = .ok map) : Consistent capacity map := by
  have held := held_new created
  cases capacity with
  | zero => cases created
  | succ rest =>
    obtain rfl := Except.ok.inj created
    refine ⟨⟨?_, ?_⟩, ?_, ?_, ?_⟩
    · rw [held]
      exact nodup_singleton _
    · intro slot member empty
      rcases mem_cons.mp member with rfl | member
      · cases empty
      · rw [eq_of_mem_replicate member]
        rfl
    · simp
    · rw [held]
      simp [displayObjectId]
    · rw [held]
      exact mem_singleton_self _

theorem Consistent.waiting_refused (consistent : Consistent capacity map) (waiting : map.Waiting id) :
    (∀ object, map.get id ≠ .ok object) ∧
      ∀ interface version map', map.insert id interface version ≠ .ok map' := by
  obtain ⟨retired, member, rfl, isRetired⟩ := waiting
  constructor
  · intro object found
    obtain ⟨held, same, active⟩ := get_ok found
    rw [consistent.toWellFormed.object_unique held member same, isRetired] at active
    cases active
  · intro interface version map' inserted
    exact (insert_ok inserted).2.1 retired (mem_held.mp member).1 rfl

/-- In every history of a map the ids in use are distinct and the display is live; an id that was
retired waits, neither live nor created again, until its deletion was sent, and then its slot is
free for every id that is not in use. -/
theorem object_map_consistent (created : new capacity = .ok map) (operations : List Operation) :
    ((map.performAll operations).held.map Object.id).Nodup ∧
    (map.performAll operations).held.length ≤ capacity ∧
    ⟨displayObjectId, .display, 1, .active⟩ ∈ (map.performAll operations).held ∧
    (∀ id map', (map.performAll operations).retire id = .ok map' → map'.Waiting id) ∧
    (∀ id later, (map.performAll operations).Waiting id → .deleteIdSent id ∉ later →
      (∀ object, ((map.performAll operations).performAll later).get id ≠ .ok object) ∧
      ∀ interface version map',
        ((map.performAll operations).performAll later).insert id interface version ≠ .ok map') ∧
    ∀ id map', (map.performAll operations).deleteIdSent id = .ok map' →
      (∀ slot ∈ map'.slots, slot.id ≠ id) ∧
      ∀ id' interface version, id' ≠ 0 → version ≠ 0 → (∀ slot ∈ map'.slots, slot.id ≠ id') →
        ∃ map'', map'.insert id' interface version = .ok map'' := by
  obtain ⟨consistent, -⟩ := (Consistent.new created).performAll operations
  refine ⟨consistent.distinct, ?_, consistent.display, ?_, ?_, ?_⟩
  · rw [← consistent.length]
    exact length_filter_le _ _
  · intro id map' done
    obtain ⟨object, rest, same, -, -, -, after, -⟩ := consistent.toWellFormed.retire done
    exact ⟨_, after.mem_iff.mpr mem_cons_self, same, rfl⟩
  · intro id later waiting absent
    obtain ⟨consistent', waits⟩ := consistent.performAll later
    exact consistent'.waiting_refused (waits id waiting absent)
  · intro id map' deleted
    obtain ⟨object, rfl, -, released⟩ := consistent.toWellFormed.deleteIdSent deleted
    have member : object ∈ (map.performAll operations).held :=
      released.held.mem_iff.mpr mem_cons_self
    exact ⟨released.fresh consistent.toWellFormed (consistent.named object member),
      fun id' interface version named versioned fresh =>
        insert_of_room named versioned fresh released.room⟩

/-- A callback is created, retired and created again. -/
theorem object_map_consistent_reused : ∃ map, new 2 = .ok map ∧
    ((map.performAll [.insert 2 .callback 1, .retire 2, .deleteIdSent 2,
      .insert 2 .callback 1]).held.map Object.id).Nodup :=
  ⟨_, rfl, (@object_map_consistent _ 2 rfl _).1⟩

end Histories

end ObjectMap

end SlopOS.Wayland
