import SlopOS.Ipc.Streams
import Mathlib.Data.List.Nodup

/-!
# Handles are never reused

Every allocation of a slot takes the next generation of the slot, and a generation
that would not fit is refused.  Over any history the handles of the allocations are
distinct, and a closed handle names nothing any more.
-/

namespace SlopOS.Ipc

open LocalSocketTable

variable {SOCKETS BACKLOG BYTES : Nat}

/-! ## Allocations -/

/-- The handles of the slots that came into use between two tables: the socket made by
`socket`, and the server endpoint made by `connect`. -/
def allocated (table table' : LocalSocketTable SOCKETS BACKLOG BYTES) : List SocketHandle :=
  ((List.finRange SOCKETS).filter fun index =>
    (table.slot index).state = .free && (table'.slot index).state ≠ .free).map table'.handleOf

/-- All allocations of a history, in order. -/
def allocations (record : List (Event SOCKETS BACKLOG BYTES)) : List SocketHandle :=
  record.flatMap fun e => allocated e.before e.after

section Allocations

variable {table table' : LocalSocketTable SOCKETS BACKLOG BYTES} {handle : SocketHandle}
  {issued : List SocketHandle}

theorem mem_allocated : handle ∈ allocated table table' ↔ ∃ index, handle = table'.handleOf index ∧
    (table.slot index).state = .free ∧ (table'.slot index).state ≠ .free := by
  simp only [allocated, List.mem_map, List.mem_filter, List.mem_finRange, true_and,
    Bool.and_eq_true, decide_eq_true_eq]
  constructor
  · rintro ⟨index, states, rfl⟩
    exact ⟨index, rfl, states⟩
  · rintro ⟨index, rfl, states⟩
    exact ⟨index, states, rfl⟩

theorem allocated_nodup : (allocated table table').Nodup :=
  List.Nodup.map (fun _ _ same => handleOf_injective same)
    (List.Nodup.filter _ (List.nodup_finRange SOCKETS))

/-- The handles issued so far are distinct, and no slot is behind one of them. -/
structure Issued (table : LocalSocketTable SOCKETS BACKLOG BYTES) (issued : List SocketHandle) :
    Prop where
  nodup : issued.Nodup
  reached : ∀ handle ∈ issued, ∃ index : Fin SOCKETS, handle.index = index.val ∧
    handle.generation ≤ (table.slot index).generation

/-- A slot that comes into use has a generation above all that it had before. -/
theorem Issued.advance (inv : Issued table issued) (advances : table.Advances table') :
    Issued table' (issued ++ allocated table table') := by
  have newer : ∀ index, (table.slot index).generation ≤ (table'.slot index).generation := by
    intro index
    rcases advances index with less | ⟨same, -⟩
    · exact le_of_lt less
    · exact le_of_eq same.symm
  constructor
  · refine List.nodup_append.mpr ⟨inv.nodup, allocated_nodup, ?_⟩
    intro old member fresh allocated same
    subst same
    obtain ⟨index, at_, bound⟩ := inv.reached old member
    obtain ⟨index', rfl, free, used⟩ := mem_allocated.mp allocated
    have same : index' = index := Fin.ext at_
    subst same
    rcases advances index' with less | ⟨-, stays⟩
    · exact Nat.not_le_of_lt less bound
    · exact used (stays free)
  · intro handle member
    rcases List.mem_append.mp member with old | fresh
    · obtain ⟨index, at_, bound⟩ := inv.reached handle old
      exact ⟨index, at_, bound.trans (newer index)⟩
    · obtain ⟨index, rfl, -⟩ := mem_allocated.mp fresh
      exact ⟨index, rfl, le_refl _⟩

theorem reached_issued (ops : List Operation) : Issued (reached SOCKETS BACKLOG BYTES ops)
      (allocations (history SOCKETS BACKLOG BYTES ops)) := by
  have both := @Trace.holds_always _ _ _ step [] new
    (fun (table : LocalSocketTable SOCKETS BACKLOG BYTES) record =>
      table.Valid ∧ Issued table (allocations record))
    (fun operation inv => by
      have moved := inv.1.step_transition operation
      refine ⟨inv.1.step operation, ?_⟩
      have next := inv.2.advance (moved.shape.advances inv.1)
      rw [allocations, List.flatMap_append, List.flatMap_cons, List.flatMap_nil, List.append_nil]
      exact next)
    ⟨new_valid, .nil, fun _ member => nomatch member⟩ ops
  exact both.2

end Allocations

/-! ## Closed handles -/

/-- The error of an operation with a handle that names nothing.  `bind` and `connect` look at
their path before they look at the handle. -/
def LocalSocketTable.refusal (table : LocalSocketTable SOCKETS BACKLOG BYTES) :
    Operation → SocketError
  | .bind _ path =>
      match validatePath path with
      | .error error => error
      | .ok () =>
          if (table.position fun _ slot => slot.named && slot.pathIs path).isSome then .addressInUse
          else .invalidHandle
  | .connect _ path =>
      match validatePath path with
      | .error error => error
      | .ok () => .invalidHandle
  | _ => .invalidHandle

section Closed

variable {table : LocalSocketTable SOCKETS BACKLOG BYTES} {handle : SocketHandle}

theorem LocalSocketTable.Retired.index_eq (retired : table.Retired handle) :
    table.index handle = .error .invalidHandle := by
  cases found : table.index handle with
  | ok index => exact absurd found (retired.index_ne index)
  | error error =>
    unfold index at found
    split at found
    · dsimp only at found
      split at found
      · cases found
      · exact found.symm
    · exact found.symm

theorem sendTarget_error {refused : Bool} {error : SocketError}
    (missing : table.index handle = .error error) :
    table.sendTarget handle refused = .error error := by
  unfold sendTarget
  rw [missing]
  rfl

/-- An operation with a handle that names nothing is refused and changes nothing. -/
theorem step_of_missing {operation : Operation} (subject : operation.handle = some handle)
    (missing : table.index handle = .error .invalidHandle) :
    table.step operation = (table, .error (table.refusal operation)) := by
  cases operation with
  | socket => cases subject
  | bind socket path =>
    cases subject
    simp only [step, LocalSocketTable.bind, refusal]
    cases validatePath path with
    | error error => rfl
    | ok valid =>
      dsimp only
      split
      · rfl
      · rw [missing]
        rfl
  | connect socket path =>
    cases subject
    simp only [step, connect, refusal]
    cases validatePath path with
    | error error => rfl
    | ok valid =>
      rw [missing]
      rfl
  | send | sendExact | sendWithRights =>
    cases subject
    simp only [step, send, sendExact, sendWithRights, sendTarget_error missing]
    rfl
  | _ =>
    cases subject
    simp only [step, LocalSocketTable.listen, accept, pendingConnections, peer, recv,
      recvWithRights, takeRights, readiness, close, missing]
    rfl

/-- A closed handle stays retired in every run that follows. -/
theorem retired_run (valid : table.Valid) (retired : table.Retired handle)
    (ops : List Operation) : (Trace.run step table ops).Retired handle :=
  (Trace.invariant
    (fun table : LocalSocketTable SOCKETS BACKLOG BYTES => table.Valid ∧ table.Retired handle)
    (fun operation inv => ⟨inv.1.step operation,
      (inv.1.step_transition operation).shape.retired inv.1 inv.2⟩) ⟨valid, retired⟩ ops).2

/-- Closing retires the handle. -/
theorem retired_of_close (valid : table.Valid)
    (closed : (table.step (.close handle)).2 = .ok .done) :
    (table.step (.close handle)).1.Retired handle := by
  have shape := (valid.step_transition (.close handle)).shape
  rw [closed] at shape
  generalize (table.step (.close handle)).1 = table' at shape
  cases shape with
  | same quiet => cases quiet
  | update update quiet => cases quiet
  | close named =>
    rw [eq_handleOf named]
    exact retired_closed _

end Closed

/-- Over any history the handles of all allocations are distinct; and once a handle is closed,
every operation with it is refused and changes nothing, whatever happens in between: with
`InvalidHandle`, unless the path given to `bind` or `connect` is refused first. -/
theorem socket_handles_fresh (SOCKETS BACKLOG BYTES : Nat) (ops : List Operation) :
    (allocations (history SOCKETS BACKLOG BYTES ops)).Nodup ∧
    ∀ earlier later handle, ops = earlier ++ .close handle :: later →
      ((reached SOCKETS BACKLOG BYTES earlier).step (.close handle)).2 = .ok .done →
      ∀ operation : Operation, operation.handle = some handle →
        (reached SOCKETS BACKLOG BYTES ops).step operation = (reached SOCKETS BACKLOG BYTES ops,
            .error ((reached SOCKETS BACKLOG BYTES ops).refusal operation)) := by
  refine ⟨(reached_issued ops).nodup, ?_⟩
  intro earlier later handle split closed operation subject
  have valid : (reached SOCKETS BACKLOG BYTES earlier).Valid := reached_valid earlier
  have retired := retired_run (valid.step _) (retired_of_close valid closed) later
  apply step_of_missing subject
  rw [split, reached, Trace.run_append]
  exact retired.index_eq

/-- Slot 0 is closed and used again. -/
def reopenedOps : List Operation := [.socket, .close ⟨0, 1⟩, .socket]

theorem socket_handles_fresh_reused : allocations (history 2 1 4 reopenedOps) = [⟨0, 1⟩, ⟨0, 2⟩] ∧
      (reached 2 1 4 reopenedOps).step (.listen ⟨0, 1⟩) =
        (reached 2 1 4 reopenedOps, .error .invalidHandle) := by
  refine ⟨by decide, ?_⟩
  exact (socket_handles_fresh 2 1 4 reopenedOps).2 [.socket] [.socket] ⟨0, 1⟩ rfl (by decide)
    (.listen ⟨0, 1⟩) rfl

/-- A closed handle with a path that is not absolute. -/
theorem closed_handle_path_first : ((reached 2 1 4 reopenedOps).step (.bind ⟨0, 1⟩ [0x61])).2 =
    .error .invalidPath := by
  decide

end SlopOS.Ipc
