import Mathlib.Data.List.Basic

/-!
# Block programs on a disk with a volatile write cache

A program reads, writes and flushes whole blocks.  Reads see the cache; a flush
makes every cached write durable; a crash keeps the durable blocks and any subset
of the cached writes.  `Program.Ensures` is a Hoare rule with a crash condition:
it holds of every disk a crash can leave, and the postcondition of every return.
-/

namespace CrashDisk

open List

variable {β : Type}

abbrev Disk (β : Type) := Nat → β

/-- The disk after some writes, in order. -/
def apply (disk : Disk β) (writes : List (Nat × β)) : Disk β :=
  writes.foldl (fun disk w => Function.update disk w.1 w.2) disk

structure State (β : Type) where
  durable : Disk β
  /-- Writes in the cache, oldest first. -/
  pending : List (Nat × β)

namespace State

/-- A disk with an empty cache. -/
def settled (disk : Disk β) : State β := ⟨disk, []⟩

/-- What reads return. -/
def view (s : State β) : Disk β := apply s.durable s.pending

def write (s : State β) (block : Nat) (data : β) : State β :=
  { s with pending := s.pending ++ [(block, data)] }

def flush (s : State β) : State β := settled s.view

/-- `c` is left by a crash in state `s`. -/
def Survives (s : State β) (c : Disk β) : Prop :=
  ∃ kept, List.Sublist kept s.pending ∧ c = apply s.durable kept

/-- Every disk a crash can leave satisfies `crash`. -/
def Safe (crash : Disk β → Prop) (s : State β) : Prop := ∀ c, s.Survives c → crash c

end State

/-! ## Writes and survivors -/

theorem apply_append (disk : Disk β) (first second : List (Nat × β)) :
    apply disk (first ++ second) = apply (apply disk first) second :=
  foldl_append

variable {disk : Disk β} {writes kept : List (Nat × β)} {block : Nat}

/-- A block no write names keeps its contents. -/
theorem apply_of_not_mem (absent : ∀ data, (block, data) ∉ writes) :
    apply disk writes block = disk block := by
  induction writes generalizing disk with
  | nil => rfl
  | cons w rest ih =>
    have other : block ≠ w.1 := fun same => absent w.2 (same ▸ mem_cons_self)
    exact (ih fun data member => absent data (mem_cons_of_mem _ member)).trans
      (Function.update_of_ne other _ _)

/-- Each block holds its old contents or one of the written ones. -/
theorem apply_cases (disk : Disk β) (writes : List (Nat × β)) (block : Nat) :
    apply disk writes block = disk block ∨ (block, apply disk writes block) ∈ writes := by
  induction writes generalizing disk with
  | nil => exact .inl rfl
  | cons w rest ih =>
    rw [apply, foldl_cons]
    rcases ih (Function.update disk w.1 w.2) with old | written
    · by_cases same : block = w.1
      · right
        rw [apply] at old
        rw [old, same, Function.update_self]
        exact mem_cons_self
      · left
        exact old.trans (Function.update_of_ne same _ _)
    · exact .inr (mem_cons_of_mem _ written)

/-- With some of the writes kept, each block holds its old contents or a written one. -/
theorem apply_sublist (disk : Disk β) (sublist : Sublist kept writes) (block : Nat) :
    apply disk kept block = disk block ∨ (block, apply disk kept block) ∈ writes := by
  rcases apply_cases disk kept block with old | written
  · exact .inl old
  · exact .inr (sublist.subset written)

theorem apply_sublist_of_ne (sublist : Sublist kept writes) (apart : ∀ w ∈ writes, w.1 ≠ block)
    : apply disk kept block = disk block := by
  rcases apply_sublist disk sublist block with old | written
  · exact old
  · exact absurd rfl (apart _ written)

/-- With one write per block, a written block holds what was written. -/
theorem apply_of_mem {data : β} (distinct : (writes.map Prod.fst).Nodup)
    (member : (block, data) ∈ writes) : apply disk writes block = data := by
  induction writes generalizing disk with
  | nil => cases member
  | cons w rest ih =>
    rw [map_cons, nodup_cons] at distinct
    rcases mem_cons.mp member with rfl | inRest
    · have absent : ∀ data', (block, data') ∉ rest := fun data' inRest =>
        distinct.1 (mem_map.mpr ⟨_, inRest, rfl⟩)
      exact (apply_of_not_mem absent).trans (Function.update_self _ _ _)
    · exact ih distinct.2 inRest

section

variable {blocks : List Nat} {data : β}

/-- One content written to several blocks. -/
theorem apply_fill (distinct : blocks.Nodup) (member : block ∈ blocks) :
    apply disk (blocks.map (·, data)) block = data := by
  refine apply_of_mem ?_ (mem_map_of_mem member)
  rw [map_map]
  exact (map_id blocks).symm ▸ distinct

theorem apply_fill_other (absent : block ∉ blocks) :
    apply disk (blocks.map (·, data)) block = disk block := by
  refine apply_of_not_mem fun data member => ?_
  obtain ⟨other, inside, same⟩ := mem_map.mp member
  cases same
  exact absent inside

end

namespace State

variable {s : State β} {c : Disk β} {crash : Disk β → Prop}

@[simp] theorem settled_view (disk : Disk β) : (settled disk).view = disk := rfl

@[simp] theorem settled_pending (disk : Disk β) : (settled disk).pending = [] := rfl

@[simp] theorem view_write (s : State β) (block : Nat) (data : β) :
    (s.write block data).view = Function.update s.view block data :=
  apply_append _ _ _

theorem survives_settled : (settled disk).Survives c ↔ c = disk := by
  constructor
  · intro survived
    obtain ⟨kept, sublist, rfl⟩ := survived
    rw [settled_pending, sublist_nil] at sublist
    rw [sublist]
    rfl
  · intro same
    exact ⟨[], Sublist.refl _, same⟩

theorem Survives.write (survived : s.Survives c) (block : Nat) (data : β) :
    (s.write block data).Survives c := by
  obtain ⟨kept, sublist, rfl⟩ := survived
  exact ⟨kept, sublist.trans (sublist_append_left _ _), rfl⟩

theorem Safe.of_write {data : β} (safe : (s.write block data).Safe crash) : s.Safe crash :=
  fun c survived => safe c (survived.write block data)

theorem safe_true (s : State β) : s.Safe fun _ => True := fun _ _ => trivial

theorem safe_settled : (settled disk).Safe crash ↔ crash disk := by
  constructor
  · exact fun safe => safe disk (survives_settled.mpr rfl)
  · intro holds c survived
    rw [survives_settled.mp survived]
    exact holds

end State

/-! ## Programs -/

inductive Program (β : Type) (α : Type) : Type
  | pure (value : α)
  | fail (message : String)
  | read (block : Nat) (next : β → Program β α)
  | write (block : Nat) (data : β) (next : Program β α)
  | flush (next : Program β α)

namespace Program

variable {α γ ε : Type}

def bind : Program β α → (α → Program β γ) → Program β γ
  | .pure value, f => f value
  | .fail message, _ => .fail message
  | .read block next, f => .read block fun data => (next data).bind f
  | .write block data next, f => .write block data (next.bind f)
  | .flush next, f => .flush (next.bind f)

instance : Monad (Program β) where
  pure := .pure
  bind := .bind

/-- The outcome on a disk that does not crash. -/
def run : Program β α → State β → Except String (α × State β)
  | .pure value, s => .ok (value, s)
  | .fail message, _ => .error message
  | .read block next, s => (next (s.view block)).run s
  | .write block data next, s => next.run (s.write block data)
  | .flush next, s => next.run s.flush

/-- The states a run passes through, the first and the last included. -/
def states : Program β α → State β → List (State β)
  | .pure _, s => [s]
  | .fail _, s => [s]
  | .read block next, s => s :: (next (s.view block)).states s
  | .write block data next, s => s :: next.states (s.write block data)
  | .flush next, s => s :: next.states s.flush

/-- `c` is left by a crash at some point of the run. -/
def Crashes (p : Program β α) (s : State β) (c : Disk β) : Prop :=
  ∃ s' ∈ p.states s, s'.Survives c

/-- Continue when the condition holds. -/
def require (condition : Bool) (message : String) : Program β Unit :=
  if condition then .pure () else .fail message

/-- `unwrap_or_else` with a failing alternative. -/
def expect (result : Except ε α) (message : String) : Program β α :=
  match result with
  | .ok value => .pure value
  | .error _ => .fail message

def expectSome (result : Option α) (message : String) : Program β α :=
  match result with
  | some value => .pure value
  | none => .fail message

/-! ## The crash logic -/

def Ensures (crash : Disk β → Prop) (post : α → State β → Prop) :
    Program β α → State β → Prop
  | .pure value, s => s.Safe crash ∧ post value s
  | .fail _, s => s.Safe crash
  | .read block next, s => (next (s.view block)).Ensures crash post s
  | .write block data next, s => next.Ensures crash post (s.write block data)
  | .flush next, s => s.Safe crash ∧ next.Ensures crash post s.flush

variable {crash crash' : Disk β → Prop} {post post' : α → State β → Prop} {p : Program β α}
  {s : State β} {message : String} {f : α → Program β γ} {value : α} {s' : State β}
  {result : Except ε α} {condition : Bool}

section

variable (ensures : p.Ensures crash post s)
include ensures

theorem Ensures.safe : s.Safe crash := by
  induction p generalizing s with
  | pure | flush => exact ensures.1
  | fail message => exact ensures
  | read block next ih => exact ih _ ensures
  | write block data next ih => exact (ih ensures).of_write

theorem Ensures.of_states (reached : s' ∈ p.states s) : s'.Safe crash := by
  have here := ensures.safe
  induction p generalizing s with
  | pure | fail => rw [mem_singleton.mp reached]; exact here
  | read block next ih =>
    rcases mem_cons.mp reached with rfl | later
    · exact here
    · exact ih _ ensures later ensures.safe
  | write block data next ih =>
    have continued : next.Ensures crash post (s.write block data) := ensures
    rcases mem_cons.mp reached with rfl | later
    · exact here
    · exact ih continued later continued.safe
  | flush next ih =>
    rcases mem_cons.mp reached with rfl | later
    · exact here
    · exact ih ensures.2 later ensures.2.safe

/-- The crash condition holds of every disk a crash leaves. -/
theorem Ensures.crashes {c : Disk β} (crashed : p.Crashes s c) : crash c := by
  obtain ⟨s', reached, survived⟩ := crashed
  exact ensures.of_states reached c survived

/-- The postcondition holds of every return. -/
theorem Ensures.returns (returned : p.run s = .ok (value, s')) : post value s' := by
  induction p generalizing s with
  | pure a =>
    cases returned
    exact ensures.2
  | fail message => cases returned
  | read block next ih => exact ih _ ensures returned
  | write block data next ih => exact ih ensures returned
  | flush next ih => exact ih ensures.2 returned

end

theorem Ensures.bind {post : γ → State β → Prop}
    (ensures : p.Ensures crash (fun value s => (f value).Ensures crash post s) s) :
    (p >>= f).Ensures crash post s := by
  induction p generalizing s with
  | pure value => exact ensures.2
  | fail message => exact ensures
  | read block next ih => exact ih _ ensures
  | write block data next ih => exact ih ensures
  | flush next ih => exact ⟨ensures.1, ih ensures.2⟩

section

variable (ensures : p.Ensures crash post s)
include ensures

/-- The rule of consequence; the postcondition may use the outcome of the run. -/
theorem Ensures.imp (weaker : ∀ c, crash c → crash' c)
    (holds : ∀ value s', post value s' → p.run s = .ok (value, s') → post' value s') :
    p.Ensures crash' post' s := by
  induction p generalizing s with
  | pure value => exact ⟨fun c survived => weaker c (ensures.1 c survived), holds _ _ ensures.2 rfl⟩
  | fail message => exact fun c survived => weaker c (ensures c survived)
  | read block next ih => exact ih _ ensures holds
  | write block data next ih => exact ih ensures holds
  | flush next ih => exact ⟨fun c survived => weaker c (ensures.1 c survived), ih ensures.2 holds⟩

theorem Ensures.mono (weaker : ∀ value s, post value s → post' value s) : p.Ensures crash post' s :=
  ensures.imp (fun _ => id) fun value s' holds _ => weaker value s' holds

theorem Ensures.weaken (weaker : ∀ c, crash c → crash' c) : p.Ensures crash' post s :=
  ensures.imp weaker fun _ _ holds _ => holds

theorem Ensures.with_run :
    p.Ensures crash (fun value s' => post value s' ∧ p.run s = .ok (value, s')) s :=
  ensures.imp (fun _ => id) fun _ _ holds ran => ⟨holds, ran⟩

end

theorem ensures_require {post : Unit → State β → Prop} (holds : condition = true → post () s)
    (safe : s.Safe crash := by first | assumption | exact State.safe_true _) :
    (require condition message : Program β Unit).Ensures crash post s := by
  unfold require
  split
  · next true_ => exact ⟨safe, holds true_⟩
  · exact safe

theorem ensures_expect (holds : ∀ value, result = .ok value → post value s)
    (safe : s.Safe crash := by first | assumption | exact State.safe_true _) :
    (expect result message : Program β α).Ensures crash post s := by
  cases result with
  | ok value => exact ⟨safe, holds value rfl⟩
  | error e => exact safe

theorem ensures_expectSome {result : Option α} (holds : ∀ value, result = some value → post value s)
    (safe : s.Safe crash := by first | assumption | exact State.safe_true _) :
    (expectSome result message : Program β α).Ensures crash post s := by
  cases result with
  | some value => exact ⟨safe, holds value rfl⟩
  | none => exact safe

theorem Ensures.require {next : Unit → Program β γ} {post : γ → State β → Prop}
    (holds : condition = true → (next ()).Ensures crash post s)
    (safe : s.Safe crash := by first | assumption | exact State.safe_true _) :
    (Program.require condition message >>= next).Ensures crash post s :=
  (ensures_require holds).bind

theorem Ensures.expect {next : α → Program β γ} {post : γ → State β → Prop}
    (holds : ∀ value, result = .ok value → (next value).Ensures crash post s)
    (safe : s.Safe crash := by first | assumption | exact State.safe_true _) :
    (Program.expect result message >>= next).Ensures crash post s :=
  (ensures_expect holds).bind

/-- Without conditions every program is correct. -/
theorem ensures_any (p : Program β α) (s : State β) :
    p.Ensures (fun _ => True) (fun _ _ => True) s := by
  induction p generalizing s with
  | pure => exact ⟨s.safe_true, trivial⟩
  | fail => exact s.safe_true
  | read _ _ ih => exact ih _ s
  | write _ _ _ ih => exact ih _
  | flush _ ih => exact ⟨s.safe_true, ih _⟩

/-- A stage that the postcondition does not depend on. -/
theorem Ensures.skip {post : γ → State β → Prop}
    (rest : ∀ value s, (f value).Ensures (fun _ => True) post s) :
    (p >>= f).Ensures (fun _ => True) post s :=
  .bind ((ensures_any p s).mono fun value s _ => rest value s)

/-! ## Runs -/

section

variable (p : Program β α) (s : State β)

/-- The run ends in a return. -/
def Returns : Prop := ∃ value s', p.run s = .ok (value, s')

theorem mem_states_self : s ∈ p.states s := by
  cases p with
  | pure | fail => exact mem_singleton_self s
  | read | write | flush => exact mem_cons_self

/-- The state after a number of requests. -/
theorem getD_mem_states (requests : Nat) : (p.states s).getD requests s ∈ p.states s := by
  rw [getD_eq_getElem?_getD]
  cases found : (p.states s)[requests]? with
  | none => exact p.mem_states_self s
  | some s => exact mem_of_getElem? found

end

theorem run_bind (p : Program β α) (f : α → Program β γ) (s : State β) :
    (p >>= f).run s = (p.run s).bind fun r => (f r.1).run r.2 := by
  induction p generalizing s with
  | pure value => rfl
  | fail message => rfl
  | read block next ih => exact ih _ _
  | write block data next ih => exact ih _
  | flush next ih => exact ih _

theorem run_bind_of_ok (returned : p.run s = .ok (value, s')) :
    (p >>= f).run s = (f value).run s' := by
  rw [run_bind, returned]
  rfl

/-- A first part that returns, then the rest. -/
theorem run_seq {result : Except String (γ × State β)} (returned : p.run s = .ok (value, s'))
    (rest : (f value).run s' = result) : (p >>= f).run s = result :=
  (run_bind_of_ok returned).trans rest

theorem Returns.bind (returned : p.run s = .ok (value, s')) (rest : (f value).Returns s') :
    (p >>= f).Returns s := by
  obtain ⟨result, last, ran⟩ := rest
  exact ⟨result, last, run_seq returned ran⟩

theorem run_require (holds : condition = true) :
    (require condition message : Program β Unit).run s = .ok ((), s) := by
  rw [holds]
  rfl

theorem run_expect (holds : result = .ok value) :
    (expect result message : Program β α).run s = .ok (value, s) := by
  rw [holds]
  rfl

theorem run_expectSome {result : Option α} (holds : result = some value) :
    (expectSome result message : Program β α).run s = .ok (value, s) := by
  rw [holds]
  rfl

end Program

end CrashDisk
