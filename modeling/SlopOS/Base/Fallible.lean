import Mathlib.Init

/-!
Peeling `Except` computations apart: a `do` block that ends in `.ok` has every
intermediate result.
-/

namespace Except

variable {ε α β : Type} {x : Except ε α} {f : α → Except ε β} {onError : ε → Prop} {onOk : β → Prop}
  {e : ε} {p : Prop}

@[simp] theorem bind_eq_ok_iff {b : β} : (x >>= f) = .ok b ↔ ∃ a, x = .ok a ∧ f a = .ok b := by
  cases x with
  | error e =>
    constructor
    · intro h; cases h
    · rintro ⟨a, h, -⟩; cases h
  | ok a =>
    constructor
    · intro h; exact ⟨a, rfl, h⟩
    · rintro ⟨a', h, rest⟩; cases h; exact rest

/-- A computation that succeeded, taken apart. -/
theorem bind_ok {b : β} (succeeded : (x >>= f) = .ok b) : ∃ a, x = .ok a ∧ f a = .ok b :=
  bind_eq_ok_iff.mp succeeded

@[simp] theorem pure_eq_ok_iff {a b : α} : (pure a : Except ε α) = .ok b ↔ a = b :=
  ⟨Except.ok.inj, fun h => h ▸ rfl⟩

@[simp] theorem throw_ne_ok {b : α} : (throw e : Except ε α) ≠ .ok b :=
  fun h => by cases h

theorem ite_throw_eq_ok_iff [Decidable p] {b : α} :
    (if p then throw e else x) = .ok b ↔ ¬ p ∧ x = .ok b := by
  split <;> simp_all

theorem ite_error_eq_ok_iff [Decidable p] {b : α} :
    (if p then .error e else x) = .ok b ↔ ¬ p ∧ x = .ok b :=
  ite_throw_eq_ok_iff

/-- A guard that passes. -/
theorem guard_eq_ok_iff [Decidable p] {u : Unit} :
    (if p then .error e else .ok () : Except ε Unit) = .ok u ↔ ¬ p := by
  split <;> simp_all

/-! ## Postconditions on both outcomes -/

/-- A success satisfies `onOk` and a failure satisfies `onError`. -/
def Ends (onOk : α → Prop) (onError : ε → Prop) : Except ε α → Prop
  | .ok a => onOk a
  | .error e => onError e

theorem Ends.bind {onMiddle : α → Prop} (first : Ends onMiddle onError x)
    (second : ∀ a, onMiddle a → Ends onOk onError (f a)) : Ends onOk onError (x >>= f) := by
  cases x with
  | error e => exact first
  | ok a => exact second a first

theorem Ends.of_forall {onOk : α → Prop} (ok : ∀ a, onOk a) (error : ∀ e, onError e) :
    Ends onOk onError x := by
  cases x with
  | error e => exact error e
  | ok a => exact ok a

theorem Ends.imp {onOk onOk' : α → Prop} {onError' : ε → Prop} (ends : Ends onOk onError x)
    (ok : ∀ a, onOk a → onOk' a) (error : ∀ e, onError e → onError' e) : Ends onOk' onError' x := by
  cases x with
  | error e => exact error e ends
  | ok a => exact ok a ends

/-- A result that may be used as such, failures being of no concern. -/
theorem Ends.self : Ends (fun a => x = .ok a) (fun _ => True) x := by
  cases x with
  | error e => trivial
  | ok a => rfl

/-- A step of which nothing is used. -/
theorem Ends.after (rest : ∀ a, Ends onOk (fun _ => True) (f a)) :
    Ends onOk (fun _ => True) (x >>= f) := by
  cases x with
  | error e => trivial
  | ok a => exact rest a

theorem Ends.guard {onOk : α → Prop} [Decidable p] (passed : ¬ p → Ends onOk (fun _ => True) x) :
    Ends onOk (fun _ => True) (if p then .error e else x) := by
  split
  case isTrue => trivial
  case isFalse fails => exact passed fails

theorem Ends.of_eq_ok {onOk : α → Prop} {a : α} (ends : Ends onOk onError x) (result : x = .ok a) :
    onOk a := by
  rw [result] at ends
  exact ends

theorem Ends.of_ok (success : ∃ a, x = .ok a) (rest : ∀ a, Ends onOk onError (f a)) :
    Ends onOk onError (x >>= f) := by
  obtain ⟨a, rfl⟩ := success
  exact rest a

/-- A fold whose every step succeeds on the listed elements succeeds. -/
theorem foldlM_ok {f : β → α → Except ε β} {items : List α}
    (each : ∀ a ∈ items, ∀ b, ∃ b', f b a = .ok b') (start : β) :
    ∃ result, items.foldlM f start = .ok result := by
  induction items generalizing start with
  | nil => exact ⟨start, rfl⟩
  | cons a rest ih =>
    obtain ⟨next, stepped⟩ := each a List.mem_cons_self start
    obtain ⟨result, done⟩ := ih (fun a member => each a (List.mem_cons_of_mem _ member)) next
    refine ⟨result, ?_⟩
    rw [List.foldlM_cons, stepped]
    exact done

/-- A loop over `0..n` with an invariant. -/
theorem Ends.foldlM_range {f : β → Nat → Except ε β} {n : Nat} {p : Nat → β → Prop} {start : β}
    (initial : p 0 start) (step : ∀ k < n, ∀ b, p k b → Ends (p (k + 1)) onError (f b k)) :
    Ends (p n) onError ((List.range n).foldlM f start) := by
  induction n with
  | zero => exact initial
  | succ n ih =>
    rw [List.range_succ, List.foldlM_append]
    refine (ih fun k below => step k (Nat.lt_succ_of_lt below)).bind fun b holds => ?_
    exact (step n (Nat.lt_succ_self n) b holds).bind fun _ => id

theorem foldlM_range_ok {f : β → Nat → Except ε β} {n : Nat} {g : Nat → β}
    (step : ∀ k < n, f (g k) k = .ok (g (k + 1))) : (List.range n).foldlM f (g 0) = .ok (g n) := by
  induction n with
  | zero => rfl
  | succ n ih =>
    rw [List.range_succ, List.foldlM_append, ih fun k below => step k (Nat.lt_succ_of_lt below)]
    show (f (g n) n >>= pure) = _
    rw [step n (Nat.lt_succ_self n)]
    rfl

end Except
