import Mathlib.Data.List.Basic
import Mathlib.Logic.Basic

/-!
# Transactions

A transaction reads and writes a store and either commits with a result or fails;
a failed transaction leaves no trace, so it is a function from a store to an
error or a result with the new store.

Each combinator has one inversion lemma (`…_eq_ok`) that says what a committed run
of it did.  Rewriting with them turns a committed transaction into the list of
checks it passed and the value of the final store.
-/

namespace XGovernor.Lib

universe u

/-- Transactions over a store `σ` with errors `ε`. -/
def Tx (σ : Type u) (ε : Type u) (α : Type u) : Type u :=
  σ → Except ε (α × σ)

namespace Tx

variable {σ ε α β : Type u}

/-- Runs a transaction on a store. -/
def run (x : Tx σ ε α) (s : σ) : Except ε (α × σ) := x s

instance : Monad (Tx σ ε) where
  pure a := fun s => .ok (a, s)
  bind x f := fun s =>
    match x s with
    | .error e => .error e
    | .ok (a, t) => f a t

/-- Aborts the transaction. -/
def fail (e : ε) : Tx σ ε α := fun _ => .error e

/-- The current store. -/
def get : Tx σ ε σ := fun s => .ok (s, s)

/-- Replaces the store. -/
def modify (f : σ → σ) : Tx σ ε PUnit := fun s => .ok (⟨⟩, f s)

/-- Aborts unless the check holds. -/
def require (check : Bool) (e : ε) : Tx σ ε PUnit :=
  fun s => if check then .ok (⟨⟩, s) else .error e

/-- Aborts unless the row is there. -/
def expect (row : Option α) (e : ε) : Tx σ ε α :=
  fun s =>
    match row with
    | some a => .ok (a, s)
    | none => .error e

/-- Runs a step if the condition holds. -/
def when (condition : Bool) (x : Tx σ ε PUnit) : Tx σ ε PUnit :=
  if condition then x else pure ⟨⟩

/-- Runs a step if there is a value. -/
def forSome (value : Option α) (f : α → Tx σ ε PUnit) : Tx σ ε PUnit :=
  match value with
  | none => pure ⟨⟩
  | some a => f a

/-- Runs a step for every element, in order. -/
def forEach (xs : List α) (f : α → Tx σ ε PUnit) : Tx σ ε PUnit :=
  match xs with
  | [] => pure ⟨⟩
  | x :: rest => do
    f x
    forEach rest f

/-! ## Inversion -/

variable {s s' : σ}

@[simp] theorem run_pure_eq_ok {a b : α} :
    (pure a : Tx σ ε α).run s = .ok (b, s') ↔ b = a ∧ s' = s := by
  show (Except.ok (a, s) : Except ε (α × σ)) = .ok (b, s') ↔ _
  constructor
  · rintro ⟨⟩
    exact ⟨rfl, rfl⟩
  · rintro ⟨rfl, rfl⟩
    rfl

@[simp] theorem run_bind_eq_ok {x : Tx σ ε α} {f : α → Tx σ ε β} {b : β} :
    (x >>= f).run s = .ok (b, s') ↔ ∃ a t, x.run s = .ok (a, t) ∧ (f a).run t = .ok (b, s') := by
  rcases hx : x s with e | ⟨a, t⟩
  · simp [run, bind, hx]
  · simp [run, bind, hx]

@[simp] theorem run_fail_eq_ok {e : ε} {a : α} :
    (fail e : Tx σ ε α).run s = .ok (a, s') ↔ False := by
  simp [run, fail]

@[simp] theorem run_get_eq_ok {a s s' : σ} :
    (get : Tx σ ε σ).run s = .ok (a, s') ↔ a = s ∧ s' = s := by
  simp only [run, get, Except.ok.injEq, Prod.mk.injEq]
  exact and_congr eq_comm eq_comm

@[simp] theorem run_modify_eq_ok {f : σ → σ} {a : PUnit} :
    (modify f : Tx σ ε PUnit).run s = .ok (a, s') ↔ s' = f s := by
  simp only [run, modify, Except.ok.injEq, Prod.mk.injEq, true_and]
  exact eq_comm

@[simp] theorem run_require_eq_ok {check : Bool} {e : ε} {a : PUnit} :
    (require check e : Tx σ ε PUnit).run s = .ok (a, s') ↔ check = true ∧ s' = s := by
  cases check
  · simp [run, require]
  · simp only [run, require, if_true, Except.ok.injEq, Prod.mk.injEq, true_and]
    exact eq_comm

@[simp] theorem run_expect_eq_ok {row : Option α} {e : ε} {a : α} :
    (expect row e : Tx σ ε α).run s = .ok (a, s') ↔ row = some a ∧ s' = s := by
  cases row with
  | none => simp [run, expect]
  | some b =>
    simp only [run, expect, Except.ok.injEq, Prod.mk.injEq, Option.some.injEq]
    exact and_congr_right fun _ => eq_comm

variable {f : α → Tx σ ε PUnit} {u : PUnit}

@[simp] theorem run_when_eq_ok {condition : Bool} {x : Tx σ ε PUnit} :
    (when condition x).run s = .ok (u, s') ↔
      (condition = true ∧ x.run s = .ok (u, s')) ∨ (condition = false ∧ s' = s) := by
  cases condition <;> simp [when]

@[simp] theorem run_forSome_eq_ok {value : Option α} :
    (forSome value f).run s = .ok (u, s') ↔
      (∃ a, value = some a ∧ (f a).run s = .ok (u, s')) ∨ (value = none ∧ s' = s) := by
  cases value <;> simp [forSome]

@[simp] theorem run_forEach_nil_eq_ok :
    (forEach [] f).run s = .ok (u, s') ↔ s' = s := by
  simp [forEach]

theorem run_forEach_cons_eq_ok {x : α} {rest : List α} :
    (forEach (x :: rest) f).run s = .ok (u, s') ↔
      ∃ t, (f x).run s = .ok (⟨⟩, t) ∧ (forEach rest f).run t = .ok (⟨⟩, s') := by
  simp only [forEach, run_bind_eq_ok]
  exact ⟨fun ⟨_, t, h, h'⟩ => ⟨t, h, h'⟩, fun ⟨t, h, h'⟩ => ⟨⟨⟩, t, h, h'⟩⟩

/-- What a committed sequence of reads and checks did, as one set of rewrite rules. -/
theorem checks :
    (∀ {σ ε α β : Type} {x : Tx σ ε α} {f : α → Tx σ ε β} {b : β} {s s' : σ},
      (x >>= f).run s = .ok (b, s') ↔ ∃ a t, x.run s = .ok (a, t) ∧ (f a).run t = .ok (b, s')) ∧
    (∀ {σ ε : Type} {a s s' : σ}, (get : Tx σ ε σ).run s = .ok (a, s') ↔ a = s ∧ s' = s) ∧
    (∀ {σ ε : Type} {check : Bool} {e : ε} {a : PUnit} {s s' : σ},
      (require check e : Tx σ ε PUnit).run s = .ok (a, s') ↔ check = true ∧ s' = s) ∧
    (∀ {p q r : Prop}, (p ∧ q) ∧ r ↔ p ∧ q ∧ r) ∧
    (∀ {α : Type} {p : α → Prop} {q : Prop}, (∃ a, q ∧ p a) ↔ q ∧ ∃ a, p a) ∧
    (∀ {α : Type} {p : α → Prop} {a : α}, (∃ b, b = a ∧ p b) ↔ p a) ∧
    ∀ {q : Prop}, (∃ _ : PUnit.{1}, q) ↔ q :=
  ⟨run_bind_eq_ok, run_get_eq_ok, run_require_eq_ok, and_assoc, exists_and_left,
    exists_eq_left, exists_const _⟩

/-- What a committed sequence of statements did, in the same way. -/
theorem writes :
    (∀ {σ ε α : Type} {a b : α} {s s' : σ},
      (pure a : Tx σ ε α).run s = .ok (b, s') ↔ b = a ∧ s' = s) ∧
    (∀ {σ ε : Type} {f : σ → σ} {a : PUnit} {s s' : σ},
      (modify f : Tx σ ε PUnit).run s = .ok (a, s') ↔ s' = f s) ∧
    ∀ {σ ε α : Type} {row : Option α} {e : ε} {a : α} {s s' : σ},
      (expect row e : Tx σ ε α).run s = .ok (a, s') ↔ row = some a ∧ s' = s :=
  ⟨run_pure_eq_ok, run_modify_eq_ok, run_expect_eq_ok⟩

/-- What every single step keeps, a committed loop keeps. -/
theorem forEach_invariant {P : σ → Prop} {xs : List α}
    (hstep : ∀ x ∈ xs, ∀ s s', P s → (f x).run s = .ok (⟨⟩, s') → P s') (hs : P s)
    (h : (forEach xs f).run s = .ok (u, s')) : P s' := by
  induction xs generalizing s with
  | nil =>
    rw [run_forEach_nil_eq_ok] at h
    exact h ▸ hs
  | cons x rest ih =>
    obtain ⟨t, hx, hrest⟩ := run_forEach_cons_eq_ok.1 h
    exact ih (fun y hy => hstep y (List.mem_cons_of_mem x hy))
      (hstep x List.mem_cons_self s t hs hx) hrest

end Tx

/-! ## Checks that do not touch the store -/

section Checks

variable {ε α β : Type u}

/-- Fails unless the check holds. -/
def ensure (check : Bool) (e : ε) : Except ε PUnit.{u + 1} :=
  if check then .ok ⟨⟩ else .error e

@[simp] theorem ensure_eq_ok {check : Bool} {e : ε} {a : PUnit.{u + 1}} :
    ensure check e = .ok a ↔ check = true := by
  cases check <;> simp [ensure]

@[simp] theorem except_bind_eq_ok {x : Except ε α} {f : α → Except ε β} {b : β} :
    (x >>= f) = .ok b ↔ ∃ a, x = .ok a ∧ f a = .ok b := by
  cases x <;> simp [bind, Except.bind]

end Checks

/-! ## Frames

A transaction within a mask leaves everything else as it was; the rules derive that from the text
of the transaction, one combinator at a time. -/

/-- A **mask**: `copy t s` is the store `s` with the masked parts taken from `t`. -/
structure Mask (σ : Type u) where
  copy : σ → σ → σ
  copy_self : ∀ s, copy s s = s
  copy_copy : ∀ t t' s, copy t (copy t' s) = copy t s

namespace Tx

variable {σ ε α β : Type u} {m : Mask σ} {f : α → Tx σ ε PUnit} {x : Tx σ ε α} {e : ε}

/-- A committed run changes the masked parts only. -/
structure Within (m : Mask σ) (x : Tx σ ε α) : Prop where
  run_eq : ∀ s a s', x.run s = .ok (a, s') → s' = m.copy s' s

/-- A transaction that only reads. -/
theorem within_of_reads (h : ∀ s a s', x.run s = .ok (a, s') → s' = s) :
    x.Within m := by
  refine ⟨fun s a s' hrun => ?_⟩
  obtain rfl := h s a s' hrun
  exact (m.copy_self _).symm

theorem within_pure {a : α} : (pure a : Tx σ ε α).Within m :=
  within_of_reads fun _ _ _ h => (run_pure_eq_ok.1 h).2

theorem within_get : (get : Tx σ ε σ).Within m :=
  within_of_reads fun _ _ _ h => (run_get_eq_ok.1 h).2

theorem within_require {check : Bool} : (require check e : Tx σ ε PUnit).Within m :=
  within_of_reads fun _ _ _ h => (run_require_eq_ok.1 h).2

theorem within_expect {row : Option α} : (expect row e : Tx σ ε α).Within m :=
  within_of_reads fun _ _ _ h => (run_expect_eq_ok.1 h).2

theorem within_modify {f : σ → σ} (h : ∀ s, f s = m.copy (f s) s) :
    (modify f : Tx σ ε PUnit).Within m := by
  refine ⟨fun s a s' hrun => ?_⟩
  rw [run_modify_eq_ok.1 hrun]
  exact h s

theorem within_bind {f : α → Tx σ ε β} (hx : x.Within m)
    (hf : ∀ a, (f a).Within m) : (x >>= f).Within m := by
  refine ⟨fun s b s' hrun => ?_⟩
  obtain ⟨a, t, hfirst, hrest⟩ := run_bind_eq_ok.1 hrun
  have hlast := (hf a).run_eq t b s' hrest
  rwa [hx.run_eq s a t hfirst, m.copy_copy] at hlast

theorem within_ite {c : Prop} [Decidable c] {y : Tx σ ε α} (hx : x.Within m)
    (hy : y.Within m) : (if c then x else y).Within m := by
  split
  · exact hx
  · exact hy

theorem within_when {condition : Bool} {x : Tx σ ε PUnit} (hx : x.Within m) :
    (when condition x).Within m :=
  within_ite hx within_pure

theorem within_forSome {value : Option α} (hf : ∀ a, (f a).Within m) :
    (forSome value f).Within m := by
  cases value with
  | none => exact within_pure
  | some a => exact hf a

theorem within_forEach {xs : List α} (hf : ∀ a, (f a).Within m) :
    (forEach xs f).Within m := by
  induction xs with
  | nil => exact within_pure
  | cons x rest ih => exact within_bind (hf x) fun _ => ih

end Tx

end XGovernor.Lib
