import Mathlib.Data.List.Basic
import Mathlib.Logic.Basic

/-!
# Programs with effects

An asynchronous program over a shared state is a tree: it returns, fails, or performs an
effect and continues with the reply.  A handler gives every effect its reply and its action on
the state.  Some effects suspend the program; a suspended program may be dropped, and then the
only thing it still does is what its live guards do (`onDrop`).

One tree has three readings: what a run to completion returns and leaves behind (`eval`),
what is left behind when the program is dropped at one of its suspension points (`drops`),
and which effects it can perform at all (`Obeys`).
-/

namespace XGovernor.Lib

universe u

/-- Programs over states `σ` that perform effects `E`, get replies `R` and may fail with `ε`. -/
inductive Prog (σ : Type u) (E : Type u) (R : E → Type u) (ε : Type u) (α : Type u) : Type u where
  | ret (a : α)
  | fail (e : ε)
  | perform (e : E) (onDrop : σ → σ) (k : R e → Prog σ E R ε α)

namespace Prog

variable {σ E ε ε' α β : Type u} {R : E → Type u}

/-- Sequential composition; a failure skips the rest. -/
def bind : Prog σ E R ε α → (α → Prog σ E R ε β) → Prog σ E R ε β
  | ret a, f => f a
  | fail e, _ => fail e
  | perform e onDrop k, f => perform e onDrop fun r => (k r).bind f

instance : Monad (Prog σ E R ε) where
  pure := ret
  bind := bind

/-- One effect, with no guard alive. -/
def effect (e : E) : Prog σ E R ε (R e) :=
  perform e id ret

/-- The `?` operator on a reply. -/
def orFail : Except ε α → Prog σ E R ε α
  | .ok a => ret a
  | .error e => fail e

/-- Fails unless the check holds. -/
def require (check : Bool) (e : ε) : Prog σ E R ε PUnit :=
  if check then ret ⟨⟩ else fail e

/-- Runs a program and hands over its outcome, failure included. -/
def attempt : Prog σ E R ε α → Prog σ E R ε' (Except ε α)
  | ret a => ret (.ok a)
  | fail e => ret (.error e)
  | perform e onDrop k => perform e onDrop fun r => (k r).attempt

/-- Runs a program while a guard is alive: `release` is performed on every way out, and
`undo`, its action on the state, when the program is dropped. -/
def guarded (release : E) (undo : σ → σ) : Prog σ E R ε α → Prog σ E R ε α
  | ret a => perform release id fun _ => ret a
  | fail e => perform release id fun _ => fail e
  | perform e onDrop k =>
    perform e (fun s => undo (onDrop s)) fun r => (k r).guarded release undo

@[simp] theorem pure_def (a : α) : (pure a : Prog σ E R ε α) = ret a := rfl

@[simp] theorem bind_def (p : Prog σ E R ε α) (f : α → Prog σ E R ε β) :
    (p >>= f) = p.bind f := rfl

@[simp] theorem orFail_ok (a : α) : (orFail (.ok a) : Prog σ E R ε α) = ret a := rfl

@[simp] theorem ret_bind (a : α) (f : α → Prog σ E R ε β) : (ret a).bind f = f a := rfl

@[simp] theorem fail_bind (e : ε) (f : α → Prog σ E R ε β) : (fail e).bind f = fail e := rfl

@[simp] theorem perform_bind (e : E) (onDrop : σ → σ) (k : R e → Prog σ E R ε α)
    (f : α → Prog σ E R ε β) :
    (perform e onDrop k).bind f = perform e onDrop fun r => (k r).bind f := rfl

@[simp] theorem effect_bind (e : E) (f : R e → Prog σ E R ε β) :
    (effect e).bind f = perform e id f := rfl

theorem bind_assoc {γ : Type u} (p : Prog σ E R ε α) (f : α → Prog σ E R ε β)
    (g : β → Prog σ E R ε γ) : (p.bind f).bind g = p.bind fun a => (f a).bind g := by
  induction p with
  | ret a => rfl
  | fail e => rfl
  | perform e onDrop k ih => exact congrArg (perform e onDrop) (funext ih)

/-! ## Running to completion -/

variable {h : σ → (e : E) → R e × σ}

/-- What a program returns and the state it leaves when it runs to completion alone. -/
def eval (h : σ → (e : E) → R e × σ) : Prog σ E R ε α → σ → Except ε α × σ
  | ret a, s => (.ok a, s)
  | fail e, s => (.error e, s)
  | perform e _ k, s => eval h (k (h s e).1) (h s e).2

@[simp] theorem eval_ret (a : α) (s : σ) :
    (ret a : Prog σ E R ε α).eval h s = (.ok a, s) := rfl

@[simp] theorem eval_fail (e : ε) (s : σ) :
    (fail e : Prog σ E R ε α).eval h s = (.error e, s) := rfl

@[simp] theorem eval_perform (e : E) (onDrop : σ → σ) (k : R e → Prog σ E R ε α) (s : σ) :
    (perform e onDrop k).eval h s = (k (h s e).1).eval h (h s e).2 := rfl

variable (p : Prog σ E R ε α)

theorem eval_bind (f : α → Prog σ E R ε β) (s : σ) :
    (p.bind f).eval h s = match p.eval h s with
      | (.ok a, s') => (f a).eval h s'
      | (.error e, s') => (.error e, s') := by
  induction p generalizing s with
  | ret a => rfl
  | fail e => rfl
  | perform e onDrop k ih => exact ih _ _

variable {f : α → Prog σ E R ε β} {I : σ → Prop} {release : E} {s s' : σ} {a : α}

/-- Composition after a part that returns. -/
theorem eval_bind_ok {p : Prog σ E R ε α}
    (hp : p.eval h s = (.ok a, s')) : (p.bind f).eval h s = (f a).eval h s' := by
  rw [eval_bind, hp]

/-- Composition after a part that fails. -/
theorem eval_bind_error {p : Prog σ E R ε α} {e : ε}
    (hp : p.eval h s = (.error e, s')) : (p.bind f).eval h s = (.error e, s') := by
  rw [eval_bind, hp]

@[simp] theorem eval_attempt (s : σ) :
    (p.attempt : Prog σ E R ε' (Except ε α)).eval h s = (.ok (p.eval h s).1, (p.eval h s).2) := by
  induction p generalizing s with
  | ret a => rfl
  | fail e => rfl
  | perform e onDrop k ih => exact ih _ _

@[simp] theorem eval_orFail (x : Except ε α) (s : σ) :
    (orFail x : Prog σ E R ε α).eval h s = (x, s) := by
  cases x <;> rfl

@[simp] theorem eval_guarded (release : E) (undo : σ → σ) (p : Prog σ E R ε α) (s : σ) :
    (p.guarded release undo).eval h s = ((p.eval h s).1, (h (p.eval h s).2 release).2) := by
  induction p generalizing s with
  | ret a => rfl
  | fail e => rfl
  | perform e onDrop k ih => exact ih _ _

/-- Whatever replies a program gets, what it returns satisfies `post`. -/
def Returns (post : α → Prop) : Prog σ E R ε α → Prop
  | ret a => post a
  | fail _ => True
  | perform _ _ k => ∀ r, (k r).Returns post

theorem Returns.bind {post : β → Prop}
    (hf : ∀ a, (f a).Returns post) : (p.bind f).Returns post := by
  induction p with
  | ret a => exact hf a
  | fail e => trivial
  | perform e onDrop k ih => exact fun r => ih r

theorem Returns.eval {post : α → Prop} {p : Prog σ E R ε α} (hp : p.Returns post)
    (heval : (p.eval h s).1 = .ok a) : post a := by
  induction p generalizing s with
  | ret b =>
    obtain rfl := Except.ok.inj heval
    exact hp
  | fail e => cases heval
  | perform e onDrop k ih => exact ih _ (hp _) heval

/-! ## The effects of a program -/

/-- Whatever replies a program gets, as long as they satisfy `rely`, its effects and the guards
alive at them satisfy `Q`. -/
def Runs (rely : (e : E) → R e → Prop) (Q : E → (σ → σ) → Prop) : Prog σ E R ε α → Prop
  | ret _ => True
  | fail _ => True
  | perform e onDrop k => Q e onDrop ∧ ∀ r, rely e r → (k r).Runs rely Q

/-- The effects of a program satisfy `P`. -/
abbrev Obeys (rely : (e : E) → R e → Prop) (P : E → Prop) (p : Prog σ E R ε α) : Prop :=
  p.Runs rely fun e _ => P e

section Runs

variable {rely : (e : E) → R e → Prop} {Q : E → (σ → σ) → Prop} {P : E → Prop}

@[simp] theorem runs_orFail (x : Except ε α) : (orFail x : Prog σ E R ε α).Runs rely Q := by
  cases x <;> trivial

@[simp] theorem runs_require (check : Bool) (e : ε) :
    (require check e : Prog σ E R ε PUnit).Runs rely Q := by
  cases check <;> trivial

theorem runs_true (p : Prog σ E R ε α) : p.Runs rely fun _ _ => True := by
  induction p with
  | ret a => trivial
  | fail e => trivial
  | perform e onDrop k ih => exact ⟨trivial, fun r _ => ih r⟩

variable {p : Prog σ E R ε α}

section

variable (hp : p.Runs rely Q)
include hp

theorem Runs.bind (hf : ∀ a, (f a).Runs rely Q) : (p.bind f).Runs rely Q := by
  induction p with
  | ret a => exact hf a
  | fail e => trivial
  | perform e onDrop k ih => exact ⟨hp.1, fun r hr => ih r (hp.2 r hr)⟩

theorem Runs.attempt :
    (p.attempt : Prog σ E R ε' (Except ε α)).Runs rely Q := by
  induction p with
  | ret a => trivial
  | fail e => trivial
  | perform e onDrop k ih => exact ⟨hp.1, fun r hr => ih r (hp.2 r hr)⟩

theorem Runs.guarded (hrel : Q release id) {undo : σ → σ}
    (hundo : ∀ e onDrop, Q e onDrop → Q e fun s => undo (onDrop s)) :
    (p.guarded release undo).Runs rely Q := by
  induction p with
  | ret a => exact ⟨hrel, fun _ _ => trivial⟩
  | fail e => exact ⟨hrel, fun _ _ => trivial⟩
  | perform e onDrop k ih => exact ⟨hundo e onDrop hp.1, fun r hr => ih r (hp.2 r hr)⟩

theorem Runs.mono {Q' : E → (σ → σ) → Prop}
    (hQ : ∀ e onDrop, Q e onDrop → Q' e onDrop) : p.Runs rely Q' := by
  induction p with
  | ret a => trivial
  | fail e => trivial
  | perform e onDrop k ih => exact ⟨hQ e onDrop hp.1, fun r hr => ih r (hp.2 r hr)⟩

/-- An invariant that every permitted effect keeps, and that makes every reply of a permitted
effect reliable, holds after a run. -/
theorem Runs.eval_invariant
    (hstep : ∀ s e onDrop, I s → Q e onDrop → rely e (h s e).1 ∧ I (h s e).2)
    (hs : I s) : I (p.eval h s).2 := by
  induction p generalizing s with
  | ret a => exact hs
  | fail e => exact hs
  | perform e onDrop k ih =>
    obtain ⟨hrely, hs'⟩ := hstep s e onDrop hs hp.1
    exact ih _ (hp.2 _ hrely) hs'

end

theorem Runs.orFail {x : Except ε α} (hf : ∀ a, (f a).Runs rely Q) :
    ((Prog.orFail x).bind f).Runs rely Q :=
  (runs_orFail x).bind hf

theorem Runs.require {check : Bool} {e : ε} {f : PUnit → Prog σ E R ε β}
    (hf : ∀ a, (f a).Runs rely Q) : ((Prog.require check e).bind f).Runs rely Q :=
  (runs_require check e).bind hf

end Runs

/-! ## Being dropped -/

/-- The suspension points a run passes, each with a state it leaves when the program is dropped
there: the awaited effect has taken place or it has not, and the live guards are released. -/
def drops (h : σ → (e : E) → R e × σ) (suspends : E → Bool) :
    Prog σ E R ε α → σ → List (E × σ)
  | ret _, _ => []
  | fail _, _ => []
  | perform e onDrop k, s =>
    (if suspends e then [(e, onDrop s), (e, onDrop (h s e).2)] else []) ++
      drops h suspends (k (h s e).1) (h s e).2

/-- As long as the program can still be suspended, its effects and their guards satisfy `Q`. -/
def Settles (suspends : E → Bool) (Q : E → (σ → σ) → Prop) : Prog σ E R ε α → Prop
  | ret _ => True
  | fail _ => True
  | perform e onDrop k =>
    (Q e onDrop ∧ ∀ r, (k r).Settles suspends Q) ∨
      (suspends e = false ∧ ∀ r, (k r).Obeys (fun _ _ => True) fun e => suspends e = false)

section Drops

variable {suspends : E → Bool} {Q : E → (σ → σ) → Prop}

@[simp] theorem drops_ret (a : α) (s : σ) :
    (ret a : Prog σ E R ε α).drops h suspends s = [] := rfl

@[simp] theorem drops_fail (e : ε) (s : σ) :
    (fail e : Prog σ E R ε α).drops h suspends s = [] := rfl

theorem drops_perform (e : E) (onDrop : σ → σ) (k : R e → Prog σ E R ε α) (s : σ) :
    (perform e onDrop k).drops h suspends s =
      (if suspends e then [(e, onDrop s), (e, onDrop (h s e).2)] else []) ++
        (k (h s e).1).drops h suspends (h s e).2 := rfl

theorem drops_bind (p : Prog σ E R ε α) (f : α → Prog σ E R ε β) (s : σ) :
    (p.bind f).drops h suspends s =
      p.drops h suspends s ++ match p.eval h s with
        | (.ok a, s') => (f a).drops h suspends s'
        | (.error _, _) => [] := by
  induction p generalizing s with
  | ret a => rfl
  | fail e => rfl
  | perform e onDrop k ih =>
    rw [perform_bind, drops_perform, drops_perform, ih, List.append_assoc, eval_perform]

variable {p : Prog σ E R ε α} {f : α → Prog σ E R ε β} {x : E × σ}

/-- A composition is dropped in its first part, or in its second after the first returned. -/
theorem mem_drops_bind :
    x ∈ (p.bind f).drops h suspends s ↔ x ∈ p.drops h suspends s ∨
      ∃ a s', p.eval h s = (.ok a, s') ∧ x ∈ (f a).drops h suspends s' := by
  rw [drops_bind, List.mem_append]
  rcases p.eval h s with ⟨e | a, s'⟩
  · simp
  · simp

@[simp] theorem drops_attempt (p : Prog σ E R ε α) (s : σ) :
    (p.attempt : Prog σ E R ε' (Except ε α)).drops h suspends s = p.drops h suspends s := by
  induction p generalizing s with
  | ret a => rfl
  | fail e => rfl
  | perform e onDrop k ih =>
    rw [attempt, drops_perform, drops_perform, ih]

/-- Dropping a guarded program releases its guard. -/
theorem drops_guarded (hrel : suspends release = false) (undo : σ → σ)
    (p : Prog σ E R ε α) (s : σ) :
    (p.guarded release undo).drops h suspends s =
      (p.drops h suspends s).map fun x => (x.1, undo x.2) := by
  induction p generalizing s with
  | ret a => simp [guarded, drops_perform, hrel]
  | fail e => simp [guarded, drops_perform, hrel]
  | perform e onDrop k ih =>
    rw [guarded, drops_perform, drops_perform, ih, List.map_append]
    cases suspends e <;> rfl

theorem Runs.settles (hp : p.Runs (fun _ _ => True) Q)
    (suspends : E → Bool) : p.Settles suspends Q := by
  induction p with
  | ret a => trivial
  | fail e => trivial
  | perform e onDrop k ih => exact .inl ⟨hp.1, fun r => ih r (hp.2 r trivial)⟩

theorem Runs.settles_bind (hp : p.Runs (fun _ _ => True) Q) (hf : ∀ a, (f a).Settles suspends Q) :
    (p.bind f).Settles suspends Q := by
  induction p with
  | ret a => exact hf a
  | fail e => trivial
  | perform e onDrop k ih => exact .inl ⟨hp.1, fun r => ih r (hp.2 r trivial)⟩

theorem Settles.attempt (hp : p.Settles suspends Q) :
    (p.attempt : Prog σ E R ε' (Except ε α)).Settles suspends Q := by
  induction p with
  | ret a => trivial
  | fail e => trivial
  | perform e onDrop k ih =>
    rcases hp with ⟨hQ, hk⟩ | ⟨hsync, hk⟩
    · exact .inl ⟨hQ, fun r => ih r (hk r)⟩
    · exact .inr ⟨hsync, fun r => (hk r).attempt⟩

/-- A program that settles may be followed by one that cannot be suspended. -/
theorem Settles.bind (hp : p.Settles suspends Q)
    (hf : ∀ a, (f a).Obeys (fun _ _ => True) fun e => suspends e = false)
    (hf' : ∀ a, (f a).Settles suspends Q) : (p.bind f).Settles suspends Q := by
  induction p with
  | ret a => exact hf' a
  | fail e => trivial
  | perform e onDrop k ih =>
    rcases hp with ⟨hQ, hk⟩ | ⟨hsync, hk⟩
    · exact .inl ⟨hQ, fun r => ih r (hk r)⟩
    · exact .inr ⟨hsync, fun r => (hk r).bind hf⟩

/-- A program that cannot be suspended cannot be dropped. -/
theorem Runs.drops_eq_nil (hp : p.Obeys (fun _ _ => True) fun e => suspends e = false) (s : σ) :
    p.drops h suspends s = [] := by
  induction p generalizing s with
  | ret a => rfl
  | fail e => rfl
  | perform e onDrop k ih =>
    rw [drops_perform, ih _ (hp.2 _ trivial), hp.1]
    rfl

/-- An invariant `I` of the permitted effects, from which their guards make `J`, holds wherever
the program can be dropped. -/
theorem Settles.drops_invariant (hp : p.Settles suspends Q)
    {J : E → σ → Prop} (hstep : ∀ s e onDrop, I s → Q e onDrop → I (h s e).2)
    (hdrop : ∀ s e onDrop, I s → suspends e = true → Q e onDrop → J e (onDrop s))
    (hs : I s) (hx : x ∈ p.drops h suspends s) : J x.1 x.2 := by
  induction p generalizing s with
  | ret a => simp at hx
  | fail e => simp at hx
  | perform e onDrop k ih =>
    rw [drops_perform, List.mem_append] at hx
    rcases hp with ⟨hQ, hk⟩ | ⟨hsync, hk⟩
    · have hs' := hstep s e onDrop hs hQ
      rcases hx with hx | hx
      · split at hx
        next hsusp =>
          simp only [List.mem_cons, List.not_mem_nil, or_false] at hx
          -- a suspended effect may be dropped before or after it has taken place
          rcases hx with rfl | rfl
          · exact hdrop s e onDrop hs hsusp hQ
          · exact hdrop _ e onDrop hs' hsusp hQ
        next => simp at hx
      · exact ih _ (hk _) hs' hx
    -- from here on nothing suspends
    · rw [(hk _).drops_eq_nil, hsync] at hx
      simp at hx

end Drops

end Prog

end XGovernor.Lib
