import XGovernor.Lib.Program

/-!
# Components inside a larger state

A program written for one component runs inside a system that contains the component: its
effects are effects of the system, and the component's state is a part of the system's state.
A run of the embedded program changes that part as the component's own run does, and nothing
else.
-/

namespace XGovernor.Lib

universe u

/-- How a component with states `σ₁` and effects `E₁` sits in a system with states `σ₂` and
effects `E₂`. -/
structure Embedding (σ₁ E₁ : Type u) (R₁ : E₁ → Type u) (σ₂ E₂ : Type u) (R₂ : E₂ → Type u) where
  inject : E₁ → E₂
  reply : (e : E₁) → R₂ (inject e) → R₁ e
  view : σ₂ → σ₁
  put : σ₁ → σ₂ → σ₂
  view_put : ∀ a s, view (put a s) = a
  put_view : ∀ s, put (view s) s = s
  put_put : ∀ a b s, put b (put a s) = put b s

namespace Embedding

variable {σ₁ E₁ σ₂ E₂ ε α : Type u} {R₁ : E₁ → Type u} {R₂ : E₂ → Type u}

/-- The component's program as a program of the system. -/
def lift (em : Embedding σ₁ E₁ R₁ σ₂ E₂ R₂) :
    Prog σ₁ E₁ R₁ ε α → Prog σ₂ E₂ R₂ ε α
  | .ret a => .ret a
  | .fail e => .fail e
  | .perform e onDrop k =>
    .perform (em.inject e) (fun s => em.put (onDrop (em.view s)) s)
      fun r => em.lift (k (em.reply e r))

/-- The system handles the component's effects as the component does. -/
structure Handles (em : Embedding σ₁ E₁ R₁ σ₂ E₂ R₂) (h₁ : σ₁ → (e : E₁) → R₁ e × σ₁)
    (h₂ : σ₂ → (e : E₂) → R₂ e × σ₂) : Prop where
  reply_eq : ∀ s e, em.reply e (h₂ s (em.inject e)).1 = (h₁ (em.view s) e).1
  state_eq : ∀ s e, (h₂ s (em.inject e)).2 = em.put (h₁ (em.view s) e).2 s

variable {em : Embedding σ₁ E₁ R₁ σ₂ E₂ R₂} {h₁ : σ₁ → (e : E₁) → R₁ e × σ₁}
  {h₂ : σ₂ → (e : E₂) → R₂ e × σ₂} {Q₁ : E₁ → (σ₁ → σ₁) → Prop} {Q₂ : E₂ → (σ₂ → σ₂) → Prop}
  {suspends₁ : E₁ → Bool} {suspends₂ : E₂ → Bool} {p : Prog σ₁ E₁ R₁ ε α}

/-- **A lifted run** returns what the component's run returns and replaces the component's
state by the one that run leaves. -/
theorem Handles.eval_lift (hh : em.Handles h₁ h₂) (p : Prog σ₁ E₁ R₁ ε α) (s : σ₂) :
    (em.lift p).eval h₂ s = ((p.eval h₁ (em.view s)).1, em.put (p.eval h₁ (em.view s)).2 s) := by
  induction p generalizing s with
  | ret a => simp [lift, em.put_view]
  | fail e => simp [lift, em.put_view]
  | perform e onDrop k ih =>
    rw [lift, Prog.eval_perform, ih, hh.reply_eq, hh.state_eq, em.view_put, em.put_put]
    rfl

/-- A lifted program is dropped where the component's program is. -/
theorem Handles.drops_lift (hh : em.Handles h₁ h₂) (hs : ∀ e, suspends₂ (em.inject e) = suspends₁ e)
    (p : Prog σ₁ E₁ R₁ ε α) (s : σ₂) :
    (em.lift p).drops h₂ suspends₂ s =
      (p.drops h₁ suspends₁ (em.view s)).map fun x => (em.inject x.1, em.put x.2 s) := by
  induction p generalizing s with
  | ret a => rfl
  | fail e => rfl
  | perform e onDrop k ih =>
    rw [lift, Prog.drops_perform, Prog.drops_perform, ih, hh.reply_eq, hh.state_eq,
      em.view_put, hs, List.map_append]
    congr 1
    · cases suspends₁ e
      · rfl
      · simp [em.put_put]
    · refine List.map_congr_left fun x _ => ?_
      rw [em.put_put]

/-- The effects and guards of a lifted program are the component's. -/
theorem runs_lift {rely : (e : E₂) → R₂ e → Prop}
    (hQ : ∀ e onDrop, Q₁ e onDrop → Q₂ (em.inject e) fun s => em.put (onDrop (em.view s)) s)
    (hp : p.Runs (fun _ _ => True) Q₁) : (em.lift p).Runs rely Q₂ := by
  induction p with
  | ret a => trivial
  | fail e => trivial
  | perform e onDrop k ih => exact ⟨hQ e onDrop hp.1, fun r _ => ih _ (hp.2 _ trivial)⟩

/-- A lifted program settles as the component's does. -/
theorem settles_lift (hs : ∀ e, suspends₂ (em.inject e) = suspends₁ e)
    (hQ : ∀ e onDrop, Q₁ e onDrop → Q₂ (em.inject e) fun s => em.put (onDrop (em.view s)) s)
    (hp : p.Settles suspends₁ Q₁) :
    (em.lift p).Settles suspends₂ Q₂ := by
  induction p with
  | ret a => trivial
  | fail e => trivial
  | perform e onDrop k ih =>
    rcases hp with ⟨hp, hk⟩ | ⟨hsync, hk⟩
    · exact .inl ⟨hQ e onDrop hp, fun r => ih _ (hk _)⟩
    · refine .inr ⟨(hs e).trans hsync, fun r => runs_lift (fun e _ he => ?_) (hk _)⟩
      exact (hs e).trans he

end Embedding

end XGovernor.Lib
