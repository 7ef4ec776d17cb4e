import XGovernor.Lib.Embedding
import XGovernor.Lib.Interleaving
import Mathlib.Data.List.Induction

/-!
# Places in a program

What a call has taken and not yet given back depends on how far it has come.  A protocol names the
places of a call: which effects may be performed at a place, and where the call is once it has the
reply.  A program follows a protocol from a place if all its effects do, whatever the replies that
the protocol lets it rely on.

The rules below are those of a program logic with places in the role of assertions: for sequences,
attempts, guards and embedded programs, and for a pool of calls that follow their protocols.
-/

namespace XGovernor.Lib

/-- The places of a call.  What may be relied on can depend on the effect that comes after the
reply; at the end of a program it is least. -/
structure Protocol (E : Type) (R : E → Type) (Φ : Type) where
  allowed : Φ → E → Prop
  rely : Φ → (e : E) → R e → Option E → Prop
  next : Φ → (e : E) → R e → Φ
  rely_none : ∀ {φ e r after}, rely φ e r after → rely φ e r none

theorem Protocol.rely_of_head {E Φ : Type} {R : E → Type} (P : Protocol E R Φ) {φ : Φ} {e : E}
    {r : R e} {after after' : Option E} (h : after = none ∨ after = after')
    (hrely : P.rely φ e r after') : P.rely φ e r after := by
  rcases h with rfl | rfl
  · exact P.rely_none hrely
  · exact hrely

namespace Prog

variable {σ E ε ε' α β Φ : Type} {R : E → Type} {P : Protocol E R Φ} {undo : σ → σ} {release : E}

/-- The effect a program performs next. -/
def head : Prog σ E R ε α → Option E
  | perform e _ _ => some e
  | ret _ | fail _ => none

/-! The first effect of a composed program is that of its first part, unless that part has ended. -/

theorem head_bind (p : Prog σ E R ε α) (f : α → Prog σ E R ε β) :
    p.head = none ∨ p.head = (p.bind f).head := by
  cases p with
  | ret a => exact .inl rfl
  | fail e => exact .inl rfl
  | perform e onDrop k => exact .inr rfl

theorem head_attempt (p : Prog σ E R ε α) :
    p.head = none ∨ p.head = (p.attempt : Prog σ E R ε' (Except ε α)).head := by
  cases p with
  | ret a => exact .inl rfl
  | fail e => exact .inl rfl
  | perform e onDrop k => exact .inr rfl

theorem head_guarded (p : Prog σ E R ε α) :
    p.head = none ∨ p.head = (p.guarded release undo).head := by
  cases p with
  | ret a => exact .inl rfl
  | fail e => exact .inl rfl
  | perform e onDrop k => exact .inr rfl

/-- The program follows the protocol from a place on, and ends where `post` says. -/
def Follows (P : Protocol E R Φ) (post : Φ → Except ε α → Prop) : Prog σ E R ε α → Φ → Prop
  | ret a, φ => post φ (.ok a)
  | fail e, φ => post φ (.error e)
  | perform e _ k, φ =>
    P.allowed φ e ∧ ∀ r, P.rely φ e r (k r).head → (k r).Follows P post (P.next φ e r)

variable {post : Φ → Except ε α → Prop} {φ : Φ}

variable {p : Prog σ E R ε α} {mid : Φ → Except ε α → Prop}

theorem Follows.mono {post' : Φ → Except ε α → Prop}
    (hp : p.Follows P post φ) (hpost : ∀ φ r, post φ r → post' φ r) : p.Follows P post' φ := by
  induction p generalizing φ with
  | ret a => exact hpost _ _ hp
  | fail e => exact hpost _ _ hp
  | perform e onDrop k ih => exact ⟨hp.1, fun r hr => ih r (hp.2 r hr)⟩

/-- Sequences: the second program starts at a place where the first one may end. -/
theorem Follows.bind {post : Φ → Except ε β → Prop}
    {f : α → Prog σ E R ε β} (hp : p.Follows P mid φ)
    (hf : ∀ φ a, mid φ (.ok a) → (f a).Follows P post φ)
    (he : ∀ φ e, mid φ (.error e) → post φ (.error e)) : (p.bind f).Follows P post φ := by
  induction p generalizing φ with
  | ret a => exact hf φ a hp
  | fail e => exact he φ e hp
  | perform e onDrop k ih =>
    exact ⟨hp.1, fun r hr => ih r (hp.2 r (P.rely_of_head (head_bind (k r) f) hr))⟩

theorem Follows.attempt {post : Φ → Except ε' (Except ε α) → Prop}
    (hp : p.Follows P (fun φ r => post φ (.ok r)) φ) :
    (p.attempt : Prog σ E R ε' (Except ε α)).Follows P post φ := by
  induction p generalizing φ with
  | ret a => exact hp
  | fail e => exact hp
  | perform e onDrop k ih =>
    exact ⟨hp.1, fun r hr => ih r (hp.2 r (P.rely_of_head (head_attempt (k r)) hr))⟩

/-- Guards: the release is allowed wherever the program may end. -/
theorem Follows.guarded (hp : p.Follows P mid φ)
    (hrel : ∀ φ r, mid φ r → P.allowed φ release ∧ ∀ reply, P.rely φ release reply none →
      post (P.next φ release reply) r) : (p.guarded release undo).Follows P post φ := by
  induction p generalizing φ with
  | ret a => exact ⟨(hrel φ _ hp).1, (hrel φ _ hp).2⟩
  | fail e => exact ⟨(hrel φ _ hp).1, (hrel φ _ hp).2⟩
  | perform e onDrop k ih =>
    exact ⟨hp.1, fun r hr => ih r (hp.2 r (P.rely_of_head (head_guarded (k r)) hr))⟩

/-- The next effect of a program is allowed where the program is. -/
theorem Follows.allowed_of_head (hp : p.Follows P post φ) {e : E}
    (hhead : p.head = some e) : P.allowed φ e := by
  cases p with
  | ret a => cases hhead
  | fail error => cases hhead
  | perform e' onDrop k =>
    obtain rfl := Option.some.inj hhead
    exact hp.1

end Prog

section Lift

variable {σ₁ σ₂ E₁ E₂ ε α Φ : Type} {R₁ : E₁ → Type} {R₂ : E₂ → Type}
  {em : Embedding σ₁ E₁ R₁ σ₂ E₂ R₂} {p : Prog σ₁ E₁ R₁ ε α}

theorem Embedding.head_lift (em : Embedding σ₁ E₁ R₁ σ₂ E₂ R₂) (p : Prog σ₁ E₁ R₁ ε α) :
    (em.lift p).head = p.head.map em.inject := by
  cases p <;> rfl

/-- An embedded program follows a protocol that agrees with its own on the embedded effects. -/
theorem Embedding.follows_lift {P₁ : Protocol E₁ R₁ Φ}
    {P₂ : Protocol E₂ R₂ Φ} (hallowed : ∀ φ e, P₁.allowed φ e → P₂.allowed φ (em.inject e))
    (hrely : ∀ φ e r after, P₂.rely φ (em.inject e) r (after.map em.inject) →
      P₁.rely φ e (em.reply e r) after)
    (hnext : ∀ φ e r, P₂.next φ (em.inject e) r = P₁.next φ e (em.reply e r))
    {post : Φ → Except ε α → Prop} {φ : Φ}
    (hp : p.Follows P₁ post φ) : (em.lift p).Follows P₂ post φ := by
  induction p generalizing φ with
  | ret a => exact hp
  | fail e => exact hp
  | perform e onDrop k ih =>
    refine ⟨hallowed φ e hp.1, fun r hr => ?_⟩
    rw [hnext]
    exact ih _ (hp.2 _ (hrely φ e r _ (em.head_lift _ ▸ hr)))

end Lift

/-! ## Pools -/

section Pools

variable {Ω σ E ε C Φ : Type} {R : E → Type} {sys : System Ω σ E R ε C}
  {pool pool' : Pool σ E R ε C} {move : Move Ω C} {P : Protocol E R Φ} {idle : Φ}
  {rest : Φ → Prop} {φ : Nat → Φ} {i : Nat}

/-- Where the calls in flight are: each follows the protocol from its place on, and ends at a place
of rest. -/
structure Pool.Places (P : Protocol E R Φ) (idle : Φ) (rest : Φ → Prop) (φ : Nat → Φ)
    (pool : Pool σ E R ε C) : Prop where
  running : ∀ i c p, pool.threads i = some (c, p) → p.Follows P (fun φ _ => rest φ) (φ i)
  absent : ∀ i, pool.threads i = none → φ i = idle

theorem Pool.Places.update (h : pool.Places P idle rest φ) {s : σ}
    {thread : Option (C × Prog σ E R ε Unit)} {place : Φ}
    (hthr : ∀ c p, thread = some (c, p) → p.Follows P (fun φ _ => rest φ) place)
    (hnone : thread = none → place = idle) :
    ({ state := s, threads := Function.update pool.threads i thread } :
      Pool σ E R ε C).Places P idle rest (Function.update φ i place) where
  running := by
    intro j c p hj
    by_cases hji : j = i
    · subst hji
      simp only [Function.update_self] at hj ⊢
      exact hthr c p hj
    · simp only [Function.update_of_ne hji] at hj ⊢
      exact h.running j c p hj
  absent := by
    intro j hj
    by_cases hji : j = i
    · subst hji
      simp only [Function.update_self] at hj ⊢
      exact hnone hj
    · simp only [Function.update_of_ne hji] at hj ⊢
      exact h.absent j hj

/-- **Step rule**: a call starts, ends at a place of rest, or performs an effect that is allowed at
its place and moves on, provided that it may rely on the reply. -/
theorem Pool.Places.step_cases (h : pool.Places P idle rest φ)
    (hbody : ∀ i c, move = .start i c → (sys.body c).Follows P (fun φ _ => rest φ) idle)
    (hdrop : ∀ e, sys.suspends e = false) (hstep : sys.Step pool move pool') :
    (∃ i c, move = .start i c ∧ pool'.state = pool.state ∧ φ i = idle ∧
        pool'.Places P idle rest φ) ∨
      (∃ i, move = .finish i ∧ pool'.state = pool.state ∧ rest (φ i) ∧
        pool'.Places P idle rest (Function.update φ i idle)) ∨
      ∃ i ω c e onDrop k, move = .perform i ω ∧
        pool.threads i = some (c, .perform e onDrop k) ∧ sys.enabled pool.state e ∧
        P.allowed (φ i) e ∧ pool'.state = (sys.handle ω pool.state e).2 ∧
        (P.rely (φ i) e (sys.handle ω pool.state e).1 (k (sys.handle ω pool.state e).1).head →
          pool'.Places P idle rest
            (Function.update φ i (P.next (φ i) e (sys.handle ω pool.state e).1))) := by
  cases hstep with
  | @start i c hfree =>
    have hidle := h.absent i hfree
    refine .inl ⟨i, c, rfl, rfl, hidle, ?_⟩
    rw [← Function.update_eq_self i φ, hidle]
    refine h.update ?_ nofun
    rintro _ _ ⟨⟩
    exact hbody i c rfl
  | @perform i ω c e onDrop k hthr hen =>
    have hfol := h.running i c _ hthr
    refine .inr (.inr ⟨i, ω, c, e, onDrop, k, rfl, hthr, hen, hfol.1, rfl, ?_⟩)
    intro hrely
    refine h.update ?_ nofun
    rintro _ _ ⟨⟩
    exact hfol.2 _ hrely
  | @drop i c e onDrop k hthr hsusp =>
    rw [hdrop] at hsusp
    cases hsusp
  | @finish i c p hthr hended =>
    have hrest : rest (φ i) := by
      have hfol := h.running i c p hthr
      rcases hended with rfl | ⟨error, rfl⟩
      · exact hfol
      · exact hfol
    exact .inr (.inl ⟨i, rfl, rfl, hrest, h.update nofun fun _ => rfl⟩)

/-! ## What a call carries along -/

variable {A : Type}

/-- A value that every call carries along, after one more step: it starts at `a₀` and follows the
call's effects and their replies. -/
def System.carry (sys : System Ω σ E R ε C) (next : A → (e : E) → R e → A) (a₀ : A)
    (carried : Nat → A) (step : Pool σ E R ε C × Move Ω C) : Nat → A :=
  match step.2 with
  | .start i _ | .drop i | .finish i => Function.update carried i a₀
  | .perform i ω =>
    match step.1.threads i with
    | some (_, .perform e _ _) =>
      Function.update carried i (next (carried i) e (sys.handle ω step.1.state e).1)
    | _ => carried

/-- The value that every call carries along after a run. -/
def System.carried (sys : System Ω σ E R ε C) (next : A → (e : E) → R e → A) (a₀ : A)
    (tr : List (Pool σ E R ε C × Move Ω C)) : Nat → A :=
  tr.foldl (sys.carry next a₀) fun _ => a₀

variable (next : A → (e : E) → R e → A)

theorem System.carried_snoc (a₀ : A)
    (tr : List (Pool σ E R ε C × Move Ω C)) (step : Pool σ E R ε C × Move Ω C) :
    sys.carried next a₀ (tr ++ [step]) = sys.carry next a₀ (sys.carried next a₀ tr) step := by
  rw [carried, List.foldl_append]
  rfl

theorem System.carry_perform (a₀ : A) (carried : Nat → A)
    {ω : Ω} {c : C} {e : E} {onDrop : σ → σ} {k : R e → Prog σ E R ε Unit}
    (hthr : pool.threads i = some (c, .perform e onDrop k)) :
    sys.carry next a₀ carried (pool, .perform i ω) =
      Function.update carried i (next (carried i) e (sys.handle ω pool.state e).1) := by
  simp only [carry, hthr]

/-- What a call that never moves carries along stays. -/
theorem System.carried_of_ne (a₀ : A) {tr : List (Pool σ E R ε C × Move Ω C)}
    (htr : ∀ step ∈ tr, step.2.thread ≠ i) : sys.carried next a₀ tr i = a₀ := by
  induction tr using List.reverseRecOn with
  | nil => rfl
  | append_singleton tr step ih =>
    have hkept := ih fun step' hmem => htr step' (List.mem_append_left _ hmem)
    obtain ⟨pool, move⟩ := step
    have hmove : move.thread ≠ i := htr (pool, move) (by simp)
    rw [carried_snoc]
    cases move with
    | start j c | drop j | finish j => exact (Function.update_of_ne hmove.symm ..).trans hkept
    | perform j ω =>
      rcases hthr : pool.threads j with _ | ⟨c, _ | _ | ⟨e, onDrop, k⟩⟩
      case some.perform =>
        rw [carry_perform _ _ _ hthr]
        exact (Function.update_of_ne hmove.symm ..).trans hkept
      all_goals
        simp only [carry, hthr]
        exact hkept

/-- Two values that are carried along stay related. -/
theorem System.carry_rel {B : Type} {next : A → (e : E) → R e → A} {a₀ : A}
    {next' : B → (e : E) → R e → B} {b₀ : B} (Rel : A → B → Prop) (hinit : Rel a₀ b₀)
    {carried : Nat → A} {carried' : Nat → B} (hnext : ∀ i ω c e onDrop k, move = .perform i ω →
      pool.threads i = some (c, .perform e onDrop k) →
      Rel (next (carried i) e (sys.handle ω pool.state e).1)
        (next' (carried' i) e (sys.handle ω pool.state e).1))
    (h : ∀ i, Rel (carried i) (carried' i)) (i : Nat) :
    Rel (sys.carry next a₀ carried (pool, move) i)
      (sys.carry next' b₀ carried' (pool, move) i) := by
  have hupd {j : Nat} {a : A} {b : B} (hab : Rel a b) :
      Rel (Function.update carried j a i) (Function.update carried' j b i) := by
    by_cases hij : i = j
    · subst hij
      rw [Function.update_self, Function.update_self]
      exact hab
    · rw [Function.update_of_ne hij, Function.update_of_ne hij]
      exact h i
  cases move with
  | start j c | drop j | finish j => exact hupd hinit
  | perform j ω =>
    rcases hthr : pool.threads j with _ | ⟨c, _ | _ | ⟨e, onDrop, k⟩⟩
    case some.perform =>
      rw [carry_perform _ _ _ hthr, carry_perform _ _ _ hthr]
      exact hupd (hnext j ω c e onDrop k rfl hthr)
    all_goals
      simp only [carry, hthr]
      exact h i

end Pools

end XGovernor.Lib
