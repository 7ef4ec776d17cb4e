import XGovernor.Lib.Typestate

/-!
# Rely and guarantee

What a call knows about the shared state holds until another call changes it.  A contract says
which changes every call has to expect (`rely`), what a call shows before each of its effects
(`guarantee`), and what holds when it has returned (`post`).  A program is valid if it meets the
contract from a state on, whatever the others do in between.

`Contract.run` is the rule for pools: if every call is valid by itself, then in every run whose
effects meet the condition of the contract all guarantees and postconditions hold.
-/

namespace XGovernor.Lib

variable {Ω σ E ε C : Type} {R : E → Type} {sys : System Ω σ E R ε C} {pool pool' : Pool σ E R ε C}
  {move : Move Ω C}

/-! ## What a move does -/

/-- The effect that a call performs next. -/
def Pool.effect (pool : Pool σ E R ε C) (i : Nat) : Option E :=
  (pool.threads i).bind fun thread => thread.2.head

/-- The call that has returned. -/
def Pool.returned (pool : Pool σ E R ε C) (i : Nat) : Option C :=
  (pool.threads i).bind fun thread =>
    match thread.2 with
    | .ret _ => some thread.1
    | _ => none

/-- The effect of the move, if it performs one, is as `Q` says. -/
def Pool.AtEffect (Q : Ω → σ → E → Prop) (pool : Pool σ E R ε C) : Move Ω C → Prop
  | .perform i ω => ∀ e ∈ pool.effect i, Q ω pool.state e
  | _ => True

/-- The call that returns with the move, if one does, leaves the state as `Q` says. -/
def Pool.AtReturn (Q : C → σ → Prop) (pool : Pool σ E R ε C) : Move Ω C → Prop
  | .finish i => ∀ c ∈ pool.returned i, Q c pool.state
  | _ => True

instance (Q : Ω → σ → E → Prop) [∀ ω s e, Decidable (Q ω s e)] (pool : Pool σ E R ε C) :
    (move : Move Ω C) → Decidable (pool.AtEffect Q move)
  | .perform i ω => inferInstanceAs (Decidable (∀ e ∈ pool.effect i, Q ω pool.state e))
  | .start _ _ | .drop _ | .finish _ => .isTrue trivial

instance (Q : C → σ → Prop) [∀ c s, Decidable (Q c s)] (pool : Pool σ E R ε C) :
    (move : Move Ω C) → Decidable (pool.AtReturn Q move)
  | .finish i => inferInstanceAs (Decidable (∀ c ∈ pool.returned i, Q c pool.state))
  | .start _ _ | .drop _ | .perform _ _ => .isTrue trivial

theorem Pool.effect_eq_some_iff {i : Nat} {e : E} : pool.effect i = some e ↔
    ∃ c onDrop k, pool.threads i = some (c, .perform e onDrop k) := by
  constructor
  · intro h
    obtain ⟨⟨c, p⟩, hthr, hhead⟩ := Option.bind_eq_some_iff.1 h
    cases p with
    | ret | fail => cases hhead
    | perform e' onDrop k =>
      obtain rfl := Option.some.inj hhead
      exact ⟨c, onDrop, k, hthr⟩
  · rintro ⟨c, onDrop, k, hthr⟩
    simp [effect, hthr, Prog.head]

theorem Pool.threads_of_returned {i : Nat} {c : C} (h : c ∈ pool.returned i) :
    ∃ u, pool.threads i = some (c, .ret u) := by
  obtain ⟨⟨c', p⟩, hthr, hret⟩ := Option.bind_eq_some_iff.1 h
  cases p with
  | ret u =>
    obtain rfl := Option.some.inj hret
    exact ⟨u, hthr⟩
  | fail | perform => cases hret

/-! ## Contracts -/

/-- What the calls of a system expect of each other. -/
structure Contract (sys : System Ω σ E R ε C) where
  rely : σ → σ → Prop
  condition : Ω → σ → E → Prop
  guarantee : σ → E → Prop
  post : C → σ → Prop
  refl : ∀ s, rely s s
  trans : ∀ {s t u}, rely s t → rely t u → rely s u
  kept : ∀ ω s e, guarantee s e → condition ω s e → rely s (sys.handle ω s e).2

variable {α β : Type} {K : Contract sys} {s s' : σ}

/-- The program meets the contract from a state on and ends as `post` says. -/
def Prog.Valid (K : Contract sys) (post : σ → Except ε α → Prop) : Prog σ E R ε α → σ → Prop
  | ret a, s => ∀ s', K.rely s s' → post s' (.ok a)
  | fail error, s => ∀ s', K.rely s s' → post s' (.error error)
  | perform e onDrop k, s => ∀ s', K.rely s s' → K.guarantee s' e ∧ K.rely s' (onDrop s') ∧
      ∀ ω, K.condition ω s' e → (k (sys.handle ω s' e).1).Valid K post (sys.handle ω s' e).2

namespace Prog

variable {post : σ → Except ε α → Prop} {p : Prog σ E R ε α}

/-- What the others do keeps a program valid. -/
theorem Valid.later (h : p.Valid K post s) (hrely : K.rely s s') : p.Valid K post s' := by
  cases p with
  | ret a => exact fun t ht => h t (K.trans hrely ht)
  | fail error => exact fun t ht => h t (K.trans hrely ht)
  | perform e onDrop k => exact fun t ht => h t (K.trans hrely ht)

/-- A program ends in a state that its start has led to. -/
theorem Valid.reached (h : p.Valid K post s) {s₀ : σ} (hs : K.rely s₀ s) :
    p.Valid K (fun s' result => K.rely s₀ s' ∧ post s' result) s := by
  induction p generalizing s with
  | ret a => exact fun t ht => ⟨K.trans hs ht, h t ht⟩
  | fail error => exact fun t ht => ⟨K.trans hs ht, h t ht⟩
  | perform e onDrop k ih =>
    intro t ht
    obtain ⟨hguar, hdrop, hk⟩ := h t ht
    exact ⟨hguar, hdrop, fun ω hω => ih _ (hk ω hω)
      (K.trans (K.trans hs ht) (K.kept ω t e hguar hω))⟩

/-- A program that owes nothing is valid wherever it starts. -/
theorem Valid.of_runs (hp : p.Runs (fun _ _ => True) fun e onDrop =>
      ∀ s, K.guarantee s e ∧ K.rely s (onDrop s))
    (hpost : ∀ s result, post s result) : p.Valid K post s := by
  induction p generalizing s with
  | ret a => exact fun s' _ => hpost s' _
  | fail error => exact fun s' _ => hpost s' _
  | perform e onDrop k ih =>
    exact fun s' _ => ⟨(hp.1 s').1, (hp.1 s').2, fun ω _ => ih _ (hp.2 _ trivial)⟩

theorem Valid.bind {mid : σ → Except ε α → Prop} {post : σ → Except ε β → Prop}
    {f : α → Prog σ E R ε β} (hp : p.Valid K mid s)
    (hf : ∀ s a, mid s (.ok a) → (f a).Valid K post s)
    (he : ∀ s error, mid s (.error error) → post s (.error error)) :
    (p.bind f).Valid K post s := by
  induction p generalizing s with
  | ret a => exact hf s a (hp s (K.refl s))
  | fail error => exact fun s' hs' => he s' error (hp s' hs')
  | perform e onDrop k ih =>
    intro s' hs'
    obtain ⟨hguar, hdrop, hk⟩ := hp s' hs'
    exact ⟨hguar, hdrop, fun ω hω => ih _ (hk ω hω)⟩

end Prog

/-! ## Pools -/

/-- The calls in flight are valid, and the state has come from the first one by expected changes. -/
structure Contract.Upheld (K : Contract sys) (s₀ : σ) (pool : Pool σ E R ε C) : Prop where
  reached : K.rely s₀ pool.state
  valid : ∀ i c p, pool.threads i = some (c, p) →
    p.Valid K (fun s result => result = .ok () → K.post c s) pool.state

namespace Contract

variable {s₀ : σ}

theorem Upheld.update (h : K.Upheld s₀ pool) (hrely : K.rely pool.state s) {i : Nat}
    {thread : Option (C × Prog σ E R ε Unit)} (hthr : ∀ c p, thread = some (c, p) →
      p.Valid K (fun s result => result = .ok () → K.post c s) s) :
    K.Upheld s₀ { state := s, threads := Function.update pool.threads i thread } where
  reached := K.trans h.reached hrely
  valid := by
    intro j c p hj
    rcases update_cases hj with ⟨-, hj⟩ | ⟨-, hj⟩
    · exact hthr c p hj
    · exact (h.valid j c p hj).later hrely

/-- **Step rule**: a step whose effect meets the condition keeps the contract. -/
theorem Upheld.step (hbody : ∀ c s, K.rely s₀ s →
      (sys.body c).Valid K (fun s result => result = .ok () → K.post c s) s)
    (h : K.Upheld s₀ pool) (hcond : pool.AtEffect K.condition move)
    (hstep : sys.Step pool move pool') : K.Upheld s₀ pool' := by
  cases hstep with
  | @start i c hfree =>
    refine h.update (K.refl _) ?_
    rintro _ _ ⟨⟩
    exact hbody c _ h.reached
  | @perform i ω c e onDrop k hthr hen =>
    obtain ⟨hguar, -, hk⟩ := h.valid i c _ hthr _ (K.refl _)
    have hω := hcond e (Pool.effect_eq_some_iff.2 ⟨c, onDrop, k, hthr⟩)
    refine h.update (K.kept ω _ e hguar hω) ?_
    rintro _ _ ⟨⟩
    exact hk ω hω
  | @drop i c e onDrop k hthr hsusp =>
    exact h.update (h.valid i c _ hthr _ (K.refl _)).2.1 nofun
  | finish hthr hended => exact h.update (K.refl _) nofun

/-- What the calls in flight have shown. -/
theorem Upheld.met (h : K.Upheld s₀ pool) :
    pool.AtEffect (fun _ => K.guarantee) move ∧ pool.AtReturn K.post move := by
  cases move with
  | start | drop => exact ⟨trivial, trivial⟩
  | perform i ω =>
    refine ⟨fun e he => ?_, trivial⟩
    obtain ⟨c, onDrop, k, hthr⟩ := Pool.effect_eq_some_iff.1 he
    exact (h.valid i c _ hthr _ (K.refl _)).1
  | finish i =>
    refine ⟨trivial, fun c hc => ?_⟩
    obtain ⟨u, hthr⟩ := Pool.threads_of_returned hc
    exact h.valid i c _ hthr _ (K.refl _) rfl

/-- **Run rule**: in a run whose effects all meet the condition, every effect is performed and
every call returns as the contract says. -/
theorem run (K : Contract sys) (hbody : ∀ c s, K.rely s₀ s →
      (sys.body c).Valid K (fun s result => result = .ok () → K.post c s) s)
    {tr : List (Pool σ E R ε C × Move Ω C)}
    (hrun : Run sys.Step { state := s₀, threads := fun _ => none } tr pool)
    (hcond : ∀ e ∈ tr, e.1.AtEffect K.condition e.2) :
    ∀ e ∈ tr, e.1.AtEffect (fun _ => K.guarantee) e.2 ∧ e.1.AtReturn K.post e.2 := by
  have hinit : K.Upheld s₀ { state := s₀, threads := fun _ => none } := by
    refine ⟨K.refl s₀, ?_⟩
    intro i c p h
    cases h
  have hupheld := hrun.invariant_at hinit (fun _ _ _ h hω hstep => h.step hbody hω hstep) hcond
  exact fun e he => (hupheld e he).met

end Contract

end XGovernor.Lib
