import XGovernor.Lib.Program
import XGovernor.Lib.Table
import XGovernor.Lib.TransitionSystem

/-!
# Programs that run side by side

A pool holds the calls in flight on one shared state.  In one step a call starts, performs its next
effect, is dropped while it is suspended, or is forgotten once it has ended; the steps of different
calls come in any order, and the outside may answer every effect as it likes.  An effect that is
not enabled (a lock that somebody else holds) waits.

`Pool.Keeps.step` carries what each call does by itself (`Prog.Runs`) over to the calls in flight.
Moves that are written down can be replayed, so that a particular run is found by evaluation.
-/

namespace XGovernor.Lib

open Function

/-- How the effects of some calls act on a shared state. -/
structure System (Ω σ E : Type) (R : E → Type) (ε C : Type) where
  handle : Ω → σ → (e : E) → R e × σ
  body : C → Prog σ E R ε Unit
  enabled : σ → E → Prop
  suspends : E → Bool

/-- The state and the calls in flight, each with the rest of its program. -/
structure Pool (σ E : Type) (R : E → Type) (ε C : Type) where
  state : σ
  threads : Nat → Option (C × Prog σ E R ε Unit)

inductive Move (Ω C : Type) where
  | start (i : Nat) (c : C)
  | perform (i : Nat) (ω : Ω)
  | drop (i : Nat)
  | finish (i : Nat)

/-- The call that moves. -/
def Move.thread {Ω C : Type} : Move Ω C → Nat
  | .start i _ | .perform i _ | .drop i | .finish i => i

section

variable {Ω σ E ε C : Type} {R : E → Type} {sys : System Ω σ E R ε C}
  {pool pool' : Pool σ E R ε C} {move : Move Ω C} {tr : List (Pool σ E R ε C × Move Ω C)}
  {rely : C → (e : E) → R e → Prop} {Q : C → E → (σ → σ) → Prop} {j : Nat} {c : C}

/-- One step of a pool. -/
inductive System.Step (sys : System Ω σ E R ε C) (pool : Pool σ E R ε C) :
    Move Ω C → Pool σ E R ε C → Prop where
  | start {i : Nat} {c : C} (hfree : pool.threads i = none) :
      sys.Step pool (.start i c)
        { pool with threads := update pool.threads i (some (c, sys.body c)) }
  | perform {i : Nat} {ω : Ω} {c : C} {e : E} {onDrop : σ → σ} {k : R e → Prog σ E R ε Unit}
      (hthr : pool.threads i = some (c, .perform e onDrop k))
      (hen : sys.enabled pool.state e) :
      sys.Step pool (.perform i ω)
        { state := (sys.handle ω pool.state e).2
          threads := update pool.threads i
            (some (c, k (sys.handle ω pool.state e).1)) }
  | drop {i : Nat} {c : C} {e : E} {onDrop : σ → σ} {k : R e → Prog σ E R ε Unit}
      (hthr : pool.threads i = some (c, .perform e onDrop k))
      (hsusp : sys.suspends e = true) :
      sys.Step pool (.drop i)
        { state := onDrop pool.state, threads := update pool.threads i none }
  | finish {i : Nat} {c : C} {p : Prog σ E R ε Unit} (hthr : pool.threads i = some (c, p))
      (hended : p = .ret () ∨ ∃ error, p = .fail error) :
      sys.Step pool (.finish i)
        { pool with threads := update pool.threads i none }

theorem System.Step.perform_state {i : Nat} {ω : Ω} {e : E} {onDrop : σ → σ}
    {k : R e → Prog σ E R ε Unit} (hstep : sys.Step pool (.perform i ω) pool')
    (hthr : pool.threads i = some (c, .perform e onDrop k)) :
    pool'.state = (sys.handle ω pool.state e).2 := by
  cases hstep with
  | perform hthr' hen =>
    obtain ⟨⟩ := hthr.symm.trans hthr'
    rfl

/-- A step moves one call only. -/
theorem System.Step.threads_of_ne (hstep : sys.Step pool move pool')
    (hj : move.thread ≠ j) : pool'.threads j = pool.threads j := by
  cases hstep <;> exact update_of_ne (Ne.symm hj) ..

/-- A call that never moves stays as it is. -/
theorem System.threads_of_ne
    (hrun : Run sys.Step pool tr pool') (hj : ∀ step ∈ tr, step.2.thread ≠ j) :
    pool'.threads j = pool.threads j := by
  induction hrun with
  | nil => rfl
  | @snoc tr mid last move hrun hstep ih =>
    rw [hstep.threads_of_ne (hj (mid, move) (by simp))]
    exact ih fun step hmem => hj step (List.mem_append_left _ hmem)

/-! ## Calls in flight -/

/-- A call is in flight. -/
def Pool.InFlight (pool : Pool σ E R ε C) (c : C) : Prop :=
  ∃ i p, pool.threads i = some (c, p)

/-- A call in flight was so before, or has just started. -/
theorem System.Step.inFlight (hstep : sys.Step pool move pool')
    (hc : pool'.InFlight c) : pool.InFlight c ∨ ∃ i, move = .start i c := by
  obtain ⟨j, p, hj⟩ := hc
  have hkept {i : Nat} {thread : Option (C × Prog σ E R ε Unit)}
      (hupd : update pool.threads i thread j = some (c, p)) :
      pool.InFlight c ∨ thread = some (c, p) := by
    rcases update_cases hupd with ⟨-, hupd⟩ | ⟨hji, hupd⟩
    · exact .inr hupd
    · exact .inl ⟨j, p, hupd⟩
  cases hstep with
  | @start i c' hfree =>
    rcases hkept hj with hold | hnew
    · exact .inl hold
    · obtain ⟨rfl, -⟩ := Prod.mk.inj (Option.some.inj hnew)
      exact .inr ⟨i, rfl⟩
  | perform hthr hen =>
    rcases hkept hj with hold | hnew
    · exact .inl hold
    · obtain ⟨rfl, -⟩ := Prod.mk.inj (Option.some.inj hnew)
      exact .inl ⟨_, _, hthr⟩
  | drop hthr hsusp => exact .inl ((hkept hj).resolve_right nofun)
  | finish hthr hended => exact .inl ((hkept hj).resolve_right nofun)

/-- What the calls in flight rely on and keep to. -/
def Pool.Keeps (rely : C → (e : E) → R e → Prop) (Q : C → E → (σ → σ) → Prop)
    (pool : Pool σ E R ε C) : Prop :=
  ∀ i c p, pool.threads i = some (c, p) → p.Runs (rely c) (Q c)

/-- **Step rule**: if every call keeps to its discipline by itself, and the replies in this state
are what the calls rely on, then the calls in flight keep to it. -/
theorem Pool.Keeps.step (h : pool.Keeps rely Q) (hbody : ∀ c, (sys.body c).Runs (rely c) (Q c))
    (hrely : ∀ ω c e, pool.InFlight c → rely c e (sys.handle ω pool.state e).1)
    (hstep : sys.Step pool move pool') : pool'.Keeps rely Q := by
  intro j c p hj
  have hkept {i : Nat} {thread : Option (C × Prog σ E R ε Unit)}
      (hupd : update pool.threads i thread j = some (c, p))
      (hthr : thread = some (c, p) → p.Runs (rely c) (Q c)) : p.Runs (rely c) (Q c) := by
    rcases update_cases hupd with ⟨-, hupd⟩ | ⟨hji, hupd⟩
    · exact hthr hupd
    · exact h _ _ _ hupd
  cases hstep with
  | start hfree =>
    apply hkept hj
    rintro ⟨⟩
    exact hbody c
  | @perform i ω c' e onDrop k hthr hen =>
    apply hkept hj
    rintro ⟨⟩
    exact (h _ _ _ hthr).2 _ (hrely ω _ e ⟨_, _, hthr⟩)
  | drop hthr hsusp => exact hkept hj nofun
  | finish hthr hended => exact hkept hj nofun

/-- What a step does to the state, seen from the calls' discipline. -/
theorem Pool.Keeps.state_cases (h : pool.Keeps rely Q) (hstep : sys.Step pool move pool') :
    pool'.state = pool.state ∨
      (∃ i ω c e onDrop k, move = .perform i ω ∧
        pool.threads i = some (c, .perform e onDrop k) ∧ Q c e onDrop ∧
        pool'.state = (sys.handle ω pool.state e).2) ∨
      ∃ i c e onDrop, move = .drop i ∧ pool.InFlight c ∧ Q c e onDrop ∧
        pool'.state = onDrop pool.state := by
  cases hstep with
  | start hfree => exact .inl rfl
  | @perform i ω c e onDrop k hthr hen =>
    exact .inr (.inl ⟨i, ω, c, e, onDrop, k, rfl, hthr, (h _ _ _ hthr).1, rfl⟩)
  | @drop i c e onDrop k hthr hsusp =>
    exact .inr (.inr ⟨i, c, e, onDrop, rfl, ⟨_, _, hthr⟩, (h _ _ _ hthr).1, rfl⟩)
  | finish hthr hended => exact .inl rfl

/-! ## Replaying moves -/

section Replay

variable [∀ s e, Decidable (sys.enabled s e)] {moves : List (Move Ω C)}

/-- The pool after a move, if the move can be made. -/
def System.advance (sys : System Ω σ E R ε C) [∀ s e, Decidable (sys.enabled s e)]
    (pool : Pool σ E R ε C) : Move Ω C → Option (Pool σ E R ε C)
  | .start i c =>
    match pool.threads i with
    | none => some { pool with threads := update pool.threads i (some (c, sys.body c)) }
    | some _ => none
  | .perform i ω =>
    match pool.threads i with
    | some (c, .perform e _ k) =>
      if sys.enabled pool.state e then
        some
          { state := (sys.handle ω pool.state e).2
            threads := update pool.threads i
              (some (c, k (sys.handle ω pool.state e).1)) }
      else none
    | _ => none
  | .drop i =>
    match pool.threads i with
    | some (_, .perform e onDrop _) =>
      if sys.suspends e then
        some { state := onDrop pool.state, threads := update pool.threads i none }
      else none
    | _ => none
  | .finish i =>
    match pool.threads i with
    | some (_, .ret _) | some (_, .fail _) =>
      some { pool with threads := update pool.threads i none }
    | _ => none

theorem System.step_of_advance (h : sys.advance pool move = some pool') :
    sys.Step pool move pool' := by
  cases move with
  | start i c =>
    cases hthr : pool.threads i with
    | none =>
      simp only [advance, hthr, Option.some.injEq] at h
      exact h ▸ .start hthr
    | some thread => simp [advance, hthr] at h
  | perform i ω =>
    rcases hthr : pool.threads i with _ | ⟨c, _ | _ | ⟨e, onDrop, k⟩⟩
    all_goals simp only [advance, hthr, reduceCtorEq] at h
    split at h
    next hen => exact Option.some.inj h ▸ .perform hthr hen
    next => cases h
  | drop i =>
    rcases hthr : pool.threads i with _ | ⟨c, _ | _ | ⟨e, onDrop, k⟩⟩
    all_goals simp only [advance, hthr, reduceCtorEq] at h
    split at h
    next hsusp => exact Option.some.inj h ▸ .drop hthr hsusp
    next => cases h
  | finish i =>
    rcases hthr : pool.threads i with _ | ⟨c, ⟨⟨⟩⟩ | error | ⟨e, onDrop, k⟩⟩
    all_goals simp only [advance, hthr, reduceCtorEq, Option.some.injEq] at h
    · exact h ▸ .finish hthr (.inl rfl)
    · exact h ▸ .finish hthr (.inr ⟨error, rfl⟩)

/-- The run that some moves make, if they can be made one after the other. -/
def System.replay (sys : System Ω σ E R ε C) [∀ s e, Decidable (sys.enabled s e)]
    (pool : Pool σ E R ε C) :
    List (Move Ω C) → Option (List (Pool σ E R ε C × Move Ω C) × Pool σ E R ε C)
  | [] => some ([], pool)
  | move :: moves =>
    match sys.advance pool move with
    | none => none
    | some next => (sys.replay next moves).map fun run => ((pool, move) :: run.1, run.2)

/-- Moves that can be replayed are the moves of a run. -/
theorem System.run_of_replay (h : sys.replay pool moves = some (tr, pool')) :
    Run sys.Step pool tr pool' ∧ tr.map Prod.snd = moves := by
  induction moves generalizing pool tr with
  | nil =>
    obtain ⟨rfl, rfl⟩ := Prod.mk.inj (Option.some.inj h)
    exact ⟨.nil, rfl⟩
  | cons move moves ih =>
    cases hadvance : sys.advance pool move with
    | none => simp [replay, hadvance] at h
    | some next =>
      simp only [replay, hadvance, Option.map_eq_some_iff] at h
      obtain ⟨⟨tr', last⟩, hrest, heq⟩ := h
      obtain ⟨rfl, rfl⟩ := Prod.mk.inj heq
      obtain ⟨hrun, hmoves⟩ := ih hrest
      exact ⟨(Run.snoc .nil (step_of_advance hadvance)).trans hrun, congrArg (move :: ·) hmoves⟩

theorem System.run_replay (h : (sys.replay pool moves).isSome = true) :
    Run sys.Step pool ((sys.replay pool moves).get h).1 ((sys.replay pool moves).get h).2 :=
  (System.run_of_replay (Option.some_get h).symm).1

/-- The run that some moves make, if its steps pass a check. -/
theorem System.exists_run (sys : System Ω σ E R ε C) [∀ s e, Decidable (sys.enabled s e)]
    (pool : Pool σ E R ε C) (moves : List (Move Ω C)) (check : Pool σ E R ε C → Move Ω C → Bool)
    (post : List (Pool σ E R ε C × Move Ω C) → Pool σ E R ε C → Bool)
    (h : ((sys.replay pool moves).any fun run =>
      (run.1.all fun step => check step.1 step.2) && post run.1 run.2) = true) :
    ∃ tr pool', Run sys.Step pool tr pool' ∧
      (∀ step ∈ tr, check step.1 step.2 = true) ∧ post tr pool' = true := by
  obtain ⟨⟨tr, pool'⟩, hreplay, hchk⟩ := (Option.any_eq_true _ _).mp h
  simp only [Bool.and_eq_true, List.all_eq_true] at hchk
  exact ⟨tr, pool', (System.run_of_replay hreplay).1, hchk.1, hchk.2⟩

end Replay

end

end XGovernor.Lib
