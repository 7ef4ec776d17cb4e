import Mathlib.Data.Nat.Init
import Mathlib.Logic.Function.Basic

/-!
# Retests

Concurrent retests of one state against one version of the oracle share a computation.  The first
call enters its future under the key and computes; a call that finds a future there waits for it.
The owner publishes the outcome, a value or an exception, and removes the key in a step of its own,
so a call that comes in between finds a future that is done.
-/

namespace XGovernor.Mcts.RetestGate

open Function

structure Key where
  stateId : String
  version : Option Int
  deriving DecidableEq

/-- The arguments of `run`; a computation returns a value or raises an exception. -/
structure Call (V E : Type) where
  key : Key
  compute : Except E V

/-- How far a call is; a future is named by the call that made it. -/
inductive Phase (V E : Type) where
  | entering
  | computing
  | counting
  | publishing
  | removing
  | waiting (owner : Nat)
  | ended (outcome : Except E V)

structure Gate (V E : Type) where
  inflight : Key → Option Nat
  computes : Nat
  coalesced : Nat
  /-- The outcomes of the futures that are done. -/
  futures : Nat → Option (Except E V)
  phases : Nat → Phase V E

/-- Any number of calls, and the order in which they take their turns. -/
structure Execution (V E : Type) where
  calls : Nat → Call V E
  schedule : Nat → Nat

section

variable {V E : Type}

namespace Phase

/-- The call has entered a future that is not done. -/
@[simp, grind] def pending : Phase V E → Bool
  | computing | counting | publishing => true
  | _ => false

/-- The call has entered a future and not removed it. -/
@[simp, grind] def owns (phase : Phase V E) : Bool :=
  phase.pending || phase matches removing

/-- The turns that a call still needs if it need not wait. -/
@[simp, grind] def rank : Phase V E → Nat
  | entering => 5
  | computing => 4
  | counting => 3
  | publishing => 2
  | removing | waiting _ => 1
  | ended _ => 0

end Phase

/-- Call `i` takes its next critical section, or its computation or its wait ends. -/
def Gate.turn (calls : Nat → Call V E) (g : Gate V E) (i : Nat) : Gate V E :=
  let moved (phase : Phase V E) := { g with phases := update g.phases i phase }
  match g.phases i with
  | .entering =>
    match g.inflight (calls i).key with
    | none => { moved .computing with inflight := update g.inflight (calls i).key (some i) }
    | some owner => { moved (.waiting owner) with coalesced := g.coalesced + 1 }
  | .computing =>
    match (calls i).compute with
    | .ok _ => moved .counting
    | .error _ => moved .publishing
  | .counting => { moved .publishing with computes := g.computes + 1 }
  | .publishing => { moved .removing with futures := update g.futures i (some (calls i).compute) }
  | .removing =>
    { moved (.ended (calls i).compute) with inflight := update g.inflight (calls i).key none }
  | .waiting owner =>
    match g.futures owner with
    | some outcome => moved (.ended outcome)
    | none => g
  | .ended _ => g

/-- The gate after `n` turns; a call begins with its first. -/
def Execution.gate (x : Execution V E) : Nat → Gate V E
  | 0 => ⟨fun _ => none, 0, 0, fun _ => none, fun _ => .entering⟩
  | n + 1 => (x.gate n).turn x.calls (x.schedule n)

/-- The table has the owners, a future that is waited for is done or on its way, and outcomes are
those of computations. -/
structure Gate.Tidy (calls : Nat → Call V E) (g : Gate V E) : Prop where
  entry : ∀ key i, g.inflight key = some i → (calls i).key = key ∧ (g.phases i).owns = true
  entered : ∀ i, (g.phases i).owns = true → g.inflight (calls i).key = some i
  done : ∀ i outcome, g.futures i = some outcome → outcome = (calls i).compute
  published : ∀ i, g.phases i = .removing → g.futures i = some (calls i).compute
  waits : ∀ i owner, g.phases i = .waiting owner → (calls owner).key = (calls i).key ∧
    ((g.phases owner).pending = true ∨ g.futures owner ≠ none)
  outcome : ∀ i outcome, g.phases i = .ended outcome →
    ∃ j, (calls j).key = (calls i).key ∧ g.futures j = some outcome

variable {calls : Nat → Call V E} {x : Execution V E} {i n : Nat}

theorem Gate.Tidy.turn {g : Gate V E} (h : g.Tidy calls) (i : Nat) :
    (g.turn calls i).Tidy calls := by
  obtain ⟨hentry, hentered, hdone, hpub, hwaits, hout⟩ := h
  unfold Gate.turn
  cases hi : g.phases i with
  | entering | computing | waiting owner =>
    dsimp only
    split <;> constructor <;> grind -ring -linarith
  | counting | publishing | removing | ended _ => constructor <;> grind -ring -linarith

theorem Execution.tidy (x : Execution V E) (n : Nat) : (x.gate n).Tidy x.calls := by
  induction n with
  | zero => constructor <;> simp [gate]
  | succ n ih => exact ih.turn (x.schedule n)

/-! ## Progress -/

/-- A turn leaves the other calls where they are; it brings the call closer to its end, unless that
has ended or waits for a future that is not done. -/
theorem Gate.turn_phases (g : Gate V E) (i j : Nat) :
    (g.turn calls i).phases j = g.phases j ∧ (i = j → ((∃ outcome, g.phases j = .ended outcome) ∨
        ∃ owner, g.phases j = .waiting owner ∧ g.futures owner = none)) ∨
      i = j ∧ ((g.turn calls i).phases j).rank < (g.phases j).rank := by
  unfold Gate.turn
  cases hi : g.phases i with
  | entering | computing | waiting owner =>
    dsimp only
    split <;> grind
  | counting | publishing | removing | ended _ => grind

/-- A call comes to a last phase. -/
theorem Execution.exists_last (x : Execution V E) (i n : Nat) :
    ∃ m ≥ n, ((x.gate m).phases i).rank ≤ ((x.gate n).phases i).rank ∧
      ∀ l ≥ m, (x.gate l).phases i = (x.gate m).phases i := by
  induction hr : ((x.gate n).phases i).rank using Nat.strong_induction_on generalizing n with
  | h r ih =>
    by_cases hless : ∃ l ≥ n, ((x.gate l).phases i).rank < r
    · obtain ⟨l, hl, hlt⟩ := hless
      obtain ⟨m, hm, hle, hlast⟩ := ih _ hlt l rfl
      exact ⟨m, by omega, by omega, hlast⟩
    · refine ⟨n, Nat.le_refl n, by omega, fun l hl => ?_⟩
      induction l, hl using Nat.le_induction with
      | base => rfl
      | succ l hl ih =>
        rcases (x.gate l).turn_phases (x.schedule l) i with ⟨hsame, -⟩ | ⟨-, hlt⟩
        · exact hsame.trans ih
        · exact (hless ⟨l + 1, by omega, hr ▸ ih ▸ hlt⟩).elim

/-- A call that gets a turn gets another one, so every computation ends and nobody is starved. -/
def Execution.Fair (x : Execution V E) : Prop :=
  ∀ n, ∃ m > n, x.schedule m = x.schedule n

theorem Execution.Fair.again (hfair : x.Fair) (hi : x.schedule n = i) (l : Nat) :
    ∃ m ≥ l, x.schedule m = i := by
  induction l with
  | zero => exact ⟨n, Nat.zero_le n, hi⟩
  | succ l ih =>
    obtain ⟨m, hm, hsched⟩ := ih
    obtain ⟨m', hm', hsched'⟩ := hfair m
    exact ⟨m', by omega, hsched'.trans hsched⟩

/-- A call that is not where it began has had a turn. -/
theorem Execution.scheduled (x : Execution V E) (hbegun : (x.gate n).phases i ≠ .entering) :
    ∃ m < n, x.schedule m = i := by
  induction n with
  | zero => exact absurd rfl hbegun
  | succ n ih =>
    by_cases hi : x.schedule n = i
    · exact ⟨n, Nat.lt_succ_self n, hi⟩
    · rcases (x.gate n).turn_phases (x.schedule n) i with ⟨hsame, -⟩ | ⟨heq, -⟩
      · obtain ⟨m, hm, hsched⟩ := ih (hsame ▸ hbegun)
        exact ⟨m, Nat.lt_succ_of_lt hm, hsched⟩
      · exact absurd heq hi

/-- A call in its last phase has ended, or its future is not done at one of its turns. -/
theorem Execution.Fair.last (hfair : x.Fair) {k} (hi : x.schedule k = i) {phase}
    (h : ∀ l ≥ n, (x.gate l).phases i = phase) :
    ∃ l ≥ n, (∃ outcome, phase = .ended outcome) ∨
      ∃ owner, phase = .waiting owner ∧ (x.gate l).futures owner = none := by
  obtain ⟨l, hl, rfl⟩ := hfair.again hi n
  rcases (x.gate l).turn_phases (x.schedule l) (x.schedule l) with ⟨-, hstuck⟩ | ⟨-, hlt⟩
  · exact ⟨l, hl, h l hl ▸ hstuck rfl⟩
  · rw [h l hl] at hlt
    exact absurd (h (l + 1) (by omega) ▸ hlt) (Nat.lt_irrefl _)

/-- **Nobody waits for ever**: a call that gets its turns ends, whether it computes or waits. -/
theorem Execution.Fair.ends (hfair : x.Fair) (n : Nat) :
    ∃ m ≥ n, ∃ outcome, (x.gate m).phases (x.schedule n) = .ended outcome := by
  obtain ⟨m, hm, -, hlast⟩ := x.exists_last (x.schedule n) n
  obtain ⟨-, -, ⟨outcome, hend⟩ | ⟨owner, hwaits, -⟩⟩ := hfair.last rfl hlast
  · exact ⟨m, hm, outcome, hend⟩
  · -- the owner comes to its last phase, too, and then its future is done
    obtain ⟨k, hk, -, howner⟩ := x.exists_last owner m
    obtain ⟨l, hl, hstuck⟩ := hfair.last rfl fun l hl => hlast l (Nat.le_trans hk hl)
    rw [hwaits] at hstuck
    obtain ⟨_, ⟨⟩⟩ | ⟨_, ⟨⟩, hnone⟩ := hstuck
    have hdone := ((x.tidy l).waits (x.schedule n) owner ((hlast l (by omega)).trans hwaits)).2
    have hpending := hdone.resolve_right (not_not.2 hnone)
    obtain ⟨j, -, hj⟩ := x.scheduled (n := l) (i := owner) fun h => by simp [h] at hpending
    rw [howner l hl] at hpending
    obtain ⟨-, -, ⟨_, h⟩ | ⟨_, h, -⟩⟩ := hfair.last hj howner
    · simp [h] at hpending
    · simp [h] at hpending

/-! ## Computations -/

/-- The computation of the call is over. -/
def Gate.computed (g : Gate V E) (i : Nat) : Prop :=
  g.phases i = .counting ∨ g.phases i = .publishing ∨ g.phases i = .removing ∨ g.futures i ≠ none

/-- A computation is over once the call that computes has had its turn. -/
theorem Gate.computed_turn {g : Gate V E} {j : Nat} (h : (g.turn calls i).computed j) :
    g.computed j ∨ i = j ∧ g.phases j = .computing := by
  unfold Gate.turn at h
  unfold Gate.computed at h ⊢
  cases hi : g.phases i with
  | entering | computing | waiting owner =>
    simp only [hi] at h
    split at h <;> grind
  | counting | publishing | removing | ended _ =>
    simp only [hi] at h
    grind

/-- The call has computed in one of the first `n` turns. -/
def Execution.Ran (x : Execution V E) (n i : Nat) : Prop :=
  ∃ m < n, x.schedule m = i ∧ (x.gate m).phases i = .computing

theorem Execution.ran_of_computed (x : Execution V E) (h : (x.gate n).computed i) :
    x.Ran n i := by
  induction n with
  | zero => simp [gate, Gate.computed] at h
  | succ n ih =>
    rcases Gate.computed_turn h with hbefore | ⟨hi, hcomputing⟩
    · obtain ⟨m, hm, hran⟩ := ih hbefore
      exact ⟨m, Nat.lt_succ_of_lt hm, hran⟩
    · exact ⟨n, Nat.lt_succ_self n, hi, hcomputing⟩

end

/-- **Single flight**: in every execution one call computes for a key at a time, calls end with the
outcome of a computation for their key that was run, and the table is empty when no call is in
progress; if every call that gets a turn gets its turns, it ends. -/
theorem retest_single_flight {V E : Type} (x : Execution V E) :
    (∀ n, let phases := (x.gate n).phases
      (∀ i j, phases i = .computing → phases j = .computing → (x.calls i).key = (x.calls j).key →
        i = j) ∧
      (∀ i outcome, phases i = .ended outcome →
        ∃ j, (x.calls j).key = (x.calls i).key ∧ x.Ran n j ∧ outcome = (x.calls j).compute) ∧
      ((∀ i, phases i = .entering ∨ ∃ outcome, phases i = .ended outcome) →
        ∀ key, (x.gate n).inflight key = none)) ∧
    (x.Fair → ∀ n, ∃ m ≥ n, ∃ outcome, (x.gate m).phases (x.schedule n) = .ended outcome) := by
  refine ⟨fun n => ⟨fun i j hi hj hkey => ?_, fun i outcome hi => ?_, fun hidle key => ?_⟩,
    fun hfair => hfair.ends⟩
  · have hi := (x.tidy n).entered i (by rw [hi]; rfl)
    have hj := (x.tidy n).entered j (by rw [hj]; rfl)
    exact Option.some.inj (hi.symm.trans (hkey ▸ hj))
  · obtain ⟨j, hkey, hdone⟩ := (x.tidy n).outcome i outcome hi
    exact ⟨j, hkey, x.ran_of_computed (.inr (.inr (.inr (by simp [hdone])))),
      (x.tidy n).done j outcome hdone⟩
  · by_contra hsome
    obtain ⟨i, hi⟩ := Option.ne_none_iff_exists'.1 hsome
    have howns := ((x.tidy n).entry key i hi).2
    rcases hidle i with h | ⟨outcome, h⟩ <;> simp [h] at howns

/-- Two calls of one key that take turns: the second one comes while the first one computes. -/
def twoCalls : Execution Nat Unit where
  calls := fun i => { key := { stateId := "s", version := none }, compute := .ok i }
  schedule := fun n => n % 2

/-- One of them computes, and both end with its value. -/
theorem two_calls_share_a_computation :
    ((twoCalls.gate 12).computes = 1 ∧ (twoCalls.gate 12).coalesced = 1 ∧
      ∀ i < 2, (twoCalls.gate 12).phases i matches .ended (.ok 0)) ∧
    ∀ n, ∃ m ≥ n, ∃ outcome, (twoCalls.gate m).phases (n % 2) = .ended outcome := by
  refine ⟨by decide, (retest_single_flight twoCalls).2 fun n => ⟨n + 2, by omega, ?_⟩⟩
  exact Nat.add_mod_right n 2

end XGovernor.Mcts.RetestGate
