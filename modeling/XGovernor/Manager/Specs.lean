import XGovernor.Manager.Instances

/-!
# What the manager's operations do

One specification per operation: what it returns, and the registry, the counters and the queue
it leaves.  Starting and loading an instance is all or nothing; stopping one either takes it out
of the registry or queues it.  Between the reservation of a place and the end of the operation
the place is counted at every point where the operation can be dropped.
-/

namespace XGovernor.Manager

open Domain Lib Prog Effect

variable {config : Config} {answer : Answers} {s : State} {runtimeId owner : String}
  {obtain_ : ManagerM ProviderInstance} {limit : Option Nat} {duplicate : String} {e : Effect}
  {α : Type}

/-- The state with a newly bound instance. -/
def State.admitted (s : State) (runtimeId owner : String) (bound : BoundInstance) : State :=
  ((s.counted owner).tracked bound.instance_.instanceId owner).registered runtimeId bound

/-- The state after an instance was deleted. -/
def State.released (s : State) (runtimeId : String) (bound : BoundInstance) : State :=
  (s.releaseInstance bound.instance_.instanceId).unregistered runtimeId

attribute [local simp] handle suspends

/-! ## Effects that only wait or read -/

/-- Waiting for the lock of a runtime. -/
def Effect.isLock : Effect → Bool
  | runtimeLock _ => true
  | _ => false

/-- The effects that leave the manager as it is, except for waiting for a lock. -/
def Effect.passive : Effect → Bool
  | lookup _ | restoreError _ | newRequestId => true
  | runtimeLock _ => false
  | e => e.suspends

/-- The effects that leave the quota counters as they are. -/
def Effect.keepsUsage : Effect → Bool
  | reserve _ _ | rollbackReservation _ | releaseInstance _ | rehydrateOne _ _ => false
  | _ => true

/-- The quota counters. -/
def State.usage (s : State) : (String → Nat) × Nat :=
  (s.counts, s.total)

theorem handle_of_passive (he : e.passive = true) :
    (handle config answer s e).2 = s := by
  cases e <;> first | rfl | simp [passive] at he

theorem handle_usage (he : e.keepsUsage = true) :
    (handle config answer s e).2.usage = s.usage := by
  cases e <;> first | rfl | simp [keepsUsage] at he

theorem Effect.keepsUsage_of_passive (he : e.passive = true) :
    e.keepsUsage = true ∧ e.isLock = false := by
  cases e <;> first | exact ⟨rfl, rfl⟩ | simp [passive] at he

/-- A program that only waits and reads, and holds nothing meanwhile. -/
abbrev Passive {α : Type} (p : ManagerM α) : Prop :=
  p.Runs (fun _ _ => True) fun e onDrop => e.passive = true ∧ onDrop = id

theorem Passive.eval {p : ManagerM α} (hp : Passive p) (config answer s) :
    (p.eval (handle config answer) s).2 = s := by
  refine hp.eval_invariant (I := fun s' => s' = s) ?_ rfl
  rintro s' e _ rfl he
  exact ⟨trivial, handle_of_passive he.1⟩

theorem passive_createLoop (request) (remaining attempt delayMs : Nat) :
    Passive (createLoop config request remaining attempt delayMs) := by
  induction remaining generalizing attempt delayMs with
  | zero =>
    rw [createLoop]
    refine ⟨⟨rfl, rfl⟩, fun _ _ => ⟨⟨rfl, rfl⟩, fun r _ => ?_⟩⟩
    cases r <;> trivial
  | succ remaining ih =>
    rw [createLoop]
    refine ⟨⟨rfl, rfl⟩, fun _ _ => ⟨⟨rfl, rfl⟩, fun r _ => ?_⟩⟩
    cases r with
    | ok _ => trivial
    | error error =>
      dsimp only [ret_bind]
      split
      · exact ⟨⟨rfl, rfl⟩, fun _ _ => ih _ _⟩
      · trivial

theorem passive_createWithRetry (backendId : String) (providerOptions) :
    Passive (createWithRetry config backendId owner providerOptions) :=
  ⟨⟨rfl, rfl⟩, fun _ _ => passive_createLoop _ _ _ _⟩

theorem passive_loadSnapshot (backendId snapshotId : String) (providerOptions) :
    Passive (loadSnapshot runtimeId backendId owner snapshotId providerOptions) :=
  ⟨⟨rfl, rfl⟩, fun _ _ => runs_orFail _⟩

theorem passive_requireInstance_bind {f : BoundInstance → ManagerM α}
    (hf : ∀ bound, Passive (f bound)) : Passive ((requireInstance runtimeId).bind f) := by
  refine ⟨⟨rfl, rfl⟩, fun record _ => ?_⟩
  cases record with
  | none => trivial
  | some bound => exact hf bound

theorem passive_checkpointInstanceCorrelated (correlation) :
    Passive (checkpointInstanceCorrelated config runtimeId correlation) :=
  passive_requireInstance_bind fun _ =>
    .require fun _ => ⟨⟨rfl, rfl⟩, fun _ _ => runs_orFail _⟩

theorem passive_inspectInstance : Passive (inspectInstance runtimeId) :=
  passive_requireInstance_bind fun _ => ⟨⟨rfl, rfl⟩, fun _ _ => runs_orFail _⟩

theorem passive_deleteSnapshot (backendId snapshotId : String) :
    Passive (deleteSnapshot backendId snapshotId) :=
  ⟨⟨rfl, rfl⟩, fun _ _ => runs_orFail _⟩

theorem passive_backendFor : Passive (backendFor runtimeId) := by
  refine ⟨⟨rfl, rfl⟩, fun record _ => ?_⟩
  cases record with
  | none => exact ⟨⟨rfl, rfl⟩, fun _ _ => trivial⟩
  | some bound => trivial

/-! ## Starting and loading -/

theorem bindInstance_eval (config answer s runtimeId owner instance_) :
    (∃ e, (bindInstance runtimeId owner instance_).eval (handle config answer) s =
        (.error e, s.uncounted owner)) ∨
      ∃ backend, (bindInstance runtimeId owner instance_).eval (handle config answer) s =
        (.ok backend, (s.tracked instance_.instanceId owner).registered runtimeId
          { instance_, backend }) := by
  simp only [bindInstance, perform, rollbackCreate, rollbackReservation, deleteCall,
    bind_def, effect_bind, eval_perform, handle]
  rcases answer (.attach instance_) with error | backend
  · exact .inl ⟨error, rfl⟩
  · simp only [eval_perform, handle]
    rcases answer (.recordCreated runtimeId owner instance_) with error | ⟨⟩
    · exact .inl ⟨error, rfl⟩
    · exact .inr ⟨backend, rfl⟩

/-- The operation is all or nothing: a failure leaves the manager unchanged, a success counts,
tracks and registers the instance of a runtime that had none. -/
def Obtains (config : Config) (answer : Answers) (s : State) (runtimeId owner : String)
    (p : ManagerM OperationBackend) : Prop :=
  (∃ e, p.eval (handle config answer) s = (.error e, s)) ∨
    ∃ bound, s.instances runtimeId = none ∧
      p.eval (handle config answer) s = (.ok bound.backend, s.admitted runtimeId owner bound)

/-- **Admission is all or nothing.** -/
theorem obtains_admitInstance (hobtain : Passive obtain_) :
    Obtains config answer s runtimeId owner
      (admitInstance runtimeId owner limit duplicate obtain_) := by
  simp only [Obtains, admitInstance, lookup, reserve, perform, bind_def, effect_bind,
    eval_perform, handle]
  rcases hreg : s.instances runtimeId with _ | bound
  · simp only [eval_perform, handle]
    rcases State.reserve_cases config s owner limit with hres | ⟨e, hres⟩
    · rw [hres]
      dsimp only [orFail, ret_bind]
      have hstate := hobtain.eval config answer (s.counted owner)
      rw [eval_bind, Prog.eval_attempt, hstate]
      rcases (obtain_.eval (handle config answer) (s.counted owner)).1 with e | instance_
      · refine .inl ⟨e, ?_⟩
        simp [rollbackReservation, perform]
      · rcases bindInstance_eval config answer (s.counted owner) runtimeId owner instance_
          with ⟨e, he⟩ | ⟨backend, hb⟩
        · exact .inl ⟨e, by simpa using he⟩
        · exact .inr ⟨{ instance_, backend }, trivial, hb⟩
    · rw [hres]
      exact .inl ⟨e, rfl⟩
  · exact .inl ⟨_, rfl⟩

/-! ## Stopping -/

/-- Stopping a registered instance removes it, or fails and queues it. -/
theorem stopInstance_eval (config answer) {bound} (hbound : s.instances runtimeId = some bound) :
    (stopInstance runtimeId).eval (handle config answer) s = (.ok (), s.released runtimeId bound) ∨
      ∃ e, (stopInstance runtimeId).eval (handle config answer) s =
        (.error e, s.queued { runtimeId, record := bound, attempt := 0 }) := by
  simp only [stopInstance, stopInstanceLocked, requireInstance, runtimeLock, lookup, perform,
    deleteInstance, deleteCall, bind_def, effect_bind, perform_bind,
    eval_perform, handle, hbound, pure_def, ret_bind]
  split
  · exact .inl rfl
  · exact .inr ⟨_, rfl⟩

/-! ## Being dropped -/

/-- The effects that keep the quota counters, with no guard alive. -/
def KeepsUsage (e : Effect) (onDrop : State → State) : Prop :=
  e.keepsUsage = true ∧ onDrop = id

/-- The effects of an admission between its reservation and its end. -/
def Admitting (e : Effect) (onDrop : State → State) : Prop :=
  KeepsUsage e onDrop ∧ e.isLock = false

/-- The place is given back last. -/
theorem settles_bindInstance (instance_) :
    (bindInstance runtimeId owner instance_).Settles suspends Admitting := by
  refine .inl ⟨⟨⟨rfl, rfl⟩, rfl⟩, fun attached => ?_⟩
  cases attached with
  | error error => exact .inl ⟨⟨⟨rfl, rfl⟩, rfl⟩, fun _ => .inr ⟨rfl, fun _ => trivial⟩⟩
  | ok backend =>
    refine .inl ⟨⟨⟨rfl, rfl⟩, rfl⟩, fun recorded => ?_⟩
    cases recorded with
    | error error => exact .inl ⟨⟨⟨rfl, rfl⟩, rfl⟩, fun _ => .inr ⟨rfl, fun _ => trivial⟩⟩
    | ok _ =>
      exact .inl ⟨⟨⟨rfl, rfl⟩, rfl⟩, fun _ => .inl ⟨⟨⟨rfl, rfl⟩, rfl⟩, fun _ => trivial⟩⟩

/-- **A dropped admission keeps its place**: wherever the operation can be dropped after it has
reserved, the place is still counted. -/
theorem admitInstance_drops (hobtain : Passive obtain_) {x}
    (hx : x ∈ (admitInstance runtimeId owner limit duplicate obtain_).drops
      (handle config answer) suspends s) :
    x.1.isLock = false ∧ x.2.usage = (s.counted owner).usage := by
  simp only [admitInstance, lookup, reserve, perform, bind_def, effect_bind,
    drops_perform, handle, suspends, Bool.false_eq_true, if_false, List.nil_append] at hx
  rcases hreg : s.instances runtimeId with _ | bound
  · rcases State.reserve_cases config s owner limit with hres | ⟨e, hres⟩
    · simp only [hreg, drops_perform, handle, suspends, Bool.false_eq_true, if_false,
        List.nil_append, hres, orFail, ret_bind] at hx
      -- after the reservation every effect keeps the counters, up to the final rollback
      refine Prog.Settles.drops_invariant (Q := Admitting)
        (I := fun s' => s'.usage = (s.counted owner).usage)
        (J := fun e s' => e.isLock = false ∧ s'.usage = (s.counted owner).usage) ?_ ?_ ?_ rfl hx
      · refine Prog.Runs.settles_bind (hobtain.mono fun e _ he =>
          ⟨⟨(keepsUsage_of_passive he.1).1, he.2⟩,
            (keepsUsage_of_passive he.1).2⟩).attempt fun outcome => ?_
        cases outcome with
        | error error => exact .inr ⟨rfl, fun _ => trivial⟩
        | ok instance_ => exact settles_bindInstance instance_
      · rintro s' e _ hs' ⟨⟨he, -⟩, -⟩
        exact (handle_usage he).trans hs'
      · rintro s' e _ hs' - ⟨⟨-, rfl⟩, hlock⟩
        exact ⟨hlock, hs'⟩
    · simp [hreg, drops_perform, hres, orFail] at hx
  · simp [hreg] at hx

/-- Stopping an instance can only be dropped before its place is given back. -/
theorem settles_stopInstance :
    (stopInstance runtimeId).Settles suspends KeepsUsage := by
  refine .inl ⟨⟨rfl, rfl⟩, fun _ => .inl ⟨⟨rfl, rfl⟩, fun record => ?_⟩⟩
  cases record with
  | none => trivial
  | some bound =>
    refine .inl ⟨⟨rfl, rfl⟩, fun deleted => ?_⟩
    cases deleted with
    | ok _ => exact .inl ⟨⟨rfl, rfl⟩, fun _ => .inr ⟨rfl, fun _ => ⟨rfl, fun _ _ => trivial⟩⟩⟩
    | error error => exact .inl ⟨⟨rfl, rfl⟩, fun _ => trivial⟩

end XGovernor.Manager
