import XGovernor.App.Discipline
import Mathlib.Tactic.MkIffOfInductiveProp

/-!
# The outcome of creating a session

`open`, `load_checkpoint` and `fork` take a slot, an instance and a runtime for a new session and
publish its record.  A creation that has its slot ends in one of three ways: the record is
published, everything is given back, or the call fails through an exit that gives nothing back.
-/

namespace XGovernor.App

open Domain Joint Manager Lib Function Prog Manager.State State

variable {config : Config} {env : Env} {ctx : SecurityContext} {s s₁ s' : State}
  {key runtimeId owner : String} {bound : BoundInstance}

/-! ## What is left behind -/

/-- Every registered instance was registered before, or its deletion has just failed and it is
queued. -/
def NoNewInstance (s s' : State) : Prop :=
  ∀ key runtimeId bound, (s'.managers key).instances runtimeId = some bound →
    (s.managers key).instances runtimeId = some bound ∨
      (s'.managers key).pendingRelease =
        (s.managers key).pendingRelease ++ [{ runtimeId, record := bound, attempt := 0 }]

/-- The slot of the new session is given back, and so is its instance; of the store only the
announced intents have changed. -/
structure Abandoned (ctx : SecurityContext) (s s' : State) : Prop where
  slots : s'.tenantSessions = (s.slotReleased ctx).tenantSessions
  instances : NoNewInstance s s'
  store : ∃ intents, s'.store = { s.store with snapshotOperations := intents }

/-- What a creation that does not roll back leaves: its slot, or an instance that nobody will
delete. -/
inductive Residue (ctx : SecurityContext) (s s' : State) : Prop where
  | slot (tenant : ctx.tenantId.isSome) (slots : s'.tenantSessions = s.tenantSessions)
  | instance_ (key runtimeId : String) (bound : BoundInstance)
      (free : (s.managers key).instances runtimeId = none)
      (registered : (s'.managers key).instances runtimeId = some bound)
      (unqueued : (s'.managers key).pendingRelease = (s.managers key).pendingRelease)

/-- The record is stored; the slot is kept. -/
structure Published (s s' : State) (record : SessionRecord) : Prop where
  slots : s'.tenantSessions = s.tenantSessions
  accepted : Storable s.store record
  sessions : s'.store.sessions.get? = savedSessions s.store record
  joint : s'.store.jointSessions = s.store.jointSessions

/-- The record of a new session of the caller. -/
structure NewSession (ctx : SecurityContext) (runtimeId : String) (record : SessionRecord) :
    Prop where
  runtimeId : record.runtimeId = runtimeId
  tenantId : record.tenantId = ctx.tenantId
  status : record.status = .idle
  backing : record.executionBacking = .splitV1

/-- The three ways in which a creation that holds its slot can end; `leak` says under which
circumstances it leaks. -/
inductive Outcome (ctx : SecurityContext) (runtimeId : String) (leak : Prop) (s : State) :
    Except SessionDomainError SessionOpenResponse × State → Prop where
  | published (response : SessionOpenResponse) (s' : State) {record : SessionRecord}
      (hnew : NewSession ctx runtimeId record) (hpub : Published s s' record) (hclean : ¬ leak) :
      Outcome ctx runtimeId leak s (.ok response, s')
  | abandoned (error : SessionDomainError) (s' : State) (haband : Abandoned ctx s s')
      (hclean : ¬ leak) : Outcome ctx runtimeId leak s (.error error, s')
  | leaked (error : SessionDomainError) (s' : State) (hleak : leak)
      (hresidue : Residue ctx s s') : Outcome ctx runtimeId leak s (.error error, s')

theorem NoNewInstance.of_managers_eq (h : s'.managers = s.managers) : NoNewInstance s s' := by
  intro key runtimeId bound hbound
  rw [h] at hbound
  exact .inl hbound

/-- Giving the slot back is all there is to do before an instance exists. -/
theorem abandoned_slotReleased (ctx s) (intents : Table String Json) :
    Abandoned ctx s ((s.withIntents intents).slotReleased ctx) := by
  unfold slotReleased
  cases h : ctx.tenantId with
  | none =>
    refine ⟨?_, .of_managers_eq rfl, intents, rfl⟩
    simp [slotReleased, h, withIntents, withStore]
  | some tenant =>
    refine ⟨?_, .of_managers_eq rfl, intents, rfl⟩
    simp [slotReleased, h, withIntents, withStore, releaseTenantSession]

/-- A failure that gives nothing back keeps the slot of a tenant; the operator has none. -/
theorem outcome_slotKept {leak : Prop} (intents : Table String Json) (e)
    (hleak : leak ↔ ctx.tenantId.isSome) :
    Outcome ctx runtimeId leak s (.error e, s.withIntents intents) := by
  cases hten : ctx.tenantId with
  | none =>
    have hadmin : (s.withIntents intents).slotReleased ctx = s.withIntents intents := by
      simp [slotReleased, hten]
    exact .abandoned _ _ (hadmin ▸ abandoned_slotReleased ctx s intents) (by simp [hleak, hten])
  | some tenant =>
    have hsome : ctx.tenantId.isSome := by rw [hten]; rfl
    exact .leaked _ _ (hleak.2 hsome) (.slot hsome rfl)

/-! ## Holding an instance -/

/-- The new session has its instance: in the registry of the manager, and nowhere before. -/
structure Holding (owner : String) (s s₁ : State) (key runtimeId : String)
    (bound : BoundInstance) : Prop where
  free : (s.managers key).instances runtimeId = none
  state : ∃ intents, s₁ = (s.withIntents intents).withManager key
    ((s.managers key).admitted runtimeId owner bound)

theorem Holding.managers_key (hold : Holding owner s s₁ key runtimeId bound) :
    s₁.managers key = (s.managers key).admitted runtimeId owner bound := by
  obtain ⟨intents, rfl⟩ := hold.state
  simp [withManager]

theorem Holding.readSession (hold : Holding owner s s₁ key runtimeId bound) (id : String) :
    Joint.readSession s₁.store id = Joint.readSession s.store id := by
  obtain ⟨intents, rfl⟩ := hold.state
  rfl

/-- Obtaining the instance: the manager stays as it was, or it holds the new instance. -/
theorem eval_obtain {p site} (intents : Table String Json)
    (hp : Obtains (config.managers key) (env.managerAnswers key site) (s.managers key) runtimeId
      owner p) :
    (∃ e, p.eval (Manager.handle (config.managers key) (env.managerAnswers key site))
          (s.managers key) = (.error e, s.managers key) ∧
        (manager key site p).eval (handle config env) (s.withIntents intents) =
          (.ok (.error e), s.withIntents intents)) ∨
      ∃ bound s₁, Holding owner s s₁ key runtimeId bound ∧
        p.eval (Manager.handle (config.managers key) (env.managerAnswers key site))
          (s.managers key) = (.ok bound.backend, (s.managers key).admitted runtimeId owner bound) ∧
        (manager key site p).eval (handle config env) (s.withIntents intents) =
          (.ok (.ok bound.backend), s₁) := by
  have hman : (s.withIntents intents).managers key = s.managers key := rfl
  rw [eval_manager, hman]
  rcases hp with ⟨e, hp⟩ | ⟨bound, hfree, hp⟩
  · rw [hp]
    exact .inl ⟨e, rfl, by rw [← hman, withManager_self]⟩
  · rw [hp]
    exact .inr ⟨bound, _, ⟨hfree, intents, rfl⟩, rfl, rfl⟩

/-- What a manager answers and becomes tells the instance that it obtained. -/
@[simp] theorem obtained_eq_iff {m : Manager.State} {bound' : BoundInstance} :
    (bound.backend = bound'.backend ∧
        m.admitted runtimeId owner bound = m.admitted runtimeId owner bound') ↔ bound = bound' := by
  refine ⟨fun h => ?_, fun h => h ▸ ⟨rfl, rfl⟩⟩
  have hentry := congrFun (congrArg instances h.2) runtimeId
  simpa [admitted, registered] using hentry

section Obtaining

variable {config : Manager.Config} {answer : Answers} {m : Manager.State}
  {providerId runtimeId : String}

theorem obtains_openInstance (admission) :
    Obtains config answer m runtimeId ctx.ownerRef
      (openInstance config ctx admission providerId runtimeId) :=
  obtains_admitInstance (passive_createWithRetry _ _)

theorem obtains_loadInstance (checkpoint) :
    Obtains config answer m runtimeId ctx.ownerRef
      (loadInstance ctx checkpoint providerId runtimeId) :=
  obtains_admitInstance (passive_loadSnapshot _ _ _)

theorem ForkPlan.obtains_loadInstance (plan : ForkPlan) (snapshotId : String) :
    Obtains config answer m plan.runtimeId ctx.ownerRef
      (plan.loadInstance ctx providerId snapshotId) :=
  obtains_admitInstance (passive_loadSnapshot _ _ _)

end Obtaining

theorem slotReleased_managers (s : State) (ctx) : (s.slotReleased ctx).managers = s.managers := by
  unfold slotReleased
  split <;> rfl

theorem slotReleased_store (s : State) (ctx) : (s.slotReleased ctx).store = s.store := by
  unfold slotReleased
  split <;> rfl

section

variable (hold : Holding owner s s₁ key runtimeId bound)
include hold

/-- Stopping the instance of a session that is given up leaves no instance that is not queued. -/
theorem Holding.noNewInstance {m}
    (hm : m = ((s.managers key).admitted runtimeId owner bound).released runtimeId bound ∨
      m = ((s.managers key).admitted runtimeId owner bound).queued
        { runtimeId, record := bound, attempt := 0 }) :
    NoNewInstance s (s₁.withManager key m) := by
  obtain ⟨intents, rfl⟩ := hold.state
  intro key' id b hb
  by_cases hkey : key' = key
  · subst hkey
    simp only [withManager, update_self] at hb ⊢
    by_cases hid : id = runtimeId
    · subst hid
      rcases hm with rfl | rfl
      · simp [released, unregistered] at hb
      · have hbound : b = bound := by
          simpa [queued, admitted, registered]
            using hb.symm
        subst hbound
        exact .inr rfl
    · left
      rcases hm with rfl | rfl <;>
        simpa [released, unregistered, queued, admitted, registered, tracked,
          update_of_ne hid] using hb
  · simp only [withManager, update_of_ne hkey] at hb
    exact .inl hb

/-- **Giving up a session** that holds an instance gives everything back. -/
theorem Holding.outcome_abandonInstance {leak : Prop} (hclean : ¬ leak) (target : String) (error) :
    Outcome ctx target leak s ((abandonInstance ctx key runtimeId error :
      AppM SessionOpenResponse).eval (handle config env) s₁) := by
  have hadm := hold.managers_key
  have hbound : (s₁.managers key).instances runtimeId = some bound := by
    simp [hadm, admitted, registered]
  dsimp only [abandonInstance, bind_def]
  rw [eval_bind_ok (eval_manager ..), eval_bind_ok (releaseSlot_eval ..)]
  refine .abandoned error _ ⟨?_, ?_, ?_⟩ hclean
  · obtain ⟨intents, rfl⟩ := hold.state
    unfold slotReleased
    cases ctx.tenantId <;> rfl
  · intro key' id b
    rw [slotReleased_managers]
    refine hold.noNewInstance ?_ key' id b
    rcases Manager.stopInstance_eval (config.managers key) (env.managerAnswers key .rollback)
      hbound with h | ⟨e, h⟩
    · exact .inl (by rw [h, hadm])
    · exact .inr (by rw [h, hadm])
  · rw [slotReleased_store]
    obtain ⟨intents, rfl⟩ := hold.state
    exact ⟨intents, rfl⟩

theorem Holding.outcome_abandonRuntime {leak : Prop} (hclean : ¬ leak) (target kind : String)
    (error) : Outcome ctx target leak s ((abandonRuntime ctx kind key runtimeId error :
      AppM SessionOpenResponse).eval (handle config env) s₁) :=
  hold.outcome_abandonInstance hclean target error

end

/-! ## Publication -/

theorem Published.withIntents {record} (h : Published s s' record)
    (intents : Table String Json) : Published s (s'.withIntents intents) record :=
  ⟨h.slots, h.accepted, h.sessions, h.joint⟩

/-- Saving the record of a session that holds its instance. -/
theorem Holding.save_cases (hold : Holding owner s s₁ key runtimeId bound) (config env record) :
    (Saves env .publish s.store record ∧ ∃ s₂,
        handle config env s₁ (.saveSession .publish record) = (.ok (), s₂) ∧
        Published s s₂ record ∧ s₂.managers = s₁.managers) ∨ (¬ Saves env .publish s.store record ∧
        ∃ e, handle config env s₁ (.saveSession .publish record) = (.error e, s₁)) := by
  obtain ⟨intents, rfl⟩ := hold.state
  rcases handle_saveSession config env ((s.withIntents intents).withManager key
    ((s.managers key).admitted runtimeId owner bound)) .publish record with
    ⟨hsaves, sessions, hsess, hhandle⟩ | ⟨hsaves, e, hhandle⟩
  · have hacc : Storable s.store record := ⟨hsaves.accepted.split, hsaves.accepted.free,
      hsaves.accepted.route⟩
    exact .inl ⟨⟨hsaves.access, hacc⟩, _, hhandle, ⟨rfl, hacc, hsess, rfl⟩, rfl⟩
  · refine .inr ⟨fun h => hsaves ⟨h.access, ?_⟩, e, hhandle⟩
    exact ⟨h.accepted.split, h.accepted.free, h.accepted.route⟩

/-- A manager's operation that only waits and reads leaves the state. -/
theorem eval_manager_passive {α : Type} {p : ManagerM α} (hp : Manager.Passive p) (key site s) :
    (manager key site p).eval (handle config env) s =
      (.ok (p.eval (Manager.handle (config.managers key) (env.managerAnswers key site))
        (s.managers key)).1, s) := by
  rw [eval_manager, hp.eval, withManager_self]

/-- What `export_runtime_snapshot` is answered. -/
def Env.snapshot (env : Env) (kind runtimeId : String) :
    Except SessionDomainError (OpaqueRuntimeState × Option ResolvedLlm) := do
  let state : Except RuntimeError OpaqueRuntimeState :=
    env.answer (.runtime kind .publish (.exportState runtimeId))
  let llm : Except RuntimeError (Option ResolvedLlm) :=
    env.answer (.runtime kind .publish (.describeLlm runtimeId))
  let state ← state.mapError mapRuntimeError
  let llm ← llm.mapError mapRuntimeError
  pure (state, llm)

theorem exportRuntimeSnapshot_eval (kind runtimeId : String) (s) :
    (exportRuntimeSnapshot kind runtimeId).eval (handle config env) s =
      (.ok (env.snapshot kind runtimeId), s) := by
  simp only [exportRuntimeSnapshot, Env.snapshot, perform, bind_def, effect_bind,
    eval_perform, handle]
  cases env.answer (.runtime kind .publish (.exportState runtimeId)) with
  | error e => rfl
  | ok state =>
    simp only [Except.mapError, eval_perform, handle]
    cases env.answer (.runtime kind .publish (.describeLlm runtimeId)) <;> rfl

end XGovernor.App
