import XGovernor.App.Rollback
import Mathlib.Tactic.Simproc.ExistsAndEq

/-!
# Failed forks

A fork has four exits that give nothing back: three announcements that fail, and the second look
at the parent.  All others publish the new session or give back its slot and its instance.  The
outcome is derived from the end of the fork to its beginning, one lemma for each of its parts.
-/

namespace XGovernor.App

open Domain Joint Manager Lib Prog ForkPlan

variable {config : Config} {env : Env} {ctx : SecurityContext} {s s₁ s' : State}
  {key runtimeId owner : String} {bound : BoundInstance} {plan : ForkPlan}
variable {leak : Prop} {state : OpaqueRuntimeState} {providerId : String}

/-! ## The second look at the parent -/

/-- What the second look finds, from the stored record and the state of the manager. -/
def recheckResult (config : Config) (env : Env) (runtimeId key closed inactive : String)
    (stored : Option SessionRecord) (m : Manager.State) : Except SessionDomainError Unit := do
  let _ ← env.answer (.getSession .recheck runtimeId)
  ensure (stored.any fun record => record.status ≠ .closed && record.status ≠ .failed)
    (.conflict closed)
  let status ← ((inspectInstance runtimeId).eval (Manager.handle (config.managers key)
    (env.managerAnswers key .recheck)) m).1.mapError mapProviderError
  ensure (status.state = .active) (.unavailable inactive)

theorem recheckSource_eval (config env s) (runtimeId key closed inactive : String) :
    (recheckSource runtimeId key closed inactive).eval (handle config env) s =
      (recheckResult config env runtimeId key closed inactive (readSession s.store runtimeId)
        (s.managers key), s) := by
  simp only [recheckSource, perform, bind_def, effect_bind, eval_perform]
  rcases handle_getSession config env s .recheck runtimeId with
    ⟨b, hans, hread⟩ | ⟨e, hans, hread⟩
  · rw [hread]
    simp only [recheckResult, hans, orFail, ret_bind, require, ensure]
    split
    · rw [ret_bind, eval_bind_ok (eval_manager_passive passive_inspectInstance ..)]
      cases ((inspectInstance runtimeId).eval (Manager.handle (config.managers key)
        (env.managerAnswers key .recheck)) (s.managers key)).1 with
      | error e => rfl
      | ok status =>
        change _ = ((if decide (status.state = .active) = true then Except.ok PUnit.unit
          else .error (.unavailable inactive) : Except SessionDomainError Unit), s)
        dsimp only [Except.mapError, ret_bind]
        split <;> rfl
    · rfl
  · rw [hread]
    simp only [recheckResult, hans]
    rfl

/-! ## The exits -/

/-- The first announcement went through, or there was nothing to announce. -/
def ForkPlan.Prepared (plan : ForkPlan) (env : Env) : Prop :=
  plan.intentProvider = "" ∨ env.answer (.saveIntent .prepare plan.intentId
    (plan.intent ("request:" ++ plan.intentId) [])) = .ok ()

theorem ForkPlan.Prepared.unprepared_iff (h : plan.Prepared env) :
    (¬ plan.intentProvider = "" ∧ ∃ e, env.answer (.saveIntent .prepare plan.intentId
      (plan.intent ("request:" ++ plan.intentId) [])) = .error e) ↔ False := by
  rcases h with hunnamed | hok
  · simp [hunnamed]
  · simp [hok]

/-- The parent's state was exported. -/
@[mk_iff] structure ForkPlan.Exported (plan : ForkPlan) (env : Env) (state : OpaqueRuntimeState) :
    Prop where
  prepared : plan.Prepared env
  exported : env.answer (.runtime plan.kind .exported (.exportCheckpointState
    plan.request.parentRuntimeId)) = .ok state

/-- The intent that announces the exported state. -/
def ForkPlan.exportedIntent (plan : ForkPlan) (state : OpaqueRuntimeState) : Json :=
  plan.intent ("request:" ++ plan.intentId) [("history", stateJson state)]

/-- The intent that announces the snapshot. -/
def ForkPlan.capturedIntent (plan : ForkPlan) (state : OpaqueRuntimeState)
    (snapshot : ProviderSnapshot) : Json :=
  plan.intent snapshot.snapshotId [("history", stateJson state)]

/-- The snapshot of the parent was taken. -/
@[mk_iff] structure ForkPlan.Captured (plan : ForkPlan) (config : Config) (env : Env) (s : State)
    (state : OpaqueRuntimeState) (providerId key : String) (snapshot : ProviderSnapshot) :
    Prop where
  exported : plan.Exported env state
  announced : env.answer (.saveIntent .exported plan.intentId (plan.exportedIntent state)) = .ok ()
  provider : plan.provider = .ok (providerId, key)
  captured : ((plan.captureInstance (config.managers key)).eval (Manager.handle
    (config.managers key) (env.managerAnswers key .capture)) (s.managers key)).1 = .ok snapshot

/-- What the second look at the parent finds while the new instance is held. -/
abbrev ForkPlan.recheck (plan : ForkPlan) (config : Config) (env : Env) (s : State)
    (key owner : String) (bound : BoundInstance) : Except SessionDomainError Unit :=
  recheckResult config env plan.request.parentRuntimeId key
    "parent closed during fork" "fork source is no longer active"
    (readSession s.store plan.request.parentRuntimeId)
    ((s.managers key).admitted plan.runtimeId owner bound)

/-- The exits of a fork with its slot that give nothing back. -/
@[mk_iff] inductive ForkLeaks (config : Config) (env : Env) (ctx : SecurityContext)
    (plan : ForkPlan)
    (s : State) : Prop where
  | unprepared {e} (tenant : ctx.tenantId.isSome) (named : plan.intentProvider ≠ "")
      (intent : env.answer (.saveIntent .prepare plan.intentId
        (plan.intent ("request:" ++ plan.intentId) [])) = .error e)
  | unannounced {state e} (tenant : ctx.tenantId.isSome) (exported : plan.Exported env state)
      (intent : env.answer (.saveIntent .exported plan.intentId (plan.exportedIntent state)) =
        .error e)
  | unrecorded {state providerId key snapshot e} (tenant : ctx.tenantId.isSome)
      (captured : plan.Captured config env s state providerId key snapshot)
      (intent : env.answer (.saveIntent .captured plan.intentId
        (plan.capturedIntent state snapshot)) = .error e)
  | unchecked {state providerId key snapshot bound published e}
      (captured : plan.Captured config env s state providerId key snapshot)
      (intent : env.answer (.saveIntent .captured plan.intentId
        (plan.capturedIntent state snapshot)) = .ok ())
      (loaded : (plan.loadInstance ctx providerId snapshot.snapshotId).eval
        (Manager.handle (config.managers key) (env.managerAnswers key .start)) (s.managers key) =
          (.ok bound.backend, (s.managers key).admitted plan.runtimeId ctx.ownerRef bound))
      (started : env.answer (.runtime plan.kind .start (.start (plan.start state)
        bound.backend)) = .ok ())
      (exported : env.snapshot plan.kind plan.runtimeId = .ok published)
      (rechecked : plan.recheck config env s key ctx.ownerRef bound = .error e)

/-! ## The outcome of a fork -/

section

variable (hold : Holding owner s s₁ key plan.runtimeId bound)
include hold

theorem Holding.outcome_publishForked (published : OpaqueRuntimeState × Option ResolvedLlm)
    (hleak : leak ↔ ∃ e, plan.recheck config env s key owner bound = .error e) :
    Outcome ctx plan.runtimeId leak s
      ((publishForked ctx plan key published).eval (handle config env) s₁) := by
  have hrecheck : (recheckSource plan.request.parentRuntimeId key "parent closed during fork"
      "fork source is no longer active").eval (handle config env) s₁ =
        (plan.recheck config env s key owner bound, s₁) := by
    rw [recheckSource_eval, hold.readSession, hold.managers_key]
  simp only [publishForked, perform, bind_def, effect_bind, eval_perform]
  have hlock : handle config env s₁ .lockPublication = (env.answer .lockPublication, s₁) := rfl
  rw [hlock]
  cases hres : plan.recheck config env s key owner bound with
  | error e =>
    rw [hres] at hrecheck
    rw [eval_bind_error hrecheck]
    -- the parent was closed meanwhile: the call returns with the slot and the instance
    exact .leaked e s₁ (hleak.2 ⟨e, hres⟩) (hold.residue rfl)
  | ok _ =>
    have hclean : ¬ leak := by simp [hleak, hres]
    rw [hres] at hrecheck
    rw [eval_bind_ok hrecheck, eval_perform]
    rcases hold.save_cases config env (plan.record ctx published) with
      ⟨-, s₂, hhandle, hpub, -⟩ | ⟨-, e, hhandle⟩
    · rw [hhandle]
      exact .published _ _ ⟨rfl, rfl, rfl, rfl⟩ hpub hclean
    · rw [hhandle]
      exact hold.outcome_abandonRuntime hclean plan.runtimeId plan.kind e

theorem Holding.outcome_startForked
    (hleak : leak ↔
      env.answer (.runtime plan.kind .start (.start (plan.start state) bound.backend)) = .ok () ∧
      (∃ published, env.snapshot plan.kind plan.runtimeId = .ok published) ∧
      ∃ e, plan.recheck config env s key owner bound = .error e) :
    Outcome ctx plan.runtimeId leak s
      ((startForked ctx plan key state bound.backend).eval (handle config env) s₁) := by
  simp only [startForked, forgetState, perform, bind_def, effect_bind,
    perform_bind, pure_def, ret_bind, eval_perform, handle]
  split
  next e hfail =>
    exact hold.outcome_abandonInstance (fun h => ne_ok_of_mapError hfail _ (hleak.1 h).1)
      plan.runtimeId _
  next started hstarted =>
    rw [mapError_eq_ok] at hstarted
    simp only [eval_perform, handle]
    rw [eval_bind_ok (exportRuntimeSnapshot_eval ..)]
    split
    next e hfail =>
      exact hold.outcome_abandonRuntime (by simp [hleak, hfail]) plan.runtimeId plan.kind _
    next published hpub =>
      exact hold.outcome_publishForked published (by simp [hleak, hstarted, hpub])

end

/-- The new instance of a fork, and what follows. -/
theorem outcome_loadForked {snapshotId} (intents : Table String Json)
    (hleak : leak ↔ ∃ bound : BoundInstance,
      (plan.loadInstance ctx providerId snapshotId).eval (Manager.handle (config.managers key)
        (env.managerAnswers key .start)) (s.managers key) =
          (.ok bound.backend, (s.managers key).admitted plan.runtimeId ctx.ownerRef bound) ∧
      env.answer (.runtime plan.kind .start (.start (plan.start state) bound.backend)) = .ok () ∧
      (∃ published, env.snapshot plan.kind plan.runtimeId = .ok published) ∧
      ∃ e, plan.recheck config env s key ctx.ownerRef bound = .error e) :
    Outcome ctx plan.runtimeId leak s ((loadForked ctx plan providerId key state
      snapshotId).eval (handle config env) (s.withIntents intents)) := by
  simp only [loadForked, bind_def]
  rcases eval_obtain intents (plan.obtains_loadInstance snapshotId) with
    ⟨e, hfail, hload⟩ | ⟨bound, s₁, hold, hloaded, hload⟩
  · rw [eval_bind_ok hload, eval_bind_ok (eval_manager_passive (passive_deleteSnapshot ..) ..)]
    simp only [Except.mapError, forgetState, perform, bind_def, effect_bind,
      perform_bind, pure_def, ret_bind, eval_perform, handle]
    rw [eval_bind_ok (releaseSlot_eval ..)]
    exact .abandoned _ _ (abandoned_slotReleased ctx s intents) (by simp [hleak, hfail])
  · rw [eval_bind_ok hload, eval_bind_ok (eval_manager_passive (passive_deleteSnapshot ..) ..)]
    refine hold.outcome_startForked ?_
    simp [hleak, hloaded]

theorem passive_captureInstance (plan : ForkPlan) (config : Manager.Config) :
    Manager.Passive (plan.captureInstance config) :=
  passive_checkpointInstanceCorrelated _

theorem outcome_captureForked (intents : Table String Json) (hexp : plan.Exported env state)
    (hann : env.answer (.saveIntent .exported plan.intentId (plan.exportedIntent state)) =
      .ok ()) (hprov : plan.provider = .ok (providerId, key)) :
    Outcome ctx plan.runtimeId (ForkLeaks config env ctx plan s) s
      ((captureForked config ctx plan providerId key state).eval (handle config env)
        (s.withIntents intents)) := by
  simp only [captureForked, bind_def]
  rw [eval_bind_ok (eval_manager_passive (passive_captureInstance plan _) ..)]
  split
  next e hfail =>
    have hfail : ∀ snapshot, ((plan.captureInstance (config.managers key)).eval (Manager.handle
        (config.managers key) (env.managerAnswers key .capture)) (s.managers key)).1 ≠
          .ok snapshot := ne_ok_of_mapError hfail
    simp only [forgetState, perform, bind_def, effect_bind, perform_bind,
      pure_def, ret_bind, eval_perform, handle]
    rw [eval_bind_ok (releaseSlot_eval ..)]
    refine .abandoned _ _ (abandoned_slotReleased ctx s intents) ?_
    simp [forkLeaks_iff, captured_iff, exported_iff, hexp.exported, hexp.prepared.unprepared_iff,
      hann, hprov, hfail]
  next snapshot hsnap =>
    rw [mapError_eq_ok] at hsnap
    have hcapt : plan.Captured config env s state providerId key snapshot :=
      ⟨hexp, hann, hprov, hsnap⟩
    simp only [perform, effect_bind, eval_perform]
    rcases handle_saveIntent config env (s.withIntents intents) .captured plan.intentId
      (plan.capturedIntent state snapshot) with ⟨⟨u, hok⟩, intents', hint⟩ | ⟨e, herror, hint⟩
    · rw [capturedIntent] at hint
      rw [hint]
      refine outcome_loadForked intents' ?_
      simp [forkLeaks_iff, captured_iff, exported_iff, hexp.exported, hexp.prepared,
        hexp.prepared.unprepared_iff, hann, hprov, hcapt.captured, hok]
    · rw [capturedIntent] at hint
      rw [hint]
      refine outcome_slotKept intents e ?_
      simp [forkLeaks_iff, captured_iff, exported_iff, hexp.exported, hexp.prepared,
        hexp.prepared.unprepared_iff, hann, hprov, hcapt.captured, herror]

theorem outcome_exportForked (intents : Table String Json) (hprep : plan.Prepared env) :
    Outcome ctx plan.runtimeId (ForkLeaks config env ctx plan s) s
      ((exportForked config ctx plan).eval (handle config env) (s.withIntents intents)) := by
  simp only [exportForked, perform, bind_def, effect_bind, eval_perform, handle]
  split
  next e hfail =>
    have hfail := ne_ok_of_mapError hfail
    rw [eval_bind_ok (releaseSlot_eval ..)]
    refine .abandoned _ _ (abandoned_slotReleased ctx s intents) ?_
    simp [forkLeaks_iff, captured_iff, exported_iff, hprep.unprepared_iff, hfail]
  next state hstate =>
    rw [mapError_eq_ok] at hstate
    have hexp : plan.Exported env state := ⟨hprep, hstate⟩
    rw [eval_perform]
    rcases handle_saveIntent config env (s.withIntents intents) .exported plan.intentId
      (plan.exportedIntent state) with ⟨⟨u, hok⟩, intents', hint⟩ | ⟨e, herror, hint⟩
    · rw [exportedIntent] at hint
      rw [hint]
      cases hprov : plan.provider with
      | error error =>
        simp only [orFail, ret_bind, forgetState, perform, bind_def,
          effect_bind, perform_bind, pure_def, eval_perform, handle]
        rw [eval_bind_ok (releaseSlot_eval ..)]
        refine .abandoned _ _ (abandoned_slotReleased ctx s intents') ?_
        simp [forkLeaks_iff, captured_iff, exported_iff, hprep.unprepared_iff, hstate, hok, hprov]
      | ok provider => exact outcome_captureForked intents' hexp hok hprov
    · rw [exportedIntent] at hint
      rw [hint]
      refine outcome_slotKept intents e ?_
      simp [forkLeaks_iff, captured_iff, exported_iff, hprep, hprep.unprepared_iff, hstate, herror]

/-- A fork with its slot either publishes, gives everything back, or leaks. -/
theorem outcome_forkReserved (config env ctx plan s) :
    Outcome ctx plan.runtimeId (ForkLeaks config env ctx plan s) s
      ((forkReserved config ctx plan).eval (handle config env) s) := by
  simp only [forkReserved, perform, bind_def]
  split
  next hnamed =>
    simp only [effect_bind, eval_perform]
    rcases handle_saveIntent config env s .prepare plan.intentId
      (plan.intent ("request:" ++ plan.intentId) []) with
      ⟨⟨u, hok⟩, intents, hint⟩ | ⟨e, herror, hint⟩
    · rw [hint]
      exact outcome_exportForked intents (.inr hok)
    · rw [hint]
      have hunprepared : ¬ plan.Prepared env := by simp [ForkPlan.Prepared, hnamed, herror]
      refine outcome_slotKept s.store.snapshotOperations e ?_
      simp [forkLeaks_iff, captured_iff, exported_iff, hunprepared, hnamed, herror]
  next hunnamed =>
    exact outcome_exportForked s.store.snapshotOperations (.inl (not_not.mp hunnamed))

end XGovernor.App
