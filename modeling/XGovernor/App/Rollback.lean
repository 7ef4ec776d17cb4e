import XGovernor.App.Creation

/-!
# Failed creations

Which failures of `open`, `load_checkpoint` and `fork` give back the slot and the instance, and
which do not.  An `open` and a load hold their slot from the admission on, and an instance from the
moment its manager has registered it; each lemma says how the call ends from one such point.
-/

namespace XGovernor.App

open Domain Joint Manager Lib Prog

variable {config : Config} {env : Env} {ctx : SecurityContext} {s s₁ s' : State}
  {key runtimeId owner : String} {bound : BoundInstance}
variable {request : SessionLoadRequest} {admission : OpenAdmission} {leak : Prop}
  {checkpoint : CheckpointRecord} {registration : RuntimeRegistration}

/-! ## Residue -/

/-- **Rolled back**: the slots are as before, and every registered instance was registered before
or its deletion has failed and it is queued. -/
structure RolledBack (s s' : State) : Prop where
  slots : s'.tenantSessions = s.tenantSessions
  instances : NoNewInstance s s'

theorem slotReserved_managers (s : State) (ctx) : (s.slotReserved ctx).managers = s.managers := by
  unfold State.slotReserved
  split <;> rfl

theorem slotReleased_slotReserved (s : State) (ctx) :
    ((s.slotReserved ctx).slotReleased ctx).tenantSessions = s.tenantSessions := by
  unfold State.slotReleased State.slotReserved
  cases ctx.tenantId with
  | none => rfl
  | some tenant => simp [State.releaseTenantSession]

theorem Abandoned.rolledBack (h : Abandoned ctx (s.slotReserved ctx) s') : RolledBack s s' where
  slots := h.slots.trans (slotReleased_slotReserved s ctx)
  instances := by
    intro key runtimeId bound hbound
    simpa only [slotReserved_managers] using h.instances key runtimeId bound hbound

theorem Residue.not_rolledBack (h : Residue ctx (s.slotReserved ctx) s') :
    ¬ RolledBack s s' := by
  intro hback
  cases h with
  | slot tenant slots =>
    obtain ⟨tenant, hten⟩ := Option.isSome_iff_exists.mp tenant
    have hcount := congrFun (slots.symm.trans hback.slots) tenant
    simp [State.slotReserved, hten] at hcount
  | instance_ key runtimeId bound free registered unqueued =>
    rw [slotReserved_managers] at free unqueued
    rcases hback.instances _ _ _ registered with hold | hqueued
    · cases free.symm.trans hold
    · simp [unqueued] at hqueued

/-- The instance of a session that is not given up stays registered. -/
theorem Holding.residue (hold : Holding owner s s₁ key runtimeId bound)
    (hman : s'.managers = s₁.managers) : Residue ctx s s' := by
  obtain ⟨intents, rfl⟩ := hold.state
  refine .instance_ key runtimeId bound hold.free ?_ ?_ <;>
    rw [hman] <;>
    simp [State.withManager, Manager.State.admitted, Manager.State.registered,
      Manager.State.tracked]

/-! ## Opening -/

/-- An `open` that has its slot keeps it when no provider can be selected. -/
structure OpenLeaks (env : Env) (ctx : SecurityContext) (request : SessionOpenRequest)
    (admission : OpenAdmission) (runtimeId : String) : Prop where
  tenant : ctx.tenantId.isSome
  probed : env.answer (.runtime admission.kind .probe (.probeLlm
    (openedStart request admission runtimeId))) = .ok ()
  unselected : ∃ e, providerForRequest admission.registration request = .error e

section

variable {request : SessionOpenRequest} {now : Nat}
  (hold : Holding owner s s₁ key runtimeId bound) (hclean : ¬ leak)
include hold hclean

theorem Holding.outcome_publishOpened (snapshot : OpaqueRuntimeState × Option ResolvedLlm) :
    Outcome ctx runtimeId leak s ((publishOpened config ctx request admission key
      runtimeId now snapshot).eval (handle config env) s₁) := by
  simp only [publishOpened, perform, bind_def, effect_bind, eval_perform]
  rcases hold.save_cases config env (openedRecord ctx request admission runtimeId now snapshot)
    with ⟨-, s₂, hhandle, hpub, -⟩ | ⟨-, e, hhandle⟩
  · rw [hhandle]
    dsimp only
    split
    · exact .published _ _ ⟨rfl, rfl, rfl, rfl⟩ hpub hclean
    · exact .published _ _ ⟨rfl, rfl, rfl, rfl⟩ hpub hclean
  · rw [hhandle]
    exact hold.outcome_abandonRuntime hclean runtimeId admission.kind e

theorem Holding.outcome_startOpened (backend) :
    Outcome ctx runtimeId leak s ((startOpened config ctx request admission key
      (openedStart request admission runtimeId) now backend).eval (handle config env) s₁) := by
  simp only [startOpened, perform, bind_def, effect_bind, eval_perform, handle]
  split
  · exact hold.outcome_abandonInstance hclean runtimeId _
  · rw [eval_bind_ok (exportRuntimeSnapshot_eval ..)]
    split
    · exact hold.outcome_publishOpened hclean _
    · exact hold.outcome_publishOpened hclean _
    · exact hold.outcome_abandonRuntime hclean runtimeId admission.kind _

end

/-- An `open` with its slot either publishes, gives everything back, or leaks. -/
theorem outcome_openReserved (config env ctx request admission runtimeId s) :
    Outcome ctx runtimeId (OpenLeaks env ctx request admission runtimeId) s
      ((openReserved config ctx request admission runtimeId).eval (handle config env) s) := by
  simp only [openReserved, perform, bind_def, effect_bind, eval_perform, handle]
  split
  next e hfail =>
    rw [eval_bind_ok (releaseSlot_eval ..)]
    exact .abandoned _ _ (abandoned_slotReleased ctx s s.store.snapshotOperations)
      fun hleaks => ne_ok_of_mapError hfail _ hleaks.probed
  next probed hprobed =>
    rw [mapError_eq_ok] at hprobed
    simp only [eval_perform, handle]
    cases hprov : providerForRequest admission.registration request with
    | error e =>
      exact outcome_slotKept s.store.snapshotOperations e
        ⟨OpenLeaks.tenant, fun hten => ⟨hten, hprobed, e, hprov⟩⟩
    | ok provider =>
      have hclean : ¬ OpenLeaks env ctx request admission runtimeId := by
        rintro ⟨-, -, e, herror⟩
        cases hprov.symm.trans herror
      dsimp only [orFail, ret_bind]
      rcases eval_obtain s.store.snapshotOperations (obtains_openInstance admission) with
        ⟨e, -, hstart⟩ | ⟨bound, s₁, hold, -, hstart⟩
      · rw [eval_bind_ok (s := s) hstart]
        dsimp only [Except.mapError]
        rw [eval_bind_ok (releaseSlot_eval ..)]
        exact .abandoned _ _ (abandoned_slotReleased ctx s s.store.snapshotOperations)
          hclean
      · rw [eval_bind_ok (s := s) hstart]
        exact hold.outcome_startOpened hclean bound.backend

/-! ## Loading -/

/-- The exits of a `load_checkpoint` with its slot that give nothing back. -/
@[mk_iff] inductive LoadLeaks (config : Config) (env : Env) (ctx : SecurityContext)
    (request : SessionLoadRequest) (checkpoint : CheckpointRecord)
    (registration : RuntimeRegistration) (runtimeId : String) (s : State) : Prop where
  | unselected {e} (tenant : ctx.tenantId.isSome)
      (provider : providerForIsolation registration checkpoint.isolation = .error e)
  | unannounced {providerId key e} (tenant : ctx.tenantId.isSome)
      (provider : providerForIsolation registration checkpoint.isolation = .ok (providerId, key))
      (intent : env.answer (.saveIntent .prepare ("load:" ++ runtimeId)
        (loadIntent checkpoint providerId runtimeId)) = .error e)
  | undeleted {providerId key bound snapshot e}
      (provider : providerForIsolation registration checkpoint.isolation = .ok (providerId, key))
      (intent : env.answer (.saveIntent .prepare ("load:" ++ runtimeId)
        (loadIntent checkpoint providerId runtimeId)) = .ok ())
      (loaded : (loadInstance ctx checkpoint providerId runtimeId).eval
        (Manager.handle (config.managers key) (env.managerAnswers key .start)) (s.managers key) =
          (.ok bound.backend, (s.managers key).admitted runtimeId ctx.ownerRef bound))
      (started : env.answer (.runtime checkpoint.runtimeState.runtimeKind .start (.start
        (loadedStart ctx request checkpoint runtimeId) bound.backend)) = .ok ())
      (exported : env.snapshot checkpoint.runtimeState.runtimeKind runtimeId = .ok snapshot)
      (saved : Saves env .publish s.store
        (loadedRecord ctx request checkpoint runtimeId (env.answer (.now .publish)) snapshot))
      (deleted : env.answer (.deleteIntent ("load:" ++ runtimeId)) = .error e)

section

variable {intentId : String} (hold : Holding owner s s₁ key runtimeId bound)
include hold

theorem Holding.outcome_publishLoaded (snapshot : OpaqueRuntimeState × Option ResolvedLlm)
    (hleak : leak ↔ Saves env .publish s.store (loadedRecord ctx request checkpoint runtimeId
        (env.answer (.now .publish)) snapshot) ∧
      ∃ e, env.answer (.deleteIntent intentId) = .error e) :
    Outcome ctx runtimeId leak s ((publishLoaded ctx request checkpoint key runtimeId intentId
      snapshot).eval (handle config env) s₁) := by
  simp only [publishLoaded, perform, bind_def, effect_bind, eval_perform]
  have hnow : handle config env s₁ (.now .publish) = (env.answer (.now .publish), s₁) := rfl
  rw [hnow]
  rcases hold.save_cases config env (loadedRecord ctx request checkpoint runtimeId
    (env.answer (.now .publish)) snapshot) with
    ⟨hsaves, s₂, hhandle, hpub, hman⟩ | ⟨hsaves, e, hhandle⟩
  · rw [hhandle]
    dsimp only [eval_perform]
    rcases handle_deleteIntent config env s₂ intentId with
      ⟨⟨u, hok⟩, intents, hdelete⟩ | ⟨e, herror, hdelete⟩
    · rw [hdelete]
      exact .published _ _ ⟨rfl, rfl, rfl, rfl⟩ (hpub.withIntents intents) (by simp [hleak, hok])
    · rw [hdelete]
      exact .leaked e s₂ (hleak.2 ⟨hsaves, e, herror⟩) (hold.residue hman)
  · rw [hhandle]
    exact hold.outcome_abandonRuntime (by simp [hleak, hsaves]) runtimeId _ e

theorem Holding.outcome_startLoaded (backend)
    (hleak : leak ↔ ∃ snapshot, (env.answer (.runtime checkpoint.runtimeState.runtimeKind .start
        (.start (loadedStart ctx request checkpoint runtimeId) backend)) = .ok () ∧
        env.snapshot checkpoint.runtimeState.runtimeKind runtimeId = .ok snapshot) ∧
      Saves env .publish s.store (loadedRecord ctx request checkpoint runtimeId
        (env.answer (.now .publish)) snapshot) ∧
      ∃ e, env.answer (.deleteIntent intentId) = .error e) :
    Outcome ctx runtimeId leak s ((startLoaded ctx request checkpoint key runtimeId intentId
      backend).eval (handle config env) s₁) := by
  simp only [startLoaded, perform, bind_def, effect_bind, eval_perform, handle]
  split
  next e hfail =>
    refine hold.outcome_abandonInstance (fun h => ?_) runtimeId _
    obtain ⟨_, ⟨hstarted, -⟩, -⟩ := hleak.1 h
    exact ne_ok_of_mapError hfail _ hstarted
  next started hstarted =>
    rw [mapError_eq_ok] at hstarted
    rw [eval_bind_ok (exportRuntimeSnapshot_eval ..)]
    split
    next e hsnap => exact hold.outcome_abandonRuntime (by simp [hleak, hsnap]) runtimeId _ _
    next snapshot hsnap =>
      exact hold.outcome_publishLoaded snapshot (by simp [hleak, hstarted, hsnap])

end

/-- A `load_checkpoint` with its slot either publishes, gives everything back, or leaks. -/
theorem outcome_loadReserved (config env ctx request checkpoint registration runtimeId s) :
    Outcome ctx runtimeId
      (LoadLeaks config env ctx request checkpoint registration runtimeId s) s
      ((loadReserved ctx request checkpoint registration runtimeId).eval
        (handle config env) s) := by
  simp only [loadReserved, perform, bind_def]
  cases hprov : providerForIsolation registration checkpoint.isolation with
  | error e =>
    exact outcome_slotKept s.store.snapshotOperations e (by simp [loadLeaks_iff, hprov])
  | ok provider =>
    obtain ⟨providerId, key⟩ := provider
    simp only [orFail, ret_bind, effect_bind, eval_perform]
    rcases handle_saveIntent config env s .prepare ("load:" ++ runtimeId)
      (loadIntent checkpoint providerId runtimeId) with
      ⟨⟨u, hok⟩, intents, hint⟩ | ⟨e, herror, hint⟩
    · rw [hint]
      dsimp only [ret_bind]
      rcases eval_obtain intents (obtains_loadInstance checkpoint) with
        ⟨e, hfail, hload⟩ | ⟨bound, s₁, hold, hloaded, hload⟩
      · rw [eval_bind_ok hload]
        dsimp only [Except.mapError]
        rw [eval_bind_ok (releaseSlot_eval ..)]
        refine .abandoned _ _ (abandoned_slotReleased ctx s intents) ?_
        simp [loadLeaks_iff, hprov, hok, hfail]
      · rw [eval_bind_ok hload]
        refine hold.outcome_startLoaded bound.backend ?_
        simp [loadLeaks_iff, hprov, hok, hloaded, and_assoc]
    · rw [hint]
      exact outcome_slotKept s.store.snapshotOperations e
        (by simp [loadLeaks_iff, hprov, herror])

end XGovernor.App
