import XGovernor.App.Creation

/-!
# What the calls may do

For an arbitrary condition on effects, the calls of the application satisfy it once a few rules
hold: one for each kind of write that a call makes to stored records.  The results below go
through all calls once, so that a property of all calls needs only its rules.
-/

namespace XGovernor.App

open Domain Joint Manager Lib Prog

variable {config : Config} {ctx : SecurityContext} {rely : (e : Effect) → e.Reply → Prop}
  {Q : Effect → (State → State) → Prop} {Own : SessionRecord → Prop} {runtimeId : String}

/-! ## Calls that use a session -/

section Using

section

variable (rules : CallRules ctx runtimeId rely Q Own)
include rules

theorem CallRules.runs_detach (lease) : (detach config ctx runtimeId lease).Runs rely Q := by
  refine rules.runs_requireSession_bind fun record _ => ?_
  split
  · exact rules.pass rfl fun _ => trivial
  · trivial

theorem CallRules.runs_heartbeat (lease) : (heartbeat config ctx runtimeId lease).Runs rely Q := by
  refine rules.runs_requireSession_bind fun record _ => ?_
  split
  · trivial
  · split
    · trivial
    · exact rules.pass rfl fun _ => .orFail fun _ =>
        rules.pass rfl fun _ => trivial

theorem CallRules.runs_cancel
    (turnId : Option String) : (cancel config ctx runtimeId turnId).Runs rely Q := by
  refine rules.runs_requireSession_bind fun record hown => ?_
  split
  next binding hjoint =>
    exact .orFail fun _ => rules.runs_jointContext_bind fun context hctx =>
      ⟨rules.owner hown (by rw [hjoint]; rfl) hctx, fun _ _ => runs_orFail _⟩
  next =>
    -- a turn that is named must be the active one
    extract_lets rest
    have hrest : ∀ u, (rest u).Runs rely Q := fun _ =>
      (rules.runs_ensureRuntimeAttached hown).bind fun _ => .orFail fun _ =>
        rules.pass rfl fun _ => runs_orFail _
    cases turnId with
    | none => exact hrest ()
    | some turnId =>
      exact rules.pass rfl fun active => .require hrest

end

theorem CallRules.runs_answerInteraction {request}
    (rules : CallRules ctx request.runtimeId rely Q Own) :
    (answerInteraction config ctx request).Runs rely Q :=
  rules.runs_requireSession_bind fun _ hown => .orFail fun _ =>
    (rules.runs_ensureRuntimeAttached hown).bind fun _ => .require fun _ =>
      .orFail fun _ => rules.pass rfl fun _ =>
        .orFail fun _ => trivial

/-! ### Turns -/

theorem CallRules.runs_startTurn {request}
    (rules : CallRules ctx request.runtimeId rely Q Own) (kind : String) :
    (startTurn request kind).Runs rely Q := by
  refine rules.pass rfl fun turnId => rules.pass rfl fun claimed => ?_
  cases claimed with
  | error active => trivial
  | ok _ =>
    refine rules.pass rfl fun submitted => ?_
    split
    · exact rules.pass rfl fun _ => trivial
    · split
      · exact rules.pass rfl fun _ => rules.pass rfl fun _ => trivial
      · exact rules.pass rfl fun _ => trivial

theorem CallRules.runs_submitTurn {request} (rules : CallRules ctx request.runtimeId rely Q Own) :
    (submitTurn config ctx request).Runs rely Q := by
  refine rules.runs_requireSession_bind fun record hown => ?_
  split
  next binding hjoint =>
    -- a joint turn is the business of its owner, who gets a context of the session
    refine (rules.runs_checkLeaseHolder _ _).bind fun _ => .orFail fun _ => ?_
    refine rules.runs_jointContext_bind fun context hctx => rules.pass rfl fun turnId =>
      ⟨rules.owner hown (by rw [hjoint]; rfl) hctx, fun submitted _ => ?_⟩
    refine .orFail fun submitted => ?_
    split
    · exact rules.pass rfl fun _ => rules.pass rfl fun _ => trivial
    · trivial
  next =>
    refine .orFail fun _ => .orFail fun _ => ?_
    refine (rules.runs_ensureRuntimeAttached hown).bind fun _ => ?_
    refine (rules.runs_checkLeaseHolder _ _).bind fun _ => .require fun _ =>
      .require fun _ => ?_
    split
    · refine rules.pass rfl fun replayed => ?_
      cases replayed with
      | some turnId => trivial
      | none => exact rules.runs_startTurn _
    · exact rules.runs_startTurn _

/-! ### Operations in the sandbox -/

section

variable (rules : CallRules ctx runtimeId rely Q Own)
include rules

theorem CallRules.runs_operationBackend (lease capability) {α : Type}
    {rest : OperationBackend → AppM α} (hrest : ∀ backend, (rest backend).Runs rely Q) :
    (operationBackend config ctx runtimeId lease capability rest).Runs rely Q :=
  rules.runs_requireSession_bind fun _ _ => .orFail fun _ =>
    (rules.runs_checkLeaseHolder _ _).bind fun _ => .orFail fun _ =>
      rules.runs_claimOperation <| .orFail fun _ => .orFail
        fun _ => (rules.runs_manager Manager.passive_backendFor _ rfl).bind fun _ =>
          .orFail hrest

theorem CallRules.runs_jointHostAccess (lease capability request)
    {α : Type} {rest : SessionRecord → AppM α}
    (hrest : ∀ record, Own record → record.executionBacking.joint.isSome →
      (rest record).Runs rely Q) :
    (jointHostAccess config ctx runtimeId lease capability request rest).Runs rely Q := by
  refine rules.runs_requireSession_bind fun record hown => ?_
  refine (rules.runs_checkLeaseHolder _ _).bind fun _ => .orFail fun _ =>
    .orFail fun _ => ?_
  split
  next => trivial
  next binding hjoint =>
    have hsome : record.executionBacking.joint.isSome := by rw [hjoint]; rfl
    exact .orFail fun _ => rules.runs_claimOperation <|
      rules.runs_jointContext_bind fun context hctx =>
        ⟨rules.owner hown hsome hctx, fun _ _ => .orFail fun _ =>
          hrest record hown hsome⟩

theorem CallRules.runs_resolveCwd (backend) (cwd : Option String) :
    (resolveCwd backend cwd).Runs rely Q := by
  cases cwd with
  | none => trivial
  | some rawPath => exact rules.pass rfl fun _ => runs_orFail _

end

theorem CallRules.runs_exec {request : SessionExecRequest}
    (rules : CallRules ctx request.runtimeId rely Q Own) :
    (exec config ctx request).Runs rely Q := by
  refine rules.runs_requireSession_bind fun record _ => ?_
  split
  · exact rules.runs_jointHostAccess _ _ _ fun record hown hjoint =>
      ⟨rules.owner hown hjoint rfl, fun _ _ => runs_orFail _⟩
  · exact rules.runs_operationBackend _ _ fun backend => .require fun _ =>
      .orFail fun _ => (rules.runs_resolveCwd _ _).bind fun _ =>
        rules.pass rfl fun _ => runs_orFail _

theorem CallRules.runs_readFile {request : SessionFileReadRequest}
    (rules : CallRules ctx request.runtimeId rely Q Own) :
    (readFile config ctx request).Runs rely Q := by
  refine rules.runs_requireSession_bind fun record _ => ?_
  split
  · exact rules.runs_jointHostAccess _ _ _ fun record hown hjoint =>
      ⟨rules.owner hown hjoint rfl, fun _ _ => .orFail fun _ =>
        ⟨rules.owner hown hjoint rfl, fun _ _ => .orFail fun _ => trivial⟩⟩
  · exact rules.runs_operationBackend _ _ fun _ => rules.pass rfl fun _ =>
      .orFail fun _ => rules.pass rfl fun _ =>
        .orFail fun _ => trivial

theorem CallRules.runs_createParent (rules : CallRules ctx runtimeId rely Q Own)
    (request) (path : String) : (createParent request path).Runs rely Q := by
  unfold createParent
  split
  · trivial
  · exact rules.pass rfl fun _ => runs_orFail _

theorem CallRules.runs_writeFile {request : SessionFileWriteRequest}
    (rules : CallRules ctx request.runtimeId rely Q Own) :
    (writeFile config ctx request).Runs rely Q := by
  refine rules.runs_requireSession_bind fun record _ => ?_
  split
  · exact .orFail fun _ => rules.runs_jointHostAccess _ _ _
      fun record hown hjoint => ⟨rules.owner hown hjoint rfl, fun _ _ =>
        .orFail fun _ => ⟨rules.owner hown hjoint rfl, fun _ _ =>
          .orFail fun _ => trivial⟩⟩
  · exact rules.runs_operationBackend _ _ fun _ => .orFail fun _ =>
      rules.pass rfl fun _ => .orFail fun _ =>
        (rules.runs_createParent _ _).bind fun _ => rules.pass rfl fun _ =>
          .orFail fun _ => trivial

end Using

/-! ## Checkpoints -/

section Checkpoints

section

variable (rules : CallRules ctx runtimeId rely Q Own)
include rules

theorem CallRules.runs_manager_passive {α : Type}
    {p : ManagerM α} (hp : Manager.Passive p) (key : String) (site) :
    (manager key site p).Runs rely Q :=
  App.runs_manager_passive hp fun _ he => rules.neutral _ rfl he

theorem CallRules.runs_recheckSource (source key closed inactive : String) :
    (recheckSource source key closed inactive).Runs rely Q :=
  rules.pass rfl fun _ => .orFail fun _ =>
    .require fun _ =>
      (rules.runs_manager_passive passive_inspectInstance _ _).bind fun _ =>
        .orFail fun _ => runs_require _ _

theorem CallRules.runs_checkpointSplit {request : SessionCheckpointRequest}
    (hsave : ∀ checkpoint, Q (.saveCheckpoint checkpoint) id) (record registration) :
    (checkpointSplit config ctx request record registration).Runs rely Q := by
  refine .orFail fun provider => rules.pass rfl fun fresh =>
    rules.pass rfl fun _ => .orFail fun _ =>
      rules.pass rfl fun exported => .orFail fun state =>
        rules.pass rfl fun _ => .orFail fun _ => ?_
  refine (rules.runs_manager_passive (passive_checkpointInstanceCorrelated _) _ _).bind
    fun captured => ?_
  split
  · exact rules.pass rfl fun _ => trivial
  · refine rules.pass rfl fun _ => .orFail fun _ =>
      rules.pass rfl fun _ => (rules.runs_recheckSource _ _ _ _).bind fun _ =>
        rules.pass rfl fun now => ⟨hsave _, fun saved _ => ?_⟩
    cases saved with
    | error error =>
      exact rules.pass rfl fun _ =>
        (rules.runs_manager_passive (passive_deleteSnapshot _ _) _ _).bind fun _ => trivial
    | ok _ =>
      exact rules.pass rfl fun _ => .orFail fun _ => trivial

theorem CallRules.runs_checkpointJoint
    {record binding} (hown : Own record) (hjoint : record.executionBacking.joint.isSome) :
    (checkpointJoint config ctx record binding).Runs rely Q :=
  .orFail fun _ => rules.pass rfl fun _ =>
    rules.runs_jointContext_bind fun _ hctx => ⟨rules.owner hown hjoint hctx, fun _ _ =>
      .orFail fun _ => .orFail fun _ =>
        .require fun _ => rules.pass rfl fun _ =>
          .orFail fun _ => .require fun _ => trivial⟩

end

theorem CallRules.runs_checkpoint {request} (rules : CallRules ctx request.runtimeId rely Q Own)
    (hback : ∀ {old new : SessionRecord}, Own old → WritesBack old new → Own new)
    (hsave : ∀ checkpoint, Q (.saveCheckpoint checkpoint) id) :
    (checkpoint config ctx request).Runs rely Q := by
  refine rules.pass rfl fun found => .orFail fun found => ?_
  extract_lets rest
  have hrest : ∀ u, (rest u).Runs rely Q := by
    intro u
    refine rules.runs_requireSession_bind fun record hown => ?_
    refine (rules.runs_checkLeaseHolder _ _).bind fun _ => rules.runs_claimOperation ?_
    refine .require fun _ =>
      (rules.runs_ensureRuntimeAttached hown).bind fun _ => ?_
    refine rules.runs_refresh_bind hown fun new hnew => .require fun _ =>
      .orFail fun _ => .require fun _ => ?_
    split
    next binding hjoint =>
      exact rules.runs_checkpointJoint (hback hown hnew) (by rw [hjoint]; rfl)
    next => exact rules.runs_checkpointSplit hsave _ _
  split
  · exact hrest ()
  · exact rules.pass rfl hrest

end Checkpoints

/-! ## Closing -/

/-- The rules of a call that closes a session: its last write is a closed record, and it may
destroy the instance and give back the slot. -/
structure CloseRules (ctx : SecurityContext) (runtimeId : String)
    (rely : (e : Effect) → e.Reply → Prop) (Q : Effect → (State → State) → Prop)
    (Own : SessionRecord → Prop) : Prop extends LookupRules ctx runtimeId rely Q Own where
  destroy : ∀ key e (undo : Manager.State → Manager.State),
    Q (.manager key .finalize e) fun s => s.withManager key (undo (s.managers key))
  closed : ∀ {old new : SessionRecord}, Own old → new.runtimeId = old.runtimeId →
    new.tenantId = old.tenantId → new.executionBacking = old.executionBacking →
    new.status = .closed → Q (.saveSession .finalize new) id
  slot : ∀ tenant, Q (.releaseTenantSession tenant) id

section Closing

variable {record : SessionRecord}

section

variable (rules : CloseRules ctx runtimeId rely Q Own)
include rules

theorem CloseRules.runs_forgetClosed :
    (forgetClosed config runtimeId).Runs rely Q := by
  dsimp only [forgetClosed]
  split
  · exact rules.pass rfl fun _ => rules.pass rfl fun _ => trivial
  · exact rules.pass rfl fun _ => trivial

theorem CloseRules.runs_destroyInstance (registration record) :
    (destroyInstance registration record runtimeId).Runs rely Q := by
  unfold destroyInstance
  split
  · refine Prog.Runs.bind (Embedding.runs_lift ?_ (runs_true _)).attempt
      fun _ => runs_orFail _
    exact fun e _ _ => rules.destroy _ e _
  · trivial

theorem CloseRules.runs_recordClosed (hown : Own record) (note : Option String) :
    (recordClosed config record runtimeId note).Runs rely Q := by
  refine rules.pass rfl fun now => ⟨rules.closed hown rfl rfl rfl rfl, fun _ _ =>
    .orFail fun _ => rules.runs_forgetClosed.bind fun _ => ?_⟩
  split
  · exact ⟨rules.slot _, fun _ _ => trivial⟩
  · trivial

theorem CloseRules.runs_finalizeClosedSession (hown : Own record) (note : Option String) :
    (finalizeClosedSession config ctx record runtimeId note).Runs rely Q := by
  unfold finalizeClosedSession
  split
  next binding hjoint =>
    exact .orFail fun _ => rules.runs_jointContext_bind fun context hctx =>
      ⟨rules.owner hown (by rw [hjoint]; rfl) hctx, fun _ _ => .orFail
        fun _ => .orFail fun _ => .require fun _ =>
          rules.pass rfl fun _ => .orFail fun _ =>
            .require fun _ => rules.runs_forgetClosed.bind fun _ => trivial⟩
  next =>
    refine .orFail fun registration =>
      rules.pass rfl fun stopped => ?_
    split
    · exact (rules.runs_destroyInstance _ _).bind fun _ => rules.runs_recordClosed hown note
    · exact (rules.runs_destroyInstance _ _).bind fun _ => rules.runs_recordClosed hown note
    · trivial

theorem CloseRules.runs_close (lease) : (close config ctx runtimeId lease).Runs rely Q := by
  refine rules.pass rfl fun found => .orFail fun found => ?_
  extract_lets rest
  have hrest : ∀ u, (rest u).Runs rely Q := fun _ =>
    rules.runs_requireSession_bind fun record hown => (rules.runs_checkLeaseHolder _ _).bind
      fun _ => rules.runs_finalizeClosedSession hown none
  split
  · exact hrest ()
  · exact rules.pass rfl hrest

theorem CloseRules.runs_reclaim :
    (reclaim config ctx runtimeId).Runs rely Q := by
  refine rules.runs_requireSession_bind fun record hown => ?_
  split
  · trivial
  · exact rules.runs_finalizeClosedSession hown _

end

end Closing

/-! ## Forwarding -/

section Forwarding

theorem Discipline.runs_persistTerminal (rules : Discipline Q Own)
    (hread : ∀ {record : SessionRecord},
      rely (.getSession .forward runtimeId) (.ok (some record)) → Own record)
    (kind : String) (event) : (persistTerminal kind runtimeId event).Runs rely Q := by
  refine rules.step rfl fun exported => ?_
  extract_lets rest
  have hrest : ∀ state, (rest state).Runs rely Q := by
    intro state
    refine ⟨rules.passive _ rfl rfl, fun found hfound => ?_⟩
    rcases found with error | _ | record
    · trivial
    · trivial
    · have hopen : terminalStatus event ≠ .closed := by cases event <;> simp [terminalStatus]
      exact rules.step rfl fun _ => .orFail fun _ =>
        rules.step rfl fun _ =>
          ⟨rules.save rfl (hread hfound) ⟨rfl, rfl, rfl, fun h => absurd h hopen⟩, fun _ _ =>
            runs_orFail _⟩
  split
  · exact hrest _
  · exact hrest none
  · trivial

theorem Discipline.runs_drain (rules : Discipline Q Own) (index : Nat)
    (events : List RuntimeEvent) : (drain index events).Runs rely Q := by
  induction events generalizing index with
  | nil => exact rules.step rfl fun _ => trivial
  | cons event events ih => exact rules.step rfl fun _ => ih (index + 1)

/-- The task of a turn writes back the session it reads, and gives the gate back. -/
theorem Discipline.runs_forwardFrom (rules : Discipline Q Own) (hread : ∀ {record : SessionRecord},
      rely (.getSession .forward runtimeId) (.ok (some record)) → Own record)
    (hrel : ∀ session turnId, Q (.release session turnId) id) (kind turnId : String) (index : Nat)
    (events : List RuntimeEvent) :
    (forwardFrom kind runtimeId turnId index events).Runs rely Q := by
  induction events generalizing index with
  | nil =>
    exact rules.step rfl fun _ => rules.step rfl fun _ =>
      ⟨hrel _ _, fun _ _ => trivial⟩
  | cons event events ih =>
    refine rules.step rfl fun _ => ?_
    split
    · exact (rules.runs_persistTerminal hread kind event).attempt.bind fun _ =>
        ⟨hrel _ _, fun _ _ => rules.step rfl fun _ =>
          ⟨hrel _ _, fun _ _ => trivial⟩⟩
    · refine rules.step rfl fun delivered => ?_
      split
      · exact ih (index + 1)
      · exact rules.step rfl fun _ => (rules.runs_drain _ _).bind fun _ =>
          ⟨hrel _ _, fun _ _ => trivial⟩

end Forwarding

/-! ## Creating -/

/-- The rules of a creation: it may do anything to slots and instances, and it writes one record,
that of its new session. -/
structure CreateRules (ctx : SecurityContext) (runtimeId : String)
    (Q : Effect → (State → State) → Prop) : Prop where
  neutral : ∀ e : Effect, e.writesRecords = false → Q e id
  instances : ∀ key site e (undo : Manager.State → Manager.State),
    Q (.manager key site e) fun s => s.withManager key (undo (s.managers key))
  publish : ∀ {record : SessionRecord}, NewSession ctx runtimeId record →
    Q (.saveSession .publish record) id

section Creating

section

variable (rules : CreateRules ctx runtimeId Q)
include rules

variable {α : Type}

theorem CreateRules.pass {e : Effect} {f : e.Reply → AppM α}
    (hrecords : e.writesRecords = false) (hf : ∀ reply, (f reply).Runs rely Q) :
    ((perform e).bind f).Runs rely Q :=
  ⟨rules.neutral e hrecords, fun reply _ => hf reply⟩

theorem CreateRules.runs_manager
    (p : ManagerM α) (key : String) (site) : (manager key site p).Runs rely Q :=
  (Embedding.runs_lift (fun e _ _ => rules.instances key site e _) (runs_true p)).attempt

theorem CreateRules.runs_reserveSlot :
    (reserveSlot ctx).Runs rely Q := by
  unfold reserveSlot
  split
  · trivial
  · refine rules.pass rfl fun reserved => ?_
    cases reserved <;> trivial

theorem CreateRules.runs_releaseSlot_fail (error) :
    ((releaseSlot ctx).bind fun _ => (.fail error : AppM α)).Runs rely Q := by
  unfold releaseSlot
  split
  · trivial
  · exact rules.pass rfl fun _ => trivial

theorem CreateRules.runs_abandonInstance (key id : String) (error) :
    (abandonInstance ctx key id error : AppM α).Runs rely Q :=
  (rules.runs_manager _ key .rollback).bind fun _ => rules.runs_releaseSlot_fail error

theorem CreateRules.runs_abandonRuntime (kind key id : String) (error) :
    (abandonRuntime ctx kind key id error : AppM α).Runs rely Q :=
  rules.pass rfl fun _ => rules.runs_abandonInstance key id error

theorem CreateRules.runs_exportRuntimeSnapshot
    (kind id : String) : (exportRuntimeSnapshot kind id).Runs rely Q := by
  refine rules.pass rfl fun state => ?_
  cases state with
  | error error => trivial
  | ok state =>
    refine rules.pass rfl fun llm => ?_
    cases llm <;> trivial

theorem CreateRules.runs_publishOpened (request admission) (key : String) (now : Nat)
    (snapshot : OpaqueRuntimeState × Option ResolvedLlm) :
    (publishOpened config ctx request admission key runtimeId now snapshot).Runs rely Q := by
  refine ⟨rules.publish ⟨rfl, rfl, rfl, rfl⟩, fun saved _ => ?_⟩
  cases saved with
  | error error => exact rules.runs_abandonRuntime _ _ _ _
  | ok _ =>
    split
    · exact rules.pass rfl fun _ => trivial
    · trivial

theorem CreateRules.runs_openReserved (request admission) :
    (openReserved config ctx request admission runtimeId).Runs rely Q := by
  refine rules.pass rfl fun probed => ?_
  split
  · exact rules.runs_releaseSlot_fail _
  · refine rules.pass rfl fun now => .orFail fun provider =>
      (rules.runs_manager _ _ _).bind fun started => ?_
    split
    · exact rules.runs_releaseSlot_fail _
    · refine rules.pass rfl fun started => ?_
      split
      · exact rules.runs_abandonInstance _ _ _
      · refine (rules.runs_exportRuntimeSnapshot _ _).bind fun snapshot => ?_
        split
        · exact rules.runs_publishOpened _ _ _ _ _
        · exact rules.runs_publishOpened _ _ _ _ _
        · exact rules.runs_abandonRuntime _ _ _ _

theorem CreateRules.runs_loadReserved (request checkpoint registration) :
    (loadReserved ctx request checkpoint registration runtimeId).Runs rely Q := by
  refine .orFail fun provider => rules.pass rfl fun _ =>
    .orFail fun _ => (rules.runs_manager _ _ _).bind fun loaded => ?_
  split
  · exact rules.runs_releaseSlot_fail _
  · refine rules.pass rfl fun started => ?_
    split
    · exact rules.runs_abandonInstance _ _ _
    · refine (rules.runs_exportRuntimeSnapshot _ _).bind fun snapshot => ?_
      split
      · exact rules.runs_abandonRuntime _ _ _ _
      · refine rules.pass rfl fun now => ⟨rules.publish ⟨rfl, rfl, rfl, rfl⟩, fun saved _ => ?_⟩
        cases saved with
        | error error => exact rules.runs_abandonRuntime _ _ _ _
        | ok _ =>
          exact rules.pass rfl fun _ => .orFail fun _ => trivial

theorem CreateRules.runs_recheckSource
    (source key closed inactive : String) :
    (recheckSource source key closed inactive).Runs rely Q :=
  rules.pass rfl fun _ => .orFail fun _ =>
    .require fun _ => (rules.runs_manager _ _ _).bind fun _ =>
      .orFail fun _ => runs_require _ _

/-- A fork that gives up before it has an instance. -/
theorem CreateRules.runs_forgetState_fail (kind : String) (site state error) :
    ((forgetState kind site state).bind fun _ => (releaseSlot ctx).bind fun _ =>
      (.fail error : AppM α)).Runs rely Q :=
  rules.pass rfl fun _ => rules.runs_releaseSlot_fail error

end

variable {plan : ForkPlan}

section

variable (rules : CreateRules ctx plan.runtimeId Q)
include rules

theorem CreateRules.runs_loadForked (providerId key : String) (state) (snapshotId : String) :
    (loadForked ctx plan providerId key state snapshotId).Runs rely Q := by
  refine (rules.runs_manager _ _ _).bind fun loaded => (rules.runs_manager _ _ _).bind fun _ => ?_
  split
  · exact rules.runs_forgetState_fail _ _ _ _
  · refine rules.pass rfl fun started => ?_
    split
    · exact rules.pass rfl fun _ => rules.runs_abandonInstance _ _ _
    · refine rules.pass rfl fun _ =>
        (rules.runs_exportRuntimeSnapshot _ _).bind fun snapshot => ?_
      split
      · exact rules.runs_abandonRuntime _ _ _ _
      · refine rules.pass rfl fun _ => (rules.runs_recheckSource _ _ _ _).bind fun _ =>
          ⟨rules.publish ⟨rfl, rfl, rfl, rfl⟩, fun saved _ => ?_⟩
        cases saved with
        | error error => exact rules.runs_abandonRuntime _ _ _ _
        | ok _ => trivial

theorem CreateRules.runs_exportForked :
    (exportForked config ctx plan).Runs rely Q := by
  refine rules.pass rfl fun exported => ?_
  split
  · exact rules.runs_releaseSlot_fail _
  · refine rules.pass rfl fun _ => .orFail fun _ => ?_
    split
    · exact rules.runs_forgetState_fail _ _ _ _
    · refine (rules.runs_manager _ _ _).bind fun captured => ?_
      split
      · exact rules.runs_forgetState_fail _ _ _ _
      · exact rules.pass rfl fun _ => .orFail fun _ =>
          rules.runs_loadForked _ _ _ _

theorem CreateRules.runs_forkReserved :
    (forkReserved config ctx plan).Runs rely Q := by
  dsimp only [forkReserved, bind_def]
  split
  · exact rules.pass rfl fun _ => .orFail fun _ =>
      rules.runs_exportForked
  · exact rules.runs_exportForked

end

/-- The id a creation is about: the one that was asked for, or a generated one. -/
def Target (rely : (e : Effect) → e.Reply → Prop) (requested : Option String)
    (target : String) : Prop :=
  requested = some target ∨ (requested = none ∧ rely (.nextRuntimeId .target) target)

theorem runs_targetRuntimeId_bind {α : Type} {requested : Option String}
    {rest : String → AppM α} (hnext : Q (.nextRuntimeId .target) id)
    (hrest : ∀ target, Target rely requested target → (rest target).Runs rely Q) :
    ((targetRuntimeId requested).bind rest).Runs rely Q := by
  cases requested with
  | some target => exact hrest target (.inl rfl)
  | none => exact ⟨hnext, fun target htgt => hrest target (.inr ⟨rfl, htgt⟩)⟩

theorem CallRules.runs_fork {request : SessionForkRequest}
    (rules : CallRules ctx request.parentRuntimeId rely Q Own)
    (create : ∀ target, Target rely request.runtimeId target → CreateRules ctx target Q) :
    (fork config ctx request).Runs rely Q := by
  refine rules.pass rfl fun _ => rules.runs_requireSession_bind fun parent hown => ?_
  refine .orFail fun _ => (rules.runs_checkLeaseHolder _ _).bind fun _ =>
    rules.runs_claimOperation ?_
  refine (rules.runs_admitFork hown).bind fun admitted => ?_
  refine runs_targetRuntimeId_bind (rules.neutral _ rfl rfl) fun target htgt => ?_
  exact rules.pass rfl fun _ => (create target htgt).runs_reserveSlot.bind fun _ =>
    (create target htgt).runs_forkReserved

theorem Effect.writesRecords_of_passive {e : Effect} (he : e.passive = true) :
    e.writesRecords = false := by
  cases e <;> first | rfl | simp [Effect.passive] at he

/-- A `load_checkpoint` creates a session, or has the owner of the checkpoint create one. -/
theorem runs_loadCheckpoint {request : SessionLoadRequest}
    (neutral : ∀ e : Effect, e.writesRecords = false → e.keepsResources = true → Q e id)
    (howner : ∀ call : OwnerCall, ctx.owns call.tenantId = true → Q (.owner call) id)
    (create : ∀ target, Target rely request.runtimeId target → CreateRules ctx target Q) :
    (loadCheckpoint config ctx request).Runs rely Q := by
  refine ⟨neutral _ rfl rfl, fun _ _ => .orFail fun joint => ?_⟩
  extract_lets rest
  have hrest : ∀ u, (rest u).Runs rely Q := by
    intro u
    refine runs_targetRuntimeId_bind (neutral _ rfl rfl) fun target htgt => ?_
    have rules := create target htgt
    split
    · exact runs_loadJoint (fun e he _ => neutral e (Effect.writesRecords_of_passive he)
        (Effect.keepsResources_of_passive he)) howner _ _ _
    · refine Prog.Runs.bind ?_ fun admitted => rules.runs_loadReserved _ _ _
      refine rules.pass rfl fun found => .orFail fun found => ?_
      split
      · trivial
      · exact .orFail fun _ => .orFail fun _ => rules.runs_reserveSlot.bind fun _ => trivial
  split
  · exact hrest ()
  · exact ⟨neutral _ rfl rfl, fun u _ => hrest u⟩

/-- The rules of an `open`: those of a call on the session if there is one, and those of a creation
if there is none. -/
structure OpenRules (ctx : SecurityContext) (requested : Option String)
    (rely : (e : Effect) → e.Reply → Prop) (Q : Effect → (State → State) → Prop)
    (Own : SessionRecord → Prop) : Prop where
  neutral : ∀ e : Effect, e.writesRecords = false → e.keepsResources = true → Q e id
  owner : ∀ call : OwnerCall, call.tenantId = ctx.tenantId → Q (.owner call) id
  attach : ∀ {target}, Target rely requested target → CallRules ctx target rely Q Own
  create : ∀ {target}, Target rely requested target →
    rely (.getSession .lookup target) (.ok none) → CreateRules ctx target Q

theorem OpenRules.runs_openSession {request : SessionOpenRequest}
    (rules : OpenRules ctx request.runtimeId rely Q Own) :
    (openSession config ctx request).Runs rely Q := by
  refine runs_targetRuntimeId_bind (rules.neutral _ rfl rfl) fun target htgt => ?_
  refine .orFail fun _ => ⟨rules.neutral _ rfl rfl, fun found hfound => ?_⟩
  rcases found with error | _ | record
  · trivial
  · refine (runs_admitOpen config request (rules.neutral _ rfl rfl)).bind fun admission => ?_
    split
    · exact runs_openJoint (fun e he _ => rules.neutral e (Effect.writesRecords_of_passive he)
        (Effect.keepsResources_of_passive he)) rules.owner _ _ _ _
    · have create := rules.create htgt hfound
      exact create.runs_reserveSlot.bind fun _ => create.runs_openReserved _ _
  · have attach := rules.attach htgt
    exact attach.runs_reattach (attach.read hfound) request target

end Creating

end XGovernor.App
