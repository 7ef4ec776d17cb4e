import XGovernor.App.Snapshots

/-!
# Forking a session

A fork exports the state of its parent, takes a snapshot of the parent's instance, loads a new
instance from it and starts a runtime there; the parent is held at the gate meanwhile.  Before the
new session is published the parent is looked at once more.
-/

namespace XGovernor.App

open Domain Joint Manager Lib Prog

/-- `let _ = runtime.delete_checkpoint_state(..)`. -/
def forgetState (kind : String) (site : Site) (state : OpaqueRuntimeState) : AppM Unit := do
  let _ ← perform (.runtime kind site (.deleteCheckpointState state))
  pure ()

/-- What a fork carries from step to step. -/
structure ForkPlan where
  request : SessionForkRequest
  parent : SessionRecord
  registration : RuntimeRegistration
  runtimeId : String
  now : Nat

namespace ForkPlan

variable (plan : ForkPlan)

def kind : String := plan.parent.runtime.runtimeKind

def intentId : String := "fork:" ++ plan.runtimeId

def conversationId : String := plan.request.conversationId.getD plan.parent.conversationId

def senderId : String := plan.request.senderId.getD plan.parent.senderId

/-- The provider of the parent's instance and its manager. -/
def provider : Except SessionDomainError (String × String) :=
  providerForIsolation plan.registration plan.parent.isolation

/-- The provider an intent names: nothing if there is none. -/
def intentProvider : String :=
  match plan.provider with
  | .ok (providerId, _) => providerId
  | .error _ => ""

/-- The intent of the fork, with the exported state once there is one. -/
def intent (snapshot : String) (history : List (String × Json)) : Json :=
  .object (history ++ [("kind", .string "fork"), ("provider", .string plan.intentProvider),
    ("runtime_kind", .string plan.kind), ("snapshot", .string snapshot),
    ("source", .string plan.request.parentRuntimeId), ("target", .string plan.runtimeId)])

/-- The start request of the forked session. -/
def start (state : OpaqueRuntimeState) : RuntimeStartRequest where
  runtimeId := plan.runtimeId
  conversationId := plan.conversationId
  senderId := plan.senderId
  workspace := plan.parent.workspace
  state := some state
  llm := none
  ext := []

/-- The snapshot of the parent's instance. -/
def captureInstance (config : Manager.Config) : ManagerM ProviderSnapshot :=
  checkpointInstanceCorrelated config plan.request.parentRuntimeId
    (.object [("request_id", .string plan.intentId)])

/-- The instance of the forked session. -/
def loadInstance (ctx : SecurityContext) (providerId snapshotId : String) :
    ManagerM OperationBackend :=
  loadInstanceFromSnapshot plan.runtimeId providerId ctx.ownerRef snapshotId
    (providerOptions plan.parent.workspace plan.parent.isolation providerId)
    (sandboxLimit ctx.quota providerId)

/-- The record of the forked session. -/
def record (ctx : SecurityContext) (snapshot : OpaqueRuntimeState × Option ResolvedLlm) :
    SessionRecord where
  executionBacking := .splitV1
  runtimeId := plan.runtimeId
  conversationId := plan.conversationId
  senderId := plan.senderId
  status := .idle
  createdAtMs := plan.now
  updatedAtMs := plan.now
  workspace := plan.parent.workspace
  isolation := plan.parent.isolation
  capabilities := plan.parent.capabilities
  runtime := snapshot.1
  llm := snapshot.2.or plan.parent.llm
  lease := none
  lineage := some { parentRuntimeId := some plan.request.parentRuntimeId
                    sourceCheckpointId := none }
  lastError := none
  tenantId := ctx.tenantId
  createdBy := ctx.principal

end ForkPlan

variable (config : Config) (ctx : SecurityContext) (plan : ForkPlan)

/-- The last steps of a fork.  None of the failures of the second look at the parent undoes
anything. -/
def publishForked (key : String) (snapshot : OpaqueRuntimeState × Option ResolvedLlm) :
    AppM SessionOpenResponse := do
  perform .lockPublication
  recheckSource plan.request.parentRuntimeId key "parent closed during fork"
    "fork source is no longer active"
  match ← perform (.saveSession .publish (plan.record ctx snapshot)) with
  | .error error => abandonRuntime ctx plan.kind key plan.runtimeId error
  | .ok () => pure (projectSession (plan.record ctx snapshot))

/-- The runtime of a forked session on its instance. -/
def startForked (key : String) (state : OpaqueRuntimeState) (backend : OperationBackend) :
    AppM SessionOpenResponse := do
  let started : Except RuntimeError Unit ←
    perform (.runtime plan.kind .start (.start (plan.start state) backend))
  match started.mapError mapRuntimeError with
  | .error error => do
    forgetState plan.kind .unstarted state
    abandonInstance ctx key plan.runtimeId error
  | .ok () => do
    forgetState plan.kind .discard state
    match ← exportRuntimeSnapshot plan.kind plan.runtimeId with
    | .error error => abandonRuntime ctx plan.kind key plan.runtimeId error
    | .ok snapshot => publishForked ctx plan key snapshot

/-- The new instance; the snapshot it was loaded from is deleted in any case. -/
def loadForked (providerId key : String) (state : OpaqueRuntimeState) (snapshotId : String) :
    AppM SessionOpenResponse := do
  let loaded ← manager key .start (plan.loadInstance ctx providerId snapshotId)
  let _ ← manager key .discard (deleteSnapshot providerId snapshotId)
  match loaded.mapError mapProviderError with
  | .error error => do
    forgetState plan.kind .unloaded state
    releaseSlot ctx
    .fail error
  | .ok backend => startForked ctx plan key state backend

/-- The snapshot of the parent's instance. -/
def captureForked (providerId key : String) (state : OpaqueRuntimeState) :
    AppM SessionOpenResponse := do
  match (← manager key .capture (plan.captureInstance (config.managers key))).mapError
      mapProviderError with
  | .error error => do
    forgetState plan.kind .uncaptured state
    releaseSlot ctx
    .fail error
  | .ok snapshot => do
    orFail (← perform (.saveIntent .captured plan.intentId
      (plan.intent snapshot.snapshotId [("history", stateJson state)])))
    loadForked ctx plan providerId key state snapshot.snapshotId

/-- The export of the parent's state, and what follows. -/
def exportForked : AppM SessionOpenResponse := do
  let exported : Except RuntimeError OpaqueRuntimeState ←
    perform (.runtime plan.kind .exported (.exportCheckpointState plan.request.parentRuntimeId))
  match exported.mapError mapRuntimeError with
  | .error error => do
    releaseSlot ctx
    .fail error
  | .ok state => do
    orFail (← perform (.saveIntent .exported plan.intentId
      (plan.intent ("request:" ++ plan.intentId) [("history", stateJson state)])))
    match plan.provider with
    | .error error => do
      forgetState plan.kind .unprovided state
      releaseSlot ctx
      .fail error
    | .ok (providerId, key) => captureForked config ctx plan providerId key state

/-- A fork after its slot is reserved.  No failure to save an intent gives the slot back. -/
def forkReserved : AppM SessionOpenResponse := do
  if plan.intentProvider ≠ "" then do
    orFail (← perform (.saveIntent .prepare plan.intentId
      (plan.intent ("request:" ++ plan.intentId) [])))
  else
    pure ()
  exportForked config ctx plan

/-- The checks of a fork on its parent. -/
def admitFork (parent : SessionRecord) : AppM (SessionRecord × RuntimeRegistration) := do
  require (parent.capabilities.runtime.contains .stateExport)
    (unsupportedRuntimeCapability "state_export")
  ensureRuntimeAttached config parent
  let parent ← refreshDockerSnapshotCapabilities config parent
  let registration ← orFail (registrationForRecord config parent)
  require (parent.capabilities.runtime.contains .fork &&
    parent.capabilities.sandbox.contains .snapshot) (unsupportedRuntimeCapability "fork")
  pure (parent, registration)

/-- The part of a fork during which its parent is held. -/
def forkHeld (request : SessionForkRequest) (parent : SessionRecord) :
    AppM SessionOpenResponse := do
  let (parent, registration) ← admitFork config parent
  let runtimeId ← targetRuntimeId request.runtimeId
  let now : Nat ← perform (.now .publish)
  reserveSlot ctx
  forkReserved config ctx { request, parent, registration, runtimeId, now }

/-- `fork`. -/
def fork (request : SessionForkRequest) : AppM SessionOpenResponse := do
  perform .lockTransactions
  let parent ← requireSession ctx .lookup request.parentRuntimeId
  orFail (rejectJointResource parent "fork")
  checkLeaseHolder config request.parentRuntimeId request.lease
  claimOperation request.parentRuntimeId (forkHeld config ctx request parent)

end XGovernor.App
