import XGovernor.App.Open

/-!
# Checkpoints, loading and forking

A checkpoint of a split session is an exported runtime state with a provider snapshot; loading one
and forking a session both create a new session from such a pair.  Every step that leaves something
behind at a provider is announced in the store by an intent first.
-/

namespace XGovernor.App

open Domain Joint Manager Lib Prog

variable (config : Config) (ctx : SecurityContext)

/-! ## Shared steps -/

/-- The JSON form of an exported state. -/
def stateJson (state : OpaqueRuntimeState) : Json :=
  .object [("runtime_kind", .string state.runtimeKind), ("schema_version",
    .number state.schemaVersion), ("state", state.state)]

/-- The capabilities of a Docker session, as its instance reports them. -/
def refreshedCapabilities (capabilities : EffectiveCapabilities) (snapshots : Bool) :
    EffectiveCapabilities :=
  let sandbox := if snapshots then insertCapability capabilities.sandbox .snapshot
    else capabilities.sandbox.filter (· ≠ .snapshot)
  let runtime := if .snapshot ∈ sandbox ∧ .stateExport ∈ capabilities.runtime then
      insertCapability (insertCapability capabilities.runtime .checkpoint) .fork
    else capabilities.runtime.filter fun c => c ≠ .checkpoint ∧ c ≠ .fork
  { sandbox, runtime }

/-- `refresh_docker_snapshot_capabilities`: the record as it was read, with new capabilities. -/
def refreshDockerSnapshotCapabilities (record : SessionRecord) : AppM SessionRecord :=
  if record.executionBacking.joint.isSome ∨
      providerIdFromMetadata record.isolation.metadata ≠ some "docker" then
    pure record
  else do
    let registration ← orFail (registrationForRecord config record)
    let (_, key) ← orFail (providerForIsolation registration record.isolation)
    let status ← orFail
      ((← manager key .refresh (inspectInstance record.runtimeId)).mapError mapProviderError)
    let refreshed := { record with
      capabilities := refreshedCapabilities record.capabilities
        (status.capabilities.contains .snapshot) }
    orFail (← perform (.saveSession .refresh refreshed))
    pure refreshed

/-- The source of a snapshot operation must still be open and its instance active. -/
def recheckSource (runtimeId key : String) (closed inactive : String) : AppM Unit := do
  let stored ← orFail (← perform (.getSession .recheck runtimeId))
  require (stored.any fun record => record.status ≠ .closed && record.status ≠ .failed)
    (.conflict closed)
  let status ← orFail
    ((← manager key .recheck (inspectInstance runtimeId)).mapError mapProviderError)
  require (status.state = .active) (.unavailable inactive)

/-! ## Checkpoints -/

/-- The split part of `checkpoint`, after the capability checks. -/
def checkpointSplit (request : SessionCheckpointRequest) (record : SessionRecord)
    (registration : RuntimeRegistration) : AppM SessionCheckpointResult := do
  let kind := record.runtime.runtimeKind
  let (providerId, key) ← orFail (providerForIsolation registration record.isolation)
  let fresh : String ← perform (.nextRuntimeId .target)
  let checkpointId := "checkpoint-" ++ fresh
  let intent (snapshot : String) (history : List (String × Json)) : Json :=
    .object ([("checkpoint", .string checkpointId)] ++ history ++ [("kind", .string "checkpoint"),
      ("provider", .string providerId), ("runtime_kind", .string kind),
      ("snapshot", .string snapshot), ("source", .string request.runtimeId)])
  orFail (← perform (.saveIntent .prepare checkpointId
    (intent ("request:" ++ checkpointId) [])))
  let exported : Except RuntimeError OpaqueRuntimeState ←
    perform (.runtime kind .exported (.exportCheckpointState request.runtimeId))
  let state ← orFail (exported.mapError mapRuntimeError)
  orFail (← perform (.saveIntent .exported checkpointId
    (intent ("request:" ++ checkpointId) [("history", stateJson state)])))
  match (← manager key .capture (checkpointInstanceCorrelated (config.managers key)
      request.runtimeId (.object [("request_id", .string checkpointId)]))).mapError
      mapProviderError with
  | .error error => do
    let _ ← perform (.runtime kind .uncaptured (.deleteCheckpointState state))
    .fail error
  | .ok snapshot => do
    orFail (← perform (.saveIntent .captured checkpointId
      (intent snapshot.snapshotId [("history", stateJson state)])))
    perform .lockPublication
    recheckSource request.runtimeId key "session closed during checkpoint"
      "source is no longer active"
    let now : Nat ← perform (.now .publish)
    match ← perform (.saveCheckpoint
        { checkpointId, sourceRuntimeId := request.runtimeId,
          providerSnapshotId := snapshot.snapshotId, runtimeState := state,
          workspace := record.workspace, isolation := record.isolation,
          capabilities := record.capabilities, ownerRef := ctx.ownerRef,
          tenantId := record.tenantId, createdBy := some ctx.principal, createdAtMs := now }) with
    | .error error => do
      let _ ← perform (.runtime kind .rollback (.deleteCheckpointState state))
      let _ ← manager key .rollback (deleteSnapshot providerId snapshot.snapshotId)
      .fail error
    | .ok () => do
      orFail (← perform (.deleteIntent checkpointId))
      pure { checkpointId, runtimeId := request.runtimeId, checkpointScope := .full,
             createdAtMs := now }

/-- The joint part of `checkpoint`. -/
def checkpointJoint (record : SessionRecord) (binding : JointBinding) :
    AppM SessionCheckpointResult := do
  let owner ← orFail (jointOwner config record.runtime.runtimeKind binding)
  let fresh : String ← perform (.nextRuntimeId .target)
  let checkpointId := "checkpoint-" ++ fresh
  let context ← jointContext ctx record binding .checkpoint none (some checkpointId)
  let checkpoint ← orFail (← perform (.owner (.checkpoint context record)))
  orFail checkpoint.binding.validate
  require (checkpoint.checkpointId = checkpointId &&
      checkpoint.sourceRuntimeId = record.runtimeId && checkpoint.tenantId = context.tenantId &&
      checkpoint.runtimeKind = context.runtimeKind &&
      checkpoint.binding.ownerKind = owner.ownerKind &&
      checkpoint.binding.configurationRevision = context.configurationRevision &&
      checkpoint.ownerRef = context.ownerRef) (unsupportedJoint "uncommitted_checkpoint")
  let stored ← orFail (← perform (.getJointCheckpoint .readBack checkpointId))
  require (stored = some checkpoint) (unsupportedJoint "uncommitted_checkpoint")
  pure { checkpointId, runtimeId := record.runtimeId, checkpointScope := .full,
         createdAtMs := checkpoint.createdAtMs }

/-- `checkpoint`. -/
def checkpoint (request : SessionCheckpointRequest) : AppM SessionCheckpointResult := do
  let found ← orFail (← perform (.getSession .route request.runtimeId))
  if found.any fun record => record.executionBacking.joint.isSome then
    pure ()
  else
    perform .lockTransactions
  let record ← requireSession ctx .lookup request.runtimeId
  checkLeaseHolder config request.runtimeId request.lease
  claimOperation request.runtimeId do
    require (record.capabilities.runtime.contains .stateExport)
      (unsupportedRuntimeCapability "state_export")
    ensureRuntimeAttached config record
    let record ← refreshDockerSnapshotCapabilities config record
    require (request.requestedScope ≠ some .workspaceOnly)
      (.invalidRequest "only full checkpoint scope is supported")
    let registration ← orFail (registrationForRecord config record)
    require (record.capabilities.runtime.contains .checkpoint &&
      record.capabilities.sandbox.contains .snapshot) (unsupportedRuntimeCapability "checkpoint")
    match record.executionBacking.joint with
    | some binding => checkpointJoint config ctx record binding
    | none => checkpointSplit config ctx request record registration

/-! ## Loading -/

/-- `str::trim`. -/
def trimmed (text : String) : String :=
  String.ofList ((text.toList.dropWhile isWhitespace).reverse.dropWhile isWhitespace).reverse

/-- The model of a session loaded with an override, if the override names one. -/
def resolvedLlm (override : Option LlmOverrideRequest) : Option ResolvedLlm := do
  let llm ← override
  let provider := trimmed (← llm.provider)
  let model := trimmed (← llm.model)
  if provider = "" ∨ model = "" then
    none
  else
    let fromRequest := (llm.apiKey.filter fun key => !isBlank key).map fun _ => "request"
    let fromEnv := (llm.apiKeyEnv.filter fun name => !isBlank name).map fun name =>
      "env:" ++ trimmed name
    some { provider, model, apiBase := llm.apiBase, api := llm.api,
           capabilities := llm.capabilities,
           credentialSource := (fromRequest.or fromEnv).getD "runtime_default" }

section Load

variable (request : SessionLoadRequest) (checkpoint : CheckpointRecord)

/-- The record of a loaded session. -/
def loadedRecord (runtimeId : String) (now : Nat)
    (snapshot : OpaqueRuntimeState × Option ResolvedLlm) : SessionRecord where
  executionBacking := .splitV1
  runtimeId := runtimeId
  conversationId := request.conversationId.getD checkpoint.sourceRuntimeId
  senderId := request.senderId.getD ctx.principal
  status := .idle
  createdAtMs := now
  updatedAtMs := now
  workspace := checkpoint.workspace
  isolation := checkpoint.isolation
  capabilities := checkpoint.capabilities
  runtime := snapshot.1
  llm := snapshot.2.or (resolvedLlm request.llm)
  lease := none
  lineage := some { parentRuntimeId := none, sourceCheckpointId := some request.checkpointId }
  lastError := none
  tenantId := ctx.tenantId
  createdBy := ctx.principal

/-- The start request of a loaded session. -/
def loadedStart (runtimeId : String) : RuntimeStartRequest where
  runtimeId := runtimeId
  conversationId := request.conversationId.getD checkpoint.sourceRuntimeId
  senderId := request.senderId.getD ctx.principal
  workspace := checkpoint.workspace
  state := some checkpoint.runtimeState
  llm := request.llm
  ext := []

/-- The last steps of a split `load_checkpoint`. -/
def publishLoaded (key runtimeId intentId : String)
    (snapshot : OpaqueRuntimeState × Option ResolvedLlm) : AppM SessionOpenResponse := do
  let now : Nat ← perform (.now .publish)
  let record := loadedRecord ctx request checkpoint runtimeId now snapshot
  match ← perform (.saveSession .publish record) with
  | .error error =>
    abandonRuntime ctx checkpoint.runtimeState.runtimeKind key runtimeId error
  | .ok () => do
    -- the session is published; an intent that cannot be deleted still fails the call
    orFail (← perform (.deleteIntent intentId))
    pure (projectSession record)

/-- The runtime of a loaded session on its instance. -/
def startLoaded (key runtimeId intentId : String) (backend : OperationBackend) :
    AppM SessionOpenResponse := do
  let kind := checkpoint.runtimeState.runtimeKind
  let started : Except RuntimeError Unit ←
    perform (.runtime kind .start (.start (loadedStart ctx request checkpoint runtimeId) backend))
  match started.mapError mapRuntimeError with
  | .error error => abandonInstance ctx key runtimeId error
  | .ok () => do
    match ← exportRuntimeSnapshot kind runtimeId with
    | .error error => abandonRuntime ctx kind key runtimeId error
    | .ok snapshot => publishLoaded ctx request checkpoint key runtimeId intentId snapshot

/-- The intent that announces a load. -/
def loadIntent (providerId runtimeId : String) : Json :=
  .object [("kind", .string "load"), ("provider", .string providerId),
    ("runtime_kind", .string checkpoint.runtimeState.runtimeKind), ("target", .string runtimeId)]

/-- The instance of a loaded session. -/
def loadInstance (providerId runtimeId : String) : ManagerM OperationBackend :=
  loadInstanceFromSnapshot runtimeId providerId ctx.ownerRef checkpoint.providerSnapshotId
    (providerOptions checkpoint.workspace checkpoint.isolation providerId)
    (sandboxLimit ctx.quota providerId)

/-- A split `load_checkpoint` after its slot is reserved. -/
def loadReserved (registration : RuntimeRegistration) (runtimeId : String) :
    AppM SessionOpenResponse := do
  -- the two failures before the instance is loaded do not give the slot back
  let (providerId, key) ← orFail (providerForIsolation registration checkpoint.isolation)
  let intentId := "load:" ++ runtimeId
  orFail (← perform (.saveIntent .prepare intentId
    (loadIntent checkpoint providerId runtimeId)))
  match (← manager key .start (loadInstance ctx checkpoint providerId runtimeId)).mapError
      mapProviderError with
  | .error error => do
    releaseSlot ctx
    .fail error
  | .ok backend => startLoaded ctx request checkpoint key runtimeId intentId backend

/-- The joint part of `load_checkpoint`. -/
def loadJoint (checkpoint : JointCheckpointRecord) (runtimeId : String) :
    AppM SessionOpenResponse := do
  require (ctx.owns checkpoint.tenantId) (.notFound request.checkpointId)
  let owner ← orFail (jointOwner config checkpoint.runtimeKind checkpoint.binding)
  let context := { operationContext ctx ("load:" ++ runtimeId) .load checkpoint.runtimeKind
      checkpoint.binding.configurationRevision (some checkpoint.sourceRuntimeId) (some runtimeId)
      (some checkpoint.checkpointId) with
    tenantId := checkpoint.tenantId
    ownerRef := checkpoint.ownerRef }
  let record ← orFail (← perform (.owner (.load context checkpoint request)))
  orFail (validateCommittedSession record context owner.ownerKind)
  let stored ← orFail (← perform (.getSession .readBack record.runtimeId))
  require (stored = some record) (unsupportedJoint "uncommitted_publication")
  pure (projectSession record)

/-- What the admission of a split load settles: nobody asks whether the target id is taken. -/
def admitLoad : AppM (CheckpointRecord × RuntimeRegistration) := do
  match (← orFail (← perform (.getCheckpoint request.checkpointId))).filter
      fun checkpoint => ctx.owns checkpoint.tenantId with
  | none => .fail (.notFound request.checkpointId)
  | some checkpoint => do
    let registration ← orFail (registration config checkpoint.runtimeState.runtimeKind)
    orFail ((registration.validateLlmConfig request.llm).mapError mapRuntimeError)
    reserveSlot ctx
    pure (checkpoint, registration)

/-- `load_checkpoint`. -/
def loadCheckpoint : AppM SessionOpenResponse := do
  let joint ← orFail (← perform (.getJointCheckpoint .route request.checkpointId))
  if joint.isSome then pure () else perform .lockTransactions
  let runtimeId ← targetRuntimeId request.runtimeId
  match joint with
  | some checkpoint => loadJoint config ctx request checkpoint runtimeId
  | none => do
    let (checkpoint, registration) ← admitLoad config ctx request
    loadReserved ctx request checkpoint registration runtimeId

end Load

/-! ## Deleting a checkpoint -/

/-- The joint part of `delete_checkpoint`. -/
def deleteJointCheckpoint (checkpoint : JointCheckpointRecord) (checkpointId : String) :
    AppM SessionCheckpointDeleteResult := do
  require (ctx.owns checkpoint.tenantId) (.notFound checkpointId)
  let _ ← orFail (jointOwner config checkpoint.runtimeKind checkpoint.binding)
  let context := { operationContext ctx ("delete:" ++ checkpointId) .deleteCheckpoint
      checkpoint.runtimeKind checkpoint.binding.configurationRevision
      (some checkpoint.sourceRuntimeId) none (some checkpoint.checkpointId) with
    tenantId := checkpoint.tenantId
    ownerRef := checkpoint.ownerRef }
  let deleted ← orFail (← perform (.owner (.deleteCheckpoint context checkpoint)))
  if deleted then do
    let stored ← orFail (← perform (.getJointCheckpoint .readBack checkpointId))
    require stored.isNone (unsupportedJoint "uncommitted_delete")
    pure { checkpointId, deleted }
  else
    pure { checkpointId, deleted }

/-- `delete_checkpoint`: external resources first, the row last. -/
def deleteCheckpoint (checkpointId : String) : AppM SessionCheckpointDeleteResult := do
  let joint ← orFail (← perform (.getJointCheckpoint .route checkpointId))
  if joint.isSome then pure () else perform .lockTransactions
  match joint with
  | some checkpoint => deleteJointCheckpoint config ctx checkpoint checkpointId
  | none =>
    match (← orFail (← perform (.getCheckpoint checkpointId))).filter
        fun checkpoint => ctx.owns checkpoint.tenantId with
    | none => .fail (.notFound checkpointId)
    | some checkpoint => do
      let kind := checkpoint.runtimeState.runtimeKind
      let registration ← orFail (registration config kind)
      let (providerId, key) ← orFail (providerForIsolation registration checkpoint.isolation)
      let intentId := "delete:" ++ checkpointId
      orFail (← perform (.saveIntent .prepare intentId (.object
        [("checkpoint", .string checkpointId), ("history", stateJson checkpoint.runtimeState),
          ("kind", .string "delete"), ("provider", .string providerId),
          ("runtime_kind", .string kind), ("snapshot", .string checkpoint.providerSnapshotId)])))
      orFail ((← manager key .discard (deleteSnapshot providerId
        checkpoint.providerSnapshotId)).mapError mapProviderError)
      let forgotten : Except RuntimeError Unit ←
        perform (.runtime kind .discard (.deleteCheckpointState checkpoint.runtimeState))
      orFail (forgotten.mapError mapRuntimeError)
      let _ ← orFail (← perform (.deleteCheckpoint checkpointId))
      orFail (← perform (.deleteIntent intentId))
      pure { checkpointId, deleted := true }

end XGovernor.App
