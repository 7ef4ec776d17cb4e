import XGovernor.App.Sessions

/-!
# Opening a session

A call of `open` either attaches its caller to an existing session or creates a new one.  A new
session is admitted first (its environment is normalized and its capabilities are checked); then
it takes a slot of its tenant, an instance of its provider and a runtime, in this order, and is
published last.
-/

namespace XGovernor.App

open Domain Joint Manager Lib Prog

variable (config : Config) (ctx : SecurityContext)

/-! ## Slots -/

/-- The slot of a new session; the operator's sessions take none. -/
def reserveSlot : AppM Unit :=
  match ctx.tenantId with
  | none => pure ()
  | some tenant => do
    match ← perform (.reserveTenantSession tenant ctx.quota.maxSessions) with
    | .error limit => .fail (.quotaExceeded "sessions" limit)
    | .ok () => pure ()

def releaseSlot : AppM Unit :=
  match ctx.tenantId with
  | none => pure ()
  | some tenant => perform (.releaseTenantSession tenant)

/-- The rollback of a session whose runtime is not running. -/
def abandonInstance {α : Type} (ctx : SecurityContext) (key runtimeId : String)
    (error : SessionDomainError) : AppM α := do
  let _ ← manager key .rollback (stopInstance runtimeId)
  releaseSlot ctx
  .fail error

/-- The rollback of a session whose runtime is running. -/
def abandonRuntime {α : Type} (ctx : SecurityContext) (kind key runtimeId : String)
    (error : SessionDomainError) : AppM α := do
  let _ ← perform (.runtime kind .rollback (.stop runtimeId))
  abandonInstance ctx key runtimeId error

/-- `export_runtime_snapshot`. -/
def exportRuntimeSnapshot (kind runtimeId : String) :
    AppM (Except SessionDomainError (OpaqueRuntimeState × Option ResolvedLlm)) := do
  let state : Except RuntimeError OpaqueRuntimeState ←
    perform (.runtime kind .publish (.exportState runtimeId))
  match state.mapError mapRuntimeError with
  | .error error => pure (.error error)
  | .ok state => do
    let llm : Except RuntimeError (Option ResolvedLlm) ←
      perform (.runtime kind .publish (.describeLlm runtimeId))
    match llm.mapError mapRuntimeError with
    | .error error => pure (.error error)
    | .ok llm => pure (.ok (state, llm))

/-! ## Admission of a new session -/

/-- The name of a capability on the wire. -/
def sandboxCapabilityName : SandboxCapability → String
  | .exec => "exec"
  | .fileRead => "file_read"
  | .fileWrite => "file_write"
  | .pause => "pause"
  | .snapshot => "snapshot"
  | .network => "network"

def runtimeCapabilityName : RuntimeCapability → String
  | .interaction => "interaction"
  | .steering => "steering"
  | .fork => "fork"
  | .checkpoint => "checkpoint"
  | .stateExport => "state_export"
  | .modelOverride => "model_override"
  | .reasoningControl => "reasoning_control"

/-- Insertion into a set of capabilities. -/
def insertCapability {α : Type} [DecidableEq α] (capabilities : List α) (a : α) : List α :=
  if a ∈ capabilities then capabilities else capabilities ++ [a]

variable (request : SessionOpenRequest)

variable (normalized : NormalizedSessionEnvironment)

/-- The options of the deployment profile replace those of the normalized isolation. -/
def withProviderOptions :
    Except SessionDomainError NormalizedSessionEnvironment :=
  match request.deploymentOptions.get? "provider_options" with
  | none => .ok normalized
  | some (.object options) =>
    let metadata := Json.object
      (setField (Json.fieldsOrEmpty normalized.isolation.metadata) "provider_options"
        (.object options))
    .ok { normalized with isolation := { normalized.isolation with metadata } }
  | some _ =>
    .error (.invalidRequest "deployment.options.provider_options must be an object")

/-- The second gate: no tenant session on the host or in a local directory, whatever the
normalizer said. -/
def failClosed : Except SessionDomainError Unit :=
  if ctx.isAdmin then
    .ok ()
  else do
    ensure (normalized.isolation.boundary ≠ .host) (.invalidRequest
      ("fail-closed: non-admin session normalized to a host isolation boundary — " ++
        "refusing to start (docs/tenancy_design.md §0)"))
    ensure (match request.workspace with | .localPath _ => false | _ => true) (.invalidRequest
      ("fail-closed: non-admin session requested a local-path workspace — " ++
        "refusing to start (docs/tenancy_design.md §0)"))

/-- The capabilities of the runtime in this environment. -/
def runtimeCapabilities (registration : RuntimeRegistration) (request : SessionOpenRequest)
    (normalized : NormalizedSessionEnvironment) : List RuntimeCapability :=
  let capabilities := registration.capabilitiesForContext request.ext
  if .snapshot ∈ normalized.sandboxCapabilities ∧ .stateExport ∈ capabilities then
    insertCapability (insertCapability capabilities .checkpoint) .fork
  else
    capabilities

/-- Every requested capability is there. -/
def checkCapabilities (sandbox : List SandboxCapability) (runtime : List RuntimeCapability) :
    Except SessionDomainError Unit := do
  match request.requestedCapabilities.sandbox.find? fun requested => requested ∉ sandbox with
  | some missing => .error (.unsupportedCapability .sandbox (sandboxCapabilityName missing))
  | none => .ok ()
  match request.requestedCapabilities.runtime.find? fun requested => requested ∉ runtime with
  | some missing => .error (.unsupportedCapability .runtime (runtimeCapabilityName missing))
  | none => .ok ()

/-- What the admission of a new session settles. -/
structure OpenAdmission where
  kind : String
  registration : RuntimeRegistration
  normalized : NormalizedSessionEnvironment
  capabilities : EffectiveCapabilities

/-- The checks of `open` on a new session. -/
def admitOpen : AppM OpenAdmission := do
  let kind := request.runtimeKind.getD config.defaultRuntimeKind
  let registration ← orFail (registration config kind)
  orFail ((registration.validateLlmConfig request.llm).mapError mapRuntimeError)
  let normalized ← orFail (← perform (.normalize ctx request))
  let normalized ← orFail (withProviderOptions request normalized)
  orFail (failClosed ctx request normalized)
  let runtime := runtimeCapabilities registration request normalized
  orFail (checkCapabilities request normalized.sandboxCapabilities runtime)
  let capabilities : EffectiveCapabilities := { sandbox := normalized.sandboxCapabilities, runtime }
  pure { kind, registration, normalized, capabilities }

/-! ## The split route -/

variable (admission : OpenAdmission)

variable (runtimeId : String)

/-- The record of a new split session. -/
def openedRecord (now : Nat)
    (snapshot : OpaqueRuntimeState × Option ResolvedLlm) : SessionRecord where
  executionBacking := .splitV1
  runtimeId := runtimeId
  conversationId := request.conversationId
  senderId := request.senderId
  status := .idle
  createdAtMs := now
  updatedAtMs := now
  workspace := admission.normalized.workspace
  isolation := admission.normalized.isolation
  capabilities := admission.capabilities
  runtime := snapshot.1
  llm := snapshot.2.or admission.normalized.llm
  lease := admission.normalized.lease
  lineage := none
  lastError := none
  tenantId := ctx.tenantId
  createdBy := ctx.principal

/-- The last step of a split `open`. -/
def publishOpened (key runtimeId : String) (now : Nat)
    (snapshot : OpaqueRuntimeState × Option ResolvedLlm) : AppM SessionOpenResponse := do
  let record := openedRecord ctx request admission runtimeId now snapshot
  match ← perform (.saveSession .publish record) with
  | .error error => abandonRuntime ctx admission.kind key runtimeId error
  | .ok () => do
    if config.leaseTable.isSome then perform (.ensureUnclaimed runtimeId) else pure ()
    pure (projectSession record)

/-- The runtime of a new split session on its instance. -/
def startOpened (key : String) (startRequest : RuntimeStartRequest) (now : Nat)
    (backend : OperationBackend) : AppM SessionOpenResponse := do
  let runtimeId := startRequest.runtimeId
  let started : Except RuntimeError Unit ←
    perform (.runtime admission.kind .start (.start startRequest backend))
  match started.mapError mapRuntimeError with
  | .error error => abandonInstance ctx key runtimeId error
  | .ok () => do
    match ← exportRuntimeSnapshot admission.kind runtimeId with
    | .ok snapshot => publishOpened config ctx request admission key runtimeId now snapshot
    | .error (.unsupportedCapability _ _) =>
      -- a runtime without state export keeps no state
      publishOpened config ctx request admission key runtimeId now
        ({ runtimeKind := admission.kind, schemaVersion := 1, state := .null }, none)
    | .error error => abandonRuntime ctx admission.kind key runtimeId error

/-- The start request of a new session. -/
def openedStart : RuntimeStartRequest where
  runtimeId := runtimeId
  conversationId := request.conversationId
  senderId := request.senderId
  workspace := admission.normalized.workspace
  state := none
  llm := request.llm
  ext := request.ext

/-- The instance of a new session. -/
def openInstance (config : Manager.Config) (ctx : SecurityContext) (admission : OpenAdmission)
    (providerId runtimeId : String) : ManagerM OperationBackend :=
  startInstance config runtimeId providerId ctx.ownerRef
    (providerOptions admission.normalized.workspace admission.normalized.isolation providerId)
    (sandboxLimit ctx.quota providerId)

/-- A split `open` after its slot is reserved. -/
def openReserved : AppM SessionOpenResponse := do
  let startRequest := openedStart request admission runtimeId
  let probed : Except RuntimeError Unit ←
    perform (.runtime admission.kind .probe (.probeLlm startRequest))
  match probed.mapError mapRuntimeError with
  | .error error => do
    releaseSlot ctx
    .fail error
  | .ok () => do
    let now : Nat ← perform (.now .publish)
    -- a provider that cannot be selected fails without giving the slot back
    let (providerId, key) ← orFail (providerForRequest admission.registration request)
    match (← manager key .start (openInstance (config.managers key) ctx admission providerId
        runtimeId)).mapError mapProviderError with
    | .error error => do
      releaseSlot ctx
      .fail error
    | .ok backend => startOpened config ctx request admission key startRequest now backend

/-! ## The joint route -/

/-- The owner opens and publishes a joint session; its publication is read back. -/
def openJoint (owner : OwnerIdentity) (runtimeId : String) : AppM SessionOpenResponse := do
  require config.supportsJointTransactions (unsupportedJoint "durable_repository")
  let binding : JointBinding :=
    { ownerKind := owner.ownerKind, bindingId := runtimeId,
      configurationRevision := owner.configurationRevision }
  orFail binding.validate
  let probed : Except RuntimeError Unit ←
    perform (.runtime admission.kind .jointProbe (.probeLlm
      (openedStart request admission runtimeId)))
  orFail (probed.mapError mapRuntimeError)
  let fresh : String ← perform (.nextRuntimeId .intent)
  let context := operationContext ctx ("joint-" ++ fresh) .openSession admission.kind
    owner.configurationRevision none (some runtimeId) none
  let record ← orFail (← perform (.owner (.openSession context request admission.normalized
    admission.capabilities)))
  orFail (validateCommittedSession record context owner.ownerKind)
  require (record.workspace = admission.normalized.workspace &&
    record.isolation = admission.normalized.isolation) (unsupportedJoint "normalization_mismatch")
  let stored ← orFail (← perform (.getSession .readBack record.runtimeId))
  require (stored = some record) (unsupportedJoint "uncommitted_publication")
  pure (projectSession record)

/-! ## The call -/

/-- The caller is attached to an existing session that it owns. -/
def reattach (record : SessionRecord) (runtimeId : String) : AppM SessionOpenResponse := do
  require (ctx.owns record.tenantId) (.notFound runtimeId)
  require (request.runtimeKind.all fun kind => kind = record.runtime.runtimeKind)
    (.conflict ("session runtime_kind is '" ++ record.runtime.runtimeKind ++
      "', not requested '" ++ request.runtimeKind.getD "" ++ "'"))
  ensureRuntimeAttached config record
  if record.status = .running ∧ record.executionBacking.joint.isNone then
    pure (projectSession { record with status := .idle })
  else
    pure (projectSession record)

/-- A requested runtime id, or a generated one. -/
def targetRuntimeId (requested : Option String) : AppM String :=
  match requested with
  | some runtimeId => pure runtimeId
  | none => perform (.nextRuntimeId .target)

/-- A new session, on the route its runtime is registered for. -/
def openFresh : AppM SessionOpenResponse := do
  let admission ← admitOpen config ctx request
  match admission.registration.jointLifecycle with
  | some owner => openJoint config ctx request admission owner runtimeId
  | none => do
    reserveSlot ctx
    openReserved config ctx request admission runtimeId

/-- `open`. -/
def openSession : AppM SessionOpenResponse := do
  let runtimeId ← targetRuntimeId request.runtimeId
  orFail (requireNonEmptyRuntimeId runtimeId)
  match ← orFail (← perform (.getSession .lookup runtimeId)) with
  | some record => reattach config ctx request record runtimeId
  | none => openFresh config ctx request runtimeId

end XGovernor.App
