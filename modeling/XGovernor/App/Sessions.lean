import XGovernor.App.State
import XGovernor.Joint.Validate

/-!
# Sessions: lookup, restoration and closing

Every call that names a session looks it up, checks that the caller owns it, and mostly makes sure
that its runtime is attached: a runtime that is not in memory any more is started again from the
state the record keeps, and a restoration that fails is written into the record.
-/

namespace XGovernor.App

open Domain Joint Manager Lib Prog

variable (config : Config) (ctx : SecurityContext)

/-! ## Errors -/

/-- `map_provider_error`. -/
def mapProviderError : ProviderControlError → SessionDomainError
  | .notFound resourceRef => .notFound resourceRef
  | .invalidRequest message => .invalidRequest message
  | .unsupportedCapability _ capability => .unsupportedCapability .sandbox capability
  | .resourceLimitExceeded _ _ _ max => .quotaExceeded "provider containers" max
  | error => .unavailable error.text

/-- `map_runtime_error`. -/
def mapRuntimeError : RuntimeError → SessionDomainError
  | .invalidRequest _ message => .invalidRequest message
  | .notFound runtimeId => .notFound runtimeId
  | .conflict _ message => .conflict message
  | .unsupportedCapability capability => .unsupportedCapability .runtime capability
  | .workerUnavailable message _ => .unavailable message
  | .stateCorrupt message => .invalidRequest message
  | .internal message => .internal message

/-- `map_operation_error`. -/
def mapOperationError : OperationError → SessionDomainError
  | .notFound path => .invalidRequest ("file or path not found: " ++ path)
  | .unsupported message => .unsupportedCapability .sandbox message
  | .transport message => .unavailable message
  | .other text => .invalidRequest text

def unsupportedRuntimeCapability (capability : String) : SessionDomainError :=
  .unsupportedCapability .runtime capability

/-! ## Registrations and providers -/

/-- The registration of a runtime kind. -/
def registration (kind : String) : Except SessionDomainError RuntimeRegistration :=
  match config.runtimes.find? fun entry => entry.1 = kind with
  | some entry => .ok entry.2
  | none => .error (.invalidRequest ("unknown runtime_kind '" ++ kind ++ "'"))

def registrationForRecord (record : SessionRecord) :
    Except SessionDomainError RuntimeRegistration :=
  registration config record.runtime.runtimeKind

/-- `provider_id_from_metadata`. -/
def providerIdFromMetadata (metadata : Json) : Option String :=
  ((metadata.get? "backend_id").or (metadata.get? "tool_backend_id")).bind Json.asStr?

/-- The instance manager of a named provider; without a name the only provider is meant. -/
def selectProvider (registration : RuntimeRegistration) (named : Option String)
    (unnamed : SessionDomainError) : Except SessionDomainError (String × String) :=
  let only := match registration.providers with
    | [provider] => some provider.1
    | _ => none
  match named.or only with
  | none => .error unnamed
  | some providerId =>
    match registration.providers.find? fun entry => entry.1 = providerId with
    | some entry => .ok (providerId, entry.2)
    | none =>
      .error (.invalidRequest ("provider backend_id '" ++ providerId ++ "' is not registered"))

/-- `provider_for_request`. -/
def providerForRequest (registration : RuntimeRegistration) (request : SessionOpenRequest) :
    Except SessionDomainError (String × String) :=
  selectProvider registration
    (request.ext.findSome? fun entry => providerIdFromMetadata entry.2)
    (.invalidRequest "runtime extension must specify backend_id")

/-- `provider_for_isolation`. -/
def providerForIsolation (registration : RuntimeRegistration) (isolation : IsolationFacts) :
    Except SessionDomainError (String × String) :=
  selectProvider registration (providerIdFromMetadata isolation.metadata)
    (.internal "persisted session is missing provider backend_id")

/-- `value[key] = field` on the fields of an object, which are kept in key order. -/
def setField (fields : List (String × Json)) (key : String) (field : Json) : List (String × Json) :=
  (fields.filter fun entry => entry.1 < key) ++ [(key, field)] ++
    fields.filter fun entry => key < entry.1

def Json.fieldsOrEmpty : Json → List (String × Json)
  | .object fields => fields
  | _ => []

/-- `provider_options`: the workspace root is never taken from the options. -/
def providerOptions (workspace : WorkspaceFacts) (isolation : IsolationFacts)
    (providerId : String) : Json :=
  let given := Json.fieldsOrEmpty (isolation.metadata.field "provider_options")
  let options := setField given "workspace_root" (.string workspace.root)
  if providerId = "e2b" ∧ (options.find? fun entry => entry.1 = "allow_internet_access").isNone then
    .object (setField options "allow_internet_access" (.bool true))
  else
    .object options

/-! ## Joint owners -/

/-- `joint_owner`: the owner that a stored binding names. -/
def jointOwner (kind : String) (binding : JointBinding) :
    Except SessionDomainError OwnerIdentity := do
  binding.validate
  ensure config.supportsJointTransactions (unsupportedJoint "durable_repository")
  match (← registration config kind).jointLifecycle.filter
      fun owner => owner.ownerKind = binding.ownerKind with
  | some owner => pure owner
  | none => .error (.unavailable "persisted joint execution owner is unavailable")

/-- `joint_lifecycle::context`. -/
def operationContext (intentId : String) (operation : Operation) (kind revision : String)
    (source target checkpoint : Option String) : JointOperationContext where
  intentId := intentId
  operation := operation
  tenantId := ctx.tenantId
  ownerRef := ctx.ownerRef
  principal := ctx.principal
  actorRole := ctx.role
  quota := ctx.quota
  runtimeKind := kind
  configurationRevision := revision
  sourceRuntimeId := source
  targetRuntimeId := target
  checkpointId := checkpoint

/-- `joint_context`: on behalf of the record's tenant, whoever asks. -/
def jointContext (record : SessionRecord) (binding : JointBinding) (operation : Operation)
    (target checkpoint : Option String) : AppM JointOperationContext := do
  let fresh : String ← perform (.nextRuntimeId .intent)
  pure { operationContext ctx ("joint-" ++ fresh) operation record.runtime.runtimeKind
      binding.configurationRevision (some record.runtimeId) target checkpoint with
    tenantId := record.tenantId
    ownerRef := tenantKey record.tenantId }

/-- `reject_joint_resource`. -/
def rejectJointResource (record : SessionRecord) (operation : String) :
    Except SessionDomainError Unit :=
  match record.executionBacking.joint with
  | some binding => do
    binding.validate
    .error (unsupportedJoint operation)
  | none => .ok ()

/-! ## Lookup -/

def requireNonEmptyRuntimeId (runtimeId : String) : Except SessionDomainError Unit :=
  ensure (runtimeId ≠ "") (.invalidRequest "runtime_id must not be empty")

/-- `require_session`: a session of somebody else is not found. -/
def requireSession (site : Site) (runtimeId : String) : AppM SessionRecord := do
  orFail (requireNonEmptyRuntimeId runtimeId)
  match ← orFail (← perform (.getSession site runtimeId)) with
  | none => .fail (.notFound runtimeId)
  | some record => do
    require (ctx.owns record.tenantId) (.notFound runtimeId)
    pure record

/-- `check_lease_holder`: nothing to check when leases are not enforced. -/
def checkLeaseHolder (runtimeId : String) (lease : SessionLeaseClaim) : AppM Unit :=
  match config.leaseTable with
  | none => pure ()
  | some _ => do orFail (← perform (.checkHolder runtimeId lease.clientId))

/-! ## Restoration -/

/-- `mark_restoration_failed`: the status is written whatever it was, and a failed save is
ignored. -/
def markRestorationFailed (record : SessionRecord) (error : SessionDomainError) : AppM Unit := do
  let now : Nat ← perform (.now .restore)
  let _ ← perform (.saveSession .restore
    { record with status := .failed, lastError := some error.text, updatedAtMs := now })
  pure ()

/-- The tail of `ensure_runtime_attached` for a runtime that does not answer: attach it to its
instance, or start it again from the recorded state. -/
def restoreRuntime (registration : RuntimeRegistration) (record : SessionRecord) : AppM Unit := do
  let kind := record.runtime.runtimeKind
  let (_, key) ← orFail (providerForIsolation registration record.isolation)
  match (← manager key .restore (backendFor record.runtimeId)).mapError mapProviderError with
  | .error (.unavailable message) => .fail (.unavailable message)
  | .error error => do
    markRestorationFailed record error
    .fail error
  | .ok backend => do
    let attached : Except RuntimeError Unit ←
      perform (.runtime kind .restore (.attach record.runtimeId backend))
    match attached.mapError mapRuntimeError with
    | .ok () => pure ()
    | .error (.notFound _) => do
      require (record.runtime.state ≠ .null) (.notFound record.runtimeId)
      let started : Except RuntimeError Unit ← perform (.runtime kind .restore (.start
        { runtimeId := record.runtimeId, conversationId := record.conversationId,
          senderId := record.senderId, workspace := record.workspace,
          state := some record.runtime, llm := none, ext := [] } backend))
      match started.mapError mapRuntimeError with
      | .error error => do
        markRestorationFailed record error
        .fail error
      | .ok () => do
        let again : Except RuntimeError Unit ←
          perform (.runtime kind .retry (.attach record.runtimeId backend))
        match again.mapError mapRuntimeError with
        | .error error => do
          markRestorationFailed record error
          .fail error
        | .ok () =>
          if record.status = .running then do
            let now : Nat ← perform (.now .retry)
            orFail (← perform (.saveSession .retry
              { record with
                status := .idle
                lastError := some ("previous turn interrupted by service restart; " ++
                  "tool effects were not replayed or rolled back")
                updatedAtMs := now }))
          else
            pure ()
    | .error error => .fail error

/-- `ensure_runtime_attached`. -/
def ensureRuntimeAttached (record : SessionRecord) : AppM Unit :=
  match record.executionBacking.joint with
  | some binding => do
    let _ ← orFail (jointOwner config record.runtime.runtimeKind binding)
    orFail (← perform (.owner (.ensureAttached record)))
  | none => do
    let registration ← orFail (registrationForRecord config record)
    let alive : Except RuntimeError Bool ←
      perform (.runtime record.runtime.runtimeKind .restore (.checkAlive record.runtimeId))
    match alive.mapError mapRuntimeError with
    | .ok true => pure ()
    | .ok false | .error (.notFound _) => restoreRuntime registration record
    | .error error => .fail error

/-! ## Guarded operations -/

/-- `claim_operation`: the rest of the call holds the session; the guard gives it back on every
way out, and when the call is dropped. -/
def claimOperation {α : Type} (runtimeId : String) (rest : AppM α) : AppM α := do
  let fresh : String ← perform (.nextTurnId .operation)
  let operationId := "operation-" ++ fresh
  match ← perform (.claim runtimeId operationId) with
  | .error active => .fail (.conflict ("session has an active operation or turn: " ++ active))
  | .ok () => rest.guarded (.release runtimeId operationId) fun s => s.release runtimeId operationId

/-! ## Closing -/

/-- The lease and the gate forget a closed session. -/
def forgetClosed (runtimeId : String) : AppM Unit := do
  if config.leaseTable.isSome then perform (.removeLease runtimeId) else pure ()
  perform (.forgetSession runtimeId)

/-- The instance of a session is destroyed; a session whose provider is unknown has none. -/
def destroyInstance (registration : RuntimeRegistration) (record : SessionRecord)
    (runtimeId : String) : AppM Unit :=
  match providerForIsolation registration record.isolation with
  | .ok (_, key) => do
    orFail ((← manager key .finalize (destroyByRuntimeId runtimeId)).mapError mapProviderError)
  | .error _ => pure ()

variable (record : SessionRecord) (runtimeId : String)

/-- The record is saved as closed; the slot is given back whatever its status was. -/
def recordClosed (note : Option String) : AppM SessionControlResponse := do
  let now : Nat ← perform (.now .finalize)
  orFail (← perform (.saveSession .finalize
    { record with status := .closed, updatedAtMs := now, lastError := note.or record.lastError }))
  forgetClosed config runtimeId
  match record.tenantId with
  | some tenant => perform (.releaseTenantSession tenant)
  | none => pure ()
  pure { runtimeId, status := .closed, updatedAtMs := now }

/-- The split part of `finalize_closed_session`. -/
def finalizeSplitSession (note : Option String) : AppM SessionControlResponse := do
  let registration ← orFail (registrationForRecord config record)
  let stopped : Except RuntimeError Unit ←
    perform (.runtime record.runtime.runtimeKind .finalize (.stop runtimeId))
  match stopped.mapError mapRuntimeError with
  | .ok () | .error (.notFound _) => do
    destroyInstance registration record runtimeId
    recordClosed config record runtimeId note
  | .error error => .fail error

/-- The joint part of `finalize_closed_session`. -/
def finalizeJointSession (binding : JointBinding) (runtimeId : String)
    (note : Option String) : AppM SessionControlResponse := do
  let owner ← orFail (jointOwner config record.runtime.runtimeKind binding)
  let context ← jointContext ctx record binding .close (some runtimeId) none
  let committed ← orFail (← perform (.owner (.close context record note)))
  orFail (validateCommittedSession committed context owner.ownerKind)
  require (committed.status = .closed) (unsupportedJoint "uncommitted_close")
  let stored ← orFail (← perform (.getSession .readBack runtimeId))
  require (stored = some committed) (unsupportedJoint "uncommitted_close")
  forgetClosed config runtimeId
  pure { runtimeId, status := .closed, updatedAtMs := committed.updatedAtMs }

/-- `finalize_closed_session`. -/
def finalizeClosedSession (note : Option String) : AppM SessionControlResponse :=
  match record.executionBacking.joint with
  | some binding => finalizeJointSession config ctx record binding runtimeId note
  | none => finalizeSplitSession config record runtimeId note

/-- `close`. -/
def close (lease : SessionLeaseClaim) : AppM SessionControlResponse := do
  let found ← orFail (← perform (.getSession .route runtimeId))
  if found.any fun record => record.executionBacking.joint.isSome then
    pure ()
  else
    perform .lockPublication
  let record ← requireSession ctx .lookup runtimeId
  checkLeaseHolder config runtimeId lease
  finalizeClosedSession config ctx record runtimeId none

/-- `reclaim`: a record that is already closed or failed is left alone. -/
def reclaim : AppM SessionControlResponse := do
  let record ← requireSession ctx .lookup runtimeId
  if record.status = .closed ∨ record.status = .failed then
    pure { runtimeId, status := record.status, updatedAtMs := record.updatedAtMs }
  else
    finalizeClosedSession config ctx record runtimeId
      (some "provider sandbox no longer exists (idle-timeout expiry)")

/-! ## Leases, cancellation and answers -/

/-- `detach`. -/
def detach (lease : SessionLeaseClaim) : AppM SessionControlResponse := do
  let record ← requireSession ctx .lookup runtimeId
  match config.leaseTable, lease.clientId with
  | some _, some clientId => perform (.detachLease runtimeId clientId)
  | _, _ => pure ()
  pure { runtimeId, status := record.status, updatedAtMs := record.updatedAtMs }

/-- `heartbeat`. -/
def heartbeat (lease : SessionLeaseClaim) : AppM SessionHeartbeatResponse := do
  let _ ← requireSession ctx .lookup runtimeId
  match config.leaseTable with
  | none => pure { runtimeId, accepted := true, leaseExpiresAtMs := none }
  | some staleThresholdMs =>
    match lease.clientId with
    | none => .fail (.leaseRequired runtimeId)
    | some clientId => do
      orFail (← perform (.heartbeatLease runtimeId clientId lease.clientPid
        lease.clientHostname))
      let now : Nat ← perform (.now .finalize)
      pure { runtimeId, accepted := true, leaseExpiresAtMs := some (now + staleThresholdMs) }

/-- `cancel`: a named turn must be the active one. -/
def cancel (turnId : Option String) : AppM Unit := do
  let record ← requireSession ctx .lookup runtimeId
  match record.executionBacking.joint with
  | some binding => do
    let _ ← orFail (jointOwner config record.runtime.runtimeKind binding)
    let context ← jointContext ctx record binding .cancel none none
    orFail (← perform (.owner (.cancelTurn context record turnId)))
  | none => do
    match turnId with
    | none => pure ()
    | some turnId => do
      let active : Option String ← perform (.activeTurn runtimeId)
      require (active = some turnId) (.notFound runtimeId)
    ensureRuntimeAttached config record
    let _ ← orFail (registrationForRecord config record)
    let cancelled : Except RuntimeError Unit ←
      perform (.runtime record.runtime.runtimeKind .turn (.cancel runtimeId turnId))
    orFail (cancelled.mapError mapRuntimeError)

/-- `answer_interaction`. -/
def answerInteraction (request : SessionInteractionRequest) : AppM SessionSubmitReceipt := do
  let record ← requireSession ctx .lookup request.runtimeId
  orFail (rejectJointResource record "answer_interaction_impl")
  ensureRuntimeAttached config record
  require (record.capabilities.runtime.contains .interaction)
    (unsupportedRuntimeCapability "interaction")
  let _ ← orFail (registrationForRecord config record)
  let answered : Except RuntimeError Unit ←
    perform (.runtime record.runtime.runtimeKind .turn (.answerInteraction request))
  orFail (answered.mapError mapRuntimeError)
  pure { runtimeId := request.runtimeId, turnId := request.turnId, acceptedKind := .interaction }

end XGovernor.App
