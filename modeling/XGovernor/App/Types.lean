import XGovernor.Joint.Types
import XGovernor.Manager.Instances

/-!
# Data of the session application

Who calls, what the fourteen public calls carry, what a runtime is asked for and what it emits.
The wire form of a capability and its domain form are the same enumeration here, since the
conversion between them is one to one.
-/

namespace XGovernor.App

open Domain Joint Manager Lib

/-! ## Callers -/

/-- The authenticated caller.  The tenant of a context is fixed by its role: the operator has
none, everybody else has exactly one. -/
structure SecurityContext where
  role : Role
  tenantId : Option String
  principal : String
  quota : TenantQuota
  tenant_iff : role = .tenant ↔ tenantId.isSome = true

namespace SecurityContext

/-- `SecurityContext::admin`. -/
def admin (principal : String) (quota : TenantQuota) : SecurityContext where
  role := .admin
  tenantId := none
  principal := principal
  quota := quota
  tenant_iff := by simp

/-- `SecurityContext::tenant`. -/
def tenant (tenantId principal : String) (quota : TenantQuota) : SecurityContext where
  role := .tenant
  tenantId := some tenantId
  principal := principal
  quota := quota
  tenant_iff := by simp

def isAdmin (ctx : SecurityContext) : Bool :=
  ctx.role = .admin

/-- `owns`: the operator passes everywhere, a tenant only at its own records. -/
def owns (ctx : SecurityContext) (recordTenant : Option String) : Bool :=
  match ctx.role with
  | .admin => true
  | .tenant => ctx.tenantId = recordTenant

def ownerRef (ctx : SecurityContext) : String :=
  match ctx.role with
  | .admin => adminOwnerRef
  | .tenant => "tenant/" ++ ctx.tenantId.getD ""

end SecurityContext

/-- `sandbox_limit`: only three backends have a ceiling of their own. -/
def sandboxLimit (quota : TenantQuota) (backendId : String) : Option Nat :=
  if ["local", "e2b", "docker"].contains backendId then
    (quota.maxSandboxes.find? fun entry => entry.1 = backendId).map Prod.snd
  else
    none

/-! ## Requests -/

/-- Extension values by namespace, in key order. -/
abbrev SessionExtensions := List (String × Json)

structure SessionLeaseClaim where
  clientId : Option String
  clientPid : Option Nat
  clientHostname : Option String
deriving DecidableEq, Repr

inductive WorkspaceSpec where
  | daemonDefault
  | localPath (path : String)
  | git (url : String) (reference subdirectory : Option String)
  | shared (workspaceRef : String)
deriving DecidableEq, Repr

structure SessionCapabilityRequest where
  sandbox : List SandboxCapability
  runtime : List RuntimeCapability
deriving DecidableEq, Repr

structure LlmOverrideRequest where
  provider : Option String
  model : Option String
  apiBase : Option String
  api : Option LlmApi
  capabilities : Option LlmCapabilities
  apiKey : Option String
  apiKeyEnv : Option String
deriving DecidableEq, Repr

/-- A new session, or the session of a given runtime id.  Of the deployment profile only
`options` is read. -/
structure SessionOpenRequest where
  runtimeId : Option String
  runtimeKind : Option String
  conversationId : String
  senderId : String
  workspace : WorkspaceSpec
  deploymentOptions : Json
  requestedCapabilities : SessionCapabilityRequest
  llm : Option LlmOverrideRequest
  ext : SessionExtensions
deriving DecidableEq, Repr

structure SessionTurnRequest where
  runtimeId : String
  text : String
  llm : Option LlmOverrideRequest
  reasoningEffort : Option String
  clientRequestId : Option String
  ext : SessionExtensions
  lease : SessionLeaseClaim
deriving DecidableEq, Repr

structure SessionInteractionRequest where
  runtimeId : String
  turnId : String
  interactionId : String
  answer : Json
  ext : SessionExtensions
deriving DecidableEq, Repr

structure SessionExecRequest where
  runtimeId : String
  command : List String
  cwd : Option String
  env : List (String × String)
  timeoutMs : Option Nat
  lease : SessionLeaseClaim
deriving DecidableEq, Repr

structure SessionFileReadRequest where
  runtimeId : String
  path : String
  lease : SessionLeaseClaim
deriving DecidableEq, Repr

structure SessionFileWriteRequest where
  runtimeId : String
  path : String
  contentBase64 : String
  createParents : Bool
  lease : SessionLeaseClaim
deriving DecidableEq, Repr

inductive SessionCheckpointScope where
  | full
  | workspaceOnly
deriving DecidableEq, Repr

structure SessionCheckpointRequest where
  runtimeId : String
  requestedScope : Option SessionCheckpointScope
  lease : SessionLeaseClaim
deriving DecidableEq, Repr

structure SessionLoadRequest where
  checkpointId : String
  runtimeId : Option String
  conversationId : Option String
  senderId : Option String
  llm : Option LlmOverrideRequest
deriving DecidableEq, Repr

structure SessionForkRequest where
  parentRuntimeId : String
  runtimeId : Option String
  conversationId : Option String
  senderId : Option String
  lease : SessionLeaseClaim
deriving DecidableEq, Repr

/-! ## Responses -/

/-- `project_session`: what a client sees of a record. -/
structure SessionOpenResponse where
  runtimeId : String
  conversationId : String
  senderId : String
  status : SessionStatus
  createdAtMs : Nat
  updatedAtMs : Nat
  runtimeKind : String
  workspace : WorkspaceFacts
  isolation : IsolationFacts
  capabilities : EffectiveCapabilities
  llm : Option ResolvedLlm
deriving DecidableEq, Repr

def projectSession (record : SessionRecord) : SessionOpenResponse where
  runtimeId := record.runtimeId
  conversationId := record.conversationId
  senderId := record.senderId
  status := record.status
  createdAtMs := record.createdAtMs
  updatedAtMs := record.updatedAtMs
  runtimeKind := record.runtime.runtimeKind
  workspace := record.workspace
  isolation := record.isolation
  capabilities := record.capabilities
  llm := record.llm

structure SessionControlResponse where
  runtimeId : String
  status : SessionStatus
  updatedAtMs : Nat
deriving DecidableEq, Repr

structure SessionHeartbeatResponse where
  runtimeId : String
  accepted : Bool
  leaseExpiresAtMs : Option Nat
deriving DecidableEq, Repr

inductive SessionAcceptedInputKind where
  | turn
  | interaction
deriving DecidableEq, Repr

structure SessionSubmitReceipt where
  runtimeId : String
  turnId : String
  acceptedKind : SessionAcceptedInputKind
deriving DecidableEq, Repr

/-- A submission has an event stream if it started a turn. -/
structure SessionSubmission where
  receipt : SessionSubmitReceipt
  hasEvents : Bool
deriving DecidableEq, Repr

structure SessionExecResult where
  stdout : String
  stderr : String
  exitCode : Option Int
  timedOut : Bool
deriving DecidableEq, Repr

structure SessionFileReadResult where
  path : String
  content : List UInt8
deriving DecidableEq, Repr

structure SessionFileWriteResult where
  path : String
  bytesWritten : Nat
deriving DecidableEq, Repr

structure SessionCheckpointResult where
  checkpointId : String
  runtimeId : String
  checkpointScope : SessionCheckpointScope
  createdAtMs : Nat
deriving DecidableEq, Repr

structure SessionCheckpointDeleteResult where
  checkpointId : String
  deleted : Bool
deriving DecidableEq, Repr

/-! ## Runtimes -/

inductive RuntimeError where
  | invalidRequest (code message : String)
  | notFound (runtimeId : String)
  | conflict (code message : String)
  | unsupportedCapability (capability : String)
  | workerUnavailable (message : String) (retryable : Bool)
  | stateCorrupt (message : String)
  | internal (message : String)
deriving DecidableEq, Repr

structure RuntimeStartRequest where
  runtimeId : String
  conversationId : String
  senderId : String
  workspace : WorkspaceFacts
  state : Option OpaqueRuntimeState
  llm : Option LlmOverrideRequest
  ext : SessionExtensions
deriving DecidableEq, Repr

structure RuntimeTurnInput where
  runtimeId : String
  turnId : String
  text : String
  llm : Option LlmOverrideRequest
  reasoningEffort : Option String
  ext : SessionExtensions
deriving DecidableEq, Repr

structure RuntimeFailure where
  code : String
  message : String
  retryable : Bool
deriving DecidableEq, Repr

inductive SessionTurnOutcome where
  | complete
  | maxTurns
  | budgetExhausted
  | cancelled
deriving DecidableEq, Repr

/-- What a runtime emits during a turn; `progress` is everything else that does not end it. -/
inductive RuntimeEvent where
  | outputDelta (streamId : String) (sequence : Nat) (delta : String)
  | progress (payload : Json)
  | completed (outcome : SessionTurnOutcome)
  | failed (error : RuntimeFailure)
deriving DecidableEq, Repr

def RuntimeEvent.isTerminal : RuntimeEvent → Bool
  | outputDelta _ _ _ | progress _ => false
  | completed _ | failed _ => true

/-- The calls of the `AgentRuntime` interface. -/
inductive RuntimeCall where
  | probeLlm (request : RuntimeStartRequest)
  | start (request : RuntimeStartRequest) (backend : OperationBackend)
  | stop (runtimeId : String)
  | exportState (runtimeId : String)
  | describeLlm (runtimeId : String)
  | checkAlive (runtimeId : String)
  | attach (runtimeId : String) (backend : OperationBackend)
  | submitTurn (input : RuntimeTurnInput)
  | answerInteraction (request : SessionInteractionRequest)
  | cancel (runtimeId : String) (turnId : Option String)
  | exportCheckpointState (runtimeId : String)
  | deleteCheckpointState (state : OpaqueRuntimeState)

@[reducible] def RuntimeCall.Reply : RuntimeCall → Type
  | exportState _ | exportCheckpointState _ => Except RuntimeError OpaqueRuntimeState
  | describeLlm _ => Except RuntimeError (Option ResolvedLlm)
  | checkAlive _ => Except RuntimeError Bool
  | probeLlm _ | start _ _ | stop _ | attach _ _ | submitTurn _ | answerInteraction _
  | cancel _ _ | deleteCheckpointState _ => Except RuntimeError Unit

/-! ## The operation plane -/

inductive OperationError where
  | notFound (path : String)
  | unsupported (message : String)
  | transport (message : String)
  | other (text : String)
deriving DecidableEq, Repr

structure ExecRequest where
  command : String
  args : List String
  cwd : Option String
  env : List (String × String)
  timeoutMs : Nat
deriving DecidableEq, Repr

inductive OperationCall where
  | resolvePath (rawPath : String)
  | exec (request : ExecRequest)
  | readBytes (path : String)
  | createDirAll (path : String)
  | writeBytes (path : String) (content : List UInt8)

@[reducible] def OperationCall.Reply : OperationCall → Type
  | resolvePath _ => Except OperationError String
  | exec _ => Except OperationError SessionExecResult
  | readBytes _ => Except OperationError (List UInt8)
  | createDirAll _ | writeBytes _ _ => Except OperationError Unit

/-! ## Joint owners -/

structure NormalizedSessionEnvironment where
  workspace : WorkspaceFacts
  isolation : IsolationFacts
  sandboxCapabilities : List SandboxCapability
  llm : Option ResolvedLlm
  lease : Option Domain.SessionLease
deriving DecidableEq, Repr

/-- What a joint Host operation asks its owner to prepare. -/
inductive JointHostRequest where
  | exec (request : ExecRequest)
  | read (path : String)
  | write (path : String) (content : List UInt8) (createParents : Bool)
deriving DecidableEq, Repr

/-- A submission without a terminal to wait for replays an earlier receipt. -/
structure JointTurnSubmission where
  turnId : String
  hasTerminal : Bool
deriving DecidableEq, Repr

/-- The calls of the `JointSessionLifecycle` interface and of the Host backend it hands out.  An
owner works on the store by itself. -/
inductive OwnerCall where
  | openSession (context : JointOperationContext) (request : SessionOpenRequest)
      (normalized : NormalizedSessionEnvironment) (capabilities : EffectiveCapabilities)
  | load (context : JointOperationContext) (checkpoint : JointCheckpointRecord)
      (request : SessionLoadRequest)
  | submitTurn (context : JointOperationContext) (record : SessionRecord)
      (request : SessionTurnRequest) (turnId : String)
  | awaitTurn (record : SessionRecord) (turnId : String)
  | close (context : JointOperationContext) (record : SessionRecord) (note : Option String)
  | cancelTurn (context : JointOperationContext) (record : SessionRecord)
      (turnId : Option String)
  | checkpoint (context : JointOperationContext) (record : SessionRecord)
  | deleteCheckpoint (context : JointOperationContext) (checkpoint : JointCheckpointRecord)
  | ensureAttached (record : SessionRecord)
  | prepareHost (context : JointOperationContext) (record : SessionRecord)
      (request : JointHostRequest)
  | hostOperation (record : SessionRecord) (call : OperationCall)
  | writeHost (record : SessionRecord) (request : JointHostRequest)

@[reducible] def OwnerCall.Reply : OwnerCall → Type
  | openSession _ _ _ _ | load _ _ _ | close _ _ _ => Except SessionDomainError SessionRecord
  | submitTurn _ _ _ _ => Except SessionDomainError JointTurnSubmission
  | awaitTurn _ _ => Except SessionDomainError JointTurnTerminal
  | checkpoint _ _ => Except SessionDomainError JointCheckpointRecord
  | deleteCheckpoint _ _ => Except SessionDomainError Bool
  | cancelTurn _ _ _ | ensureAttached _ | prepareHost _ _ _ => Except SessionDomainError Unit
  | hostOperation _ call => call.Reply
  | writeHost _ _ => Except SessionDomainError Nat

end XGovernor.App
