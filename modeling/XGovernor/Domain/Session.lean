import XGovernor.Domain.Json

/-!
# Session records

The persistent records of the session core: sessions, checkpoints, the backing that
executes a session, and the errors that every public operation answers with.
-/

namespace XGovernor.Domain

/-! ## Errors -/

inductive CapabilityFamily where
  | sandbox
  | runtime
deriving DecidableEq, Repr

/-- The error type of the session core. -/
inductive SessionDomainError where
  | invalidRequest (message : String)
  | notFound (runtimeId : String)
  | conflict (message : String)
  | leaseRequired (runtimeId : String)
  | leaseConflict (runtimeId : String) (holderClientId : Option String)
      (holderPid : Option Nat) (holderHostname : Option String)
  | unsupportedCapability (family : CapabilityFamily) (capability : String)
  | timeout (operation : String) (timeoutMs : Nat)
  | unavailable (message : String)
  | quotaExceeded (scope : String) (limit : Nat)
  | internal (message : String)
deriving DecidableEq, Repr

/-- The text of an error, as `to_string` prints it. -/
def SessionDomainError.text : SessionDomainError → String
  | invalidRequest message => "invalid request: " ++ message
  | notFound runtimeId => "session not found: " ++ runtimeId
  | conflict message => "session conflict: " ++ message
  | leaseRequired runtimeId => "session lease required: " ++ runtimeId
  | leaseConflict runtimeId .. => "session lease conflict: " ++ runtimeId
  | unsupportedCapability family capability =>
    "unsupported " ++ (match family with
      | .sandbox => "sandbox"
      | .runtime => "runtime") ++ " capability: " ++ capability
  | timeout operation timeoutMs =>
    "operation " ++ operation ++ " timed out after " ++ toString timeoutMs ++ " ms"
  | unavailable message => "session unavailable: " ++ message
  | quotaExceeded scope limit =>
    "tenant quota exceeded: " ++ scope ++ " (limit " ++ toString limit ++ ")"
  | internal message => "internal session failure: " ++ message

/-- A joint operation the selected owner does not implement. -/
def unsupportedJoint (operation : String) : SessionDomainError :=
  .unsupportedCapability .runtime ("joint_" ++ operation)

/-! ## Callers -/

/-- The two trust worlds: the local operator and everybody else. -/
inductive Role where
  | admin
  | tenant
deriving DecidableEq, Repr

structure TenantQuota where
  maxSessions : Option Nat
  /-- Per-backend instance ceilings; a missing entry inherits the backend's default. -/
  maxSandboxes : List (String × Nat)
  maxRequestsPerMinute : Option Nat
deriving DecidableEq, Repr

/-- The key under which a tenant's rows are filed; rows without a tenant are the operator's. -/
def tenantKey (tenant : Option String) : String :=
  match tenant with
  | some id => "tenant/" ++ id
  | none => "admin"

/-! ## Parts of a record -/

inductive SessionStatus where
  | opening
  | idle
  | running
  | paused
  | failed
  | closed
deriving DecidableEq, Repr

inductive SandboxCapability where
  | exec
  | fileRead
  | fileWrite
  | pause
  | snapshot
  | network
deriving DecidableEq, Repr

inductive RuntimeCapability where
  | interaction
  | steering
  | fork
  | checkpoint
  | stateExport
  | modelOverride
  | reasoningControl
deriving DecidableEq, Repr

structure EffectiveCapabilities where
  sandbox : List SandboxCapability
  runtime : List RuntimeCapability
deriving DecidableEq, Repr

inductive IsolationBoundary where
  | host
  | process
  | container
  | virtualMachine
  | remote
deriving DecidableEq, Repr

inductive NetworkIsolation where
  | none
  | restricted
  | isolated
deriving DecidableEq, Repr

inductive WorkspaceAccess where
  | readOnly
  | readWrite
deriving DecidableEq, Repr

structure WorkspaceFacts where
  workspaceId : String
  root : String
  access : WorkspaceAccess
  revision : Option String
  metadata : Json
deriving DecidableEq, Repr

structure IsolationFacts where
  boundary : IsolationBoundary
  workspaceAccess : WorkspaceAccess
  network : NetworkIsolation
  metadata : Json
deriving DecidableEq, Repr

structure OpaqueRuntimeState where
  runtimeKind : String
  schemaVersion : Nat
  state : Json
deriving DecidableEq, Repr

inductive LlmApi where
  | openaiCompletions
  | openaiResponses
  | anthropicMessages
deriving DecidableEq, Repr

inductive LlmInput where
  | text
  | image
deriving DecidableEq, Repr

structure LlmCapabilities where
  reasoning : Option Bool
  input : Option (List LlmInput)
  contextWindow : Option Nat
  maxTokens : Option Nat
deriving DecidableEq, Repr

structure ResolvedLlm where
  provider : String
  model : String
  apiBase : Option String
  api : Option LlmApi
  capabilities : Option LlmCapabilities
  credentialSource : String
deriving DecidableEq, Repr

structure SessionLease where
  clientId : String
  clientPid : Option Nat
  clientHostname : Option String
  expiresAtMs : Nat
deriving DecidableEq, Repr

structure CheckpointLineage where
  parentRuntimeId : Option String
  sourceCheckpointId : Option String
deriving DecidableEq, Repr

/-! ## Joint bindings and records -/

/-- The identity of a joint execution binding. -/
structure JointBinding where
  ownerKind : String
  bindingId : String
  configurationRevision : String
deriving DecidableEq, Repr

/-- Every part of a binding's identity is filled in. -/
def JointBinding.validate (binding : JointBinding) : Except SessionDomainError Unit :=
  if [binding.ownerKind, binding.bindingId, binding.configurationRevision].any isBlank then
    .error (.unavailable "incomplete joint execution binding")
  else
    .ok ()

/-- What executes a session: a runtime and a sandbox of its own, or a joint owner. -/
inductive SessionExecutionBacking where
  | splitV1
  | jointV1 (binding : JointBinding)
deriving DecidableEq, Repr

def SessionExecutionBacking.joint : SessionExecutionBacking → Option JointBinding
  | .splitV1 => none
  | .jointV1 binding => some binding

structure SessionRecord where
  executionBacking : SessionExecutionBacking
  runtimeId : String
  conversationId : String
  senderId : String
  status : SessionStatus
  createdAtMs : Nat
  updatedAtMs : Nat
  workspace : WorkspaceFacts
  isolation : IsolationFacts
  capabilities : EffectiveCapabilities
  runtime : OpaqueRuntimeState
  llm : Option ResolvedLlm
  lease : Option SessionLease
  lineage : Option CheckpointLineage
  lastError : Option String
  tenantId : Option String
  createdBy : String
deriving DecidableEq, Repr

/-- `no_credentials` of a serialized record.  None of the record's own field names is a
credential's, so only its three free-form values are searched. -/
def SessionRecord.noCredentials (record : SessionRecord) : Bool :=
  Domain.noCredentials record.workspace.metadata &&
    Domain.noCredentials record.isolation.metadata && Domain.noCredentials record.runtime.state

/-- A checkpoint of a split session. -/
structure CheckpointRecord where
  checkpointId : String
  sourceRuntimeId : String
  providerSnapshotId : String
  runtimeState : OpaqueRuntimeState
  workspace : WorkspaceFacts
  isolation : IsolationFacts
  capabilities : EffectiveCapabilities
  ownerRef : String
  tenantId : Option String
  createdBy : Option String
  createdAtMs : Nat
deriving DecidableEq, Repr

/-- A checkpoint of a joint session. -/
structure JointCheckpointRecord where
  checkpointId : String
  sourceRuntimeId : String
  runtimeKind : String
  binding : JointBinding
  workspace : WorkspaceFacts
  isolation : IsolationFacts
  capabilities : EffectiveCapabilities
  tenantId : Option String
  ownerRef : String
  createdBy : Option String
  createdAtMs : Nat
deriving DecidableEq, Repr

end XGovernor.Domain
