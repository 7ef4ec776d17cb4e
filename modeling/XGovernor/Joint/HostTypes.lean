import XGovernor.Joint.Types

/-!
# Data of Host operations

Targets, policies, canonical requests and the durable journal of a Host operation.
Digests and the decoding of transferred bytes come from libraries, so they are
parameters (`HostCodec`).
-/

namespace XGovernor.Joint

open Domain

structure HostPathPolicyV1 where
  workspaceBackendRoot : String
  fsRelativeWorkspace : String
  homeRelative : Option String
  mappingVersion : Nat
deriving DecidableEq, Repr

structure HostCapabilityPolicyV1 where
  schemaVersion : Nat
  configurationRevision : String
  deploymentId : String
  backendReleaseRef : String
  sdkFingerprint : String
  frozenHostConfigDigest : String
  evidenceRefs : List String
  paths : HostPathPolicyV1
  exec : Bool
  read : Bool
  overwrite : Bool
  maxTimeoutMs : Nat
  maxOutputBytes : Nat
  maxArgvItems : Nat
  maxArgvBytes : Nat
  maxFileBytes : Nat
  maxInflight : Nat
  maxReservedBytes : Nat
  mkdirTimeoutMs : Nat
  exitedSettlementDeclared : Bool
  timeoutSettlementDeclared : Bool
deriving DecidableEq, Repr

structure HostMkdirV1 where
  argv : List String
  cwd : String
  timeoutMs : Nat
  maxOutputBytes : Nat
deriving DecidableEq, Repr

inductive HostCanonicalRequestV1 where
  | exec (argv : List String) (cwd : String) (timeoutMs : Nat) (maxOutputBytes : Nat)
  | read (path : String) (maxBytes : Nat)
  | write (path : String) (size : Nat) (sha256 : String) (maxBytes : Nat)
      (mkdir : Option HostMkdirV1)
deriving DecidableEq, Repr

namespace HostCanonicalRequestV1

def operation : HostCanonicalRequestV1 → Operation
  | exec .. => .hostExec
  | read .. => .hostRead
  | write .. => .hostWrite

def reservedBytes : HostCanonicalRequestV1 → Nat
  | exec _ _ _ maxOutputBytes => maxOutputBytes
  | read _ maxBytes => maxBytes
  | write _ size _ _ _ => size

def isRead : HostCanonicalRequestV1 → Bool
  | read .. => true
  | _ => false

end HostCanonicalRequestV1

structure HostTargetV1 where
  schemaVersion : Nat
  publicRuntimeId : String
  liveBinding : JointBinding
  tenantKey : String
  ownerRef : String
  deploymentId : String
  rootBindingId : String
  rootId : String
  nativeChildId : String
  branchId : String
  bindingGeneration : Nat
  /-- Local recovery epoch; a reconnect cannot establish it. -/
  rootRuntimeGeneration : Nat
  workspaceMappingDigest : String
  sourceCheckpointId : Option String
  sourcePairRef : Option String
deriving DecidableEq, Repr

structure HostPreparedV1 where
  context : JointOperationContext
  target : HostTargetV1
  policy : HostCapabilityPolicyV1
  request : HostCanonicalRequestV1
  native : List JointNativeIntent
deriving DecidableEq, Repr

structure HostAccessTokenV1 where
  admission : JointAdmission
  targetDigest : String
  requestDigest : String
  policyDigest : String
deriving DecidableEq, Repr

structure HostFileTransferV1 where
  relativePath : String
  expectedSize : Option Nat
  expectedSha256 : Option String
  observedSize : Option Nat
  observedSha256 : Option String
  state : String
deriving DecidableEq, Repr

structure HostExecOutcomeV1 where
  reason : String
  code : Option Int
  stdoutLen : Nat
  stderrLen : Nat
  stdoutDigest : String
  stderrDigest : String
  timedOut : Bool
  completeness : Bool
deriving DecidableEq, Repr

structure HostObservationV1 where
  state : NativeOperationState
  settled : Bool
  result : Json
  transfer : Option HostFileTransferV1
  exec : Option HostExecOutcomeV1
  error : Option String
  nativeOutcome : Option Json
deriving DecidableEq, Repr

structure HostStepV1 where
  stepNo : Nat
  method : String
  originalUuid : Option String
  canonicalParamsDigest : String
  sdkOperationDigest : Option String
  targetDigest : String
deriving DecidableEq, Repr

structure ArtifactEvidenceV1 where
  artifactId : String
  readIntentId : String
  publicRuntimeId : String
  liveBindingId : String
  nativeChildId : String
  branchId : String
  bindingGeneration : Nat
  rootRuntimeGeneration : Nat
  configurationRevision : String
  contentRevisionBefore : String
  contentRevisionAfter : String
  workspaceEpoch : Nat
  relativePath : String
  byteLength : Nat
  sha256 : String
  completeness : Bool
  sourceCheckpointId : Option String
  sourcePairRef : Option String
  loadIntentId : Option String
  bytesRef : Option String
deriving DecidableEq, Repr

inductive HostState where
  | prepared
  | executing
  | unknown
  | suspendedWaitingDependency
  | failed
  | completed
deriving DecidableEq, Repr

inductive HostCleanupState where
  | none
  | delegated
  | pending
  | done
deriving DecidableEq, Repr

structure HostIntentV1 where
  schemaVersion : Nat
  prepared : HostPreparedV1
  access : HostAccessTokenV1
  state : HostState
  observations : List (Option HostObservationV1)
  steps : List HostStepV1
  recoveryEvidence : List Json
  result : Option Json
  cleanupState : HostCleanupState
  artifactEvidence : Option ArtifactEvidenceV1
  blockerId : Option String
  suspendedCleanupPlanId : Option String
  resumeJointStage : Option Stage
deriving DecidableEq, Repr

/-- The values that `host_digest` is taken of. -/
inductive HostDigestInput where
  | target (value : HostTargetV1)
  | policy (value : HostCapabilityPolicyV1)
  | paths (value : HostPathPolicyV1)
  | request (value : HostCanonicalRequestV1)
  | params (value : Json)

/-- Library functions of the Host bookkeeping: SHA-256 of a serialized value and of bytes,
the length of a serialized value, and base64 decoding. -/
structure HostCodec where
  hostDigest : HostDigestInput → String
  hostBytesDigest : List UInt8 → String
  encodedLength : Json → Nat
  decodeBase64 : String → Option (List UInt8)

end XGovernor.Joint
