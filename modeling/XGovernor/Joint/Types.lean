import XGovernor.Domain.Session

/-!
# Data of the joint store

Requests, admission tokens, native steps and their outcomes, turns, and the control
records of cancellation.  The stored form of a value is the value itself, except where
serialization drops a field (`JointPrepareRequest.encode`).
-/

namespace XGovernor.Joint

open Domain

/-! ## Operations -/

/-- The operation a request asks for.  `other` is any name the store does not know. -/
inductive Operation where
  | openSession
  | load
  | checkpoint
  | close
  | deleteCheckpoint
  | turn
  | cancel
  | hostExec
  | hostRead
  | hostWrite
  | hostCleanup
  | other (name : String)
deriving DecidableEq, Repr

namespace Operation

/-- `operation.starts_with("host_")`; unknown names are never stored. -/
def isHost : Operation → Bool
  | hostExec | hostRead | hostWrite | hostCleanup => true
  | _ => false

/-- The operations that create a binding. -/
def creates : Operation → Bool
  | openSession | load | checkpoint => true
  | _ => false

/-- The operations that end a binding's public reference. -/
def releases : Operation → Bool
  | close | deleteCheckpoint => true
  | _ => false

end Operation

/-- Created by the application after authorization; it contains no credentials. -/
structure JointOperationContext where
  intentId : String
  operation : Operation
  tenantId : Option String
  ownerRef : String
  principal : String
  actorRole : Role
  quota : TenantQuota
  runtimeKind : String
  configurationRevision : String
  sourceRuntimeId : Option String
  targetRuntimeId : Option String
  checkpointId : Option String
deriving DecidableEq, Repr

/-! ## Native steps -/

inductive NativeEffect where
  | create
  | mutate
  | remove
  | observeAbsence
deriving DecidableEq, Repr

structure JointNativeObject where
  kind : String
  id : String
deriving DecidableEq, Repr

structure JointNativeIntent where
  step : String
  operationId : String
  digest : String
  method : String
  params : Json
  effect : NativeEffect
  compensation : Bool
deriving DecidableEq, Repr

inductive NativeOperationState where
  | notSent
  | accepted
  | unknown
  | completed
  | failed
  | needsRecovery
deriving DecidableEq, Repr

/-- `state IN ('completed','failed','not_sent')`. -/
def NativeOperationState.isTerminal : NativeOperationState → Bool
  | completed | failed | notSent => true
  | accepted | unknown | needsRecovery => false

structure JointNativeOutcome where
  state : NativeOperationState
  resources : List JointNativeObject
  payload : Json
deriving DecidableEq, Repr

/-- What is recorded when a send is claimed: the message may or may not have left. -/
def sentUnknown : JointNativeOutcome where
  state := .unknown
  resources := []
  payload := .object [("delivery", .string "sent_unknown")]

/-! ## Requests and admissions -/

inductive ResourceKind where
  | session
  | root
  | replica
  | checkpoint
  | repair
  | disk
  | other (name : String)
deriving DecidableEq, Repr

/-- The text of a resource kind, as quota errors name it. -/
def ResourceKind.text : ResourceKind → String
  | session => "session"
  | root => "root"
  | replica => "replica"
  | checkpoint => "checkpoint"
  | repair => "repair"
  | disk => "disk"
  | other name => name

structure JointResourceReservation where
  kind : ResourceKind
  units : Nat
  /-- Legacy decoding only: admission uses the repository's own policy. -/
  limit : Nat
deriving DecidableEq, Repr

/-- Capacity of one resource kind.  The policy loader refuses a reserve above the total. -/
structure JointResourceBudget where
  total : Nat
  recoveryReserve : Nat
  reserve_le_total : recoveryReserve ≤ total

/-- Omitted resource kinds have zero capacity. -/
abbrev JointBudgetPolicy := ResourceKind → Option JointResourceBudget

/-- Public correlation retained before the first native Message admission. -/
structure JointTurnIdentity where
  turnId : String
  clientRequestId : Option String
  inputDigest : String
deriving DecidableEq, Repr

structure JointPrepareRequest where
  context : JointOperationContext
  binding : JointBinding
  rootId : String
  sourceId : String
  exclusiveRoot : Bool
  parentBinding : Option JointBinding
  reservations : List JointResourceReservation
  native : List JointNativeIntent
  publicationInput : Option SessionRecord
  turn : Option JointTurnIdentity
deriving DecidableEq, Repr

/-- The stored form of a request: a reservation's legacy limit is not serialized. -/
def JointPrepareRequest.encode (request : JointPrepareRequest) : JointPrepareRequest :=
  { request with
    reservations := request.reservations.map fun reservation => { reservation with limit := 0 } }

structure JointAdmission where
  intentId : String
  binding : JointBinding
  generation : Nat
  rootEpoch : Nat
  sourceEpoch : Option Nat
deriving DecidableEq, Repr

/-! ## Stages -/

/-- The stage of an operation.  `releasing` is tested for but never assigned. -/
inductive Stage where
  | prepared
  | accepted
  | unknown
  | releasing
  | compensating
  | published
  | released
  | compensated
  | settled
  | suspendedWaitingDependency
deriving DecidableEq, Repr

/-- The state of a binding. -/
inductive BindingState where
  | prepared
  | compensating
  | active
  | releasing
  | removed
deriving DecidableEq, Repr

inductive ReservationState where
  | reserved
  | committed
  | released
deriving DecidableEq, Repr

/-! ## Publications and turns -/

/-- What an operation published: a record of its own, or the result of a Host operation. -/
inductive JointPublication where
  | session (record : SessionRecord)
  | checkpoint (record : JointCheckpointRecord)
  | host (result : Json)
deriving DecidableEq, Repr

structure JointTurnTerminal where
  cancelled : Bool
  executionInvalidated : Bool
  messageId : Option String
  reply : Option String
  failure : Option String
  completedAtMs : Nat
deriving DecidableEq, Repr

structure JointTurnRecord where
  runtimeId : String
  identity : JointTurnIdentity
  admission : JointAdmission
  terminal : Option JointTurnTerminal
deriving DecidableEq, Repr

/-! ## Cancellation -/

structure JointCancelControl where
  admission : JointAdmission
  native : Option JointNativeIntent
  outcome : Option JointNativeOutcome
deriving DecidableEq, Repr

structure JointWorkspaceBoundary where
  binding : JointBinding
  generation : Nat
  cancelEpoch : Nat
  checkpointEpoch : Nat
deriving DecidableEq, Repr

/-- An observation ticket, registered before an external checkpoint request. -/
structure JointCheckpointBoundaryObservation where
  boundary : JointWorkspaceBoundary
  native : JointNativeIntent
deriving DecidableEq, Repr

end XGovernor.Joint
