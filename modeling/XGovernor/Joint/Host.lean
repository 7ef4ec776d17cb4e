import XGovernor.Joint.HostPolicy
import XGovernor.Joint.Lifecycle

/-!
# Host operations

Host bookkeeping uses the same transactions and fences as turns.  A Host operation keeps a
journal with one observation per step next to the native steps of the joint store, and
may delegate a cleanup that waits, without a fence, for dependencies.
-/

namespace XGovernor.Joint

open Domain Lib Tx

section

variable (codec : HostCodec)

/-! ## Targets -/

variable (t : HostTargetV1) (h : HostIntentV1) (p : HostCapabilityPolicyV1)

/-- The part of a target that does not depend on the store. -/
def targetShape : Bool :=
  t.schemaVersion = 1 && t.bindingGeneration ≠ 0 && t.rootRuntimeGeneration ≠ 0 &&
    t.nativeChildId ≠ "" && t.branchId ≠ "" && t.nativeChildId ≠ t.rootId &&
    t.ownerRef = t.tenantKey && t.deploymentId = p.deploymentId &&
    t.liveBinding.configurationRevision = p.configurationRevision &&
    t.workspaceMappingDigest = codec.hostDigest (.paths p.paths) &&
    t.sourceCheckpointId.isNone && t.sourcePairRef.isNone

/-- The live binding of a target: the session's, active, of the named Root, whose own binding
is active too. -/
def targetLive (db : Db) (t : HostTargetV1) : Bool :=
  (db.jointSessions.get? t.publicRuntimeId).any fun s =>
    (db.bindings.get? s.bindingId).any fun b =>
      (db.roots.get? b.rootId).any fun r =>
        (db.bindings.get? r.bindingId).any fun rb =>
          (db.hostRoots.get? r.bindingId).any fun hostGeneration =>
            s.bindingId = t.liveBinding.bindingId && b.state = .active &&
              b.generation = t.bindingGeneration && b.tenantKey = t.tenantKey &&
              b.ownerKind = t.liveBinding.ownerKind &&
              b.revision = t.liveBinding.configurationRevision && b.rootId = t.rootId &&
              r.bindingId = t.rootBindingId && rb.state = .active &&
              hostGeneration = t.rootRuntimeGeneration && r.ownerKind = b.ownerKind &&
              r.revision = b.revision && r.tenantKey = b.tenantKey &&
              [SessionStatus.idle, .failed].contains s.status

/-- A native object of the target is owned and present. -/
def targetOwns (db : Db) (t : HostTargetV1) (bindingId : String) (generation : Nat)
    (kind id : String) : Bool :=
  (db.objects.get? ⟨bindingId, generation, kind, id⟩).any fun object =>
    object.rootId = t.rootId && !object.absent

def validateTarget : StoreTx Unit := do
  checked p.validate
  require (targetShape codec t p) (conflict "invalid or unsupported exact Host target")
  let db ← Tx.get
  require (targetLive db t) (conflict "Host target is not an active owned live binding")
  let root ← queryRow (·.bindings) t.rootBindingId
  require (targetOwns db t t.rootBindingId root.generation "root" t.rootId &&
      targetOwns db t t.liveBinding.bindingId t.bindingGeneration "child" t.nativeChildId &&
      targetOwns db t t.liveBinding.bindingId t.bindingGeneration "branch" t.branchId)
    (conflict "Host target object ownership mismatch")
  let session ← queryRow (·.jointSessions) t.publicRuntimeId
  require (session.body.executionBacking.joint = some t.liveBinding &&
      tenantKey session.body.tenantId = t.tenantKey &&
      session.body.workspace.root = p.paths.workspaceBackendRoot)
    (conflict "Host Session mapping mismatch")

/-- The target and policy are the registered ones. -/
def requireConfigured (error : StoreError) :
    StoreTx Unit := do
  let configured ← queryRow (·.hostTargets) t.publicRuntimeId
  require (configured.target = t && configured.policy = p) error

/-! ## The journal -/

/-- The journal entry of a step is the one its native intent, or the read, calls for. -/
def stepMatches (i : Nat) (step : HostStepV1) : Except SessionDomainError Unit :=
  match h.prepared.native[i]? with
  | some n =>
    ensure (step.originalUuid = some n.operationId &&
        step.canonicalParamsDigest = codec.hostDigest (.params n.params) &&
        step.sdkOperationDigest = some n.digest && step.method = n.method)
      (.conflict "Host original step changed")
  | none =>
    ensure (step.originalUuid.isNone && step.sdkOperationDigest.isNone &&
        step.method = "thinkthread.read" &&
        step.canonicalParamsDigest = codec.hostDigest (.request h.prepared.request))
      (.conflict "read cannot have a native mutation identity")

/-- Every entry of the journal, from index `i` on. -/
def verifyJournal (h : HostIntentV1) : Nat → List HostStepV1 → Except SessionDomainError Unit
  | _, [] => .ok ()
  | i, step :: steps => do
    ensure (step.stepNo = i && step.targetDigest = h.access.targetDigest)
      (.conflict "Host step identity changed")
    stepMatches codec h i step
    verifyJournal h (i + 1) steps

/-- The checks on a stored Host record. -/
def verifyIntent : Except SessionDomainError Unit := do
  verifyRequest h.prepared
  let expected := nativeParams h.prepared.target h.prepared.request
  ensure (h.observations.length = max expected.length 1 && h.steps.length = h.observations.length)
    (.conflict "Host step journal shape changed")
  verifyJournal codec h 0 h.steps
  ensure (h.schemaVersion = 1 &&
      h.access.targetDigest = codec.hostDigest (.target h.prepared.target) &&
      h.access.policyDigest = codec.hostDigest (.policy h.prepared.policy) &&
      h.access.requestDigest = codec.hostDigest (.request h.prepared.request))
    (.conflict "Host record schema or digest mismatch")

/-- Reads and verifies a Host record. -/
def loadIntent (id : String) : StoreTx HostIntentV1 := do
  let db ← Tx.get
  let h ← expect (db.hostIntents.get? id) (conflict "Host parent record not found")
  checked (verifyIntent codec h)
  pure h

/-- `UPDATE joint_host_intents SET body=… WHERE intent_id=…`. -/
def saveIntent : StoreTx Unit :=
  updateHostIntents (fun id _ => id = h.access.admission.intentId) fun _ => h

variable (a : HostAccessTokenV1)

/-- The Host record of a token. -/
def checkToken : StoreTx HostIntentV1 := do
  let h ← loadIntent codec a.admission.intentId
  require (h.access = a) (conflict "Host request-bound token changed")
  pure h

/-- The stages in which a Host operation is active. -/
def activeStage (stage : Stage) : Bool :=
  [.prepared, .accepted, .unknown].contains stage

/-- The operation of a Host record still runs, holds its fence and has its target. -/
def checkActive (h : HostIntentV1) : StoreTx Unit := do
  let op ← operation a.admission
  require (activeStage op.stage && h.state ≠ .suspendedWaitingDependency)
    (conflict "Host operation is not active")
  checkFences op.request a.admission
  validateTarget codec h.prepared.target h.prepared.policy
  requireConfigured h.prepared.target h.prepared.policy
    (conflict "Host assembled configuration changed")

/-- `check(tx, access, true)`: the record of an active Host operation. -/
def checkIntent : StoreTx HostIntentV1 := do
  let h ← checkToken codec a
  checkActive codec a h
  pure h

/-- Every step was observed and settled, up to the first one that failed. -/
def allSettledFrom : Bool → List (Option HostObservationV1) → Bool
  | _, [] => true
  | failed, none :: rest => failed && allSettledFrom failed rest
  | failed, some o :: rest =>
    let settled := o.settled && o.state.isTerminal
    settled && allSettledFrom (failed || (settled && (o.error.isSome || o.state ≠ .completed))) rest

def allSettled : Bool :=
  allSettledFrom false h.observations

/-! ## Registration and admission -/

def registerHostTarget (target : HostTargetV1) (policy : HostCapabilityPolicyV1) :
    StoreTx Unit := do
  Tx.modify fun db => { db with hostRoots := db.hostRoots.add target.rootBindingId 1 }
  validateTarget codec target policy
  let db ← Tx.get
  match db.hostTargets.get? target.publicRuntimeId with
  | some old =>
    require (old.target = target && old.policy = policy)
      (conflict "Host target registration is immutable")
  | none => do
    insertHostTarget target.publicRuntimeId ⟨target, policy⟩
    insertHostWorkspace target.liveBinding.bindingId
      { generation := target.bindingGeneration
        epoch := 0
        dirty := false
        activeIntent := none
        lastSettled := none }

variable (prepared : HostPreparedV1) (epochs : Nat × Nat)

/-- The joint request that a Host operation is stored as. -/
def hostJointRequest : JointPrepareRequest :=
  { context := prepared.context
    binding := prepared.target.liveBinding
    rootId := prepared.target.rootId
    sourceId := prepared.target.publicRuntimeId
    exclusiveRoot := false
    parentBinding := none
    reservations := []
    native := prepared.native
    publicationInput := none
    turn := none }

/-- The journal of a new Host operation: one entry per native step, or one for the read. -/
def hostSteps (targetDigest : String) : List HostStepV1 :=
  if prepared.native.isEmpty then
    [{ stepNo := 0
       method := "thinkthread.read"
       originalUuid := none
       canonicalParamsDigest := codec.hostDigest (.request prepared.request)
       sdkOperationDigest := none
       targetDigest }]
  else prepared.native.zipIdx.map fun (n, stepNo) =>
    { stepNo
      method := n.method
      originalUuid := some n.operationId
      canonicalParamsDigest := codec.hostDigest (.params n.params)
      sdkOperationDigest := some n.digest
      targetDigest }

variable (access : HostAccessTokenV1)

/-- The record of a new Host operation. -/
def newHostIntent : HostIntentV1 :=
  { schemaVersion := 1
    prepared
    access
    state := .prepared
    observations := List.replicate (max prepared.native.length 1) none
    steps := hostSteps codec prepared access.targetDigest
    recoveryEvidence := []
    result := none
    cleanupState := .none
    artifactEvidence := none
    blockerId := none
    suspendedCleanupPlanId := none
    resumeJointStage := none }

/-- The owner has room for another Host operation. -/
def checkHostCapacity : StoreTx Unit := do
  let db ← Tx.get
  let inUse : String → HostAllocationRow → Bool := fun _ row =>
    row.owner = prepared.target.ownerRef && row.state ≠ .released
  let count := db.hostAllocations.count inUse
  let bytes := db.hostAllocations.sum fun id row => if inUse id row then row.bytes else 0
  let required := bytes + prepared.request.reservedBytes
  require (count < prepared.policy.maxInflight && required < 2 ^ 64 &&
      required ≤ prepared.policy.maxReservedBytes)
    (.domain (.quotaExceeded "host_resources" prepared.policy.maxInflight))

/-- Takes the source fence of the target's session; the Root must not be fenced. -/
def acquireHostFence : StoreTx (Nat × Nat) := do
  let t := prepared.target
  let root ← queryRow (·.fences) (.root, t.rootId)
  require root.holder.isNone (conflict "Host Root is fenced")
  ensureFence .source t.publicRuntimeId t.rootId t.tenantKey
  let source ← queryRow (·.fences) (.source, t.publicRuntimeId)
  require (source.rootId = t.rootId && source.tenantKey = t.tenantKey && source.holder.isNone)
    (conflict "Host source is fenced")
  takeFence .source t.publicRuntimeId prepared.context.intentId
  let source ← queryRow (·.fences) (.source, t.publicRuntimeId)
  pure (root.epoch, source.epoch)

/-- The token of a Host admission. -/
def hostAdmission : JointAdmission :=
  { intentId := prepared.context.intentId
    binding := prepared.target.liveBinding
    generation := prepared.target.bindingGeneration
    rootEpoch := epochs.1
    sourceEpoch := some epochs.2 }

/-- The token together with the digests of what it was given for. -/
def hostAccess : HostAccessTokenV1 :=
  { admission := hostAdmission prepared epochs
    targetDigest := codec.hostDigest (.target prepared.target)
    requestDigest := codec.hostDigest (.request prepared.request)
    policyDigest := codec.hostDigest (.policy prepared.policy) }

/-- The row of a new Host operation. -/
def hostOperationRow : OperationRow :=
  { request := hostJointRequest prepared
    admission := hostAdmission prepared epochs
    bindingId := prepared.target.liveBinding.bindingId
    tenantKey := prepared.target.tenantKey
    stage := .prepared
    publication := none }

/-- The admission of a Host operation whose id is new. -/
def admitHost : StoreTx HostAccessTokenV1 := do
  let id := prepared.context.intentId
  checkHostCapacity prepared
  let epochs ← acquireHostFence prepared
  insertOperation id (hostOperationRow prepared epochs)
  Tx.forEach prepared.native (insertStep id)
  insertHostAllocation id
    ⟨prepared.target.ownerRef, prepared.request.reservedBytes, .reserved⟩
  insertRef .hostHold id prepared.target.rootBindingId
  insertHostIntent id (newHostIntent codec prepared (hostAccess codec prepared epochs))
  pure (hostAccess codec prepared epochs)

def prepareHost : StoreTx HostAccessTokenV1 := do
  checked (verifyRequest prepared)
  validateTarget codec prepared.target prepared.policy
  requireConfigured prepared.target prepared.policy
    (conflict "Host configuration differs from registration")
  let db ← Tx.get
  if (db.operations.get? prepared.context.intentId).isSome then do
    let old ← loadIntent codec prepared.context.intentId
    require (old.prepared = prepared) (conflict "Host replay input changed")
    pure old.access
  else admitHost codec prepared

/-! ## Steps -/

/-- The blocker of a Host operation whose effects are not settled. -/
def unsettledBlocker (id : String) : String :=
  "host:" ++ id ++ ":unsettled"

/-- What a claimed step is recorded as. -/
def claimedObservation : HostObservationV1 :=
  { state := .unknown
    settled := false
    result := .null
    transfer := none
    exec := none
    error := some "claimed; delivery unknown"
    nativeOutcome := none }

variable (h : HostIntentV1)

/-- The record after the claim of a step. -/
def HostIntentV1.claimed (step : Nat) : HostIntentV1 :=
  { h with
    observations := h.observations.set step (some claimedObservation)
    state := .executing
    blockerId := some (unsettledBlocker h.access.admission.intentId) }

/-- A step may start when the one before it succeeded. -/
def previousSucceeded (step : Nat) : Bool :=
  step = 0 || ((h.observations[step - 1]?).join.any fun o =>
    o.settled && o.state = .completed && o.error.isNone)

/-- Marks the native step of a Host step as sent; the workspace of the target is dirty from
now on. -/
def claimNative (admission : JointAdmission) (native : Option JointNativeIntent) :
    StoreTx Unit := do
  let n ← expect native .sql
  updateSteps (fun key row => key = (admission.intentId, n.step) && row.outcome.isNone)
    fun row => { row with outcome := some sentUnknown }
  updateHostWorkspace
    (fun binding workspace => binding = admission.binding.bindingId &&
      workspace.generation = admission.generation)
    fun workspace => { workspace with
      epoch := workspace.epoch + 1
      dirty := true
      activeIntent := some admission.intentId }

/-- Claims the sole dispatch of a Host step. -/
def claimHostStep (step : Nat) : StoreTx Bool := do
  let h ← checkIntent codec access
  let id := access.admission.intentId
  require (step < h.observations.length && previousSucceeded h step)
    (conflict "Host previous step has not succeeded")
  if (h.observations[step]?).join.isSome then pure false
  else do
    Tx.when (!h.prepared.request.isRead) (claimNative access.admission h.prepared.native[step]?)
    setStage id .unknown
    saveIntent (h.claimed step)
    pure true

/-- The native payload of an observation. -/
def HostObservationV1.payload (o : HostObservationV1) : Json :=
  o.nativeOutcome.getD o.result

/-- Carries an observation over to the native step; a terminal one does not change. -/
def recordNative (id : String) (n : JointNativeIntent) (observation : HostObservationV1) :
    StoreTx Unit := do
  let row ← queryRow (·.steps) (id, n.step)
  let old ← expect row.outcome .sql
  require (!(old.state.isTerminal &&
      (old.state ≠ observation.state || old.payload ≠ observation.payload)))
    (conflict "native history is immutable")
  updateSteps (fun key _ => key = (id, n.step)) fun row =>
    { row with
      outcome := some
        { state := observation.state
          resources := []
          payload := observation.payload } }

/-- The record after an observation of a step; what is settled no longer blocks. -/
def HostIntentV1.observed (step : Nat) (observation : HostObservationV1) :
    HostIntentV1 :=
  let observations := h.observations.set step (some observation)
  { h with
    observations
    blockerId := if allSettledFrom false observations then none
      else some (unsettledBlocker h.access.admission.intentId)
    state := if observation.settled then .executing else .unknown }

/-- Records an observation of a claimed step. -/
def recordHostStep (step : Nat)
    (observation : HostObservationV1) : StoreTx Unit := do
  let h ← checkIntent codec access
  let id := access.admission.intentId
  let old ← expect (h.observations[step]?).join (conflict "Host step was not claimed")
  if old = observation then pure ()
  else do
    require (!old.settled) (conflict "Host terminal observation changed")
    require (!(observation.settled && !observation.state.isTerminal))
      (conflict "unsettled native result cannot settle Host")
    Tx.forSome h.prepared.native[step]? fun n => recordNative id n observation
    setStage id (if allSettled (h.observed step observation) then .accepted else .unknown)
    saveIntent (h.observed step observation)

def recordHostRecovery (evidence : Json) : StoreTx Unit := do
  let h ← checkIntent codec access
  require (h.recoveryEvidence.length < 64 && codec.encodedLength evidence ≤ 262144)
    (conflict "Host recovery evidence budget exhausted")
  saveIntent { h with recoveryEvidence := h.recoveryEvidence ++ [evidence] }

end

end XGovernor.Joint
