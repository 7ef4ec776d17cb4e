import XGovernor.Joint.Host

/-!
# Settlement and cleanup of Host operations

A Host operation ends by publishing its result, by failing as a stale read, or it
suspends its cleanup: the fence is given up while dependencies survive and is taken again,
under new epochs, when the cleanup resumes.
-/

namespace XGovernor.Joint

open Domain Lib Tx

section

variable (codec : HostCodec)

/-! ## Results -/

/-- The binding or Root generation that a read was admitted with is no longer current. -/
def readGenerationChanged (db : Db) (h : HostIntentV1) : Bool :=
  let t := h.prepared.target
  h.prepared.request.isRead &&
    !((db.jointSessions.get? t.publicRuntimeId).any fun s =>
      (db.bindings.get? s.bindingId).any fun b =>
        (db.hostRoots.get? t.rootBindingId).any fun root =>
          s.bindingId = t.liveBinding.bindingId && b.generation = t.bindingGeneration &&
            root = t.rootRuntimeGeneration)

/-- The hold of a Host operation on its Root and its allocation are given back. -/
def releaseHold (id : String) : StoreTx Unit := do
  updateHostAllocations (fun key _ => key = id) fun row => { row with state := .released }
  deleteRefs fun key _ => key = (.hostHold, id)

/-- `UPDATE joint_operations SET stage='settled',publication_json=… WHERE id=…`. -/
def settleStage (id : String) (result : Json) : StoreTx Unit :=
  updateOperations (fun key _ => key = id)
    fun row => { row with stage := .settled, publication := some (.host result) }

def hasError (result : Json) : Bool :=
  (result.get? "error").isSome

/-- The error of a read whose target changed meanwhile. -/
def staleReadError : String :=
  "artifact local binding generation changed during read"

def staleReadResult : Json :=
  .object [("error", .string staleReadError)]

/-- The record of a read that failed because it is stale. -/
def HostIntentV1.staleRead (h : HostIntentV1) : HostIntentV1 :=
  { h with
    observations := h.observations.set 0 (some
      { state := .failed
        settled := true
        result := .null
        transfer := none
        exec := none
        error := some staleReadError
        nativeOutcome := none })
    result := some staleReadResult
    artifactEvidence := none
    state := .failed
    cleanupState := .done
    blockerId := none }

variable (access : HostAccessTokenV1) (h : HostIntentV1) (result : Json)

/-- A stale read has no native effects: it fails, and only its unchanged fence epochs are
released. -/
def failStaleRead : StoreTx Json := do
  let h ← checkToken codec access
  let id := access.admission.intentId
  match h.result with
  | some result => pure result
  | none => do
    let db ← Tx.get
    require (h.prepared.native.isEmpty && readGenerationChanged db h)
      (conflict "only a stale read can fail without current target admission")
    let op ← operation access.admission
    require (activeStage op.stage && h.state ≠ .suspendedWaitingDependency)
      (conflict "Host operation is not active")
    let root ← queryRow (·.fences) (.root, op.request.rootId)
    let source ← queryRow (·.fences) (.source, op.request.sourceId)
    require (!op.request.exclusiveRoot && root.epoch = access.admission.rootEpoch &&
        root.holder.isNone && some source.epoch = access.admission.sourceEpoch &&
        source.holder = some id)
      (conflict "stale read fence changed")
    settleStage id staleReadResult
    releaseHold id
    updateHostWorkspace
      (fun binding workspace => binding = access.admission.binding.bindingId &&
        workspace.generation = access.admission.generation &&
        (workspace.activeIntent = some id || workspace.activeIntent.isNone))
      fun workspace => { workspace with
        dirty := false
        activeIntent := none
        lastSettled := some id }
    releaseFences id
    saveIntent h.staleRead
    pure staleReadResult

/-- The evidence of a read: the bytes of the result are the ones that were transferred, at a
revision that did not change meanwhile. -/
def artifactEvidence (before after : String) : StoreTx ArtifactEvidenceV1 := do
  requireStableBoundary access.admission.binding.bindingId
  require (before ≠ "" && before = after && !hasError result)
    (conflict "artifact revision is not stable")
  let path ← expect
    (match h.prepared.request with
      | .read path _ => some path
      | _ => none)
    (conflict "artifact requires a read")
  let transfer ← expect ((h.observations[0]?).join.bind (·.transfer))
    (conflict "artifact transfer missing")
  let encoded ← expect ((result.get? "data_base64").bind (·.asStr?))
    (conflict "artifact bytes missing")
  let bytes ← expect (codec.decodeBase64 encoded) (conflict "artifact encoding invalid")
  require (transfer.observedSize = some bytes.length &&
      transfer.observedSha256 = some (codec.hostBytesDigest bytes) && transfer.state = "completed")
    (conflict "artifact bytes do not match transfer")
  let workspace ← queryRow (·.hostWorkspace) access.admission.binding.bindingId
  let t := h.prepared.target
  pure
    { artifactId := "artifact:" ++ access.admission.intentId
      readIntentId := access.admission.intentId
      publicRuntimeId := t.publicRuntimeId
      liveBindingId := t.liveBinding.bindingId
      nativeChildId := t.nativeChildId
      branchId := t.branchId
      bindingGeneration := t.bindingGeneration
      rootRuntimeGeneration := t.rootRuntimeGeneration
      configurationRevision := h.prepared.policy.configurationRevision
      contentRevisionBefore := before
      contentRevisionAfter := after
      workspaceEpoch := workspace.epoch
      relativePath := path
      byteLength := bytes.length
      sha256 := codec.hostBytesDigest bytes
      completeness := true
      sourceCheckpointId := t.sourceCheckpointId
      sourcePairRef := t.sourcePairRef
      loadIntentId := none
      bytesRef := none }

variable (revisions : Option (String × String))

/-- The evidence a result is published with: a read that succeeds needs one. -/
def publishedEvidence : StoreTx (Option ArtifactEvidenceV1) :=
  match revisions with
  | some (before, after) => do
    let evidence ← artifactEvidence codec access h result before after
    pure (some evidence)
  | none => do
    require (!(h.prepared.request.isRead && !hasError result))
      (conflict "successful read requires artifact evidence")
    pure h.artifactEvidence

/-- A failed write whose postcondition was confirmed leaves nothing to clean up. -/
def reconciledFailure : Bool :=
  hasError result && h.recoveryEvidence.any fun e =>
    e.field "kind" = .string "failed_write_postcondition" && e.field "confirmed" = .bool true &&
      e.field "target_digest" = .string access.targetDigest &&
      (e.field "step").asNat?.any fun step =>
        (h.prepared.native[step]?.any fun n =>
          n.method = "thinkthread.write" && e.field "original_uuid" = .string n.operationId) &&
        (h.observations[step]?).join.any fun o =>
          o.settled && o.state = .failed &&
            o.nativeOutcome.any fun v => v.field "state" = .string "failed"

/-- The record with its result; a cleanup stays pending unless nothing is left to do. -/
def HostIntentV1.published
    (evidence : Option ArtifactEvidenceV1) (finished : Bool) : HostIntentV1 :=
  { h with
    artifactEvidence := evidence
    result := some result
    state := if hasError result then .failed else .completed
    cleanupState := if finished then .done else .pending
    blockerId := none }

/-- The first publication of a Host result by an active operation. -/
def publishHost : StoreTx Json := do
  let h ← checkIntent codec access
  let id := access.admission.intentId
  let unsent := h.observations.all Option.isNone
  require (allSettled h || (unsent && hasError result))
    (conflict "Host effects or execution are not settled")
  let db ← Tx.get
  require (!(db.hostCleanup.get? id).any fun cleanup => cleanup.state ≠ .done)
    (conflict "Host cleanup delegation is pending")
  require (!(!unsent && !hasError result && h.observations.any fun o =>
      !o.any fun v => v.state = .completed && v.error.isNone))
    (conflict "failed Host cannot publish success")
  let evidence ← publishedEvidence codec access h result revisions
  let finished := unsent || reconciledFailure access h result
  Tx.when finished (releaseHold id)
  settleStage id result
  updateHostWorkspace
    (fun binding workspace => binding = access.admission.binding.bindingId &&
      (workspace.activeIntent = some id || workspace.activeIntent.isNone))
    fun workspace => { workspace with
      dirty := false
      activeIntent := none
      lastSettled := some id }
  releaseFences id
  saveIntent (h.published result evidence finished)
  pure result

def settleHost : StoreTx Json := do
  let old ← checkToken codec access
  let db ← Tx.get
  match old.result with
  | some published => do
    require (published = result) (conflict "Host result replay changed")
    pure result
  | none =>
    if revisions.isSome && readGenerationChanged db old then failStaleRead codec access
    else publishHost codec access result revisions

def finishHost : StoreTx Json :=
  settleHost codec access result none

def failStaleHostRead : StoreTx Json :=
  failStaleRead codec access

def finishHostRead (revisionBefore revisionAfter : String) : StoreTx Json :=
  settleHost codec access result (some (revisionBefore, revisionAfter))

/-! ## Cleanup -/

/-- The child operation of a cleanup: the parent's request and token under the child's id. -/
def cleanupOperationRow (op : OperationRow) (access : HostAccessTokenV1)
    (h : HostIntentV1) (childId : String) : OperationRow :=
  { request := { op.request with
      context := { op.request.context with
        intentId := childId
        operation := .hostCleanup }
      native := [] }
    admission := { access.admission with intentId := childId }
    bindingId := access.admission.binding.bindingId
    tenantKey := h.prepared.target.tenantKey
    stage := .accepted
    publication := none }

/-- Delegates the cleanup of a settled operation to a child operation with the parent's
token. -/
def prepareHostCleanup (childId : String) (dependencies : List String) : StoreTx Unit := do
  let h ← checkIntent codec access
  let parentId := access.admission.intentId
  require (allSettled h && childId ≠ "" && !dependencies.isEmpty)
    (conflict "cleanup requires settled execution and owned dependencies")
  let op ← operation access.admission
  insertOperation childId (cleanupOperationRow op access h childId)
  insertHostCleanup parentId ⟨childId, .prepared, true⟩
  Tx.forEach dependencies fun d => do
    require (d ≠ "") (conflict "empty dependency")
    insertHostDependency parentId d
  saveIntent { h with cleanupState := .delegated }

/-- Some dependency of the parent is not released. -/
def waitingDependency (db : Db) (parentId : String) : Bool :=
  db.hostDependencies.any fun key released => key.1 = parentId && !released

/-- The record of a cleanup that waits. -/
def HostIntentV1.suspended (childId : String) (stage : Stage) : HostIntentV1 :=
  { h with
    suspendedCleanupPlanId := some childId
    resumeJointStage := some stage
    blockerId := some ("host:" ++ h.access.admission.intentId ++ ":dependency")
    state := .suspendedWaitingDependency }

/-- Gives up the fence of a settled operation while its cleanup waits. -/
def suspendHostCleanup : StoreTx Unit := do
  let h ← checkIntent codec access
  let id := access.admission.intentId
  require (allSettled h) (conflict "unknown execution cannot suspend")
  let cleanup ← queryRow (·.hostCleanup) id
  require (cleanup.state = .prepared) (conflict "cleanup cannot suspend")
  let db ← Tx.get
  require (waitingDependency db id) (conflict "cleanup has no dependency wait")
  let op ← queryRow (·.operations) id
  updateOperations (fun key _ => key = id || key = cleanup.childId)
    fun row => { row with stage := .suspendedWaitingDependency }
  updateHostCleanup (fun key _ => key = id)
    fun row => { row with state := .waitingDependency, delegated := false }
  releaseFences id
  saveIntent (h.suspended cleanup.childId op.stage)

def releaseHostDependency (dependency : String) : StoreTx Unit := do
  let _ ← checkToken codec access
  let db ← Tx.get
  require (db.hostDependencies.get? (access.admission.intentId, dependency)).isSome
    (conflict "dependency is not owned")
  updateHostDependencies (fun key _ => key = (access.admission.intentId, dependency))
    fun _ => true

/-- `UPDATE joint_operations SET stage='accepted',admission_json=… WHERE id=… AND
stage='suspended_waiting_dependency'`, of exactly one row. -/
def resumeOperation (admission : JointAdmission) : StoreTx Unit := do
  let db ← Tx.get
  require ((db.operations.get? admission.intentId).any fun row =>
      row.stage = .suspendedWaitingDependency)
    (conflict "parent/child phase changed")
  updateOperations (fun key _ => key = admission.intentId)
    fun row => { row with stage := .accepted, admission }

/-- The suspended plan, its dependencies, its allocation and its hold are unchanged. -/
def checkResume : StoreTx HostCleanupRow := do
  let id := access.admission.intentId
  let t := h.prepared.target
  require (h.state = .suspendedWaitingDependency) (conflict "Host cleanup is not suspended")
  validateTarget codec t h.prepared.policy
  requireConfigured t h.prepared.policy
    (conflict "Host configuration changed during dependency wait")
  let cleanup ← queryRow (·.hostCleanup) id
  require (h.suspendedCleanupPlanId = some cleanup.childId && h.resumeJointStage = some .accepted)
    (conflict "Host suspended cleanup plan changed")
  let db ← Tx.get
  let allocation := (db.hostAllocations.get? id).any fun row =>
    row.owner = t.ownerRef && row.state ≠ .released
  let hold := decide (db.refs.get? (.hostHold, id) = some t.rootBindingId)
  require (!waitingDependency db id && allocation && hold && cleanup.state = .waitingDependency)
    (conflict "Host dependency, owner or allocation changed")
  pure cleanup

/-- The record of a cleanup that runs again, under its new token. -/
def HostIntentV1.resumed (access : HostAccessTokenV1) : HostIntentV1 :=
  { h with
    access
    state := .executing
    blockerId := none
    suspendedCleanupPlanId := none
    resumeJointStage := none }

/-- Takes the source fence again and hands out a token with the new epochs. -/
def resumeHostCleanup : StoreTx HostAccessTokenV1 := do
  let h ← checkToken codec access
  let id := access.admission.intentId
  let t := h.prepared.target
  let cleanup ← checkResume codec access h
  let root ← queryRow (·.fences) (.root, t.rootId)
  require root.holder.isNone (conflict "Root is fenced")
  let db ← Tx.get
  require ((db.fences.get? (.source, t.publicRuntimeId)).any fun fence =>
      fence.holder.isNone)
    (conflict "source is fenced")
  takeFence .source t.publicRuntimeId id
  let source ← queryRow (·.fences) (.source, t.publicRuntimeId)
  let admission : JointAdmission :=
    { access.admission with
      sourceEpoch := some source.epoch
      rootEpoch := root.epoch }
  resumeOperation admission
  resumeOperation { admission with intentId := cleanup.childId }
  updateHostCleanup (fun key _ => key = id)
    fun row => { row with state := .prepared, delegated := true }
  let resumed := { access with admission }
  saveIntent (h.resumed resumed)
  pure resumed

/-- Ends the delegation of a running operation. -/
def endDelegation : StoreTx Unit := do
  let id := access.admission.intentId
  checkActive codec access h
  require (allSettled h && h.cleanupState = .delegated)
    (conflict "cleanup cannot release unknown execution or an absent delegation")
  let db ← Tx.get
  let cleanup ← expect
    ((db.hostCleanup.get? id).filter fun cleanup =>
      cleanup.state = .prepared && cleanup.delegated)
    (conflict "cleanup delegation is not active")
  require (!waitingDependency db id) (conflict "cleanup has surviving dependencies")
  setStage cleanup.childId .settled
  updateHostCleanup (fun key _ => key = id)
    fun row => { row with state := .done, delegated := false }
  saveIntent { h with cleanupState := .none }

/-- Ends a delegation before the result is published, and gives the hold back after. -/
def finishHostCleanup : StoreTx Unit := do
  let h ← checkToken codec access
  if h.cleanupState = .done then pure ()
  else if h.result.isNone then endDelegation codec access h
  else do
    releaseHold access.admission.intentId
    saveIntent { h with cleanupState := .done }

end

end XGovernor.Joint
