import XGovernor.Joint.Admission

/-!
# The life of an admitted operation

Sending and recording native steps, publishing what was created, finishing turns,
compensating what was not published, and releasing what was.  Each definition is one
immediate transaction of the repository.
-/

namespace XGovernor.Joint

open Domain Lib Tx

variable (admission : JointAdmission) (op : OperationRow)

/-- `UPDATE joint_operations SET stage=… WHERE id=…`. -/
@[simp] def setStage (id : String) (stage : Stage) : StoreTx Unit :=
  updateOperations (fun key _ => key = id) fun row => { row with stage }

/-- `UPDATE joint_operations SET stage=CASE WHEN stage='compensating' THEN stage ELSE … END`. -/
@[simp] def advanceStage (id : String) (stage : Stage) : StoreTx Unit :=
  updateOperations (fun key _ => key = id) fun row =>
    { row with stage := if row.stage = .compensating then row.stage else stage }

@[simp] def setBindingState (id : String) (state : BindingState) : StoreTx Unit :=
  updateBindings (fun key _ => key = id) fun row => { row with state }

/-! ## Native steps -/

/-- Claims the sole initial send.  A crash after this commit requires an exact query. -/
def claimJointNativeSend (step : String) :
    StoreTx (Option JointNativeIntent) := do
  let op ← operation admission
  refuseHost op.request
  checkFences op.request admission
  require ([.prepared, .accepted, .unknown, .compensating].contains op.stage)
    (conflict "joint operation no longer permits sending")
  let row ← queryRow (·.steps) (admission.intentId, step)
  require (row.native.compensation == (op.stage = .compensating))
    (conflict "native dispatch phase mismatch")
  if row.outcome.isSome then pure none
  else do
    updateSteps (fun key _ => key = (admission.intentId, step))
      fun row => { row with outcome := some sentUnknown }
    Tx.when (op.request.context.operation = .turn) <|
      updateHostWorkspace
        (fun id workspace => id = admission.binding.bindingId &&
          workspace.generation = admission.generation)
        fun workspace => { workspace with
          epoch := workspace.epoch + 1
          dirty := true
          activeIntent := some admission.intentId }
    advanceStage admission.intentId .unknown
    pure (some row.native)

/-- Adds a native step to an operation that still admits one. -/
def appendJointNativeStep (native : JointNativeIntent) :
    StoreTx Unit := do
  validated (validateNative native)
  let op ← operation admission
  refuseHost op.request
  checkFences op.request admission
  require ([.prepared, .accepted, .unknown, .releasing, .compensating].contains op.stage)
    (conflict "joint operation no longer admits native steps")
  require (native.compensation == (op.stage = .compensating))
    (conflict "native append phase mismatch")
  let db ← Tx.get
  match db.steps.get? (admission.intentId, native.step) with
  | some old => require (old.native = native) (conflict "joint native identity conflict")
  | none => insertStep admission.intentId native

/-- The resources known before, followed by those that are new in this observation. -/
def mergeResources (old incoming : List JointNativeObject) : List JointNativeObject :=
  incoming.foldl (fun known resource =>
    if known.contains resource then known else known ++ [resource]) old

/-- The outcome that is stored: what was retained before is not lost by an observation that
does not repeat it. -/
def mergeOutcome (old : Option JointNativeOutcome) (outcome : JointNativeOutcome) :
    JointNativeOutcome :=
  match old with
  | none => outcome
  | some old => { outcome with resources := mergeResources old.resources outcome.resources }

/-- A reported resource has an identity; a create step owns nothing it did not send, and only
`open` owns a Root. -/
def checkResource (native : JointNativeIntent)
    (state : NativeOperationState) (resource : JointNativeObject) : StoreTx Unit := do
  require (nonempty resource.id && nonempty resource.kind)
    (conflict "invalid native object identity")
  require (!(native.effect = .create && state = .notSent))
    (conflict "not-sent operation cannot own objects")
  require (!(native.effect = .create && resource.kind = "root" &&
      op.request.context.operation ≠ .openSession))
    (conflict "shared Root requires parent reference")

/-- `INSERT INTO joint_objects … ON CONFLICT DO UPDATE SET absent=0`: a sighting.  An object
that is present has one owner in its Root. -/
def sightObject (key : ObjectKey) (rootId : String) : StoreTx Unit := do
  let db ← Tx.get
  let owner := ((db.objects.get? key).map (·.rootId)).getD rootId
  require (!db.objects.any fun other row =>
      other ≠ key && !row.absent && row.rootId = owner && other.kind = key.kind &&
        other.nativeId = key.nativeId)
    .sql
  updateObjects (fun other _ => other = key) fun row => { row with absent := false }
  addObject key ⟨rootId, false⟩

/-- `UPDATE joint_objects SET absent=1`: an absence, which must be of an object that this
binding generation owns. -/
def observeAbsence (key : ObjectKey) : StoreTx Unit := do
  let db ← Tx.get
  require (db.objects.get? key).isSome
    (conflict "absence does not belong to the joint binding generation")
  updateObjects (fun other _ => other = key) fun row => { row with absent := true }

/-- What one observed resource does to the objects of the binding. -/
def recordResource (admission : JointAdmission)
    (native : JointNativeIntent) (state : NativeOperationState) (resource : JointNativeObject) :
    StoreTx Unit := do
  let key : ObjectKey :=
    { bindingId := admission.binding.bindingId
      generation := admission.generation
      kind := resource.kind
      nativeId := resource.id }
  Tx.when (native.effect = .create) (sightObject key op.request.rootId)
  Tx.when (state = .completed && native.effect = .observeAbsence) (observeAbsence key)

/-- The stage of an operation after a report about one of its steps. -/
def reportedStage (db : Db) (id : String) : Stage :=
  if db.steps.any (fun key row => key.1 = id && row.outcome.all fun outcome =>
      [.unknown, .needsRecovery, .failed].contains outcome.state) then .unknown
  else .accepted

/-- Records what is known about a native step.  A terminal result does not change, resources
once reported stay, and every reported object is tracked until its absence is observed. -/
def recordJointNativeResult (step operationId digest : String)
    (outcome : JointNativeOutcome) : StoreTx Unit := do
  require (noCredentials outcome.payload)
    (.domain (.invalidRequest "credential-bearing native result"))
  let op ← operation admission
  refuseHost op.request
  checkFences op.request admission
  require ([.prepared, .accepted, .unknown, .releasing, .compensating].contains op.stage)
    (conflict "joint result belongs to a settled operation")
  let row ← queryRow (·.steps) (admission.intentId, step)
  require (row.native.operationId = operationId && row.native.digest = digest)
    (conflict "joint native result identity mismatch")
  let merged := mergeOutcome row.outcome outcome
  if row.outcome = some merged then pure ()
  else do
    require (!row.outcome.any fun old => old.state.isTerminal)
      (conflict "joint terminal result changed")
    require (!(merged.state = .completed && row.native.effect = .create &&
        merged.resources.isEmpty))
      (conflict "completed create must identify owned objects")
    Tx.forEach merged.resources (checkResource op row.native merged.state)
    -- only what this observation names is a sighting, not what was retained
    Tx.forEach outcome.resources (recordResource op admission row.native merged.state)
    updateSteps (fun key _ => key = (admission.intentId, step))
      fun row => { row with outcome := some merged }
    let db ← Tx.get
    advanceStage admission.intentId (reportedStage db admission.intentId)

/-! ## Publication -/

/-- The common end of both publications: operation, binding and reservations move together. -/
def publish (publication : JointPublication) : StoreTx Unit := do
  let db ← Tx.get
  require ((db.operations.get? admission.intentId).any fun row =>
      [.prepared, .accepted].contains row.stage)
    (conflict "joint publication stage changed")
  updateOperations
    (fun key row => key = admission.intentId && [.prepared, .accepted].contains row.stage)
    fun row => { row with stage := .published, publication := some publication }
  require ((db.bindings.get? admission.binding.bindingId).any fun row =>
      row.generation = admission.generation && row.state = .prepared)
    (conflict "joint binding publication stage changed")
  updateBindings
    (fun key row => key = admission.binding.bindingId &&
      row.generation = admission.generation && row.state = .prepared)
    fun row => { row with state := .active }
  require (db.reservations.any fun key row =>
      key.1 = admission.intentId && row.state = .reserved)
    (conflict "joint publication has no reservation")
  updateReservations (fun key row => key.1 = admission.intentId && row.state = .reserved)
    fun row => { row with state := .committed }
  releaseFences admission.intentId

/-- The first publication of a session. -/
def publishNewSession (admission : JointAdmission)
    (record : SessionRecord) : StoreTx Unit := do
  let c := op.request.context
  checkFences op.request admission
  completedNative admission.intentId
  require ([.openSession, .load].contains c.operation)
    (conflict "operation cannot publish session")
  let db ← Tx.get
  require (!(c.operation = .openSession &&
      db.objects.count (fun key row => key.bindingId = admission.binding.bindingId &&
        key.generation = admission.generation && key.kind = "root" && !row.absent) ≠ 1))
    (conflict "new session must identify its owned Root")
  require (op.request.publicationInput.all fun input => input = record)
    (conflict "durable publication input changed")
  checked (validateCommittedSession record c admission.binding.ownerKind)
  require (record.executionBacking.joint = some admission.binding && record.status = .idle)
    (conflict "joint session publication binding or status mismatch")
  insertJointSession record.runtimeId
    { bindingId := admission.binding.bindingId
      tenantId := record.tenantId
      status := .idle
      updatedAtMs := record.updatedAtMs
      body := record }
  insertRef .session record.runtimeId admission.binding.bindingId
  publish admission (.session record)

def publishJointSession (record : SessionRecord) :
    StoreTx SessionRecord := do
  let op ← operation admission
  refuseHost op.request
  if op.stage = .published then do
    require (op.publication = some (.session record))
      (conflict "joint publication replay changed")
    pure record
  else do
    publishNewSession op admission record
    pure record

/-- A workspace whose turn was cancelled has no checkpoint until the boundary is verified. -/
def requireStableBoundary (bindingId : String) : StoreTx Unit := do
  let db ← Tx.get
  require (!(db.cancelBoundaries.get? bindingId).any fun row =>
      row.checkpointEpoch < row.cancelEpoch)
    (conflict "workspace awaits a verified checkpoint after cancellation")

/-- The first publication of a checkpoint. -/
def publishNewCheckpoint (admission : JointAdmission)
    (record : JointCheckpointRecord) : StoreTx Unit := do
  let c := op.request.context
  checkFences op.request admission
  completedNative admission.intentId
  require (c.operation = .checkpoint) (conflict "operation cannot publish checkpoint")
  require (record.binding = admission.binding && record.tenantId = c.tenantId &&
      record.ownerRef = c.ownerRef && record.runtimeKind = c.runtimeKind &&
      some record.checkpointId = c.checkpointId && some record.sourceRuntimeId = c.sourceRuntimeId)
    (conflict "joint checkpoint publication identity mismatch")
  insertJointCheckpoint record.checkpointId
    { bindingId := record.binding.bindingId
      tenantId := record.tenantId
      sourceRuntimeId := record.sourceRuntimeId
      createdBy := record.createdBy
      createdAtMs := record.createdAtMs
      body := record }
  insertRef .checkpoint record.checkpointId record.binding.bindingId
  publish admission (.checkpoint record)

def publishJointCheckpoint (record : JointCheckpointRecord) :
    StoreTx JointCheckpointRecord := do
  let op ← operation admission
  refuseHost op.request
  Tx.forSome op.request.parentBinding fun parent => requireStableBoundary parent.bindingId
  if op.stage = .published then do
    require (op.publication = some (.checkpoint record))
      (conflict "joint checkpoint replay changed")
    pure record
  else do
    publishNewCheckpoint op admission record
    pure record

/-! ## Turns -/

/-- The terminal of a turn agrees with the native message: a cancelled turn has no reply and
no failure, any other has exactly one of them, and the message is the one that was sent. -/
def terminalMatches (terminal : JointTurnTerminal) (outcome : JointNativeOutcome) : Bool :=
  !((if terminal.cancelled then
        terminal.reply.isSome || terminal.failure.isSome || terminal.messageId.isNone
      else terminal.reply.isSome == terminal.failure.isSome) ||
    (terminal.messageId.isSome && !outcome.resources.any fun o =>
      o.kind = "message" && some o.id = terminal.messageId) ||
    (terminal.messageId.isNone && (outcome.state ≠ .notSent || terminal.failure.isNone)))

/-- The first settlement of a turn: its session, its turn row and its stage move together,
and the source fence is released. -/
def settleTurn (admission : JointAdmission)
    (terminal : JointTurnTerminal) : StoreTx Unit := do
  let request := op.request
  checkFences request admission
  settledNative admission.intentId
  let native ← expect request.native.head? .sql
  let row ← queryRow (·.steps) (admission.intentId, native.step)
  require (row.native.operationId = native.operationId && row.native.digest = native.digest)
    .sql
  let outcome ← expect row.outcome .sql
  require (terminalMatches terminal outcome)
    (conflict "terminal does not match native Message admission")
  let session ← queryRow (·.jointSessions) request.sourceId
  require (session.bindingId = admission.binding.bindingId) .sql
  let db ← Tx.get
  require ((db.bindings.get? session.bindingId).any fun binding =>
    binding.generation = admission.generation && binding.state = .active) .sql
  let status : SessionStatus :=
    if terminal.failure.isSome || terminal.executionInvalidated then .failed else .idle
  let lastError :=
    if terminal.executionInvalidated then some "message_execution_invalidated"
    else terminal.failure
  updateJointSessions (fun id _ => id = request.sourceId) fun row =>
    { row with
      status
      updatedAtMs := terminal.completedAtMs
      body := { session.body with
        status
        lastError
        updatedAtMs := terminal.completedAtMs } }
  updateTurns (fun _ turn => turn.intentId = admission.intentId)
    fun turn => { turn with terminal := some terminal }
  setStage admission.intentId .settled
  Tx.when terminal.cancelled do
    updateCancelBoundaries
      (fun id row => id = admission.binding.bindingId && row.generation = admission.generation)
      fun row => { row with cancelEpoch := row.cancelEpoch + 1 }
    Tx.modify fun db =>
      { db with
        cancelBoundaries := db.cancelBoundaries.add admission.binding.bindingId
          ⟨admission.generation, 1, 0⟩ }
  updateHostWorkspace
    (fun id workspace => id = admission.binding.bindingId &&
      workspace.activeIntent = some admission.intentId)
    fun workspace => { workspace with
      dirty := false
      activeIntent := none
      lastSettled := some admission.intentId }
  releaseFences admission.intentId

/-- Publishes a settled turn and releases its source fence in the same transaction. -/
def finishJointTurn (terminal : JointTurnTerminal) :
    StoreTx Unit := do
  let op ← operation admission
  refuseHost op.request
  require (op.request.context.operation = .turn && op.request.turn.isSome)
    (conflict "operation is not a turn")
  let db ← Tx.get
  let turn ← expect (db.turns.select fun _ turn => turn.intentId = admission.intentId).head?
    .sql
  if op.stage = .settled then do
    let old ← expect turn.2.terminal (conflict "settled turn missing terminal")
    require ({ terminal with completedAtMs := old.completedAtMs } = old)
      (conflict "turn terminal changed")
  else settleTurn op admission terminal

/-! ## Compensation -/

/-- Excludes ordinary dispatch and publication before any compensation side effect. -/
def beginJointCompensation : StoreTx Unit := do
  let op ← operation admission
  refuseHost op.request
  checkFences op.request admission
  if op.stage = .compensating then pure ()
  else do
    require ([.prepared, .accepted, .unknown].contains op.stage)
      (conflict "operation cannot enter compensation")
    let db ← Tx.get
    let unsettled := db.steps.any fun key row =>
      key.1 = admission.intentId && !row.native.compensation &&
        !row.outcome.any fun outcome => outcome.state.isTerminal
    let referenced := db.refs.any fun _ target => target = admission.binding.bindingId
    require (!(unsettled || referenced))
      (conflict "unsettled execution or references prevent compensation")
    require ((db.bindings.get? admission.binding.bindingId).any fun row =>
        row.generation = admission.generation && row.creationIntent = admission.intentId &&
          row.state = .prepared)
      (conflict "binding is no longer unpublished")
    setBindingState admission.binding.bindingId .compensating
    setStage admission.intentId .compensating

/-- Completes compensation for an operation that never published a public reference. -/
def finishJointCompensation : StoreTx Unit := do
  let op ← operation admission
  refuseHost op.request
  if op.stage = .compensated then pure ()
  else do
    checkFences op.request admission
    let db ← Tx.get
    require ((db.bindings.get? admission.binding.bindingId).any fun row =>
        [.prepared, .compensating].contains row.state && row.creationIntent = admission.intentId)
      (conflict "published binding cannot use creation compensation")
    let referenced := db.refs.any fun _ target => target = admission.binding.bindingId
    let alive := db.objects.any fun key row =>
      key.bindingId = admission.binding.bindingId && key.generation = admission.generation &&
        !row.absent
    require (!(unsettledStep db admission.intentId || referenced || alive))
      (conflict "joint compensation is not confirmed")
    deleteRefs fun key _ => key = (.binding, admission.binding.bindingId)
    setBindingState admission.binding.bindingId .removed
    deleteWorkspaceClaims fun _ claimant => claimant = admission.binding.bindingId
    updateReservations (fun key _ => key.1 = admission.intentId)
      fun row => { row with state := .released }
    setStage admission.intentId .compensated
    deletePublicClaims fun _ claimant => claimant = admission.intentId
    releaseFences admission.intentId

/-! ## Release -/

/-- The public identity a release operation ends, if it is one of that kind. -/
def releasedIdentity (kind : RefKind) (c : JointOperationContext) : Option String :=
  match kind, c.operation with
  | .session, .close => c.sourceRuntimeId
  | .checkpoint, .deleteCheckpoint => c.checkpointId
  | _, _ => none

/-- The record of a released reference: a session is closed, a checkpoint is deleted. -/
def retireRecord (kind : RefKind) (publicId : String) (updatedAtMs : Nat) : StoreTx Unit :=
  if kind = .session then do
    let session ← queryRow (·.jointSessions) publicId
    updateJointSessions (fun id _ => id = publicId) fun row =>
      { row with
        status := .closed
        updatedAtMs
        body := { session.body with status := .closed, updatedAtMs, lease := none } }
  else deleteJointCheckpoints fun id _ => id = publicId

/-- The first completion of a release.  The adapter must have validated absence observations
before recording them. -/
def release (admission : JointAdmission) (kind : RefKind)
    (publicId : String) (updatedAtMs : Nat) : StoreTx Unit := do
  let bindingId := admission.binding.bindingId
  checkFences op.request admission
  settledNative admission.intentId
  let binding ← queryRow (·.bindings) bindingId
  require (binding.state = .releasing) (conflict "joint binding is not releasing")
  let db ← Tx.get
  let owned : ObjectKey → Bool := fun key =>
    key.bindingId = bindingId && key.generation = admission.generation
  require (!(db.objects.any (fun key row => owned key && !row.absent)) &&
      db.objects.any fun key _ => owned key)
    (conflict "joint object absence is not confirmed")
  require (!db.refs.any fun key target => target = bindingId && key ≠ (kind, publicId))
    (conflict "joint binding acquired another reference")
  require (db.refs.get? (kind, publicId) = some bindingId)
    (conflict "joint reference is not owned")
  deleteRefs fun key target => key = (kind, publicId) && target = bindingId
  retireRecord kind publicId updatedAtMs
  deleteRefs fun key _ => key = (.binding, bindingId)
  setBindingState bindingId .removed
  deleteWorkspaceClaims fun _ claimant => claimant = bindingId
  updateReservations
    (fun key _ => key.1 = binding.creationIntent || key.1 = admission.intentId)
    fun row => { row with state := .released }
  updateOperations (fun key _ => key = binding.creationIntent || key = admission.intentId)
    fun row => { row with stage := .released }
  releaseFences admission.intentId

def finishJointRelease (kind : RefKind) (publicId : String)
    (updatedAtMs : Nat) : StoreTx Unit := do
  let op ← operation admission
  refuseHost op.request
  require ((kind = .session && op.request.context.operation = .close) ||
      (kind = .checkpoint && op.request.context.operation = .deleteCheckpoint))
    (conflict "joint release operation mismatch")
  require (releasedIdentity kind op.request.context = some publicId)
    (conflict "joint release public identity mismatch")
  if op.stage = .released then pure ()
  else release op admission kind publicId updatedAtMs

end XGovernor.Joint
