import XGovernor.Joint.Lifecycle

/-!
# Cancellation and workspace boundaries

Control requests keep the original turn's admission instead of competing for its fence.
A cancelled turn leaves a workspace boundary that only a verified checkpoint clears.
-/

namespace XGovernor.Joint

open Domain Lib Tx

/-- The turns a cancel request addresses: the one it names, or every unfinished one. -/
def cancelledTurns (db : Db) (runtimeId : String) (turnId : Option String) :
    List ((String × String) × TurnRow) :=
  db.turns.select fun key turn =>
    key.1 = runtimeId && (turnId.elim turn.terminal.isNone fun id => key.2 = id)

/-- The cancel request belongs to the caller, the session and the owner of the turn. -/
def checkCancelContext (context : JointOperationContext) (session : SessionRecord)
    (binding : JointBinding) : Bool :=
  context.operation = .cancel && context.sourceRuntimeId = some session.runtimeId &&
    context.runtimeKind = session.runtime.runtimeKind &&
    context.configurationRevision = binding.configurationRevision &&
    context.ownerRef = tenantKey context.tenantId && context.tenantId = session.tenantId

/-- Registers a cancellation of an unfinished turn; a finished one is only reported. -/
def prepareJointCancel (context : JointOperationContext) (session : SessionRecord)
    (turnId : Option String) : StoreTx (Option JointTurnRecord) := do
  let binding ← expect session.executionBacking.joint
    (conflict "cancel requires joint binding")
  require (checkCancelContext context session binding) (conflict "cancel context mismatch")
  let db ← Tx.get
  let rows := cancelledTurns db session.runtimeId turnId
  if rows.isEmpty && turnId.isNone then pure none
  else do
    require (rows.length = 1) (.domain (.notFound session.runtimeId))
    let turn ← expect rows.head? .sql
    let op ← queryRow (·.operations) turn.2.intentId
    let current := (db.jointSessions.get? session.runtimeId).any fun row =>
      row.bindingId = binding.bindingId && (db.bindings.get? binding.bindingId).any fun b =>
        b.generation = op.admission.generation && b.state = .active
    require (current && op.request.binding = binding && op.admission.binding = binding &&
        op.request.context.ownerRef = context.ownerRef &&
        op.request.context.tenantId = context.tenantId &&
        op.request.context.runtimeKind = context.runtimeKind &&
        op.request.context.configurationRevision = context.configurationRevision &&
        op.request.context.sourceRuntimeId = context.sourceRuntimeId)
      (conflict "cancel original ownership mismatch")
    Tx.when turn.2.terminal.isNone do
      checkFences op.request op.admission
      addTurnCancel op.admission.intentId ⟨context, none, none⟩
    let identity ← expect op.request.turn (conflict "cancel turn identity absent")
    pure (some
      { runtimeId := session.runtimeId
        identity
        admission := op.admission
        terminal := turn.2.terminal })

/-- The native message of a cancellation targets the message that the turn sent. -/
def cancelTargetMatches (op : OperationRow) (native original : JointNativeIntent)
    (outcome : JointNativeOutcome) : Bool :=
  op.request.context.operation = .turn && native.method = "message.cancel" &&
    native.effect = .mutate && !native.compensation &&
    native.params.field "recipientThinkthreadId" = original.params.field "recipientThinkthreadId" &&
    outcome.resources.any (fun o =>
      o.kind = "message" && native.params.field "messageId" = .string o.id) &&
    (match native.params with
      | .object fields => fields.length = 2
      | _ => false)

variable (admission : JointAdmission) (native : JointNativeIntent)

/-- Stores the native message of a cancellation; the first one stays. -/
def prepareJointCancelNative :
    StoreTx JointCancelControl := do
  validatedAs (fun _ => "invalid cancel operation") (validateNative native)
  let op ← operation admission
  require (op.stage ≠ .settled) (conflict "turn already settled")
  checkFences op.request admission
  let original ← expect op.request.native.head? .sql
  let step ← queryRow (·.steps) (admission.intentId, original.step)
  let outcome ← expect step.outcome .sql
  require (cancelTargetMatches op native original outcome)
    (conflict "cancel target differs from original Message")
  let cancel ← queryRow (·.turnCancels) admission.intentId
  Tx.when cancel.native.isNone <|
    updateTurnCancels (fun id _ => id = admission.intentId)
      fun row => { row with native := some native }
  pure
    { admission
      native := some (cancel.native.getD native)
      outcome := cancel.outcome }

/-- Claims the sole send of a cancellation. -/
def claimJointCancelSend : StoreTx Bool := do
  let op ← operation admission
  if op.stage = .settled then pure false
  else do
    checkFences op.request admission
    let db ← Tx.get
    let claimed := (db.turnCancels.get? admission.intentId).any fun row =>
      row.native.isSome && row.outcome.isNone
    updateTurnCancels
      (fun id row => id = admission.intentId && row.native.isSome && row.outcome.isNone)
      fun row => { row with outcome := some sentUnknown }
    pure claimed

def recordJointCancelResult
    (outcome : JointNativeOutcome) : StoreTx Unit := do
  let _ ← operation admission
  let cancel ← queryRow (·.turnCancels) admission.intentId
  require (cancel.native = some native) (conflict "cancel result identity changed")
  if cancel.outcome = some outcome then pure ()
  else do
    require (!cancel.outcome.any fun old => old.state.isTerminal)
      (conflict "cancel operation terminal changed")
    updateTurnCancels (fun id _ => id = admission.intentId)
      fun row => { row with outcome := some outcome }

/-! ## Checkpoint boundaries -/

/-- The epochs of a binding's boundary; a binding that was never cancelled has none. -/
def boundaryEpochs (db : Db) (bindingId : String) (generation : Nat) : Nat × Nat :=
  match db.cancelBoundaries.get? bindingId with
  | some row => if row.generation = generation then (row.cancelEpoch, row.checkpointEpoch)
    else (0, 0)
  | none => (0, 0)

/-- Registers an external checkpoint request together with the boundary it starts from. -/
def prepareJointCheckpointBoundary (binding : JointBinding) (native : JointNativeIntent) :
    StoreTx JointCheckpointBoundaryObservation := do
  validatedAs (fun _ => "invalid checkpoint observation") (validateNative native)
  let row ← queryRow (·.bindings) binding.bindingId
  require (row.ownerKind = binding.ownerKind &&
    row.revision = binding.configurationRevision && row.state = .active) .sql
  let source ← expect (native.params.field "thinkthreadId").asStr?
    (conflict "checkpoint source absent")
  let db ← Tx.get
  let owned := (db.objects.get?
    ⟨binding.bindingId, row.generation, "root", source⟩).any fun object => !object.absent
  require (owned && native.method = "checkpoint.create" &&
      native.params.field "runtimeThinkthreadId" = .string source && !native.compensation &&
      native.effect = .mutate)
    (conflict "checkpoint observation source mismatch")
  match db.cancelCheckpoints.get? native.operationId with
  | some old => do
    require (old.body.native = native && old.body.boundary.binding = binding &&
        old.body.boundary.generation = row.generation)
      (conflict "checkpoint observation identity changed")
    pure old.body
  | none => do
    let epochs := boundaryEpochs db binding.bindingId row.generation
    let ticket : JointCheckpointBoundaryObservation :=
      { boundary :=
          { binding
            generation := row.generation
            cancelEpoch := epochs.1
            checkpointEpoch := epochs.2 }
        native }
    Tx.modify fun db =>
      { db with
        cancelCheckpoints := db.cancelCheckpoints.add native.operationId ⟨ticket, none⟩ }
    pure ticket

/-- A verified checkpoint clears the boundary it was requested at, and no later one. -/
def confirmJointCheckpointBoundary (ticket : JointCheckpointBoundaryObservation)
    (checkpointId : String) : StoreTx Bool := do
  let row ← queryRow (·.cancelCheckpoints) ticket.native.operationId
  require (row.body = ticket && !isBlank checkpointId &&
      row.checkpointId.all fun old => old = checkpointId)
    (conflict "checkpoint success observation changed")
  let b := ticket.boundary
  let binding ← queryRow (·.bindings) b.binding.bindingId
  require (binding.state = .active) .sql
  require (binding.generation = b.generation)
    (conflict "checkpoint binding generation changed")
  updateCancelCheckpoints (fun id _ => id = ticket.native.operationId)
    fun row => { row with checkpointId := some checkpointId }
  let db ← Tx.get
  let updated := (db.cancelBoundaries.get? b.binding.bindingId).any fun row =>
    row.generation = b.generation && row.cancelEpoch = b.cancelEpoch
  updateCancelBoundaries
    (fun id row => id = b.binding.bindingId && row.generation = b.generation &&
      row.cancelEpoch = b.cancelEpoch)
    fun row => { row with checkpointEpoch := b.cancelEpoch }
  pure updated

/-- The session of a turn whose execution is invalid fails; the turn itself is not settled. -/
def invalidateJointTurn : StoreTx Unit := do
  let op ← operation admission
  if op.stage = .settled then pure ()
  else do
    checkFences op.request admission
    require (op.request.context.operation = .turn)
      (conflict "invalidation requires a turn")
    let session ← queryRow (·.jointSessions) op.request.sourceId
    require (session.bindingId = admission.binding.bindingId) .sql
    updateJointSessions (fun id _ => id = op.request.sourceId) fun row =>
      { row with
        status := .failed
        body := { session.body with
          status := .failed
          lastError := some "message_execution_invalidated" } }

end XGovernor.Joint
