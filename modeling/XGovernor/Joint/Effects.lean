import XGovernor.Joint.Frames
import XGovernor.Joint.LedgerStep

/-!
# Effects of calls

What a committed call did to the whole database.  `Effect` has one rule for each transaction that
writes, with the checks that it passed and the database it left; a replay, or a call that found
nothing to do, is `quiet`.  The ledger forgets the tables of turns, sessions, public identities,
allocations and workspaces; the invariants of these tables are proved about effects.
-/

namespace XGovernor.Joint

open Domain Lib Table

/-! ## Parts of several effects -/

/-- The workspace after a native step of an operation was claimed. -/
def HostWorkspaceRow.claimedBy (workspace : HostWorkspaceRow) (id : String) : HostWorkspaceRow :=
  { workspace with epoch := workspace.epoch + 1, dirty := true, activeIntent := some id }

/-- The workspace after an operation settled. -/
def HostWorkspaceRow.settledBy (workspace : HostWorkspaceRow) (id : String) : HostWorkspaceRow :=
  { workspace with dirty := false, activeIntent := none, lastSettled := some id }

/-- The fences after an operation gave up all it held. -/
def freedFences (fences : Table (FenceKind × String) FenceRow) (id : String) :
    Table (FenceKind × String) FenceRow :=
  fences.modify (fun _ fence => fence.holder = some id) fun fence => { fence with holder := none }

theorem freedFences_get? (fences : Table (FenceKind × String) FenceRow) (id : String) :
    (freedFences fences id).get? = Ledger.released fences.get? id := by
  funext key
  simp [freedFences, get?_modify, Ledger.released]

/-- The operations after one reached a stage. -/
def stagedOperation (operations : Table String OperationRow) (id : String) (stage : Stage) :
    Table String OperationRow :=
  operations.modify (fun key _ => key = id) fun row => { row with stage }

/-- The operations after one was claimed for or reported about. -/
def advancedOperation (operations : Table String OperationRow) (id : String) (stage : Stage) :
    Table String OperationRow :=
  operations.modify (fun key _ => key = id) fun row =>
    { row with stage := if row.stage = .compensating then row.stage else stage }

/-- The journals after one was replaced. -/
def savedIntents (intents : Table String HostIntentV1) (h : HostIntentV1) :
    Table String HostIntentV1 :=
  intents.modify (fun id _ => id = h.access.admission.intentId) fun _ => h

theorem savedIntents_get? {intents old id} (hsto : intents.get? id = some old) (new)
    (hid : new.access.admission.intentId = id) :
    (savedIntents intents new).get? = Function.update intents.get? id (some new) := by
  rw [savedIntents, hid, get?_modify_eq, modified_key hsto]

/-- The allocations after a Host operation gave its own back. -/
def releasedAllocations (allocations : Table String HostAllocationRow) (id : String) :
    Table String HostAllocationRow :=
  allocations.modify (fun key _ => key = id) fun row => { row with state := .released }

/-- A published result leaves nothing to clean up: no step was claimed, or a failed write was
reconciled. -/
def leavesNothing (access : HostAccessTokenV1) (h : HostIntentV1) (result : Json) : Bool :=
  h.observations.all Option.isNone || reconciledFailure access h result

/-- The common end of both publications. -/
def Db.published (s : Db) (admission : JointAdmission) (publication : JointPublication) : Db :=
  { s with
    operations := s.operations.modify
      (fun key row => key = admission.intentId && [.prepared, .accepted].contains row.stage)
      fun row => { row with stage := .published, publication := some publication }
    bindings := s.bindings.modify
      (fun key row => key = admission.binding.bindingId &&
        row.generation = admission.generation && row.state = .prepared)
      fun row => { row with state := .active }
    reservations := s.reservations.modify
      (fun key row => key.1 = admission.intentId && row.state = .reserved)
      fun row => { row with state := .committed }
    fences := freedFences s.fences admission.intentId }

/-- The status of a session whose turn has ended. -/
def JointTurnTerminal.status (terminal : JointTurnTerminal) : SessionStatus :=
  if terminal.failure.isSome || terminal.executionInvalidated then .failed else .idle

/-- The row of a session whose turn has ended. -/
def JointSessionRow.afterTurn (row : JointSessionRow) (body : SessionRecord)
    (terminal : JointTurnTerminal) : JointSessionRow :=
  { row with
    status := terminal.status
    updatedAtMs := terminal.completedAtMs
    body := { body with
      status := terminal.status
      lastError := if terminal.executionInvalidated then some "message_execution_invalidated"
        else terminal.failure
      updatedAtMs := terminal.completedAtMs } }

/-- The boundaries after a cancelled turn of a binding. -/
def cancelledBoundaries (boundaries : Table String CancelBoundaryRow) (bindingId : String)
    (generation : Nat) : Table String CancelBoundaryRow :=
  (boundaries.modify (fun id row => id = bindingId && row.generation = generation)
    fun row => { row with cancelEpoch := row.cancelEpoch + 1 }).add bindingId ⟨generation, 1, 0⟩

/-- The database after the settlement of a turn. -/
def Db.turnSettled (s : Db) (op : OperationRow) (admission : JointAdmission)
    (terminal : JointTurnTerminal) (session : JointSessionRow) : Db :=
  { s with
    jointSessions := s.jointSessions.modify (fun id _ => id = op.request.sourceId)
      (·.afterTurn session.body terminal)
    turns := s.turns.modify (fun _ turn => turn.intentId = admission.intentId)
      fun turn => { turn with terminal := some terminal }
    operations := stagedOperation s.operations admission.intentId .settled
    cancelBoundaries := if terminal.cancelled then
        cancelledBoundaries s.cancelBoundaries admission.binding.bindingId admission.generation
      else s.cancelBoundaries
    hostWorkspace := s.hostWorkspace.modify
      (fun id workspace => id = admission.binding.bindingId &&
        workspace.activeIntent = some admission.intentId)
      (·.settledBy admission.intentId)
    fences := freedFences s.fences admission.intentId }

/-- The database after the end of a compensation. -/
def Db.compensated (s : Db) (admission : JointAdmission) : Db :=
  { s with
    refs := s.refs.erase fun key _ => key = (.binding, admission.binding.bindingId)
    bindings := s.bindings.modify (fun key _ => key = admission.binding.bindingId)
      fun row => { row with state := .removed }
    workspaceClaims := s.workspaceClaims.erase
      fun _ claimant => claimant = admission.binding.bindingId
    reservations := s.reservations.modify (fun key _ => key.1 = admission.intentId)
      fun row => { row with state := .released }
    operations := stagedOperation s.operations admission.intentId .compensated
    publicClaims := s.publicClaims.erase fun _ claimant => claimant = admission.intentId
    fences := freedFences s.fences admission.intentId }

/-- The row of a session that was closed. -/
def JointSessionRow.closed (row : JointSessionRow) (body : SessionRecord) (updatedAtMs : Nat) :
    JointSessionRow :=
  { row with
    status := .closed
    updatedAtMs
    body := { body with status := .closed, updatedAtMs, lease := none } }

/-- The database after a release, except for the record of the released reference. -/
def Db.released (s : Db) (admission : JointAdmission) (kind : RefKind) (publicId : String)
    (creationIntent : String) : Db :=
  let bindingId := admission.binding.bindingId
  { s with
    refs := (s.refs.erase fun key target => key = (kind, publicId) && target = bindingId).erase
      fun key _ => key = (.binding, bindingId)
    bindings := s.bindings.modify (fun key _ => key = bindingId)
      fun row => { row with state := .removed }
    workspaceClaims := s.workspaceClaims.erase fun _ claimant => claimant = bindingId
    reservations := s.reservations.modify
      (fun key _ => key.1 = creationIntent || key.1 = admission.intentId)
      fun row => { row with state := .released }
    operations := s.operations.modify
      (fun key _ => key = creationIntent || key = admission.intentId)
      fun row => { row with stage := .released }
    fences := freedFences s.fences admission.intentId }

/-! ## Admissions -/

/-- The row of a turn that was just admitted. -/
def newTurnRow (request : JointPrepareRequest) (turn : JointTurnIdentity) : TurnRow :=
  { clientRequestId := turn.clientRequestId
    inputDigest := turn.inputDigest
    intentId := request.context.intentId
    terminal := none }

/-- A turn was recorded and its session runs. -/
structure AdmitsTurn (s : Db) (request : JointPrepareRequest) (turn : JointTurnIdentity)
    (s' : Db) : Prop where
  free : s.turns.get? (request.sourceId, turn.turnId) = none
  distinct : s.turns.any (fun key old => old.intentId = request.context.intentId ||
    (turn.clientRequestId.isSome && key.1 = request.sourceId &&
      old.clientRequestId = turn.clientRequestId)) = false
  turns : s'.turns = s.turns.add (request.sourceId, turn.turnId) (newTurnRow request turn)
  session : ∃ session, s.jointSessions.get? request.sourceId = some session ∧
    session.bindingId = request.binding.bindingId ∧
    (session.body.status = .idle ∨ session.body.status = .failed) ∧
    s'.jointSessions = s.jointSessions.modify (fun id _ => id = request.sourceId) fun row =>
      { row with status := .running, body := { session.body with status := .running } }

/-- The bindings after an admission: a new one, or one whose release begins. -/
def admittedBindings (bindings : Table String BindingRow) (request : JointPrepareRequest) :
    Table String BindingRow :=
  if request.context.operation.creates then
    bindings.add request.binding.bindingId (newBindingRow request)
  else if request.context.operation = .turn then bindings
  else bindings.modify (fun id _ => id = request.binding.bindingId)
    fun row => { row with state := .releasing }

/-- **An admission**, as far as the invariants below need it. -/
structure Admits (config : StoreConfig) (s : Db) (request : JointPrepareRequest) (s' : Db) :
    Prop where
  frame : s' = (Call.prepareJointOperation request).written s' s
  valid : validateRequest request = .ok ()
  fresh : s.operations.get? request.context.intentId = none
  /-- A creating operation has claimed its public identity. -/
  claimed : request.context.operation.creates = true →
    identityTaken s (createdIdentity request.context) = false ∧
    s.publicClaims.get? (createdIdentity request.context) = none ∧
    s'.publicClaims = s.publicClaims.add (createdIdentity request.context) request.context.intentId
  unclaimed : request.context.operation.creates = false → s'.publicClaims = s.publicClaims
  /-- Any other operation is on an active binding of its Root and its tenant. -/
  existing : request.context.operation.creates = false →
    ∃ row, s.bindings.get? request.binding.bindingId = some row ∧ row.state = .active ∧
      row.generation = 1 ∧ row.rootId = request.rootId ∧
      row.tenantKey = tenantKey request.context.tenantId ∧
      ownsReference s (ownedReference request.context) request.binding.bindingId = true
  unbound : request.context.operation.creates = true →
    s.bindings.get? request.binding.bindingId = none
  bindings : s'.bindings = admittedBindings s.bindings request
  refs : s'.refs = request.parentBinding.elim s.refs fun parent =>
    s.refs.add (.binding, request.binding.bindingId) parent.bindingId
  acquires : ∃ epochs, s'.operations =
      s.operations.add request.context.intentId (newOperationRow request epochs) ∧
    Ledger.Acquires s.ledger.fences request request.context.intentId
      (tenantKey request.context.tenantId) epochs.1 epochs.2 s'.ledger.fences
  idle : request.turn = none → s'.turns = s.turns ∧ s'.jointSessions = s.jointSessions
  turn : ∀ turn, request.turn = some turn → AdmitsTurn s request turn s'
  reserved : ∃ t t', t.reservations = s.reservations ∧ t.operations = s'.operations ∧
    t.sessions = s.sessions ∧ t'.reservations = s'.reservations ∧
    (Tx.forEach request.reservations (reserve config.budgetPolicy request)).run t = .ok ((), t')

/-- **The admission of a Host operation**. -/
structure AdmitsHost (config : StoreConfig) (s : Db) (prepared : HostPreparedV1) (s' : Db) :
    Prop where
  frame : s' = (Call.prepareHost prepared).written s' s
  verified : verifyRequest prepared = .ok ()
  live : targetLive s prepared.target = true
  fresh : s.operations.get? prepared.context.intentId = none
  capacity : s.hostAllocations.count (fun _ row => row.owner = prepared.target.ownerRef &&
      row.state ≠ .released) < prepared.policy.maxInflight ∧
    (s.hostAllocations.sum fun _ row => if row.owner = prepared.target.ownerRef &&
      row.state ≠ .released then row.bytes else 0) + prepared.request.reservedBytes ≤
      prepared.policy.maxReservedBytes
  unallocated : s.hostAllocations.get? prepared.context.intentId = none
  allocations : s'.hostAllocations = s.hostAllocations.add prepared.context.intentId
    ⟨prepared.target.ownerRef, prepared.request.reservedBytes, .reserved⟩
  unheld : s.refs.get? (.hostHold, prepared.context.intentId) = none
  refs : s'.refs = s.refs.add (.hostHold, prepared.context.intentId)
    prepared.target.rootBindingId
  unrecorded : s.hostIntents.get? prepared.context.intentId = none
  admitted : ∃ epochs root source,
    s'.operations = s.operations.add prepared.context.intentId (hostOperationRow prepared epochs) ∧
    s'.hostIntents = s.hostIntents.add prepared.context.intentId
      (newHostIntent config.codec prepared (hostAccess config.codec prepared epochs)) ∧
    Ledger.ensured s.ledger.fences (.source, prepared.target.publicRuntimeId)
      prepared.target.rootId prepared.target.tenantKey
      (.source, prepared.target.publicRuntimeId) = some source ∧
    source.holder = none ∧ epochs = (root, source.epoch + 1) ∧
    s'.ledger.fences = Ledger.taken (Ledger.ensured s.ledger.fences
        (.source, prepared.target.publicRuntimeId) prepared.target.rootId
        prepared.target.tenantKey)
      (.source, prepared.target.publicRuntimeId) prepared.context.intentId

/-! ## Effects -/

/-- **What a committed call did**. -/
inductive Effect (config : StoreConfig) (s : Db) : Call → Db → Prop
  /-- A replay, or a call that found nothing to do. -/
  | quiet (call : Call) : Effect config s call s
  | admitJoint {request s'} (admits : Admits config s request s') :
      Effect config s (.prepareJointOperation request) s'
  | claimNative {admission step op row} (runs : s.ledger.RunsOrdinary admission op)
      (sending : [Stage.prepared, .accepted, .unknown, .compensating].contains op.stage = true)
      (stored : s.steps.get? (admission.intentId, step) = some row)
      (phase : row.native.compensation = decide (op.stage = .compensating))
      (unclaimed : row.outcome = none) :
      Effect config s (.claimJointNativeSend admission step)
        { s with
          steps := s.steps.modify (fun key _ => key = (admission.intentId, step))
            fun row => { row with outcome := some sentUnknown }
          hostWorkspace := if op.request.context.operation = .turn then
              s.hostWorkspace.modify (fun id workspace => id = admission.binding.bindingId &&
                workspace.generation = admission.generation) (·.claimedBy admission.intentId)
            else s.hostWorkspace
          operations := advancedOperation s.operations admission.intentId .unknown }
  | append {admission native op} (runs : s.ledger.RunsOrdinary admission op)
      (phase : native.compensation = decide (op.stage = .compensating))
      (free : s.steps.get? (admission.intentId, native.step) = none) :
      Effect config s (.appendJointNativeStep admission native)
        { s with steps := s.steps.add (admission.intentId, native.step) ⟨native, none⟩ }
  | record {admission step operationId digest outcome op row objects stage}
      (runs : s.ledger.RunsOrdinary admission op)
      (reporting : [Stage.prepared, .accepted, .unknown, .releasing, .compensating].contains
        op.stage = true)
      (stored : s.steps.get? (admission.intentId, step) = some row)
      (unsettled : ∀ old, row.outcome = some old → old.state.isTerminal = false)
      (next : stage = .unknown ∨ stage = .accepted) :
      Effect config s (.recordJointNativeResult admission step operationId digest outcome)
        { s with
          objects
          steps := s.steps.modify (fun key _ => key = (admission.intentId, step))
            fun row' => { row' with outcome := some (mergeOutcome row.outcome outcome) }
          operations := advancedOperation s.operations admission.intentId stage }
  | publishSession {admission record op} (runs : s.ledger.RunsOrdinary admission op)
      (ready : op.stage = .prepared ∨ op.stage = .accepted)
      (creates : op.request.context.operation.creates = true)
      (identity : createdIdentity op.request.context = (.session, record.runtimeId))
      (backing : record.executionBacking.joint = some admission.binding)
      (idle : record.status = .idle)
      (unsplit : s.sessions.get? record.runtimeId = none)
      (free : s.jointSessions.get? record.runtimeId = none)
      (tenant : record.tenantId = op.request.context.tenantId) :
      Effect config s (.publishJointSession admission record)
        (Db.published { s with
          jointSessions := s.jointSessions.add record.runtimeId
            { bindingId := admission.binding.bindingId
              tenantId := record.tenantId
              status := .idle
              updatedAtMs := record.updatedAtMs
              body := record }
          refs := s.refs.add (.session, record.runtimeId) admission.binding.bindingId }
          admission (.session record))
  | publishCheckpoint {admission record op} (runs : s.ledger.RunsOrdinary admission op)
      (ready : op.stage = .prepared ∨ op.stage = .accepted)
      (creates : op.request.context.operation.creates = true)
      (identity : createdIdentity op.request.context = (.checkpoint, record.checkpointId))
      (binding : record.binding = admission.binding)
      (unsplit : s.checkpoints.get? record.checkpointId = none)
      (free : s.jointCheckpoints.get? record.checkpointId = none)
      (tenant : record.tenantId = op.request.context.tenantId) :
      Effect config s (.publishJointCheckpoint admission record)
        (Db.published { s with
          jointCheckpoints := s.jointCheckpoints.add record.checkpointId
            { bindingId := record.binding.bindingId
              tenantId := record.tenantId
              sourceRuntimeId := record.sourceRuntimeId
              createdBy := record.createdBy
              createdAtMs := record.createdAtMs
              body := record }
          refs := s.refs.add (.checkpoint, record.checkpointId) record.binding.bindingId }
          admission (.checkpoint record))
  | settleTurn {admission terminal op session} (runs : s.ledger.RunsOrdinary admission op)
      (turn : op.request.context.operation = .turn)
      (unsettled : op.stage ≠ .settled)
      (settled : s.ledger.Settled admission.intentId)
      (stored : s.jointSessions.get? op.request.sourceId = some session)
      (bound : session.bindingId = admission.binding.bindingId) :
      Effect config s (.finishJointTurn admission terminal)
        (s.turnSettled op admission terminal session)
  | beginCompensation {admission op} (runs : s.ledger.RunsOrdinary admission op)
      (ready : [Stage.prepared, .accepted, .unknown].contains op.stage = true)
      (settled : s.steps.any (fun key row => key.1 = admission.intentId &&
        !row.native.compensation && !row.outcome.any fun outcome => outcome.state.isTerminal) =
          false)
      (creation : ∃ row, s.bindings.get? admission.binding.bindingId = some row ∧
        row.creationIntent = admission.intentId ∧ row.state = .prepared) :
      Effect config s (.beginJointCompensation admission)
        { s with
          bindings := s.bindings.modify (fun key _ => key = admission.binding.bindingId)
            fun row => { row with state := .compensating }
          operations := stagedOperation s.operations admission.intentId .compensating }
  | finishCompensation {admission op} (runs : s.ledger.RunsOrdinary admission op)
      (creation : ∃ row, s.bindings.get? admission.binding.bindingId = some row ∧
        row.creationIntent = admission.intentId ∧
        (row.state = .prepared ∨ row.state = .compensating))
      (unreferenced : s.refs.any (fun _ target => target = admission.binding.bindingId) = false) :
      Effect config s (.finishJointCompensation admission) (s.compensated admission)
  | closeSession {admission publicId updatedAtMs op binding session}
      (runs : s.ledger.RunsOrdinary admission op)
      (close : op.request.context.operation = .close)
      (identity : op.request.context.sourceRuntimeId = some publicId)
      (bound : s.bindings.get? admission.binding.bindingId = some binding)
      (releasing : binding.state = .releasing)
      (owned : s.refs.get? (.session, publicId) = some admission.binding.bindingId)
      (stored : s.jointSessions.get? publicId = some session) :
      Effect config s (.finishJointRelease admission .session publicId updatedAtMs)
        (Db.released { s with
          jointSessions := s.jointSessions.modify (fun id _ => id = publicId)
            (·.closed session.body updatedAtMs) }
          admission .session publicId binding.creationIntent)
  | deleteJointCheckpoint {admission publicId updatedAtMs op binding}
      (runs : s.ledger.RunsOrdinary admission op)
      (delete : op.request.context.operation = .deleteCheckpoint)
      (bound : s.bindings.get? admission.binding.bindingId = some binding)
      (releasing : binding.state = .releasing)
      (owned : s.refs.get? (.checkpoint, publicId) = some admission.binding.bindingId) :
      Effect config s (.finishJointRelease admission .checkpoint publicId updatedAtMs)
        (Db.released { s with
          jointCheckpoints := s.jointCheckpoints.erase fun id _ => id = publicId }
          admission .checkpoint publicId binding.creationIntent)
  | cancel {call} (turnCancels : Table String TurnCancelRow) :
      Effect config s call { s with turnCancels }
  | prepareBoundary {binding : JointBinding} {native : JointNativeIntent} {row : BindingRow}
      (bound : s.bindings.get? binding.bindingId = some row)
      (free : s.cancelCheckpoints.get? native.operationId = none) :
      Effect config s (.prepareJointCheckpointBoundary binding native)
        { s with
          cancelCheckpoints := s.cancelCheckpoints.add native.operationId
            { body :=
                { boundary :=
                    { binding
                      generation := row.generation
                      cancelEpoch :=
                        (boundaryEpochs s binding.bindingId row.generation).1
                      checkpointEpoch :=
                        (boundaryEpochs s binding.bindingId row.generation).2 }
                  native }
              checkpointId := none } }
  | confirmBoundary {ticket checkpointId row}
      (stored : s.cancelCheckpoints.get? ticket.native.operationId = some row)
      (same : row.body = ticket) :
      Effect config s (.confirmJointCheckpointBoundary ticket checkpointId)
        { s with
          cancelCheckpoints := s.cancelCheckpoints.modify
            (fun id _ => id = ticket.native.operationId)
            fun row => { row with checkpointId := some checkpointId }
          cancelBoundaries := s.cancelBoundaries.modify
            (fun id row => id = ticket.boundary.binding.bindingId &&
              row.generation = ticket.boundary.generation &&
              row.cancelEpoch = ticket.boundary.cancelEpoch)
            fun row => { row with checkpointEpoch := ticket.boundary.cancelEpoch } }
  | invalidate {admission op session} (runs : s.ledger.Runs admission op)
      (turn : op.request.context.operation = .turn)
      (unsettled : op.stage ≠ .settled)
      (stored : s.jointSessions.get? op.request.sourceId = some session)
      (bound : session.bindingId = admission.binding.bindingId) :
      Effect config s (.invalidateJointTurn admission)
        { s with
          jointSessions := s.jointSessions.modify (fun id _ => id = op.request.sourceId)
            fun row =>
              { row with
                status := .failed
                body := { session.body with
                  status := .failed
                  lastError := some "message_execution_invalidated" } } }
  | registerTarget {target policy hostTargets hostWorkspace}
      (live : targetLive { s with hostRoots := s.hostRoots.add target.rootBindingId 1 } target =
        true)
      (workspace : hostWorkspace = s.hostWorkspace ∨
        s.hostWorkspace.get? target.liveBinding.bindingId = none ∧
          hostWorkspace = s.hostWorkspace.add target.liveBinding.bindingId
            ⟨target.bindingGeneration, 0, false, none, none⟩) :
      Effect config s (.registerHostTarget target policy)
        { s with
          hostRoots := s.hostRoots.add target.rootBindingId 1
          hostTargets
          hostWorkspace }
  | admitHost {prepared s'} (admits : AdmitsHost config s prepared s') :
      Effect config s (.prepareHost prepared) s'
  | claimHost {access step h op} (runs : s.ledger.RunsHost access h op)
      (unclaimed : h.observations[step]? = some none)
      (native : h.prepared.request.isRead = false → h.prepared.native[step]?.isSome) :
      Effect config s (.claimHostStep access step)
        { s with
          steps := if h.prepared.request.isRead then s.steps else
            s.steps.modify (fun key row => h.prepared.native[step]?.any
              (fun n => key = (access.admission.intentId, n.step)) && row.outcome.isNone)
              fun row => { row with outcome := some sentUnknown }
          hostWorkspace := if h.prepared.request.isRead then s.hostWorkspace else
            s.hostWorkspace.modify
              (fun binding workspace => binding = access.admission.binding.bindingId &&
                workspace.generation = access.admission.generation)
              (·.claimedBy access.admission.intentId)
          operations := stagedOperation s.operations access.admission.intentId .unknown
          hostIntents := savedIntents s.hostIntents (h.claimed step) }
  | recordHost {access step observation old h op steps} (runs : s.ledger.RunsHost access h op)
      (claimed : h.observations[step]? = some (some old))
      (unsettled : old.settled = false)
      (terminal : observation.settled = true → observation.state.isTerminal = true) :
      Effect config s (.recordHostStep access step observation)
        { s with
          steps
          operations := stagedOperation s.operations access.admission.intentId
            (if allSettled (h.observed step observation) then .accepted else .unknown)
          hostIntents := savedIntents s.hostIntents (h.observed step observation) }
  | recover {access evidence h op} (runs : s.ledger.RunsHost access h op) :
      Effect config s (.recordHostRecovery access evidence)
        { s with
          hostIntents := savedIntents s.hostIntents
            { h with recoveryEvidence := h.recoveryEvidence ++ [evidence] } }
  | failStale {call access h op} (finishes : call = .failStaleHostRead access ∨
        ∃ result before after, call = .finishHostRead access result before after)
      (journal : s.ledger.HasJournal access h)
      (verified : verifyIntent config.codec h = .ok ())
      (stored : s.operations.get? access.admission.intentId = some op)
      (token : op.admission = access.admission)
      (active : activeStage op.stage = true)
      (running : h.state ≠ .suspendedWaitingDependency)
      (unpublished : h.result = none)
      (native : h.prepared.native = []) :
      Effect config s call
        { s with
          operations := s.operations.modify (fun key _ => key = access.admission.intentId)
            fun row => { row with
              stage := .settled
              publication := some (.host staleReadResult) }
          hostAllocations := releasedAllocations s.hostAllocations access.admission.intentId
          refs := s.refs.erase fun key _ => key = (.hostHold, access.admission.intentId)
          hostWorkspace := s.hostWorkspace.modify
            (fun binding workspace => binding = access.admission.binding.bindingId &&
              workspace.generation = access.admission.generation &&
              (workspace.activeIntent = some access.admission.intentId ||
                workspace.activeIntent.isNone))
            (·.settledBy access.admission.intentId)
          fences := freedFences s.fences access.admission.intentId
          hostIntents := savedIntents s.hostIntents h.staleRead }
  | publishHost {call access h op result evidence} (finishes : call = .finishHost access result ∨
        ∃ before after, call = .finishHostRead access result before after)
      (runs : s.ledger.RunsHost access h op)
      (unpublished : h.result = none)
      (settled : allSettled h = true ∨ h.observations.all Option.isNone = true)
      (undelegated : ∀ cleanup, s.hostCleanup.get? access.admission.intentId = some cleanup →
        cleanup.state = .done)
      (proved : ∀ e, evidence = some e → h.artifactEvidence = some e ∨
        (s.cancelBoundaries.get? access.admission.binding.bindingId).any
          (fun row => row.checkpointEpoch < row.cancelEpoch) = false) :
      Effect config s call
        { s with
          hostAllocations := if leavesNothing access h result then
              releasedAllocations s.hostAllocations access.admission.intentId
            else s.hostAllocations
          refs := if leavesNothing access h result then
              s.refs.erase fun key _ => key = (.hostHold, access.admission.intentId)
            else s.refs
          operations := s.operations.modify (fun key _ => key = access.admission.intentId)
            fun row => { row with stage := .settled, publication := some (.host result) }
          hostWorkspace := s.hostWorkspace.modify
            (fun binding workspace => binding = access.admission.binding.bindingId &&
              (workspace.activeIntent = some access.admission.intentId ||
                workspace.activeIntent.isNone))
            (·.settledBy access.admission.intentId)
          fences := freedFences s.fences access.admission.intentId
          hostIntents := savedIntents s.hostIntents
            (h.published result evidence (leavesNothing access h result)) }
  | delegateCleanup {access childId dependencies h op hostDependencies}
      (runs : s.ledger.RunsHost access h op)
      (settled : allSettled h = true)
      (fresh : s.operations.get? childId = none)
      (undelegated : s.hostCleanup.get? access.admission.intentId = none)
      (distinct : s.hostCleanup.any (fun _ old => old.childId = childId) = false) :
      Effect config s (.prepareHostCleanup access childId dependencies)
        { s with
          operations := s.operations.add childId (cleanupOperationRow op access h childId)
          hostCleanup := s.hostCleanup.add access.admission.intentId ⟨childId, .prepared, true⟩
          hostDependencies
          hostIntents := savedIntents s.hostIntents { h with cleanupState := .delegated } }
  | suspend {access h op cleanup} (runs : s.ledger.RunsHost access h op)
      (settled : allSettled h = true)
      (delegated : s.hostCleanup.get? access.admission.intentId = some cleanup)
      (waiting : cleanup.state = .prepared) :
      Effect config s (.suspendHostCleanup access)
        { s with
          operations := s.operations.modify
            (fun key _ => key = access.admission.intentId || key = cleanup.childId)
            fun row => { row with stage := .suspendedWaitingDependency }
          hostCleanup := s.hostCleanup.modify (fun key _ => key = access.admission.intentId)
            fun row => { row with state := .waitingDependency, delegated := false }
          fences := freedFences s.fences access.admission.intentId
          hostIntents := savedIntents s.hostIntents (h.suspended cleanup.childId op.stage) }
  | dependency {access dependency} (hostDependencies : Table (String × String) Bool) :
      Effect config s (.releaseHostDependency access dependency) { s with hostDependencies }
  | resume {access h op child cleanup root source admission}
      (journal : s.ledger.HasJournal access h)
      (suspended : h.state = .suspendedWaitingDependency)
      (delegated : s.hostCleanup.get? access.admission.intentId = some cleanup)
      (waiting : cleanup.state = .waitingDependency)
      (root_free : s.fences.get? (.root, h.prepared.target.rootId) = some root ∧ root.holder = none)
      (source_free : s.fences.get? (.source, h.prepared.target.publicRuntimeId) = some source ∧
        source.holder = none)
      (admission_eq : admission = { access.admission with
        sourceEpoch := some (source.epoch + 1)
        rootEpoch := root.epoch })
      (stored : s.operations.get? access.admission.intentId = some op)
      (op_suspended : op.stage = .suspendedWaitingDependency)
      (distinct : cleanup.childId ≠ access.admission.intentId)
      (child_stored : s.operations.get? cleanup.childId = some child)
      (child_suspended : child.stage = .suspendedWaitingDependency) :
      Effect config s (.resumeHostCleanup access)
        { s with
          fences := s.fences.modify
            (fun key _ => key = (.source, h.prepared.target.publicRuntimeId))
            fun fence => { fence with
              epoch := fence.epoch + 1
              holder := some access.admission.intentId }
          operations := (s.operations.modify (fun key _ => key = access.admission.intentId)
              fun row => { row with stage := .accepted, admission }).modify
            (fun key _ => key = cleanup.childId)
            fun row => { row with
              stage := .accepted
              admission := { admission with intentId := cleanup.childId } }
          hostCleanup := s.hostCleanup.modify (fun key _ => key = access.admission.intentId)
            fun row => { row with state := .prepared, delegated := true }
          hostIntents := savedIntents s.hostIntents (h.resumed { access with admission }) }
  | endDelegation {access h op cleanup} (runs : s.ledger.RunsHost access h op)
      (unpublished : h.result = none)
      (settled : allSettled h = true)
      (delegated : s.hostCleanup.get? access.admission.intentId = some cleanup)
      (prepared : cleanup.state = .prepared) :
      Effect config s (.finishHostCleanup access)
        { s with
          operations := stagedOperation s.operations cleanup.childId .settled
          hostCleanup := s.hostCleanup.modify (fun key _ => key = access.admission.intentId)
            fun row => { row with state := .done, delegated := false }
          hostIntents := savedIntents s.hostIntents { h with cleanupState := .none } }
  | finishCleanup {access h} (journal : s.ledger.HasJournal access h)
      (unfinished : h.cleanupState ≠ .done)
      (published : h.result ≠ none) :
      Effect config s (.finishHostCleanup access)
        { s with
          hostAllocations := releasedAllocations s.hostAllocations access.admission.intentId
          refs := s.refs.erase fun key _ => key = (.hostHold, access.admission.intentId)
          hostIntents := savedIntents s.hostIntents { h with cleanupState := .done } }
  | saveSession {record} (split : jointSessionIdentity s record.runtimeId = false) :
      Effect config s (.saveSession record)
        { s with
          sessions := (s.sessions.modify (fun id _ => id = record.runtimeId)
            fun old => { record with createdAtMs := old.createdAtMs }).add record.runtimeId record }
  | saveCheckpoint {record} (split : jointCheckpointIdentity s record.checkpointId = false)
      (free : s.checkpoints.get? record.checkpointId = none) :
      Effect config s (.saveCheckpoint record)
        { s with checkpoints := s.checkpoints.add record.checkpointId record }
  | deleteCheckpoint {checkpointId : String} :
      Effect config s (.deleteCheckpoint checkpointId)
        { s with checkpoints := s.checkpoints.erase fun id _ => id = checkpointId }
  | intents {call} (snapshotOperations : Table String Json) :
      Effect config s call { s with snapshotOperations }

end XGovernor.Joint
