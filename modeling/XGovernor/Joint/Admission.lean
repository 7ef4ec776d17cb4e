import XGovernor.Joint.Schema
import XGovernor.Joint.Validate

/-!
# Admission of joint operations

`prepareJointOperation` admits an operation in one transaction: it claims the public
identity, creates or checks the binding, takes the Root or the source fence, records the
operation and its turn, reserves capacity, and stores the native steps that may be sent.

The transaction is cut along its statements; each part below is a run of consecutive
statements of the source.
-/

namespace XGovernor.Joint

open Domain Lib Tx

variable (request : JointPrepareRequest)

/-! ## Checks shared by all transactions -/

/-- A check that runs before the transaction begins: its error is answered as an invalid
request with the given text. -/
def validatedAs (text : SessionDomainError → String) (result : Except SessionDomainError Unit) :
    StoreTx Unit :=
  match result with
  | .ok _ => pure ()
  | .error error => Tx.fail (.domain (.invalidRequest (text error)))

/-- A check whose own error text is the answer. -/
def validated (result : Except SessionDomainError Unit) : StoreTx Unit :=
  validatedAs (·.text) result

variable (db : Db) (id : String) (budgetPolicy : JointBudgetPolicy) (admission : JointAdmission)

/-- A token with a source epoch still holds the source fence. -/
def checkSource : StoreTx Unit :=
  Tx.forSome admission.sourceEpoch fun epoch => do
    let source ← queryRow (·.fences) (.source, request.sourceId)
    require (source.epoch = epoch && source.holder = some admission.intentId)
      (conflict "joint source fence changed")

/-- The operation still holds what it was admitted with: the epochs of its fences, the
fence itself, and a binding of its generation that is not removed. -/
def checkFences :
    StoreTx Unit := do
  let root ← queryRow (·.fences) (.root, request.rootId)
  require (root.epoch = admission.rootEpoch &&
      (if request.exclusiveRoot then root.holder = some admission.intentId
        else root.holder.isNone))
    (conflict "joint Root fence changed")
  checkSource request admission
  let binding ← queryRow (·.bindings) admission.binding.bindingId
  require (binding.generation = admission.generation && binding.state ≠ .removed)
    (conflict "joint binding generation changed")

/-- The stored operation of an admission token; a token that differs is refused. -/
def operation : StoreTx OperationRow := do
  let row ← queryRow (·.operations) admission.intentId
  require (row.admission = admission) (conflict "joint admission token mismatch")
  pure row

/-- Host operations are refused by the transactions of ordinary ones. -/
def refuseHost : StoreTx Unit :=
  require (!request.context.operation.isHost)
    (conflict "Host operation requires its dedicated repository entry point")

@[simp] def releaseFences : StoreTx Unit :=
  updateFences (fun _ fence => fence.holder = some id) fun fence => { fence with holder := none }

/-- Every native step of the operation completed, and there is one. -/
def completedNative : StoreTx Unit := do
  let db ← Tx.get
  let outcomes := db.steps.select fun key _ => key.1 = id
  require (!outcomes.isEmpty &&
      outcomes.all fun step => step.2.outcome.any fun outcome => outcome.state = .completed)
    (conflict "joint native result is not settled")

/-- Some native step of the operation has no outcome, or one that is not terminal. -/
def unsettledStep : Bool :=
  db.steps.any fun key step =>
    key.1 = id && !step.outcome.any fun outcome => outcome.state.isTerminal

def settledNative : StoreTx Unit := do
  let db ← Tx.get
  require (!unsettledStep db id) (conflict "joint native operation is not settled")

/-! ## The parts of an admission -/

variable (c : JointOperationContext)

/-- The public identity an operation creates. -/
def createdIdentity : RefKind × String :=
  if c.operation = .checkpoint then (.checkpoint, c.checkpointId.getD "")
  else (.session, c.targetRuntimeId.getD "")

/-- A record of either execution route has the identity. -/
def identityTaken (identity : RefKind × String) : Bool :=
  if identity.1 = .checkpoint then
    (db.checkpoints.get? identity.2).isSome || (db.jointCheckpoints.get? identity.2).isSome
  else (db.sessions.get? identity.2).isSome || (db.jointSessions.get? identity.2).isSome

/-- The public reference an operation on an existing binding has to own. -/
def ownedReference : RefKind × Option String :=
  if c.operation = .close ∨ c.operation = .turn then (.session, c.sourceRuntimeId)
  else (.checkpoint, c.checkpointId)

/-- The public reference the parent of a new binding has to own. -/
def parentReference : RefKind × Option String :=
  if c.operation = .load then (.checkpoint, c.checkpointId)
  else (.session, c.sourceRuntimeId)

/-- `EXISTS(SELECT 1 FROM joint_refs WHERE kind=… AND public_id=… AND binding_id=…)`. -/
def ownsReference (reference : RefKind × Option String) (bindingId : String) : Bool :=
  match reference.2 with
  | none => false
  | some publicId => db.refs.get? (reference.1, publicId) = some bindingId

/-- A new public identity is free in both execution routes and is claimed. -/
def claimPublicIdentity : StoreTx Unit :=
  Tx.when request.context.operation.creates do
    let db ← Tx.get
    let identity := createdIdentity request.context
    require (!identityTaken db identity) (conflict "joint public identity already exists")
    insertPublicClaim identity.1 identity.2 request.context.intentId

/-- An operation on an existing binding: ownership, no other reference, and for a release
the move to `releasing`. -/
def admitExisting (row : BindingRow) : StoreTx Unit := do
  let c := request.context
  let binding := request.binding
  require (row.ownerKind = binding.ownerKind &&
      row.revision = binding.configurationRevision && row.runtimeKind = c.runtimeKind &&
      row.tenantKey = tenantKey c.tenantId && row.rootId = request.rootId &&
      row.generation = 1 && row.state = .active &&
      [.close, .deleteCheckpoint, .turn].contains c.operation)
    (conflict "joint binding ownership or stage conflict")
  let db ← Tx.get
  require (ownsReference db (ownedReference c) binding.bindingId)
    (conflict "joint release does not own public reference")
  require (db.refs.count (fun _ target => target = binding.bindingId) ≤ 1)
    (conflict "joint binding is referenced")
  require (!(c.operation = .close && db.hostCleanup.any fun parent cleanup =>
      cleanup.state = .waitingDependency &&
        (db.operations.get? parent).any fun o => o.bindingId = binding.bindingId))
    (conflict "source has suspended Host cleanup")
  Tx.when (c.operation ≠ .turn) <|
    updateBindings (fun id _ => id = binding.bindingId) fun row => { row with state := .releasing }

/-- The parent of a new binding is active, belongs to the same owner and Root, and owns the
reference the operation starts from. -/
def checkParent (parent : JointBinding) : StoreTx Unit := do
  let c := request.context
  checked parent.validate
  let db ← Tx.get
  require ((db.bindings.get? parent.bindingId).any (fun row =>
        row.ownerKind = parent.ownerKind && row.tenantKey = tenantKey c.tenantId &&
          row.rootId = request.rootId && row.revision = parent.configurationRevision &&
          row.runtimeKind = c.runtimeKind && row.state = .active) &&
      parent.ownerKind = request.binding.ownerKind &&
      parent.configurationRevision = request.binding.configurationRevision)
    (conflict "joint parent is unavailable or foreign")
  require (ownsReference db (parentReference c) parent.bindingId)
    (conflict "joint parent does not own requested source")

/-- The binding of a creating operation, before anything is published. -/
def newBindingRow : BindingRow :=
  { ownerKind := request.binding.ownerKind
    revision := request.binding.configurationRevision
    runtimeKind := request.context.runtimeKind
    tenantKey := tenantKey request.context.tenantId
    rootId := request.rootId
    generation := 1
    state := .prepared
    creationIntent := request.context.intentId
    parentId := request.parentBinding.map (·.bindingId) }

/-- A creating operation inserts its binding as `prepared`. -/
def admitNew : StoreTx Unit := do
  require (request.context.operation.creates && !request.reservations.isEmpty)
    (conflict "new joint binding requires reservation")
  Tx.forSome request.parentBinding (checkParent request)
  insertBinding request.binding.bindingId (newBindingRow request)

def admitBinding : StoreTx Unit := do
  let db ← Tx.get
  match db.bindings.get? request.binding.bindingId with
  | some row => admitExisting request row
  | none => admitNew request

/-- The workspace of the record to publish, and the Root: a new one for `open`, an owned one
otherwise. -/
def admitRoot : StoreTx Unit := do
  let c := request.context
  Tx.forSome request.publicationInput fun record =>
    insertWorkspaceClaim record.workspace.root request.binding.bindingId
  if c.operation = .openSession then
    insertRoot request.rootId
      { ownerKind := request.binding.ownerKind
        revision := request.binding.configurationRevision
        tenantKey := tenantKey c.tenantId
        bindingId := request.binding.bindingId }
  else do
    let db ← Tx.get
    require ((db.roots.get? request.rootId).any fun root =>
        root.ownerKind = request.binding.ownerKind &&
          root.revision = request.binding.configurationRevision &&
          root.tenantKey = tenantKey c.tenantId)
      (conflict "joint Root belongs to another owner")

/-- `INSERT OR IGNORE INTO joint_fences VALUES(kind,id,root_id,tenant,0,NULL)`. -/
@[simp] def ensureFence (kind : FenceKind) (id rootId tenant : String) : StoreTx Unit :=
  addFence (kind, id) ⟨rootId, tenant, 0, none⟩

/-- `UPDATE joint_fences SET epoch=epoch+1,holder=… WHERE kind=… AND id=…`. -/
@[simp] def takeFence (kind : FenceKind) (id holder : String) : StoreTx Unit :=
  updateFences (fun key _ => key = (kind, id))
    fun fence => { fence with epoch := fence.epoch + 1, holder := some holder }

/-- Takes the Root fence for an exclusive operation and the source fence for any other; the
epochs it returns go into the admission token. -/
def acquireFences : StoreTx (Nat × Option Nat) := do
  let tenant := tenantKey request.context.tenantId
  let id := request.context.intentId
  ensureFence .root request.rootId request.rootId tenant
  let root ← queryRow (·.fences) (.root, request.rootId)
  require (root.tenantKey = tenant && root.holder.isNone)
    (conflict "joint Root recovery is fenced")
  if request.exclusiveRoot then do
    let db ← Tx.get
    require (!db.fences.any fun key fence =>
        key.1 = .source && fence.rootId = request.rootId && fence.holder.isSome)
      (conflict "joint Root has unsettled sources")
    takeFence .root request.rootId id
    pure (root.epoch + 1, none)
  else do
    ensureFence .source request.sourceId request.rootId tenant
    let source ← queryRow (·.fences) (.source, request.sourceId)
    require (source.rootId = request.rootId && source.holder.isNone)
      (conflict "joint source is fenced")
    takeFence .source request.sourceId id
    let source ← queryRow (·.fences) (.source, request.sourceId)
    pure (root.epoch, some source.epoch)

/-- A turn is recorded and its session moves to `running`. -/
def admitTurn : StoreTx Unit :=
  Tx.forSome request.turn fun turn => do
    insertTurn request.sourceId turn.turnId
      { clientRequestId := turn.clientRequestId
        inputDigest := turn.inputDigest
        intentId := request.context.intentId
        terminal := none }
    let session ← queryRow (·.jointSessions) request.sourceId
    require (session.bindingId = request.binding.bindingId) .sql
    require (session.body.status = .idle || session.body.status = .failed)
      (conflict "Session is not available for a turn")
    updateJointSessions (fun id _ => id = request.sourceId) fun row =>
      { row with status := .running, body := { session.body with status := .running } }

/-- Units of a kind that the owner has not got back yet. -/
def usedUnits (tenant : String) (kind : ResourceKind) : Nat :=
  db.reservations.sum fun key row =>
    if key.2 = kind && row.state ≠ .released &&
        (db.operations.get? key.1).any fun o => o.tenantKey = tenant then row.units
    else 0

/-- Split sessions of the owner that count against its session budget. -/
def legacySessions (tenant : Option String) : Nat :=
  db.sessions.count fun _ record =>
    record.tenantId = tenant &&
      [SessionStatus.opening, .idle, .running, .paused].contains record.status

/-- Reserves one kind of capacity.  An ordinary operation cannot use the recovery reserve,
and a tenant's session quota bounds the session budget. -/
def reserve (request : JointPrepareRequest)
    (reservation : JointResourceReservation) : StoreTx Unit := do
  let c := request.context
  let db ← Tx.get
  let isSession := decide (reservation.kind = .session)
  let used := usedUnits db (tenantKey c.tenantId) reservation.kind +
    if isSession then legacySessions db c.tenantId else 0
  let total := (budgetPolicy reservation.kind).elim 0 (·.total)
  let reserved := (budgetPolicy reservation.kind).elim 0 (·.recoveryReserve)
  let quota := if isSession && c.actorRole = .tenant then c.quota.maxSessions else none
  let limit := quota.elim (total - reserved) (min (total - reserved))
  let totalLimit := quota.elim total (min total)
  let required := used + reservation.units
  require (required ≤ limit && required ≤ totalLimit)
    (.domain (.quotaExceeded ("joint_" ++ reservation.kind.text) limit))
  insertReservation c.intentId reservation.kind reservation.units

def admitParentReference : StoreTx Unit :=
  Tx.forSome request.parentBinding fun parent =>
    insertRef .binding request.binding.bindingId parent.bindingId

/-- The token of an admission: who was admitted, and the epochs of its fences. -/
def newAdmission (epochs : Nat × Option Nat) :
    JointAdmission :=
  { intentId := request.context.intentId
    binding := request.binding
    generation := 1
    rootEpoch := epochs.1
    sourceEpoch := epochs.2 }

/-- The row of a new operation. -/
def newOperationRow (epochs : Nat × Option Nat) :
    OperationRow :=
  { request := request.encode
    admission := newAdmission request epochs
    bindingId := request.binding.bindingId
    tenantKey := tenantKey request.context.tenantId
    stage := .prepared
    publication := none }

/-- The admission of an operation whose id is new. -/
def admitOperation (request : JointPrepareRequest) :
    StoreTx JointAdmission := do
  claimPublicIdentity request
  admitBinding request
  admitRoot request
  let epochs ← acquireFences request
  insertOperation request.context.intentId (newOperationRow request epochs)
  admitTurn request
  Tx.forEach request.reservations (reserve budgetPolicy request)
  admitParentReference request
  Tx.forEach request.native (insertStep request.context.intentId)
  pure (newAdmission request epochs)

/-- **Admission**: an operation id that is known is answered from its row if the request is
the same, and a new one is admitted. -/
def prepareJointOperation (request : JointPrepareRequest) :
    StoreTx JointAdmission := do
  validated (validateRequest request)
  let db ← Tx.get
  match db.operations.get? request.context.intentId with
  | some old => do
    require (old.request.encode = request.encode)
      (conflict "joint operation identity conflict")
    pure old.admission
  | none => admitOperation budgetPolicy request

end XGovernor.Joint
