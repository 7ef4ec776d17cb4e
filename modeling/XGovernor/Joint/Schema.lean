import XGovernor.Lib.Table
import XGovernor.Lib.Transaction
import XGovernor.Joint.HostTypes

/-!
# Schema of the joint store

One table per `CREATE TABLE` of the repository, with the columns its transactions
read; a column that holds serialized JSON holds the value it decodes to.  `Db` is the
whole database, and an `insert…` function is an `INSERT` with the uniqueness
constraints and triggers of its table.

References between tables are not checked here: every transaction inserts a row only
after it has read or inserted the rows the new one refers to.
-/

namespace XGovernor.Joint

open Domain Lib Tx

/-! ## Rows -/

structure BindingRow where
  ownerKind : String
  revision : String
  runtimeKind : String
  tenantKey : String
  rootId : String
  generation : Nat
  state : BindingState
  creationIntent : String
  parentId : Option String
deriving DecidableEq, Repr

structure OperationRow where
  request : JointPrepareRequest
  admission : JointAdmission
  bindingId : String
  tenantKey : String
  stage : Stage
  publication : Option JointPublication
deriving DecidableEq, Repr

/-- Keyed by runtime and turn. -/
structure TurnRow where
  clientRequestId : Option String
  inputDigest : String
  intentId : String
  terminal : Option JointTurnTerminal
deriving DecidableEq, Repr

/-- Keyed by operation and resource kind. -/
structure ReservationRow where
  units : Nat
  state : ReservationState
deriving DecidableEq, Repr

/-- Keyed by operation and step name. -/
structure StepRow where
  native : JointNativeIntent
  outcome : Option JointNativeOutcome
deriving DecidableEq, Repr

structure ObjectKey where
  bindingId : String
  generation : Nat
  kind : String
  nativeId : String
deriving DecidableEq, Repr

structure ObjectRow where
  rootId : String
  absent : Bool
deriving DecidableEq, Repr

structure RootRow where
  ownerKind : String
  revision : String
  tenantKey : String
  bindingId : String
deriving DecidableEq, Repr

inductive FenceKind where
  | root
  | source
deriving DecidableEq, Repr

/-- Keyed by fence kind and the id of the Root or of the source. -/
structure FenceRow where
  rootId : String
  tenantKey : String
  epoch : Nat
  holder : Option String
deriving DecidableEq, Repr

/-- What a reference or a public claim is about. -/
inductive RefKind where
  | session
  | checkpoint
  | binding
  | hostHold
deriving DecidableEq, Repr

structure JointSessionRow where
  bindingId : String
  tenantId : Option String
  status : SessionStatus
  updatedAtMs : Nat
  body : SessionRecord
deriving DecidableEq, Repr

structure JointCheckpointRow where
  bindingId : String
  tenantId : Option String
  sourceRuntimeId : String
  createdBy : Option String
  createdAtMs : Nat
  body : JointCheckpointRecord
deriving DecidableEq, Repr

structure TurnCancelRow where
  context : JointOperationContext
  native : Option JointNativeIntent
  outcome : Option JointNativeOutcome
deriving DecidableEq, Repr

structure CancelBoundaryRow where
  generation : Nat
  cancelEpoch : Nat
  checkpointEpoch : Nat
deriving DecidableEq, Repr

structure CancelCheckpointRow where
  body : JointCheckpointBoundaryObservation
  checkpointId : Option String
deriving DecidableEq, Repr

structure HostTargetRow where
  target : HostTargetV1
  policy : HostCapabilityPolicyV1
deriving DecidableEq, Repr

inductive AllocationState where
  | reserved
  | released
deriving DecidableEq, Repr

structure HostAllocationRow where
  owner : String
  bytes : Nat
  state : AllocationState
deriving DecidableEq, Repr

structure HostWorkspaceRow where
  generation : Nat
  epoch : Nat
  dirty : Bool
  activeIntent : Option String
  lastSettled : Option String
deriving DecidableEq, Repr

inductive CleanupPhase where
  | prepared
  | waitingDependency
  | done
deriving DecidableEq, Repr

/-- Keyed by the parent operation. -/
structure HostCleanupRow where
  childId : String
  state : CleanupPhase
  delegated : Bool
deriving DecidableEq, Repr

/-! ## The database -/

structure Db where
  bindings : Table String BindingRow
  operations : Table String OperationRow
  turns : Table (String × String) TurnRow
  reservations : Table (String × ResourceKind) ReservationRow
  steps : Table (String × String) StepRow
  objects : Table ObjectKey ObjectRow
  roots : Table String RootRow
  fences : Table (FenceKind × String) FenceRow
  workspaceClaims : Table String String
  publicClaims : Table (RefKind × String) String
  refs : Table (RefKind × String) String
  jointSessions : Table String JointSessionRow
  jointCheckpoints : Table String JointCheckpointRow
  turnCancels : Table String TurnCancelRow
  cancelBoundaries : Table String CancelBoundaryRow
  cancelCheckpoints : Table String CancelCheckpointRow
  hostRoots : Table String Nat
  hostTargets : Table String HostTargetRow
  hostIntents : Table String HostIntentV1
  hostAllocations : Table String HostAllocationRow
  hostWorkspace : Table String HostWorkspaceRow
  hostCleanup : Table String HostCleanupRow
  hostDependencies : Table (String × String) Bool
  sessions : Table String SessionRecord
  checkpoints : Table String CheckpointRecord
  snapshotOperations : Table String Json

/-- The store before the first transaction. -/
def Db.empty : Db where
  bindings := .empty
  operations := .empty
  turns := .empty
  reservations := .empty
  steps := .empty
  objects := .empty
  roots := .empty
  fences := .empty
  workspaceClaims := .empty
  publicClaims := .empty
  refs := .empty
  jointSessions := .empty
  jointCheckpoints := .empty
  turnCancels := .empty
  cancelBoundaries := .empty
  cancelCheckpoints := .empty
  hostRoots := .empty
  hostTargets := .empty
  hostIntents := .empty
  hostAllocations := .empty
  hostWorkspace := .empty
  hostCleanup := .empty
  hostDependencies := .empty
  sessions := .empty
  checkpoints := .empty
  snapshotOperations := .empty

/-! ## Transactions on the database -/

/-- Errors inside a transaction.  `sql` is a constraint violation or a missing row. -/
inductive StoreError where
  | sql
  | domain (error : SessionDomainError)
deriving DecidableEq, Repr

def conflict (message : String) : StoreError :=
  .domain (.conflict message)

abbrev StoreTx (α : Type) := Tx Db StoreError α

/-- `SELECT` of one row by its key; a missing row is an error. -/
def queryRow {K V : Type} [DecidableEq K] (table : Db → Table K V) (key : K) : StoreTx V := do
  let db ← get
  expect ((table db).get? key) .sql

/-- The outcome of a check that does not read the store. -/
def checked (result : Except SessionDomainError Unit) : StoreTx Unit :=
  match result with
  | .ok _ => pure ()
  | .error error => fail (.domain error)

/-! ## Inserts -/

/-- `INSERT INTO table VALUES(key, row)`: the key is free and no row clashes with a further
uniqueness constraint of the table. -/
def insertRow {K V : Type} [DecidableEq K] (table : Db → Table K V)
    (write : Db → Table K V → Db) (clashes : K → V → Bool) (key : K) (row : V) :
    StoreTx Unit := do
  let db ← get
  require ((table db).get? key).isNone .sql
  require (!(table db).any clashes) .sql
  modify fun db => write db ((table db).add key row)

/-- The constraint of a table that has no other than its primary key. -/
def noClash {K V : Type} : K → V → Bool := fun _ _ => false

@[simp] theorem run_insertRow_eq_ok {K V : Type} [DecidableEq K] {table : Db → Table K V}
    {write : Db → Table K V → Db} {clashes : K → V → Bool} {key : K} {row : V} {u : Unit}
    {s s' : Db} :
    (insertRow table write clashes key row).run s = .ok (u, s') ↔
      (table s).get? key = none ∧ (table s).any clashes = false ∧
        s' = write s ((table s).add key row) := by
  simp [insertRow]

@[simp] def insertBinding (id : String) (row : BindingRow) : StoreTx Unit :=
  insertRow (·.bindings) (fun db t => { db with bindings := t }) noClash id row

@[simp] def insertOperation (id : String) (row : OperationRow) : StoreTx Unit :=
  insertRow (·.operations) (fun db t => { db with operations := t }) noClash id row

/-- A turn is unique by its turn id, by its operation, and by its client request when it
has one. -/
@[simp] def insertTurn (runtimeId turnId : String) (row : TurnRow) : StoreTx Unit :=
  insertRow (·.turns) (fun db t => { db with turns := t })
    (fun key old => old.intentId = row.intentId ||
      (row.clientRequestId.isSome && key.1 = runtimeId &&
        old.clientRequestId = row.clientRequestId))
    (runtimeId, turnId) row

@[simp] def insertReservation (intentId : String) (kind : ResourceKind) (units : Nat) :
    StoreTx Unit := do
  require (decide (0 < units)) .sql
  insertRow (·.reservations) (fun db t => { db with reservations := t }) noClash
    (intentId, kind) ⟨units, .reserved⟩

/-- A native operation id is unique over all operations. -/
@[simp] def insertStep (intentId : String) (native : JointNativeIntent) : StoreTx Unit :=
  insertRow (·.steps) (fun db t => { db with steps := t })
    (fun _ old => old.native.operationId = native.operationId)
    (intentId, native.step) ⟨native, none⟩

@[simp] def insertRoot (id : String) (row : RootRow) : StoreTx Unit :=
  insertRow (·.roots) (fun db t => { db with roots := t }) noClash id row

/-- A workspace path has one claim, and a binding claims one path. -/
@[simp] def insertWorkspaceClaim (path bindingId : String) : StoreTx Unit :=
  insertRow (·.workspaceClaims) (fun db t => { db with workspaceClaims := t })
    (fun _ claimant => claimant = bindingId) path bindingId

/-- A public identity has one claim, and an operation claims one identity. -/
@[simp] def insertPublicClaim (kind : RefKind) (publicId intentId : String) : StoreTx Unit :=
  insertRow (·.publicClaims) (fun db t => { db with publicClaims := t })
    (fun _ claimant => claimant = intentId) (kind, publicId) intentId

@[simp] def insertRef (kind : RefKind) (publicId bindingId : String) : StoreTx Unit :=
  insertRow (·.refs) (fun db t => { db with refs := t }) noClash (kind, publicId) bindingId

/-- The trigger refuses an identity that a split session has. -/
@[simp] def insertJointSession (runtimeId : String) (row : JointSessionRow) : StoreTx Unit := do
  let db ← get
  require (db.sessions.get? runtimeId).isNone .sql
  insertRow (·.jointSessions) (fun db t => { db with jointSessions := t }) noClash runtimeId row

/-- The trigger refuses an identity that a split checkpoint has. -/
@[simp] def insertJointCheckpoint (checkpointId : String) (row : JointCheckpointRow) :
    StoreTx Unit := do
  let db ← get
  require (db.checkpoints.get? checkpointId).isNone .sql
  insertRow (·.jointCheckpoints) (fun db t => { db with jointCheckpoints := t }) noClash
    checkpointId row

@[simp] def insertHostIntent (intentId : String) (row : HostIntentV1) : StoreTx Unit :=
  insertRow (·.hostIntents) (fun db t => { db with hostIntents := t }) noClash intentId row

@[simp] def insertHostAllocation (intentId : String) (row : HostAllocationRow) : StoreTx Unit :=
  insertRow (·.hostAllocations) (fun db t => { db with hostAllocations := t }) noClash
    intentId row

/-- A cleanup is unique by its parent and by its child. -/
@[simp] def insertHostCleanup (parentId : String) (row : HostCleanupRow) : StoreTx Unit :=
  insertRow (·.hostCleanup) (fun db t => { db with hostCleanup := t })
    (fun _ old => old.childId = row.childId) parentId row

@[simp] def insertHostDependency (parentId dependency : String) : StoreTx Unit :=
  insertRow (·.hostDependencies) (fun db t => { db with hostDependencies := t }) noClash
    (parentId, dependency) false

@[simp] def insertHostTarget (runtimeId : String) (row : HostTargetRow) : StoreTx Unit :=
  insertRow (·.hostTargets) (fun db t => { db with hostTargets := t }) noClash runtimeId row

@[simp] def insertHostWorkspace (bindingId : String) (row : HostWorkspaceRow) : StoreTx Unit :=
  insertRow (·.hostWorkspace) (fun db t => { db with hostWorkspace := t }) noClash bindingId row

/-! `INSERT OR IGNORE`. -/

@[simp] def addObject (key : ObjectKey) (row : ObjectRow) : StoreTx Unit :=
  modify fun db => { db with objects := db.objects.add key row }

@[simp] def addFence (key : FenceKind × String) (row : FenceRow) : StoreTx Unit :=
  modify fun db => { db with fences := db.fences.add key row }

@[simp] def addTurnCancel (intentId : String) (row : TurnCancelRow) : StoreTx Unit :=
  modify fun db => { db with turnCancels := db.turnCancels.add intentId row }

/-! ## Updates and deletes -/

@[simp] def updateBindings (p : String → BindingRow → Bool)
    (f : BindingRow → BindingRow) : StoreTx Unit :=
  modify fun db => { db with bindings := db.bindings.modify p f }

@[simp] def updateOperations (p : String → OperationRow → Bool)
    (f : OperationRow → OperationRow) : StoreTx Unit :=
  modify fun db => { db with operations := db.operations.modify p f }

@[simp] def updateTurns (p : String × String → TurnRow → Bool)
    (f : TurnRow → TurnRow) : StoreTx Unit :=
  modify fun db => { db with turns := db.turns.modify p f }

@[simp] def updateReservations (p : String × ResourceKind → ReservationRow → Bool)
    (f : ReservationRow → ReservationRow) : StoreTx Unit :=
  modify fun db => { db with reservations := db.reservations.modify p f }

@[simp] def updateSteps (p : String × String → StepRow → Bool)
    (f : StepRow → StepRow) : StoreTx Unit :=
  modify fun db => { db with steps := db.steps.modify p f }

@[simp] def updateObjects (p : ObjectKey → ObjectRow → Bool)
    (f : ObjectRow → ObjectRow) : StoreTx Unit :=
  modify fun db => { db with objects := db.objects.modify p f }

@[simp] def updateFences (p : FenceKind × String → FenceRow → Bool)
    (f : FenceRow → FenceRow) : StoreTx Unit :=
  modify fun db => { db with fences := db.fences.modify p f }

@[simp] def updateJointSessions (p : String → JointSessionRow → Bool)
    (f : JointSessionRow → JointSessionRow) : StoreTx Unit :=
  modify fun db => { db with jointSessions := db.jointSessions.modify p f }

@[simp] def updateTurnCancels (p : String → TurnCancelRow → Bool)
    (f : TurnCancelRow → TurnCancelRow) : StoreTx Unit :=
  modify fun db => { db with turnCancels := db.turnCancels.modify p f }

@[simp] def updateCancelBoundaries (p : String → CancelBoundaryRow → Bool)
    (f : CancelBoundaryRow → CancelBoundaryRow) : StoreTx Unit :=
  modify fun db => { db with cancelBoundaries := db.cancelBoundaries.modify p f }

@[simp] def updateCancelCheckpoints (p : String → CancelCheckpointRow → Bool)
    (f : CancelCheckpointRow → CancelCheckpointRow) : StoreTx Unit :=
  modify fun db => { db with cancelCheckpoints := db.cancelCheckpoints.modify p f }

@[simp] def updateHostIntents (p : String → HostIntentV1 → Bool)
    (f : HostIntentV1 → HostIntentV1) : StoreTx Unit :=
  modify fun db => { db with hostIntents := db.hostIntents.modify p f }

@[simp] def updateHostAllocations (p : String → HostAllocationRow → Bool)
    (f : HostAllocationRow → HostAllocationRow) : StoreTx Unit :=
  modify fun db => { db with hostAllocations := db.hostAllocations.modify p f }

@[simp] def updateHostWorkspace (p : String → HostWorkspaceRow → Bool)
    (f : HostWorkspaceRow → HostWorkspaceRow) : StoreTx Unit :=
  modify fun db => { db with hostWorkspace := db.hostWorkspace.modify p f }

@[simp] def updateHostCleanup (p : String → HostCleanupRow → Bool)
    (f : HostCleanupRow → HostCleanupRow) : StoreTx Unit :=
  modify fun db => { db with hostCleanup := db.hostCleanup.modify p f }

@[simp] def updateHostDependencies (p : String × String → Bool → Bool)
    (f : Bool → Bool) : StoreTx Unit :=
  modify fun db => { db with hostDependencies := db.hostDependencies.modify p f }

@[simp] def deleteWorkspaceClaims (p : String → String → Bool) : StoreTx Unit :=
  modify fun db => { db with workspaceClaims := db.workspaceClaims.erase p }

@[simp] def deletePublicClaims (p : RefKind × String → String → Bool) : StoreTx Unit :=
  modify fun db => { db with publicClaims := db.publicClaims.erase p }

@[simp] def deleteRefs (p : RefKind × String → String → Bool) : StoreTx Unit :=
  modify fun db => { db with refs := db.refs.erase p }

@[simp] def deleteJointCheckpoints (p : String → JointCheckpointRow → Bool) : StoreTx Unit :=
  modify fun db => { db with jointCheckpoints := db.jointCheckpoints.erase p }

end XGovernor.Joint
