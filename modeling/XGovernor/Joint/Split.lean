import XGovernor.Joint.Schema

/-!
# The split route of the repository

Sessions and checkpoints that no joint owner executes live in the same database.  Their
writes are single statements; triggers keep the public identities of the two routes apart.
-/

namespace XGovernor.Joint

open Domain Lib Tx

/-- `read_session`: a joint session hides a split one of the same id. -/
def readSession (db : Db) (runtimeId : String) : Option SessionRecord :=
  match db.jointSessions.get? runtimeId with
  | some row => some row.body
  | none => db.sessions.get? runtimeId

/-- `get_checkpoint`: a checkpoint whose deletion is announced is hidden. -/
def readCheckpoint (db : Db) (checkpointId : String) : Option CheckpointRecord :=
  if (db.snapshotOperations.get? ("delete:" ++ checkpointId)).isSome then none
  else db.checkpoints.get? checkpointId

theorem checkpoint_of_readCheckpoint {db checkpointId record}
    (h : readCheckpoint db checkpointId = some record) :
    db.checkpoints.get? checkpointId = some record := by
  unfold readCheckpoint at h
  split at h
  · cases h
  · exact h

/-- The identity belongs to the joint route. -/
def jointSessionIdentity (db : Db) (runtimeId : String) : Bool :=
  (db.jointSessions.get? runtimeId).isSome || (db.publicClaims.get? (.session, runtimeId)).isSome

def jointCheckpointIdentity (db : Db) (checkpointId : String) : Bool :=
  (db.jointCheckpoints.get? checkpointId).isSome ||
    (db.publicClaims.get? (.checkpoint, checkpointId)).isSome

/-- Inserts a session record or replaces it, except for its creation time; the execution
route of a stored record cannot be replaced. -/
def saveSession (record : SessionRecord) : StoreTx Unit := do
  require record.executionBacking.joint.isNone (.domain (unsupportedJoint "publication"))
  let db ← Tx.get
  require (!jointSessionIdentity db record.runtimeId) .sql
  require ((db.sessions.get? record.runtimeId).all fun old =>
      old.executionBacking = record.executionBacking)
    (.domain (.internal "sqlite save failed: persisted execution route cannot be replaced"))
  Tx.modify fun db =>
    { db with
      sessions := (db.sessions.modify (fun id _ => id = record.runtimeId)
        fun old => { record with createdAtMs := old.createdAtMs }).add record.runtimeId record }

/-- A checkpoint is inserted once. -/
def saveCheckpoint (record : CheckpointRecord) : StoreTx Unit := do
  let db ← Tx.get
  require (!jointCheckpointIdentity db record.checkpointId) .sql
  insertRow (·.checkpoints) (fun db t => { db with checkpoints := t }) noClash
    record.checkpointId record

def deleteCheckpoint (checkpointId : String) : StoreTx Bool := do
  let db ← Tx.get
  Tx.modify fun db => { db with checkpoints := db.checkpoints.erase fun id _ => id = checkpointId }
  pure (db.checkpoints.get? checkpointId).isSome

def saveOperationIntent (id : String) (body : Json) : StoreTx Unit :=
  Tx.modify fun db =>
    { db with
      snapshotOperations := (db.snapshotOperations.modify (fun key _ => key = id)
        fun _ => body).add id body }

def deleteOperationIntent (id : String) : StoreTx Unit :=
  Tx.modify fun db =>
    { db with snapshotOperations := db.snapshotOperations.erase fun key _ => key = id }

end XGovernor.Joint
