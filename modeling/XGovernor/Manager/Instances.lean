import XGovernor.Manager.State

/-!
# Operations of an instance manager

The asynchronous operations that start, load, stop, inspect and checkpoint provider instances,
written as programs.  Reads and writes of the registry and the counters are effects of their
own, since each of them is one critical section; calls of the provider, of the attach layer and
of the ledger suspend, and so do the per-runtime lock and the admission semaphore.
-/

namespace XGovernor.Manager

open Domain Lib Prog

/-! ## Effects -/

inductive Effect where
  | lookup (runtimeId : String)
  | restoreError (runtimeId : String)
  | reserve (owner : String) (limit : Option Nat)
  | rollbackReservation (owner : String)
  | trackInstance (instanceId owner : String)
  | insert (runtimeId : String) (bound : BoundInstance)
  | releaseInstance (instanceId : String)
  | remove (runtimeId : String)
  | queueRelease (pending : PendingRelease)
  | takeDue
  | rehydrateOne (instanceId owner : String)
  | clearRestoreError (runtimeId : String)
  | noteRestoreError (runtimeId : String) (error : ProviderControlError)
  | newRequestId
  | runtimeLock (runtimeId : String)
  | acquireAdmission (attempt : Nat)
  | create (attempt : Nat) (request : ProviderCreateRequest)
  | sleep (attempt delayMs : Nat)
  | load (request : ProviderLoadRequest)
  | attach (instance_ : ProviderInstance)
  | recordCreated (runtimeId owner : String) (instance_ : ProviderInstance)
  | recordDeleted (runtimeId : String)
  | listActive
  | delete (request : ProviderDeleteRequest)
  | checkpoint (request : ProviderCheckpointRequest)
  | inspect (request : ProviderInspectRequest)

namespace Effect

/-- What an effect is answered with. -/
@[reducible] def Reply : Effect → Type
  | lookup _ => Option BoundInstance
  | restoreError _ => Option ProviderControlError
  | reserve _ _ => Except ProviderControlError Unit
  | takeDue => List PendingRelease
  | newRequestId => String
  | create _ _ | load _ => Except ProviderControlError ProviderInstance
  | attach _ => Except ProviderControlError OperationBackend
  | recordCreated _ _ _ | recordDeleted _ | delete _ => Except ProviderControlError Unit
  | listActive => Except ProviderControlError (List ActiveLedgerEntry)
  | checkpoint _ => Except ProviderControlError ProviderSnapshot
  | inspect _ => Except ProviderControlError ProviderInstanceStatus
  | _ => Unit

/-- The effects that are awaited. -/
def suspends : Effect → Bool
  | runtimeLock _ | acquireAdmission _ | create _ _ | sleep _ _ | load _ | attach _
  | recordCreated _ _ _ | recordDeleted _ | listActive | delete _ | checkpoint _
  | inspect _ => true
  | _ => false

end Effect

/-- The answers of everything outside the manager. -/
abbrev Answers := (e : Effect) → e.Reply

/-- One effect in one state. -/
def handle (config : Config) (answer : Answers) (s : State) : (e : Effect) → e.Reply × State
  | .lookup runtimeId => (s.instances runtimeId, s)
  | .restoreError runtimeId => (s.restoreErrors runtimeId, s)
  | .reserve owner limit => s.reserve config owner limit
  | .rollbackReservation owner => ((), s.uncounted owner)
  | .trackInstance instanceId owner => ((), s.tracked instanceId owner)
  | .insert runtimeId bound => ((), s.registered runtimeId bound)
  | .releaseInstance instanceId => ((), s.releaseInstance instanceId)
  | .remove runtimeId => ((), s.unregistered runtimeId)
  | .queueRelease pending => ((), s.queued pending)
  | .takeDue => s.takeDue (answer .takeDue)
  | .rehydrateOne instanceId owner => ((), s.rehydrateOne instanceId owner)
  | .clearRestoreError runtimeId => ((), s.withRestoreError runtimeId none)
  | .noteRestoreError runtimeId error => ((), s.withRestoreError runtimeId (some error))
  | .newRequestId => (answer .newRequestId, s)
  | .runtimeLock runtimeId => (answer (.runtimeLock runtimeId), s)
  | .acquireAdmission attempt => (answer (.acquireAdmission attempt), s)
  | .create attempt request => (answer (.create attempt request), s)
  | .sleep attempt delayMs => (answer (.sleep attempt delayMs), s)
  | .load request => (answer (.load request), s)
  | .attach instance_ => (answer (.attach instance_), s)
  | .recordCreated runtimeId owner instance_ =>
    (answer (.recordCreated runtimeId owner instance_), s)
  | .recordDeleted runtimeId => (answer (.recordDeleted runtimeId), s)
  | .listActive => (answer .listActive, s)
  | .delete request => (answer (.delete request), s)
  | .checkpoint request => (answer (.checkpoint request), s)
  | .inspect request => (answer (.inspect request), s)

/-- The programs of the manager. -/
abbrev ManagerM (α : Type) := Prog State Effect Effect.Reply ProviderControlError α

/-! ## Single effects, at their reply types -/

def perform (e : Effect) : ManagerM e.Reply :=
  Prog.effect e

def lookup (runtimeId : String) : ManagerM (Option BoundInstance) :=
  perform (.lookup runtimeId)

def reserve (owner : String) (limit : Option Nat) :
    ManagerM (Except ProviderControlError Unit) :=
  perform (.reserve owner limit)

def rollbackReservation (owner : String) : ManagerM Unit :=
  perform (.rollbackReservation owner)

def runtimeLock (runtimeId : String) : ManagerM Unit :=
  perform (.runtimeLock runtimeId)

def deleteCall (request : ProviderDeleteRequest) : ManagerM (Except ProviderControlError Unit) :=
  perform (.delete request)

def recordDeleted (runtimeId : String) : ManagerM (Except ProviderControlError Unit) :=
  perform (.recordDeleted runtimeId)

/-- The registered instance of a runtime. -/
def requireInstance (runtimeId : String) : ManagerM BoundInstance := do
  match ← lookup runtimeId with
  | some bound => pure bound
  | none => .fail (.notFound runtimeId)

/-! ## Starting and loading -/

/-- `rollback_create`; a failure is only logged. -/
def rollbackCreate (instance_ : ProviderInstance) : ManagerM Unit := do
  let _ ← deleteCall
    { backendId := instance_.backendId, instanceId := some instance_.instanceId,
      snapshotId := none, reason := .errorCleanup, correlation := .null }
  pure ()

/-- The retry loop of `create_with_retry`: `remaining` attempts are left after this one. -/
def createLoop (config : Config) (request : ProviderCreateRequest) :
    (remaining attempt delayMs : Nat) → ManagerM ProviderInstance
  | remaining, attempt, delayMs => do
    perform (.acquireAdmission attempt)
    let outcome : Except ProviderControlError ProviderInstance ←
      perform (.create attempt request)
    match outcome with
    | .ok instance_ => pure instance_
    | .error error =>
      match remaining with
      | 0 => .fail error
      | remaining + 1 =>
        if isRetryable error then do
          perform (.sleep attempt delayMs)
          createLoop config request remaining (attempt + 1) (min (delayMs * 2) config.maxDelayMs)
        else
          .fail error

/-- `create_with_retry`. -/
def createWithRetry (config : Config) (backendId owner : String) (providerOptions : Json) :
    ManagerM ProviderInstance := do
  let requestId : String ← perform .newRequestId
  createLoop config
    { backendId, ownerRef := owner, reason := .acquire, providerOptions,
      correlation := .object [("request_id", .string requestId)] }
    (config.maxAttempts - 1) 1 config.baseDelayMs

/-- The common end of starting and loading: attach the new instance, record it in the ledger and
register it; until it is registered every failure deletes it and gives the place back. -/
def bindInstance (runtimeId owner : String) (instance_ : ProviderInstance) :
    ManagerM OperationBackend := do
  let attached : Except ProviderControlError OperationBackend ←
    perform (.attach instance_)
  match attached with
  | .error error => do
    rollbackCreate instance_
    rollbackReservation owner
    .fail error
  | .ok backend => do
    let recorded : Except ProviderControlError Unit ←
      perform (.recordCreated runtimeId owner instance_)
    match recorded with
    | .error error => do
      rollbackCreate instance_
      -- nothing was created, so only the place is given back
      rollbackReservation owner
      .fail error
    | .ok () => do
      perform (.trackInstance instance_.instanceId owner)
      perform (.insert runtimeId { instance_, backend })
      pure backend

/-- The common frame of `start_instance_locked` and `load_instance_from_snapshot_locked`: refuse a
registered runtime, reserve a place, obtain the instance and bind it. -/
def admitInstance (runtimeId owner : String) (limit : Option Nat) (duplicate : String)
    (obtain_ : ManagerM ProviderInstance) : ManagerM OperationBackend := do
  match ← lookup runtimeId with
  | some _ => .fail (.conflict duplicate)
  | none => do
    orFail (← reserve owner limit)
    match ← (Prog.attempt obtain_ : ManagerM _) with
    | .error error => do
      rollbackReservation owner
      .fail error
    | .ok instance_ => bindInstance runtimeId owner instance_

def startInstanceLocked (config : Config) (runtimeId backendId owner : String)
    (providerOptions : Json) (limit : Option Nat) : ManagerM OperationBackend :=
  admitInstance runtimeId owner limit
    ("runtime_id '" ++ runtimeId ++ "' already has an active provider instance " ++
      "(concurrent or duplicate start_instance rejected)")
    (createWithRetry config backendId owner providerOptions)

def startInstance (config : Config) (runtimeId backendId owner : String)
    (providerOptions : Json) (limit : Option Nat) : ManagerM OperationBackend := do
  runtimeLock runtimeId
  startInstanceLocked config runtimeId backendId owner providerOptions limit

/-- `lifecycle.load` for a snapshot. -/
def loadSnapshot (runtimeId backendId owner snapshotId : String) (providerOptions : Json) :
    ManagerM ProviderInstance := do
  let loaded : Except ProviderControlError ProviderInstance ←
    perform (.load
      { backendId, ownerRef := owner, snapshotId, reason := .restore, providerOptions,
        correlation := .object [("request_id", .string ("load:" ++ runtimeId))] })
  orFail loaded

def loadInstanceFromSnapshotLocked (runtimeId backendId owner snapshotId : String)
    (providerOptions : Json) (limit : Option Nat) : ManagerM OperationBackend :=
  admitInstance runtimeId owner limit
    ("runtime_id '" ++ runtimeId ++ "' already has an active provider instance")
    (loadSnapshot runtimeId backendId owner snapshotId providerOptions)

def loadInstanceFromSnapshot (runtimeId backendId owner snapshotId : String)
    (providerOptions : Json) (limit : Option Nat) : ManagerM OperationBackend := do
  runtimeLock runtimeId
  loadInstanceFromSnapshotLocked runtimeId backendId owner snapshotId providerOptions limit

/-! ## Stopping -/

def deleteInstance (record : BoundInstance) : ManagerM (Except ProviderControlError Unit) :=
  deleteCall
    { backendId := record.instance_.backendId, instanceId := some record.instance_.instanceId,
      snapshotId := none, reason := .release, correlation := .null }

variable (runtimeId : String)

/-- `finish_release`; a failed ledger write is only logged. -/
def finishRelease (record : BoundInstance) : ManagerM Unit := do
  let _ ← recordDeleted runtimeId
  perform (.releaseInstance record.instance_.instanceId)
  perform (.remove runtimeId)

def stopInstanceLocked : ManagerM Unit := do
  let record ← requireInstance runtimeId
  match ← deleteInstance record with
  | .ok () => finishRelease runtimeId record
  | .error error => do
    -- the entry stays registered, and counted, until a sweep has deleted the instance
    perform (.queueRelease { runtimeId, record, attempt := 0 })
    .fail error

def stopInstance : ManagerM Unit := do
  runtimeLock runtimeId
  stopInstanceLocked runtimeId

/-- The instance the ledger still lists for a runtime that is not registered. -/
def destroyByLedgerLocked : ManagerM Unit := do
  let active : Except ProviderControlError (List ActiveLedgerEntry) ← perform .listActive
  match (← orFail active).find? fun entry => entry.runtimeId = runtimeId with
  | none => pure ()
  | some entry => do
    orFail (← deleteCall
      { backendId := entry.instance_.backendId, instanceId := some entry.instance_.instanceId,
        snapshotId := none, reason := .release, correlation := .null })
    let _ ← recordDeleted runtimeId
    pure ()

def destroyByRuntimeId : ManagerM Unit := do
  match ← (Prog.attempt (stopInstance runtimeId) : ManagerM _) with
  | .ok () => pure ()
  -- after a restart the ledger knows instances that are not registered yet
  | .error (.notFound _) => do
    runtimeLock runtimeId
    destroyByLedgerLocked runtimeId
  | .error error => .fail error

/-! ## Looking at instances -/

def checkpointInstanceCorrelated (config : Config) (runtimeId : String) (correlation : Json) :
    ManagerM ProviderSnapshot := do
  let record ← requireInstance runtimeId
  require (record.instance_.capabilities.contains .snapshot)
    (.unsupportedCapability config.kind "checkpoint")
  let snapshot : Except ProviderControlError ProviderSnapshot ← perform (.checkpoint
    { backendId := record.instance_.backendId, instanceId := record.instance_.instanceId,
      reason := .userRequested, correlation })
  orFail snapshot

def inspectInstance : ManagerM ProviderInstanceStatus := do
  let record ← requireInstance runtimeId
  let status : Except ProviderControlError ProviderInstanceStatus ← perform (.inspect
    { backendId := record.instance_.backendId, instanceId := some record.instance_.instanceId,
      reason := .reconcile, correlation := .null })
  orFail status

def deleteSnapshot (backendId snapshotId : String) : ManagerM Unit := do
  orFail (← deleteCall
    { backendId, instanceId := none, snapshotId := some snapshotId, reason := .userRequested,
      correlation := .null })

/-- `backend_for`: the attach error of the last reconciliation explains a missing instance. -/
def backendFor : ManagerM OperationBackend := do
  match ← lookup runtimeId with
  | some bound => pure bound.backend
  | none => do
    let known : Option ProviderControlError ← perform (.restoreError runtimeId)
    .fail (known.getD (.notFound runtimeId))

end XGovernor.Manager
