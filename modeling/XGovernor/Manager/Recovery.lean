import XGovernor.Manager.Instances

/-!
# Retried deletions and reconciliation

Two operations of an instance manager that run in the background.  A sweep of the queue retries
the deletions that failed, and a reconciliation compares the registry with the rows that the
ledger lists as active.  The sweep takes the lock of each runtime it touches; the reconciliation
takes none.
-/

namespace XGovernor.Manager

open Domain Lib

/-! ## The sweep -/

/-- One entry of a sweep, under the lock of its runtime: the entry is dropped if the runtime is not
registered any more, whatever instance is registered otherwise. -/
def retryItemLocked (item : PendingRelease) : ManagerM Unit := do
  match ← lookup item.runtimeId with
  | none => pure ()
  | some _ =>
    match ← deleteInstance item.record with
    | .ok () => finishRelease item.runtimeId item.record
    | .error _ => perform (.queueRelease { item with attempt := item.attempt + 1 })

/-! ## Reconciliation -/

structure ReconcileOutcome where
  confirmed : List ActiveLedgerEntry
  orphaned : List ActiveLedgerEntry
deriving DecidableEq, Repr

/-- What became of one row of the ledger. -/
inductive EntryOutcome where
  | kept
  | confirmed
  | orphaned
  | unavailable (error : ProviderControlError)
deriving DecidableEq, Repr

/-- One row of the ledger.  A registered runtime is inspected on one kind of provider only; a
runtime that is not registered is attached again. -/
def reconcileEntry (config : Config) (entry : ActiveLedgerEntry) : ManagerM EntryOutcome := do
  match ← lookup entry.runtimeId with
  | some _ =>
    if config.kind = "docker" then do
      let inspected : Except ProviderControlError ProviderInstanceStatus ← perform (.inspect
        { backendId := entry.instance_.backendId, instanceId := some entry.instance_.instanceId,
          reason := .reconcile, correlation := .null })
      match inspected with
      | .error (.notFound _) => do
        perform (.remove entry.runtimeId)
        perform (.releaseInstance entry.instance_.instanceId)
        let _ ← recordDeleted entry.runtimeId
        pure .orphaned
      | .error error => pure (.unavailable error)
      | .ok _ => pure .kept
    else
      pure .kept
  | none => do
    let attached : Except ProviderControlError OperationBackend ←
      perform (.attach entry.instance_)
    match attached with
    | .ok backend => do
      perform (.clearRestoreError entry.runtimeId)
      perform (.insert entry.runtimeId { instance_ := entry.instance_, backend })
      perform (.rehydrateOne entry.instance_.instanceId entry.ownerRef)
      pure .confirmed
    | .error (.notFound _) => do
      perform (.clearRestoreError entry.runtimeId)
      let _ ← recordDeleted entry.runtimeId
      pure .orphaned
    | .error error => do
      perform (.noteRestoreError entry.runtimeId error)
      pure (.unavailable error)

/-- The loop of `reconcile`; the last row that was unavailable decides the error. -/
def reconcileEntries (config : Config) :
    (entries : List ActiveLedgerEntry) → ReconcileOutcome → Option ProviderControlError →
      ManagerM ReconcileOutcome
  | [], outcome, none => pure outcome
  | [], _, some error => .fail error
  | entry :: entries, outcome, unavailable => do
    match ← reconcileEntry config entry with
    | .kept => reconcileEntries config entries outcome unavailable
    | .confirmed =>
      reconcileEntries config entries
        { outcome with confirmed := outcome.confirmed ++ [entry] } unavailable
    | .orphaned =>
      reconcileEntries config entries
        { outcome with orphaned := outcome.orphaned ++ [entry] } unavailable
    | .unavailable error => reconcileEntries config entries outcome (some error)

/-- `reconcile`. -/
def reconcile (config : Config) : ManagerM ReconcileOutcome := do
  let active : Except ProviderControlError (List ActiveLedgerEntry) ← perform .listActive
  reconcileEntries config (← Prog.orFail active) { confirmed := [], orphaned := [] } none

end XGovernor.Manager
