import XGovernor.Lib.Typestate
import XGovernor.Manager.Recovery

/-!
# Concurrent calls on an instance manager

The calls of an instance manager run side by side on its registry and counters, on the ledger of
provider instances and on the locks of the runtimes.  Every critical section is a step of its own,
and so is every awaited call; a runtime's lock is held from one step to another, and a call waits
for it until it is free.
-/

namespace XGovernor.Manager

open Domain Lib

/-! ## The shared state -/

/-- A row of `provider_instances`; rows of other providers are not looked at. -/
structure LedgerRow where
  ownerRef : String
  instance_ : ProviderInstance
  active : Bool
deriving DecidableEq, Repr

/-- A manager with its ledger, the runtime locks that are taken, and the instance ids that its
provider has handed out. -/
structure World where
  manager : State
  ledger : Table String LedgerRow
  locked : String → Bool
  issued : List String

/-- What the calls do to the shared state. -/
inductive WorldEffect where
  | lock (runtimeId : String)
  | unlock (runtimeId : String)
  | manager (e : Effect)

@[reducible] def WorldEffect.Reply : WorldEffect → Type
  | lock _ | unlock _ => Unit
  | manager e => e.Reply

namespace World

variable (w : World)

/-- `list_active`. -/
def listActive : List ActiveLedgerEntry :=
  (w.ledger.select fun _ row => row.active).map fun (runtimeId, row) =>
    { runtimeId, ownerRef := row.ownerRef, instance_ := row.instance_ }

/-- `record_created`: the row of a runtime is replaced. -/
def recordCreated (runtimeId owner : String) (instance_ : ProviderInstance) : World :=
  { w with ledger := w.ledger.upsert runtimeId { ownerRef := owner, instance_, active := true } }

/-- `record_deleted`: the row stays. -/
def recordDeleted (runtimeId : String) : World :=
  { w with ledger := w.ledger.modify (fun key _ => key = runtimeId) ({ · with active := false }) }

/-- The provider has handed out an instance. -/
def withIssued (instance_ : ProviderInstance) : World :=
  { w with issued := instance_.instanceId :: w.issued }

def setLocked (runtimeId : String) (held : Bool) : World :=
  { w with locked := Function.update w.locked runtimeId held }

/-- What an effect of the manager does to its surroundings, given its reply. -/
def surroundings : (e : Effect) → e.Reply → World
  | .recordCreated runtimeId owner instance_, .ok () => w.recordCreated runtimeId owner instance_
  | .recordDeleted runtimeId, .ok () => w.recordDeleted runtimeId
  | .create _ _, .ok instance_ | .load _, .ok instance_ => w.withIssued instance_
  | _, _ => w

theorem surroundings_locked (e) (r : e.Reply) : (w.surroundings e r).locked = w.locked := by
  unfold surroundings
  split <;> rfl

/-- The reply to an effect of the manager; what the ledger lists is what it holds. -/
def reply (config : Config) (answer : Answers) (w : World) : (e : Effect) → e.Reply
  | .listActive => (answer .listActive).map fun _ => w.listActive
  | e => (handle config answer w.manager e).1

/-- One effect on the shared state. -/
def handle (config : Config) (answer : Answers) (w : World) : (e : WorldEffect) → e.Reply × World
  | .lock runtimeId => ((), w.setLocked runtimeId true)
  | .unlock runtimeId => ((), w.setLocked runtimeId false)
  | .manager e =>
    (w.reply config answer e,
      { w.surroundings e (w.reply config answer e) with
        manager := (Manager.handle config answer w.manager e).2 })

/-- A lock that is held has to be waited for. -/
def enabled : WorldEffect → Prop
  | .lock runtimeId => w.locked runtimeId = false
  | _ => True

instance (w : World) (e : WorldEffect) : Decidable (w.enabled e) :=
  match e with
  | .lock runtimeId => inferInstanceAs (Decidable (w.locked runtimeId = false))
  | .unlock _ | .manager _ => inferInstanceAs (Decidable True)

end World

/-! ## The calls -/

abbrev WorldM (α : Type) := Prog World WorldEffect WorldEffect.Reply ProviderControlError α

/-- The manager in its surroundings. -/
def inWorld : Embedding State Effect Effect.Reply World WorldEffect WorldEffect.Reply where
  inject := .manager
  reply := fun _ r => r
  view := World.manager
  put := fun m w => { w with manager := m }
  view_put := fun _ _ => rfl
  put_view := fun _ => rfl
  put_put := fun _ _ _ => rfl

/-- A program that runs under the lock of a runtime. -/
def withLock {α : Type} (runtimeId : String) (p : ManagerM α) : WorldM α :=
  (Prog.effect (.lock runtimeId)).bind fun _ =>
    (inWorld.lift p).guarded (.unlock runtimeId) (·.setLocked runtimeId false)

inductive Call where
  | startInstance (runtimeId backendId owner : String) (providerOptions : Json)
      (limit : Option Nat)
  | loadInstanceFromSnapshot (runtimeId backendId owner snapshotId : String)
      (providerOptions : Json) (limit : Option Nat)
  | stopInstance (runtimeId : String)
  | destroyByRuntimeId (runtimeId : String)
  | retryPendingReleasesOnce
  | reconcile

namespace Call

/-- `destroy_by_runtime_id`: the lock is given back between its two halves. -/
def destroy (runtimeId : String) : WorldM Unit := do
  match ← (Prog.attempt (withLock runtimeId (stopInstanceLocked runtimeId)) : WorldM _) with
  | .ok () => pure ()
  | .error (.notFound _) => withLock runtimeId (destroyByLedgerLocked runtimeId)
  | .error error => .fail error

/-- The loop of `retry_pending_releases_once`. -/
def sweep : List PendingRelease → WorldM Unit
  | [] => pure ()
  | item :: due => do
    withLock item.runtimeId (retryItemLocked item)
    sweep due

def body (config : Config) : Call → WorldM Unit
  | startInstance runtimeId backendId owner providerOptions limit => do
    let _ ← withLock runtimeId
      (startInstanceLocked config runtimeId backendId owner providerOptions limit)
    pure ()
  | loadInstanceFromSnapshot runtimeId backendId owner snapshotId providerOptions limit => do
    let _ ← withLock runtimeId
      (loadInstanceFromSnapshotLocked runtimeId backendId owner snapshotId providerOptions limit)
    pure ()
  | stopInstance runtimeId => withLock runtimeId (stopInstanceLocked runtimeId)
  | destroyByRuntimeId runtimeId => destroy runtimeId
  | retryPendingReleasesOnce => do
    let due : List PendingRelease ← Prog.effect (WorldEffect.manager .takeDue)
    sweep due
  | reconcile => do
    let _ ← inWorld.lift (Manager.reconcile config)
    pure ()

end Call

abbrev CallPool := Pool World WorldEffect WorldEffect.Reply ProviderControlError Call

/-- The calls of one manager, run to their ends. -/
def callSystem (config : Config) :
    System Answers World WorldEffect WorldEffect.Reply ProviderControlError Call where
  handle := World.handle config
  body := Call.body config
  enabled := World.enabled
  suspends := fun _ => false

instance (config : Config) (w : World) (e : WorldEffect) :
    Decidable ((callSystem config).enabled w e) :=
  inferInstanceAs (Decidable (w.enabled e))

/-- No call is in flight. -/
def World.idlePool (w : World) : CallPool where
  state := w
  threads := fun _ => none

end XGovernor.Manager
