import XGovernor.Domain.Json
import XGovernor.Lib.Program
import Mathlib.Logic.Function.Basic

/-!
# The state of an instance manager

An `InstanceManager` registers the provider instances of one provider by runtime id and counts
them per owner and in total.  A caller reserves a place before it creates an instance; the place
goes with the instance once that is registered.  An instance whose deletion failed stays
registered and waits in a queue for another attempt.
-/

namespace XGovernor.Manager

open Domain Lib Function

/-! ## The provider protocol -/

inductive ProviderControlError where
  | invalidRequest (message : String)
  | notFound (resourceRef : String)
  | conflict (message : String)
  | unsupportedCapability (provider capability : String)
  | invalidState (current operation message : String)
  | timeout (operation : String) (timeoutMs : Nat)
  | providerFailure (provider message : String)
  | transport (message : String)
  | resourceLimitExceeded (provider ownerRef : String) (current max : Nat)
deriving DecidableEq, Repr

/-- The text of a provider error, as `to_string` prints it. -/
def ProviderControlError.text : ProviderControlError → String
  | invalidRequest message => "invalid provider request: " ++ message
  | notFound resourceRef => "provider resource not found: " ++ resourceRef
  | conflict message => "provider resource conflict: " ++ message
  | unsupportedCapability provider capability =>
    "provider " ++ provider ++ " does not support capability " ++ capability
  | invalidState current operation message =>
    "invalid lifecycle transition for " ++ operation ++ " from " ++ current ++ ": " ++ message
  | timeout operation timeoutMs =>
    "provider operation " ++ operation ++ " timed out after " ++ toString timeoutMs ++ " ms"
  | providerFailure provider message => "provider " ++ provider ++ " failed: " ++ message
  | transport message => "provider transport failed: " ++ message
  | resourceLimitExceeded provider ownerRef current max =>
    "provider " ++ provider ++ " resource limit exceeded for owner " ++ ownerRef ++
      ": current=" ++ toString current ++ ", max=" ++ toString max

/-- `is_retryable`: the errors that may go away by themselves. -/
def isRetryable : ProviderControlError → Bool
  | .transport _ | .timeout _ _ | .providerFailure _ _ => true
  | _ => false

inductive ProviderCapability where
  | pause
  | snapshot
  | networkIsolation
  | resourceLimits
  | serializedHandle
deriving DecidableEq, Repr

inductive ProviderLifecycleReason where
  | acquire
  | restore
  | reclaim
  | release
  | shutdown
  | reconcile
  | errorCleanup
  | userRequested
deriving DecidableEq, Repr

/-- The states of a provider instance; the manager's callers only ask for `active`. -/
inductive ProviderLifecycleState where
  | active
  | other (name : String)
deriving DecidableEq, Repr

structure ProviderInstance where
  backendId : String
  instanceId : String
  capabilities : List ProviderCapability
deriving DecidableEq, Repr

structure ProviderInstanceStatus where
  state : ProviderLifecycleState
  capabilities : List ProviderCapability
deriving DecidableEq, Repr

structure ProviderSnapshot where
  snapshotId : String
deriving DecidableEq, Repr

structure ProviderCreateRequest where
  backendId : String
  ownerRef : String
  reason : ProviderLifecycleReason
  providerOptions : Json
  correlation : Json
deriving DecidableEq, Repr

structure ProviderLoadRequest where
  backendId : String
  ownerRef : String
  snapshotId : String
  reason : ProviderLifecycleReason
  providerOptions : Json
  correlation : Json
deriving DecidableEq, Repr

structure ProviderDeleteRequest where
  backendId : String
  instanceId : Option String
  snapshotId : Option String
  reason : ProviderLifecycleReason
  correlation : Json
deriving DecidableEq, Repr

structure ProviderCheckpointRequest where
  backendId : String
  instanceId : String
  reason : ProviderLifecycleReason
  correlation : Json
deriving DecidableEq, Repr

structure ProviderInspectRequest where
  backendId : String
  instanceId : Option String
  reason : ProviderLifecycleReason
  correlation : Json
deriving DecidableEq, Repr

/-- The operation plane of an attached instance, as far as its callers look at it. -/
structure OperationBackend where
  workspaceRoot : String
deriving DecidableEq, Repr

structure ActiveLedgerEntry where
  runtimeId : String
  ownerRef : String
  instance_ : ProviderInstance
deriving DecidableEq, Repr

/-! ## Registry and quota -/

structure BoundInstance where
  instance_ : ProviderInstance
  backend : OperationBackend
deriving DecidableEq, Repr

structure PendingRelease where
  runtimeId : String
  record : BoundInstance
  attempt : Nat
deriving DecidableEq, Repr

structure Config where
  kind : String
  maxSandboxesPerOwner : Nat
  maxSandboxesGlobal : Nat
  maxAttempts : Nat
  baseDelayMs : Nat
  maxDelayMs : Nat
deriving DecidableEq, Repr

/-- The owner that no cap applies to. -/
def adminOwnerRef : String := "admin"

/-- The registry, the quota counters, the attach errors of the last reconciliation and the
deletions to retry.  A missing count is zero. -/
structure State where
  instances : String → Option BoundInstance
  counts : String → Nat
  ownersByInstance : String → Option String
  total : Nat
  restoreErrors : String → Option ProviderControlError
  pendingRelease : List PendingRelease

namespace State

/-- A manager that was just created. -/
def init : State where
  instances := fun _ => none
  counts := fun _ => 0
  ownersByInstance := fun _ => none
  total := 0
  restoreErrors := fun _ => none
  pendingRelease := []

variable (s : State) (owner : String)

/-- One more place for the owner and in total. -/
def counted : State :=
  { s with counts := update s.counts owner (s.counts owner + 1), total := s.total + 1 }

/-- `rollback_reservation`; `decrement` saturates. -/
def uncounted : State :=
  { s with counts := update s.counts owner (s.counts owner - 1), total := s.total - 1 }

/-- `reserve`: the owner's cap first, then the global one; the operator is only counted. -/
def reserve (config : Config) (s : State) (owner : String) (limit : Option Nat) :
    Except ProviderControlError Unit × State :=
  let max := limit.getD config.maxSandboxesPerOwner
  if owner ≠ adminOwnerRef ∧ max ≤ s.counts owner then
    (.error (.resourceLimitExceeded config.kind owner (s.counts owner) max), s)
  else if owner ≠ adminOwnerRef ∧ config.maxSandboxesGlobal ≤ s.total then
    (.error (.resourceLimitExceeded config.kind (owner ++ " (global cap)") s.total
      config.maxSandboxesGlobal), s)
  else
    (.ok (), s.counted owner)

/-- `track_instance`. -/
def tracked (instanceId owner : String) : State :=
  { s with ownersByInstance := update s.ownersByInstance instanceId (some owner) }

variable (instanceId runtimeId : String)

/-- The registry entry of a runtime. -/
def registered (bound : BoundInstance) : State :=
  { s with instances := update s.instances runtimeId (some bound) }

def unregistered : State :=
  { s with instances := update s.instances runtimeId none }

/-- `release_instance`: the place of a tracked instance. -/
def releaseInstance : State :=
  match s.ownersByInstance instanceId with
  | none => s
  | some owner =>
    { s.uncounted owner with
      ownersByInstance := update s.ownersByInstance instanceId none }

def queued (pending : PendingRelease) : State :=
  { s with pendingRelease := s.pendingRelease ++ [pending] }

/-- The queue without the entries that are due, which is for the clock to say. -/
def takeDue (due : List PendingRelease) : List PendingRelease × State :=
  (s.pendingRelease.filter fun pending => pending ∈ due,
    { s with pendingRelease := s.pendingRelease.filter fun pending => pending ∉ due })

/-- `rehydrate_one`: an instance that is not tracked yet is counted and tracked, whatever the
caps. -/
def rehydrateOne (instanceId owner : String) : State :=
  if (s.ownersByInstance instanceId).isSome then s else (s.counted owner).tracked instanceId owner

def withRestoreError (error : Option ProviderControlError) :
    State :=
  { s with restoreErrors := update s.restoreErrors runtimeId error }

/-- A reservation that is rolled back leaves nothing. -/
@[simp] theorem uncounted_counted :
    (s.counted owner).uncounted owner = s := by
  simp [counted, uncounted]

@[simp] theorem counted_instances :
    (s.counted owner).instances = s.instances := rfl

@[simp] theorem counted_pendingRelease :
    (s.counted owner).pendingRelease = s.pendingRelease := rfl

@[simp] theorem releaseInstance_instances :
    (s.releaseInstance instanceId).instances = s.instances := by
  unfold releaseInstance
  split <;> rfl

@[simp] theorem releaseInstance_pendingRelease :
    (s.releaseInstance instanceId).pendingRelease = s.pendingRelease := by
  unfold releaseInstance
  split <;> rfl

/-- A reservation is granted with one more place, or refused with nothing changed. -/
theorem reserve_cases (config) (s : State) (owner : String) (limit : Option Nat) :
    (s.reserve config owner limit = (.ok (), s.counted owner)) ∨
      ∃ e, s.reserve config owner limit = (.error e, s) := by
  dsimp only [reserve]
  split
  · exact .inr ⟨_, rfl⟩
  · split
    · exact .inr ⟨_, rfl⟩
    · exact .inl rfl

end State

end XGovernor.Manager
