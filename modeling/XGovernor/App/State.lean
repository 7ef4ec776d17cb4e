import XGovernor.App.Types
import XGovernor.Joint.Split
import XGovernor.Lib.Embedding

/-!
# The state of the session application

The application keeps three things in memory besides its instance managers: the number of open
sessions per tenant, the turn gate with the receipts of recent submissions, and the tasks it has
spawned.  Everything durable is in the store.  An effect reads or writes one of these, in one
critical section or one transaction, or asks somebody outside.
-/

namespace XGovernor.App

open Domain Joint Manager Lib Function

/-! ## Configuration -/

/-- The identity of a joint owner. -/
structure OwnerIdentity where
  ownerKind : String
  configurationRevision : String
deriving DecidableEq, Repr

/-- A registered runtime: what it says without being asked over the wire, its instance managers by
backend id, and its joint owner. -/
structure RuntimeRegistration where
  capabilitiesForContext : SessionExtensions → List RuntimeCapability
  validateLlmConfig : Option LlmOverrideRequest → Except RuntimeError Unit
  providers : List (String × String)
  jointLifecycle : Option OwnerIdentity

structure Config where
  runtimes : List (String × RuntimeRegistration)
  defaultRuntimeKind : String
  /-- The store of this deployment has the joint tables. -/
  supportsJointTransactions : Bool
  /-- The stale threshold of the lease table, if leases are enforced. -/
  leaseTable : Option Nat
  managers : String → Manager.Config
  decodeBase64 : String → Option (List UInt8)

/-! ## State -/

/-- Receipts of one session: at most 64 accepted request ids with their turns. -/
structure ReceiptWindow where
  byRequest : List (String × String)
  order : List String
deriving DecidableEq, Repr

def receiptWindowCap : Nat := 64

/-- A spawned task that forwards the events of an accepted turn. -/
inductive Task where
  | turn (kind runtimeId turnId : String)
  | jointTurn (record : SessionRecord) (turnId : String)
deriving DecidableEq, Repr

/-- A missing counter is zero, a missing window is empty. -/
structure State where
  store : Db
  tenantSessions : String → Nat
  active : String → Option String
  receipts : String → ReceiptWindow
  managers : String → Manager.State
  tasks : List Task

namespace State

variable (s : State)

/-- `reserve_tenant_session`: the error is the limit that was reached. -/
def reserveTenantSession (tenant : String) (limit : Option Nat) :
    Except Nat Unit × State :=
  match limit.filter (· ≤ s.tenantSessions tenant) with
  | some limit => (.error limit, s)
  | none =>
    (.ok (), { s with
      tenantSessions := update s.tenantSessions tenant (s.tenantSessions tenant + 1) })

/-- `release_tenant_session`: a count of zero stays. -/
def releaseTenantSession (tenant : String) : State :=
  { s with
    tenantSessions := update s.tenantSessions tenant (s.tenantSessions tenant - 1) }

/-- `TurnGate::claim`: the error is the turn that holds the session. -/
def claim (runtimeId turnId : String) : Except String Unit × State :=
  match s.active runtimeId with
  | some existing => (.error existing, s)
  | none => (.ok (), { s with active := update s.active runtimeId (some turnId) })

/-- `TurnGate::release`: only the turn that holds the session gives it back. -/
def release (runtimeId turnId : String) : State :=
  if s.active runtimeId = some turnId then
    { s with active := update s.active runtimeId none }
  else
    s

def replayedReceipt (runtimeId clientRequestId : String) : Option String :=
  ((s.receipts runtimeId).byRequest.find? fun entry => entry.1 = clientRequestId).map Prod.snd

/-- `remember_receipt`: a full window first forgets its oldest request. -/
def rememberReceipt (runtimeId clientRequestId turnId : String) : State :=
  let window := s.receipts runtimeId
  let window : ReceiptWindow :=
    if receiptWindowCap ≤ window.byRequest.length then
      match window.order with
      | [] => window
      | evicted :: order =>
        { byRequest := window.byRequest.filter fun entry => entry.1 ≠ evicted, order }
    else
      window
  let window : ReceiptWindow :=
    { byRequest := (window.byRequest.filter fun entry => entry.1 ≠ clientRequestId) ++
        [(clientRequestId, turnId)]
      order := window.order ++ [clientRequestId] }
  { s with receipts := update s.receipts runtimeId window }

/-- `forget_session`. -/
def forgetSession (runtimeId : String) : State :=
  { s with
    active := update s.active runtimeId none
    receipts := update s.receipts runtimeId { byRequest := [], order := [] } }

end State

/-! ## Effects -/

/-- The places of a call at which it meets the outside.  Within one call no two effects of a kind
share a place, so the answers may differ from one to the other. -/
inductive Site where
  | target
  | route
  | lookup
  | operation
  | turn
  | restore
  | retry
  | refresh
  | jointProbe
  | intent
  | readBack
  | probe
  | prepare
  | exported
  | capture
  | captured
  | start
  | discard
  | unprovided
  | uncaptured
  | unloaded
  | unstarted
  | publish
  | recheck
  | rollback
  | finalize
  | forward
deriving DecidableEq, Repr

inductive Effect where
  | nextRuntimeId (site : Site)
  | nextTurnId (site : Site)
  | now (site : Site)
  | reserveTenantSession (tenant : String) (limit : Option Nat)
  | releaseTenantSession (tenant : String)
  | claim (runtimeId turnId : String)
  | release (runtimeId turnId : String)
  | occupy (runtimeId turnId : String)
  | activeTurn (runtimeId : String)
  | replayedReceipt (runtimeId clientRequestId : String)
  | rememberReceipt (runtimeId clientRequestId turnId : String)
  | forgetSession (runtimeId : String)
  | spawn (task : Task)
  | lockTransactions
  | lockPublication
  | getSession (site : Site) (runtimeId : String)
  | saveSession (site : Site) (record : SessionRecord)
  | getCheckpoint (checkpointId : String)
  | getJointCheckpoint (site : Site) (checkpointId : String)
  | saveCheckpoint (record : CheckpointRecord)
  | deleteCheckpoint (checkpointId : String)
  | saveIntent (site : Site) (id : String) (body : Json)
  | deleteIntent (id : String)
  | checkHolder (runtimeId : String) (clientId : Option String)
  | ensureUnclaimed (runtimeId : String)
  | removeLease (runtimeId : String)
  | detachLease (runtimeId clientId : String)
  | heartbeatLease (runtimeId clientId : String) (pid : Option Nat) (hostname : Option String)
  | normalize (ctx : SecurityContext) (request : SessionOpenRequest)
  | runtime (kind : String) (site : Site) (call : RuntimeCall)
  | operation (site : Site) (call : OperationCall)
  | manager (key : String) (site : Site) (e : Manager.Effect)
  | owner (call : OwnerCall)
  | receive (index : Nat)
  | send (index : Nat) (event : RuntimeEvent)

namespace Effect

/-- What an effect is answered with. -/
@[reducible] def Reply : Effect → Type
  | nextRuntimeId _ | nextTurnId _ => String
  | now _ => Nat
  | reserveTenantSession _ _ => Except Nat Unit
  | claim _ _ => Except String Unit
  | activeTurn _ | replayedReceipt _ _ => Option String
  | getSession _ _ => Except SessionDomainError (Option SessionRecord)
  | getCheckpoint _ => Except SessionDomainError (Option CheckpointRecord)
  | getJointCheckpoint _ _ => Except SessionDomainError (Option JointCheckpointRecord)
  | saveSession _ _ | saveCheckpoint _ | saveIntent _ _ _ | deleteIntent _ =>
    Except SessionDomainError Unit
  | deleteCheckpoint _ => Except SessionDomainError Bool
  | checkHolder _ _ | heartbeatLease _ _ _ _ => Except SessionDomainError Unit
  | normalize _ _ => Except SessionDomainError NormalizedSessionEnvironment
  | runtime _ _ call => call.Reply
  | operation _ call => call.Reply
  | manager _ _ e => e.Reply
  | owner call => call.Reply
  | send _ _ => Bool
  | releaseTenantSession _ | release _ _ | occupy _ _ | rememberReceipt _ _ _
  | forgetSession _ | spawn _ | lockTransactions | lockPublication | ensureUnclaimed _
  | removeLease _ | detachLease _ _ | receive _ => Unit

/-- The effects that are awaited. -/
def suspends : Effect → Bool
  | nextRuntimeId _ | nextTurnId _ | now _ | reserveTenantSession _ _ | releaseTenantSession _
  | claim _ _ | release _ _ | occupy _ _ | activeTurn _ | replayedReceipt _ _
  | rememberReceipt _ _ _ | forgetSession _ | spawn _ => false
  | manager _ _ e => e.suspends
  | _ => true

end Effect

/-- Everything outside the application: the answers of runtimes, providers, normalizers, leases,
clocks and generators, whether an access to the store goes through, and what a joint owner
writes.  The answer to a store access counts only if it is an error. -/
structure Env where
  answer : (e : Effect) → e.Reply
  ownerWrites : OwnerCall → Db → Db

/-- The error a caller of the repository sees. -/
def storeError : StoreError → SessionDomainError
  | .domain error => error
  | .sql => .internal "sqlite save failed"

/-- A transaction on the store, unless the access itself fails. -/
def commit {α β : Type} (access : Except SessionDomainError β) (tx : StoreTx α) (s : State) :
    Except SessionDomainError α × State :=
  match access with
  | .error error => (.error error, s)
  | .ok _ =>
    match tx.run s.store with
    | .error error => (.error (storeError error), s)
    | .ok (a, db) => (.ok a, { s with store := db })

/-- One effect in one state. -/
def handle (config : Config) (env : Env) (s : State) : (e : Effect) → e.Reply × State
  | .nextRuntimeId site => (env.answer (.nextRuntimeId site), s)
  | .nextTurnId site => (env.answer (.nextTurnId site), s)
  | .now site => (env.answer (.now site), s)
  | .reserveTenantSession tenant limit => s.reserveTenantSession tenant limit
  | .releaseTenantSession tenant => ((), s.releaseTenantSession tenant)
  | .claim runtimeId turnId => s.claim runtimeId turnId
  | .release runtimeId turnId => ((), s.release runtimeId turnId)
  | .occupy runtimeId turnId =>
    ((), { s with active := update s.active runtimeId (some turnId) })
  | .activeTurn runtimeId => (s.active runtimeId, s)
  | .replayedReceipt runtimeId clientRequestId =>
    (s.replayedReceipt runtimeId clientRequestId, s)
  | .rememberReceipt runtimeId clientRequestId turnId =>
    ((), s.rememberReceipt runtimeId clientRequestId turnId)
  | .forgetSession runtimeId => ((), s.forgetSession runtimeId)
  | .spawn task => ((), { s with tasks := s.tasks ++ [task] })
  | .lockTransactions => (env.answer .lockTransactions, s)
  | .lockPublication => (env.answer .lockPublication, s)
  | .getSession site runtimeId =>
    commit (env.answer (.getSession site runtimeId))
      (do return readSession (← Tx.get) runtimeId) s
  | .saveSession site record =>
    commit (env.answer (.saveSession site record)) (Joint.saveSession record) s
  | .getCheckpoint checkpointId =>
    commit (env.answer (.getCheckpoint checkpointId))
      (do return readCheckpoint (← Tx.get) checkpointId) s
  | .getJointCheckpoint site checkpointId =>
    commit (env.answer (.getJointCheckpoint site checkpointId))
      (do return ((← Tx.get).jointCheckpoints.get? checkpointId).map (·.body)) s
  | .saveCheckpoint record =>
    commit (env.answer (.saveCheckpoint record)) (Joint.saveCheckpoint record) s
  | .deleteCheckpoint checkpointId =>
    commit (env.answer (.deleteCheckpoint checkpointId)) (Joint.deleteCheckpoint checkpointId) s
  | .saveIntent site id body =>
    commit (env.answer (.saveIntent site id body)) (saveOperationIntent id body) s
  | .deleteIntent id => commit (env.answer (.deleteIntent id)) (deleteOperationIntent id) s
  | .checkHolder runtimeId clientId => (env.answer (.checkHolder runtimeId clientId), s)
  | .ensureUnclaimed runtimeId => (env.answer (.ensureUnclaimed runtimeId), s)
  | .removeLease runtimeId => (env.answer (.removeLease runtimeId), s)
  | .detachLease runtimeId clientId => (env.answer (.detachLease runtimeId clientId), s)
  | .heartbeatLease runtimeId clientId pid hostname =>
    (env.answer (.heartbeatLease runtimeId clientId pid hostname), s)
  | .normalize ctx request => (env.answer (.normalize ctx request), s)
  | .runtime kind site call => (env.answer (.runtime kind site call), s)
  | .operation site call => (env.answer (.operation site call), s)
  | .manager key site e =>
    let outcome := Manager.handle (config.managers key)
      (fun e => env.answer (.manager key site e)) (s.managers key) e
    (outcome.1, { s with managers := update s.managers key outcome.2 })
  | .owner call =>
    (env.answer (.owner call), { s with store := env.ownerWrites call s.store })
  | .receive index => (env.answer (.receive index), s)
  | .send index event => (env.answer (.send index event), s)

/-! ## Programs -/

/-- The programs of the application. -/
abbrev AppM (α : Type) := Prog State Effect Effect.Reply SessionDomainError α

def perform (e : Effect) : AppM e.Reply :=
  Prog.effect e

/-- An instance manager inside the application; `site` tells apart what one call asks of it. -/
def managerEmbedding (key : String) (site : Site) :
    Embedding Manager.State Manager.Effect Manager.Effect.Reply State Effect Effect.Reply where
  inject := .manager key site
  reply := fun _ r => r
  view := fun s => s.managers key
  put := fun m s => { s with managers := update s.managers key m }
  view_put := by simp
  put_view := by simp
  put_put := by simp

/-- An operation of an instance manager; its failure is handed to the caller. -/
def manager {α : Type} (key : String) (site : Site) (p : ManagerM α) :
    AppM (Except ProviderControlError α) :=
  Prog.attempt ((managerEmbedding key site).lift p)

theorem managerEmbedding_handles (config env) (key : String) (site) :
    (managerEmbedding key site).Handles
      (Manager.handle (config.managers key) fun e => env.answer (.manager key site e))
      (handle config env) where
  reply_eq := fun _ _ => rfl
  state_eq := fun _ _ => rfl

end XGovernor.App
