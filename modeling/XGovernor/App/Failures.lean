import XGovernor.App.Admitted
import XGovernor.App.ForkRollback

/-!
# Creating a session is not all or nothing

A call that creates a session and fails gives back its slot and its instance, except at the exits
collected in `OpenLeaks`, `LoadLeaks` and `ForkLeaks`: there the slot stays taken, or an instance
stays registered that no session refers to.
-/

namespace XGovernor.App

open Domain Joint Manager Lib

/-- The calls that create a session. -/
inductive Creation where
  | openSession (request : SessionOpenRequest)
  | loadCheckpoint (request : SessionLoadRequest)
  | fork (request : SessionForkRequest)

namespace Creation

def run (config : Config) (ctx : SecurityContext) : Creation → AppM SessionOpenResponse
  | openSession request => App.openSession config ctx request
  | loadCheckpoint request => App.loadCheckpoint config ctx request
  | fork request => App.fork config ctx request

/-- The call is admitted and leaves through an exit that gives nothing back. -/
def Leaks (config : Config) (env : Env) (ctx : SecurityContext) (s : State) : Creation → Prop
  | openSession request => ∃ admission, OpenAdmitted config env ctx request s admission ∧
      OpenLeaks env ctx request admission (env.targetId request.runtimeId)
  | loadCheckpoint request => ∃ checkpoint registration,
      LoadAdmitted config env ctx request s checkpoint registration ∧
      LoadLeaks config env ctx request checkpoint registration (env.targetId request.runtimeId)
        (s.slotReserved ctx)
  | fork request => ∃ plan s₂, ForkAdmitted config env ctx request s plan s₂ ∧
      ForkLeaks config env ctx plan (s₂.slotReserved ctx)

end Creation

section Failed

variable {config : Config} {env : Env} {ctx : SecurityContext} {s s' : State}

theorem SameResources.rolledBack (h : SameResources s s') : RolledBack s s' :=
  ⟨h.slots, .of_managers_eq h.managers⟩

/-- A creation that fails is rolled back exactly if it does not leak. -/
theorem Outcome.rolledBack_iff {runtimeId} {leak : Prop} {r e}
    (h : Outcome ctx runtimeId leak (s.slotReserved ctx) r)
    (hr : r = (.error e, s')) : RolledBack s s' ↔ ¬ leak := by
  cases h with
  | published response s₁ => cases hr
  | abandoned error s₁ haband hclean =>
    cases hr
    exact iff_of_true haband.rolledBack hclean
  | leaked error s₁ hleak hresidue =>
    cases hr
    exact iff_of_false hresidue.not_rolledBack (not_not.2 hleak)

/-- What admitted calls do unless they meet a condition, and other calls in any case. -/
theorem iff_not_exists_admitted {α β : Type} {P : Prop} {admitted condition : α → β → Prop}
    (h : ∀ x y, admitted x y → (P ↔ ¬ condition x y)) (hother : (∀ x y, ¬ admitted x y) → P) :
    P ↔ ¬ ∃ x y, admitted x y ∧ condition x y := by
  constructor
  · rintro hP ⟨x, y, hadm, hcond⟩
    exact (h x y hadm).1 hP hcond
  · intro hnone
    by_cases hadm : ∃ x y, admitted x y
    · obtain ⟨x, y, hadm⟩ := hadm
      exact (h x y hadm).2 fun hcond => hnone ⟨x, y, hadm, hcond⟩
    · exact hother fun x y hxy => hadm ⟨x, y, hxy⟩

/-- The slots and the managers decide whether a creation was rolled back. -/
theorem rolledBack_congr {a b c d} (hac : SameResources a c) (hbd : SameResources b d) :
    RolledBack a b ↔ RolledBack c d := by
  have hinst : NoNewInstance a b ↔ NoNewInstance c d := by
    unfold NoNewInstance
    rw [hac.managers, hbd.managers]
  constructor
  · rintro ⟨hslots, hnew⟩
    exact ⟨by rw [hac.slots, hbd.slots, hslots], hinst.mp hnew⟩
  · rintro ⟨hslots, hnew⟩
    exact ⟨by rw [← hac.slots, ← hbd.slots, hslots], hinst.mpr hnew⟩

section

variable {e : SessionDomainError}

private theorem open_rolledBack_iff {request}
    (hfailed : (openSession config ctx request).eval (handle config env) s = (.error e, s')) :
    RolledBack s s' ↔ ¬ (Creation.openSession request).Leaks config env ctx s := by
  have hadmitted_iff {admission : OpenAdmission}
      (hadm : OpenAdmitted config env ctx request s admission) :
      RolledBack s s' ↔ ¬ OpenLeaks env ctx request admission (env.targetId request.runtimeId) := by
    rw [hadm.eval] at hfailed
    exact (outcome_openReserved ..).rolledBack_iff hfailed
  constructor
  · rintro hback ⟨admission, hadm, hleaks⟩
    exact (hadmitted_iff hadm).1 hback hleaks
  · intro hclean
    by_cases hadm : ∃ admission, OpenAdmitted config env ctx request s admission
    · obtain ⟨admission, hadm⟩ := hadm
      exact (hadmitted_iff hadm).2 fun hleaks => hclean ⟨admission, hadm, hleaks⟩
    · have hsame := openSession_sameResources (not_exists.mp hadm)
      rw [hfailed] at hsame
      exact hsame.rolledBack

private theorem load_rolledBack_iff {request}
    (hfailed : (loadCheckpoint config ctx request).eval (handle config env) s = (.error e, s')) :
    RolledBack s s' ↔ ¬ (Creation.loadCheckpoint request).Leaks config env ctx s := by
  refine iff_not_exists_admitted (fun checkpoint registration hadm => ?_) fun hnone => ?_
  · rw [hadm.eval] at hfailed
    exact (outcome_loadReserved ..).rolledBack_iff hfailed
  · have hsame := loadCheckpoint_sameResources hnone
    rw [hfailed] at hsame
    exact hsame.rolledBack

private theorem fork_rolledBack_iff {request}
    (hfailed : (fork config ctx request).eval (handle config env) s = (.error e, s')) :
    RolledBack s s' ↔ ¬ (Creation.fork request).Leaks config env ctx s := by
  refine iff_not_exists_admitted (fun plan s₂ hadm => ?_) fun hnone => ?_
  · rw [hadm.eval, Prod.mk.injEq] at hfailed
    -- the guard on the parent touches neither slots nor managers
    refine (rolledBack_congr hadm.sameResources (SameResources.symm ?_)).trans
      ((outcome_forkReserved ..).rolledBack_iff (Prod.ext hfailed.1 rfl))
    rw [← hfailed.2]
    exact sameResources_release _ _ _
  · have hsame := fork_sameResources hnone
    rw [hfailed] at hsame
    exact hsame.rolledBack

end

/-- **Failed creations**: a call of `open`, `load_checkpoint` or `fork` that fails leaves the slots
as they were and no instance that is neither old nor queued, unless it fails at one of the exits
that give nothing back. -/
theorem failed_creation_rolledBack_iff (config : Config) (env : Env) (ctx : SecurityContext)
    (call : Creation) (s s' : State) (e : SessionDomainError)
    (hfailed : (call.run config ctx).eval (handle config env) s = (.error e, s')) :
    RolledBack s s' ↔ ¬ call.Leaks config env ctx s := by
  cases call with
  | openSession request => exact open_rolledBack_iff hfailed
  | loadCheckpoint request => exact load_rolledBack_iff hfailed
  | fork request => exact fork_rolledBack_iff hfailed

end Failed

/-! ## A deployment in which everything answers -/

namespace Sample

def workspace : WorkspaceFacts :=
  { workspaceId := "w", root := "/w", access := .readWrite, revision := none, metadata := .null }

def isolation : IsolationFacts :=
  { boundary := .container, workspaceAccess := .readWrite, network := .isolated,
    metadata := .object [("backend_id", .string "e2b")] }

def capabilities : EffectiveCapabilities :=
  { sandbox := [.exec, .snapshot], runtime := [.stateExport, .checkpoint, .fork] }

def runtimeState : OpaqueRuntimeState :=
  { runtimeKind := "codex", schemaVersion := 1, state := .bool true }

def quota : TenantQuota :=
  { maxSessions := some 1, maxSandboxes := [], maxRequestsPerMinute := none }

def tenant (tenantId : String) : SecurityContext :=
  .tenant tenantId tenantId quota

def noLease : SessionLeaseClaim :=
  { clientId := none, clientPid := none, clientHostname := none }

/-- Every provider call succeeds. -/
def providerAnswer : (e : Manager.Effect) → e.Reply
  | .lookup _ => none
  | .restoreError _ => none
  | .reserve _ _ => .ok ()
  | .newRequestId => "request"
  | .create _ _ => .ok { backendId := "e2b", instanceId := "created", capabilities := [.snapshot] }
  | .load _ => .ok { backendId := "e2b", instanceId := "loaded", capabilities := [.snapshot] }
  | .attach _ => .ok { workspaceRoot := "/w" }
  | .recordCreated _ _ _ => .ok ()
  | .recordDeleted _ => .ok ()
  | .listActive => .ok []
  | .delete _ => .ok ()
  | .checkpoint _ => .ok { snapshotId := "snapshot" }
  | .inspect _ => .ok { state := .active, capabilities := [.snapshot] }
  | .takeDue => []
  | .rollbackReservation _ | .trackInstance _ _ | .insert _ _ | .releaseInstance _ | .remove _
  | .rehydrateOne _ _ | .clearRestoreError _ | .noteRestoreError _ _ | .queueRelease _
  | .runtimeLock _ | .acquireAdmission _ | .sleep _ _ => ()

/-- Every runtime call succeeds, but no runtime is found in memory. -/
def runtimeAnswer : (call : RuntimeCall) → call.Reply
  | .exportState _ => .ok runtimeState
  | .exportCheckpointState _ => .ok runtimeState
  | .describeLlm _ => .ok none
  | .checkAlive _ => .ok false
  | .probeLlm _ | .start _ _ | .stop _ | .attach _ _ | .submitTurn _ | .answerInteraction _
  | .cancel _ _ | .deleteCheckpointState _ => .ok ()

def operationAnswer : (call : OperationCall) → call.Reply
  | .resolvePath rawPath => .ok rawPath
  | .exec _ => .ok { stdout := "", stderr := "", exitCode := some 0, timedOut := false }
  | .readBytes _ => .ok []
  | .createDirAll _ | .writeBytes _ _ => .ok ()

/-- There is no joint owner. -/
def ownerAnswer : (call : OwnerCall) → call.Reply
  | .openSession _ _ _ _ | .load _ _ _ | .close _ _ _ => .error (.unavailable "owner")
  | .submitTurn _ _ _ _ => .error (.unavailable "owner")
  | .awaitTurn _ _ => .error (.unavailable "owner")
  | .checkpoint _ _ => .error (.unavailable "owner")
  | .deleteCheckpoint _ _ => .error (.unavailable "owner")
  | .cancelTurn _ _ _ | .ensureAttached _ | .prepareHost _ _ _ => .error (.unavailable "owner")
  | .hostOperation _ call => operationAnswer call
  | .writeHost _ _ => .error (.unavailable "owner")

def answer : (e : Effect) → e.Reply
  | .nextRuntimeId _ => "new"
  | .nextTurnId _ => "turn"
  | .now _ => 0
  | .reserveTenantSession _ _ => .ok ()
  | .claim _ _ => .ok ()
  | .activeTurn _ => none
  | .replayedReceipt _ _ => none
  | .getSession _ _ => .ok none
  | .getCheckpoint _ => .ok none
  | .getJointCheckpoint _ _ => .ok none
  | .saveSession _ _ | .saveCheckpoint _ | .saveIntent _ _ _ | .deleteIntent _ => .ok ()
  | .deleteCheckpoint _ => .ok true
  | .checkHolder _ _ | .heartbeatLease _ _ _ _ => .ok ()
  | .normalize _ _ =>
    .ok { workspace, isolation, sandboxCapabilities := [.exec, .snapshot], llm := none,
          lease := none }
  | .runtime _ _ call => runtimeAnswer call
  | .operation _ call => operationAnswer call
  | .manager _ _ e => providerAnswer e
  | .owner call => ownerAnswer call
  | .send _ _ => true
  | .releaseTenantSession _ | .release _ _ | .occupy _ _ | .rememberReceipt _ _ _
  | .forgetSession _ | .spawn _ | .lockTransactions | .lockPublication | .ensureUnclaimed _
  | .removeLease _ | .detachLease _ _ | .receive _ => ()

def env : Env where
  answer := answer
  ownerWrites := fun _ db => db

/-- One runtime kind on the split route, with the given providers. -/
def config (providers : List (String × String)) : Config where
  runtimes := [("codex",
    { capabilitiesForContext := fun _ => [.stateExport], validateLlmConfig := fun _ => .ok (),
      providers, jointLifecycle := none })]
  defaultRuntimeKind := "codex"
  supportsJointTransactions := true
  leaseTable := none
  managers := fun _ =>
    { kind := "e2b", maxSandboxesPerOwner := 10, maxSandboxesGlobal := 10, maxAttempts := 1,
      baseDelayMs := 0, maxDelayMs := 0 }
  decodeBase64 := fun _ => some []

def state : State where
  store := Db.empty
  tenantSessions := fun _ => 0
  active := fun _ => none
  receipts := fun _ => { byRequest := [], order := [] }
  managers := fun _ => Manager.State.init
  tasks := []

def openRequest (runtimeId : String) : SessionOpenRequest :=
  { runtimeId := some runtimeId, runtimeKind := none, conversationId := "c", senderId := "s",
    workspace := .daemonDefault, deploymentOptions := .null,
    requestedCapabilities := { sandbox := [], runtime := [] }, llm := none, ext := [] }

/-- A stored session of a tenant. -/
def session (tenantId runtimeId : String) (status : SessionStatus) : SessionRecord :=
  { executionBacking := .splitV1, runtimeId, conversationId := "c", senderId := "s", status,
    createdAtMs := 0, updatedAtMs := 0, workspace, isolation, capabilities,
    runtime := runtimeState, llm := none, lease := none, lineage := none, lastError := none,
    tenantId := some tenantId, createdBy := tenantId }

/-- The state in which these sessions are stored and counted. -/
def stateWith (sessions : List SessionRecord) : State :=
  { state with
    store :=
      { Db.empty with
        sessions := sessions.foldl (fun table record => table.add record.runtimeId record) .empty }
    tenantSessions := fun tenantId =>
      (sessions.filter fun record => record.tenantId = some tenantId).length }

private theorem get?_addAll {sessions : List SessionRecord} {id : String} {record : SessionRecord}
    {table : Table String SessionRecord}
    (hrow : (sessions.foldl (fun table record => table.add record.runtimeId record) table).get? id =
      some record) :
    table.get? id = some record ∨ (record ∈ sessions ∧ record.runtimeId = id) := by
  induction sessions generalizing table with
  | nil => exact .inl hrow
  | cons first rest ih =>
    rcases ih hrow with hadded | ⟨hmem, hid⟩
    · rw [Table.get?_add, Option.or_eq_some_iff] at hadded
      rcases hadded with hold | ⟨-, hnew⟩
      · exact .inl hold
      · split at hnew
        next hid =>
          obtain rfl := Option.some.inj hnew
          exact .inr ⟨List.mem_cons_self, hid.symm⟩
        next => cases hnew
    · exact .inr ⟨List.mem_cons_of_mem _ hmem, hid⟩

/-- The rows of such a state are the given sessions, under their ids. -/
theorem stateWith_row {sessions : List SessionRecord} {id : String} {record : SessionRecord}
    (hrow : (stateWith sessions).store.sessions.get? id = some record) :
    record ∈ sessions ∧ record.runtimeId = id :=
  (get?_addAll hrow).resolve_left nofun

end Sample

/-- A tenant opens a session of a runtime without providers: the call fails and the slot stays
taken, so that a quota of one session is used up. -/
theorem open_without_provider_keeps_slot :
    ∃ s', ((Creation.openSession (Sample.openRequest "r")).run (Sample.config [])
        (Sample.tenant "t")).eval (handle (Sample.config []) Sample.env) Sample.state =
          (.error (.invalidRequest "runtime extension must specify backend_id"), s') ∧
      s'.tenantSessions "t" = 1 ∧ ¬ RolledBack Sample.state s' := by
  refine ⟨_, rfl, rfl, fun hback => ?_⟩
  exact absurd (congrFun hback.slots "t") (by decide)

/-- That call leaves through an exit that gives nothing back. -/
theorem open_without_provider_leaks :
    (Creation.openSession (Sample.openRequest "r")).Leaks (Sample.config []) Sample.env
      (Sample.tenant "t") Sample.state := by
  by_contra hclean
  have hback := (failed_creation_rolledBack_iff (Sample.config []) Sample.env (Sample.tenant "t")
    (.openSession (Sample.openRequest "r")) Sample.state _ _ rfl).mpr hclean
  exact absurd (congrFun hback.slots "t") (by decide)

end XGovernor.App
