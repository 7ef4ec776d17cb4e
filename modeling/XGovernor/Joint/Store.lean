import XGovernor.Lib.TransitionSystem
import XGovernor.Joint.Cancel
import XGovernor.Joint.HostSettlement
import XGovernor.Joint.Split

/-!
# The joint store as a transition system

A call is one immediate transaction of the repository, by any caller.  Transactions are
serialized by the database, so every interleaving of any number of callers is a sequence
of calls; a failed call rolls back and is no step; a restart loses no committed row.
-/

namespace XGovernor.Joint

open Domain Lib

/-- What a deployment fixes: its budget policy and the library functions of the Host
bookkeeping. -/
structure StoreConfig where
  budgetPolicy : JointBudgetPolicy
  codec : HostCodec

/-- The transactions that write. -/
inductive Call where
  | prepareJointOperation (request : JointPrepareRequest)
  | claimJointNativeSend (admission : JointAdmission) (step : String)
  | appendJointNativeStep (admission : JointAdmission) (native : JointNativeIntent)
  | recordJointNativeResult (admission : JointAdmission) (step operationId digest : String)
      (outcome : JointNativeOutcome)
  | publishJointSession (admission : JointAdmission) (record : SessionRecord)
  | publishJointCheckpoint (admission : JointAdmission) (record : JointCheckpointRecord)
  | finishJointTurn (admission : JointAdmission) (terminal : JointTurnTerminal)
  | beginJointCompensation (admission : JointAdmission)
  | finishJointCompensation (admission : JointAdmission)
  | finishJointRelease (admission : JointAdmission) (kind : RefKind) (publicId : String)
      (updatedAtMs : Nat)
  | prepareJointCancel (context : JointOperationContext) (session : SessionRecord)
      (turnId : Option String)
  | prepareJointCancelNative (admission : JointAdmission) (native : JointNativeIntent)
  | claimJointCancelSend (admission : JointAdmission)
  | recordJointCancelResult (admission : JointAdmission) (native : JointNativeIntent)
      (outcome : JointNativeOutcome)
  | prepareJointCheckpointBoundary (binding : JointBinding) (native : JointNativeIntent)
  | confirmJointCheckpointBoundary (ticket : JointCheckpointBoundaryObservation)
      (checkpointId : String)
  | invalidateJointTurn (admission : JointAdmission)
  | registerHostTarget (target : HostTargetV1) (policy : HostCapabilityPolicyV1)
  | prepareHost (prepared : HostPreparedV1)
  | claimHostStep (access : HostAccessTokenV1) (step : Nat)
  | recordHostStep (access : HostAccessTokenV1) (step : Nat) (observation : HostObservationV1)
  | recordHostRecovery (access : HostAccessTokenV1) (evidence : Json)
  | finishHost (access : HostAccessTokenV1) (result : Json)
  | failStaleHostRead (access : HostAccessTokenV1)
  | finishHostRead (access : HostAccessTokenV1) (result : Json)
      (revisionBefore revisionAfter : String)
  | prepareHostCleanup (access : HostAccessTokenV1) (childId : String)
      (dependencies : List String)
  | suspendHostCleanup (access : HostAccessTokenV1)
  | releaseHostDependency (access : HostAccessTokenV1) (dependency : String)
  | resumeHostCleanup (access : HostAccessTokenV1)
  | finishHostCleanup (access : HostAccessTokenV1)
  | saveSession (record : SessionRecord)
  | saveCheckpoint (record : CheckpointRecord)
  | deleteCheckpoint (checkpointId : String)
  | saveOperationIntent (id : String) (body : Json)
  | deleteOperationIntent (id : String)

/-- What a committed call answers. -/
inductive Reply where
  | unit
  | bool (value : Bool)
  | admission (value : JointAdmission)
  | native (value : Option JointNativeIntent)
  | session (value : SessionRecord)
  | checkpoint (value : JointCheckpointRecord)
  | turn (value : Option JointTurnRecord)
  | cancel (value : JointCancelControl)
  | boundary (value : JointCheckpointBoundaryObservation)
  | access (value : HostAccessTokenV1)
  | json (value : Json)
deriving DecidableEq, Repr

/-- A transaction whose answer is wrapped. -/
def answering {α : Type} (reply : α → Reply) (x : StoreTx α) : StoreTx Reply := do
  let a ← x
  pure (reply a)

theorem run_answering_eq_ok {α : Type} {reply : α → Reply} {x : StoreTx α}
    {answer : Reply} {s s' : Db} :
    (answering reply x).run s = .ok (answer, s') ↔
      ∃ a, x.run s = .ok (a, s') ∧ answer = reply a := by
  simp only [answering, Tx.run_bind_eq_ok, Tx.run_pure_eq_ok]
  constructor
  · rintro ⟨a, t, hx, rfl, rfl⟩
    exact ⟨a, hx, rfl⟩
  · rintro ⟨a, hx, rfl⟩
    exact ⟨a, s', hx, rfl, rfl⟩

variable (config : StoreConfig)

/-- The transaction of a call. -/
def exec : Call → StoreTx Reply
  | .prepareJointOperation request =>
    answering .admission (prepareJointOperation config.budgetPolicy request)
  | .claimJointNativeSend admission step =>
    answering .native (claimJointNativeSend admission step)
  | .appendJointNativeStep admission native =>
    answering (fun _ => .unit) (appendJointNativeStep admission native)
  | .recordJointNativeResult admission step operationId digest outcome =>
    answering (fun _ => .unit)
      (recordJointNativeResult admission step operationId digest outcome)
  | .publishJointSession admission record =>
    answering .session (publishJointSession admission record)
  | .publishJointCheckpoint admission record =>
    answering .checkpoint (publishJointCheckpoint admission record)
  | .finishJointTurn admission terminal =>
    answering (fun _ => .unit) (finishJointTurn admission terminal)
  | .beginJointCompensation admission =>
    answering (fun _ => .unit) (beginJointCompensation admission)
  | .finishJointCompensation admission =>
    answering (fun _ => .unit) (finishJointCompensation admission)
  | .finishJointRelease admission kind publicId updatedAtMs =>
    answering (fun _ => .unit) (finishJointRelease admission kind publicId updatedAtMs)
  | .prepareJointCancel context session turnId =>
    answering .turn (prepareJointCancel context session turnId)
  | .prepareJointCancelNative admission native =>
    answering .cancel (prepareJointCancelNative admission native)
  | .claimJointCancelSend admission => answering .bool (claimJointCancelSend admission)
  | .recordJointCancelResult admission native outcome =>
    answering (fun _ => .unit) (recordJointCancelResult admission native outcome)
  | .prepareJointCheckpointBoundary binding native =>
    answering .boundary (prepareJointCheckpointBoundary binding native)
  | .confirmJointCheckpointBoundary ticket checkpointId =>
    answering .bool (confirmJointCheckpointBoundary ticket checkpointId)
  | .invalidateJointTurn admission =>
    answering (fun _ => .unit) (invalidateJointTurn admission)
  | .registerHostTarget target policy =>
    answering (fun _ => .unit) (registerHostTarget config.codec target policy)
  | .prepareHost prepared => answering .access (prepareHost config.codec prepared)
  | .claimHostStep access step => answering .bool (claimHostStep config.codec access step)
  | .recordHostStep access step observation =>
    answering (fun _ => .unit) (recordHostStep config.codec access step observation)
  | .recordHostRecovery access evidence =>
    answering (fun _ => .unit) (recordHostRecovery config.codec access evidence)
  | .finishHost access result => answering .json (finishHost config.codec access result)
  | .failStaleHostRead access => answering .json (failStaleHostRead config.codec access)
  | .finishHostRead access result before after =>
    answering .json (finishHostRead config.codec access result before after)
  | .prepareHostCleanup access childId dependencies =>
    answering (fun _ => .unit)
      (prepareHostCleanup config.codec access childId dependencies)
  | .suspendHostCleanup access =>
    answering (fun _ => .unit) (suspendHostCleanup config.codec access)
  | .releaseHostDependency access dependency =>
    answering (fun _ => .unit) (releaseHostDependency config.codec access dependency)
  | .resumeHostCleanup access => answering .access (resumeHostCleanup config.codec access)
  | .finishHostCleanup access =>
    answering (fun _ => .unit) (finishHostCleanup config.codec access)
  | .saveSession record => answering (fun _ => .unit) (saveSession record)
  | .saveCheckpoint record => answering (fun _ => .unit) (saveCheckpoint record)
  | .deleteCheckpoint checkpointId => answering .bool (deleteCheckpoint checkpointId)
  | .saveOperationIntent id body => answering (fun _ => .unit) (saveOperationIntent id body)
  | .deleteOperationIntent id => answering (fun _ => .unit) (deleteOperationIntent id)

/-- A committed call with its answer. -/
def Commit (s : Db) (event : Call × Reply) (s' : Db) : Prop :=
  (exec config event.1).run s = .ok (event.2, s')

/-- The databases that some sequence of committed calls leads to. -/
def StoreReachable (s : Db) : Prop :=
  Reachable (Commit config) Db.empty s

/-! ## Executing calls -/

/-- The database after some calls, one after the other; a failed call rolls back. -/
def execAll : List Call → Db → Db
  | [], s => s
  | call :: rest, s =>
    match (exec config call).run s with
    | .ok (_, s') => execAll rest s'
    | .error _ => execAll rest s

/-- The run of these calls: those that were committed, each with its answer and the database
it was made in. -/
def traceAll : List Call → Db → List (Db × (Call × Reply))
  | [], _ => []
  | call :: rest, s =>
    match (exec config call).run s with
    | .ok (reply, s') => (s, (call, reply)) :: traceAll rest s'
    | .error _ => traceAll rest s

theorem run_execAll (calls : List Call) (s : Db) :
    Run (Commit config) s (traceAll config calls s) (execAll config calls s) := by
  induction calls generalizing s with
  | nil => exact .nil
  | cons call rest ih =>
    unfold traceAll execAll
    split
    · rename_i reply s' hrun
      have hcom : Commit config s (call, reply) s' := hrun
      exact (Run.nil.snoc hcom).trans (ih s')
    · exact ih s

theorem storeReachable_execAll (calls : List Call) :
    StoreReachable config (execAll config calls Db.empty) :=
  ⟨_, run_execAll config calls Db.empty⟩

/-! ## A small deployment -/

/-- Ten units of every resource.  The digests of this deployment are all empty, no value has a
length and nothing is base64, so its Host operations carry no contents. -/
def smallConfig : StoreConfig where
  budgetPolicy := fun _ => some ⟨10, 0, Nat.zero_le 10⟩
  codec :=
    { hostDigest := fun _ => ""
      hostBytesDigest := fun _ => ""
      encodedLength := fun _ => 0
      decodeBase64 := fun _ => none }

/-- The operator opens a session under a new Root. -/
def openRequest : JointPrepareRequest where
  context :=
    { intentId := "open"
      operation := .openSession
      tenantId := none
      ownerRef := tenantKey none
      principal := "operator"
      actorRole := .admin
      quota := ⟨none, [], none⟩
      runtimeKind := "runtime"
      configurationRevision := "r1"
      sourceRuntimeId := none
      targetRuntimeId := some "session"
      checkpointId := none }
  binding := ⟨"owner", "binding", "r1"⟩
  rootId := "root"
  sourceId := "session"
  exclusiveRoot := false
  parentBinding := none
  reservations := [⟨.session, 1, 0⟩, ⟨.root, 1, 0⟩]
  native :=
    [{ step := "create"
       operationId := "00000000-0000-0000-0000-000000000001"
       digest := "0000000000000000000000000000000000000000000000000000000000000000"
       method := "session.create"
       params := .null
       effect := .create
       compensation := false }]
  publicationInput := none
  turn := none

/-- The token of its admission. -/
def openAdmission : JointAdmission := newAdmission openRequest (0, some 1)

/-- The record of the session. -/
def openRecord : SessionRecord where
  executionBacking := .jointV1 openRequest.binding
  runtimeId := "session"
  conversationId := "conversation"
  senderId := "sender"
  status := .idle
  createdAtMs := 0
  updatedAtMs := 0
  workspace := ⟨"workspace", "/workspace", .readWrite, none, .null⟩
  isolation := ⟨.container, .readWrite, .isolated, .null⟩
  capabilities := ⟨[], []⟩
  runtime := ⟨"runtime", 1, .null⟩
  llm := none
  lease := none
  lineage := none
  lastError := none
  tenantId := none
  createdBy := "operator"

/-- The session is created and published. -/
def openCalls : List Call :=
  [.prepareJointOperation openRequest, .claimJointNativeSend openAdmission "create",
    .recordJointNativeResult openAdmission "create" "00000000-0000-0000-0000-000000000001"
      "0000000000000000000000000000000000000000000000000000000000000000"
      ⟨.completed, [⟨"root", "object"⟩], .null⟩, .publishJointSession openAdmission openRecord]

/-- The operator closes the session. -/
def closeRequest : JointPrepareRequest :=
  { openRequest with
    context := { openRequest.context with
      intentId := "close"
      operation := .close
      sourceRuntimeId := some "session"
      targetRuntimeId := none }
    reservations := []
    native :=
      [{ step := "observe"
         operationId := "00000000-0000-0000-0000-000000000002"
         digest := "0000000000000000000000000000000000000000000000000000000000000000"
         method := "session.observe"
         params := .null
         effect := .observeAbsence
         compensation := false }] }

def closeAdmission : JointAdmission := newAdmission closeRequest (0, some 2)

/-- The object of the session is observed absent, and the session is released. -/
def closeCalls : List Call :=
  [.prepareJointOperation closeRequest, .claimJointNativeSend closeAdmission "observe",
    .recordJointNativeResult closeAdmission "observe" "00000000-0000-0000-0000-000000000002"
      "0000000000000000000000000000000000000000000000000000000000000000"
      ⟨.completed, [⟨"root", "object"⟩], .null⟩,
    .finishJointRelease closeAdmission .session "session" 1]

end XGovernor.Joint
