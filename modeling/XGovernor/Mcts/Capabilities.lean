import XGovernor.Mcts.Run

/-!
# Requests of a plugin

A plugin asks the host to do things for it: nine methods, each one an operation of the host
application and a capability that the run may have been granted.  The grant goes to the plugin
with `plugin.start`; the service that answers the requests never sees it.
-/

namespace XGovernor.Mcts

open Domain Lib

inductive Capability where
  | snapshot | fork | agentTurn | inspect | exec | fileRead | fileWrite | diff | release
  deriving DecidableEq

/-- `MethodName`: the host methods, by their capability, and the rest. -/
inductive MethodName where
  | host (capability : Capability)
  | other

/-- The parameters that the operations have beside the run. -/
inductive Operation : Capability → Type where
  | snapshot (branchId : String) : Operation .snapshot
  | fork (parentStateId : String) : Operation .fork
  | agentTurn (branchId input : String) (profile : Option String) : Operation .agentTurn
  | inspect (branchId view : String) : Operation .inspect
  | exec (branchId : String) (argv : List String) (cwd : String) : Operation .exec
  | fileRead (branchId path : String) : Operation .fileRead
  | fileWrite (branchId path contentBase64 : String) : Operation .fileWrite
  | diff (branchId baseStateId : String) : Operation .diff
  | release (branchId : String) : Operation .release

structure HostSnapshot where
  stateId : String
  expiresAt : String
  tenantId : Option String

/-- What the host application answers. -/
def Capability.Reply : Capability → Type
  | snapshot => HostSnapshot
  | fork | agentTurn | inspect | exec | diff => String
  | fileRead => List UInt8
  | fileWrite => Nat
  | release => Unit

structure HostParams (c : Capability) where
  pluginId : String
  runId : String
  timeoutMs : Nat
  operation : Operation c

/-- What the service takes from libraries: the decoding of parameters, and base64. -/
structure Codec where
  parse : (c : Capability) → Json → Except String (HostParams c)
  encode : List UInt8 → String
  decode : String → Except String (List UInt8)

/-- `HostApplication`, under the timeout of the request.  The bytes are the content to write. -/
abbrev HostApplication :=
  (c : Capability) → HostParams c → List UInt8 → Except PluginHostError c.Reply

/-- The error responses. -/
inductive Refusal where
  | methodNotFound (message : String)
  | invalidParams (message : String)
  | capabilityDenied (message : String)
  | host (error : PluginHostError)

/-! ## The run map -/

structure BranchRecord where
  runId : String
  parentStateId : String
  mctsOwned : Bool

inductive JobStatus where
  | running | completed | failed
  deriving DecidableEq

structure JobRecord where
  runId : String
  branchId : String
  status : JobStatus

/-- The whole run map. -/
structure HostMap extends RunMap where
  branches : Table String BranchRecord
  jobs : Table String JobRecord

namespace HostMap

variable (map : HostMap)

def requireState (stateId : String) : Except PluginHostError Unit :=
  if (map.states.get? stateId).isSome then .ok ()
  else .error (.branchNotFound ("state not found: " ++ stateId))

def requireBranchInRun (runId branchId : String) : Except PluginHostError Unit := do
  map.requireRun runId
  match map.branches.get? branchId with
  | some branch =>
    if branch.runId ≠ runId then
      throw (.branchNotFound ("branch " ++ branchId ++ " does not belong to run " ++ runId))
  | none => throw (.branchNotFound branchId)

def addBranch (runId branchId parentStateId : String) : Except PluginHostError HostMap := do
  map.requireRun runId
  if (map.branches.get? branchId).isSome then
    throw (.idempotencyConflict ("branch already exists: " ++ branchId))
  return { map with branches := map.branches.upsert branchId ⟨runId, parentStateId, true⟩ }

def addStateWithMetadata (runId stateId branchId : String)
    (expiresAtMs : Option Nat) (tenantId : Option String) : Except PluginHostError HostMap := do
  map.requireBranchInRun runId branchId
  return { map with
    states := map.states.upsert stateId ⟨runId, branchId, expiresAtMs, tenantId⟩ }

def addJob (runId branchId jobId : String) : Except PluginHostError HostMap := do
  map.requireBranchInRun runId branchId
  return { map with jobs := map.jobs.upsert jobId ⟨runId, branchId, .running⟩ }

def removeBranch (branchId : String) : HostMap :=
  { map with branches := map.branches.erase fun id _ => id = branchId }

/-- What an operation refers to belongs to the run; for a fork, to any run. -/
def requireTarget (runId : String) {c : Capability} :
    Operation c → Except PluginHostError Unit
  | .fork parentStateId => map.requireState parentStateId
  | .snapshot branchId | .agentTurn branchId _ _ | .inspect branchId _ | .exec branchId _ _
  | .fileRead branchId _ | .fileWrite branchId _ _ | .diff branchId _ | .release branchId =>
    map.requireBranchInRun runId branchId

end HostMap

/-! ## The service -/

def pluginId : String := "mcts"

section

variable (codec : Codec) (app : HostApplication)

/-- `validate_plugin_and_run`. -/
def validatePluginAndRun (map : HostMap) (plugin runId : String) : Except Refusal Unit := do
  if plugin ≠ pluginId then
    throw (.capabilityDenied ("host request must target plugin " ++ pluginId))
  (map.requireRun runId).mapError .host

/-- The content that an operation writes. -/
def Operation.content {c : Capability} : Operation c → Except Refusal (List UInt8)
  | .fileWrite _ _ contentBase64 => (codec.decode contentBase64).mapError fun error =>
    .invalidParams ("host.file_write content_base64 is not valid base64: " ++ error)
  | _ => .ok []

/-- What each handler does before it turns to the application. -/
def accept (map : HostMap) (c : Capability) (params : Json) :
    Except Refusal (HostParams c × List UInt8) := do
  let params ← (codec.parse c params).mapError .invalidParams
  validatePluginAndRun map params.pluginId params.runId
  (map.requireTarget params.runId params.operation).mapError .host
  return (params, ← params.operation.content codec)

/-- What each handler records of the answer of the application, and what it passes on. -/
def record (map : HostMap) (runId : String) : {c : Capability} → Operation c → c.Reply →
    Except PluginHostError (HostMap × Json)
  | _, .snapshot branchId, (snapshot : HostSnapshot) => do
    -- The expiry of the source session is not kept: the state lives as long as the run.
    let map ← map.addStateWithMetadata runId snapshot.stateId branchId none snapshot.tenantId
    return (map, .object [("expires_at", .string snapshot.expiresAt),
      ("state_id", .string snapshot.stateId)])
  | _, .fork parentStateId, (branchId : String) => do
    return (← map.addBranch runId branchId parentStateId, .object [("branch_id", .string branchId)])
  | _, .agentTurn branchId _ _, (jobId : String) | _, .exec branchId _ _, (jobId : String) => do
    return (← map.addJob runId branchId jobId,
      .object [("job_id", .string jobId), ("status", .string "accepted")])
  | _, .inspect _ _, (content : String) | _, .diff _ _, (content : String) =>
    .ok (map, .object [("content", .string content)])
  | _, .fileRead _ _, (content : List UInt8) =>
    .ok (map, .object [("content_base64", .string (codec.encode content))])
  | _, .fileWrite _ _ _, (written : Nat) => .ok (map, .object [("written_bytes", .number written)])
  | _, .release branchId, _ =>
    .ok (map.removeBranch branchId, .object [("released", .bool true)])

/-- An answered request. -/
structure Answered where
  map : HostMap
  response : Except Refusal Json
  /-- The capability of the operation that was invoked for it. -/
  invoked : Option Capability

/-- `HostCapService::handle`. -/
def handle (map : HostMap) (method : MethodName) (params : Json) : Answered :=
  match method with
  | .other => ⟨map, .error (.methodNotFound "not a host method"), none⟩
  | .host c =>
    match accept codec map c params with
    | .error refusal => ⟨map, .error refusal, none⟩
    | .ok (params, content) =>
      match app c params content with
      | .error error => ⟨map, .error (.host error), some c⟩
      | .ok reply =>
        match record codec map params.runId params.operation reply with
        | .error error => ⟨map, .error (.host error), some c⟩
        | .ok (map, result) => ⟨map, .ok result, some c⟩

/-- The requests that a plugin sends, each one with the application's behaviour at that time. -/
abbrev Requests := List (MethodName × Json × HostApplication)

/-- The requests of a run, each one with the run map that it met and its answer. -/
def serve (map : HostMap) : Requests → List (HostMap × MethodName × Json × Answered)
  | [] => []
  | (method, params, app) :: rest =>
    let answered := handle codec app map method params
    (map, method, params, answered) :: serve answered.map rest

/-! ## What the grant is worth -/

/-- The grant is enforced on an answered request. -/
def Answered.Within (granted : List Capability) (before : HostMap) (method : MethodName)
    (answered : Answered) : Prop :=
  (∀ c, answered.invoked = some c → c ∈ granted) ∧
    ((∀ c ∈ granted, method ≠ .host c) →
      (∃ refusal, answered.response = .error refusal) ∧ answered.map = before)

/-- The handler's own checks stop the request: undecodable parameters, another plugin, a run that
is not registered, a branch of another run or an unknown state, or content that is not base64. -/
def Stopped (map : HostMap) (c : Capability) (params : Json) : Prop :=
  ∀ decoded, codec.parse c params = .ok decoded → decoded.pluginId = pluginId →
    decoded.runId ∈ map.runs → map.requireTarget decoded.runId decoded.operation = .ok () →
    ∃ refusal, decoded.operation.content codec = .error refusal

variable {codec app} {map : HostMap} {c : Capability} {params : Json}

theorem accept_eq_error_iff :
    (∃ refusal, accept codec map c params = .error refusal) ↔ Stopped codec map c params := by
  unfold Stopped accept validatePluginAndRun
  rcases codec.parse c params with message | decoded
  · simp [Except.mapError, bind, Except.bind]
  by_cases hplugin : decoded.pluginId = pluginId
  case neg =>
    simp [Except.mapError, bind, Except.bind, hplugin, throw, throwThe, MonadExceptOf.throw]
  by_cases hrun : decoded.runId ∈ map.runs
  case neg => simp [Except.mapError, bind, Except.bind, hplugin, hrun, RunMap.requireRun]
  rcases htgt : map.requireTarget decoded.runId decoded.operation with error | ⟨⟩
  · simp [Except.mapError, bind, Except.bind, hplugin, hrun, htgt, RunMap.requireRun]
  rcases hcontent : decoded.operation.content codec with refusal | content <;>
    simp [Except.mapError, bind, Except.bind, hplugin, hrun, htgt, hcontent, RunMap.requireRun,
      pure, Except.pure]

theorem handle_eq_of_error {refusal} (h : accept codec map c params = .error refusal) :
    handle codec app map (.host c) params = ⟨map, .error refusal, none⟩ := by
  simp only [handle, h]

/-- Once a request is accepted the application is asked, whatever it answers. -/
theorem handle_invoked_of_ok {decoded content}
    (h : accept codec map c params = .ok (decoded, content)) :
    (handle codec app map (.host c) params).invoked = some c := by
  simp only [handle, h]
  split
  · rfl
  · split <;> rfl

theorem handle_within_iff (granted : List Capability) (method) :
    (handle codec app map method params).Within granted map method ↔
      ∀ c, method = .host c → c ∈ granted ∨ Stopped codec map c params := by
  cases method with
  | other => simp [handle, Answered.Within]
  | host c =>
    simp only [MethodName.host.injEq, forall_eq', ← accept_eq_error_iff]
    rcases haccept : accept codec map c params with refusal | ⟨decoded, content⟩
    · simp [handle_eq_of_error haccept, Answered.Within]
    · have hinvoked := @handle_invoked_of_ok _ app _ _ _ _ _ haccept
      constructor
      · intro hwithin
        exact .inl (hwithin.1 c hinvoked)
      · rintro (hgranted | ⟨_, ⟨⟩⟩)
        refine ⟨fun c' hc' => ?_, fun houtside => absurd rfl (houtside c hgranted)⟩
        cases hinvoked.symm.trans hc'
        exact hgranted

/-- **Nothing but the handlers' checks stands between a plugin and the host**: along every sequence
of requests the grant is enforced exactly if each request for a capability outside it is stopped by
the checks that the handlers make of every request. -/
theorem grant_enforced_iff (codec : Codec) (granted : List Capability) (map : HostMap)
    (requests : Requests) :
    (∀ served ∈ serve codec map requests, served.2.2.2.Within granted served.1 served.2.1) ↔
    ∀ served ∈ serve codec map requests, ∀ c, served.2.1 = .host c →
      c ∈ granted ∨ Stopped codec served.1 c served.2.2.1 := by
  induction requests generalizing map with
  | nil => simp [serve]
  | cons request rest ih =>
    simp only [serve, List.forall_mem_cons, handle_within_iff, ih]

end

/-- A run with one branch. -/
def oneBranch : HostMap where
  toRunMap := { RunMap.empty with runs := ["run"] }
  branches := Table.empty.add "branch" ⟨"run", "root", true⟩
  jobs := .empty

/-- Every request is a command in that branch. -/
def execCodec : Codec where
  parse
    | .exec, _ => .ok ⟨pluginId, "run", 1, .exec "branch" ["id"] "/"⟩
    | _, _ => .error "missing field"
  encode _ := ""
  decode _ := .ok []

/-- A plugin that was granted nothing runs a command. -/
theorem ungranted_exec :
    ∃ served ∈ serve execCodec oneBranch [(.host .exec, .null, fun _ _ _ => .error .exited)],
      ¬ served.2.2.2.Within [] served.1 served.2.1 :=
  ⟨_, List.mem_singleton_self _, fun h => List.not_mem_nil (h.1 .exec rfl)⟩

end XGovernor.Mcts
