import XGovernor.Mcts.Run
import XGovernor.App.Types
import XGovernor.Lib.TransitionSystem

/-!
# The search runs of the server

Three routes serve search runs: one creates a run, one reads it and one cancels it.  A run that
is created gets a task of its own, which talks to the plugin and writes the outcome into the run's
record.  The handlers share two maps behind two locks; what a handler or a task does under one
lock is one section, and the sections of different calls interleave freely.

`Step` is that interleaving.  The number of a call also names the cancellation flag it allocates
and the task it spawns.
-/

namespace XGovernor.Mcts

open Domain Lib App Function

/-! ## Requests and records -/

/-- A request to create a run.  `payload` holds the fields that the handlers only carry along. -/
structure MctsRunRequest where
  pluginId : String
  mode : String
  taskId : Option String
  instanceId : Option String
  runId : String
  rootStateId : Option String
  payload : Json
  deriving DecidableEq

/-- `validate_request` of the plugin host. -/
def validateRequest (request : MctsRunRequest) : Except PluginHostError Unit := do
  if request.pluginId ≠ "mcts" then throw (.manifest "request plugin_id must be mcts")
  if isBlank request.mode then throw (.manifest "mode must not be empty")
  if isBlank request.runId then throw (.manifest "run_id must not be empty")
  match request.rootStateId with
  | some rootStateId =>
    if isBlank rootStateId then throw (.manifest "root_state_id must not be empty")
  | none => throw (.manifest "root_state_id must not be empty")

/-- `MctsRun::execute`.  The run map of a task is its own and holds the run and its root state
already, so registering them again never fails; the cleanup of branches and states after the loop
has no effect on the result. -/
def execute (request : MctsRunRequest) (env : Environment) :
    Option (Except PluginHostError MctsRunOutcome) :=
  match validateRequest request with
  | .error error => some (.error error)
  | .ok _ =>
    match runLoop env with
    | none => none
    | some (.error error) => some (.error error)
    | some (.ok (outcome, _)) => some (.ok outcome)

/-- The record of a run.  The error of a failed run is kept as it is; the source keeps its text.
`creator` is not part of the source's record: it is the context of the call that wrote the
record, and no handler reads it. -/
structure MctsRunRecord where
  runId : String
  status : MctsRunStatus
  request : MctsRunRequest
  rootStatePrepared : Bool
  rootStateId : Option String
  outcome : Option MctsRunOutcome
  error : Option PluginHostError
  creator : SecurityContext

structure MctsRunView where
  runId : String
  status : MctsRunStatus
  request : MctsRunRequest
  rootStatePrepared : Bool
  rootStateId : Option String
  outcome : Option MctsRunOutcome
  error : Option PluginHostError
  protocolJsonl : Option String
  deriving DecidableEq

def MctsRunRecord.view (record : MctsRunRecord) : MctsRunView where
  runId := record.runId
  status := record.status
  request := record.request
  rootStatePrepared := record.rootStatePrepared
  rootStateId := record.rootStateId
  outcome := record.outcome
  error := record.error
  protocolJsonl := record.outcome.bind MctsRunOutcome.protocol

structure MctsApiError where
  status : Nat
  message : String
  deriving DecidableEq

/-! ## Calls in progress -/

/-- What a call of `create_run` has settled so far. -/
structure Creation where
  context : SecurityContext
  request : MctsRunRequest
  rootStatePrepared : Bool

/-- How far a call of `create_run` has come. -/
inductive CreatePhase where
  /-- The run id was not taken when it was looked up. -/
  | checked (creation : Creation)
  /-- The root state is known. -/
  | prepared (creation : Creation)
  /-- The task was spawned, unless spawning is disabled. -/
  | spawned (creation : Creation)
  /-- The cancellation flag is in its map. -/
  | flagged (creation : Creation)
  | returned (result : Except MctsApiError MctsRunView)

/-- How far the task of a run has come. -/
inductive TaskPhase where
  | executing (request : MctsRunRequest)
  | executed (request : MctsRunRequest) (outcome : Except PluginHostError MctsRunOutcome)
  /-- The record was updated if there was one; its prepared root state is being deleted. -/
  | updated (runId : String) (preparedStateId : Option String)
  | done (runId : String)

structure MctsLaunchConfig where
  spawnEnabled : Bool

structure Server where
  runs : Table String MctsRunRecord
  /-- The flag of each run, by the call that allocated it. -/
  cancellations : Table String Nat
  flags : Nat → Bool
  creates : Nat → Option CreatePhase
  tasks : Nat → Option TaskPhase

namespace Server

def initial : Server where
  runs := .empty
  cancellations := .empty
  flags := fun _ => false
  creates := fun _ => none
  tasks := fun _ => none

variable (s : Server) (i : Nat)

def setCreate (phase : CreatePhase) : Server :=
  { s with creates := update s.creates i (some phase) }

def setTask (phase : TaskPhase) : Server :=
  { s with tasks := update s.tasks i (some phase) }

end Server

/-! ## The sections of `create_run` -/

/-- The checks on the request itself; a blank run id is replaced by a fresh one. -/
def validateCreate (request : MctsRunRequest) (uuid : String) :
    Except MctsApiError MctsRunRequest :=
  if request.pluginId ≠ "mcts" then .error ⟨400, "plugin_id must be 'mcts'"⟩
  else if isBlank request.mode then .error ⟨400, "mode must not be empty"⟩
  else if isBlank request.runId then .ok { request with runId := uuid }
  else .ok request

/-- The context of a call without one. -/
def workerContext : SecurityContext :=
  .admin "system:mcts-worker" ⟨none, [], none⟩

variable (s : Server) (config : MctsLaunchConfig) (i : Nat)

/-- The lookup under the lock of the runs. -/
def Server.checkRun (context : Option SecurityContext)
    (request : MctsRunRequest) (uuid : String) : Server :=
  match validateCreate request uuid with
  | .error error => s.setCreate i (.returned (.error error))
  | .ok request =>
    if (s.runs.get? request.runId).isSome then
      s.setCreate i (.returned (.error ⟨409, "run already exists: " ++ request.runId⟩))
    else
      s.setCreate i (.checked ⟨context.getD workerContext, request, false⟩)

/-- The preparation of a root state for a request without one; `prepared` is what the helper
process answers. -/
def prepareRootState (request : MctsRunRequest)
    (prepared : Except String String) : Except MctsApiError (MctsRunRequest × Bool) :=
  if config.spawnEnabled && request.rootStateId.isNone then
    match request.taskId.or request.instanceId with
    | none =>
      .error ⟨400, "task_id or instance_id is required when xg prepares the root state"⟩
    | some _ =>
      match prepared with
      | .error error => .error ⟨500, "native root-state preparation failed: " ++ error⟩
      | .ok rootStateId => .ok ({ request with rootStateId := some rootStateId }, true)
  else
    .ok (request, false)

variable (creation : Creation)

def Server.prepare (prepared : Except String String) : Server :=
  match prepareRootState config creation.request prepared with
  | .error error => s.setCreate i (.returned (.error error))
  | .ok (request, rootStatePrepared) =>
    s.setCreate i (.prepared { creation with request, rootStatePrepared })

/-- The run map of the task is new, so neither registration fails; `host` says whether the host
application could be built. -/
def Server.launch (host : Except String Unit) : Server :=
  if config.spawnEnabled then
    if creation.request.rootStateId.isNone then
      s.setCreate i (.returned (.error ⟨400, "root_state_id must not be empty"⟩))
    else
      match host with
      | .error error =>
        s.setCreate i (.returned (.error
          ⟨500, "failed to build real MCTS host application: " ++ error⟩))
      | .ok _ => (s.setTask i (.executing creation.request)).setCreate i (.spawned creation)
  else
    s.setCreate i (.spawned creation)

def Server.insertCancellation : Server :=
  { s with cancellations := s.cancellations.upsert creation.request.runId i }.setCreate i
    (.flagged creation)

def Creation.record (config : MctsLaunchConfig) : MctsRunRecord where
  runId := creation.request.runId
  status := if config.spawnEnabled then .running else .accepted
  request := creation.request
  rootStatePrepared := creation.rootStatePrepared
  rootStateId := creation.request.rootStateId
  outcome := none
  error := none
  creator := creation.context

def Server.insertRecord : Server :=
  { s with runs := s.runs.upsert creation.request.runId (creation.record config) }.setCreate i
    (.returned (.ok (creation.record config).view))

/-! ## The sections of the task -/

/-- The update of a record by the task; a cancelled record is left alone. -/
def MctsRunRecord.finish (record : MctsRunRecord)
    (outcome : Except PluginHostError MctsRunOutcome) : MctsRunRecord :=
  if record.status = .cancelled then record
  else
    match outcome with
    | .ok outcome => { record with status := outcome.status, outcome := some outcome }
    | .error error => { record with status := .failed, error := some error }

variable (runId : String)

def Server.updateRecord
    (outcome : Except PluginHostError MctsRunOutcome) : Server :=
  match s.runs.get? runId with
  | none => s.setTask i (.updated runId none)
  | some record =>
    { s with runs := s.runs.upsert runId (record.finish outcome) }.setTask i
      (.updated runId (if record.rootStatePrepared then record.rootStateId else none))

def Server.removeCancellation : Server :=
  { s with cancellations := s.cancellations.erase fun key _ => key = runId }.setTask i
    (.done runId)

/-! ## The other two routes -/

def getRun : Except MctsApiError MctsRunView :=
  match s.runs.get? runId with
  | none => .error ⟨404, "run not found: " ++ runId⟩
  | some record => .ok record.view

/-- The status that `cancel_run` writes. -/
def MctsRunRecord.cancel (record : MctsRunRecord) : MctsRunRecord :=
  if record.status = .completed ∨ record.status = .failed then record
  else { record with status := .cancelled }

/-- `cancel_run`.  It holds the lock of the runs throughout; what others do to the cancellations
before it takes their lock as well does not depend on the record, so the call is one section. -/
def cancelRun : Except MctsApiError MctsRunView × Server :=
  match s.runs.get? runId with
  | none => (.error ⟨404, "run not found: " ++ runId⟩, s)
  | some record =>
    (.ok record.cancel.view,
      { s with
        runs := s.runs.upsert runId record.cancel
        flags := match s.cancellations.get? runId with
          | some flag => update s.flags flag true
          | none => s.flags })

/-! ## The interleaving -/

inductive Label where
  | checkRun (i : Nat) (context : Option SecurityContext) (request : MctsRunRequest)
      (uuid : String)
  | prepare (i : Nat) (prepared : Except String String)
  | launch (i : Nat) (host : Except String Unit)
  | insertCancellation (i : Nat)
  | insertRecord (i : Nat)
  | execute (i : Nat) (env : Environment)
  | updateRecord (i : Nat)
  | removeCancellation (i : Nat)
  | getRun (runId : String)
  | cancelRun (runId : String)

inductive Step (config : MctsLaunchConfig) (s : Server) : Label → Server → Prop where
  | checkRun {i context request uuid} (hnew : s.creates i = none) :
      Step config s (.checkRun i context request uuid) (s.checkRun i context request uuid)
  | prepare {i creation prepared} (hphase : s.creates i = some (.checked creation)) :
      Step config s (.prepare i prepared) (s.prepare config i creation prepared)
  | launch {i creation host} (hphase : s.creates i = some (.prepared creation)) :
      Step config s (.launch i host) (s.launch config i creation host)
  | insertCancellation {i : Nat} {creation : Creation}
      (hphase : s.creates i = some (.spawned creation)) :
      Step config s (.insertCancellation i) (s.insertCancellation i creation)
  | insertRecord {i : Nat} {creation : Creation}
      (hphase : s.creates i = some (.flagged creation)) :
      Step config s (.insertRecord i) (s.insertRecord config i creation)
  | execute {i request env outcome} (hphase : s.tasks i = some (.executing request))
      (hout : execute request env = some outcome) :
      Step config s (.execute i env) (s.setTask i (.executed request outcome))
  | updateRecord {i request outcome} (hphase : s.tasks i = some (.executed request outcome)) :
      Step config s (.updateRecord i) (s.updateRecord i request.runId outcome)
  | removeCancellation {i runId preparedStateId}
      (hphase : s.tasks i = some (.updated runId preparedStateId)) :
      Step config s (.removeCancellation i) (s.removeCancellation i runId)
  | getRun {runId : String} : Step config s (.getRun runId) s
  | cancelRun {runId : String} : Step config s (.cancelRun runId) (cancelRun s runId).2

/-- The step a label takes, if it can be taken. -/
def Server.next (config : MctsLaunchConfig) (s : Server) : Label → Option Server
  | .checkRun i context request uuid =>
    if (s.creates i).isNone then some (s.checkRun i context request uuid) else none
  | .prepare i prepared =>
    match s.creates i with
    | some (.checked creation) => some (s.prepare config i creation prepared)
    | _ => none
  | .launch i host =>
    match s.creates i with
    | some (.prepared creation) => some (s.launch config i creation host)
    | _ => none
  | .insertCancellation i =>
    match s.creates i with
    | some (.spawned creation) => some (s.insertCancellation i creation)
    | _ => none
  | .insertRecord i =>
    match s.creates i with
    | some (.flagged creation) => some (s.insertRecord config i creation)
    | _ => none
  | .execute i env =>
    match s.tasks i with
    | some (.executing request) =>
      (Mcts.execute request env).map fun outcome => s.setTask i (.executed request outcome)
    | _ => none
  | .updateRecord i =>
    match s.tasks i with
    | some (.executed request outcome) => some (s.updateRecord i request.runId outcome)
    | _ => none
  | .removeCancellation i =>
    match s.tasks i with
    | some (.updated runId _) => some (s.removeCancellation i runId)
    | _ => none
  | .getRun _ => some s
  | .cancelRun runId => some (Mcts.cancelRun s runId).2

theorem step_of_next {config : MctsLaunchConfig} (s label s')
    (h : s.next config label = some s') : Step config s label s' := by
  cases label <;> simp only [Server.next] at h
  case checkRun =>
    split at h
    · rename_i hnew
      exact Option.some.inj h ▸ .checkRun (Option.isNone_iff_eq_none.1 hnew)
    · cases h
  case execute =>
    split at h
    · obtain ⟨outcome, hout, rfl⟩ := Option.map_eq_some_iff.1 h
      exact .execute ‹_› hout
    · cases h
  case getRun => exact Option.some.inj h ▸ .getRun
  case cancelRun => exact Option.some.inj h ▸ .cancelRun
  all_goals
    split at h
    · exact Option.some.inj h ▸ by constructor <;> assumption
    · cases h

/-- A request with a root state of its own. -/
def sampleRequest : MctsRunRequest where
  pluginId := "mcts"
  mode := "mock"
  taskId := none
  instanceId := none
  runId := "run"
  rootStateId := some "state-root"
  payload := .null

/-- A plugin that cannot be spawned. -/
def brokenPlugin : Environment where
  spawned := .error .io
  arrivals := []

end XGovernor.Mcts
