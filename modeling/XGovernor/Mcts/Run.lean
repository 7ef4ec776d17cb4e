import XGovernor.Domain.Json
import XGovernor.Lib.Table

/-!
# One search run against a plugin process

The host talks to a search plugin over its standard streams.  It sends three kinds of requests
(`plugin.initialize`, `plugin.start`, `plugin.wait`), and while it waits for the answer to one it
serves whatever the plugin sends: requests of its own, and notifications that report how the run
goes.  `runLoop` is that conversation, over an environment that decides everything the host does
not: what arrives, whether a write succeeds, when the run is cancelled, what the run map holds.

Every place where the host changes its view of the run also records the reason in `heard`.  No
branch reads the record; it says which messages an outcome is made of.
-/

namespace XGovernor.Mcts

open Domain Lib

/-! ## What a plugin reports -/

structure ApplyPlan where
  kind : String
  stateId : String
  baseStateId : String
  deriving DecidableEq

structure Candidate where
  candidateId : String
  stateId : String
  score : Json
  evaluationVersion : String
  summary : String
  evidenceRefs : List String
  confidence : Option Json
  deriving DecidableEq

structure Evidence where
  evidenceId : String
  kind : String
  content : String
  truncated : Option Bool
  deriving DecidableEq

structure CompletionResult where
  status : String
  summary : String
  answer : String
  stopReason : String
  selectedCandidateId : Option String
  candidates : List Candidate
  evidence : List Evidence
  limitations : List String
  applyPlan : Option ApplyPlan
  deriving DecidableEq

structure Failure where
  code : String
  message : String
  deriving DecidableEq

inductive ProtocolError where
  | invalidMessage (message : String)
  | unknownMethod (method : String)
  | unknownNotification (method : String)
  deriving DecidableEq

/-- The errors of the plugin host.  The texts of errors of the operating system and of the JSON
parser are not modelled. -/
inductive PluginHostError where
  | io
  | json
  | protocol (error : ProtocolError)
  | manifest (message : String)
  | eof
  | exited
  | notRunning
  | responseIdMismatch
  | invalidResponse (message : String)
  | runNotFound (message : String)
  | branchNotFound (message : String)
  | capabilityDenied (message : String)
  | deadlineExceeded
  | idempotencyConflict (message : String)
  | cancelled (message : String)
  | branchBusy (message : String)
  deriving DecidableEq

namespace CompletionResult

/-- The reference checks of one candidate against the evidence of the result. -/
def checkReferences (evidenceIds : List String) (candidate : Candidate) :
    List String → Except ProtocolError Unit
  | [] => .ok ()
  | reference :: rest =>
    if evidenceIds.contains reference then
      checkReferences evidenceIds candidate rest
    else
      .error (.invalidMessage
        ("candidate " ++ candidate.candidateId ++ " references unknown evidence " ++ reference))

def checkCandidates (evidenceIds : List String) : List Candidate → Except ProtocolError Unit
  | [] => .ok ()
  | candidate :: rest => do
    checkReferences evidenceIds candidate candidate.evidenceRefs
    checkCandidates evidenceIds rest

/-- `CompletionResult::validate`. -/
def validate (result : CompletionResult) : Except ProtocolError Unit := do
  if result.status ≠ "completed" then
    throw (.invalidMessage "completion result status must be 'completed'")
  if ¬(result.candidates.map Candidate.candidateId).Nodup then
    throw (.invalidMessage "candidate ids must be unique")
  if ¬(result.evidence.map Evidence.evidenceId).Nodup then
    throw (.invalidMessage "evidence ids must be unique")
  checkCandidates (result.evidence.map Evidence.evidenceId) result.candidates
  match result.selectedCandidateId with
  | some selectedId =>
    match result.candidates.find? fun candidate => candidate.candidateId = selectedId with
    | none => throw (.invalidMessage "selected candidate id does not resolve")
    | some selected =>
      match result.applyPlan with
      | some plan =>
        if plan.stateId ≠ selected.stateId then
          throw (.invalidMessage "apply_plan state does not match selected candidate")
      | none => pure ()
  | none =>
    if result.applyPlan.isSome then
      throw (.invalidMessage "apply_plan requires a selected candidate")

end CompletionResult

/-! ## The run map -/

structure StateRecord where
  runId : String
  branchId : String
  expiresAtMs : Option Nat
  tenantId : Option String
  deriving DecidableEq

/-- The part of the run map that the check of an apply plan reads. -/
structure RunMap where
  runs : List String
  runTenants : Table String (Option String)
  states : Table String StateRecord

namespace RunMap

def empty : RunMap where
  runs := []
  runTenants := .empty
  states := .empty

variable (runMap : RunMap)

def requireRun (runId : String) : Except PluginHostError Unit :=
  if runMap.runs.contains runId then .ok () else .error (.runNotFound runId)

def runTenantId (runId : String) : Except PluginHostError (Option String) := do
  runMap.requireRun runId
  return (runMap.runTenants.get? runId).join

def requireStateInRun (runId stateId : String) :
    Except PluginHostError Unit := do
  runMap.requireRun runId
  match runMap.states.get? stateId with
  | some state =>
    if state.runId ≠ runId then
      throw (.branchNotFound ("state " ++ stateId ++ " does not belong to run " ++ runId))
  | none => throw (.branchNotFound ("state not found: " ++ stateId))

def stateRecord (stateId : String) : Except PluginHostError StateRecord :=
  match runMap.states.get? stateId with
  | some state => .ok state
  | none => .error (.branchNotFound ("state not found: " ++ stateId))

def hasHostStates : Bool :=
  runMap.states.any fun _ state => !state.branchId.isEmpty

end RunMap

/-- `ApplyPlanValidator::validate`, at the clock reading `nowMs`. -/
def ApplyPlanValidator.validate (result : CompletionResult) (runId : String) (runMap : RunMap)
    (nowMs : Nat) : Except PluginHostError Unit := do
  match result.validate with
  | .error error => throw (.protocol error)
  | .ok _ => pure ()
  match result.applyPlan with
  | none => pure ()
  | some plan =>
    if runMap.hasHostStates then
      runMap.requireStateInRun runId plan.stateId
      let state ← runMap.stateRecord plan.stateId
      match state.expiresAtMs with
      | some expiresAtMs =>
        if nowMs ≥ expiresAtMs then
          throw (.invalidResponse ("apply_plan state expired: " ++ plan.stateId))
      | none => pure ()
      match ← runMap.runTenantId runId with
      | some runTenantId =>
        if state.tenantId ≠ some runTenantId then
          throw (.invalidResponse ("apply_plan state tenant mismatch for " ++ plan.stateId))
      | none => pure ()

/-! ## Messages -/

inductive RpcId where
  | string (value : String)
  | number (value : Int)
  deriving DecidableEq

/-- `id_matches`. -/
def idMatches (id : RpcId) (expected : String) : Bool :=
  match id with
  | .string value => value == expected
  | .number value => toString value == expected

structure PluginStartedParams where
  runId : String
  sequence : Nat
  summary : Option String
  deriving DecidableEq

structure PluginCompletedParams where
  runId : String
  sequence : Nat
  result : CompletionResult
  deriving DecidableEq

structure PluginCancelledParams where
  runId : String
  sequence : Nat
  summary : String
  deriving DecidableEq

structure PluginFailedParams where
  runId : String
  sequence : Nat
  failure : Failure
  summary : String
  deriving DecidableEq

/-- A notification with its decoded parameters.  The parameters of every notification are checked
against the type of its method when the line is read, so the second decoding, in
`applyNotification`, never fails.  `other` is `plugin.progress` and the `host.job` family. -/
inductive Notification where
  | pluginStarted (params : PluginStartedParams)
  | pluginCompleted (params : PluginCompletedParams)
  | pluginCancelled (params : PluginCancelledParams)
  | pluginFailed (params : PluginFailedParams)
  | other
  deriving DecidableEq

structure Response where
  id : RpcId
  result : Option Json
  error : Option Json
  deriving DecidableEq

/-- What the plugin may send.  The answer to a request is computed by the host's capability
service; the conversation depends only on whether it could be written. -/
inductive RpcEnvelope where
  | request
  | notification (notification : Notification)
  | response (response : Response)
  deriving DecidableEq

/-- `ensure_response_ok`. -/
def ensureResponseOk (response : Response) : Except PluginHostError Unit :=
  if response.error.isSome then
    .error (.invalidResponse "plugin returned a JSON-RPC error")
  else
    .ok ()

structure WaitSnapshot where
  runId : String
  status : String
  sequence : Nat
  deriving DecidableEq

/-- The decoding of the result of a wait request: an object with the three fields, or the array
of their values. -/
def WaitSnapshot.fromValue (value : Json) : Except PluginHostError WaitSnapshot :=
  let (runId, status, sequence) := match value with
    | .array [runId, status, sequence] => (runId, status, sequence)
    | value => (value.field "run_id", value.field "status", value.field "sequence")
  match runId.asStr?, status.asStr?, sequence.asNat? with
  | some runId, some status, some sequence =>
    if sequence < 2 ^ 64 then .ok ⟨runId, status, sequence⟩ else .error .json
  | _, _, _ => .error .json

/-! ## The host's view of the run -/

inductive MctsRunStatus where
  | accepted
  | running
  | completed
  | failed
  | cancelled
  deriving DecidableEq

def MctsRunStatus.isTerminal : MctsRunStatus → Bool
  | completed | failed | cancelled => true
  | accepted | running => false

structure RunProgress where
  status : MctsRunStatus := .accepted
  sequence : Nat := 0
  summary : Option String := none
  result : Option CompletionResult := none
  failure : Option Failure := none
  protocol : Option String := none
  deriving DecidableEq

def RunProgress.isTerminal (progress : RunProgress) : Bool :=
  progress.status.isTerminal

structure MctsRunOutcome where
  status : MctsRunStatus
  sequence : Nat
  summary : Option String
  result : Option CompletionResult
  failure : Option Failure
  protocol : Option String
  deriving DecidableEq

def RunProgress.intoOutcome (progress : RunProgress) : MctsRunOutcome where
  status := progress.status
  sequence := progress.sequence
  summary := progress.summary
  result := progress.result
  failure := progress.failure
  protocol := progress.protocol

/-- `apply_notification`: the arms for the notifications that report the state of the run. -/
def applyNotification (notification : Notification) (progress : RunProgress) (runMap : RunMap)
    (nowMs : Nat) : Except PluginHostError RunProgress :=
  match notification with
  | .pluginStarted params =>
    .ok { progress with
      status := .running
      sequence := max progress.sequence params.sequence
      summary := params.summary }
  -- the result is stored only if its plan passes the validator
  | .pluginCompleted params =>
    match ApplyPlanValidator.validate params.result params.runId runMap nowMs with
    | .error error => .error error
    | .ok _ =>
      .ok { progress with
        status := .completed
        sequence := max progress.sequence params.sequence
        summary := some "completed"
        result := some params.result }
  | .pluginCancelled params =>
    .ok { progress with
      status := .cancelled
      sequence := max progress.sequence params.sequence
      summary := some params.summary }
  | .pluginFailed params =>
    .ok { progress with
      status := .failed
      sequence := max progress.sequence params.sequence
      summary := some params.summary
      failure := some params.failure }
  | .other => .ok progress

/-- The status written for a wait snapshot; any text but these three leaves it alone. -/
def applySnapshot (status : String) (progress : RunProgress) : RunProgress :=
  if status = "completed" then { progress with status := .completed }
  else if status = "failed" then { progress with status := .failed }
  else if status = "cancelled" then { progress with status := .cancelled }
  else progress

/-! ## The conversation -/

/-- One turn of the receive loop as the environment decides it: the error a background job left,
the next line or the failure to get one, whether an answer to the plugin could be written, and
the run map and the clock at that moment. -/
structure Arrival where
  background : Option PluginHostError := none
  message : Except PluginHostError RpcEnvelope
  answered : Except PluginHostError Unit := .ok ()
  runMap : RunMap := .empty
  nowMs : Nat := 0

/-- Why the host's view of the run changed. -/
inductive Signal where
  /-- A notification that was accepted, with the run map and the clock it was checked against. -/
  | notified (notification : Notification) (runMap : RunMap) (nowMs : Nat)
  /-- The status text of a wait snapshot. -/
  | snapshot (status : String)
  /-- The start request was answered. -/
  | startAnswered
  /-- The host's own cancellation flag was seen. -/
  | hostCancelled

/-- The progress of the run and the record of what made it. -/
structure View where
  progress : RunProgress := {}
  heard : List Signal := []

def View.hear (view : View) (signal : Signal) (progress : RunProgress) : View where
  progress := progress
  heard := view.heard ++ [signal]

/-- The receive loop of `request_and_dispatch`.  It ends with the response to the request `id` or
with an error; `none` is a conversation that has not got there yet. -/
def dispatch (id : String) :
    View → List Arrival → Option (Except PluginHostError (Response × View × List Arrival))
  | _, [] => none
  | view, arrival :: rest =>
    match arrival.background with
    | some error => some (.error error)
    | none =>
      match arrival.message with
      | .error error => some (.error error)
      | .ok (.response response) =>
        -- the response to another request is dropped
        if idMatches response.id id then some (.ok (response, view, rest))
        else dispatch id view rest
      | .ok .request =>
        match arrival.answered with
        | .error error => some (.error error)
        | .ok _ => dispatch id view rest
      | .ok (.notification notification) =>
        match applyNotification notification view.progress arrival.runMap arrival.nowMs with
        | .error error => some (.error error)
        | .ok progress =>
          dispatch id (view.hear (.notified notification arrival.runMap arrival.nowMs) progress)
            rest

/-- `request_and_dispatch`: write the request, then receive until it is answered. -/
def requestAndDispatch (id : String) (sent : Except PluginHostError Unit) (view : View)
    (arrivals : List Arrival) :
    Option (Except PluginHostError (Response × View × List Arrival)) :=
  match sent with
  | .error error => some (.error error)
  | .ok _ => dispatch id view arrivals

/-- What a run depends on: whether the plugin could be spawned, what arrives from it, the result
of writing the `k`-th request, the cancellation flag as the `k`-th turn of the wait loop reads it,
and the background error and the transcript found when the loop is over. -/
structure Environment where
  spawned : Except PluginHostError Unit := .ok ()
  arrivals : List Arrival
  sent : Nat → Except PluginHostError Unit := fun _ => .ok ()
  cancelled : Nat → Bool := fun _ => false
  background : Option PluginHostError := none
  protocol : Option String := none

variable (env : Environment) {arrivals rest : List Arrival} {view view' : View} {id : String}
  {turn : Nat}

/-- What one wait request does to the view. -/
def waitOnce (turn : Nat) (view : View) (arrivals : List Arrival) :
    Option (Except PluginHostError (View × List Arrival)) :=
  match requestAndDispatch "mcts-run-wait" (env.sent (turn + 2)) view arrivals with
  | none => none
  | some (.error error) => some (.error error)
  | some (.ok (response, view, rest)) =>
    match ensureResponseOk response with
    | .error error => some (.error error)
    | .ok _ =>
      match response.result with
      | none => some (.error (.invalidResponse "missing wait result"))
      | some value =>
        match WaitSnapshot.fromValue value with
        | .error error => some (.error error)
        | .ok snapshot =>
          some (.ok (view.hear (.snapshot snapshot.status)
            (applySnapshot snapshot.status view.progress), rest))

/-- The wait loop of `run_loop`.  Every turn that goes on consumes an arrival, so a `fuel` above
the number of arrivals never runs out. -/
def waitLoop (env : Environment) :
    Nat → Nat → View → List Arrival → Option (Except PluginHostError View)
  | 0, _, _, _ => none
  | fuel + 1, turn, view, arrivals =>
    if view.progress.isTerminal then some (.ok view)
    else if env.cancelled turn then
      some (.ok (view.hear .hostCancelled
        { view.progress with status := .cancelled, summary := some "cancelled by host" }))
    else
      match waitOnce env turn view arrivals with
      | none => none
      | some (.error error) => some (.error error)
      | some (.ok (view, rest)) => waitLoop env fuel (turn + 1) view rest

/-- The status after the start request was answered. -/
def afterStart (view : View) : View :=
  if view.progress.status = .accepted then
    view.hear .startAnswered { view.progress with status := .running }
  else
    view

/-- `run_loop`, with the record of what the outcome is made of. -/
def runLoop :
    Option (Except PluginHostError (MctsRunOutcome × List Signal)) :=
  match env.spawned with
  | .error error => some (.error error)
  | .ok _ =>
    match requestAndDispatch "mcts-run-initialize" (env.sent 0) {} env.arrivals with
    | none => none
    | some (.error error) => some (.error error)
    | some (.ok (response, view, rest)) =>
      match ensureResponseOk response with
      | .error error => some (.error error)
      | .ok _ =>
        match requestAndDispatch "mcts-run-start" (env.sent 1) view rest with
        | none => none
        | some (.error error) => some (.error error)
        | some (.ok (response, view, rest)) =>
          match ensureResponseOk response with
          | .error error => some (.error error)
          | .ok _ =>
            match waitLoop env (rest.length + 1) 0 (afterStart view) rest with
            | none => none
            | some (.error error) => some (.error error)
            | some (.ok view) =>
              match env.background with
              | some error => some (.error error)
              | none =>
                some (.ok ({ view.progress with protocol := env.protocol }.intoOutcome, view.heard))

/-! ## Answers to wait requests -/

theorem dispatch_of_request {sent answer}
    (hreq : requestAndDispatch id sent view arrivals = some (.ok answer)) :
    dispatch id view arrivals = some (.ok answer) := by
  unfold requestAndDispatch at hreq
  split at hreq
  · simp at hreq
  · exact hreq

/-- A wait request that goes on was answered, and its snapshot was applied to what the host knew
when the answer came. -/
theorem dispatch_of_waitOnce {env}
    (hwait : waitOnce env turn view arrivals = some (.ok (view', rest))) :
    ∃ response answered status,
      dispatch "mcts-run-wait" view arrivals = some (.ok (response, answered, rest)) ∧
      view' = answered.hear (.snapshot status) (applySnapshot status answered.progress) := by
  unfold waitOnce at hwait
  split at hwait
  · simp at hwait
  · simp at hwait
  · rename_i response answered rest' hreq
    have hdisp := dispatch_of_request hreq
    grind

end XGovernor.Mcts
