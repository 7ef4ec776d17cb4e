import XGovernor.App.Sessions

/-!
# Turns

A submitted turn claims its session at the gate before it reaches the runtime; the task that
forwards the runtime's events gives the session back.  The terminal event of a split turn is a
durability boundary: the task first writes the runtime's state and the new status of the session,
then lets the client see the event.
-/

namespace XGovernor.App

open Domain Joint Manager Lib Prog

variable (config : Config) (ctx : SecurityContext)

/-! ## The forwarding task of a split turn -/

/-- The status a terminal event leaves its session in. -/
def terminalStatus : RuntimeEvent → SessionStatus
  | .failed _ => .failed
  | _ => .idle

/-- What is persisted before a terminal event is forwarded. -/
def persistTerminal (kind runtimeId : String) (event : RuntimeEvent) : AppM Unit := do
  let exported : Except RuntimeError OpaqueRuntimeState ←
    perform (.runtime kind .forward (.exportState runtimeId))
  let state : Option OpaqueRuntimeState ←
    match exported.mapError mapRuntimeError with
    | .ok state => pure (some state)
    | .error (.unsupportedCapability _ _) => pure none
    | .error error => .fail error
  match ← orFail (← perform (.getSession .forward runtimeId)) with
  | none => .fail (.notFound runtimeId)
  | some record => do
    let described : Except RuntimeError (Option ResolvedLlm) ←
      perform (.runtime kind .forward (.describeLlm runtimeId))
    let llm ← orFail (described.mapError mapRuntimeError)
    let now : Nat ← perform (.now .forward)
    orFail (← perform (.saveSession .forward
      { record with
        runtime := state.getD record.runtime
        llm := llm.or record.llm
        status := terminalStatus event
        updatedAtMs := now }))

/-- A terminal event whose state could not be persisted is forwarded as a failure. -/
def forwardedEvent (event : RuntimeEvent) : Except SessionDomainError Unit → RuntimeEvent
  | .ok () => event
  | .error error => .failed
    { code := "runtime_state_persist_failed", message := error.text, retryable := true }

/-- Reads the stream of an abandoned turn to its end. -/
def drain : (index : Nat) → List RuntimeEvent → AppM Unit
  | index, [] => perform (.receive index)
  | index, _ :: events => do
    perform (.receive index)
    drain (index + 1) events

/-- The forwarding loop; the runtime still delivers `events`, and then its stream ends. -/
def forwardFrom (kind runtimeId turnId : String) : (index : Nat) → List RuntimeEvent → AppM Unit
  | index, [] => do
    perform (.receive index)
    let _ ← perform (.send index (.failed
      { code := "event_stream_closed",
        message := "runtime event stream closed before a terminal event", retryable := true }))
    perform (.release runtimeId turnId)
  | index, event :: events => do
    perform (.receive index)
    if event.isTerminal then do
      let persisted ← (Prog.attempt (persistTerminal kind runtimeId event) : AppM _)
      perform (.release runtimeId turnId)
      let _ ← perform (.send index (forwardedEvent event persisted))
      perform (.release runtimeId turnId)
    else do
      let delivered : Bool ← perform (.send index event)
      if delivered then
        forwardFrom kind runtimeId turnId (index + 1) events
      else do
        -- nobody reads the stream any more: stop the work and drain the rest
        let _ ← perform (.runtime kind .forward (.cancel runtimeId (some turnId)))
        drain (index + 1) events
        perform (.release runtimeId turnId)

/-- The task spawned for a split turn, with all the events its runtime will deliver. -/
def forward (kind runtimeId turnId : String) (events : List RuntimeEvent) : AppM Unit :=
  forwardFrom kind runtimeId turnId 0 events

/-! ## Split turns -/

variable (request : SessionTurnRequest)

/-- A turn that is not a replay: claim the session, then submit. -/
def startTurn (kind : String) : AppM SessionSubmission := do
  let runtimeId := request.runtimeId
  let turnId : String ← perform (.nextTurnId .turn)
  match ← perform (.claim runtimeId turnId) with
  | .error active => .fail (.conflict ("another turn is active on this session: " ++ active))
  | .ok () => do
    let submitted : Except RuntimeError Unit ← perform (.runtime kind .turn (.submitTurn
      { runtimeId, turnId, text := request.text, llm := request.llm,
        reasoningEffort := request.reasoningEffort, ext := request.ext }))
    match submitted.mapError mapRuntimeError with
    | .error error => do
      perform (.release runtimeId turnId)
      .fail error
    | .ok () => do
      match request.clientRequestId with
      | some clientRequestId => perform (.rememberReceipt runtimeId clientRequestId turnId)
      | none => pure ()
      perform (.spawn (.turn kind runtimeId turnId))
      pure { receipt := { runtimeId, turnId, acceptedKind := .turn }, hasEvents := true }

variable (record : SessionRecord)

/-- The split part of `submit_turn`. -/
def submitSplitTurn :
    AppM SessionSubmission := do
  let registration ← orFail (registrationForRecord config record)
  orFail ((registration.validateLlmConfig request.llm).mapError mapRuntimeError)
  ensureRuntimeAttached config record
  checkLeaseHolder config request.runtimeId request.lease
  require (request.llm.isNone || record.capabilities.runtime.contains .modelOverride)
    (unsupportedRuntimeCapability "model_override")
  require
    (request.reasoningEffort.isNone || record.capabilities.runtime.contains .reasoningControl)
    (unsupportedRuntimeCapability "reasoning_control")
  let replayed : Option String ←
    match request.clientRequestId with
    | some clientRequestId => perform (.replayedReceipt request.runtimeId clientRequestId)
    | none => pure none
  match replayed with
  | some turnId =>
    pure { receipt := { runtimeId := request.runtimeId, turnId, acceptedKind := .turn },
           hasEvents := false }
  | none => startTurn request record.runtime.runtimeKind

/-! ## Joint turns -/

/-- The event a finished joint turn ends with. -/
def jointTerminalEvent : Except SessionDomainError JointTurnTerminal → RuntimeEvent
  | .ok terminal =>
    if terminal.cancelled then
      .completed .cancelled
    else
      match terminal.failure with
      | none => .completed .complete
      | some failure => .failed { code := "message_failed", message := failure, retryable := false }
  | .error _ => .failed
    { code := "message_unresolved",
      message := "Message observation unresolved; execution protection retained",
      retryable := false }

/-- The task spawned for a joint turn. -/
def forwardJoint (turnId : String) : AppM Unit := do
  let result : Except SessionDomainError JointTurnTerminal ←
    perform (.owner (.awaitTurn record turnId))
  match result with
  | .ok { cancelled := false, failure := none, reply := some delta, .. } => do
    let _ ← perform (.send 0 (.outputDelta "assistant" 1 delta))
    pure ()
  | _ => pure ()
  perform (.release record.runtimeId turnId)
  let _ ← perform (.send 1 (jointTerminalEvent result))
  pure ()

/-- `submit_joint_turn`: the owner admits the turn durably, then the gate is set. -/
def submitJointTurn (binding : JointBinding) (request : SessionTurnRequest)
    : AppM SessionSubmission := do
  checkLeaseHolder config record.runtimeId request.lease
  let _ ← orFail (jointOwner config record.runtime.runtimeKind binding)
  let context ← jointContext ctx record binding .turn none none
  let turnId : String ← perform (.nextTurnId .turn)
  let submitted ← orFail (← perform (.owner (.submitTurn context record request turnId)))
  let receipt : SessionSubmitReceipt :=
    { runtimeId := record.runtimeId, turnId := submitted.turnId, acceptedKind := .turn }
  if submitted.hasTerminal then do
    perform (.occupy record.runtimeId submitted.turnId)
    perform (.spawn (.jointTurn record submitted.turnId))
    pure { receipt, hasEvents := true }
  else
    pure { receipt, hasEvents := false }

/-- `submit_turn`. -/
def submitTurn : AppM SessionSubmission := do
  let record ← requireSession ctx .lookup request.runtimeId
  match record.executionBacking.joint with
  | some binding => submitJointTurn config ctx record binding request
  | none => submitSplitTurn config request record

end XGovernor.App
