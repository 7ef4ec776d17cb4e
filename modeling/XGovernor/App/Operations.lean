import XGovernor.App.Sessions

/-!
# Operations in the sandbox of a session

Executing a command, reading and writing a file.  A split session is served by the instance its
manager has registered, a joint session by the Host backend of its owner; in both cases the call
holds the session at the gate until it is over.
-/

namespace XGovernor.App

open Domain Joint Manager Lib Prog

variable (config : Config) (ctx : SecurityContext)

/-! ## Access -/

/-- `{capability:?}`. -/
def sandboxCapabilityDebug : SandboxCapability → String
  | .exec => "Exec"
  | .fileRead => "FileRead"
  | .fileWrite => "FileWrite"
  | .pause => "Pause"
  | .snapshot => "Snapshot"
  | .network => "Network"

/-- The session offers the capability, and its workspace may be changed if that is asked for. -/
def checkSandboxAccess (record : SessionRecord) (capability : SandboxCapability) :
    Except SessionDomainError Unit := do
  ensure (record.capabilities.sandbox.contains capability)
    (.unsupportedCapability .sandbox (sandboxCapabilityDebug capability))
  ensure (!(capability = .exec || capability = .fileWrite) || record.workspace.access = .readWrite)
    (.invalidRequest "workspace is read-only")

/-- `operation_backend`, and the rest of the call under its guard. -/
def operationBackend {α : Type} (config : Config) (ctx : SecurityContext) (runtimeId : String)
    (lease : SessionLeaseClaim) (capability : SandboxCapability)
    (rest : OperationBackend → AppM α) : AppM α := do
  let record ← requireSession ctx .lookup runtimeId
  orFail (rejectJointResource record "operation_backend")
  checkLeaseHolder config runtimeId lease
  orFail (checkSandboxAccess record capability)
  claimOperation runtimeId do
    let registration ← orFail (registrationForRecord config record)
    let (_, key) ← orFail (providerForIsolation registration record.isolation)
    let backend ← orFail
      ((← manager key .operation (backendFor runtimeId)).mapError mapProviderError)
    rest backend

def hostInvalid (message : String) : SessionDomainError :=
  .invalidRequest message

/-- The checks of `joint_host_access` on the request itself. -/
def checkHostRequest : JointHostRequest → Except SessionDomainError Unit
  | .exec request => do
    ensure (decide (0 < request.timeoutMs ∧ request.timeoutMs ≤ 3600000))
      (hostInvalid "timeout_ms must be between 1 and 3600000")
    ensure (!isBlank request.command) (hostInvalid "command must contain a nonempty executable")
  | _ => .ok ()

/-- `joint_host_access`, and the rest of the call under its guard. -/
def jointHostAccess {α : Type} (config : Config) (ctx : SecurityContext) (runtimeId : String)
    (lease : SessionLeaseClaim) (capability : SandboxCapability) (request : JointHostRequest)
    (rest : SessionRecord → AppM α) : AppM α := do
  let record ← requireSession ctx .lookup runtimeId
  checkLeaseHolder config runtimeId lease
  orFail (checkSandboxAccess record capability)
  orFail (checkHostRequest request)
  match record.executionBacking.joint with
  | none => .fail (unsupportedJoint "host_route")
  | some binding => do
    let _ ← orFail (jointOwner config record.runtime.runtimeKind binding)
    claimOperation runtimeId do
      let context ← jointContext ctx record binding (.other "host") none none
      orFail (← perform (.owner (.prepareHost context record request)))
      rest record

/-! ## Commands -/

/-- A requested directory is resolved in the workspace; the default is its root. -/
def resolveCwd (backend : OperationBackend) (cwd : Option String) : AppM String :=
  match cwd with
  | none => pure backend.workspaceRoot
  | some rawPath => do
    let resolved : Except OperationError String ←
      perform (.operation .prepare (.resolvePath rawPath))
    orFail (resolved.mapError mapOperationError)

/-- The executable of a command and its arguments. -/
def splitCommand : List String → Except SessionDomainError (String × List String)
  | [] => .error (.invalidRequest "command must contain a nonempty executable")
  | command :: args =>
    if isBlank command then
      .error (.invalidRequest "command must contain a nonempty executable")
    else
      .ok (command, args)

/-- `exec`. -/
def exec (request : SessionExecRequest) : AppM SessionExecResult := do
  let record ← requireSession ctx .route request.runtimeId
  if record.executionBacking.joint.isSome then do
    let exec : ExecRequest :=
      { command := request.command.headD "", args := request.command.drop 1, cwd := request.cwd,
        env := request.env, timeoutMs := request.timeoutMs.getD 30000 }
    jointHostAccess config ctx request.runtimeId request.lease .exec (.exec exec) fun record => do
      let result : Except OperationError SessionExecResult ←
        perform (.owner (.hostOperation record (.exec exec)))
      orFail (result.mapError mapOperationError)
  else
    operationBackend config ctx request.runtimeId request.lease .exec fun backend => do
      require (request.timeoutMs.all fun ms => decide (0 < ms ∧ ms ≤ 3600000))
        (.invalidRequest "timeout_ms must be between 1 and 3600000")
      let (command, args) ← orFail (splitCommand request.command)
      let cwd ← resolveCwd backend request.cwd
      let result : Except OperationError SessionExecResult ←
        perform (.operation .operation (.exec
          { command, args, cwd := some cwd, env := request.env,
            timeoutMs := request.timeoutMs.getD 30000 }))
      orFail (result.mapError mapOperationError)

/-! ## Files -/

/-- `read_file`. -/
def readFile (request : SessionFileReadRequest) : AppM SessionFileReadResult := do
  let record ← requireSession ctx .route request.runtimeId
  if record.executionBacking.joint.isSome then
    jointHostAccess config ctx request.runtimeId request.lease .fileRead (.read request.path)
      fun record => do
        let resolved : Except OperationError String ←
          perform (.owner (.hostOperation record (.resolvePath request.path)))
        let path ← orFail (resolved.mapError mapOperationError)
        let bytes : Except OperationError (List UInt8) ←
          perform (.owner (.hostOperation record (.readBytes path)))
        let content ← orFail (bytes.mapError mapOperationError)
        pure { path, content }
  else
    operationBackend config ctx request.runtimeId request.lease .fileRead fun _ => do
      let resolved : Except OperationError String ←
        perform (.operation .prepare (.resolvePath request.path))
      let path ← orFail (resolved.mapError mapOperationError)
      let bytes : Except OperationError (List UInt8) ←
        perform (.operation .operation (.readBytes path))
      let content ← orFail (bytes.mapError mapOperationError)
      pure { path, content }

/-- The directory of a path: what stands before its last slash. -/
def parentPath (path : String) : Option String :=
  match (splitSlash path).dropLast with
  | [] => none
  | parts => some ("/".intercalate parts)

variable (request : SessionFileWriteRequest)

/-- The parent directory of a file to be written, if it has to be created. -/
def createParent (path : String) : AppM Unit :=
  match (parentPath path).filter fun parent => request.createParents && parent ≠ "" with
  | none => pure ()
  | some parent => do
    let created : Except OperationError Unit ←
      perform (.operation .start (.createDirAll parent))
    orFail (created.mapError mapOperationError)

def decodeContent : Except SessionDomainError (List UInt8) :=
  match config.decodeBase64 request.contentBase64 with
  | some content => .ok content
  | none => .error (.invalidRequest "content_base64 is not valid base64")

/-- `write_file`. -/
def writeFile : AppM SessionFileWriteResult := do
  let record ← requireSession ctx .route request.runtimeId
  if record.executionBacking.joint.isSome then do
    let content ← orFail (decodeContent config request)
    let hostRequest := JointHostRequest.write request.path content request.createParents
    jointHostAccess config ctx request.runtimeId request.lease .fileWrite hostRequest
      fun record => do
        let resolved : Except OperationError String ←
          perform (.owner (.hostOperation record (.resolvePath request.path)))
        let path ← orFail (resolved.mapError mapOperationError)
        let bytesWritten ← orFail (← perform (.owner (.writeHost record hostRequest)))
        pure { path, bytesWritten }
  else
    operationBackend config ctx request.runtimeId request.lease .fileWrite fun _ => do
      let content ← orFail (decodeContent config request)
      let resolved : Except OperationError String ←
        perform (.operation .prepare (.resolvePath request.path))
      let path ← orFail (resolved.mapError mapOperationError)
      createParent request path
      let written : Except OperationError Unit ←
        perform (.operation .operation (.writeBytes path content))
      orFail (written.mapError mapOperationError)
      pure { path, bytesWritten := content.length }

end XGovernor.App
