import XGovernor.Lib.Typestate
import XGovernor.Manager.State
import XGovernor.Docker.Call

/-!
# Creating and collecting Docker containers

The Docker provider gives every creation request a container name of its own, so that a request
that is made again finds the container of its first attempt.  The journal keeps, under that name,
how far the creation came and when it was written last.  A monitor removes containers that no row
of the ledger owns, if their creation is on record and old enough.

The daemon, the journal and the ledger are the shared state; every access is an effect, and the
daemon may answer as it likes.
-/

namespace XGovernor.Docker

open Domain Lib Manager Prog

/-! ## Requests -/

inductive DockerNetworkMode where
  | none
  | default
  | bridge
  deriving DecidableEq

structure DockerProviderOptions where
  workspace : Option String := Option.none
  networkMode : DockerNetworkMode := .default
  bootstrap : Bool := false
  deriving DecidableEq

namespace DockerProviderOptions

def workspaceRoot (options : DockerProviderOptions) : String :=
  options.workspace.getD "/workspace"

/-- `char::is_control`. -/
def isControl (c : Char) : Bool :=
  c.toNat < 32 || (127 ≤ c.toNat && c.toNat ≤ 159)

/-- `validate_workspace_root`. -/
def validateWorkspaceRoot (root : String) : Except ProviderControlError Unit :=
  let parts := root.toList.tail.splitOn '/'
  if root.toList.head? ≠ some '/' || root.toList.any isControl ||
      (root ≠ "/" && parts.any fun part => part = [] || part = ['.'] || part = ['.', '.']) then
    .error (.invalidRequest
      "Docker workspace_root must be a normalized absolute container directory")
  else .ok ()

/-- The fields of the options; `none` stands for the error of the deserializer. -/
def ofFields (fields : List (String × Json)) : Option DockerProviderOptions :=
  fields.foldl (fun options field =>
    match options, field with
    | some options, ("workspace_root", .null) => some { options with workspace := none }
    | some options, ("workspace_root", .string root) => some { options with workspace := some root }
    | some options, ("network_mode", .string "none") => some { options with networkMode := .none }
    | some options, ("network_mode", .string "default") =>
      some { options with networkMode := .default }
    | some options, ("network_mode", .string "bridge") =>
      some { options with networkMode := .bridge }
    | some options, ("bootstrap", .bool bootstrap) => some { options with bootstrap }
    | _, _ => none) (some {})

/-- `DockerProviderOptions::parse`; the text of the deserializer is not part of the source. -/
def parse (value : Json) : Except ProviderControlError DockerProviderOptions := do
  let options ←
    match value with
    | .null => pure {}
    | .object fields =>
      match ofFields fields with
      | some options => pure options
      | none => throw (.invalidRequest "invalid Docker provider_options")
    | _ => throw (.invalidRequest "invalid Docker provider_options")
  validateWorkspaceRoot options.workspaceRoot
  if options.bootstrap && options.workspaceRoot = "/" then
    throw (.invalidRequest "Docker bootstrap cannot use / as workspace_root")
  return options

end DockerProviderOptions

/-! ## The daemon, the journal and the ledger -/

/-- A container has one name and one number for its life. -/
structure ContainerId where
  name : String
  serial : Nat
  deriving DecidableEq

/-- What an inspection of a container shows.  `policy` says that its configuration is the one
that the controlled policy asks for. -/
structure Inspection where
  id : ContainerId
  deployment : String
  owner : String
  request : String
  network : Option String
  workspace : String
  bootstrapped : Bool
  image : String
  policy : Bool
  running : Bool
  deriving DecidableEq

/-- The states of a creation in the journal. -/
inductive CreationState where
  | creating
  | created
  | closed
  deriving DecidableEq

structure JournalRow where
  state : CreationState
  updatedMs : Nat
  deriving DecidableEq

/-- The creation is on record and not closed. -/
def JournalRow.pending (row : JournalRow) : Bool :=
  row.state = .creating || row.state = .created

structure DockerConfig where
  deployment : String
  image : String
  reserveBytes : Nat
  maxContainers : Nat
  /-- The name made from the deployment and the digest of owner and request. -/
  containerName : String → String → String

/-- `clock` is the clock of the journal.  `returned` is not part of the program: it lists the
containers that creations returned, with the time of the return. -/
structure Daemon where
  clock : Nat
  locked : Bool
  containers : List Inspection
  serial : Nat
  journal : String → Option JournalRow
  controls : ContainerId → ContainerState
  ledger : List ContainerId
  returned : List (ContainerId × Nat)

/-- How the outside answers one effect: how long it takes, whether a command fails, and whether a
command that fails takes effect all the same. -/
structure Answer where
  elapsed : Nat := 0
  failure : Option String := none
  effective : Bool := true
  freeBytes : Nat := 0
  imageId : String := ""
  policy : Bool := true

def Answer.reply {α : Type} (ω : Answer) (a : α) : Except ProviderControlError α :=
  match ω.failure with
  | none => .ok a
  | some message => .error (.transport message)

def Answer.takesEffect (ω : Answer) : Bool :=
  ω.failure.isNone || ω.effective

inductive Ref where
  | name (name : String)
  | id (id : ContainerId)
  deriving DecidableEq

def Ref.refers : Ref → ContainerId → Bool
  | name n, c => c.name = n
  | id i, c => c = i

def Ref.text : Ref → String
  | name n => n
  | id i => i.name

/-- What the other tasks of the provider and the rest of the host do to a container. -/
inductive Outside where
  | removed (id : ContainerId)
  | stopped (id : ContainerId)
  | control (id : ContainerId) (state : ContainerState)
  deriving DecidableEq

/-- What `docker create` is asked for. -/
structure CreateSpec where
  name : String
  owner : String
  request : String
  network : Option String
  workspace : String
  bootstrapped : Bool
  image : String
  deriving DecidableEq

inductive Effect where
  | lockCreation
  | unlockCreation
  | freeBytes
  | inspect (ref : Ref)
  | listInstances
  | imageInspect (image : String)
  | create (spec : CreateSpec)
  | start (ref : Ref)
  | remove (ref : Ref)
  | bootstrap (name workspace : String)
  | journalState (name : String)
  | journalSet (name : String) (state : CreationState)
  | abandonedCreate (name : String)
  | controlState (id : ContainerId)
  | controlSet (id : ContainerId) (state : ContainerState)
  /-- The creation is journalled as done and the container is returned. -/
  | publish (id : ContainerId)
  /-- A container that was found is returned. -/
  | respond (id : ContainerId)
  | ledgerIds
  | record (id : ContainerId)
  | outside (change : Outside)
  deriving DecidableEq

@[reducible] def Effect.Reply : Effect → Type
  | lockCreation | unlockCreation | journalSet _ _ | publish _ | respond _ | record _
  | outside _ => Unit
  | freeBytes => Except ProviderControlError Nat
  | inspect _ => Except ProviderControlError Inspection
  | listInstances => Except ProviderControlError (List ContainerId)
  | imageInspect _ => Except ProviderControlError String
  | create _ | start _ | remove _ | bootstrap _ _ => Except ProviderControlError Unit
  | journalState _ => Option CreationState
  | abandonedCreate _ => Bool
  | controlState _ => ContainerState
  | controlSet _ _ => Except ProviderControlError Unit
  | ledgerIds => List ContainerId

namespace Daemon

variable (d : Daemon)

def find (ref : Ref) : Option Inspection :=
  d.containers.find? fun container => ref.refers container.id

variable (config : DockerConfig)

/-- `raw_inspect`. -/
def rawInspect (d : Daemon) (ref : Ref) :
    Except ProviderControlError Inspection :=
  match d.find ref with
  | none => .error (.notFound ref.text)
  | some container =>
    if container.deployment ≠ config.deployment then
      .error (.invalidRequest "container belongs to another deployment")
    else .ok container

def setRunning (ref : Ref) (running : Bool) : Daemon :=
  { d with containers := d.containers.map fun container =>
      if ref.refers container.id then { container with running } else container }

def removeContainer (ref : Ref) : Daemon :=
  { d with containers := d.containers.filter fun container => !ref.refers container.id }

def addContainer (ω : Answer) (d : Daemon) (spec : CreateSpec) : Daemon :=
  { d with
    serial := d.serial + 1
    containers :=
      { id := ⟨spec.name, d.serial⟩, deployment := config.deployment, owner := spec.owner,
        request := spec.request, network := spec.network, workspace := spec.workspace,
        bootstrapped := spec.bootstrapped, image := spec.image, policy := ω.policy,
        running := false } :: d.containers }

/-- `Journal::set`. -/
def journalSet (name : String) (state : CreationState) : Daemon :=
  { d with journal := Function.update d.journal name (some ⟨state, d.clock⟩) }

/-- `Journal::abandoned_create` for the rows that were last written more than five minutes ago. -/
def abandonedCreate (name : String) : Bool :=
  match d.journal name with
  | some row => row.pending && row.updatedMs < d.clock - 300000
  | none => false

def noteReturned (id : ContainerId) : Daemon :=
  { d with returned := (id, d.clock) :: d.returned }

/-- `Control::set`, through the journal. -/
def controlSet (id : ContainerId) (state : ContainerState) :
    Except ProviderControlError Unit × Daemon :=
  match (d.controls id).set state with
  | .ok state => (.ok (), { d with controls := Function.update d.controls id state })
  | .error message => (.error (.transport message), d)

def outside : Outside → Daemon
  | .removed id => d.removeContainer (.id id)
  | .stopped id => d.setRunning (.id id) false
  | .control id state => (d.controlSet id state).2

/-- One effect at the time it takes place. -/
def act (ω : Answer) (d : Daemon) : (e : Effect) → e.Reply × Daemon
  | .lockCreation => ((), { d with locked := true })
  | .unlockCreation => ((), { d with locked := false })
  | .freeBytes => (ω.reply ω.freeBytes, d)
  | .inspect ref =>
    (match ω.failure with
      | none => d.rawInspect config ref
      | some message => .error (.transport message), d)
  | .listInstances =>
    (ω.reply ((d.containers.filter fun container =>
      container.deployment = config.deployment).map Inspection.id), d)
  | .imageInspect _ => (ω.reply ω.imageId, d)
  | .create spec =>
    -- A name is taken by one container at a time.
    if (d.find (.name spec.name)).isSome then (.error (.transport "Conflict"), d)
    else (ω.reply (), if ω.takesEffect then d.addContainer config ω spec else d)
  | .start ref => (ω.reply (), if ω.takesEffect then d.setRunning ref true else d)
  | .remove ref => (ω.reply (), if ω.takesEffect then d.removeContainer ref else d)
  | .bootstrap _ _ => (ω.reply (), d)
  | .journalState name => ((d.journal name).map JournalRow.state, d)
  | .journalSet name state => ((), d.journalSet name state)
  | .abandonedCreate name => (d.abandonedCreate name, d)
  | .controlState id => (d.controls id, d)
  | .controlSet id state => d.controlSet id state
  | .publish id => ((), (d.journalSet id.name .created).noteReturned id)
  | .respond id => ((), d.noteReturned id)
  | .ledgerIds => (d.ledger, d)
  | .record id => ((), { d with ledger := id :: d.ledger })
  | .outside change => ((), d.outside change)

/-- Time passes until the effect takes place. -/
def handle (ω : Answer) (d : Daemon) (e : Effect) : e.Reply × Daemon :=
  { d with clock := d.clock + ω.elapsed }.act config ω e

/-- The creation lock has to be waited for. -/
def enabled : Effect → Prop
  | .lockCreation => d.locked = false
  | _ => True

instance (d : Daemon) (e : Effect) : Decidable (d.enabled e) := by
  unfold enabled
  split <;> infer_instance

end Daemon

/-! ## The provider -/

abbrev ProviderM (α : Type) := Prog Daemon Effect Effect.Reply ProviderControlError α

/-- One effect. -/
def perform (e : Effect) : ProviderM e.Reply :=
  Prog.effect e

/-- A program under the creation lock. -/
def withCreationLock {α : Type} (p : ProviderM α) : ProviderM α := do
  perform .lockCreation
  p.guarded .unlockCreation ({ · with locked := false })

variable (config : DockerConfig) (value : Inspection)

/-- `validate_container`. -/
def validateContainer (expectedImage : Option String) :
    Except ProviderControlError Unit :=
  if expectedImage.any (· ≠ value.image) || !value.policy then
    .error (.invalidRequest "container configuration differs from the controlled Docker policy")
  else .ok ()

/-- `validate_requested_network_mode`. -/
def validateRequestedNetworkMode (requested : DockerNetworkMode) :
    Except ProviderControlError Unit :=
  let accepted : Bool :=
    match requested with
    | .none => value.network = some "none"
    | .default => value.network = some "default" || value.network = some "bridge"
    | .bridge => value.network = some "bridge"
  if accepted then .ok ()
  else .error (.invalidRequest
    "existing container network mode differs from the requested Docker network_mode")

/-- `validate_requested_workspace`. -/
def validateRequestedWorkspace (root : String) :
    Except ProviderControlError Unit :=
  if value.workspace ≠ root then
    .error (.invalidRequest
      "existing container workspace differs from the requested Docker workspace_root")
  else .ok ()

variable (name : String)

/-- A container that is found stopped is started. -/
def ensureRunning (running : Bool) : ProviderM Unit :=
  if running then pure () else do
    orFail (← perform (.start (.name name)))

/-- A container that is found is bootstrapped unless its creation was journalled as done. -/
def ensureBootstrapped (options : DockerProviderOptions) : ProviderM Unit :=
  if options.bootstrap then do
    let state ← perform (.journalState name)
    if state = some .created then pure () else do
      orFail (← perform (.bootstrap name options.workspaceRoot))
      perform (.journalSet name .created)
  else pure ()

variable (request : ProviderCreateRequest)

/-- A container of that name exists: it is checked against the request and returned. -/
def createExisting (requestId name : String)
    (options : DockerProviderOptions) (value : Inspection) : ProviderM ContainerId := do
  require (value.owner = request.ownerRef ∧ value.request = requestId)
    (.invalidRequest "creation identity mismatch")
  orFail (validateContainer value none)
  orFail (validateRequestedNetworkMode value options.networkMode)
  orFail (validateRequestedWorkspace value options.workspaceRoot)
  require (value.bootstrapped = options.bootstrap)
    (.invalidRequest "existing container bootstrap differs from request")
  let state ← perform (.controlState value.id)
  require (!state.guarded) (.transport "container is stopped by lifecycle protection")
  ensureRunning name value.running
  ensureBootstrapped name options
  let value ← orFail (← perform (.inspect (.name name)))
  perform (.respond value.id)
  return value.id

/-- `docker create`.  A response that was lost is resolved by the name. -/
def createNamed (spec : CreateSpec) : ProviderM Unit := do
  match ← perform (.create spec) with
  | .ok _ => pure ()
  | .error error =>
    match ← perform (.inspect (.name spec.name)) with
    | .ok _ => pure ()
    | .error _ => Prog.fail error

/-- A container that does not become what was asked for is removed before the error is returned. -/
def orRemove {α : Type} (name : String) (result : Except ProviderControlError α) : ProviderM α :=
  match result with
  | .ok a => pure a
  | .error error => do
    let _ ← perform (.remove (.name name))
    Prog.fail error

/-- A container that is not made from a snapshot is bootstrapped if the request says so. -/
def bootstrapFresh (options : DockerProviderOptions) (source : Option String) :
    ProviderM Unit :=
  if options.bootstrap && source.isNone then do
    orRemove name (← perform (.bootstrap name options.workspaceRoot))
  else pure ()

def networkArg : DockerNetworkMode → Option String
  | .none => some "none"
  | .bridge => some "bridge"
  | .default => some "default"

/-- No container of that name exists. -/
def createFresh (requestId name : String)
    (options : DockerProviderOptions) (source : Option String) : ProviderM ContainerId := do
  let existing ← orFail (← perform .listInstances)
  require (existing.length < config.maxContainers)
    (.resourceLimitExceeded "docker" request.ownerRef existing.length config.maxContainers)
  let imageId ← orFail (← perform (.imageInspect (source.getD config.image)))
  perform (.journalSet name .creating)
  createNamed ⟨name, request.ownerRef, requestId, networkArg options.networkMode,
    options.workspaceRoot, options.bootstrap, imageId⟩
  orRemove name (← perform (.start (.name name)))
  let value ← orFail (← perform (.inspect (.name name)))
  orRemove name (validateContainer value (some imageId))
  orRemove name (validateRequestedNetworkMode value options.networkMode)
  orRemove name (validateRequestedWorkspace value options.workspaceRoot)
  bootstrapFresh name options source
  perform (.publish value.id)
  return value.id

/-- `create_container`. -/
def createContainer
    (source : Option String) : ProviderM ContainerId := do
  require (request.backendId = "docker") (.invalidRequest "Docker backend_id must be docker")
  let options ← orFail (DockerProviderOptions.parse request.providerOptions)
  let free ← orFail (← perform .freeBytes)
  require (config.reserveBytes ≤ free) (.transport "Docker filesystem reserve exhausted")
  match (request.correlation.field "request_id").asStr? with
  | none => Prog.fail (.invalidRequest "stable request_id required")
  | some requestId =>
    let name := config.containerName request.ownerRef requestId
    match ← perform (.inspect (.name name)) with
    | .ok value => createExisting request requestId name options value
    | .error (.notFound _) => createFresh config request requestId name options source
    | .error error => Prog.fail error

variable (id : ContainerId)

/-- The removal of `delete`: a container that is gone already is not an error. -/
def removeInstance : ProviderM Bool := do
  match ← perform (.inspect (.id id)) with
  | .ok _ => do
    orFail (← perform (.remove (.id id)))
    pure true
  | .error (.notFound _) => pure false
  | .error error => Prog.fail error

/-- `delete` of an instance.  Retiring its running calls is not part of the shared state here. -/
def deleteInstance : ProviderM Bool := do
  orFail (← perform (.controlSet id .closing))
  let deleted ← removeInstance id
  orFail (← perform (.controlSet id .closed))
  return deleted

/-- An instance that nobody owns is deleted if its creation was abandoned. -/
def collect : ProviderM Unit := do
  if ← perform (.abandonedCreate id.name) then do
    let _ ← deleteInstance id
    perform (.journalSet id.name .closed)
  else pure ()

/-- The loop of `cleanup_unbound`. -/
def sweep (bound : List ContainerId) : List ContainerId → ProviderM Unit
  | [] => pure ()
  | id :: rest =>
    if id ∈ bound then sweep bound rest else do
      collect id
      sweep bound rest

/-- `cleanup_unbound`. -/
def cleanupUnbound (bound : List ContainerId) : ProviderM Unit :=
  withCreationLock do
    let instances ← orFail (← perform .listInstances)
    sweep bound instances

/-! ## The calls -/

inductive ProviderCall where
  | create (request : ProviderCreateRequest)
  /-- The creation that loads a snapshot's image. -/
  | load (request : ProviderCreateRequest) (image : String)
  /-- The monitor reads the ledger and then cleans up. -/
  | cleanup
  /-- The caller of a creation records its container. -/
  | record (id : ContainerId)
  | outside (change : Outside)

def ProviderCall.body : ProviderCall → ProviderM Unit
  | create request => do
    let _ ← withCreationLock (createContainer config request none)
  | load request image => do
    let _ ← withCreationLock (createContainer config request (some image))
  | cleanup => do
    let bound ← perform .ledgerIds
    cleanupUnbound bound
  | record id => perform (.record id)
  | outside change => perform (.outside change)

/-- The calls of the provider, side by side. -/
def providerSystem :
    System Answer Daemon Effect Effect.Reply ProviderControlError ProviderCall where
  handle := Daemon.handle config
  body := ProviderCall.body config
  enabled := Daemon.enabled
  suspends := fun _ => false

instance (config : DockerConfig) (d : Daemon) (e : Effect) :
    Decidable ((providerSystem config).enabled d e) :=
  inferInstanceAs (Decidable (d.enabled e))

abbrev ProviderPool := Pool Daemon Effect Effect.Reply ProviderControlError ProviderCall

end XGovernor.Docker
