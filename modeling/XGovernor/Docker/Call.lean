import XGovernor.Domain.Json
import XGovernor.Lib.TransitionSystem
import XGovernor.Lib.Table

/-!
# Helper calls of a Docker container

Every operation of a container goes through one helper process.  A call reads the generation of
the container, waits for the gate, checks that nothing has changed, arms a notification and starts
the helper; whoever wants the work of the container to stop retires the generation and notifies
the calls that are armed.  The gate is an asynchronous lock, the generation an atomic counter, the
turn and the journal each have a lock of their own: what a task does between two of these accesses
is one section, and the sections of different tasks interleave freely.

`Container.next` is one section of one task.  Retiring the generation and notifying are two
sections, as they are two calls in `invalidate`.
-/

namespace XGovernor.Docker

open Domain Lib

/-! ## The journal of a container -/

/-- The state of a container in the journal. -/
inductive ContainerState where
  | ready
  | executing
  | cleanup
  | paused
  | snapshotting
  | resourceStopped
  | closing
  | closed
  deriving DecidableEq, Repr

namespace ContainerState

def text : ContainerState → String
  | ready => "ready"
  | executing => "executing"
  | cleanup => "cleanup"
  | paused => "paused"
  | snapshotting => "snapshotting"
  | resourceStopped => "resource_stopped"
  | closing => "closing"
  | closed => "closed"

/-- The writes that `Control::set` lets through over the state it finds. -/
def allows : ContainerState → ContainerState → Bool
  | closed, state => state = closed
  | closing, state => state = closing || state = closed
  | resourceStopped, state => state = resourceStopped || state = closing || state = closed
  | _, _ => true

/-- `Control::set`: the state after the write. -/
def set (previous state : ContainerState) : Except String ContainerState :=
  if previous = closed ∧ state = closing then .ok closed
  else if previous.allows state then .ok state
  else .error ("container is " ++ previous.text)

/-- The states in which `recover` refuses to restart a container. -/
def guarded : ContainerState → Bool
  | closing | closed | resourceStopped | paused | snapshotting => true
  | _ => false

/-- A request has left work behind that must be retired. -/
def dirty : ContainerState → Bool
  | executing | cleanup => true
  | _ => false

end ContainerState

/-! ## Tasks -/

/-- `OperationError`, as far as a call returns it. -/
inductive CallError where
  | notFound (path : String)
  | alreadyExists (path : String)
  | permissionDenied (path : String)
  | notDirectory (path : String)
  | notFile (path : String)
  | executionFailed (message : String)
  | executionInterrupted (message : String)
  | transport (message : String)
  deriving DecidableEq

/-- What a call carries from its first section to its last: the epoch it has read, the turn of
its operation context if it has one, and the path it names in errors. -/
structure Call where
  epoch : Nat
  context : Option String
  path : String
  deriving DecidableEq

/-- How far `recover` has come. -/
inductive RecoverPoint where
  | stopping
  | starting
  deriving DecidableEq

/-- How far a call has come. -/
inductive CallPoint where
  /-- It has read the epoch and waits for the gate. -/
  | waiting
  | locked
  /-- The epoch was the generation. -/
  | epochChecked
  | turnChecked
  | stateChecked
  /-- The notification is enabled; `woken` says that it has come. -/
  | armed (woken : Bool)
  /-- The helper process runs. -/
  | running (woken : Bool)
  | answered (response : Except CallError Json)
  | recovering (point : RecoverPoint) (interrupted : Bool) (response : Except CallError Json)
  | returned (result : Except CallError Json)
  deriving DecidableEq

/-- Who retires the generation.  `dropped` is a call that ended without settling the container. -/
inductive Retirement where
  | blockTurn
  | cancel
  | delete
  | shutdown
  | resourceStop
  | dropped
  deriving DecidableEq

inductive RetirePoint where
  /-- The reason is on record; the generation is next. -/
  | marked
  /-- The generation is retired; the notification is next. -/
  | retired
  | waiting
  | locked
  | recovering (point : RecoverPoint)
  | returned (result : Except String Unit)
  deriving DecidableEq

inductive TurnPoint where
  | waiting
  | locked
  | recovering (point : RecoverPoint)
  | returned (result : Except String Unit)
  deriving DecidableEq

inductive Task where
  | call (call : Call) (point : CallPoint)
  | retire (reason : Retirement) (point : RetirePoint)
  | beginTurn (turn : String) (point : TurnPoint)
  | finishTurn (turn : String) (point : TurnPoint)
  deriving DecidableEq

structure Container where
  gate : Option Nat
  generation : Nat
  /-- The current turn and whether it is cancelled. -/
  turn : Option (String × Bool)
  state : ContainerState
  tasks : Nat → Option Task

namespace Container

/-- A container on which nothing happens. -/
def idle (generation : Nat) (turn : Option (String × Bool)) (state : ContainerState) :
    Container where
  gate := none
  generation := generation
  turn := turn
  state := state
  tasks := fun _ => none

variable (s : Container) (i : Nat)

variable (call : Call) (response : Except CallError Json) (reason : Retirement) (turn : String)
  (task : Task)

def setTask : Container :=
  { s with tasks := Function.update s.tasks i (some task) }

/-- A task that holds the gate goes on without it. -/
def leave : Container :=
  { s.setTask i task with gate := none }

/-! ## Sections of a call -/

/-- The epoch is compared with the generation. -/
def checkEpoch : Container :=
  if call.epoch ≠ s.generation then
    s.leave i (.call call (.returned
      (.error (.transport "operation belongs to a retired execution generation"))))
  else
    s.setTask i (.call call .epochChecked)

/-- A call with an operation context must belong to the current turn, and the turn must not be
cancelled. -/
def checkTurn : Container :=
  match call.context with
  | some turn =>
    if s.turn = some (turn, false) then s.setTask i (.call call .turnChecked)
    else
      s.leave i (.call call (.returned (.error (.transport "stale or cancelled tool context"))))
  | none => s.setTask i (.call call .turnChecked)

def checkState : Container :=
  if s.state ≠ .ready then
    s.leave i (.call call (.returned (.error (.transport
      "container unavailable: cleanup or resource protection pending"))))
  else
    s.setTask i (.call call .stateChecked)

/-- `set("executing")`; the helper starts when it succeeds. -/
def start (woken : Bool) : Container :=
  match s.state.set .executing with
  | .ok state => { s with state }.setTask i (.call call (.running woken))
  | .error message => s.leave i (.call call (.returned (.error (.transport message))))

/-- The call is interrupted by the notification. -/
def interruption : CallError :=
  .executionInterrupted "container operation cancelled"

/-- A response that leaves the container dirty. -/
def needsReset : Bool :=
  match response with
  | .ok value =>
    (value.field "value").field "timed_out" = .bool true || value.field "code" = .string "failed"
  | .error _ => true

/-- What a call returns for the response of its helper. -/
def result (path : String) (response : Except CallError Json) : Except CallError Json :=
  match response with
  | .error error => .error error
  | .ok value =>
    if value.field "ok" = .bool true then .ok (value.field "value")
    else
      .error (match (value.field "code").asStr? with
        | some "not_found" => .notFound path
        | some "already_exists" => .alreadyExists path
        | some "permission_denied" => .permissionDenied path
        | some "not_directory" => .notDirectory path
        | some "not_file" => .notFile path
        | _ => .executionFailed
            (((value.field "message").asStr?).getD "invalid helper response"))

/-- The end of a call that settled the container. -/
def finish (interrupted : Bool) (response : Except CallError Json) : Container :=
  s.leave i (.call call (.returned
    (if interrupted then .error interruption else result call.path response)))

/-- The call ends and has not settled the container: its guard retires the generation, before the
gate is released, and then waits for the gate as a task of its own. -/
def drop : Container :=
  s.setTask i (.retire .dropped .marked)

/-- The first section of `recover`; `none` is its error. -/
def recover : Option Container :=
  if s.state.guarded then none
  else
    match s.state.set .cleanup with
    | .ok state => some { s with state }
    | .error _ => none

/-- After the helper: the epoch is compared again, and the container is recovered if the call was
interrupted or its response asks for it. -/
def settle : Container :=
  let interrupted := decide (call.epoch ≠ s.generation)
  if interrupted || needsReset response then
    match s.recover with
    | some s' => s'.setTask i (.call call (.recovering .stopping interrupted response))
    | none => s.drop i
  else
    match s.state.set .ready with
    | .ok state => { s with state }.finish i call interrupted response
    | .error _ => s.drop i

/-! ## Sections of the other tasks -/

/-- `block_turn` and the first section of `cancel`: a turn that is current is cancelled. -/
def cancelTurn : Container :=
  match s.turn with
  | some (id, _) =>
    if id = turn then
      { s with turn := some (id, true) }.setTask i (.retire reason .marked)
    else s.setTask i (.retire reason (.returned (.ok ())))
  | none => s.setTask i (.retire reason (.returned (.ok ())))

/-- The first section of the tasks that stop the container: the intent goes to the journal. -/
def markState (state : ContainerState) : Container :=
  match s.state.set state with
  | .ok state => { s with state }.setTask i (.retire reason .marked)
  | .error message => s.setTask i (.retire reason (.returned (.error message)))

/-- `notify_waiters`: the notification reaches the calls that are armed at this moment. -/
def wake : Task → Task
  | .call call (.armed _) => .call call (.armed true)
  | .call call (.running _) => .call call (.running true)
  | task => task

def notifyWaiters : Container :=
  { s with tasks := fun i => (s.tasks i).map wake }

/-- What follows the notification. -/
def afterNotify : Retirement → Container
  | .blockTurn => s.setTask i (.retire .blockTurn (.returned (.ok ())))
  | .shutdown => s.setTask i (.retire .shutdown (.returned (.ok ())))
  | .cancel => s.setTask i (.retire .cancel .waiting)
  | .delete => s.setTask i (.retire .delete .waiting)
  | .resourceStop => s.setTask i (.retire .resourceStop .waiting)
  -- The gate of the call is released after its guard was dropped.
  | .dropped => s.leave i (.retire .dropped .waiting)

/-- `cancel` and the task of a dropped call recover a dirty container under the gate. -/
def retireDirty : Container :=
  if s.state.dirty then
    match s.recover with
    | some s' => s'.setTask i (.retire reason (.recovering .stopping))
    | none => s.leave i (.retire reason (.returned (.error ("container is " ++ s.state.text))))
  else s.leave i (.retire reason (.returned (.ok ())))

variable (command : Except String Unit)

/-- The Docker commands of `delete` and of a resource stop, under the gate. -/
def retireCommand : Container :=
  match command with
  | .error message => s.leave i (.retire reason (.returned (.error message)))
  | .ok _ =>
    if reason = .delete then
      match s.state.set .closed with
      | .ok state => { s with state }.leave i (.retire reason (.returned (.ok ())))
      | .error message => s.leave i (.retire reason (.returned (.error message)))
    else s.leave i (.retire reason (.returned (.ok ())))

/-- `begin_turn`, under the gate. -/
def beginTurn : Container :=
  if s.state ≠ .ready then
    s.leave i (.beginTurn turn
      (.returned (.error "Docker cleanup or resource protection pending")))
  else
    { s with turn := some (turn, false) }.leave i (.beginTurn turn (.returned (.ok ())))

/-- The last section of `finish_turn`. -/
def clearTurn : Container :=
  let turn' := if s.turn.any fun (id, _) => id = turn then none else s.turn
  { s with turn := turn' }.leave i (.finishTurn turn (.returned (.ok ())))

/-- `finish_turn`, under the gate. -/
def finishTurn : Container :=
  if s.state.dirty then
    match s.recover with
    | some s' => s'.setTask i (.finishTurn turn (.recovering .stopping))
    | none =>
      s.leave i (.finishTurn turn (.returned (.error ("container is " ++ s.state.text))))
  else s.clearTurn i turn

/-- A recovery is over. -/
def recovered (outcome : Except String Unit) : Task → Option Container
  | .call call (.recovering _ interrupted response) =>
    match outcome with
    | .ok _ => some (s.finish i call interrupted response)
    | .error _ => some (s.drop i)
  | .retire reason (.recovering _) => some (s.leave i (.retire reason (.returned outcome)))
  | .finishTurn turn (.recovering _) =>
    match outcome with
    | .ok _ => some (s.clearTurn i turn)
    | .error message => some (s.leave i (.finishTurn turn (.returned (.error message))))
  | _ => none

/-- A recovery goes on to start the container. -/
def toStarting : Task → Option Task
  | .call call (.recovering .stopping interrupted response) =>
    some (.call call (.recovering .starting interrupted response))
  | .retire reason (.recovering .stopping) => some (.retire reason (.recovering .starting))
  | .finishTurn turn (.recovering .stopping) => some (.finishTurn turn (.recovering .starting))
  | _ => none

def isStarting : Task → Bool
  | .call _ (.recovering .starting _ _) => true
  | .retire _ (.recovering .starting) => true
  | .finishTurn _ (.recovering .starting) => true
  | _ => false

/-- The container was stopped; a close or a resource stop since then wins over the restart. -/
def stopped : Option Container :=
  match toStarting task with
  | none => none
  | some task' =>
    match command with
    | .error message => s.recovered i (.error message) task
    | .ok _ =>
      if s.state ≠ .cleanup then
        s.recovered i (.error "restart superseded by close or resource protection") task
      else some (s.setTask i task')

def started : Option Container :=
  if isStarting task then
    match command with
    | .error message => s.recovered i (.error message) task
    | .ok _ =>
      match s.state.set .ready with
      | .ok state => { s with state }.recovered i (.ok ()) task
      | .error message => s.recovered i (.error message) task
  else none

/-- A task that waits for the gate gets it. -/
def locked : Task → Option Task
  | .call call .waiting => some (.call call .locked)
  | .retire reason .waiting => some (.retire reason .locked)
  | .beginTurn turn .waiting => some (.beginTurn turn .locked)
  | .finishTurn turn .waiting => some (.finishTurn turn .locked)
  | _ => none

end Container

/-! ## The interleaving -/

/-- How a task comes in. -/
inductive Entry where
  | call (context : Option String) (path : String)
  | blockTurn (turn : String)
  | cancel (turn : Option String)
  | delete
  | shutdown
  | resourceStop
  | beginTurn (turn : String)
  | finishTurn (turn : String)

inductive Label where
  /-- A new task takes its first section. -/
  | enter (i : Nat) (entry : Entry)
  /-- The task gets the gate. -/
  | lock (i : Nat)
  /-- The next section of a task that runs without waiting for anything. -/
  | advance (i : Nat)
  /-- The helper process has ended by itself. -/
  | helper (i : Nat) (output : Except String Json)
  /-- The notification of the call has come before its helper ended. -/
  | interrupt (i : Nat)
  /-- A Docker command of the task has ended. -/
  | command (i : Nat) (result : Except String Unit)
  /-- The caller gives up and drops the call. -/
  | drop (i : Nat)

namespace Container

variable (s : Container) (i : Nat)

def enter : Entry → Container
  | .call context path => s.setTask i (.call ⟨s.generation, context, path⟩ .waiting)
  | .blockTurn turn => s.cancelTurn i .blockTurn turn
  | .cancel (some turn) => s.cancelTurn i .cancel turn
  | .cancel none => s.setTask i (.retire .cancel .marked)
  | .delete => s.markState i .delete .closing
  | .shutdown => s.markState i .shutdown .closing
  | .resourceStop => s.markState i .resourceStop .resourceStopped
  | .beginTurn turn => s.setTask i (.beginTurn turn .waiting)
  | .finishTurn turn => s.setTask i (.finishTurn turn .waiting)

/-- The next section of a task that does not wait. -/
def advance : Task → Option Container
  | .call call .locked => some (s.checkEpoch i call)
  | .call call .epochChecked => some (s.checkTurn i call)
  | .call call .turnChecked => some (s.checkState i call)
  | .call call .stateChecked => some (s.setTask i (.call call (.armed false)))
  | .call call (.armed woken) => some (s.start i call woken)
  | .call call (.answered response) => some (s.settle i call response)
  | .retire reason .marked =>
    some ({ s with generation := s.generation + 1 }.setTask i (.retire reason .retired))
  | .retire reason .retired => some (s.notifyWaiters.afterNotify i reason)
  | .retire .cancel .locked => some (s.retireDirty i .cancel)
  | .retire .dropped .locked => some (s.retireDirty i .dropped)
  | .beginTurn turn .locked => some (s.beginTurn i turn)
  | .finishTurn turn .locked => some (s.finishTurn i turn)
  | _ => none

/-- The end of a Docker command that a task waits for. -/
def command (result : Except String Unit) (task : Task) : Option Container :=
  match task with
  | .retire .delete .locked => some (s.retireCommand i .delete result)
  | .retire .resourceStop .locked => some (s.retireCommand i .resourceStop result)
  | task =>
    match s.stopped i task result with
    | some s' => some s'
    | none => s.started i task result

/-- A call that is dropped while it waits for the gate leaves nothing behind; one whose helper was
started leaves its guard. -/
def dropCall : Task → Option Container
  | .call _ .waiting => some { s with tasks := Function.update s.tasks i none }
  | .call _ (.running _) => some (s.drop i)
  | .call _ (.recovering _ _ _) => some (s.drop i)
  | _ => none

/-- The section a label takes, if it can be taken. -/
def next : Label → Option Container
  | .enter i entry => if (s.tasks i).isNone then some (s.enter i entry) else none
  | .lock i =>
    if s.gate.isNone then
      ((s.tasks i).bind locked).map fun task => { s.setTask i task with gate := some i }
    else none
  | .advance i => (s.tasks i).bind (s.advance i)
  | .helper i output =>
    match s.tasks i with
    | some (.call call (.running _)) =>
      some (s.setTask i (.call call (.answered (output.mapError .transport))))
    | _ => none
  | .interrupt i =>
    match s.tasks i with
    | some (.call call (.running true)) =>
      some (s.setTask i (.call call (.answered (.error interruption))))
    | _ => none
  | .command i result => (s.tasks i).bind (s.command i result)
  | .drop i => (s.tasks i).bind (s.dropCall i)

end Container

def Step (s : Container) (label : Label) (s' : Container) : Prop :=
  s.next label = some s'

theorem step_of_next (s label s') (h : s.next label = some s') : Step s label s' := h

end XGovernor.Docker
