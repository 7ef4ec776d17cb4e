import XGovernor.App.Failures
import XGovernor.App.Isolation

/-!
# Tenants and each other's sessions

A call of a tenant leaves the stored sessions and checkpoints of all other tenants alone, with one
exception: `load_checkpoint` and `fork` publish their new session under the requested id without
asking whose session that id is, and a published record replaces the stored one.  An `open` looks
the id up first, and all other calls write under the id of a record that they were told is theirs.
-/

namespace XGovernor.App

open Domain Joint Manager Lib Prog

/-- The calls of a client. -/
inductive SessionCall where
  | openSession (request : SessionOpenRequest)
  | submitTurn (request : SessionTurnRequest)
  | close (runtimeId : String) (lease : SessionLeaseClaim)
  | detach (runtimeId : String) (lease : SessionLeaseClaim)
  | heartbeat (runtimeId : String) (lease : SessionLeaseClaim)
  | cancel (runtimeId : String) (turnId : Option String)
  | answerInteraction (request : SessionInteractionRequest)
  | exec (request : SessionExecRequest)
  | readFile (request : SessionFileReadRequest)
  | writeFile (request : SessionFileWriteRequest)
  | checkpoint (request : SessionCheckpointRequest)
  | loadCheckpoint (request : SessionLoadRequest)
  | deleteCheckpoint (checkpointId : String)
  | fork (request : SessionForkRequest)

namespace SessionCall

/-- The state after a call that runs to completion. -/
def after (config : Config) (env : Env) (ctx : SecurityContext) (s : State) :
    SessionCall → State
  | openSession request => ((App.openSession config ctx request).eval (handle config env) s).2
  | submitTurn request => ((App.submitTurn config ctx request).eval (handle config env) s).2
  | close runtimeId lease => ((App.close config ctx runtimeId lease).eval (handle config env) s).2
  | detach runtimeId lease => ((App.detach config ctx runtimeId lease).eval (handle config env) s).2
  | heartbeat runtimeId lease =>
    ((App.heartbeat config ctx runtimeId lease).eval (handle config env) s).2
  | cancel runtimeId turnId =>
    ((App.cancel config ctx runtimeId turnId).eval (handle config env) s).2
  | answerInteraction request =>
    ((App.answerInteraction config ctx request).eval (handle config env) s).2
  | exec request => ((App.exec config ctx request).eval (handle config env) s).2
  | readFile request => ((App.readFile config ctx request).eval (handle config env) s).2
  | writeFile request => ((App.writeFile config ctx request).eval (handle config env) s).2
  | checkpoint request => ((App.checkpoint config ctx request).eval (handle config env) s).2
  | loadCheckpoint request =>
    ((App.loadCheckpoint config ctx request).eval (handle config env) s).2
  | deleteCheckpoint checkpointId =>
    ((App.deleteCheckpoint config ctx checkpointId).eval (handle config env) s).2
  | fork request => ((App.fork config ctx request).eval (handle config env) s).2

/-- The id holds a split session of somebody else. -/
def Taken (ctx : SecurityContext) (s : State) (runtimeId : String) : Prop :=
  ∃ old, s.store.sessions.get? runtimeId = some old ∧ old.tenantId ≠ ctx.tenantId

/-- The id under which the call creates a session without having looked it up. -/
def unseenTarget (env : Env) : SessionCall → Option String
  | loadCheckpoint request => some (env.targetId request.runtimeId)
  | fork request => some (env.targetId request.runtimeId)
  | _ => none

end SessionCall

section Isolation

variable {config : Config} {env : Env} {ctx : SecurityContext} {s : State}

/-- A creation under an id that was not looked up is harmless while nobody else holds the id. -/
theorem createRules_of_free {requested : Option String} {target : String}
    (hfree : ¬ SessionCall.Taken ctx s (env.targetId requested))
    (htgt : Target (Faithful env ctx.tenantId s.store) requested target) :
    CreateRules ctx target fun e _ => Harmless ctx.tenantId s.store e := by
  have heq : target = env.targetId requested := by
    rcases htgt with rfl | ⟨rfl, hnext⟩
    · rfl
    · exact hnext
  refine createRules_isolated fun record hrow => ?_
  by_contra hten
  exact hfree ⟨record, heq ▸ hrow, hten⟩

end Isolation

namespace Sample

def checkpoint (tenantId checkpointId : String) : CheckpointRecord :=
  { checkpointId, sourceRuntimeId := "source", providerSnapshotId := "snapshot", runtimeState,
    workspace, isolation, capabilities, ownerRef := "tenant/" ++ tenantId,
    tenantId := some tenantId, createdBy := none, createdAtMs := 0 }

/-- One tenant has a session, another one a checkpoint. -/
def twoTenants : State :=
  { stateWith [session "a" "r" .idle] with
    store := execAll smallConfig
      [.saveSession (session "a" "r" .idle), .saveCheckpoint (checkpoint "b" "c")] Db.empty }

/-- The second tenant loads its checkpoint under some id. -/
def loadAs (runtimeId : String) : SessionCall :=
  .loadCheckpoint { checkpointId := "c", runtimeId := some runtimeId, conversationId := none,
                    senderId := none, llm := none }

theorem ownerActs_env : OwnerActs smallConfig env :=
  fun _ _ _ => ⟨[], .nil⟩

end Sample

end XGovernor.App
