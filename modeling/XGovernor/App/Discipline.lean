import XGovernor.App.Steps

/-!
# Which effects the calls perform

The calls are examined for the effects they can perform at all, whatever the replies.  Most effects
leave the state alone; the rules below say, for an arbitrary condition on effects, what a call
needs to satisfy it: permission for the harmless effects, and for writing back the records it has
read.
-/

namespace XGovernor.App

open Domain Joint Manager Lib Prog

variable {config : Config} {env : Env} {s : State} {ctx : SecurityContext} {α β : Type} {e : Effect}
  {site : Site} {f : SessionRecord → AppM α}

/-! ## Harmless effects -/

/-- The effects that leave the state as it is. -/
def Effect.passive : Effect → Bool
  | reserveTenantSession _ _ | releaseTenantSession _ | claim _ _ | release _ _ | occupy _ _
  | rememberReceipt _ _ _ | forgetSession _ | spawn _ | saveSession _ _ | saveCheckpoint _
  | deleteCheckpoint _ | saveIntent _ _ _ | deleteIntent _ | owner _ => false
  | manager _ _ e => e.passive
  | _ => true

/-- The effects that can change a stored session or checkpoint. -/
def Effect.writesRecords : Effect → Bool
  | saveSession _ _ | saveCheckpoint _ | deleteCheckpoint _ | owner _ => true
  | _ => false

/-- The places of a creation between its slot and its end. -/
def Site.exposed : Site → Bool
  | probe | prepare | exported | capture | captured | start | discard | unprovided | uncaptured
  | unloaded | unstarted | publish | recheck | rollback => true
  | target | route | lookup | operation | turn | restore | retry | refresh | jointProbe | intent
  | readBack | finalize | forward => false

/-- The effects that are awaited while a creation holds its slot or a submission holds the gate. -/
def Effect.exposed : Effect → Bool
  | runtime _ _ (.submitTurn _) => true
  | runtime _ site _ | manager _ site _ | getSession site _ | saveSession site _ => site.exposed
  | saveIntent _ _ _ | deleteIntent _ | lockPublication | ensureUnclaimed _ => true
  | _ => false

/-- The effects that leave the slots and the instance managers as they are. -/
def Effect.keepsResources : Effect → Bool
  | reserveTenantSession _ _ | releaseTenantSession _ => false
  | manager _ _ e => e.passive
  | _ => true

/-- The effects that leave the slots as they are. -/
def Effect.keepsSlots : Effect → Bool
  | reserveTenantSession _ _ | releaseTenantSession _ => false
  | _ => true

theorem commit_get (access : Except SessionDomainError β) (f : Db → α) (s) :
    (commit access (do return f (← Tx.get)) s).2 = s := by
  cases access <;> rfl

theorem commit_resources (access : Except SessionDomainError β) (tx : StoreTx α) (s) :
    (commit access tx s).2.tenantSessions = s.tenantSessions ∧
      (commit access tx s).2.managers = s.managers := by
  rcases commit_cases access tx s with ⟨a, db, -, -, h⟩ | ⟨e, h⟩ <;> rw [h] <;> exact ⟨rfl, rfl⟩

theorem withManager_self (s : State) (key : String) :
    s.withManager key (s.managers key) = s := by
  simp [State.withManager]

theorem handle_manager_of_passive {e} (he : e.passive = true) (key : String)
    (site) : (handle config env s (.manager key site e)).2 = s := by
  have hstate : (Manager.handle (config.managers key) (env.managerAnswers key site)
      (s.managers key) e).2 = s.managers key := Manager.handle_of_passive he
  exact (congrArg (s.withManager key) hstate).trans (withManager_self s key)

theorem handle_of_passive (he : e.passive = true) :
    (handle config env s e).2 = s := by
  cases e with
  | manager key site e => exact handle_manager_of_passive he key site
  | getSession _ _ | getCheckpoint _ | getJointCheckpoint _ _ => exact commit_get _ _ s
  | _ => first | rfl | simp [Effect.passive] at he

theorem handle_resources (config env s) (he : e.keepsResources = true) :
    (handle config env s e).2.tenantSessions = s.tenantSessions ∧
      (handle config env s e).2.managers = s.managers := by
  cases e with
  | manager key site e =>
    rw [handle_manager_of_passive he]
    exact ⟨rfl, rfl⟩
  | claim runtimeId turnId =>
    dsimp only [handle, State.claim]
    split <;> exact ⟨rfl, rfl⟩
  | release runtimeId turnId =>
    dsimp only [handle, State.release]
    split <;> exact ⟨rfl, rfl⟩
  | getSession _ _ | saveSession _ _ | getCheckpoint _ | getJointCheckpoint _ _
  | saveCheckpoint _ | deleteCheckpoint _ | saveIntent _ _ _ | deleteIntent _ =>
    exact commit_resources _ _ s
  | _ => first | exact ⟨rfl, rfl⟩ | simp [Effect.keepsResources] at he

theorem handle_slots (he : e.keepsSlots = true) :
    (handle config env s e).2.tenantSessions = s.tenantSessions := by
  cases e with
  | manager key site e => rfl
  | reserveTenantSession tenant limit => simp [Effect.keepsSlots] at he
  | releaseTenantSession tenant => simp [Effect.keepsSlots] at he
  | _ => exact (handle_resources config env s (by rfl)).1

theorem Effect.keepsResources_of_passive (he : e.passive = true) :
    e.keepsResources = true := by
  cases e <;> first | rfl | exact he

/-! ## The rules -/

/-- `new` replaces `old`: it is the same session, and it is not closed unless `old` was. -/
structure WritesBack (old new : SessionRecord) : Prop where
  runtimeId : new.runtimeId = old.runtimeId
  tenantId : new.tenantId = old.tenantId
  backing : new.executionBacking = old.executionBacking
  closed : new.status = .closed → old.status = .closed

/-- The tenant an owner acts for. -/
def OwnerCall.tenantId : OwnerCall → Option String
  | openSession context _ _ _ | load context _ _ | submitTurn context _ _ _
  | close context _ _ | cancelTurn context _ _ | checkpoint context _
  | deleteCheckpoint context _ | prepareHost context _ _ => context.tenantId
  | awaitTurn record _ | ensureAttached record | hostOperation record _
  | writeHost record _ => record.tenantId

/-- A condition on effects and guards that permits what leaves the state alone, and what the owner
of a joint session does. -/
structure ReadRules (Q : Effect → (State → State) → Prop) (Own : SessionRecord → Prop) :
    Prop where
  passive : ∀ e : Effect, e.passive = true → e.exposed = false → Q e id
  owner : ∀ {record : SessionRecord} {call : OwnerCall}, Own record →
    record.executionBacking.joint.isSome → call.tenantId = record.tenantId → Q (.owner call) id

/-- A condition on effects and guards that permits what a call may do to the sessions it owns
while nothing else is at stake. -/
structure Discipline (Q : Effect → (State → State) → Prop) (Own : SessionRecord → Prop) : Prop
    extends ReadRules Q Own where
  save : ∀ {site : Site} {old new : SessionRecord}, site.exposed = false → Own old →
    WritesBack old new → Q (.saveSession site new) id

section Rules

variable {rely : (e : Effect) → e.Reply → Prop} {Q : Effect → (State → State) → Prop}
  {Own : SessionRecord → Prop} {record : SessionRecord} {p : ManagerM α}

theorem lifted_id (key : String) (site) :
    (fun s => (managerEmbedding key site).put (id ((managerEmbedding key site).view s)) s) = id :=
  funext (managerEmbedding key site).put_view

theorem runs_manager_passive (hp : Manager.Passive p) {key}
    (hQ : ∀ e, e.passive = true → Q (.manager key site e) id) :
    (manager key site p).Runs rely Q := by
  refine (Embedding.runs_lift ?_ hp).attempt
  rintro e _ ⟨he, rfl⟩
  rw [lifted_id]
  exact hQ e he

/-- An effect that changes nothing, whatever its reply. -/
theorem ReadRules.step (rules : ReadRules Q Own) {f : e.Reply → AppM α}
    (he : (e.passive, e.exposed) = (true, false)) (hf : ∀ reply, (f reply).Runs rely Q) :
    ((perform e).bind f).Runs rely Q :=
  ⟨rules.passive e (Prod.ext_iff.1 he).1 (Prod.ext_iff.1 he).2, fun reply _ => hf reply⟩

theorem ReadRules.runs_manager (rules : ReadRules Q Own)
    (hp : Manager.Passive p) (key : String) (hsite : site.exposed = false) :
    (manager key site p).Runs rely Q :=
  runs_manager_passive hp fun _ he => rules.passive _ he hsite

section

variable (rules : Discipline Q Own)
include rules

section

variable (hown : Own record)
include hown

theorem Discipline.runs_markRestorationFailed
    (error) : (markRestorationFailed record error).Runs rely Q :=
  rules.step rfl fun _ =>
    ⟨rules.save rfl hown ⟨rfl, rfl, rfl, nofun⟩, fun _ _ => trivial⟩

/-- A failed restoration is written into the record that was read. -/
theorem Discipline.runs_markRestorationFailed_fail (error error') :
    ((markRestorationFailed record error).bind fun _ => (.fail error' : AppM α)).Runs rely Q :=
  (rules.runs_markRestorationFailed hown error).bind fun _ => trivial

theorem Discipline.runs_restoreRuntime (registration) :
    (restoreRuntime registration record).Runs rely Q := by
  refine .orFail fun provider => ?_
  refine (rules.runs_manager Manager.passive_backendFor _ rfl).bind fun found => ?_
  split
  · trivial
  · exact rules.runs_markRestorationFailed_fail hown _ _
  · refine rules.step rfl fun attached => ?_
    split
    · trivial
    · refine .require fun _ => rules.step rfl fun started => ?_
      split
      · exact rules.runs_markRestorationFailed_fail hown _ _
      · refine rules.step rfl fun again => ?_
        split
        · exact rules.runs_markRestorationFailed_fail hown _ _
        · split
          · exact rules.step rfl fun _ =>
              ⟨rules.save rfl hown ⟨rfl, rfl, rfl, nofun⟩, fun _ _ => runs_orFail _⟩
          · trivial
    · trivial

theorem Discipline.runs_ensureRuntimeAttached :
    (ensureRuntimeAttached config record).Runs rely Q := by
  unfold ensureRuntimeAttached
  split
  next binding hjoint =>
    exact .orFail fun _ =>
      ⟨rules.owner hown (by rw [hjoint]; rfl) rfl, fun _ _ => runs_orFail _⟩
  next =>
    refine .orFail fun registration => rules.step rfl fun alive => ?_
    split
    · trivial
    · exact rules.runs_restoreRuntime hown registration
    · exact rules.runs_restoreRuntime hown registration
    · trivial

/-- A refreshed record is the same session, and the call may go on writing it. -/
theorem Discipline.runs_refresh_bind (hf : ∀ new, WritesBack record new → (f new).Runs rely Q) :
    ((refreshDockerSnapshotCapabilities config record).bind f).Runs rely Q := by
  have hsame (capabilities : EffectiveCapabilities) :
      WritesBack record { record with capabilities } := ⟨rfl, rfl, rfl, id⟩
  unfold refreshDockerSnapshotCapabilities
  split
  · exact hf record ⟨rfl, rfl, rfl, id⟩
  · dsimp only [bind_def]
    cases registrationForRecord config record with
    | error error => trivial
    | ok registration =>
      dsimp only [orFail, ret_bind]
      cases providerForIsolation registration record.isolation with
      | error error => trivial
      | ok provider =>
        rw [ret_bind, Prog.bind_assoc]
        refine (rules.runs_manager Manager.passive_inspectInstance _ rfl).bind fun status => ?_
        cases status with
        | error error => trivial
        | ok status =>
          refine ⟨rules.save rfl hown (hsame _), fun saved _ => ?_⟩
          cases saved with
          | error error => trivial
          | ok _ => exact hf _ (hsame _)

/-- What a fork asks of its parent. -/
theorem Discipline.runs_admitFork :
    (admitFork config record).Runs rely Q :=
  .require fun _ => (rules.runs_ensureRuntimeAttached hown).bind fun _ =>
    rules.runs_refresh_bind hown fun _ _ => .orFail fun _ =>
      .require fun _ => trivial

end

/-- An `open` attaches only to a session that the caller owns. -/
theorem Discipline.runs_reattach (hread : ctx.owns record.tenantId = true → Own record) (request)
    (runtimeId : String) : (reattach config ctx request record runtimeId).Runs rely Q := by
  dsimp only [reattach, bind_def]
  cases howns : ctx.owns record.tenantId with
  | false => trivial
  | true =>
    refine .require fun _ => .require fun _ => ?_
    refine (rules.runs_ensureRuntimeAttached (hread howns)).bind fun _ => ?_
    split <;> trivial

end

theorem ReadRules.runs_checkLeaseHolder (rules : ReadRules Q Own) (runtimeId : String)
    (lease) : (checkLeaseHolder config runtimeId lease).Runs rely Q := by
  unfold checkLeaseHolder
  split
  · trivial
  · exact rules.step rfl fun _ => runs_orFail _

/-- A joint context speaks for the tenant of the record. -/
theorem ReadRules.runs_jointContext_bind (rules : ReadRules Q Own) {binding : JointBinding}
    {operation : Operation} {target checkpoint : Option String} {f : JointOperationContext → AppM α}
    (hf : ∀ context, context.tenantId = record.tenantId → (f context).Runs rely Q) :
    ((jointContext ctx record binding operation target checkpoint).bind f).Runs rely Q :=
  rules.step rfl fun _ => hf _ rfl

theorem runs_admitOpen (config request)
    (hnormalize : Q (.normalize ctx request) id) : (admitOpen config ctx request).Runs rely Q :=
  .orFail fun _ => .orFail fun _ =>
    ⟨hnormalize, fun _ _ => .orFail fun _ => .orFail fun _ =>
      .orFail fun _ => .orFail fun _ => trivial⟩

section

variable (hpassive : ∀ e : Effect, e.passive = true → e.exposed = false → Q e id)
include hpassive

/-- The owner opens a joint session for the tenant of the caller. -/
theorem runs_openJoint
    (howner : ∀ call : OwnerCall, call.tenantId = ctx.tenantId → Q (.owner call) id)
    (request admission owner) (runtimeId : String) :
    (openJoint config ctx request admission owner runtimeId).Runs rely Q :=
  .require fun _ => .orFail fun _ =>
    ⟨hpassive _ rfl rfl, fun _ _ => .orFail fun _ =>
      ⟨hpassive _ rfl rfl, fun _ _ => ⟨howner _ rfl, fun _ _ =>
        .orFail fun _ => .orFail fun _ =>
          .require fun _ => ⟨hpassive _ rfl rfl, fun _ _ =>
            .orFail fun _ => .require fun _ => trivial⟩⟩⟩⟩

/-- The owner loads a checkpoint for its tenant, which the caller speaks for. -/
theorem runs_loadJoint
    (howner : ∀ call : OwnerCall, ctx.owns call.tenantId = true → Q (.owner call) id)
    (request checkpoint) (runtimeId : String) :
    (loadJoint config ctx request checkpoint runtimeId).Runs rely Q := by
  dsimp only [loadJoint, bind_def, require]
  split
  next howns =>
    exact .orFail fun _ => ⟨howner _ howns, fun _ _ =>
      .orFail fun _ => .orFail fun _ =>
        ⟨hpassive _ rfl rfl, fun _ _ => .orFail fun _ =>
          .require fun _ => trivial⟩⟩
  next => trivial

end

end Rules

/-! ## Calls on one session -/

/-- The rules of a call that looks a session up: it is told what its owner may know, and everything
is allowed that writes no record and takes no slot. -/
structure LookupRules (ctx : SecurityContext) (runtimeId : String)
    (rely : (e : Effect) → e.Reply → Prop) (Q : Effect → (State → State) → Prop)
    (Own : SessionRecord → Prop) : Prop extends ReadRules Q Own where
  neutral : ∀ e : Effect, e.writesRecords = false → e.keepsResources = true → Q e id
  read : ∀ {site : Site} {record : SessionRecord},
    rely (.getSession site runtimeId) (.ok (some record)) → ctx.owns record.tenantId = true →
      Own record

/-- The rules of a call that uses a session: what the lookup returned may be written back. -/
structure CallRules (ctx : SecurityContext) (runtimeId : String)
    (rely : (e : Effect) → e.Reply → Prop) (Q : Effect → (State → State) → Prop)
    (Own : SessionRecord → Prop) : Prop
    extends Discipline Q Own, LookupRules ctx runtimeId rely Q Own where
  guard : ∀ e onDrop undo, Q e onDrop → Q e fun s => State.release (onDrop s) runtimeId undo

section Calls

variable {rely : (e : Effect) → e.Reply → Prop} {Q : Effect → (State → State) → Prop}
  {Own : SessionRecord → Prop} {record : SessionRecord} {runtimeId : String}

/-- An effect that writes no record and takes no slot, whatever its reply. -/
theorem LookupRules.pass (rules : LookupRules ctx runtimeId rely Q Own)
    {f : e.Reply → AppM α} (he : (e.writesRecords, e.keepsResources) = (false, true))
    (hf : ∀ reply, (f reply).Runs rely Q) : ((perform e).bind f).Runs rely Q :=
  ⟨rules.neutral e (Prod.ext_iff.1 he).1 (Prod.ext_iff.1 he).2, fun reply _ => hf reply⟩

theorem LookupRules.runs_requireSession_bind (rules : LookupRules ctx runtimeId rely Q Own)
    (hf : ∀ record, Own record → (f record).Runs rely Q) :
    ((requireSession ctx site runtimeId).bind f).Runs rely Q := by
  dsimp only [requireSession, bind_def]
  cases requireNonEmptyRuntimeId runtimeId with
  | error error => trivial
  | ok _ =>
    refine ⟨rules.neutral _ rfl rfl, fun found hfound => ?_⟩
    rcases found with error | _ | record
    · trivial
    · trivial
    · dsimp only [orFail, ret_bind, require]
      split
      next howns => exact hf record (rules.read hfound howns)
      next => trivial

theorem CallRules.runs_claimOperation (rules : CallRules ctx runtimeId rely Q Own)
    {rest : AppM α} (hrest : rest.Runs rely Q) : (claimOperation runtimeId rest).Runs rely Q := by
  refine rules.pass rfl fun _ => rules.pass rfl fun claimed => ?_
  cases claimed with
  | error active => trivial
  | ok _ => exact hrest.guarded (rules.neutral _ rfl rfl) fun e onDrop => rules.guard e onDrop _

end Calls

end XGovernor.App
