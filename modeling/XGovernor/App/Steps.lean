import XGovernor.App.Fork
import XGovernor.App.Operations
import XGovernor.App.Turns
import XGovernor.Manager.Specs

/-!
# What the shared steps do

Specifications of the steps that several calls share: accesses to the store, operations of an
instance manager, the slot of a new session, and the rollback of a session that was not
published.
-/

namespace XGovernor.App

open Domain Joint Manager Lib Function Prog Table Tx

variable {config : Config} {env : Env} {s s' : State} {α ε' ε β : Type} {x : Except ε α}
  {f : ε → ε'}

theorem ne_ok_of_mapError {e} (h : x.mapError f = .error e) (a : α) : x ≠ .ok a := by
  rintro rfl
  cases h

@[simp] theorem mapError_eq_ok {a : α} :
    x.mapError f = .ok a ↔ x = .ok a := by
  cases x <;> simp [Except.mapError]

/-! ## Accesses to the store -/

/-- The state with another store. -/
def State.withStore (s : State) (db : Db) : State :=
  { s with store := db }

/-- The state with another state of one manager. -/
def State.withManager (s : State) (key : String) (m : Manager.State) : State :=
  { s with managers := update s.managers key m }

/-- An access either commits its transaction or fails and leaves the state. -/
theorem commit_cases (access : Except SessionDomainError β) (tx : StoreTx α) (s) :
    (∃ a db, tx.run s.store = .ok (a, db) ∧ (∃ b, access = .ok b) ∧
        commit access tx s = (.ok a, s.withStore db)) ∨
      ∃ e, commit access tx s = (.error e, s) := by
  unfold commit
  cases access with
  | error e => exact .inr ⟨e, rfl⟩
  | ok b =>
    rcases htx : tx.run s.store with e | ⟨a, db⟩
    · exact .inr ⟨_, rfl⟩
    · exact .inl ⟨a, db, rfl, ⟨b, rfl⟩, rfl⟩

/-- The answer is the value, unless the access fails; the state stays. -/
def Fetches {α β : Type} (access : Except SessionDomainError β) (value : α) (s : State)
    (answer : Except SessionDomainError α × State) : Prop :=
  (∃ b, access = .ok b ∧ answer = (.ok value, s)) ∨ ∃ e, access = .error e ∧ answer = (.error e, s)

/-- A read returns what is stored, unless the access fails. -/
theorem commit_read (access : Except SessionDomainError β) (f : Db → α) (s) :
    Fetches access (f s.store) s (commit access (do return f (← Tx.get)) s) := by
  cases access with
  | error e => exact .inr ⟨e, rfl, rfl⟩
  | ok b => exact .inl ⟨b, rfl, rfl⟩

section

variable (config : Config) (env : Env) (s : State)

/-- Reading a session. -/
theorem handle_getSession (site) (runtimeId : String) :
    Fetches (env.answer (.getSession site runtimeId)) (readSession s.store runtimeId) s
      (handle config env s (.getSession site runtimeId)) :=
  commit_read _ (fun db => readSession db runtimeId) s

theorem handle_getCheckpoint (checkpointId : String) :
    Fetches (env.answer (.getCheckpoint checkpointId)) (readCheckpoint s.store checkpointId) s
      (handle config env s (.getCheckpoint checkpointId)) :=
  commit_read _ (readCheckpoint · checkpointId) s

theorem handle_getJointCheckpoint (site) (checkpointId : String) :
    Fetches (env.answer (.getJointCheckpoint site checkpointId))
      ((s.store.jointCheckpoints.get? checkpointId).map (·.body)) s
      (handle config env s (.getJointCheckpoint site checkpointId)) :=
  commit_read _ (fun db => (db.jointCheckpoints.get? checkpointId).map JointCheckpointRow.body) s

end

/-- The store accepts the record: the identity is not joint and the execution route of a stored
record stays. -/
structure Storable (db : Db) (record : SessionRecord) : Prop where
  split : record.executionBacking.joint = none
  free : jointSessionIdentity db record.runtimeId = false
  route : ∀ old, db.sessions.get? record.runtimeId = some old →
    old.executionBacking = record.executionBacking

/-- The stored sessions after a save: the record replaces the one with its id, except for the
creation time. -/
def savedSessions (db : Db) (record : SessionRecord) : String → Option SessionRecord :=
  update db.sessions.get? record.runtimeId
    (some { record with createdAtMs :=
      ((db.sessions.get? record.runtimeId).map (·.createdAtMs)).getD record.createdAtMs })

/-- A save succeeds exactly on what the store accepts. -/
theorem run_saveSession_iff {record u} {db db' : Db} :
    (Joint.saveSession record).run db = .ok (u, db') ↔
      Storable db record ∧ db' = { db with
        sessions := (db.sessions.modify (fun id _ => id = record.runtimeId)
          fun old => { record with createdAtMs := old.createdAtMs }).add record.runtimeId
            record } := by
  simp only [Joint.saveSession, run_bind_eq_ok, run_require_eq_ok, run_get_eq_ok, run_modify_eq_ok]
  constructor
  · rintro ⟨_, _, ⟨hbacking, rfl⟩, _, _, ⟨rfl, rfl⟩, _, _, ⟨hfree, rfl⟩, _, db, ⟨hroute, rfl⟩, rfl⟩
    refine ⟨⟨by simpa using hbacking, by simpa using hfree, ?_⟩, rfl⟩
    intro old hold
    simpa [hold] using hroute
  · rintro ⟨hstore, rfl⟩
    refine ⟨(), db, ⟨by simp [hstore.split], rfl⟩, db, db, ⟨rfl, rfl⟩, (), db,
      ⟨by simp [hstore.free], rfl⟩, (), db, ⟨?_, rfl⟩, rfl⟩
    rw [Option.all_eq_true]
    intro old hold
    exact decide_eq_true (hstore.route old hold)

theorem get?_saved (db record) : ((db.sessions.modify (fun id _ => id = record.runtimeId)
      fun old => { record with createdAtMs := old.createdAtMs }).add record.runtimeId
        record).get? = savedSessions db record := by
  rw [get?_add_eq, get?_modify_eq, savedSessions]
  cases hold : db.sessions.get? record.runtimeId with
  | none =>
    rw [modified_of_no_match, extended_key hold]
    · rfl
    · intro id v hv
      simp only [decide_eq_false_iff_not]
      rintro rfl
      simp [hold] at hv
  | some old =>
    rw [modified_key hold, extended_of_some (update_self ..)]
    rfl

/-- The save goes through: the access does, and the store accepts the record. -/
structure Saves (env : Env) (site : Site) (db : Db) (record : SessionRecord) : Prop where
  access : ∃ u, env.answer (.saveSession site record) = .ok u
  accepted : Storable db record

/-- Saving a session writes its row, or fails and leaves the state. -/
theorem handle_saveSession (config env s site record) :
    (Saves env site s.store record ∧ ∃ sessions, sessions.get? = savedSessions s.store record ∧
        handle config env s (.saveSession site record) =
          (.ok (), s.withStore { s.store with sessions })) ∨ (¬ Saves env site s.store record ∧
        ∃ e, handle config env s (.saveSession site record) = (.error e, s)) := by
  dsimp only [handle, commit]
  cases hacc : env.answer (.saveSession site record) with
  | error e =>
    refine .inr ⟨fun hsaves => ?_, e, rfl⟩
    obtain ⟨u, hu⟩ := hsaves.access
    cases hacc.symm.trans hu
  | ok u =>
    rcases hrun : (Joint.saveSession record).run s.store with e | ⟨u', db'⟩
    · refine .inr ⟨fun hsaves => ?_, _, rfl⟩
      cases hrun.symm.trans ((run_saveSession_iff (u := ())).mpr ⟨hsaves.accepted, rfl⟩)
    · obtain ⟨hstore, rfl⟩ := run_saveSession_iff.mp hrun
      exact .inl ⟨⟨⟨u, hacc⟩, hstore⟩, _, get?_saved s.store record, rfl⟩

/-- The state with other announced intents. -/
def State.withIntents (s : State) (intents : Table String Json) : State :=
  s.withStore { s.store with snapshotOperations := intents }

/-- The answer comes with other announced intents, unless the access fails. -/
def Announces {β : Type} (access : Except SessionDomainError β) (s : State)
    (answer : Except SessionDomainError Unit × State) : Prop :=
  ((∃ u, access = .ok u) ∧ ∃ intents, answer = (.ok (), s.withIntents intents)) ∨
    ∃ e, access = .error e ∧ answer = (.error e, s)

section

variable (config : Config) (env : Env) (s : State)

/-- Announcing an intent fails only when the access does, and touches nothing else. -/
theorem handle_saveIntent (site) (id : String) (body) :
    Announces (env.answer (.saveIntent site id body)) s
      (handle config env s (.saveIntent site id body)) := by
  dsimp only [handle, commit]
  cases env.answer (.saveIntent site id body) with
  | error e => exact .inr ⟨e, rfl, rfl⟩
  | ok u => exact .inl ⟨⟨u, rfl⟩, _, rfl⟩

theorem handle_deleteIntent (id : String) :
    Announces (env.answer (.deleteIntent id)) s (handle config env s (.deleteIntent id)) := by
  dsimp only [handle, commit]
  cases env.answer (.deleteIntent id) with
  | error e => exact .inr ⟨e, rfl, rfl⟩
  | ok u => exact .inl ⟨⟨u, rfl⟩, _, rfl⟩

/-- A checkpoint is inserted, or the state stays. -/
theorem handle_saveCheckpoint (record) :
    (handle config env s (.saveCheckpoint record)).2 = s.withStore
        { s.store with checkpoints := s.store.checkpoints.add record.checkpointId record } ∨
      (handle config env s (.saveCheckpoint record)).2 = s := by
  rcases commit_cases (env.answer (.saveCheckpoint record)) (Joint.saveCheckpoint record) s with
    ⟨u, db, hrun, -, hcom⟩ | ⟨e, hcom⟩
  · simp only [Joint.saveCheckpoint, run_bind_eq_ok, run_get_eq_ok, run_require_eq_ok,
      run_insertRow_eq_ok] at hrun
    obtain ⟨_, _, ⟨rfl, rfl⟩, _, _, ⟨-, rfl⟩, -, -, rfl⟩ := hrun
    exact .inl (congrArg Prod.snd hcom)
  · exact .inr (congrArg Prod.snd hcom)

theorem handle_deleteCheckpoint (checkpointId : String) :
    (handle config env s (.deleteCheckpoint checkpointId)).2 = s.withStore { s.store with
        checkpoints := s.store.checkpoints.erase fun id _ => id = checkpointId } ∨
      (handle config env s (.deleteCheckpoint checkpointId)).2 = s := by
  rcases commit_cases (env.answer (.deleteCheckpoint checkpointId))
    (Joint.deleteCheckpoint checkpointId) s with ⟨u, db, hrun, -, hcom⟩ | ⟨e, hcom⟩
  · simp only [Joint.deleteCheckpoint, run_bind_eq_ok, run_get_eq_ok, run_modify_eq_ok] at hrun
    obtain ⟨_, _, ⟨rfl, rfl⟩, _, _, rfl, hdb⟩ := hrun
    obtain ⟨-, rfl⟩ := Prod.mk.inj (Except.ok.inj hdb)
    exact .inl (congrArg Prod.snd hcom)
  · exact .inr (congrArg Prod.snd hcom)

end

/-! ## Operations of a manager -/

/-- The answers of the outside to a manager that is asked at some place of a call. -/
def Env.managerAnswers (env : Env) (key : String) (site : Site) : Manager.Answers :=
  fun e => env.answer (.manager key site e)

/-- A manager's operation changes that manager and nothing else. -/
theorem eval_manager (key : String) (site) (p : ManagerM α) (s) :
    (manager key site p).eval (handle config env) s =
      (.ok (p.eval (Manager.handle (config.managers key) (env.managerAnswers key site))
          (s.managers key)).1,
        s.withManager key (p.eval (Manager.handle (config.managers key)
          (env.managerAnswers key site)) (s.managers key)).2) := by
  rw [manager, Prog.eval_attempt, (managerEmbedding_handles config env key site).eval_lift]
  rfl

theorem drops_manager (key : String) (site) (p : ManagerM α) (s) :
    (manager key site p).drops (handle config env) Effect.suspends s =
      (p.drops (Manager.handle (config.managers key) (env.managerAnswers key site))
          Manager.Effect.suspends (s.managers key)).map
        fun x => (.manager key site x.1, s.withManager key x.2) := by
  rw [manager, Prog.drops_attempt,
    (managerEmbedding_handles config env key site).drops_lift fun _ => rfl]
  rfl

/-! ## The slot of a new session -/

/-- The state with the slot of the caller's new session. -/
def State.slotReserved (s : State) (ctx : SecurityContext) : State :=
  match ctx.tenantId with
  | none => s
  | some tenant =>
    { s with
      tenantSessions := update s.tenantSessions tenant (s.tenantSessions tenant + 1) }

def State.slotReleased (s : State) (ctx : SecurityContext) : State :=
  match ctx.tenantId with
  | none => s
  | some tenant => s.releaseTenantSession tenant

/-- The tenant has a slot left. -/
def State.SlotFree (s : State) (ctx : SecurityContext) : Prop :=
  ∀ tenant limit, ctx.tenantId = some tenant → ctx.quota.maxSessions = some limit →
    s.tenantSessions tenant < limit

theorem reserveSlot_eval (config env ctx s) :
    (s.SlotFree ctx ∧ (reserveSlot ctx).eval (handle config env) s = (.ok (), s.slotReserved ctx)) ∨
      (¬ s.SlotFree ctx ∧ ∃ e, (reserveSlot ctx).eval (handle config env) s = (.error e, s)) := by
  unfold reserveSlot State.slotReserved
  cases hten : ctx.tenantId with
  | none => exact .inl ⟨by simp [State.SlotFree, hten], rfl⟩
  | some tenant =>
    simp only [perform, bind_def, effect_bind, eval_perform, handle, State.reserveTenantSession]
    cases hlimit : ctx.quota.maxSessions with
    | none => exact .inl ⟨by simp [State.SlotFree, hlimit], rfl⟩
    | some limit =>
      by_cases hfull : limit ≤ s.tenantSessions tenant
      · refine .inr ⟨fun hfree => ?_, ?_⟩
        · exact absurd (hfree tenant limit hten hlimit) (by omega)
        · simp [Option.filter, hfull]
      · refine .inl ⟨?_, ?_⟩
        · intro t l ht hl
          cases hten.symm.trans ht
          cases hlimit.symm.trans hl
          omega
        · simp [Option.filter, hfull]

@[simp] theorem releaseSlot_eval (ctx s) :
    (releaseSlot ctx).eval (handle config env) s = (.ok (), s.slotReleased ctx) := by
  unfold releaseSlot State.slotReleased
  cases ctx.tenantId <;> rfl

theorem slotReserved_store (s : State) (ctx) : (s.slotReserved ctx).store = s.store := by
  unfold State.slotReserved
  split <;> rfl

theorem release_store (s : State) (runtimeId operationId : String) :
    (s.release runtimeId operationId).store = s.store := by
  unfold State.release
  split <;> rfl

end XGovernor.App
