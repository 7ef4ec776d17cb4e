import XGovernor.App.Admitted
import XGovernor.App.Calls
import XGovernor.Joint.Tenancy

/-!
# Records of other tenants

What a call of one tenant does to the stored sessions and checkpoints of the others.  A record is
written under the id it carries, so it matters that a row stands under the id of its record, and
that no id is used on both execution routes.  Both hold in every store that transactions lead to.

A call on the joint route is handed over to an owner.  The owner writes to the same store, by the
transactions of the joint repository, and makes them for the tenant of the call; what these leave
alone is a matter of the repository (`Tenancy`).
-/

namespace XGovernor.App

open Domain Joint Manager Lib Function Prog Tx

variable {config : Config} {store : StoreConfig} {env : Env} {ctx : SecurityContext} {s : State}
  {old : SessionRecord} {e : Effect}

/-! ## Rows of others -/

/-- The sessions and checkpoints of tenants other than `tenant` are as before. -/
structure ForeignKept (tenant : Option String) (db db' : Db) : Prop where
  sessions : ∀ {id record}, db.sessions.get? id = some record → record.tenantId ≠ tenant →
    db'.sessions.get? id = some record
  checkpoints : ∀ {id record}, db.checkpoints.get? id = some record → record.tenantId ≠ tenant →
    db'.checkpoints.get? id = some record
  jointSessions : ∀ {id row}, db.jointSessions.get? id = some row → row.body.tenantId ≠ tenant →
    db'.jointSessions.get? id = some row
  jointCheckpoints : ∀ {id row}, db.jointCheckpoints.get? id = some row →
    row.body.tenantId ≠ tenant → db'.jointCheckpoints.get? id = some row

section Kept

variable {tenant : Option String} {db db' db'' : Db}

theorem ForeignKept.refl (tenant db) : ForeignKept tenant db db :=
  ⟨fun h _ => h, fun h _ => h, fun h _ => h, fun h _ => h⟩

theorem ForeignKept.trans (h : ForeignKept tenant db db') (h' : ForeignKept tenant db' db'') :
    ForeignKept tenant db db'' where
  sessions := fun hrow hten => h'.sessions (h.sessions hrow hten) hten
  checkpoints := fun hrow hten => h'.checkpoints (h.checkpoints hrow hten) hten
  jointSessions := fun hrow hten => h'.jointSessions (h.jointSessions hrow hten) hten
  jointCheckpoints := fun hrow hten => h'.jointCheckpoints (h.jointCheckpoints hrow hten) hten

end Kept

/-! ## Joint owners -/

/-- A transaction that an owner commits for a tenant. -/
def OwnerCommit (store : StoreConfig) (tenant : Option String) (db : Db)
    (event : Joint.Call × Joint.Reply) (db' : Db) : Prop :=
  Commit store db event db' ∧ event.1.ActsFor db tenant

/-- The joint owners write to the store by transactions of the joint repository, which they make
for the tenant of the call that they serve. -/
def OwnerActs (store : StoreConfig) (env : Env) : Prop :=
  ∀ call db, StoreReachable store db →
    ∃ tr, Run (OwnerCommit store call.tenantId) db tr (env.ownerWrites call db)

/-- **Owners respect tenants**, and leave the sessions of the split route alone. -/
theorem OwnerActs.kept (howner : OwnerActs store env) (call) {db} (h : StoreReachable store db) :
    StoreReachable store (env.ownerWrites call db) ∧
      ForeignKept call.tenantId db (env.ownerWrites call db) ∧
      (env.ownerWrites call db).sessions = db.sessions := by
  obtain ⟨tr, hrun⟩ := howner call db h
  refine hrun.invariant (P := fun t => StoreReachable store t ∧ ForeignKept call.tenantId db t ∧
    t.sessions = db.sessions) ⟨h, .refl _ _, rfl⟩ ?_
  rintro t event t' ⟨hreach, hkept, hsess⟩ ⟨hcom, hacts⟩
  have heff := effect_of_commit hcom
  have tenancy := tenancy_of_storeReachable hreach
  obtain ⟨hsessions, hcheckpoints⟩ := heff.split_kept hacts
  refine ⟨hreach.run (Run.nil.snoc hcom), hkept.trans ⟨?_, ?_, ?_, ?_⟩, hsessions.trans hsess⟩
  · exact fun hrow _ => hsessions ▸ hrow
  · exact fun hrow _ => hcheckpoints ▸ hrow
  · exact tenancy.session_kept heff hacts
  · exact tenancy.checkpoint_kept heff hacts

/-! ## Reachable stores -/

theorem storeReachable_commit {α β : Type} {tx : StoreTx α} {reply : α → Joint.Reply}
    (h : StoreReachable store s.store) (call : Joint.Call)
    (hexec : Joint.exec store call = answering reply tx) (access : Except SessionDomainError β) :
    StoreReachable store (commit access tx s).2.store := by
  unfold commit
  split
  · exact h
  · split
    · exact h
    next a db hrun =>
      have hcom : Commit store s.store (call, reply a) db := by
        unfold Commit
        rw [hexec]
        exact run_answering_eq_ok.2 ⟨a, hrun, rfl⟩
      exact h.run (Run.nil.snoc hcom)

/-- The effects that write the store. -/
def Effect.writesStore : Effect → Bool
  | saveSession _ _ | saveCheckpoint _ | deleteCheckpoint _ | saveIntent _ _ _ | deleteIntent _
  | owner _ => true
  | _ => false

theorem handle_store (he : e.writesStore = false) :
    (handle config env s e).2.store = s.store := by
  cases e with
  | reserveTenantSession tenant limit =>
    dsimp only [handle, State.reserveTenantSession]
    split <;> rfl
  | claim runtimeId turnId =>
    dsimp only [handle, State.claim]
    split <;> rfl
  | release runtimeId turnId =>
    dsimp only [handle, State.release]
    split <;> rfl
  | getSession _ _ | getCheckpoint _ | getJointCheckpoint _ _ => rw [handle_of_passive rfl]
  | _ => first | rfl | simp [Effect.writesStore] at he

/-- Every effect on the store is a transaction of the repository, or some of an owner. -/
theorem storeReachable_handle (howner : OwnerActs store env) (h : StoreReachable store s.store)
    (e) : StoreReachable store (handle config env s e).2.store := by
  cases e with
  | saveSession site record => exact storeReachable_commit h (.saveSession record) rfl _
  | saveCheckpoint record => exact storeReachable_commit h (.saveCheckpoint record) rfl _
  | deleteCheckpoint id => exact storeReachable_commit h (.deleteCheckpoint id) rfl _
  | saveIntent site id body => exact storeReachable_commit h (.saveOperationIntent id body) rfl _
  | deleteIntent id => exact storeReachable_commit h (.deleteOperationIntent id) rfl _
  | owner call => exact (howner.kept call h).1
  | _ =>
    rw [handle_store rfl]
    exact h

/-- A lookup returns the record that stands under the id. -/
theorem readSession_runtimeId {db id record} (h : StoreReachable store db)
    (hfound : Joint.readSession db id = some record) : record.runtimeId = id := by
  have tenancy := tenancy_of_storeReachable h
  unfold Joint.readSession at hfound
  split at hfound
  next row hrow =>
    obtain rfl := Option.some.inj hfound
    exact (tenancy.sessions id row hrow).1
  next => exact tenancy.splitSessions id record hfound

/-! ## One effect -/

/-- The row with this id may be written: it does not belong to somebody else. -/
def Writable (tenant : Option String) (db : Db) (id : String) : Prop :=
  ∀ record, db.sessions.get? id = some record → record.tenantId = tenant

/-- What a reply says: generated ids are those of the outside, and lookups return the rows of others
unchanged. -/
def Faithful (env : Env) (tenant : Option String) (db : Db) : (e : Effect) → e.Reply → Prop
  | .nextRuntimeId site, id => id = env.answer (.nextRuntimeId site)
  | .getSession _ id, .ok (some record) => record.runtimeId = id ∧
      (record.tenantId = tenant → Writable tenant db id)
  | .getSession _ id, .ok none => Writable tenant db id
  | .getCheckpoint id, .ok (some record) => ∀ old, db.checkpoints.get? id = some old →
      old.tenantId ≠ tenant → record = old
  | _, _ => True

/-- The effects that write no row of others. -/
def Harmless (tenant : Option String) (db : Db) : Effect → Prop
  | .saveSession _ record => Writable tenant db record.runtimeId
  | .deleteCheckpoint id => ∀ old, db.checkpoints.get? id = some old → old.tenantId = tenant
  | .owner call => call.tenantId = tenant
  | _ => True

/-- The rows of others are as they were in `db₀`, and transactions have led to the store. -/
structure Isolated (store : StoreConfig) (tenant : Option String) (db₀ db : Db) : Prop where
  kept : ForeignKept tenant db₀ db
  reachable : StoreReachable store db

theorem Isolated.refl {db} (tenant) (h : StoreReachable store db) : Isolated store tenant db db :=
  ⟨.refl tenant db, h⟩

section Steps

variable {tenant : Option String} {db₀ db : Db} {record : SessionRecord} {id : String}

section

variable (h : Isolated store tenant db₀ db)
include h

/-- What a tenant finds under an id as its own, or does not find, it may write there. -/
theorem Isolated.writable
    (howned : ∀ record, readSession db id = some record → record.tenantId = tenant) :
    Writable tenant db₀ id := by
  intro old hold
  by_contra hten
  have hrow := h.kept.sessions hold hten
  have hjoint : db.jointSessions.get? id = none :=
    ((identitiesApart_of_storeReachable h.reachable).sessions id (by simp [hrow])).1
  refine hten (howned old ?_)
  rw [readSession, hjoint]
  exact hrow

end

section

variable (h : Isolated store tenant db₀ s.store)
include h

theorem Isolated.faithful_getSession (site id) :
    Faithful env tenant db₀ (.getSession site id)
      (handle config env s (.getSession site id)).1 := by
  rcases handle_getSession config env s site id with ⟨b, -, hread⟩ | ⟨e, -, hread⟩
  · rw [hread]
    cases hfound : readSession s.store id with
    | none =>
      refine h.writable fun record hrow => ?_
      cases hfound.symm.trans hrow
    | some record =>
      refine ⟨readSession_runtimeId h.reachable hfound, fun howned => h.writable ?_⟩
      intro record' hrow
      rw [Option.mem_unique hrow hfound]
      exact howned
  · rw [hread]
    trivial

theorem Isolated.faithful_getCheckpoint (id) :
    Faithful env tenant db₀ (.getCheckpoint id) (handle config env s (.getCheckpoint id)).1 := by
  rcases handle_getCheckpoint config env s id with ⟨b, -, hread⟩ | ⟨e, -, hread⟩
  · rw [hread]
    cases hfound : readCheckpoint s.store id with
    | none => trivial
    | some record =>
      intro old hold hten
      exact Option.mem_unique (checkpoint_of_readCheckpoint hfound) (h.kept.checkpoints hold hten)
  · rw [hread]
    trivial

theorem Isolated.kept_saveSession (hwritable : Writable tenant db₀ record.runtimeId) (site) :
    ForeignKept tenant db₀ (handle config env s (.saveSession site record)).2.store := by
  rcases handle_saveSession config env s site record with
    ⟨-, sessions, hsess, hhandle⟩ | ⟨-, e, hhandle⟩
  · rw [hhandle]
    refine ⟨fun {id old} hrow hten => ?_, h.kept.checkpoints, h.kept.jointSessions,
      h.kept.jointCheckpoints⟩
    have hid : id ≠ record.runtimeId := by
      rintro rfl
      exact hten (hwritable _ hrow)
    have hother : sessions.get? id = s.store.sessions.get? id := by
      rw [hsess]
      exact update_of_ne hid ..
    exact hother.trans (h.kept.sessions hrow hten)
  · rw [hhandle]
    exact h.kept

theorem Isolated.kept_saveCheckpoint (record) :
    ForeignKept tenant db₀ (handle config env s (.saveCheckpoint record)).2.store := by
  rcases handle_saveCheckpoint config env s record with hstore | hstore <;> rw [hstore]
  · refine ⟨h.kept.sessions, fun hrow hten => ?_, h.kept.jointSessions, h.kept.jointCheckpoints⟩
    -- an insertion never replaces a row
    exact (Table.get?_add ..).trans (by rw [h.kept.checkpoints hrow hten]; rfl)
  · exact h.kept

theorem Isolated.kept_deleteCheckpoint {checkpointId}
    (howned : ∀ old, db₀.checkpoints.get? checkpointId = some old → old.tenantId = tenant) :
    ForeignKept tenant db₀ (handle config env s (.deleteCheckpoint checkpointId)).2.store := by
  rcases handle_deleteCheckpoint config env s checkpointId with hstore | hstore <;> rw [hstore]
  · refine ⟨h.kept.sessions, fun {id record} hrow hten => ?_, h.kept.jointSessions,
      h.kept.jointCheckpoints⟩
    have hid : id ≠ checkpointId := by
      rintro rfl
      exact hten (howned _ hrow)
    refine (Table.get?_erase ..).trans ?_
    rw [h.kept.checkpoints hrow hten]
    simp [Option.filter, hid]
  · exact h.kept

/-- The announced intents are nobody's records. -/
theorem Isolated.kept_announces {answer : Except SessionDomainError Unit}
    {outcome : Except SessionDomainError Unit × State} (hannounces : Announces answer s outcome) :
    ForeignKept tenant db₀ outcome.2.store := by
  rcases hannounces with ⟨-, intents, rfl⟩ | ⟨e, -, rfl⟩
  · exact ⟨h.kept.sessions, h.kept.checkpoints, h.kept.jointSessions, h.kept.jointCheckpoints⟩
  · exact h.kept

/-- **One harmless effect** leaves the rows of others, and its reply tells the truth about them. -/
theorem Isolated.step (howner : OwnerActs store env) (he : Harmless tenant db₀ e) :
    Faithful env tenant db₀ e (handle config env s e).1 ∧
      Isolated store tenant db₀ (handle config env s e).2.store := by
  refine ⟨?_, ?_, storeReachable_handle howner h.reachable e⟩
  · cases e with
    | getSession site id => exact h.faithful_getSession site id
    | getCheckpoint id => exact h.faithful_getCheckpoint id
    | nextRuntimeId site => rfl
    | _ => trivial
  · cases e with
    | saveSession site record => exact h.kept_saveSession he site
    | saveCheckpoint record => exact h.kept_saveCheckpoint record
    | deleteCheckpoint id => exact h.kept_deleteCheckpoint he
    | saveIntent site id body => exact h.kept_announces (handle_saveIntent config env s site id body)
    | deleteIntent id => exact h.kept_announces (handle_deleteIntent config env s id)
    | owner call =>
      have hkept := (howner.kept call h.reachable).2.1
      rw [show call.tenantId = tenant from he] at hkept
      exact h.kept.trans hkept
    | _ =>
      rw [handle_store rfl]
      exact h.kept

/-- A program of harmless effects leaves the rows of others. -/
theorem Isolated.eval (howner : OwnerActs store env) {α : Type} {p : AppM α}
    (hp : p.Obeys (Faithful env tenant db₀) (Harmless tenant db₀)) :
    Isolated store tenant db₀ (p.eval (handle config env) s).2.store :=
  hp.eval_invariant (I := fun s' => Isolated store tenant db₀ s'.store)
    (fun _ _ _ hs he => hs.step howner he) h

end

end Steps

/-! ## The rules -/

section Rules

variable {db : Db} {runtimeId : String} {tenant : Option String}

/-- The records a tenant may write. -/
structure Owned (tenant : Option String) (db : Db) (record : SessionRecord) : Prop where
  tenantId : record.tenantId = tenant
  writable : Writable tenant db record.runtimeId

theorem Owned.writesBack {new}
    (h : Owned tenant db old) (hback : WritesBack old new) : Owned tenant db new :=
  ⟨hback.tenantId.trans h.tenantId, by rw [hback.runtimeId]; exact h.writable⟩

theorem owns_iff (hrole : ctx.role = .tenant) (tenant) :
    ctx.owns tenant = true ↔ tenant = ctx.tenantId := by
  simp [SecurityContext.owns, hrole, eq_comm]

theorem Harmless.of_writesRecords (he : e.writesRecords = false) : Harmless tenant db e := by
  cases e <;> trivial

section

variable (hrole : ctx.role = .tenant) (db : Db) (runtimeId : String)
include hrole

/-- What a tenant's call finds belongs to the tenant. -/
theorem lookupRules_isolated :
    LookupRules ctx runtimeId (Faithful env ctx.tenantId db)
      (fun e _ => Harmless ctx.tenantId db e) (Owned ctx.tenantId db) where
  passive := fun _ he _ => Harmless.of_writesRecords (Effect.writesRecords_of_passive he)
  owner := fun hown _ hcall => hcall.trans hown.tenantId
  neutral := fun _ he _ => Harmless.of_writesRecords he
  read := by
    intro site record hread howns
    obtain ⟨hid, hwritable⟩ := hread
    have hten := (owns_iff hrole _).mp howns
    exact ⟨hten, by rw [hid]; exact hwritable hten⟩

/-- A tenant's call on a session writes only sessions of the tenant. -/
theorem callRules_isolated :
    CallRules ctx runtimeId (Faithful env ctx.tenantId db)
      (fun e _ => Harmless ctx.tenantId db e) (Owned ctx.tenantId db) where
  toLookupRules := lookupRules_isolated hrole db runtimeId
  save := fun _ hown hback => (hown.writesBack hback).writable
  guard := fun _ _ _ he => he

theorem closeRules_isolated :
    CloseRules ctx runtimeId (Faithful env ctx.tenantId db)
      (fun e _ => Harmless ctx.tenantId db e) (Owned ctx.tenantId db) where
  toLookupRules := lookupRules_isolated hrole db runtimeId
  destroy := fun _ _ _ => trivial
  closed := by
    intro old new hown hid _ _ _
    show Writable _ _ new.runtimeId
    rw [hid]
    exact hown.writable
  slot := fun _ => trivial

end

/-- A creation under an id that nobody else uses writes no row of others. -/
theorem createRules_isolated (hwritable : Writable tenant db runtimeId) :
    CreateRules ctx runtimeId fun e _ => Harmless tenant db e where
  neutral := fun _ he => Harmless.of_writesRecords he
  instances := fun _ _ _ _ => trivial
  publish := by
    intro record hnew
    show Writable _ _ record.runtimeId
    rw [hnew.runtimeId]
    exact hwritable

section

variable (hrole : ctx.role = .tenant)
include hrole

theorem openRules_isolated (db) (requested : Option String) :
    OpenRules ctx requested (Faithful env ctx.tenantId db)
      (fun e _ => Harmless ctx.tenantId db e) (Owned ctx.tenantId db) where
  neutral := fun _ he _ => Harmless.of_writesRecords he
  owner := fun _ hcall => hcall
  attach := fun _ => callRules_isolated hrole db _
  create := fun _ hnone => createRules_isolated hnone

theorem harmless_owner {call}
    (howns : ctx.owns call.tenantId = true) : Harmless ctx.tenantId db (.owner call) :=
  (owns_iff hrole _).mp howns

/-- Only a checkpoint that was read as one's own is deleted. -/
theorem obeys_deleteCheckpoint (checkpointId : String) :
    (deleteCheckpoint config ctx checkpointId).Obeys (Faithful env ctx.tenantId db)
      (Harmless ctx.tenantId db) := by
  refine ⟨trivial, fun found _ => .orFail fun joint => ?_⟩
  cases joint with
  | some checkpoint =>
    dsimp only [Option.isSome, deleteJointCheckpoint, bind_def, Prog.require]
    rw [if_pos rfl]
    split
    next howns =>
      refine .orFail fun _ => ⟨harmless_owner hrole howns, fun _ _ =>
        .orFail fun deleted => ?_⟩
      split
      · exact ⟨trivial, fun _ _ => .orFail fun _ =>
          .require fun _ => trivial⟩
      · trivial
    next => trivial
  | none =>
    refine ⟨trivial, fun _ _ => ⟨trivial, fun found hfound => ?_⟩⟩
    rcases found with error | _ | checkpoint
    · trivial
    · trivial
    · simp only [bind_def, orFail_ok, ret_bind, Option.filter_some]
      cases howns : ctx.owns checkpoint.tenantId with
      | false => trivial
      | true =>
        have howned (old : CheckpointRecord) (hold : db.checkpoints.get? checkpointId = some old) :
            old.tenantId = ctx.tenantId := by
          by_contra hten
          obtain rfl := hfound old hold hten
          exact hten ((owns_iff hrole _).mp howns)
        have hman {α : Type} (p : ManagerM α) (key : String) (site : Site) :
            (manager key site p).Obeys (Faithful env ctx.tenantId db)
              (Harmless ctx.tenantId db) :=
          (Embedding.runs_lift (fun _ _ _ => trivial) (runs_true p)).attempt
        exact .orFail fun _ => .orFail fun _ =>
          ⟨trivial, fun _ _ => .orFail fun _ => (hman _ _ _).bind fun _ =>
            .orFail fun _ => ⟨trivial, fun _ _ => .orFail
              fun _ => ⟨howned, fun _ _ => .orFail fun _ =>
                ⟨trivial, fun _ _ => .orFail fun _ => trivial⟩⟩⟩⟩

end

end Rules

end XGovernor.App
