import XGovernor.App.Failures
import XGovernor.App.Isolation
import XGovernor.Lib.Tally
import XGovernor.Lib.TransitionSystem

/-!
# The slots of a tenant and its open sessions

The application counts the open sessions of a tenant in memory and rebuilds the count from the
store when it starts.  Here the count is compared with the stored sessions after every sequence of
completed calls.
-/

namespace XGovernor.App

open Domain Joint Manager Lib Function

variable {config : Config} {env : Env} {ctx : SecurityContext} {s s₁ s' : State}

/-! ## The books -/

variable (db : Db) (tenant : String) {record : SessionRecord} {id : String}

/-- The sessions of a tenant that are stored and not closed, on both routes. -/
def openSessions : Nat :=
  db.sessions.count (fun _ record => record.tenantId = some tenant && record.status ≠ .closed) +
    db.jointSessions.count fun _ row => row.tenantId = some tenant && row.status ≠ .closed

/-- The states that `active_session_counts_by_tenant` counts. -/
def SessionStatus.isActive : SessionStatus → Bool
  | .opening | .idle | .running | .paused => true
  | .failed | .closed => false

/-- `active_session_counts_by_tenant`. -/
def activeSessionCountsByTenant : Nat :=
  db.sessions.count (fun _ record => record.tenantId = some tenant &&
      SessionStatus.isActive record.status) +
    db.jointSessions.count fun _ row => row.tenantId = some tenant &&
      SessionStatus.isActive row.status

/-- `restore_tenant_session_counts`. -/
def State.restoreTenantSessionCounts (s : State) : State :=
  { s with tenantSessions := activeSessionCountsByTenant s.store }

/-- The rows of the split route stand under the id of their record, and are split. -/
structure Orderly (db : Db) : Prop where
  keyed : ∀ {id record}, db.sessions.get? id = some record → record.runtimeId = id
  split : ∀ {id record}, db.sessions.get? id = some record → record.executionBacking.joint = none

/-- Who a stored split session belongs to, and whether it is closed. -/
def accountAt (id : String) : Option (Option String × Bool) :=
  (db.sessions.get? id).map fun record => (record.tenantId, decide (record.status = .closed))

/-- The tenant a stored split session has to be counted for. -/
def countedAt (id : String) : Option String :=
  (accountAt db id).bind fun account => if account.2 then none else account.1

theorem countedAt_eq : countedAt db = fun id => (db.sessions.get? id).bind fun record =>
    if record.status = .closed then none else record.tenantId := by
  funext id
  unfold countedAt accountAt
  cases db.sessions.get? id with
  | none => rfl
  | some record => simp

theorem finiteSupport_countedAt : FiniteSupport (countedAt db) := by
  rw [countedAt_eq]
  exact Table.finiteSupport _ _

theorem openSessions_eq :
    openSessions db tenant = tally (countedAt db) tenant +
      db.jointSessions.count fun _ row => row.tenantId = some tenant && row.status ≠ .closed := by
  rw [countedAt_eq, ← Table.count_eq_tally, openSessions]
  congr 2
  funext _ record
  by_cases hclosed : record.status = .closed <;> simp [hclosed]

/-- **The books balance**: the count of a tenant is the number of its open sessions. -/
def Balanced (s : State) : Prop :=
  ∀ tenant, s.tenantSessions tenant = openSessions s.store tenant

/-! ## What a call does to the books -/

/-- The store after a call: in order, and with the joint sessions as they were. -/
structure StoreKept (s s' : State) : Prop where
  orderly : Orderly s'.store
  joint : s'.store.jointSessions = s.store.jointSessions

/-- Nothing is booked. -/
structure NotBooked (s s' : State) : Prop extends StoreKept s s' where
  slots : s'.tenantSessions = s.tenantSessions
  accounts : accountAt s'.store = accountAt s.store

/-- A session of the caller is booked under an id that is not counted. -/
structure BookedOpen (ctx : SecurityContext) (id : String) (s s' : State) : Prop
    extends StoreKept s s' where
  slots : s'.tenantSessions = (s.slotReserved ctx).tenantSessions
  free : countedAt s.store id = none
  counted : countedAt s'.store = update (countedAt s.store) id ctx.tenantId

/-- A session is booked out. -/
structure BookedOut (tenant : Option String) (id : String) (s s' : State) : Prop
    extends StoreKept s s' where
  slots : s'.tenantSessions = match tenant with
    | some tenant => (s.releaseTenantSession tenant).tenantSessions
    | none => s.tenantSessions
  open_ : countedAt s.store id = tenant
  counted : countedAt s'.store = update (countedAt s.store) id none

/-- What a completed call may do to the books. -/
inductive Booking (s s' : State) : Prop where
  | none (h : NotBooked s s')
  | open_ (ctx : SecurityContext) (id : String) (h : BookedOpen ctx id s s')
  | out (tenant : Option String) (id : String) (h : BookedOut tenant id s s')

theorem Booking.orderly (h : Booking s s') : Orderly s'.store := by
  cases h with
  | none h => exact h.orderly
  | open_ ctx id h => exact h.orderly
  | out tenant id h => exact h.orderly

theorem NotBooked.countedAt (h : NotBooked s s') : countedAt s'.store = countedAt s.store := by
  funext id
  unfold App.countedAt
  rw [h.accounts]

theorem NotBooked.balanced (h : NotBooked s s') (hs : Balanced s) : Balanced s' := by
  intro tenant
  rw [h.slots, hs tenant, openSessions_eq, openSessions_eq, h.countedAt, h.joint]

theorem BookedOpen.balanced (h : BookedOpen ctx id s s') (hs : Balanced s) :
    Balanced s' := by
  intro t
  have hbef := hs t
  rw [openSessions_eq] at hbef
  rw [h.slots, openSessions_eq, h.counted, h.joint]
  cases hten : ctx.tenantId with
  | none =>
    have hsame : update (countedAt s.store) id none = countedAt s.store := by
      rw [← h.free, update_eq_self]
    simpa only [State.slotReserved, hten, hsame] using hbef
  | some tenant =>
    rw [tally_update_some (finiteSupport_countedAt _) h.free]
    by_cases ht : tenant = t
    · subst ht
      simp only [State.slotReserved, hten, update_self, if_pos]
      omega
    · simp only [State.slotReserved, hten, update_of_ne (Ne.symm ht), if_neg ht]
      omega

theorem BookedOut.balanced {tenant} (h : BookedOut tenant id s s') (hs : Balanced s) :
    Balanced s' := by
  intro t
  have hbef := hs t
  rw [openSessions_eq] at hbef
  rw [h.slots, openSessions_eq, h.counted, h.joint]
  cases tenant with
  | none =>
    have hsame : update (countedAt s.store) id none = countedAt s.store := by
      rw [← h.open_, update_eq_self]
    simpa only [hsame] using hbef
  | some tenant =>
    rw [tally_update_none (finiteSupport_countedAt _) h.open_] at hbef
    by_cases ht : tenant = t
    · subst ht
      simp only [State.releaseTenantSession, update_self, if_pos] at hbef ⊢
      omega
    · simp only [State.releaseTenantSession, update_of_ne (Ne.symm ht), if_neg ht]
        at hbef ⊢
      omega

/-- **Every booking keeps the balance.** -/
theorem Booking.balanced (h : Booking s s') (hs : Balanced s) : Balanced s' := by
  cases h with
  | none h => exact h.balanced hs
  | open_ ctx id h => exact h.balanced hs
  | out tenant id h => exact h.balanced hs

/-! ## Saving a record -/

theorem Orderly.saved {db db'} (h : Orderly db) (hacc : Storable db record)
    (hsess : db'.sessions.get? = savedSessions db record) : Orderly db' := by
  have hrow {id : String} {old : SessionRecord} (hold : db'.sessions.get? id = some old) :
      old.runtimeId = id ∧ old.executionBacking.joint = none := by
    rw [hsess, savedSessions] at hold
    rcases update_cases hold with ⟨rfl, ⟨⟩⟩ | ⟨-, hold⟩
    · exact ⟨rfl, hacc.split⟩
    · exact ⟨h.keyed hold, h.split hold⟩
  exact ⟨fun hold => (hrow hold).1, fun hold => (hrow hold).2⟩

theorem accountAt_saved {db db'} (hsess : db'.sessions.get? = savedSessions db record) :
    accountAt db' = update (accountAt db) record.runtimeId
      (some (record.tenantId, decide (record.status = .closed))) := by
  change Option.map _ ∘ db'.sessions.get? = _
  rw [hsess, savedSessions, Function.comp_update]
  rfl

theorem countedAt_saved {db db'} (hsess : db'.sessions.get? = savedSessions db record) :
    countedAt db' = update (countedAt db) record.runtimeId
      (if record.status = .closed then none else record.tenantId) := by
  change (fun account => Option.bind account _) ∘ accountAt db' = _
  rw [accountAt_saved hsess, Function.comp_update]
  simp only [Option.bind_some, decide_eq_true_eq]
  rfl

/-! ## Creations -/

theorem NotBooked.refl (hord : Orderly s.store) : NotBooked s s :=
  ⟨⟨hord, rfl⟩, rfl, rfl⟩

theorem NotBooked.trans {a b c} (hab : NotBooked a b) (hbc : NotBooked b c) :
    NotBooked a c :=
  ⟨⟨hbc.orderly, hbc.joint.trans hab.joint⟩, hbc.slots.trans hab.slots,
    hbc.accounts.trans hab.accounts⟩

/-- The books depend on the slots and on the sessions that are stored. -/
theorem NotBooked.of_store (hord : Orderly s.store) (hslots : s'.tenantSessions = s.tenantSessions)
    (hsess : s'.store.sessions = s.store.sessions)
    (hjoint : s'.store.jointSessions = s.store.jointSessions) : NotBooked s s' where
  orderly := ⟨by rw [hsess]; exact hord.keyed, by rw [hsess]; exact hord.split⟩
  joint := hjoint
  slots := hslots
  accounts := by
    unfold accountAt
    rw [hsess]

/-- A creation that does not leak books its session or nothing. -/
theorem Outcome.booking {target} {leak : Prop} {r}
    (h : Outcome ctx target leak (s.slotReserved ctx) r) (hclean : ¬ leak)
    (hord : Orderly s.store) (hfree : countedAt s.store target = none) : Booking s r.2 := by
  cases h with
  | leaked error s' hleak => exact absurd hleak hclean
  | abandoned error s' haband =>
    obtain ⟨intents, hstore⟩ := haband.store
    rw [slotReserved_store] at hstore
    refine .none (.of_store hord ?_ (by rw [hstore]) (by rw [hstore]))
    rw [haband.slots, slotReleased_slotReserved]
  | published response s' hnew hpub =>
    have hsess := hpub.sessions
    have hacc := hpub.accepted
    have hjoint := hpub.joint
    rw [slotReserved_store] at hsess hacc hjoint
    refine .open_ ctx target ⟨⟨hord.saved hacc hsess, hjoint⟩, hpub.slots, hfree, ?_⟩
    rw [countedAt_saved hsess, hnew.runtimeId, hnew.status, hnew.tenantId]
    rfl

end XGovernor.App
