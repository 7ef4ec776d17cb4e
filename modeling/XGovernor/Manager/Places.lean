import XGovernor.Manager.Concurrent

/-!
# How far a call of an instance manager has come

A call that starts, stops or retries works under the lock of one runtime.  What it has taken at
each point (a place in the quota, a provider instance, an entry of the registry that it is about to
remove) follows from the effects it has performed since it got the lock.
-/

namespace XGovernor.Manager

open Lib Prog

/-- What a call has found and taken since it got the lock of a runtime. -/
inductive Stage where
  | clear
  | vacant
  | reserved (owner : String)
  | obtained (owner instanceId : String)
  | recorded (owner instanceId : String)
  | tracked (owner instanceId : String)
  | found (instanceId : String)
  | released (instanceId : String)
deriving DecidableEq, Repr

namespace Stage

/-- Nothing has been taken, so the lock may be given back. -/
def Loose : Stage → Prop
  | clear | vacant | found _ => True
  | _ => False

/-- The owner that a place in the quota is reserved for. -/
def reservation : Stage → Option String
  | reserved owner | obtained owner _ | recorded owner _ | tracked owner _ => some owner
  | _ => none

/-- The instance that is not registered yet. -/
def newInstance : Stage → Option String
  | obtained _ instanceId | recorded _ instanceId | tracked _ instanceId => some instanceId
  | _ => none

/-- The effects that a call may perform at a stage under the lock of `runtimeId`. -/
def Allows (runtimeId : String) (stage : Stage) : Effect → Prop
  | .lookup key => key = runtimeId ∧ stage = clear
  | .reserve _ _ => stage = vacant
  | .rollbackReservation owner => stage = reserved owner ∨ ∃ id, stage = obtained owner id
  | .create _ request => stage = reserved request.ownerRef
  | .load request => stage = reserved request.ownerRef
  | .recordCreated key owner instance_ =>
    key = runtimeId ∧ stage = obtained owner instance_.instanceId
  | .trackInstance instanceId owner => stage = recorded owner instanceId
  | .insert key bound =>
    key = runtimeId ∧ ∃ owner, stage = tracked owner bound.instance_.instanceId
  | .recordDeleted key => key = runtimeId ∧ stage.Loose
  | .releaseInstance instanceId => stage = found instanceId
  | .remove key => key = runtimeId ∧ ∃ id, stage = released id
  | .rehydrateOne _ _ | .clearRestoreError _ | .noteRestoreError _ _ | .runtimeLock _
  | .takeDue => False
  | _ => ∀ id, stage ≠ released id

/-- The stage after an effect. -/
def next (stage : Stage) : (e : Effect) → e.Reply → Stage
  | .lookup _, none => vacant
  | .lookup _, some bound => found bound.instance_.instanceId
  | .reserve owner _, .ok () => reserved owner
  | .create _ request, .ok instance_ => obtained request.ownerRef instance_.instanceId
  | .load request, .ok instance_ => obtained request.ownerRef instance_.instanceId
  | .recordCreated _ owner instance_, .ok () => recorded owner instance_.instanceId
  | .trackInstance instanceId owner, _ => tracked owner instanceId
  | .releaseInstance instanceId, _ => released instanceId
  | .rollbackReservation _, _ | .insert _ _, _ | .remove _, _ => clear
  | _, _ => stage

end Stage

/-- The runtime whose lock a call holds, and how far it has come since. -/
abbrev Place := Option (String × Stage)

/-- A deletion that comes right after a lookup is of the instance that was found. -/
def foundIsDeleted : (e : Effect) → e.Reply → Option Effect → Bool
  | .lookup _, some bound, some (.delete request) =>
    request.instanceId = some bound.instance_.instanceId
  | _, _, _ => true

/-- The places of the manager's programs. -/
def managerProtocol : Protocol Effect Effect.Reply Place where
  allowed := fun place e =>
    match place with
    | none => e = .takeDue
    | some (runtimeId, stage) => stage.Allows runtimeId e
  rely := fun _ e r after => foundIsDeleted e r after
  next := fun place e r => place.map fun (runtimeId, stage) => (runtimeId, stage.next e r)
  rely_none := by
    intro _ e r _ _
    cases e <;> try rfl
    cases r <;> rfl

def WorldEffect.inner : WorldEffect → Option Effect
  | manager e => some e
  | _ => none

/-- The places of the calls: the lock is taken with nothing in hand and given back so. -/
def callProtocol : Protocol WorldEffect WorldEffect.Reply Place where
  allowed := fun place e =>
    match e with
    | .lock _ => place = none
    | .unlock runtimeId => ∃ stage : Stage, place = some (runtimeId, stage) ∧ stage.Loose
    | .manager e => managerProtocol.allowed place e
  rely := fun place e r after =>
    match e, r with
    | .manager e, r => managerProtocol.rely place e r (after.bind WorldEffect.inner)
    | _, _ => True
  next := fun place e r =>
    match e, r with
    | .lock runtimeId, _ => some (runtimeId, .clear)
    | .unlock _, _ => none
    | .manager e, r => managerProtocol.next place e r
  rely_none := by
    intro _ e r _ hrely
    cases e with
    | lock _ => trivial
    | unlock _ => trivial
    | manager e => exact managerProtocol.rely_none hrely

/-! ## Programs under the lock -/

section Locked

variable {config : Config} {runtimeId owner : String}

/-- The program ends with nothing in hand. -/
def EndsLoose {α : Type} (runtimeId : String) (place : Place)
    (_ : Except ProviderControlError α) : Prop :=
  ∃ stage : Stage, place = some (runtimeId, stage) ∧ stage.Loose

/-- The program ends with an instance if it returns one, and with the reservation alone if not. -/
def EndsObtained (runtimeId owner : String) (place : Place) :
    Except ProviderControlError ProviderInstance → Prop
  | .ok instance_ => place = some (runtimeId, .obtained owner instance_.instanceId)
  | .error _ => place = some (runtimeId, .reserved owner)

theorem follows_createLoop {request} (howner : request.ownerRef = owner)
    (remaining attempt delayMs : Nat) :
    (createLoop config request remaining attempt delayMs).Follows managerProtocol
      (EndsObtained runtimeId owner) (some (runtimeId, .reserved owner)) := by
  subst howner
  induction remaining generalizing attempt delayMs with
  | zero =>
    unfold createLoop
    refine ⟨nofun, fun _ _ => ⟨rfl, fun created _ => ?_⟩⟩
    cases created <;> rfl
  | succ remaining ih =>
    unfold createLoop
    refine ⟨nofun, fun _ _ => ⟨rfl, fun created _ => ?_⟩⟩
    cases created with
    | ok instance_ => rfl
    | error error =>
      simp only [ret_bind]
      split
      · exact ⟨nofun, fun _ _ => ih _ _⟩
      · rfl

theorem follows_createWithRetry (backendId : String) (providerOptions : Domain.Json) :
    (createWithRetry config backendId owner providerOptions).Follows managerProtocol
      (EndsObtained runtimeId owner) (some (runtimeId, .reserved owner)) := by
  refine ⟨nofun, fun requestId _ => ?_⟩
  apply follows_createLoop
  rfl

theorem follows_loadSnapshot (backendId snapshotId : String) (providerOptions : Domain.Json) :
    (loadSnapshot runtimeId backendId owner snapshotId providerOptions).Follows managerProtocol
      (EndsObtained runtimeId owner) (some (runtimeId, .reserved owner)) := by
  refine ⟨rfl, fun loaded _ => ?_⟩
  cases loaded <;> rfl

/-- An instance that cannot be bound is deleted and its place given back. -/
theorem follows_bindInstance (instance_) :
    (bindInstance runtimeId owner instance_).Follows managerProtocol (EndsLoose runtimeId)
      (some (runtimeId, .obtained owner instance_.instanceId)) := by
  refine ⟨nofun, fun attached _ => ?_⟩
  cases attached with
  | error error =>
    exact ⟨nofun, fun _ _ => ⟨.inr ⟨_, rfl⟩, fun _ _ => ⟨.clear, rfl, trivial⟩⟩⟩
  | ok backend =>
    refine ⟨⟨rfl, rfl⟩, fun written _ => ?_⟩
    cases written with
    | error error =>
      exact ⟨nofun, fun _ _ => ⟨.inr ⟨_, rfl⟩, fun _ _ => ⟨.clear, rfl, trivial⟩⟩⟩
    | ok _ => exact ⟨rfl, fun _ _ => ⟨⟨rfl, _, rfl⟩, fun _ _ => ⟨.clear, rfl, trivial⟩⟩⟩

theorem follows_admitInstance {limit duplicate obtain_}
    (hobtain : obtain_.Follows managerProtocol (EndsObtained runtimeId owner)
      (some (runtimeId, .reserved owner))) :
    (admitInstance runtimeId owner limit duplicate obtain_).Follows managerProtocol
      (EndsLoose runtimeId) (some (runtimeId, .clear)) := by
  refine ⟨⟨rfl, rfl⟩, fun present _ => ?_⟩
  cases present with
  | some bound => exact ⟨_, rfl, trivial⟩
  | none =>
    refine ⟨rfl, fun granted _ => ?_⟩
    cases granted with
    | error error => exact ⟨_, rfl, trivial⟩
    | ok _ =>
      -- the failure to get an instance is caught, so that the place can be given back
      have hattempt : (obtain_.attempt : ManagerM _).Follows managerProtocol
          (fun place r => ∃ outcome, r = .ok outcome ∧ EndsObtained runtimeId owner place outcome)
          (some (runtimeId, .reserved owner)) :=
        .attempt (hobtain.mono fun _ outcome h => ⟨outcome, rfl, h⟩)
      refine hattempt.bind ?_ fun _ _ ⟨_, h, _⟩ => by cases h
      rintro place outcome ⟨_, ⟨⟩, hplace⟩
      cases outcome with
      | error error =>
        obtain rfl := hplace
        exact ⟨.inl rfl, fun _ _ => ⟨.clear, rfl, trivial⟩⟩
      | ok instance_ =>
        obtain rfl := hplace
        exact follows_bindInstance instance_

/-- The instance that was found is released before its entry is removed. -/
theorem follows_finishRelease {record instanceId}
    (hrec : record.instance_.instanceId = instanceId) :
    (finishRelease runtimeId record).Follows managerProtocol (EndsLoose runtimeId)
      (some (runtimeId, .found instanceId)) := by
  subst hrec
  exact ⟨⟨rfl, trivial⟩, fun _ _ => ⟨rfl, fun _ _ => ⟨⟨rfl, _, rfl⟩, fun _ _ =>
    ⟨.clear, rfl, trivial⟩⟩⟩⟩

theorem follows_stopInstanceLocked :
    (stopInstanceLocked runtimeId).Follows managerProtocol (EndsLoose runtimeId)
      (some (runtimeId, .clear)) := by
  refine ⟨⟨rfl, rfl⟩, fun present _ => ?_⟩
  cases present with
  | none => exact ⟨_, rfl, trivial⟩
  | some record =>
    refine ⟨nofun, fun deleted _ => ?_⟩
    cases deleted with
    | ok _ => exact follows_finishRelease rfl
    | error error => exact ⟨nofun, fun _ _ => ⟨_, rfl, trivial⟩⟩

theorem follows_destroyByLedgerLocked :
    (destroyByLedgerLocked runtimeId).Follows managerProtocol (EndsLoose runtimeId)
      (some (runtimeId, .clear)) := by
  refine ⟨nofun, fun active _ => ?_⟩
  cases active with
  | error error => exact ⟨_, rfl, trivial⟩
  | ok entries =>
    simp only [orFail_ok, ret_bind, bind_def]
    cases entries.find? fun entry => entry.runtimeId = runtimeId with
    | none => exact ⟨_, rfl, trivial⟩
    | some entry =>
      refine ⟨nofun, fun deleted _ => ?_⟩
      cases deleted with
      | error error => exact ⟨_, rfl, trivial⟩
      | ok _ => exact ⟨⟨rfl, trivial⟩, fun _ _ => ⟨_, rfl, trivial⟩⟩

/-- A retried deletion is of the instance that is registered, if the lookup may be relied on. -/
theorem follows_retryItemLocked (item) :
    (retryItemLocked item).Follows managerProtocol (EndsLoose item.runtimeId)
      (some (item.runtimeId, .clear)) := by
  refine ⟨⟨rfl, rfl⟩, fun present hrely => ?_⟩
  cases present with
  | none => exact ⟨_, rfl, trivial⟩
  | some bound =>
    have hsame : item.record.instance_.instanceId = bound.instance_.instanceId :=
      Option.some.inj (of_decide_eq_true hrely)
    refine ⟨nofun, fun deleted _ => ?_⟩
    cases deleted with
    | ok _ => exact follows_finishRelease hsame
    | error error => exact ⟨nofun, fun _ _ => ⟨_, rfl, trivial⟩⟩

end Locked

/-! ## Calls -/

theorem follows_withLock {α : Type} {runtimeId : String} {p : ManagerM α}
    (hp : p.Follows managerProtocol (EndsLoose runtimeId) (some (runtimeId, .clear))) :
    (withLock runtimeId p).Follows callProtocol (fun place _ => place = none) none := by
  have hlift : (inWorld.lift p).Follows callProtocol (EndsLoose runtimeId)
      (some (runtimeId, .clear)) := by
    refine Embedding.follows_lift (fun _ _ h => h) (fun _ _ _ after h => ?_)
      (fun _ _ _ => rfl) hp
    cases after <;> exact h
  exact ⟨rfl, fun _ _ => hlift.guarded fun place _ hloose => ⟨hloose, fun _ _ => rfl⟩⟩

theorem follows_sweep (due : List PendingRelease) :
    (Call.sweep due).Follows callProtocol (fun place _ => place = none) none := by
  induction due with
  | nil => rfl
  | cons item due ih =>
    refine (follows_withLock (follows_retryItemLocked item)).bind ?_ fun _ _ h => h
    rintro _ _ rfl
    exact ih

/-- **Every call but the reconciliation** gives back what it takes under its locks. -/
theorem follows_body (config) {call : Call} (hcall : call ≠ .reconcile) :
    (call.body config).Follows callProtocol (fun place _ => place = none) none := by
  cases call with
  | startInstance runtimeId backendId owner providerOptions limit =>
    exact (follows_withLock (follows_admitInstance (follows_createWithRetry _ _))).bind
      (fun _ _ h => h) fun _ _ h => h
  | loadInstanceFromSnapshot runtimeId backendId owner snapshotId providerOptions limit =>
    exact (follows_withLock (follows_admitInstance (follows_loadSnapshot _ _ _))).bind
      (fun _ _ h => h) fun _ _ h => h
  | stopInstance runtimeId => exact follows_withLock follows_stopInstanceLocked
  | destroyByRuntimeId runtimeId =>
    have hstop : (Prog.attempt (withLock runtimeId (stopInstanceLocked runtimeId)) :
        WorldM _).Follows callProtocol (fun place _ => place = none) none :=
      .attempt (follows_withLock follows_stopInstanceLocked)
    refine hstop.bind ?_ fun _ _ h => h
    rintro _ stopped rfl
    rcases stopped with error | ⟨⟩
    · cases error with
      | notFound _ => exact follows_withLock follows_destroyByLedgerLocked
      | _ => rfl
    · rfl
  | retryPendingReleasesOnce => exact ⟨rfl, fun due _ => follows_sweep due⟩
  | reconcile => exact absurd rfl hcall

end XGovernor.Manager
