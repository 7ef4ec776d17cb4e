import XGovernor.Lib.RelyGuarantee
import XGovernor.Manager.State

/-!
# Deleting sandboxes

The provider keeps its sandboxes in a registry in memory.  `delete` takes the record out first and
asks the platform only if the record has a live handle; `shutdown` asks only if nobody else is
shutting the backend down.  The manager marks the ledger row of a runtime as deleted when `delete`
has returned.

The world also remembers which absences the platform has confirmed.  Nothing reads that: it is what
an answer of `delete` or `shutdown` is measured against.
-/

namespace XGovernor.E2b

open Lib Function Prog
open Manager (ProviderControlError)

/-! ## The registry -/

/-- `ProviderLifecycleState`. -/
inductive InstanceState where
  | unknown | creating | active | pausing | paused | loading | deleting | deleted | failed
  deriving DecidableEq, Repr

/-- The operations of `ProviderLifecycleOperation` that are begun here. -/
inductive InstanceOperation where
  | pause
  | delete
  deriving DecidableEq, Repr

/-- `ProviderLifecycleStateMachine::begin`.  What is begun here can be completed. -/
def begin (current : InstanceState) (operation : InstanceOperation) :
    Except ProviderControlError Unit :=
  match operation, current with
  | .pause, .active | .delete, .active | .delete, .paused | .delete, .failed | .delete, .deleted =>
    .ok ()
  | _, _ =>
    .error (.invalidState (reprStr current) (reprStr operation)
      "operation is not valid for current state")

/-- `E2bInstanceRecord`: the record of a sandbox, and which backend is its live handle. -/
structure InstanceRecord where
  state : InstanceState
  snapshot : Option String := none
  live : Option Nat

inductive E2bLifecycle where
  | active
  | shuttingDown
  | closed
  deriving DecidableEq

/-- An `E2bBackendState`.  There may be several of one sandbox. -/
structure Backend where
  sandboxId : String
  ref : Nat
  deriving DecidableEq

/-- What the manager knows of a runtime: its ledger row, and whether it is registered. -/
structure ManagedRuntime where
  instanceId : String
  registered : Bool
  active : Bool

open ManagedRuntime

structure World where
  registry : String → Option InstanceRecord
  lifecycle : Backend → E2bLifecycle := fun _ => .active
  runtimes : String → Option ManagedRuntime := fun _ => none
  /-- The sandboxes whose absence the platform has confirmed. -/
  confirmed : String → Bool := fun _ => false

/-! ## Effects -/

/-- What `fetch_sandbox_detail` may hear. -/
inductive Detail where
  | running
  | notRunning
  | absent
  | failed (error : ProviderControlError)

/-- How the outside answers. -/
structure Answer where
  accepted : Bool := true
  message : String := ""
  snapshotId : String := ""
  detail : Detail := .running

inductive DeletionEffect where
  /-- `registry.remove`. -/
  | takeRecord (id : String)
  /-- `registry.get`. -/
  | readRecord (id : String)
  /-- `registry.insert`. -/
  | putRecord (id : String) (record : InstanceRecord)
  /-- `registry.get_mut`, and `live.take`. -/
  | takeLive (id : String)
  /-- `registry.get_mut`, and the fields that `pause` writes. -/
  | writePause (id : String) (live : Option Nat) (state : Option InstanceState)
      (snapshot : String)
  | deleteSandbox (id : String)
  | createSnapshot (id : String)
  | fetchDetail (id : String)
  | beginShutdown (backend : Backend)
  | finishShutdown (backend : Backend)
  | abortShutdown (backend : Backend)
  | registeredInstance (runtimeId : String)
  | findActive (runtimeId : String)
  | recordDeleted (runtimeId : String)
  | unregister (runtimeId : String)

abbrev DeletionEffect.Reply : DeletionEffect → Type
  | takeRecord _ | readRecord _ => Option InstanceRecord
  | takeLive _ => Except ProviderControlError Nat
  | deleteSandbox _ => Except String Unit
  | createSnapshot _ => Except ProviderControlError String
  | fetchDetail _ => Except ProviderControlError Bool
  | beginShutdown _ => Bool
  | registeredInstance _ => Option String
  | findActive _ => Except ProviderControlError (Option String)
  | recordDeleted _ => Except ProviderControlError Unit
  | putRecord _ _ | writePause _ _ _ _ | finishShutdown _ | abortShutdown _ | unregister _ => Unit

namespace World

def setRecord (s : World) (id : String) (record : Option InstanceRecord) : World :=
  { s with registry := update s.registry id record }

def setLifecycle (s : World) (backend : Backend) (state : E2bLifecycle) : World :=
  { s with lifecycle := update s.lifecycle backend state }

def confirm (s : World) (id : String) : World :=
  { s with confirmed := update s.confirmed id true }

def updateRuntime (s : World) (id : String) (f : ManagedRuntime → ManagedRuntime) : World :=
  { s with runtimes := update s.runtimes id ((s.runtimes id).map f) }

/-- The instance of a runtime. -/
def instanceOf (s : World) (runtimeId : String) : Option String :=
  (s.runtimes runtimeId).map instanceId

end World

def noLiveSandbox (id : String) : ProviderControlError :=
  .conflict ("instance " ++ id ++ " has no live sandbox to pause")

def handleDeletion (ω : Answer) (s : World) : (e : DeletionEffect) → e.Reply × World
  | .takeRecord id => (s.registry id, s.setRecord id none)
  | .readRecord id => (s.registry id, s)
  | .putRecord id record => ((), s.setRecord id (some record))
  | .takeLive id =>
    match s.registry id with
    | none => (.error (.notFound id), s)
    | some record =>
      match record.live with
      | none => (.error (noLiveSandbox id), s)
      | some live => (.ok live, s.setRecord id (some { record with live := none }))
  | .writePause id live state snapshot =>
    ((), s.setRecord id ((s.registry id).map fun record =>
      { live := live.or record.live, state := state.getD record.state, snapshot := some snapshot }))
  -- `204` and `404` both say that the sandbox is gone
  | .deleteSandbox id => if ω.accepted then (.ok (), s.confirm id) else (.error ω.message, s)
  | .createSnapshot _ =>
    (if ω.accepted then .ok ω.snapshotId else .error (.providerFailure "e2b" ω.message), s)
  | .fetchDetail id =>
    match ω.detail with
    | .running => (.ok true, s)
    | .notRunning => (.ok false, s)
    | .absent => (.error (.notFound id), s.confirm id)
    | .failed error => (.error error, s)
  | .beginShutdown backend =>
    if s.lifecycle backend = .active then (true, s.setLifecycle backend .shuttingDown)
    else (false, s)
  | .finishShutdown backend => ((), s.setLifecycle backend .closed)
  | .abortShutdown backend =>
    ((), if s.lifecycle backend = .shuttingDown then s.setLifecycle backend .active else s)
  | .registeredInstance id =>
    (((s.runtimes id).filter registered).map instanceId, s)
  | .findActive id =>
    (if ω.accepted then
      .ok (((s.runtimes id).filter active).map instanceId)
    else .error (.transport ω.message), s)
  | .recordDeleted id =>
    if ω.accepted then (.ok (), s.updateRuntime id fun row => { row with active := false })
    else (.error (.transport ω.message), s)
  | .unregister id => ((), s.updateRuntime id fun row => { row with registered := false })

/-! ## Calls -/

abbrev DeletionM := Prog World DeletionEffect DeletionEffect.Reply ProviderControlError

def ask (e : DeletionEffect) : DeletionM e.Reply :=
  .effect e

/-- `E2bProvider::delete` of an instance: whether there was a record. -/
def delete (id : String) : DeletionM Bool := do
  match ← ask (.takeRecord id) with
  | none => pure false
  | some record => do
    orFail (begin record.state .delete)
    match record.live with
    | none => pure true
    | some _ =>
      match ← ask (.deleteSandbox id) with
      | .ok () => pure true
      | .error error => do
        ask (.putRecord id record)
        .fail (.providerFailure "e2b" ("failed to delete e2b sandbox: " ++ error))

/-- `OperationBackend::shutdown`. -/
def shutdown (backend : Backend) : DeletionM Unit := do
  match ← ask (.beginShutdown backend) with
  | false => pure ()
  | true =>
    match ← ask (.deleteSandbox backend.sandboxId) with
    | .ok () => ask (.finishShutdown backend)
    | .error error => do
      ask (.abortShutdown backend)
      .fail (.transport error)

def pause (id : String) : DeletionM Unit := do
  match ← ask (.readRecord id) with
  | none => .fail (.notFound id)
  | some record => do
    require record.live.isSome (noLiveSandbox id)
    orFail (begin record.state .pause)
    let snapshot ← orFail (← ask (.createSnapshot id))
    let live ← orFail (← ask (.takeLive id))
    match ← ask (.deleteSandbox id) with
    | .ok () => ask (.writePause id none (some .paused) snapshot)
    | .error error => do
      ask (.writePause id (some live) none snapshot)
      .fail (.providerFailure "e2b" ("e2b sandbox snapshot " ++ snapshot ++
        " succeeded but delete of sandbox " ++ id ++ " failed: " ++ error ++
        "; the snapshot was retained on instance " ++ id ++
        " (visible via inspect/delete) instead of being discarded"))

/-- `abort_provisioning`: the failure that it reports, if the sandbox is still there. -/
def abortProvisioning (backend : Backend) (reason error : String) : DeletionM Unit := do
  match ← ask (.deleteSandbox backend.sandboxId) with
  | .ok () => pure ()
  | .error cleanup => do
    ask (.putRecord backend.sandboxId { state := .failed, live := some backend.ref })
    .fail (.providerFailure "e2b" ("e2b sandbox " ++ backend.sandboxId ++ " creation aborted (" ++
      reason ++ ": " ++ error ++ ") and cleanup delete also failed (" ++ cleanup ++
      "); the sandbox was NOT deleted on the E2B platform and has been registered under " ++
      "instance_id " ++ backend.sandboxId ++ " so it can be retried via delete()"))

/-- `attach`; `backend` is the one that a miss of the registry builds. -/
def attach (backend : Backend) : DeletionM Unit := do
  match ← ask (.readRecord backend.sandboxId) with
  | some record =>
    require record.live.isSome
      (.conflict ("instance " ++ backend.sandboxId ++ " is not active"))
  | none => do
    let running ← orFail (← ask (.fetchDetail backend.sandboxId))
    require running (.notFound backend.sandboxId)
    ask (.putRecord backend.sandboxId { state := .active, live := some backend.ref })

/-- `destroy_by_runtime_id`.  A failed write of the ledger is only logged. -/
def destroyByRuntimeId (runtimeId : String) : DeletionM Unit := do
  match ← ask (.registeredInstance runtimeId) with
  | some id => do
    let _ ← delete id
    let _ ← ask (.recordDeleted runtimeId)
    ask (.unregister runtimeId)
  | none => do
    match ← orFail (← ask (.findActive runtimeId)) with
    | none => pure ()
    | some id => do
      let _ ← delete id
      let _ ← ask (.recordDeleted runtimeId)
      pure ()

inductive DeletionCall where
  | delete (id : String)
  | shutdown (backend : Backend)
  | pause (id : String)
  | abortProvisioning (backend : Backend) (reason error : String)
  | attach (backend : Backend)
  | destroy (runtimeId : String)

/-- The calls side by side.  The lock of a runtime would only rule out some interleavings; a call
may be dropped while it waits for the platform or the ledger. -/
def deletion : System Answer World DeletionEffect DeletionEffect.Reply ProviderControlError
    DeletionCall where
  handle := handleDeletion
  body
    | .delete id => (delete id).bind fun _ => .ret ()
    | .shutdown backend => shutdown backend
    | .pause id => pause id
    | .abortProvisioning backend reason error => abortProvisioning backend reason error
    | .attach backend => attach backend
    | .destroy runtimeId => destroyByRuntimeId runtimeId
  enabled _ _ := True
  suspends
    | .deleteSandbox _ | .createSnapshot _ | .fetchDetail _ | .findActive _ | .recordDeleted _ =>
      true
    | _ => false

instance (s : World) (e : DeletionEffect) : Decidable (deletion.enabled s e) :=
  .isTrue trivial

/-! ## The contract -/

namespace World

/-- A closed backend has seen its sandbox go. -/
def Sound (s : World) : Prop :=
  ∀ backend, s.lifecycle backend = .closed → s.confirmed backend.sandboxId = true

/-- What every call expects of the others: confirmations stay, closed backends have one, and a
runtime keeps its instance. -/
structure Expects (s s' : World) : Prop where
  confirmed : ∀ id, s.confirmed id = true → s'.confirmed id = true
  sound : s.Sound → s'.Sound
  instances : ∀ id, s'.instanceOf id = s.instanceOf id

theorem Expects.of_eq {s s' : World} (hconfirmed : s'.confirmed = s.confirmed)
    (hclosed : ∀ backend, s'.lifecycle backend = .closed → s.lifecycle backend = .closed)
    (hinst : ∀ id, s'.instanceOf id = s.instanceOf id) : s.Expects s' where
  confirmed id h := by rwa [hconfirmed]
  sound h backend hb := by rw [hconfirmed]; exact h backend (hclosed backend hb)
  instances := hinst

theorem Expects.confirm (s : World) (id : String) : s.Expects (s.confirm id) := by
  have hgrows (other : String) (h : s.confirmed other = true) :
      (s.confirm id).confirmed other = true := by
    by_cases hother : other = id <;> simp [World.confirm, hother, h]
  exact ⟨hgrows, fun h backend hb => hgrows _ (h backend hb), fun _ => rfl⟩

theorem Expects.setLifecycle {s : World} {backend : Backend} {state : E2bLifecycle}
    (h : state = .closed → s.confirmed backend.sandboxId = true) :
    s.Expects (s.setLifecycle backend state) := by
  refine ⟨fun _ h => h, fun hsound other hother => ?_, fun _ => rfl⟩
  by_cases heq : other = backend
  · subst heq
    exact h (by simpa [World.setLifecycle] using hother)
  · exact hsound other (by simpa [World.setLifecycle, update_of_ne heq] using hother)

theorem instanceOf_updateRuntime (s : World) (id : String) (f : ManagedRuntime → ManagedRuntime)
    (hf : ∀ row, (f row).instanceId = row.instanceId) (other : String) :
    (s.updateRuntime id f).instanceOf other = s.instanceOf other := by
  by_cases hother : other = id
  · subst hother
    simp only [instanceOf, updateRuntime, update_self, Option.map_map]
    exact congrArg (Option.map · _) (funext hf)
  · simp [instanceOf, updateRuntime, update_of_ne hother]

/-- **The condition**: when `delete` looks for the record of a sandbox, the record is there and has
a live handle; when `shutdown` begins, no other call is shutting the backend down.  Neither matters
once the platform has confirmed that the sandbox is gone. -/
def Known (_ : Answer) (s : World) : DeletionEffect → Prop
  | .takeRecord id =>
    s.confirmed id = true ∨ ((s.registry id).any fun record => record.live.isSome) = true
  | .beginShutdown backend =>
    s.confirmed backend.sandboxId = true ∨ s.lifecycle backend ≠ .shuttingDown
  | _ => True

/-- A row is marked as deleted, and a backend closed, only if the sandbox is known to be gone. -/
def Vouched (s : World) : DeletionEffect → Prop
  | .recordDeleted runtimeId => ∀ id ∈ s.instanceOf runtimeId, s.confirmed id = true
  | .finishShutdown backend => s.confirmed backend.sandboxId = true
  | _ => True

/-- `delete` and `shutdown` return only if the sandbox is known to be gone. -/
def Returned : DeletionCall → World → Prop
  | .delete id, s => s.confirmed id = true
  | .shutdown backend, s => s.confirmed backend.sandboxId = true
  | _, _ => True

instance (ω : Answer) (s : World) (e : DeletionEffect) : Decidable (Known ω s e) := by
  cases e <;> unfold Known <;> infer_instance

instance (s : World) (e : DeletionEffect) : Decidable (s.Vouched e) := by
  cases e <;> unfold Vouched <;> infer_instance

instance (c : DeletionCall) (s : World) : Decidable (Returned c s) := by
  cases c <;> unfold Returned <;> infer_instance

end World

open World

/-- Every effect keeps to what the others expect. -/
theorem expects_handle (ω : Answer) (s : World) (e : DeletionEffect) (h : s.Vouched e) :
    s.Expects (handleDeletion ω s e).2 := by
  have hrefl : s.Expects s := .of_eq rfl (fun _ h => h) fun _ => rfl
  have hrec (id : String) (record : Option InstanceRecord) :
      s.Expects (s.setRecord id record) := .of_eq rfl (fun _ h => h) fun _ => rfl
  have hruntime (id : String) (f : ManagedRuntime → ManagedRuntime)
      (hf : ∀ row, (f row).instanceId = row.instanceId) : s.Expects (s.updateRuntime id f) :=
    .of_eq rfl (fun _ h => h) (s.instanceOf_updateRuntime id f hf)
  cases e with
  | takeRecord id | putRecord id record | writePause id live state snapshot => exact hrec _ _
  | readRecord id | createSnapshot id | registeredInstance id | findActive id => exact hrefl
  | takeLive id =>
    simp only [handleDeletion]
    repeat' split
    · exact hrefl
    · exact hrefl
    · exact hrec _ _
  | deleteSandbox id =>
    simp only [handleDeletion]
    split
    · exact .confirm s id
    · exact hrefl
  | fetchDetail id =>
    simp only [handleDeletion]
    split
    case h_3 => exact .confirm s id
    all_goals exact hrefl
  | finishShutdown backend => exact .setLifecycle fun _ => h
  | beginShutdown backend | abortShutdown backend =>
    simp only [handleDeletion]
    split
    · exact .setLifecycle nofun
    · exact hrefl
  | recordDeleted id =>
    simp only [handleDeletion]
    split
    · exact hruntime _ _ fun _ => rfl
    · exact hrefl
  | unregister id => exact hruntime _ _ fun _ => rfl

def deletionContract : Contract deletion where
  rely := World.Expects
  condition := Known
  guarantee := Vouched
  post := Returned
  refl _ := .of_eq rfl (fun _ h => h) fun _ => rfl
  trans h h' :=
    ⟨fun id hid => h'.confirmed id (h.confirmed id hid), fun hs => h'.sound (h.sound hs),
      fun id => (h'.instances id).trans (h.instances id)⟩
  kept ω s e h _ := expects_handle ω s e h

/-! ## Every call meets the contract -/

section Valid

variable {α : Type} {s : World} {post : World → Except ProviderControlError α → Prop}

theorem valid_ask (e) {k : e.Reply → DeletionM α}
    (hvouched : ∀ s', s.Expects s' → s'.Vouched e) (hk : ∀ ω s', s.Expects s' → Known ω s' e →
      (k (handleDeletion ω s' e).1).Valid deletionContract post (handleDeletion ω s' e).2) :
    ((ask e).bind k).Valid deletionContract post s :=
  fun s' hs' => ⟨hvouched s' hs', deletionContract.refl s', fun ω hω => hk ω s' hs' hω⟩

/-- **`delete`** returns only if the platform has confirmed that the sandbox is gone. -/
theorem delete_valid (id : String) (s) :
    (delete id).Valid deletionContract (fun s r => ∀ found, r = .ok found → s.confirmed id = true)
      s := by
  refine valid_ask (.takeRecord id) (fun _ _ => trivial) fun ω t _ hknown => ?_
  simp only [handleDeletion]
  cases hrec : t.registry id with
  | none =>
    -- nothing to delete: the answer is right only if the platform said so before
    have hgone : t.confirmed id = true := by simpa [Known, hrec] using hknown
    exact fun s' hs' _ _ => hs'.confirmed id hgone
  | some record =>
    cases hbegin : begin record.state .delete with
    | error error =>
      simp only [hbegin]
      exact fun _ _ _ h => nomatch h
    | ok u =>
      simp only [hbegin, orFail_ok, bind_def, ret_bind]
      cases hlive : record.live with
      | none =>
        have hgone : t.confirmed id = true := by simpa [Known, hrec, hlive] using hknown
        exact fun s' hs' _ _ => hs'.confirmed id hgone
      | some live =>
        refine valid_ask (.deleteSandbox id) (fun _ _ => trivial) fun ω' t' _ _ => ?_
        cases hacc : ω'.accepted with
        | false =>
          simp only [handleDeletion, hacc]
          exact valid_ask (.putRecord id record) (fun _ _ => trivial) fun _ _ _ _ _ _ _ h =>
            nomatch h
        | true =>
          simp only [handleDeletion, hacc]
          exact fun s' hs' _ _ => hs'.confirmed id (update_self ..)

/-- **`shutdown`** returns only if the platform has confirmed that the sandbox is gone. -/
theorem shutdown_valid (backend) (hsound : s.Sound) : (shutdown backend).Valid deletionContract
      (fun s r => r = .ok () → s.confirmed backend.sandboxId = true) s := by
  refine valid_ask (.beginShutdown backend) (fun _ _ => trivial) fun ω t ht hknown => ?_
  by_cases hact : t.lifecycle backend = .active
  · simp only [handleDeletion, hact, if_true]
    refine valid_ask (.deleteSandbox _) (fun _ _ => trivial) fun ω' t' _ _ => ?_
    cases hacc : ω'.accepted with
    | false =>
      simp only [handleDeletion, hacc]
      exact valid_ask (.abortShutdown _) (fun _ _ => trivial) fun _ _ _ _ _ _ h => nomatch h
    | true =>
      simp only [handleDeletion, hacc, if_true]
      have hgone : (t'.confirm backend.sandboxId).confirmed backend.sandboxId = true :=
        update_self ..
      exact fun s' hs' => ⟨hs'.confirmed _ hgone, deletionContract.refl s', fun _ _ s'' hs'' _ =>
        hs''.confirmed _ (hs'.confirmed _ hgone)⟩
  · -- somebody else has begun: they have been told, unless they still wait
    simp only [handleDeletion, hact, if_false]
    have hgone : t.confirmed backend.sandboxId = true := by
      rcases hknown with hgone | hknown
      · exact hgone
      · cases hlife : t.lifecycle backend with
        | active => exact absurd hlife hact
        | shuttingDown => exact absurd hlife hknown
        | closed => exact ht.sound hsound backend hlife
    exact fun s' hs' _ => hs'.confirmed _ hgone

/-- **Marking the row**: the manager deletes the instance of the runtime first. -/
theorem deleteAndRecord_valid {runtimeId id : String} (h : s.instanceOf runtimeId = some id)
    {k : Except ProviderControlError Unit → DeletionM α}
    (hk : ∀ reply s, (k reply).Valid deletionContract post s) (hpost : ∀ s r, post s r) :
    ((delete id).bind fun _ => (ask (.recordDeleted runtimeId)).bind k).Valid deletionContract
      post s := by
  refine ((delete_valid id s).reached (deletionContract.refl s)).bind ?_ fun s' error _ =>
    hpost s' _
  rintro t found ⟨hreached, hgone⟩
  refine valid_ask (.recordDeleted runtimeId) (fun t' ht' => ?_) fun _ _ _ _ => hk ..
  show ∀ other ∈ t'.instanceOf runtimeId, t'.confirmed other = true
  rw [ht'.instances, hreached.instances, h]
  rintro _ ⟨⟩
  exact ht'.confirmed id (hgone found rfl)

theorem instanceOf_of_filter {runtimeId id p}
    (h : ((s.runtimes runtimeId).filter p).map instanceId = some id) :
    s.instanceOf runtimeId = some id := by
  obtain ⟨row, hrow, hid⟩ := Option.map_eq_some_iff.1 h
  exact Option.map_eq_some_iff.2 ⟨row, (Option.filter_eq_some_iff.1 hrow).1, hid⟩

theorem destroyByRuntimeId_valid (runtimeId : String)
    {post : World → Except ProviderControlError Unit → Prop} (hpost : ∀ s r, post s r) :
    (destroyByRuntimeId runtimeId).Valid deletionContract post s := by
  refine valid_ask (.registeredInstance runtimeId) (fun _ _ => trivial) fun ω t _ _ => ?_
  cases hreg : (handleDeletion ω t (.registeredInstance runtimeId)).1 with
  | some id =>
    exact deleteAndRecord_valid (instanceOf_of_filter hreg)
      (fun _ _ => fun _ _ => ⟨trivial, deletionContract.refl _, fun _ _ _ _ => hpost ..⟩) hpost
  | none =>
    refine valid_ask (.findActive runtimeId) (fun _ _ => trivial) fun ω' t' _ _ => ?_
    cases hacc : ω'.accepted with
    | false =>
      simp only [handleDeletion, hacc]
      exact fun _ _ => hpost ..
    | true =>
      simp only [handleDeletion, hacc, if_true, orFail_ok, bind_def, ret_bind]
      cases hact : ((t'.runtimes runtimeId).filter active).map
          instanceId with
      | none => exact fun _ _ => hpost ..
      | some id =>
        exact deleteAndRecord_valid (instanceOf_of_filter hact) (fun _ _ _ _ => hpost ..) hpost

/-- The program owes nothing: it performs no effect that needs vouching. -/
def Owes (p : DeletionM α) : Prop :=
  p.Runs (fun _ _ => True) fun e onDrop => ∀ s : World, s.Vouched e ∧ s.Expects (onDrop s)

theorem owes_ask {e} (h : ∀ s : World, s.Vouched e) : Owes (ask e) :=
  ⟨fun s => ⟨h s, deletionContract.refl s⟩, fun _ _ => trivial⟩

theorem pause_owes (id : String) : Owes (pause id) := by
  refine .bind (owes_ask fun _ => trivial) fun record => ?_
  cases record with
  | none => trivial
  | some record =>
    refine .bind (runs_require ..) fun _ => .orFail fun _ => ?_
    refine .bind (owes_ask fun _ => trivial) fun _ => .orFail fun _ => ?_
    refine .bind (owes_ask fun _ => trivial) fun _ => .orFail fun _ => ?_
    refine .bind (owes_ask fun _ => trivial) fun reply => ?_
    cases reply with
    | ok => exact owes_ask fun _ => trivial
    | error => exact .bind (owes_ask fun _ => trivial) fun _ => trivial

theorem abortProvisioning_owes (backend) (reason error : String) :
    Owes (abortProvisioning backend reason error) := by
  refine .bind (owes_ask fun _ => trivial) fun reply => ?_
  cases reply with
  | ok => trivial
  | error => exact .bind (owes_ask fun _ => trivial) fun _ => trivial

theorem attach_owes (backend) : Owes (attach backend) := by
  refine .bind (owes_ask fun _ => trivial) fun record => ?_
  cases record with
  | some record => exact runs_require ..
  | none =>
    refine .bind (owes_ask fun _ => trivial) fun _ => .orFail fun _ => ?_
    exact .bind (runs_require ..) fun _ => owes_ask fun _ => trivial

theorem body_valid (c) (hsound : s.Sound) : (deletion.body c).Valid deletionContract
      (fun s result => result = .ok () → Returned c s) s := by
  cases c with
  | delete id =>
    exact (delete_valid id s).bind (fun t found h s' hs' _ => hs'.confirmed id (h found rfl))
      fun _ _ _ h => nomatch h
  | shutdown backend => exact shutdown_valid backend hsound
  | pause id => exact .of_runs (pause_owes id) fun _ _ _ => trivial
  | abortProvisioning backend reason error =>
    exact .of_runs (abortProvisioning_owes backend reason error) fun _ _ _ => trivial
  | attach backend => exact .of_runs (attach_owes backend) fun _ _ _ => trivial
  | destroy runtimeId => exact destroyByRuntimeId_valid runtimeId fun _ _ _ => trivial

end Valid

/-! ## Runs -/

/-- A process that has just started, with what is in its registry and in its ledger. -/
def startedWith (registry : String → Option InstanceRecord)
    (runtimes : String → Option ManagedRuntime) : Pool World DeletionEffect DeletionEffect.Reply
      ProviderControlError DeletionCall where
  state := { registry, runtimes }
  threads _ := none

/-- **Deletion is not assumed**, as long as every `delete` finds a live record and no two calls
shut one backend down at once: a row is marked as deleted, and `delete` and `shutdown` return, only
when the platform has confirmed that the sandbox is gone. -/
theorem deletion_confirmed {registry : String → Option InstanceRecord}
    {runtimes : String → Option ManagedRuntime} {pool : Pool _ _ _ _ _}
    {tr : List (Pool _ _ _ _ _ × Move _ _)}
    (hrun : Run deletion.Step (startedWith registry runtimes) tr pool)
    (hknown : ∀ e ∈ tr, e.1.AtEffect Known e.2) :
    ∀ e ∈ tr, e.1.AtEffect (fun _ => Vouched) e.2 ∧ e.1.AtReturn Returned e.2 :=
  deletionContract.run (fun c _ hs => body_valid c (hs.sound fun _ h => by cases h)) hrun hknown

def sampleRegistry (id : String) : Option InstanceRecord :=
  if id = "sandbox" then some { state := .active, live := some 0 } else none

def sampleRuntimes (id : String) : Option ManagedRuntime :=
  if id = "runtime" then some { instanceId := "sandbox", registered := false, active := true }
  else none

/-- With its record in the registry, the sandbox is deleted before its row is marked. -/
theorem deletion_confirmed_sample : ∃ tr pool,
    Run deletion.Step (startedWith sampleRegistry sampleRuntimes) tr pool ∧
    (∀ e ∈ tr, e.1.AtEffect Known e.2) ∧ pool.state.confirmed "sandbox" = true ∧
    ∀ e ∈ tr, e.1.AtEffect (fun _ => Vouched) e.2 ∧ e.1.AtReturn Returned e.2 := by
  obtain ⟨tr, pool, hrun, hknown, hgone⟩ := deletion.exists_run
    (startedWith sampleRegistry sampleRuntimes)
    [.start 0 (.destroy "runtime"), .perform 0 {}, .perform 0 {}, .perform 0 {}, .perform 0 {},
      .perform 0 {}, .finish 0]
    (fun pool move => decide (pool.AtEffect Known move))
    (fun _ pool => pool.state.confirmed "sandbox") (by decide +kernel)
  have hmet : ∀ e ∈ tr, e.1.AtEffect Known e.2 := fun e he => of_decide_eq_true (hknown e he)
  exact ⟨tr, pool, hrun, hmet, hgone, deletion_confirmed hrun hmet⟩

/-- After a restart the registry is empty: the manager then marks the row as deleted without a
single call of the platform.  And a `shutdown` that comes while another one still waits for the
platform returns at once. -/
theorem unconfirmed_deletion : ∃ tr pool,
    Run deletion.Step (startedWith (fun _ => none) sampleRuntimes) tr pool ∧
    (¬ ∀ e ∈ tr, e.1.AtEffect (fun _ => Vouched) e.2) ∧ ¬ ∀ e ∈ tr, e.1.AtReturn Returned e.2 := by
  obtain ⟨tr, pool, hrun, -, hpost⟩ := deletion.exists_run
    (startedWith (fun _ => none) sampleRuntimes)
    [.start 0 (.destroy "runtime"), .perform 0 {}, .perform 0 {}, .perform 0 {}, .perform 0 {},
      .finish 0, .start 1 (.shutdown ⟨"sandbox", 0⟩), .perform 1 {},
      .start 2 (.shutdown ⟨"sandbox", 0⟩), .perform 2 {}, .finish 2]
    (fun _ _ => true)
    (fun tr _ => (!decide (∀ e ∈ tr, e.1.AtEffect (fun _ => Vouched) e.2)) &&
      !decide (∀ e ∈ tr, e.1.AtReturn Returned e.2)) (by decide +kernel)
  simp only [Bool.and_eq_true, Bool.not_eq_true', decide_eq_false_iff_not] at hpost
  exact ⟨tr, pool, hrun, hpost⟩

end XGovernor.E2b
