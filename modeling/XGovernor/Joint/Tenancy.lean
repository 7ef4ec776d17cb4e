import XGovernor.Joint.Identities

/-!
# Whose records they are

A binding belongs to the tenant that created it.  An operation is admitted on a binding of its own
tenant only, and a session or a checkpoint is published with the tenant of the operation that
creates it; so every record belongs to the tenant of its binding, in every database that calls lead
to.

A joint owner that acts for one tenant therefore leaves the records of all others alone.  This is
what the application relies on when it hands a call over to an owner: it gives the owner the
context of its caller, and looks at nothing but the reply.
-/

namespace XGovernor.Joint

open Domain Lib Table
open Ledger (Step Event)

variable {config : StoreConfig} {s s' : Db} {call : Call} {bindingId id : String}
  {tenant : Option String}

/-! ## Bindings of a tenant -/

theorem tenantKey_inj {tenant' : Option String} (h : tenantKey tenant = tenantKey tenant') :
    tenant = tenant' := by
  -- the key of a tenant and the key `admin` differ in their first characters
  have hfirst (id : String) : (tenantKey (some id)).toList.head? = some 't' := by
    rw [tenantKey, String.toList_append]
    rfl
  have hne (id : String) : tenantKey (some id) ≠ tenantKey none := by
    intro heq
    have hhead := hfirst id
    rw [heq] at hhead
    revert hhead
    decide
  cases tenant with
  | none =>
    cases tenant' with
    | none => rfl
    | some id' => exact absurd h.symm (hne id')
  | some id =>
    cases tenant' with
    | none => exact absurd h (hne id)
    | some id' => simpa [tenantKey] using h

/-- The binding belongs to the tenant. -/
def BelongsTo (s : Db) (bindingId : String) (tenant : Option String) : Prop :=
  ∃ row, s.bindings.get? bindingId = some row ∧ row.tenantKey = tenantKey tenant

theorem BelongsTo.unique {tenant'} (h : BelongsTo s bindingId tenant)
    (h' : BelongsTo s bindingId tenant') : tenant = tenant' := by
  obtain ⟨row, hrow, hkey⟩ := h
  obtain ⟨row', hrow', hkey'⟩ := h'
  cases hrow.symm.trans hrow'
  exact tenantKey_inj (hkey.symm.trans hkey')

/-- A binding is never given to another tenant. -/
theorem BelongsTo.step {event} (h : BelongsTo s bindingId tenant)
    (hstep : Step s.ledger event s'.ledger) : BelongsTo s' bindingId tenant := by
  obtain ⟨row, hrow, hkey⟩ := h
  obtain ⟨row', hrow', hmove⟩ := hstep.bindings.stays hrow
  exact ⟨row', hrow', hmove.continues.tenant.trans hkey⟩

/-- An operation is admitted on a binding of its tenant. -/
theorem Admits.belongsTo {request} (admits : Admits config s request s') :
    BelongsTo s' request.binding.bindingId request.context.tenantId := by
  unfold BelongsTo
  rw [admits.bindings, admittedBindings]
  cases hcreates : request.context.operation.creates with
  | true =>
    exact ⟨newBindingRow request, get?_add_self (admits.unbound hcreates) _, rfl⟩
  | false =>
    obtain ⟨row, hrow, -, -, -, hkey, -⟩ := admits.existing hcreates
    simp only [Bool.false_eq_true, if_false]
    split
    · exact ⟨row, hrow, hkey⟩
    · exact ⟨_, get?_modify_key_self hrow _, hkey⟩

/-! ## References -/

/-- The record that a public reference names is one of the binding. -/
structure Named (s : Db) (kind : RefKind) (id bindingId : String) : Prop where
  session : kind = .session →
    ∃ row, s.jointSessions.get? id = some row ∧ row.bindingId = bindingId
  checkpoint : kind = .checkpoint →
    ∃ row, s.jointCheckpoints.get? id = some row ∧ row.bindingId = bindingId

/-- A public reference that a call adds comes with the record that it names. -/
theorem Effect.ref_new (heff : Effect config s call s') {kind}
    (href : s'.refs.get? (kind, id) = some bindingId) :
    s.refs.get? (kind, id) = some bindingId ∨ Named s' kind id bindingId := by
  have hadd {key : RefKind × String} {target : String} (hkind : key.1 ≠ .session)
      (hkind' : key.1 ≠ .checkpoint)
      (h : (s.refs.add key target).get? (kind, id) = some bindingId) :
      s.refs.get? (kind, id) = some bindingId ∨ Named s' kind id bindingId := by
    rcases get?_add_cases h with hold | ⟨-, rfl, -⟩
    · exact .inl hold
    · exact .inr ⟨fun heq => absurd heq hkind, fun heq => absurd heq hkind'⟩
  have herase {refs : Table (RefKind × String) String} {p : RefKind × String → String → Bool}
      (h : (refs.erase p).get? (kind, id) = some bindingId) :
      refs.get? (kind, id) = some bindingId :=
    (Option.filter_eq_some_iff.1 ((get?_erase ..).symm.trans h)).1
  cases heff with
  | @admitJoint request s' admits =>
    rw [admits.refs] at href
    revert href
    cases request.parentBinding with
    | none => exact .inl
    | some parent => exact hadd (by simp) (by simp)
  | publishSession _ _ _ _ _ _ _ free =>
    rcases get?_add_cases href with hold | ⟨-, hkey, rfl⟩
    · exact .inl hold
    · obtain ⟨rfl, rfl⟩ := Prod.mk.inj hkey
      exact .inr ⟨fun _ => ⟨_, get?_add_self free _, rfl⟩, by simp⟩
  | publishCheckpoint _ _ _ _ _ _ free =>
    rcases get?_add_cases href with hold | ⟨-, hkey, rfl⟩
    · exact .inl hold
    · obtain ⟨rfl, rfl⟩ := Prod.mk.inj hkey
      exact .inr ⟨by simp, fun _ => ⟨_, get?_add_self free _, rfl⟩⟩
  | finishCompensation | failStale | finishCleanup => exact .inl (herase href)
  | closeSession | deleteJointCheckpoint => exact .inl (herase (herase href))
  | admitHost admits =>
    rw [admits.refs] at href
    exact hadd (by simp) (by simp) href
  | publishHost =>
    dsimp only at href
    split at href
    · exact .inl (herase href)
    · exact .inl href
  | _ => exact .inl href

/-- A joint checkpoint is dropped only by the release of its binding, with its reference. -/
theorem Effect.jointCheckpoint_stays (heff : Effect config s call s') {row}
    (hrow : s.jointCheckpoints.get? id = some row) :
    s'.jointCheckpoints.get? id = some row ∨ s'.refs.get? (.checkpoint, id) = none ∧
      ∃ admission op updatedAtMs, call = .finishJointRelease admission .checkpoint id updatedAtMs ∧
        s.ledger.RunsOrdinary admission op ∧
        s.refs.get? (.checkpoint, id) = some admission.binding.bindingId := by
  cases heff with
  | publishCheckpoint =>
    left
    show (s.jointCheckpoints.add _ _).get? id = _
    rw [get?_add, hrow]
    rfl
  | @deleteJointCheckpoint admission publicId updatedAtMs op _ runs _ _ _ owned =>
    by_cases hid : id = publicId
    · subst hid
      exact .inr ⟨by simp [Db.released, get?_erase, owned], admission, op, updatedAtMs, rfl, runs,
        owned⟩
    · left
      show (s.jointCheckpoints.erase _).get? id = _
      rw [get?_erase, hrow]
      simp [hid]
  | admitJoint admits | admitHost admits =>
    rw [admits.frame]
    exact .inl hrow
  | _ => exact .inl hrow

/-! ## The invariant -/

/-- **Tenancy**: operations and records belong to the tenant of their binding, records stand under
their own id, and a public reference leads to the binding of its record. -/
structure Tenancy (s : Db) : Prop where
  operations : ∀ id op, s.operations.get? id = some op →
    op.request.context.operation.isHost = false →
    BelongsTo s op.admission.binding.bindingId op.request.context.tenantId
  sessions : ∀ id row, s.jointSessions.get? id = some row →
    row.body.runtimeId = id ∧ BelongsTo s row.bindingId row.body.tenantId
  checkpoints : ∀ id row, s.jointCheckpoints.get? id = some row →
    BelongsTo s row.bindingId row.body.tenantId
  splitSessions : ∀ id record, s.sessions.get? id = some record → record.runtimeId = id
  refs : ∀ kind id bindingId, s.refs.get? (kind, id) = some bindingId → Named s kind id bindingId

theorem Tenancy.empty : Tenancy Db.empty where
  operations := by simp [Db.empty]
  sessions := by simp [Db.empty]
  checkpoints := by simp [Db.empty]
  splitSessions := by simp [Db.empty]
  refs := by simp [Db.empty]

/-- A change of a session touches neither its id nor its tenant. -/
theorem SessionChange.owner {row row'} (h : SessionChange config s s' id row row') :
    row'.body.runtimeId = row.body.runtimeId ∧ row'.body.tenantId = row.body.tenantId := by
  cases h <;> exact ⟨rfl, rfl⟩

/-- The records of the split route stand under the ids that they were saved with. -/
private theorem Effect.splitSession_keyed (heff : Effect config s call s') {record}
    (hkeyed : ∀ id record, s.sessions.get? id = some record → record.runtimeId = id)
    (hrow : s'.sessions.get? id = some record) : record.runtimeId = id := by
  cases heff with
  | @saveSession saved =>
    rcases get?_add_cases hrow with hold | ⟨-, rfl, rfl⟩
    · rw [get?_modify] at hold
      obtain ⟨old, hstored, rfl⟩ := Option.map_eq_some_iff.1 hold
      split
      next hid => exact (of_decide_eq_true hid).symm
      next => exact hkeyed id old hstored
    · rfl
  | admitJoint admits | admitHost admits =>
    rw [admits.frame] at hrow
    exact hkeyed id record hrow
  | _ => exact hkeyed id record hrow

section Step

variable {event : Event} (tenancy : Tenancy s) (heff : Effect config s call s')
  (hstep : Step s.ledger event s'.ledger)
include tenancy heff

private theorem refs_step (kind id bindingId)
    (href : s'.refs.get? (kind, id) = some bindingId) : Named s' kind id bindingId := by
  rcases heff.ref_new href with hold | hnew
  · have hnamed := tenancy.refs kind id bindingId hold
    refine ⟨fun hkind => ?_, ?_⟩
    · obtain ⟨row, hrow, hbinding⟩ := hnamed.session hkind
      obtain ⟨row', hrow', hchg⟩ := heff.jointSessions.stays hrow
      exact ⟨row', hrow', hchg.binding.trans hbinding⟩
    · rintro rfl
      obtain ⟨row, hrow, hbinding⟩ := hnamed.checkpoint rfl
      rcases heff.jointCheckpoint_stays hrow with hrow' | ⟨hdropped, -⟩
      · exact ⟨row, hrow', hbinding⟩
      · cases hdropped.symm.trans href
  · exact hnew

include hstep

private theorem operations_step (sound : s.ledger.Sound) (id op')
    (hop' : s'.operations.get? id = some op')
    (hord : op'.request.context.operation.isHost = false) :
    BelongsTo s' op'.admission.binding.bindingId op'.request.context.tenantId := by
  rcases (hstep.operations sound).origin hop' with ⟨hnone, -⟩ | ⟨op, hop, hcont, -⟩
  · obtain ⟨request, epochs, hadm, -, rfl⟩ := heff.operation_new hnone hop' hord
    exact hadm.belongsTo
  · rw [hcont.request] at hord ⊢
    rw [hcont.binding]
    exact (tenancy.operations id op hop hord).step hstep

private theorem jointSessions_step (id row') (hrow' : s'.jointSessions.get? id = some row') :
    row'.body.runtimeId = id ∧ BelongsTo s' row'.bindingId row'.body.tenantId := by
  rcases heff.jointSessions.origin hrow' with
    ⟨-, ⟨-, -, -, runs, -, -, hid, htenant⟩⟩ | ⟨row, hrow, hchg⟩
  · have howner := tenancy.operations _ _ runs.stored runs.ordinary
    rw [runs.token, ← htenant] at howner
    exact ⟨hid, howner.step hstep⟩
  · obtain ⟨hid, howner⟩ := tenancy.sessions id row hrow
    rw [hchg.owner.1, hchg.owner.2, hchg.binding]
    exact ⟨hid, howner.step hstep⟩

private theorem jointCheckpoints_step (id row') (hrow' : s'.jointCheckpoints.get? id = some row') :
    BelongsTo s' row'.bindingId row'.body.tenantId := by
  rcases heff.jointCheckpoint_old hrow' with
    hrow | ⟨-, admission, _, op, -, runs, -, -, hbinding, htenant, -⟩
  · exact (tenancy.checkpoints id row' hrow).step hstep
  · have howner := tenancy.operations _ _ runs.stored runs.ordinary
    rw [runs.token, ← hbinding, ← htenant] at howner
    exact howner.step hstep

/-- **Step**: a call gives no record and no binding to another tenant. -/
theorem Tenancy.step (sound : s.ledger.Sound) : Tenancy s' where
  operations := operations_step tenancy heff hstep sound
  sessions := jointSessions_step tenancy heff hstep
  checkpoints := jointCheckpoints_step tenancy heff hstep
  splitSessions := fun _ _ => heff.splitSession_keyed tenancy.splitSessions
  refs := refs_step tenancy heff

end Step

/-- **Run**: every record belongs to the tenant of its binding. -/
theorem tenancy_of_storeReachable (h : StoreReachable config s) : Tenancy s := by
  refine h.induct .empty ?_
  intro s event s' hreach tenancy hcom
  exact tenancy.step (effect_of_commit hcom) (commit_refines hcom)
    (ledger_reached hreach).guarded.sound

/-! ## Acting for one tenant -/

/-- The call is made for the tenant by a joint owner: the operation that it admits or goes on with
is one of the tenant, and it does not write the tables of the split route. -/
def Call.ActsFor (s : Db) (tenant : Option String) : Call → Prop
  | .prepareJointOperation request => request.context.tenantId = tenant
  | .finishJointTurn admission _ | .finishJointRelease admission _ _ _
  | .invalidateJointTurn admission => ∀ op, s.operations.get? admission.intentId = some op →
      op.request.context.tenantId = tenant
  | .saveSession _ | .saveCheckpoint _ | .deleteCheckpoint _ => False
  | _ => True

section Foreign

variable (tenancy : Tenancy s) (heff : Effect config s call s') (hacts : call.ActsFor s tenant)

include heff hacts in
/-- The tables of the split route are left alone. -/
theorem Effect.split_kept : s'.sessions = s.sessions ∧ s'.checkpoints = s.checkpoints := by
  cases heff with
  | saveSession | saveCheckpoint | deleteCheckpoint => exact hacts.elim
  | admitJoint admits | admitHost admits =>
    rw [admits.frame]
    exact ⟨rfl, rfl⟩
  | _ => exact ⟨rfl, rfl⟩

include tenancy heff hacts

/-- **Sessions of others**: a call for a tenant leaves them as they are. -/
theorem Tenancy.session_kept {row} (hrow : s.jointSessions.get? id = some row)
    (hforeign : row.body.tenantId ≠ tenant) : s'.jointSessions.get? id = some row := by
  have howner := (tenancy.sessions id row hrow).2
  -- the one session that a call changes is of the binding, hence of the tenant, of its operation
  have hother {key : String} {session : JointSessionRow} {admission : JointAdmission}
      {op : OperationRow} (hsession : s.jointSessions.get? key = some session)
      (hbound : session.bindingId = admission.binding.bindingId)
      (hop : s.operations.get? admission.intentId = some op) (htoken : op.admission = admission)
      (hord : op.request.context.operation.isHost = false)
      (hop_acts : op.request.context.tenantId = tenant) : id ≠ key := by
    rintro rfl
    cases hrow.symm.trans hsession
    have hop_owner := tenancy.operations _ _ hop hord
    rw [htoken, ← hbound, hop_acts] at hop_owner
    exact hforeign (howner.unique hop_owner)
  have hturn {op : OperationRow} (h : op.request.context.operation = .turn) :
      op.request.context.operation.isHost = false := by rw [h]; rfl
  cases heff with
  | @admitJoint request s' admits =>
    cases hcarried : request.turn with
    | none =>
      rw [(admits.idle hcarried).2]
      exact hrow
    | some turn =>
      obtain ⟨session, hsession, hbound, -, hsess⟩ := (admits.turn turn hcarried).session
      -- a turn is on a binding that exists, and that was checked to be of the tenant of the request
      have hne : id ≠ request.sourceId := by
        rintro rfl
        cases hrow.symm.trans hsession
        obtain ⟨_, hbinding, hkey⟩ := howner
        have hcreates : request.context.operation.creates = false := by
          by_contra hcreates
          rw [hbound, admits.unbound (by simpa using hcreates)] at hbinding
          cases hbinding
        obtain ⟨row', hrow', -, -, -, hkey', -⟩ := admits.existing hcreates
        rw [hbound, hrow', Option.some.injEq] at hbinding
        subst hbinding
        have hacts : request.context.tenantId = tenant := hacts
        exact hforeign (tenantKey_inj (hkey.symm.trans (hacts ▸ hkey')))
      rw [hsess, get?_modify_key_of_ne _ hne]
      exact hrow
  | publishSession =>
    show (s.jointSessions.add _ _).get? id = _
    rw [get?_add, hrow]
    rfl
  | settleTurn runs turn _ _ stored bound | invalidate runs turn _ stored bound =>
    refine (get?_modify_key_of_ne _ ?_ _).trans hrow
    exact hother stored bound runs.stored runs.token (hturn turn) (hacts _ runs.stored)
  | closeSession runs _ _ _ _ owned stored =>
    refine (get?_modify_key_of_ne _ ?_ _).trans hrow
    obtain ⟨session, hsession, hbinding⟩ := (tenancy.refs _ _ _ owned).session rfl
    exact hother hsession hbinding runs.stored runs.token runs.ordinary (hacts _ runs.stored)
  | admitHost admits =>
    rw [admits.frame]
    exact hrow
  | _ => exact hrow

/-- **Checkpoints of others**: a call for a tenant leaves them as they are. -/
theorem Tenancy.checkpoint_kept {row} (hrow : s.jointCheckpoints.get? id = some row)
    (hforeign : row.body.tenantId ≠ tenant) : s'.jointCheckpoints.get? id = some row := by
  rcases heff.jointCheckpoint_stays hrow with
    hkept | ⟨-, admission, op, _, rfl, runs, howned⟩
  · exact hkept
  · obtain ⟨checkpoint, hcheckpoint, hbinding⟩ := (tenancy.refs _ _ _ howned).checkpoint rfl
    cases hrow.symm.trans hcheckpoint
    have hop_owner := tenancy.operations _ _ runs.stored runs.ordinary
    rw [runs.token, ← hbinding, hacts _ runs.stored] at hop_owner
    exact absurd ((tenancy.checkpoints _ _ hrow).unique hop_owner) hforeign

end Foreign

end XGovernor.Joint
