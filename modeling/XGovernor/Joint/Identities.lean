import XGovernor.Joint.Turns

/-!
# Public identities

A session or checkpoint of the split route and one of the joint route never share an id.  The
joint route claims an id when an operation is admitted, and gives the claim up only when the
operation is compensated; so an id that was published is never used for anything else.
-/

namespace XGovernor.Joint

open Domain Lib Ledger Table

variable {config : StoreConfig} {s s' : Db} {call : Call}
variable {key : RefKind × String} {intentId bindingId id : String}
  {tr : List (Db × (Call × Reply))}

/-! ## Claims -/

/-- The operation has published what it created. -/
def Published (s : Db) (intentId bindingId : String) : Prop :=
  ∃ row, s.bindings.get? bindingId = some row ∧ row.creationIntent = intentId ∧
    row.state ≠ .prepared ∧ row.state ≠ .compensating

/-- A claim is given up only by the compensation of an operation that published nothing. -/
theorem Effect.claim_stays (heff : Effect config s call s')
    (hclaim : s.publicClaims.get? key = some intentId) :
    s'.publicClaims.get? key = some intentId ∨
      ∃ admission op row, s.ledger.RunsOrdinary admission op ∧ admission.intentId = intentId ∧
        s.bindings.get? admission.binding.bindingId = some row ∧
        (row.state = .prepared ∨ row.state = .compensating) ∧ s' = s.compensated admission := by
  cases heff with
  | @admitJoint request s' admits =>
    cases hcreates : request.context.operation.creates with
    | false => exact .inl (by rw [admits.unclaimed hcreates, hclaim])
    | true => exact .inl (by simp [(admits.claimed hcreates).2.2, get?_add, hclaim])
  | @finishCompensation admission op runs creation =>
    by_cases hid : intentId = admission.intentId
    · obtain ⟨row, hrow, -, hstate⟩ := creation
      exact .inr ⟨admission, op, row, runs, hid.symm, hrow, hstate, rfl⟩
    · exact .inl (by simp [Db.compensated, get?_erase, hclaim, hid])
  | admitHost admits =>
    rw [admits.frame]
    exact .inl hclaim
  | _ => exact .inl hclaim

/-- A new claim is the one of an operation that is being admitted, on an id that nothing has. -/
theorem Effect.claim_new (heff : Effect config s call s')
    (hnone : s.publicClaims.get? key = none) (hsome : s'.publicClaims.get? key ≠ none) :
    identityTaken s key = false := by
  cases heff with
  | @admitJoint request s' admits =>
    cases hcreates : request.context.operation.creates with
    | false => exact absurd hnone (by rwa [← admits.unclaimed hcreates])
    | true =>
      obtain ⟨huntaken, hfree, hclaims⟩ := admits.claimed hcreates
      rw [hclaims, get?_add_of_free hfree, hnone] at hsome
      by_cases hkey : key = createdIdentity request.context
      · exact hkey ▸ huntaken
      · exact absurd (if_neg hkey) hsome
  | finishCompensation => simp [Db.compensated, get?_erase, hnone] at hsome
  | admitHost admits =>
    rw [admits.frame] at hsome
    exact absurd hnone hsome
  | _ => exact absurd hnone hsome

/-- What was published stays published. -/
theorem Published.step {event} (h : Published s intentId bindingId)
    (hstep : Step s.ledger event s'.ledger) :
    Published s' intentId bindingId := by
  obtain ⟨row, hrow, hcrea, hprep, hcomp⟩ := h
  obtain ⟨row', hrow', hmove⟩ := hstep.bindings.stays hrow
  refine ⟨row', hrow', hmove.continues.creation.trans hcrea, ?_⟩
  cases hmove.change with
  | same state_eq =>
    rw [state_eq]
    exact ⟨hprep, hcomp⟩
  | published before | compensating before => exact absurd before hprep
  | releasing _ after => simp [after]
  | removed _ after => simp [after]

/-- A claim of what was published is never given up. -/
theorem Published.claim_stays (h : Published s intentId bindingId) (coherent : s.ledger.Coherent)
    (heff : Effect config s call s') (hclaim : s.publicClaims.get? key = some intentId) :
    s'.publicClaims.get? key = some intentId := by
  rcases heff.claim_stays hclaim with
    hstays | ⟨admission, op, row, hruns, hid, hrow, hstate, -⟩
  · exact hstays
  · obtain ⟨row', hrow', hcrea', hprep, hcomp⟩ := h
    obtain ⟨op', hcreated⟩ := coherent.creation _ row' hrow'
    have hop := hcreated.stored
    rw [hcrea', ← hid, hruns.stored, Option.some.injEq] at hop
    have hbind := hcreated.binding
    rw [← hop, hruns.token] at hbind
    rw [hbind, hrow', Option.some.injEq] at hrow
    subst hrow
    rcases hstate with hstate | hstate
    · exact absurd hstate hprep
    · exact absurd hstate hcomp

/-- A joint checkpoint was there before, or the call published it, under an id that no split
checkpoint has. -/
theorem Effect.jointCheckpoint_old (heff : Effect config s call s') {row'}
    (hrow' : s'.jointCheckpoints.get? id = some row') :
    s.jointCheckpoints.get? id = some row' ∨
      s.checkpoints.get? id = none ∧ ∃ admission record op,
        call = .publishJointCheckpoint admission record ∧ s.ledger.RunsOrdinary admission op ∧
        op.request.context.operation.creates = true ∧
        createdIdentity op.request.context = (.checkpoint, id) ∧
        row'.bindingId = admission.binding.bindingId ∧
        row'.body.tenantId = op.request.context.tenantId ∧
        s'.operations.get? admission.intentId =
          some { op with stage := .published, publication := some (.checkpoint row'.body) } := by
  cases heff with
  | @publishCheckpoint admission record op runs ready creates identity binding unsplit _ tenant =>
    rcases get?_add_cases hrow' with hold | ⟨-, rfl, rfl⟩
    · exact .inl hold
    · refine .inr ⟨unsplit, admission, record, op, rfl, runs, creates, identity, by
        rw [binding], tenant, ?_⟩
      have hsto : s.operations.get? admission.intentId = some op := runs.stored
      rcases ready with hready | hready <;>
        simp [Db.published, get?_modify, hsto, hready]
  | admitJoint admits | admitHost admits =>
    rw [admits.frame] at hrow'
    exact .inl hrow'
  | deleteJointCheckpoint =>
    simp only [Db.released, get?_erase] at hrow'
    exact .inl (Option.filter_eq_some_iff.1 hrow').1
  | _ => exact .inl hrow'

/-! ## The invariant -/

/-- **Public identities**: the routes are apart, an operation has claimed what it is going to
create, and a joint checkpoint was published by the operation that claimed its id. -/
structure IdentitiesApart (s : Db) : Prop where
  sessions : ∀ id, s.sessions.get? id ≠ none →
    s.jointSessions.get? id = none ∧ s.publicClaims.get? (.session, id) = none
  checkpoints : ∀ id, s.checkpoints.get? id ≠ none →
    s.jointCheckpoints.get? id = none ∧ s.publicClaims.get? (.checkpoint, id) = none
  claims : ∀ id op, s.operations.get? id = some op →
    op.request.context.operation.creates = true → op.stage ≠ .compensated →
    s.publicClaims.get? (createdIdentity op.request.context) = some id
  published : ∀ id row, s.jointCheckpoints.get? id = some row →
    ∃ intentId, s.publicClaims.get? (.checkpoint, id) = some intentId ∧
      Published s intentId row.bindingId

theorem IdentitiesApart.empty : IdentitiesApart Db.empty where
  sessions := by simp [Db.empty]
  checkpoints := by simp [Db.empty]
  claims := by simp [Db.empty]
  published := by simp [Db.empty]

section Step

variable {event : Event} (apart : IdentitiesApart s) (heff : Effect config s call s')
  (hstep : Step s.ledger event s'.ledger) (sound : s.ledger.Sound)
  (coherent : s.ledger.Coherent) (coherent' : s'.ledger.Coherent)

include apart heff in
private theorem sessions_step (id) (hsome : s'.sessions.get? id ≠ none) :
    s'.jointSessions.get? id = none ∧ s'.publicClaims.get? (.session, id) = none := by
  by_cases hold : s.sessions.get? id = none
  · -- the call has just saved the session
    cases heff with
    | @saveSession record split =>
      simp only [jointSessionIdentity, Bool.or_eq_false_iff, Option.isSome_eq_false_iff,
        Option.isNone_iff_eq_none] at split
      have hid : id = record.runtimeId := by
        by_contra hne
        exact hsome (by simp [get?_add, get?_modify, hold, hne])
      exact hid ▸ split
    | admitJoint admits | admitHost admits =>
      rw [admits.frame] at hsome
      exact absurd hold hsome
    | _ => exact absurd hold hsome
  · obtain ⟨hjoint, hclaim⟩ := apart.sessions id hold
    constructor
    · by_contra hnew
      obtain ⟨row, hrow⟩ := Option.ne_none_iff_exists'.1 hnew
      obtain ⟨-, -, hunsplit, -⟩ := heff.jointSessions.new hjoint hrow
      exact hold hunsplit
    · by_contra hnew
      have huntaken := heff.claim_new hclaim hnew
      simp only [identityTaken, reduceCtorEq, if_false, Bool.or_eq_false_iff,
        Option.isSome_eq_false_iff, Option.isNone_iff_eq_none] at huntaken
      exact hold huntaken.1

include apart heff in
private theorem checkpoints_step (id) (hsome : s'.checkpoints.get? id ≠ none) :
    s'.jointCheckpoints.get? id = none ∧ s'.publicClaims.get? (.checkpoint, id) = none := by
  by_cases hold : s.checkpoints.get? id = none
  · cases heff with
    | @saveCheckpoint record split free =>
      simp only [jointCheckpointIdentity, Bool.or_eq_false_iff, Option.isSome_eq_false_iff,
        Option.isNone_iff_eq_none] at split
      have hid : id = record.checkpointId := by
        by_contra hne
        exact hsome (by simp [get?_add, hold, hne])
      exact hid ▸ split
    | deleteCheckpoint => simp [get?_erase, hold] at hsome
    | admitJoint admits | admitHost admits =>
      rw [admits.frame] at hsome
      exact absurd hold hsome
    | _ => exact absurd hold hsome
  · obtain ⟨hjoint, hclaim⟩ := apart.checkpoints id hold
    constructor
    · by_contra hnew
      obtain ⟨row, hrow⟩ := Option.ne_none_iff_exists'.1 hnew
      rcases heff.jointCheckpoint_old hrow with hrow | ⟨hunsplit, -⟩
      · cases hjoint.symm.trans hrow
      · exact hold hunsplit
    · by_contra hnew
      have huntaken := heff.claim_new hclaim hnew
      simp only [identityTaken, if_true, Bool.or_eq_false_iff, Option.isSome_eq_false_iff,
        Option.isNone_iff_eq_none] at huntaken
      exact hold huntaken.1

include apart heff hstep sound coherent in
private theorem claims_step (id op') (hop' : s'.operations.get? id = some op')
    (hcreates : op'.request.context.operation.creates = true) (hstage : op'.stage ≠ .compensated) :
    s'.publicClaims.get? (createdIdentity op'.request.context) = some id := by
  rcases (hstep.operations sound).origin hop' with ⟨hnone, -⟩ | ⟨op, hop, hcont, -⟩
  · have hord : op'.request.context.operation.isHost = false := by
      revert hcreates
      cases op'.request.context.operation <;> simp [Operation.creates, Operation.isHost]
    obtain ⟨request, epochs, hadm, rfl, rfl⟩ := heff.operation_new hnone hop' hord
    obtain ⟨-, hfree, hclaims⟩ := hadm.claimed hcreates
    show s'.publicClaims.get? (createdIdentity request.context) = _
    rw [hclaims, get?_add_self hfree]
  · have hunfin : op.stage ≠ .compensated := by
      intro hcompensated
      obtain ⟨op'', hop'', hsame⟩ := hstep.final_stays coherent sound hop
        (by simp [hcompensated, Stage.isFinal])
      cases hop'.symm.trans hop''
      exact hstage (hsame.trans hcompensated)
    rw [hcont.request] at hcreates ⊢
    rcases heff.claim_stays (apart.claims id op hop hcreates hunfin) with
      hstays | ⟨admission, _, _, -, hid, -, -, rfl⟩
    · exact hstays
    · -- the operation has just been compensated
      refine absurd ?_ hstage
      have hsto : s.operations.get? id = some op := hop
      simp only [Db.compensated, stagedOperation, get?_modify, hsto, Option.map_some,
        Option.some.injEq, hid, decide_true, if_true] at hop'
      rw [← hop']

include apart heff hstep sound coherent coherent' in
private theorem published_step (id row') (hrow' : s'.jointCheckpoints.get? id = some row') :
    ∃ intentId, s'.publicClaims.get? (.checkpoint, id) = some intentId ∧
      Published s' intentId row'.bindingId := by
  rcases heff.jointCheckpoint_old hrow' with
    hrow | ⟨-, admission, _, op, -, hruns, hcreates, hident, hbind, -, hop'⟩
  · obtain ⟨intentId, hclaim, hpub⟩ := apart.published id row' hrow
    exact ⟨intentId, hpub.claim_stays coherent heff hclaim, hpub.step hstep⟩
  · refine ⟨admission.intentId, ?_, ?_⟩
    · have hclaim := claims_step apart heff hstep sound coherent _ _ hop' hcreates (by simp)
      rw [← hident]
      exact hclaim
    -- the operation has just been published, so its binding is neither prepared nor compensating
    · obtain ⟨row, hbound, hcrea, hcreated⟩ := coherent'.createdBy hop' hcreates
      have hbound' : s'.bindings.get? row'.bindingId = some row := by
        rw [hbind, ← hruns.token]
        exact hbound
      refine ⟨row, hbound', hcrea, ?_⟩
      have hfits := hcreated.stage
      constructor <;> intro hstate <;> simp [hstate, BindingState.fits] at hfits

include apart heff hstep sound coherent coherent' in
theorem IdentitiesApart.step : IdentitiesApart s' where
  sessions := sessions_step apart heff
  checkpoints := checkpoints_step apart heff
  claims := claims_step apart heff hstep sound coherent
  published := published_step apart heff hstep sound coherent coherent'

end Step

/-- **Run**: the routes are apart in every database that calls lead to. -/
theorem identitiesApart_of_storeReachable (h : StoreReachable config s) : IdentitiesApart s := by
  refine h.induct .empty ?_
  intro s event s' hreach apart hcom
  have hreached := ledger_reached hreach
  have hreached' := ledger_reached (hreach.run (Run.nil.snoc hcom))
  exact apart.step (effect_of_commit hcom) (commit_refines hcom) hreached.guarded.sound
    hreached.coherent hreached'.coherent

/-! ## Routes -/

/-- An operation created the checkpoint of a binding under the public id. -/
def CheckpointRouted (s : Db) (id bindingId : String) : Prop :=
  ∃ intentId, s.publicClaims.get? (.checkpoint, id) = some intentId ∧ Published s intentId bindingId

theorem Published.unique (coherent : s.ledger.Coherent) {id'}
    (h : Published s intentId id) (h' : Published s intentId id') : id = id' := by
  obtain ⟨row, hrow, hcrea, -⟩ := h
  obtain ⟨row', hrow', hcrea', -⟩ := h'
  obtain ⟨op, hcreated⟩ := coherent.creation id row hrow
  obtain ⟨op', hcreated'⟩ := coherent.creation id' row' hrow'
  have hop := hcreated.stored
  rw [hcrea, ← hcrea', hcreated'.stored, Option.some.injEq] at hop
  rw [← hcreated.binding, ← hcreated'.binding, hop]

/-- The route of a checkpoint is final: even when the checkpoint is deleted, its id is not given
to anything else. -/
theorem CheckpointRouted.run (h : StoreReachable config s) (hrun : Run (Commit config) s tr s')
    (hrouted : CheckpointRouted s id bindingId) : CheckpointRouted s' id bindingId := by
  refine h.run_invariant hrun (P := fun t => CheckpointRouted t id bindingId) hrouted ?_
  rintro t event t' hreach ⟨intentId, hclaim, hpub⟩ hcom
  have coherent := (ledger_reached hreach).coherent
  exact ⟨intentId, hpub.claim_stays coherent (effect_of_commit hcom) hclaim,
    hpub.step (commit_refines hcom)⟩

/-- The id of a routed checkpoint has no other record. -/
theorem CheckpointRouted.alone (h : StoreReachable config s)
    (hrouted : CheckpointRouted s id bindingId) :
    s.checkpoints.get? id = none ∧
      ∀ row, s.jointCheckpoints.get? id = some row → row.bindingId = bindingId := by
  have apart := identitiesApart_of_storeReachable h
  obtain ⟨intentId, hclaim, hpub⟩ := hrouted
  constructor
  · by_contra hsplit
    exact absurd (hclaim.symm.trans (apart.checkpoints id hsplit).2) (by simp)
  · intro row hrow
    obtain ⟨intentId', hclaim', hpub'⟩ := apart.published id row hrow
    cases hclaim.symm.trans hclaim'
    exact hpub'.unique (ledger_reached h).coherent hpub

/-- No call drops a session of the split route. -/
private theorem Effect.splitSession_stays (heff : Effect config s call s')
    (hsome : s.sessions.get? id ≠ none) : s'.sessions.get? id ≠ none := by
  cases heff with
  | saveSession => simpa [get?_add, get?_modify, Option.or_eq_none_iff] using
      fun h => absurd h hsome
  | admitJoint admits | admitHost admits => rwa [admits.frame]
  | _ => exact hsome

/-- Only its deletion drops a checkpoint of the split route. -/
private theorem Effect.splitCheckpoint_stays (heff : Effect config s call s')
    (hsome : s.checkpoints.get? id ≠ none) (hkept : call ≠ .deleteCheckpoint id) :
    s'.checkpoints.get? id ≠ none := by
  cases heff with
  | saveCheckpoint => simpa [get?_add, Option.or_eq_none_iff] using fun h => absurd h hsome
  | @deleteCheckpoint other =>
    have hne : id ≠ other := fun heq => hkept (heq ▸ rfl)
    obtain ⟨record, hrec⟩ := Option.ne_none_iff_exists'.1 hsome
    simp [get?_erase, hrec, hne]
  | admitJoint admits | admitHost admits => rwa [admits.frame]
  | _ => exact hsome

section

variable (hrun : Run (Commit config) s tr s')
include hrun

private theorem splitSession_run (hsome : s.sessions.get? id ≠ none) :
    s'.sessions.get? id ≠ none :=
  hrun.invariant (P := fun t => t.sessions.get? id ≠ none) hsome
    fun _ _ _ ht hcom => (effect_of_commit hcom).splitSession_stays ht

private theorem splitCheckpoint_run
    (hkept : ∀ e ∈ tr, e.2.1 ≠ .deleteCheckpoint id) (hsome : s.checkpoints.get? id ≠ none) :
    s'.checkpoints.get? id ≠ none := by
  have hrestricted : Run (fun t event t' => Commit config t event t' ∧
      event.1 ≠ .deleteCheckpoint id) s tr s' := hrun.restrict hkept
  exact hrestricted.invariant (P := fun t => t.checkpoints.get? id ≠ none) hsome
    fun _ _ _ ht hcom => (effect_of_commit hcom.1).splitCheckpoint_stays ht hcom.2

private theorem sessionBinding_run
    (hsome : ∃ row, s.jointSessions.get? id = some row ∧ row.bindingId = bindingId) :
    ∃ row, s'.jointSessions.get? id = some row ∧ row.bindingId = bindingId := by
  refine hrun.invariant (P := fun t => ∃ row, t.jointSessions.get? id = some row ∧
    row.bindingId = bindingId) hsome ?_
  rintro t event t' ⟨row, hrow, hbind⟩ hcom
  obtain ⟨row', hrow', hchg⟩ := (effect_of_commit hcom).jointSessions.stays hrow
  exact ⟨row', hrow', hchg.binding.trans hbind⟩

end

/-- **Public identities are exclusive**: no id has a record of the split route and a record or a
claim of the joint route.  From then on, a session of the split route keeps its id, and so does a
checkpoint of the split route until it is deleted; the id of a joint session stays with its
binding; and the id of a joint checkpoint is never given to the split route or to another
binding. -/
theorem public_identities_exclusive (h : StoreReachable config s) :
    (∀ id, s.sessions.get? id ≠ none →
      s.jointSessions.get? id = none ∧ s.publicClaims.get? (.session, id) = none) ∧
    (∀ id, s.checkpoints.get? id ≠ none →
      s.jointCheckpoints.get? id = none ∧ s.publicClaims.get? (.checkpoint, id) = none) ∧
    ∀ tr s', Run (Commit config) s tr s' →
      (∀ id, s.sessions.get? id ≠ none →
        s'.jointSessions.get? id = none ∧ s'.publicClaims.get? (.session, id) = none) ∧
      (∀ id, s.checkpoints.get? id ≠ none → (∀ e ∈ tr, e.2.1 ≠ .deleteCheckpoint id) →
        s'.jointCheckpoints.get? id = none ∧ s'.publicClaims.get? (.checkpoint, id) = none) ∧
      (∀ id row, s.jointSessions.get? id = some row → s'.sessions.get? id = none ∧
        ∃ row', s'.jointSessions.get? id = some row' ∧ row'.bindingId = row.bindingId) ∧
      ∀ id row, s.jointCheckpoints.get? id = some row → s'.checkpoints.get? id = none ∧
        ∀ row', s'.jointCheckpoints.get? id = some row' → row'.bindingId = row.bindingId := by
  have apart := identitiesApart_of_storeReachable h
  refine ⟨apart.sessions, apart.checkpoints, ?_⟩
  intro tr s' hrun
  have hreach' : StoreReachable config s' := h.run hrun
  have apart' := identitiesApart_of_storeReachable hreach'
  refine ⟨?_, ?_, ?_, ?_⟩
  · intro id hsome
    exact apart'.sessions id (splitSession_run hrun hsome)
  · intro id hsome hkept
    exact apart'.checkpoints id (splitCheckpoint_run hrun hkept hsome)
  · intro id row hrow
    obtain ⟨row', hrow', hbind⟩ := sessionBinding_run hrun ⟨row, hrow, rfl⟩
    refine ⟨?_, row', hrow', hbind⟩
    by_contra hsplit
    exact absurd (hrow'.symm.trans (apart'.sessions id hsplit).1) (by simp)
  · intro id row hrow
    have hrouted : CheckpointRouted s id row.bindingId := apart.published id row hrow
    exact (hrouted.run h hrun).alone hreach'

/-- The session that was opened is in no way a session of the split route. -/
theorem public_identities_of_open :
    let s := execAll smallConfig openCalls Db.empty
    (s.jointSessions.get? "session").isSome = true ∧
    ∀ tr s', Run (Commit smallConfig) s tr s' → s'.sessions.get? "session" = none := by
  intro s
  have hopen : (s.jointSessions.get? "session").isSome = true := by decide +kernel
  obtain ⟨row, hrow⟩ := Option.isSome_iff_exists.1 hopen
  refine ⟨hopen, fun tr s' hrun => ?_⟩
  exact ((public_identities_exclusive (storeReachable_execAll smallConfig openCalls)).2.2
    tr s' hrun).2.2.1 "session" row hrow |>.1

end XGovernor.Joint
