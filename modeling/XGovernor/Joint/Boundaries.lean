import XGovernor.Joint.Identities

/-!
# Cancellation boundaries

A cancelled turn leaves the workspace of its binding in an unknown state.  The boundary of the
binding counts the cancelled turns, and how many of them a verified checkpoint came after; while
the two differ nothing that stems from the workspace is published.
-/

namespace XGovernor.Joint

open Domain Lib Ledger Table

variable {config : StoreConfig} {s s' : Db} {call : Call}
variable {id : String} {tr : List (Db × (Call × Reply))} {operationId : String}

/-- The cancelled turns of a binding. -/
def cancelEpoch (s : Db) (bindingId : String) : Nat :=
  (s.cancelBoundaries.get? bindingId).elim 0 (·.cancelEpoch)

/-- How many of them a verified checkpoint came after. -/
def checkpointEpoch (s : Db) (bindingId : String) : Nat :=
  (s.cancelBoundaries.get? bindingId).elim 0 (·.checkpointEpoch)

/-- A turn was cancelled, and no checkpoint was verified since. -/
def AwaitsCheckpoint (s : Db) (bindingId : String) : Prop :=
  checkpointEpoch s bindingId < cancelEpoch s bindingId

/-- The guard of both publications. -/
theorem not_awaitsCheckpoint (h : (s.cancelBoundaries.get? id).any
    (fun row => row.checkpointEpoch < row.cancelEpoch) = false) : ¬ AwaitsCheckpoint s id := by
  unfold AwaitsCheckpoint checkpointEpoch cancelEpoch
  cases hrow : s.cancelBoundaries.get? id with
  | none => exact Nat.lt_irrefl 0
  | some row => simpa [hrow] using h

/-! ## Boundaries -/

/-- How a call may have changed the boundary of a binding. -/
inductive BoundaryChange (s : Db) (call : Call) (id : String) (row : CancelBoundaryRow) :
    CancelBoundaryRow → Prop
  | same : BoundaryChange s call id row row
  | cancelled : BoundaryChange s call id row { row with cancelEpoch := row.cancelEpoch + 1 }
  | confirmed {ticket checkpointId observed}
      (call_eq : call = .confirmJointCheckpointBoundary ticket checkpointId)
      (stored : s.cancelCheckpoints.get? ticket.native.operationId = some observed)
      (same : observed.body = ticket)
      (binding : ticket.boundary.binding.bindingId = id)
      (current : row.cancelEpoch = ticket.boundary.cancelEpoch) :
      BoundaryChange s call id row { row with checkpointEpoch := row.cancelEpoch }

theorem Effect.boundaries (heff : Effect config s call s') :
    Evolves s.cancelBoundaries.get? s'.cancelBoundaries.get?
      (fun id row => ∃ admission op, s.ledger.RunsOrdinary admission op ∧
        id = admission.binding.bindingId ∧ row = ⟨admission.generation, 1, 0⟩)
      (BoundaryChange s call) := by
  have hrefl : ∀ id row, BoundaryChange s call id row row := fun _ _ => .same
  cases heff with
  | admitJoint admits | admitHost admits =>
    rw [admits.frame]
    exact .refl hrefl
  | @settleTurn admission terminal op session runs =>
    simp only [Db.turnSettled, cancelledBoundaries]
    split
    swap
    · exact .refl hrefl
    constructor
    · intro id row hrow
      rw [get?_add, get?_modify, hrow, Option.map_some, Option.some_or]
      refine ⟨_, rfl, ?_⟩
      split
      · exact .cancelled
      · exact .same
    · intro id row' hnone hrow'
      rw [get?_add, get?_modify, hnone, Option.map_none, Option.none_or] at hrow'
      split at hrow'
      · rename_i hid
        exact ⟨admission, op, runs, hid, (Option.some.inj hrow').symm⟩
      · exact absurd hrow' (by simp)
  | @confirmBoundary ticket checkpointId observed stored same =>
    refine .modify hrefl fun id row _ hmatch => ?_
    simp only [Bool.and_eq_true, decide_eq_true_eq] at hmatch
    obtain ⟨⟨hbind, -⟩, hcur⟩ := hmatch
    rw [← hcur]
    exact .confirmed rfl stored same hbind.symm hcur
  | _ => exact .refl hrefl

/-- **Boundaries**: the boundary of a binding is of the generation of the binding, and no
checkpoint is ahead of the cancelled turns. -/
structure BoundariesOrdered (s : Db) : Prop where
  ordered : ∀ id row, s.cancelBoundaries.get? id = some row → row.checkpointEpoch ≤ row.cancelEpoch
  generation : ∀ id row, s.cancelBoundaries.get? id = some row →
    ∃ binding, s.bindings.get? id = some binding ∧ binding.generation = row.generation

theorem BoundariesOrdered.empty : BoundariesOrdered Db.empty where
  ordered := by simp [Db.empty]
  generation := by simp [Db.empty]

theorem BoundariesOrdered.step {event} (boundaries : BoundariesOrdered s)
    (heff : Effect config s call s') (hstep : Step s.ledger event s'.ledger) :
    BoundariesOrdered s' := by
  constructor <;> intro id row' hrow' <;> rcases heff.boundaries.origin hrow' with
    ⟨-, admission, op, hruns, rfl, rfl⟩ | ⟨row, hrow, hchg⟩
  · exact Nat.zero_le 1
  · have hle := boundaries.ordered id row hrow
    cases hchg with
    | same => exact hle
    | cancelled => exact Nat.le_succ_of_le hle
    | confirmed => exact Nat.le_refl _
  · obtain ⟨binding, hbind, hgen, -⟩ := hruns.fenced.binding
    obtain ⟨binding', hbind', hmove⟩ := hstep.bindings.stays hbind
    exact ⟨binding', hbind', hmove.continues.generation.trans hgen⟩
  · obtain ⟨binding, hbind, hgen⟩ := boundaries.generation id row hrow
    obtain ⟨binding', hbind', hmove⟩ := hstep.bindings.stays hbind
    refine ⟨binding', hbind', (hmove.continues.generation.trans hgen).trans ?_⟩
    cases hchg <;> rfl

theorem boundariesOrdered_of_storeReachable (h : StoreReachable config s) :
    BoundariesOrdered s :=
  h.induct .empty fun _ _ _ _ boundaries hcom =>
    boundaries.step (effect_of_commit hcom) (commit_refines hcom)

/-! ## Epochs -/

theorem BoundariesOrdered.le (boundaries : BoundariesOrdered s) (id) :
    checkpointEpoch s id ≤ cancelEpoch s id := by
  unfold checkpointEpoch cancelEpoch
  cases hrow : s.cancelBoundaries.get? id with
  | none => exact Nat.le_refl 0
  | some row => exact boundaries.ordered id row hrow

/-- **Step**: epochs never decrease. -/
theorem BoundariesOrdered.mono (boundaries : BoundariesOrdered s) (heff : Effect config s call s')
    (id) :
    cancelEpoch s id ≤ cancelEpoch s' id ∧ checkpointEpoch s id ≤ checkpointEpoch s' id := by
  unfold checkpointEpoch cancelEpoch
  cases hrow : s.cancelBoundaries.get? id with
  | none => exact ⟨Nat.zero_le _, Nat.zero_le _⟩
  | some row =>
    have hle := boundaries.ordered id row hrow
    obtain ⟨row', hrow', hchg⟩ := heff.boundaries.stays hrow
    rw [hrow']
    cases hchg with
    | same => exact ⟨Nat.le_refl _, Nat.le_refl _⟩
    | cancelled => exact ⟨Nat.le_succ _, Nat.le_refl _⟩
    | confirmed => exact ⟨Nat.le_refl _, hle⟩

/-- **Run**: epochs never decrease. -/
theorem epochs_mono_of_run (h : StoreReachable config s) (hrun : Run (Commit config) s tr s') (id) :
    cancelEpoch s id ≤ cancelEpoch s' id ∧ checkpointEpoch s id ≤ checkpointEpoch s' id := by
  refine h.run_invariant hrun (P := fun t => cancelEpoch s id ≤ cancelEpoch t id ∧
    checkpointEpoch s id ≤ checkpointEpoch t id) ⟨Nat.le_refl _, Nat.le_refl _⟩ ?_
  rintro t event t' hreach ⟨hcancel, hcheckpoint⟩ hcom
  have hmono := (boundariesOrdered_of_storeReachable hreach).mono (effect_of_commit hcom) id
  exact ⟨hcancel.trans hmono.1, hcheckpoint.trans hmono.2⟩

/-! ## Cancelled turns -/

/-- The call settles a cancelled turn of the binding. -/
def SettlesCancelled (id : String) (e : Db × (Call × Reply)) : Prop :=
  ∃ admission terminal op, e.2.1 = .finishJointTurn admission terminal ∧
    terminal.cancelled = true ∧ admission.binding.bindingId = id ∧
    e.1.operations.get? admission.intentId = some op ∧ op.stage ≠ .settled

/-- A cancelled turn begins a new epoch. -/
theorem SettlesCancelled.lt {event} (boundaries : BoundariesOrdered s)
    (hcom : Commit config s event s') (hsettles : SettlesCancelled id (s, event)) :
    cancelEpoch s id < cancelEpoch s' id := by
  obtain ⟨call, reply⟩ := event
  obtain ⟨admission, terminal, op, rfl, hcanc, rfl, hop, hunset⟩ := hsettles
  obtain ⟨_, hrun, -⟩ := run_answering_eq_ok.1 hcom
  have hsettled := finishJointTurn_settles config hrun
  obtain ⟨hruns, session, rfl⟩ := hsettled.2.2 op hop hunset
  unfold cancelEpoch
  simp only [Db.turnSettled, hcanc, if_true, cancelledBoundaries, get?_add, get?_modify]
  cases hrow : s.cancelBoundaries.get? admission.binding.bindingId with
  | none => simp
  | some row =>
    -- the boundary is of the generation of the token
    obtain ⟨binding, hbind, hgen⟩ := boundaries.generation _ row hrow
    obtain ⟨binding', hbind', hgen', -⟩ := hruns.fenced.binding
    cases hbind.symm.trans hbind'
    simp [hgen.symm.trans hgen']

/-- While a binding awaits a checkpoint, only a confirmed ticket of its current epoch brings its
epochs together. -/
theorem Effect.confirmed_of_cleared (heff : Effect config s call s')
    (hawaits : AwaitsCheckpoint s id) (hcleared : ¬ AwaitsCheckpoint s' id) :
    ∃ ticket checkpointId observed, call = .confirmJointCheckpointBoundary ticket checkpointId ∧
      s.cancelCheckpoints.get? ticket.native.operationId = some observed ∧
      observed.body = ticket ∧ ticket.boundary.binding.bindingId = id ∧
      cancelEpoch s id = ticket.boundary.cancelEpoch := by
  unfold AwaitsCheckpoint checkpointEpoch cancelEpoch at hawaits hcleared
  cases hrow : s.cancelBoundaries.get? id with
  | none => simp [hrow] at hawaits
  | some row =>
    obtain ⟨row', hrow', hchg⟩ := heff.boundaries.stays hrow
    simp only [hrow, hrow', Option.elim_some] at hawaits hcleared
    cases hchg with
    | same => exact absurd hawaits hcleared
    | cancelled => exact absurd (Nat.lt_succ_of_lt hawaits) hcleared
    | @confirmed ticket checkpointId observed call_eq stored same binding current =>
      refine ⟨ticket, checkpointId, observed, call_eq, stored, same, binding, ?_⟩
      simpa [cancelEpoch, hrow] using current

/-! ## Tickets -/

/-- The call stored the ticket. -/
def Prepares (ticket : JointCheckpointBoundaryObservation) (e : Db × (Call × Reply)) : Prop :=
  e.2.1 = .prepareJointCheckpointBoundary ticket.boundary.binding ticket.native ∧
    e.1.cancelCheckpoints.get? ticket.native.operationId = none

theorem boundaryEpochs_le (s id) (generation : Nat) :
    (boundaryEpochs s id generation).1 ≤ cancelEpoch s id := by
  unfold boundaryEpochs cancelEpoch
  cases s.cancelBoundaries.get? id with
  | none => exact Nat.le_refl 0
  | some row =>
    simp only [Option.elim_some]
    split
    · exact Nat.le_refl _
    · exact Nat.zero_le _

/-- A stored ticket was stored before, or is stored now with the epoch of now. -/
theorem Effect.ticket_old (heff : Effect config s call s') {row'}
    (hrow' : s'.cancelCheckpoints.get? operationId = some row') (reply) :
    (∃ row, s.cancelCheckpoints.get? operationId = some row ∧ row'.body = row.body) ∨
      Prepares row'.body (s, (call, reply)) ∧
        row'.body.boundary.cancelEpoch ≤ cancelEpoch s row'.body.boundary.binding.bindingId := by
  cases heff with
  | admitJoint admits | admitHost admits =>
    rw [admits.frame] at hrow'
    exact .inl ⟨row', hrow', rfl⟩
  | @prepareBoundary binding native row bound free =>
    rcases get?_add_cases hrow' with hold | ⟨-, -, rfl⟩
    · exact .inl ⟨row', hold, rfl⟩
    · exact .inr ⟨⟨rfl, free⟩, boundaryEpochs_le s binding.bindingId row.generation⟩
  | confirmBoundary =>
    rw [get?_modify] at hrow'
    obtain ⟨row, hrow, rfl⟩ := Option.map_eq_some_iff.1 hrow'
    refine .inl ⟨row, hrow, ?_⟩
    split <;> rfl
  | _ => exact .inl ⟨row', hrow', rfl⟩

/-- **Tickets**: a stored ticket was stored by a call of the run, and its epoch is not ahead of
what the epoch was then. -/
theorem prepares_of_stored (h : Run (Commit config) Db.empty tr s)
    {row} (hrow : s.cancelCheckpoints.get? operationId = some row) :
    ∃ before e after t, tr = before ++ e :: after ∧ Prepares row.body e ∧
      row.body.boundary.cancelEpoch ≤ cancelEpoch e.1 row.body.boundary.binding.bindingId ∧
      StoreReachable config e.1 ∧ Commit config e.1 e.2 t ∧ Run (Commit config) t after s := by
  induction h generalizing row with
  | nil => exact absurd hrow (by simp [Db.empty])
  | @snoc tr s s' event hrun hcom ih =>
    rcases (effect_of_commit hcom).ticket_old hrow event.2 with ⟨old, hold, hbody⟩ | ⟨hnew, hle⟩
    · obtain ⟨before, e, after, t, rfl, hprepares, hle, hreach, hprep, hafter⟩ := ih hold
      rw [hbody]
      exact ⟨before, e, after ++ [(s, event)], t, by simp, hprepares, hle, hreach, hprep,
        hafter.snoc hcom⟩
    · exact ⟨tr, (s, event), [], s', rfl, hnew, hle, ⟨tr, hrun⟩, hcom, .nil⟩

/-- Until a cancelled turn settles the epoch stays, so none settled in a run that ends in the
epoch it began in. -/
theorem not_settlesCancelled_of_le (h : StoreReachable config s)
    (hrun : Run (Commit config) s tr s') (hle : cancelEpoch s' id ≤ cancelEpoch s id) :
    ∀ e ∈ tr, ¬ SettlesCancelled id e := by
  rintro ⟨t, event⟩ hmem hsettles
  obtain ⟨before, after, t', -, hbef, hcom, hafter⟩ := hrun.split_of_mem hmem
  have hreach : StoreReachable config t := h.run hbef
  have hreach' : StoreReachable config t' := hreach.run (Run.nil.snoc hcom)
  have hstart : cancelEpoch s id ≤ cancelEpoch t id := (epochs_mono_of_run h hbef id).1
  have hsettle : cancelEpoch t id < cancelEpoch t' id :=
    hsettles.lt (boundariesOrdered_of_storeReachable hreach) hcom
  have hend : cancelEpoch t' id ≤ cancelEpoch s' id := (epochs_mono_of_run hreach' hafter id).1
  omega

/-! ## Publications -/

/-- A checkpoint is acknowledged only while the workspace it was taken of awaits none. -/
theorem not_awaitsCheckpoint_of_publish {admission record reply}
    (hcom : Commit config s (.publishJointCheckpoint admission record, reply) s') :
    ∃ op, s.operations.get? admission.intentId = some op ∧
      ∀ parent, op.request.parentBinding = some parent → ¬ AwaitsCheckpoint s parent.bindingId := by
  obtain ⟨_, h, -⟩ := run_answering_eq_ok.1 hcom
  simp only [publishJointCheckpoint, Tx.checks, run_operation_eq_ok, run_refuseHost_eq_ok] at h
  obtain ⟨op, hop, -, -, _, t, hstable, -⟩ := h
  refine ⟨op, hop, fun parent hpar => not_awaitsCheckpoint ?_⟩
  rcases Tx.run_forSome_eq_ok.1 hstable with ⟨parent', hpar', hstable⟩ | ⟨hnone, -⟩
  · cases hpar.symm.trans hpar'
    simp only [requireStableBoundary, Tx.checks] at hstable
    simpa using hstable.1
  · cases hpar.symm.trans hnone

/-- Evidence of an artifact is recorded only while the workspace awaits no checkpoint. -/
theorem Effect.evidence_new (heff : Effect config s call s') {h'}
    (hsto' : s'.hostIntents.get? id = some h') {e} (he : h'.artifactEvidence = some e) :
    (∃ h, s.hostIntents.get? id = some h ∧ h.artifactEvidence = some e) ∨
      ¬ AwaitsCheckpoint s h'.access.admission.binding.bindingId := by
  rcases heff.hostIntents.origin hsto' with ⟨-, ⟨-, -⟩⟩ | ⟨h, hsto, hmove⟩
  · exact absurd he (by simp [newHostIntent])
  · exact (hmove.evidence e he).imp (fun hold => ⟨h, hsto, hold⟩) not_awaitsCheckpoint

/-- **Cancellation boundaries**: no checkpoint is ahead of the cancelled turns, and neither epoch
decreases.  While the epochs of a binding differ, no checkpoint of it is published or acknowledged
again, and no Host read on it records evidence.  What brings them together is a confirmed ticket,
and no cancelled turn of the binding settled since that ticket was prepared. -/
theorem cancellation_boundaries {tr : List (Db × (Call × Reply))}
    (h : Run (Commit config) Db.empty tr s) :
    (∀ id, checkpointEpoch s id ≤ cancelEpoch s id) ∧
    (∀ tr' s' id, Run (Commit config) s tr' s' →
      cancelEpoch s id ≤ cancelEpoch s' id ∧ checkpointEpoch s id ≤ checkpointEpoch s' id) ∧
    ∀ event s', Commit config s event s' →
      (∀ id, s.jointCheckpoints.get? id = none → s'.jointCheckpoints.get? id ≠ none →
        ∃ admission record, event.1 = .publishJointCheckpoint admission record) ∧
      (∀ admission record, event.1 = .publishJointCheckpoint admission record →
        ∃ op, s.operations.get? admission.intentId = some op ∧
          ∀ parent, op.request.parentBinding = some parent →
            ¬ AwaitsCheckpoint s parent.bindingId) ∧
      (∀ id host' e, s'.hostIntents.get? id = some host' → host'.artifactEvidence = some e →
        (∃ host, s.hostIntents.get? id = some host ∧ host.artifactEvidence = some e) ∨
          ¬ AwaitsCheckpoint s host'.access.admission.binding.bindingId) ∧
      ∀ id, AwaitsCheckpoint s id → cancelEpoch s' id = checkpointEpoch s' id →
        ∃ ticket checkpointId before e after,
          event.1 = .confirmJointCheckpointBoundary ticket checkpointId ∧
          ticket.boundary.binding.bindingId = id ∧ tr = before ++ e :: after ∧
          Prepares ticket e ∧ ∀ e' ∈ after, ¬ SettlesCancelled id e' := by
  have hreach : StoreReachable config s := ⟨tr, h⟩
  refine ⟨(boundariesOrdered_of_storeReachable hreach).le,
    fun tr' s' id hrun => epochs_mono_of_run hreach hrun id, ?_⟩
  intro event s' hcom
  have heff := effect_of_commit hcom
  refine ⟨?_, ?_, fun id host' e hsto' he => heff.evidence_new hsto' he, ?_⟩
  · intro id hnone hsome
    obtain ⟨row, hrow⟩ := Option.ne_none_iff_exists'.1 hsome
    rcases heff.jointCheckpoint_old hrow with hold | ⟨-, admission, record, _, hcall, -⟩
    · cases hnone.symm.trans hold
    · exact ⟨admission, record, hcall⟩
  · intro admission record hcall
    obtain ⟨call, reply⟩ := event
    obtain rfl : call = .publishJointCheckpoint admission record := hcall
    exact not_awaitsCheckpoint_of_publish hcom
  · intro id hawaits hequal
    obtain ⟨ticket, checkpointId, observed, hcall, hsto, rfl, rfl, hcur⟩ :=
      heff.confirmed_of_cleared hawaits (by simp [AwaitsCheckpoint, hequal])
    -- the confirmed ticket is stored, so some call of the run has prepared it
    obtain ⟨before, e, after, t, rfl, hprepares, hle, hreach_e, hprep, hafter⟩ :=
      prepares_of_stored h hsto
    refine ⟨observed.body, checkpointId, before, e, after, hcall, rfl, rfl, hprepares, ?_⟩
    have hreach_t : StoreReachable config t := hreach_e.run (Run.nil.snoc hprep)
    apply not_settlesCancelled_of_le hreach_t hafter
    -- the ticket has the epoch of now, and it had at most the epoch of when it was stored
    have hmono := (epochs_mono_of_run hreach_e (Run.nil.snoc hprep)
      observed.body.boundary.binding.bindingId).1
    exact (hcur.le.trans hle).trans hmono

/-- The message of the turn is cancelled, and a checkpoint is requested. -/
def cancelledCalls : List Call :=
  let admission := newAdmission turnRequest (0, some 2)
  openCalls ++ [
    .prepareJointOperation turnRequest, .claimJointNativeSend admission "send",
    .recordJointNativeResult admission "send" "00000000-0000-0000-0000-000000000003"
      "0000000000000000000000000000000000000000000000000000000000000000"
      ⟨.completed, [⟨"message", "message"⟩], .null⟩,
    .finishJointTurn admission
      { cancelled := true
        reply := none
        failure := none
        messageId := some "message"
        completedAtMs := 1
        executionInvalidated := false }]

def boundaryTicket : JointCheckpointBoundaryObservation where
  boundary := ⟨openRequest.binding, 1, 1, 0⟩
  native :=
    { step := "checkpoint"
      operationId := "00000000-0000-0000-0000-000000000005"
      digest := "0000000000000000000000000000000000000000000000000000000000000000"
      method := "checkpoint.create"
      params := .object [("thinkthreadId", .string "object"),
        ("runtimeThinkthreadId", .string "object")]
      effect := .mutate
      compensation := false }

private def confirmsNow : Except StoreError (Reply × Db) → Bool
  | .ok (.bool true, s) => cancelEpoch s "binding" = checkpointEpoch s "binding"
  | _ => false

/-- A checkpoint that was requested after the cancelled turn, and is confirmed, ends what the
turn began. -/
theorem boundaries_of_confirmed :
    let calls := cancelledCalls ++
      [.prepareJointCheckpointBoundary openRequest.binding boundaryTicket.native]
    let s := execAll smallConfig calls Db.empty
    AwaitsCheckpoint s "binding" ∧
    ∃ s', Commit smallConfig s
        (.confirmJointCheckpointBoundary boundaryTicket "checkpoint", .bool true) s' ∧
      ∃ before e after, traceAll smallConfig calls Db.empty = before ++ e :: after ∧
        Prepares boundaryTicket e ∧ ∀ e' ∈ after, ¬ SettlesCancelled "binding" e' := by
  intro calls s
  have hawaits : AwaitsCheckpoint s "binding" := by
    unfold AwaitsCheckpoint
    decide +kernel
  have hconfirms : confirmsNow ((exec smallConfig
      (.confirmJointCheckpointBoundary boundaryTicket "checkpoint")).run s) = true := by
    decide +kernel
  refine ⟨hawaits, ?_⟩
  unfold confirmsNow at hconfirms
  split at hconfirms
  · rename_i s' hrun
    have hcom : Commit smallConfig s
        (.confirmJointCheckpointBoundary boundaryTicket "checkpoint", .bool true) s' := hrun
    obtain ⟨ticket, _, before, e, after, hcall, -, htrace, hprepares⟩ :=
      ((cancellation_boundaries (run_execAll smallConfig calls Db.empty)).2.2 _ s' hcom).2.2.2
        "binding" hawaits (of_decide_eq_true hconfirms)
    obtain ⟨rfl, -⟩ := Call.confirmJointCheckpointBoundary.inj hcall
    exact ⟨s', hrun, before, e, after, htrace, hprepares⟩
  · exact absurd hconfirms (by simp)

end XGovernor.Joint
