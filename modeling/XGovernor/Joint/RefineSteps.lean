import XGovernor.Joint.Effects

/-!
# Native steps, turns, publication, compensation and release

Every committed transaction on an admitted ordinary operation has the effect that `Effect` gives
it, and is a step of the ledger.  Both are read off the same inversion: the checks that passed are
the conditions of the step, and an update whose guard holds for one row is an update of that row.
A transaction that finds its work done writes nothing, and is an internal step.
-/

namespace XGovernor.Joint

open Domain Lib Table Tx
open Ledger (Step Event)

variable (config : StoreConfig) {s s' : Db}
variable {admission : JointAdmission} {op : OperationRow} {native : JointNativeIntent} {u : Unit}
  {state : NativeOperationState} {id publicId : String} {kind : RefKind} {updatedAtMs : Nat}
  {resource : JointNativeObject} {publication : JointPublication} {bindingId step : String}
  {key : ObjectKey} {t : Db}

theorem runsOrdinary (hop : s.operations.get? admission.intentId = some op)
    (htoken : op.admission = admission) (hhost : op.request.context.operation.isHost = false)
    (hfenced : s.ledger.Fenced op.request admission) :
    s.ledger.RunsOrdinary admission op where
  stored := hop
  token := htoken
  fenced := hfenced
  ordinary := hhost

/-! ## Native steps -/

theorem claimJointNativeSend_commits {reply}
    (h : (claimJointNativeSend admission step).run s = .ok (reply, s')) :
    Effect config s (.claimJointNativeSend admission step) s' ∧ Step s.ledger
      (if reply.isSome then .dispatch admission.intentId step else .internal) s'.ledger := by
  simp only [claimJointNativeSend, checks, run_operation_eq_ok, run_refuseHost_eq_ok,
    run_checkFences_eq_ok, run_queryRow_eq_ok, beq_iff_eq] at h
  obtain ⟨op, hop, htoken, hhost, hfenced, hstage, row, hrow, hphase, h⟩ := h
  have hruns := runsOrdinary hop htoken hhost hfenced
  split at h
  · obtain ⟨rfl, rfl⟩ := Tx.run_pure_eq_ok.1 h
    exact ⟨.quiet _, .internal⟩
  · rename_i hnone
    simp only [updateSteps, updateHostWorkspace, advanceStage, updateOperations, checks,
      writes, run_when_eq_ok] at h
    obtain ⟨t, hworkspace, rfl, rfl⟩ := h
    have hnone : row.outcome = none := by simpa using hnone
    have heff : Effect config s (.claimJointNativeSend admission step) _ :=
      .claimNative hruns hstage hrow hphase hnone
    refine ⟨?_, (Step.dispatch hruns hstage hrow hnone).to ?_⟩
    · rcases hworkspace with ⟨hturn, rfl⟩ | ⟨hturn, rfl⟩
      · simp only [of_decide_eq_true hturn, if_true] at heff
        exact heff
      · simp only [of_decide_eq_false hturn, if_false] at heff
        exact heff
    · rcases hworkspace with ⟨-, rfl⟩ | ⟨-, rfl⟩ <;>
        simp only [Db.ledger, get?_modify_eq, modified_key hrow, modified_key hop] <;> rfl

theorem appendJointNativeStep_commits
    (h : (appendJointNativeStep admission native).run s = .ok (u, s')) :
    Effect config s (.appendJointNativeStep admission native) s' ∧
      Step s.ledger .internal s'.ledger := by
  simp only [appendJointNativeStep, checks, run_validated_eq_ok, run_operation_eq_ok,
    run_refuseHost_eq_ok, run_checkFences_eq_ok, beq_iff_eq] at h
  obtain ⟨-, op, hop, htoken, hhost, hfenced, -, hphase, h⟩ := h
  split at h
  · obtain ⟨-, rfl⟩ := Tx.run_require_eq_ok.1 h
    exact ⟨.quiet _, .internal⟩
  · rename_i hfree
    obtain ⟨-, -, rfl⟩ := run_insertRow_eq_ok.1 h
    have hruns := runsOrdinary hop htoken hhost hfenced
    refine ⟨.append hruns hphase hfree, (Step.append hruns hfree).to ?_⟩
    simp only [Db.ledger, get?_add_eq, extended_key hfree]

/-! ### Reports -/

private theorem sightObject_ledger {rootId} (h : (sightObject key rootId).run s = .ok (u, s')) :
    s'.ledger = { s.ledger with
      objects := Ledger.observed rootId s.ledger.objects (key, .present) } := by
  simp only [sightObject, checks] at h
  obtain ⟨-, _, t, ht, h⟩ := h
  have e₁ := ledger_updateObjects ht
  have e₂ := ledger_addObject h
  have hobj : extended (modified s.ledger.objects (fun other _ => other = key)
      fun row => { row with absent := false }) key ⟨rootId, false⟩ =
      Ledger.observed rootId s.ledger.objects (key, .present) := by
    funext other
    by_cases hkey : other = key
    · subst hkey
      cases hrow : s.ledger.objects other <;>
        simp [extended, modified, Ledger.observed, hrow]
    · cases hrow : s.ledger.objects other <;>
        simp [extended, modified, Ledger.observed, hrow, hkey]
  simp only [e₂, e₁, hobj]

private theorem observeAbsence_ledger (rootId : String)
    (h : (observeAbsence key).run s = .ok (u, s')) :
    s'.ledger = { s.ledger with
      objects := Ledger.observed rootId s.ledger.objects (key, .absent) } := by
  simp only [observeAbsence, checks] at h
  have e := ledger_updateObjects h.2
  have hobj : modified s.ledger.objects (fun other _ => other = key)
      (fun row => { row with absent := true }) =
      Ledger.observed rootId s.ledger.objects (key, .absent) := by
    funext other
    simp [modified, Ledger.observed]
  simp only [e, hobj]

private theorem checkResource_eq
    (h : (checkResource op native state resource).run s = .ok (u, s')) : s' = s := by
  simp only [checkResource, checks] at h
  exact h.2.2.2

private theorem recordResource_ledger
    (h : (recordResource op admission native state resource).run s = .ok (u, s')) :
    s'.ledger = { s.ledger with
      objects := (Ledger.sightingOf admission native state resource).elim s.ledger.objects
        (Ledger.observed op.request.rootId s.ledger.objects) } := by
  simp only [recordResource, run_bind_eq_ok] at h
  obtain ⟨_, t, hcreate, habs⟩ := h
  by_cases hc : native.effect = .create
  · -- a create step: the second statement does not run
    simp only [hc, decide_true, run_when_eq_ok, true_and, Bool.true_eq_false, false_and,
      or_false] at hcreate
    simp only [hc, reduceCtorEq, decide_false, Bool.and_false, run_when_eq_ok,
      Bool.false_eq_true, false_and, true_and, false_or] at habs
    subst habs
    simpa [Ledger.sightingOf, hc] using sightObject_ledger hcreate
  · simp only [hc, decide_false, run_when_eq_ok, Bool.false_eq_true, false_and, true_and,
      false_or] at hcreate
    subst hcreate
    rcases Tx.run_when_eq_ok.1 habs with ⟨ha, hobserve⟩ | ⟨ha, rfl⟩
    · have hsighting : native.effect = .observeAbsence ∧ state = .completed := by
        simpa [and_comm] using ha
      rw [observeAbsence_ledger op.request.rootId hobserve]
      simp [Ledger.sightingOf, hsighting]
    · have hsighting : ¬ (native.effect = .observeAbsence ∧ state = .completed) := by
        simpa [imp_not_comm] using ha
      simp [Ledger.sightingOf, hc, hsighting]

/-- The objects after the report of a list of resources. -/
private theorem recordResources_ledger {resources}
    (h : (Tx.forEach resources (recordResource op admission native state)).run s = .ok (u, s')) :
    s'.ledger = { s.ledger with
      objects := (Ledger.sightingsOf admission native state resources).foldl
        (Ledger.observed op.request.rootId) s.ledger.objects } := by
  induction resources generalizing s with
  | nil =>
    obtain rfl := Tx.run_forEach_nil_eq_ok.1 h
    rfl
  | cons resource rest ih =>
    obtain ⟨t, hfirst, hrest⟩ := Tx.run_forEach_cons_eq_ok.1 h
    rw [ih hrest, recordResource_ledger hfirst, Ledger.sightingsOf, Ledger.sightingsOf]
    cases hevent : Ledger.sightingOf admission native state resource with
    | none => simp [hevent]
    | some event => simp [hevent]

private theorem state_mergeOutcome (old : Option JointNativeOutcome)
    (outcome) : (mergeOutcome old outcome).state = outcome.state := by
  cases old <;> rfl

/-- The objects are the only table that the resources of a report write. -/
private def objectMask : Mask Db where
  copy := fun t s => { s with objects := t.objects }
  copy_self := Eq.refl
  copy_copy := fun _ _ _ => rfl

private theorem within_recordResource :
    (recordResource op admission native state resource).Within objectMask := by
  refine within_bind (within_when ?_) fun _ => within_when ?_
  · refine within_bind within_get fun _ => within_bind within_require fun _ =>
      within_bind (within_modify fun _ => rfl) fun _ => within_modify fun _ => rfl
  · exact within_bind within_get fun _ => within_bind within_require fun _ =>
      within_modify fun _ => rfl

private theorem reportedStage_cases (db id) :
    reportedStage db id = .unknown ∨ reportedStage db id = .accepted :=
  ite_eq_or_eq _ _ _

/-- The resources known before stay in front. -/
private theorem mergeResources_retains (old incoming : List JointNativeObject) :
    old <+: mergeResources old incoming := by
  induction incoming generalizing old with
  | nil => exact List.prefix_refl old
  | cons resource rest ih =>
    refine List.IsPrefix.trans ?_ (ih _)
    dsimp only
    split
    · exact List.prefix_refl old
    · exact List.prefix_append old [resource]

/-- A report either repeats what is stored or is a new report about an unsettled step. -/
theorem recordJointNativeResult_commits {operationId digest outcome}
    (h : (recordJointNativeResult admission step operationId digest outcome).run s = .ok (u, s')) :
    Effect config s (.recordJointNativeResult admission step operationId digest outcome) s' ∧
    ((∃ row, s.steps.get? (admission.intentId, step) = some row ∧
      row.outcome = some (mergeOutcome row.outcome outcome) ∧ s' = s) ∨
    (∃ row, s.steps.get? (admission.intentId, step) = some row ∧
      row.outcome ≠ some (mergeOutcome row.outcome outcome) ∧
      (∀ old, row.outcome = some old → old.state.isTerminal = false) ∧
      Step s.ledger (.sightings
        (Ledger.sightingsOf admission row.native outcome.state outcome.resources))
        s'.ledger)) := by
  simp only [recordJointNativeResult, checks, run_operation_eq_ok, run_refuseHost_eq_ok,
    run_checkFences_eq_ok, run_queryRow_eq_ok] at h
  obtain ⟨-, op, hop, htoken, hhost, hfenced, hstage, row, hrow, -, h⟩ := h
  have hruns := runsOrdinary hop htoken hhost hfenced
  split at h
  · rename_i hsame
    obtain ⟨-, rfl⟩ := Tx.run_pure_eq_ok.1 h
    exact ⟨.quiet _, .inl ⟨row, hrow, hsame, rfl⟩⟩
  · rename_i hchanged
    simp only [updateSteps, advanceStage, updateOperations, checks, run_modify_eq_ok] at h
    obtain ⟨hopen, -, _, t₁, hcheck, _, t₂, hobj, rfl⟩ := h
    -- first all resources are checked, then all of them are written
    obtain rfl : t₁ = s := Tx.forEach_invariant (P := fun t => t = s)
      (fun x _ t t' ht hx => (checkResource_eq hx).trans ht) rfl hcheck
    have hunset : ∀ old, row.outcome = some old → old.state.isTerminal = false := by
      intro old hold
      simpa [hold] using hopen
    refine ⟨?_, .inr ⟨row, hrow, hchanged, hunset, ?_⟩⟩
    · rw [(within_forEach fun _ => within_recordResource).run_eq _ _ _ hobj]
      exact .record hruns hstage hrow hunset (ite_eq_or_eq _ _ _)
    · have hledg := recordResources_ledger hobj
      simp only [Db.ledger, Ledger.mk.injEq] at hledg
      rw [← state_mergeOutcome row.outcome outcome]
      refine (Step.record hruns hstage hrow hunset (reportedStage_cases
        { t₂ with
          steps := t₂.steps.modify (fun key _ => key = (admission.intentId, step))
            fun row' => { row' with outcome := some (mergeOutcome row.outcome outcome) } }
        admission.intentId) fun old hold => ?_).to ?_
      · rw [hold]
        exact mergeResources_retains old.resources outcome.resources
      simp only [Db.ledger, hledg, get?_modify_eq, modified_key hrow, modified_key hop]
      rfl

/-! ## Publication -/

private theorem completed_of_completedNative (h : (completedNative id).run s = .ok (u, s')) :
    (∀ step row, s.ledger.steps (id, step) = some row →
      ∃ outcome, row.outcome = some outcome ∧ outcome.state = .completed) ∧ s' = s := by
  simp only [completedNative, checks, Bool.and_eq_true, List.all_eq_true] at h
  obtain ⟨-, hall, rfl⟩ := h
  refine ⟨fun step row hrow => ?_, rfl⟩
  have hcomp := hall ((id, step), row) (mem_select_iff.2 ⟨hrow, by simp⟩)
  simpa [Option.any_eq_true] using hcomp

/-- The common end of both publications. -/
private theorem publish_eq (h : (publish admission publication).run s = .ok (u, s'))
    (hop : s.operations.get? admission.intentId = some op) :
    (op.stage = .prepared ∨ op.stage = .accepted) ∧
    (∃ row, s.bindings.get? admission.binding.bindingId = some row ∧
      row.generation = admission.generation ∧ row.state = .prepared) ∧
    s' = s.published admission publication := by
  simp only [publish, updateOperations, updateBindings, updateReservations, releaseFences,
    updateFences, checks, run_modify_eq_ok] at h
  obtain ⟨hstage, hbind, -, rfl⟩ := h
  obtain ⟨row, hrow, hmatch⟩ := (Option.any_eq_true _ _).1 hbind
  simp only [Bool.and_eq_true, decide_eq_true_eq] at hmatch
  exact ⟨by simpa [hop] using hstage, ⟨row, hrow, hmatch⟩, rfl⟩

/-- The two publications differ in the record they insert, which is not in the ledger. -/
private theorem published_refines (hruns : s.ledger.RunsOrdinary admission op)
    (hcreates : op.request.context.operation.creates = true)
    (hcomp : ∀ step row, s.ledger.steps (admission.intentId, step) = some row →
      ∃ outcome, row.outcome = some outcome ∧ outcome.state = .completed)
    (hident : createdIdentity op.request.context = (kind, publicId))
    (hready : op.stage = .prepared ∨ op.stage = .accepted)
    (hbind : ∃ row, s.bindings.get? admission.binding.bindingId = some row ∧
      row.generation = admission.generation ∧ row.state = .prepared)
    (hfree : s.refs.get? (kind, publicId) = none) (ht : t.ledger = { s with
      refs := s.refs.add (kind, publicId) admission.binding.bindingId }.ledger) :
    Step s.ledger .internal (t.published admission publication).ledger := by
  obtain ⟨row, hrow, hgen, hprep⟩ := hbind
  refine (Step.publish publication hruns hcreates hready hcomp hrow hprep
    (hident ▸ hfree)).to ?_
  -- the guards of the updates hold, so each of them changes the one row it names
  have hops := modified_eq_update (m := s.operations.get?) hruns.stored
    (p := fun key row => key = admission.intentId && [.prepared, .accepted].contains row.stage)
    (by simpa using hready) (fun k v h => by simp at h; exact h.1)
    fun row => { row with stage := .published, publication := some publication }
  have hbinds := modified_eq_update hrow
    (p := fun key row => key = admission.binding.bindingId &&
      row.generation = admission.generation && row.state = .prepared)
    (by simp [hgen, hprep]) (fun k v h => by simp at h; exact h.1.1)
    fun row => { row with state := .active }
  have hresv : modified s.reservations.get?
      (fun key row => key.1 = admission.intentId && row.state = .reserved)
      (fun row => { row with state := .committed }) =
      Ledger.committed s.reservations.get? admission.intentId := by
    funext key
    simp [modified, Ledger.committed]
  simp only [Db.ledger, Ledger.mk.injEq, get?_add_eq, extended_key hfree] at ht
  simp only [Db.published, Db.ledger, freedFences_get?, get?_modify_eq, ht, hops,
    hbinds, hresv, hident]

theorem publishJointSession_commits {record reply}
    (h : (publishJointSession admission record).run s = .ok (reply, s')) :
    Effect config s (.publishJointSession admission record) s' ∧
      Step s.ledger .internal s'.ledger := by
  simp only [publishJointSession, checks, run_operation_eq_ok, run_refuseHost_eq_ok] at h
  obtain ⟨op, hop, htoken, hhost, h⟩ := h
  split at h
  · simp only [checks, run_pure_eq_ok] at h
    obtain ⟨-, -, rfl⟩ := h
    exact ⟨.quiet _, .internal⟩
  · simp only [publishNewSession, insertJointSession, insertRef, checks, run_checkFences_eq_ok,
      run_checked_eq_ok, run_insertRow_eq_ok, run_pure_eq_ok, Bool.and_eq_true,
      decide_eq_true_eq, Option.isNone_iff_eq_none] at h
    obtain ⟨hfenced, _, _, ⟨_, t, hcomp, hoper, -, -, hvalid, hbacking, hidle,
      hunsplit, hfree, -, hunheld, -, hpub⟩, -, rfl⟩ := h
    obtain ⟨hcomp, rfl⟩ := completed_of_completedNative hcomp
    obtain ⟨hready, hbind, rfl⟩ := publish_eq hpub hop
    have hoper : op.request.context.operation = .openSession ∨
        op.request.context.operation = .load := by simpa using hoper
    have hcreates : op.request.context.operation.creates = true := by
      rcases hoper with h | h <;> rw [h] <;> rfl
    have hident : createdIdentity op.request.context = (.session, record.runtimeId) := by
      rw [(identity_of_validateCommittedSession hvalid).1]
      rcases hoper with h | h <;> simp [createdIdentity, h]
    have hruns := runsOrdinary hop htoken hhost hfenced
    exact ⟨.publishSession hruns hready hcreates hident hbacking hidle hunsplit hfree
        (identity_of_validateCommittedSession hvalid).2,
      published_refines hruns hcreates hcomp hident hready hbind hunheld rfl⟩

theorem publishJointCheckpoint_commits {record reply}
    (h : (publishJointCheckpoint admission record).run s = .ok (reply, s')) :
    Effect config s (.publishJointCheckpoint admission record) s' ∧
      Step s.ledger .internal s'.ledger := by
  simp only [publishJointCheckpoint, checks, run_operation_eq_ok, run_refuseHost_eq_ok] at h
  obtain ⟨op, hop, htoken, hhost, _, t, hstable, h⟩ := h
  obtain rfl : t = s := by
    rcases Tx.run_forSome_eq_ok.1 hstable with ⟨parent, -, hpar⟩ | ⟨-, rfl⟩
    · simp only [requireStableBoundary, checks] at hpar
      exact hpar.2
    · rfl
  split at h
  · simp only [checks, run_pure_eq_ok] at h
    obtain ⟨-, -, rfl⟩ := h
    exact ⟨.quiet _, .internal⟩
  · simp only [publishNewCheckpoint, insertJointCheckpoint, insertRef, checks,
      run_checkFences_eq_ok, run_insertRow_eq_ok, run_pure_eq_ok, Bool.and_eq_true,
      decide_eq_true_eq, Option.isNone_iff_eq_none] at h
    obtain ⟨hfenced, _, _, ⟨_, t, hcomp, hoper, hsame, htenant, -, -, hid, -, hunsplit,
      hfree, -, hunheld, -, hpub⟩, -, rfl⟩ := h
    obtain ⟨hcomp, rfl⟩ := completed_of_completedNative hcomp
    obtain ⟨hready, hbind, rfl⟩ := publish_eq hpub hop
    have hcreates : op.request.context.operation.creates = true := by
      rw [hoper]
      rfl
    have hident : createdIdentity op.request.context = (.checkpoint, record.checkpointId) := by
      simp [createdIdentity, hoper, ← hid]
    have hruns := runsOrdinary hop htoken hhost hfenced
    exact ⟨.publishCheckpoint hruns hready hcreates hident hsame hunsplit hfree htenant,
      published_refines hruns hcreates hcomp hident hready hbind hunheld
        (by rw [hsame]; rfl)⟩

/-! ## Turns -/

private theorem settled_of_unsettledStep (h : unsettledStep s id = false) :
    s.ledger.Settled id := by
  intro step row hrow
  have hstep := any_eq_false_iff.1 h (id, step) row hrow
  simpa [Option.any_eq_true] using hstep

theorem settled_of_settledNative (h : (settledNative id).run s = .ok (u, s')) :
    s.ledger.Settled id ∧ s' = s := by
  simp only [settledNative, checks, Bool.not_eq_true'] at h
  exact ⟨settled_of_unsettledStep h.1, h.2⟩

/-- A turn that is finished and was not settled yet is settled now. -/
theorem finishJointTurn_settles {terminal}
    (h : (finishJointTurn admission terminal).run s = .ok (u, s')) :
    Effect config s (.finishJointTurn admission terminal) s' ∧ Step s.ledger .internal s'.ledger ∧
      ∀ op, s.operations.get? admission.intentId = some op → op.stage ≠ .settled →
        s.ledger.RunsOrdinary admission op ∧
          ∃ session, s' = s.turnSettled op admission terminal session := by
  simp only [finishJointTurn, checks, run_operation_eq_ok, run_refuseHost_eq_ok,
    run_expect_eq_ok, Bool.and_eq_true, decide_eq_true_eq] at h
  obtain ⟨op, hop, htoken, hhost, hturn, -, turn, -, h⟩ := h
  split at h
  · rename_i hsettled
    simp only [checks, run_expect_eq_ok] at h
    obtain ⟨_, -, -, rfl⟩ := h
    -- the turn is settled: the same terminal is accepted again
    refine ⟨.quiet _, .internal, fun op' hop' hunset => ?_⟩
    exact absurd (Option.mem_unique hop hop' ▸ hsettled) hunset
  · rename_i hunset
    simp only [settleTurn, updateJointSessions, updateTurns, setStage, updateOperations,
      updateCancelBoundaries, updateHostWorkspace, releaseFences, updateFences, checks,
      run_checkFences_eq_ok, run_queryRow_eq_ok, writes, run_when_eq_ok, decide_eq_true_eq] at h
    obtain ⟨hfenced, _, t, hsettled, native, -, row, -, -, outcome, -, -, session, hsess,
      hbound, -, t₁, hboundary, hs'⟩ := h
    obtain ⟨hsettled, rfl⟩ := settled_of_settledNative hsettled
    have hruns := runsOrdinary hop htoken hhost hfenced
    -- a cancelled turn raises the cancel epoch of its binding, too
    obtain rfl : s' = t.turnSettled op admission terminal session := by
      rcases hboundary with ⟨hcanc, rfl⟩ | ⟨hcanc, rfl⟩
      · simp only [hs', Db.turnSettled, hcanc, if_true]
        rfl
      · simp only [hs', Db.turnSettled, hcanc, Bool.false_eq_true, if_false]
        rfl
    refine ⟨.settleTurn hruns hturn hunset hsettled hsess hbound,
      (Step.settleTurn hruns hturn hsettled).to ?_, fun op' hop' _ => ?_⟩
    · simp only [Db.turnSettled, Db.ledger, stagedOperation, freedFences_get?,
        get?_modify_eq, modified_key hop]
    · cases hop.symm.trans hop'
      exact ⟨hruns, session, rfl⟩

/-! ## Compensation -/

private theorem unreferenced_of_any
    (h : (s.refs.any fun _ target => target = bindingId) = false) (key : RefKind × String) :
    s.ledger.refs key ≠ some bindingId := by
  intro hkey
  simpa using any_eq_false_iff.1 h key bindingId hkey

private theorem allAbsent_of_any {generation} (h : (s.objects.any fun key row =>
      key.bindingId = bindingId && key.generation = generation && !row.absent) = false) :
    s.ledger.AllAbsent bindingId generation := by
  intro key row hrow hbind hgen
  simpa [hbind, hgen] using any_eq_false_iff.1 h key row hrow

theorem beginJointCompensation_commits
    (h : (beginJointCompensation admission).run s = .ok (u, s')) :
    Effect config s (.beginJointCompensation admission) s' ∧ Step s.ledger .internal s'.ledger := by
  simp only [beginJointCompensation, checks, run_operation_eq_ok, run_refuseHost_eq_ok,
    run_checkFences_eq_ok] at h
  obtain ⟨op, hop, htoken, hhost, hfenced, h⟩ := h
  split at h
  · obtain ⟨-, rfl⟩ := Tx.run_pure_eq_ok.1 h
    exact ⟨.quiet _, .internal⟩
  · simp only [setBindingState, updateBindings, setStage, updateOperations, checks,
      run_modify_eq_ok, Bool.not_eq_true', Bool.or_eq_false_iff] at h
    obtain ⟨hready, hsettled, href, hbind, rfl⟩ := h
    obtain ⟨row, hrow, hmatch⟩ := (Option.any_eq_true _ _).1 hbind
    simp only [Bool.and_eq_true, decide_eq_true_eq] at hmatch
    have hruns := runsOrdinary hop htoken hhost hfenced
    refine ⟨.beginCompensation hruns hready hsettled ⟨row, hrow, hmatch.1.2, hmatch.2⟩,
      (Step.beginCompensation hruns (by simpa using hready) hrow hmatch.2 hmatch.1.2
        (unreferenced_of_any href)).to ?_⟩
    simp only [Db.ledger, get?_modify_eq, modified_key hrow, modified_key hop]

theorem finishJointCompensation_commits
    (h : (finishJointCompensation admission).run s = .ok (u, s')) :
    Effect config s (.finishJointCompensation admission) s' ∧
      Step s.ledger .internal s'.ledger := by
  simp only [finishJointCompensation, checks, run_operation_eq_ok, run_refuseHost_eq_ok] at h
  obtain ⟨op, hop, htoken, hhost, h⟩ := h
  split at h
  · obtain ⟨-, rfl⟩ := Tx.run_pure_eq_ok.1 h
    exact ⟨.quiet _, .internal⟩
  · rename_i hstage
    simp only [deleteRefs, setBindingState, updateBindings, deleteWorkspaceClaims,
      updateReservations, setStage, updateOperations, deletePublicClaims, releaseFences,
      updateFences, checks, run_checkFences_eq_ok, run_modify_eq_ok, Bool.not_eq_true',
      Bool.or_eq_false_iff] at h
    obtain ⟨hfenced, hbind, hsettled, href, halive, rfl⟩ := h
    obtain ⟨row, hrow, hmatch⟩ := (Option.any_eq_true _ _).1 hbind
    simp only [Bool.and_eq_true, decide_eq_true_eq] at hmatch
    have hruns := runsOrdinary hop htoken hhost hfenced
    have hopen : row.state = .prepared ∨ row.state = .compensating := by simpa using hmatch.1
    refine ⟨.finishCompensation hruns ⟨row, hrow, hmatch.2, hopen⟩ href,
      (Step.finishCompensation hruns hstage hrow hopen hmatch.2
        (settled_of_unsettledStep hsettled) (unreferenced_of_any href)
        (allAbsent_of_any halive)).to ?_⟩
    have hresv : modified s.reservations.get?
        (fun key _ => key.1 = admission.intentId) (fun row => { row with state := .released }) =
        Ledger.returned s.reservations.get? [admission.intentId] := by
      funext key
      simp [modified, Ledger.returned]
    show (s.compensated admission).ledger = _
    simp only [Db.compensated, Db.ledger, stagedOperation, freedFences_get?,
      get?_modify_eq, get?_erase_eq, erased_key, hresv, modified_key hrow, modified_key hop]

/-! ## Release -/

/-- The record that a release retires is not in the ledger. -/
private theorem released_ledger {row} (ht : t.ledger = s.ledger)
    (hrow : s.bindings.get? admission.binding.bindingId = some row)
    (howned : s.refs.get? (kind, publicId) = some admission.binding.bindingId) :
    (t.released admission kind publicId row.creationIntent).ledger = { s.ledger with
      bindings := Function.update s.ledger.bindings admission.binding.bindingId
        (some { row with state := .removed })
      operations := Ledger.restaged s.ledger.operations [row.creationIntent, admission.intentId]
        .released
      reservations := Ledger.returned s.ledger.reservations
        [row.creationIntent, admission.intentId]
      fences := Ledger.released s.ledger.fences admission.intentId
      refs := Ledger.dropped s.ledger.refs
        [(kind, publicId), (.binding, admission.binding.bindingId)] } := by
  have hrefs := erased_eq_dropped s.refs.get? (kind, publicId)
    (fun target => target = admission.binding.bindingId) fun target htgt => by
      simpa using Option.mem_unique htgt howned
  have hresv : modified s.reservations.get?
      (fun key _ => key.1 = row.creationIntent || key.1 = admission.intentId)
      (fun row => { row with state := .released }) =
      Ledger.returned s.reservations.get? [row.creationIntent, admission.intentId] := by
    funext key
    simp [modified, Ledger.returned]
  have hops : modified s.operations.get?
      (fun key _ => key = row.creationIntent || key = admission.intentId)
      (fun row => { row with stage := .released }) =
      Ledger.restaged s.operations.get? [row.creationIntent, admission.intentId] .released := by
    funext key
    simp [modified, Ledger.restaged]
  simp only [Db.ledger, Ledger.mk.injEq] at ht
  simp only [Db.released, Db.ledger, freedFences_get?, get?_modify_eq, get?_erase_eq,
    ht, hrefs, erased_key, dropped_dropped, hresv, hops, modified_key hrow]

theorem finishJointRelease_commits
    (h : (finishJointRelease admission kind publicId updatedAtMs).run s = .ok (u, s')) :
    Effect config s (.finishJointRelease admission kind publicId updatedAtMs) s' ∧
      Step s.ledger .internal s'.ledger := by
  simp only [finishJointRelease, checks, run_operation_eq_ok, run_refuseHost_eq_ok,
    Bool.or_eq_true, Bool.and_eq_true, decide_eq_true_eq] at h
  obtain ⟨op, hop, htoken, hhost, hkind, hident, h⟩ := h
  split at h
  · obtain ⟨-, rfl⟩ := Tx.run_pure_eq_ok.1 h
    exact ⟨.quiet _, .internal⟩
  · rename_i hstage
    simp only [release, deleteRefs, setBindingState, updateBindings, deleteWorkspaceClaims,
      updateReservations, updateOperations, releaseFences, updateFences, checks,
      run_checkFences_eq_ok, run_queryRow_eq_ok, run_modify_eq_ok, Bool.and_eq_true,
      Bool.not_eq_true', decide_eq_true_eq] at h
    obtain ⟨hfenced, _, t, hsettled, row, hrow, hreleasing, habs, -, hother, howned, _, t₁,
      hretire, rfl⟩ := h
    obtain ⟨hsettled, rfl⟩ := settled_of_settledNative hsettled
    have hruns := runsOrdinary hop htoken hhost hfenced
    have hrels : op.request.context.operation.releases = true := by
      rcases hkind with ⟨-, h⟩ | ⟨-, h⟩ <;> rw [h] <;> rfl
    -- nothing but the public name refers to the binding, so it can be removed
    have hsole : ∀ key, t.ledger.refs key = some admission.binding.bindingId →
        key = (kind, publicId) := by
      intro key hkey
      simpa using any_eq_false_iff.1 hother key _ hkey
    have hstep := Step.release hruns hrels hident hstage hsettled hrow hreleasing
      (allAbsent_of_any habs) howned hsole
    rcases hkind with ⟨rfl, hclose⟩ | ⟨rfl, hdelete⟩
    · simp only [retireRecord, if_true, updateJointSessions, checks, run_queryRow_eq_ok,
        run_modify_eq_ok]
        at hretire
      obtain ⟨session, hsess, rfl⟩ := hretire
      exact ⟨.closeSession hruns hclose (by simpa [releasedIdentity, hclose] using hident) hrow
        hreleasing howned hsess, hstep.to (released_ledger rfl hrow howned)⟩
    · simp only [retireRecord, reduceCtorEq, if_false, deleteJointCheckpoints,
        run_modify_eq_ok] at hretire
      subst hretire
      exact ⟨.deleteJointCheckpoint hruns hdelete hrow hreleasing howned,
        hstep.to (released_ledger rfl hrow howned)⟩

end XGovernor.Joint
