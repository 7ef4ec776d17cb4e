import XGovernor.Joint.RefineHost
import XGovernor.Joint.RefineSteps

/-!
# Committed calls have their effects

Every committed call of the repository has the effect that `Effect` gives it.  The calls on ordinary
operations and the admissions are inverted where they are shown to refine the ledger; here are the
others: boundaries, invalidated turns, targets, the settlement and cleanup of Host operations, and
the split route.
-/

namespace XGovernor.Joint

open Domain Lib Table Tx

variable {config : StoreConfig} {s s' : Db}
variable {admission : JointAdmission} {reply result : Json} {native : JointNativeIntent}
  {u : Unit} {op : OperationRow} {request : JointPrepareRequest} {access : HostAccessTokenV1}
  {call : Call} {revisions : Option (String × String)}

/-! ## Turns -/

private theorem invalidateJointTurn_effect
    (h : (invalidateJointTurn admission).run s = .ok (u, s')) :
    Effect config s (.invalidateJointTurn admission) s' := by
  simp only [invalidateJointTurn, checks, run_operation_eq_ok] at h
  obtain ⟨op, hop, htoken, h⟩ := h
  split at h
  · obtain ⟨-, rfl⟩ := Tx.run_pure_eq_ok.1 h
    exact .quiet _
  · rename_i hunset
    simp only [updateJointSessions, checks, run_checkFences_eq_ok, run_queryRow_eq_ok,
      run_modify_eq_ok, decide_eq_true_eq] at h
    obtain ⟨hfenced, hturn, session, hsess, hbound, rfl⟩ := h
    exact .invalidate ⟨hop, htoken, hfenced⟩ hturn hunset hsess hbound

/-! ## Boundaries -/

private theorem prepareJointCheckpointBoundary_effect {binding reply}
    (h : (prepareJointCheckpointBoundary binding native).run s = .ok (reply, s')) :
    Effect config s (.prepareJointCheckpointBoundary binding native) s' := by
  simp only [prepareJointCheckpointBoundary, checks, run_validatedAs_eq_ok, run_queryRow_eq_ok,
    run_expect_eq_ok] at h
  obtain ⟨-, row, hrow, -, source, -, -, h⟩ := h
  split at h
  · simp only [checks, run_pure_eq_ok] at h
    obtain ⟨-, -, rfl⟩ := h
    exact .quiet _
  · rename_i hfree
    obtain ⟨-, rfl⟩ := h
    exact .prepareBoundary hrow hfree

private theorem confirmJointCheckpointBoundary_effect
    {ticket checkpointId reply}
    (h : (confirmJointCheckpointBoundary ticket checkpointId).run s = .ok (reply, s')) :
    Effect config s (.confirmJointCheckpointBoundary ticket checkpointId) s' := by
  simp only [confirmJointCheckpointBoundary, updateCancelCheckpoints, updateCancelBoundaries,
    checks, run_queryRow_eq_ok, writes, Bool.and_eq_true, decide_eq_true_eq] at h
  obtain ⟨row, hrow, hsame, -, -, binding, -, -, -, -, rfl⟩ := h
  exact .confirmBoundary hrow hsame

/-! ## Host operations -/

private theorem registerHostTarget_effect {target policy}
    (h : (registerHostTarget config.codec target policy).run s = .ok (u, s')) :
    Effect config s (.registerHostTarget target policy) s' := by
  simp only [registerHostTarget, checks, run_modify_eq_ok] at h
  obtain ⟨_, t, htgt, h⟩ := h
  obtain ⟨hlive, rfl⟩ := targetLive_of_validateTarget htgt
  split at h
  · obtain ⟨-, rfl⟩ := Tx.run_require_eq_ok.1 h
    exact .registerTarget hlive (.inl rfl)
  · simp only [insertHostTarget, insertHostWorkspace, checks, run_insertRow_eq_ok] at h
    obtain ⟨-, -, hfree, -, rfl⟩ := h
    exact .registerTarget hlive (.inr ⟨hfree, rfl⟩)

private theorem recordHostRecovery_effect {evidence}
    (h : (recordHostRecovery config.codec access evidence).run s = .ok (u, s')) :
    Effect config s (.recordHostRecovery access evidence) s' := by
  simp only [recordHostRecovery, saveIntent, updateHostIntents, checks, run_modify_eq_ok] at h
  obtain ⟨journal, t, hcheck, -, rfl⟩ := h
  obtain ⟨⟨op, hruns⟩, rfl⟩ := runsHost_of_checkIntent hcheck
  exact .recover hruns

private theorem failStaleRead_effect (hcall : call = .failStaleHostRead access ∨
      ∃ result before after, call = .finishHostRead access result before after)
    (h : (failStaleRead config.codec access).run s = .ok (reply, s')) :
    Effect config s call s' := by
  simp only [failStaleRead, checks, run_checkToken_eq_ok] at h
  obtain ⟨journal, hjour, hver, h⟩ := h
  split at h
  · obtain ⟨-, rfl⟩ := Tx.run_pure_eq_ok.1 h
    exact .quiet _
  · rename_i hunpub
    simp only [settleStage, updateOperations, releaseHold, updateHostAllocations, deleteRefs,
      updateHostWorkspace, releaseFences, updateFences, saveIntent, updateHostIntents, checks,
      run_operation_eq_ok, run_queryRow_eq_ok, writes, Bool.and_eq_true, decide_eq_true_eq] at h
    obtain ⟨hnat, -, op, hop, htoken, hact, hrunning, root, -, source, -, -, -, -, -, -, -,
      rfl⟩ := h
    exact .failStale hcall hjour hver hop htoken hact hrunning hunpub
      (by simpa using hnat)

private theorem publishedEvidence_stable {h evidence}
    (hrun : (publishedEvidence config.codec access h result revisions).run s =
      .ok (evidence, s')) (e) (he : evidence = some e) :
    h.artifactEvidence = some e ∨ (s.cancelBoundaries.get? access.admission.binding.bindingId).any
        (fun row => row.checkpointEpoch < row.cancelEpoch) = false := by
  unfold publishedEvidence at hrun
  split at hrun
  · simp only [artifactEvidence, requireStableBoundary, checks, Bool.not_eq_true'] at hrun
    exact .inr hrun.1
  · simp only [checks, run_pure_eq_ok] at hrun
    exact .inl (hrun.2.1.symm.trans he)

private theorem publishHost_effect (hcall : call = .finishHost access result ∨
      ∃ before after, call = .finishHostRead access result before after) {old}
    (hold : s.ledger.HasJournal access old) (hunpub : old.result = none)
    (h : (publishHost config.codec access result revisions).run s = .ok (reply, s')) :
    Effect config s call s' := by
  simp only [publishHost, settleStage, updateOperations, updateHostWorkspace, releaseFences,
    updateFences, saveIntent, updateHostIntents, checks, writes] at h
  obtain ⟨journal, t, hcheck, hquiet, hcleanup, -, evidence, t₁, hev, _, t₂, hhold, -, rfl⟩ := h
  obtain ⟨⟨op, hruns⟩, rfl⟩ := runsHost_of_checkIntent hcheck
  obtain rfl : old = journal := Option.mem_unique hold.stored hruns.journal.stored
  have hproved := publishedEvidence_stable hev
  obtain rfl := publishedEvidence_eq hev
  have hquiet' : allSettled old = true ∨ old.observations.all Option.isNone = true := by
    simp only [Bool.or_eq_true, Bool.and_eq_true] at hquiet
    exact hquiet.imp id And.left
  have hdone : ∀ cleanup, t₁.hostCleanup.get? access.admission.intentId = some cleanup →
      cleanup.state = .done := by
    intro cleanup hrow
    simpa [hrow] using hcleanup
  have heff : Effect config t₁ call _ :=
    .publishHost hcall hruns hunpub hquiet' hdone hproved
  rcases Tx.run_when_eq_ok.1 hhold with ⟨hfin, hhold⟩ | ⟨hfin, rfl⟩
  · simp only [releaseHold, updateHostAllocations, deleteRefs, run_bind_eq_ok,
      run_modify_eq_ok, exists_eq_left, exists_const] at hhold
    subst hhold
    simp only [leavesNothing, hfin, if_true] at heff
    rw [hfin]
    exact heff
  · simp only [leavesNothing, hfin, Bool.false_eq_true, if_false] at heff
    rw [hfin]
    exact heff

private theorem settleHost_effect (hcall : call = .finishHost access result ∧ revisions = none ∨
      ∃ before after, call = .finishHostRead access result before after)
    (h : (settleHost config.codec access result revisions).run s = .ok (reply, s')) :
    Effect config s call s' := by
  simp only [settleHost, checks, run_checkToken_eq_ok] at h
  obtain ⟨old, hjour, -, h⟩ := h
  split at h
  · simp only [checks, run_pure_eq_ok] at h
    obtain ⟨-, -, rfl⟩ := h
    exact .quiet _
  · rename_i hunpub
    split at h
    · rename_i hstale
      rcases hcall with ⟨-, rfl⟩ | ⟨before, after, hcall⟩
      · simp at hstale
      · exact failStaleRead_effect (.inr ⟨result, before, after, hcall⟩) h
    · exact publishHost_effect (hcall.imp And.left id) hjour hunpub h

private def dependencyMask : Mask Db where
  copy := fun t s => { s with hostDependencies := t.hostDependencies }
  copy_self := Eq.refl
  copy_copy := fun _ _ _ => rfl

private theorem prepareHostCleanup_effect {childId dependencies}
    (h : (prepareHostCleanup config.codec access childId dependencies).run s = .ok (u, s')) :
    Effect config s (.prepareHostCleanup access childId dependencies) s' := by
  simp only [prepareHostCleanup, insertOperation, insertHostCleanup, saveIntent, updateHostIntents,
    checks, run_operation_eq_ok, run_insertRow_eq_ok, run_modify_eq_ok, Bool.and_eq_true] at h
  obtain ⟨journal, t, hcheck, hsettled, -, -, op, hop, -, hfresh, -, hundelegated, hdist, _,
    t₃, hdependencies, rfl⟩ := h
  obtain ⟨⟨op', hruns⟩, rfl⟩ := runsHost_of_checkIntent hcheck
  obtain rfl : op' = op := Option.mem_unique hruns.stored hop
  have hframe := Tx.Within.run_eq (m := dependencyMask) (within_forEach fun _ =>
    within_bind within_require fun _ => within_insertRow fun _ _ => rfl) _ _ _ hdependencies
  rw [hframe]
  exact .delegateCleanup hruns hsettled hfresh hundelegated hdist

private theorem suspendHostCleanup_effect
    (h : (suspendHostCleanup config.codec access).run s = .ok (u, s')) :
    Effect config s (.suspendHostCleanup access) s' := by
  simp only [suspendHostCleanup, updateOperations, updateHostCleanup, releaseFences, updateFences,
    saveIntent, updateHostIntents, checks, run_queryRow_eq_ok, run_modify_eq_ok,
    decide_eq_true_eq] at h
  obtain ⟨journal, t, hcheck, hsettled, cleanup, hcleanup, hprep, -, op', hop', rfl⟩ := h
  obtain ⟨⟨op, hruns⟩, rfl⟩ := runsHost_of_checkIntent hcheck
  obtain rfl : op = op' := Option.mem_unique hruns.stored hop'
  exact .suspend hruns hsettled hcleanup hprep

private theorem checkResume_eq {h cleanup}
    (hrun : (checkResume config.codec access h).run s = .ok (cleanup, s')) :
    h.state = .suspendedWaitingDependency ∧
      s.hostCleanup.get? access.admission.intentId = some cleanup ∧
      cleanup.state = .waitingDependency ∧ s' = s := by
  simp only [checkResume, checks, run_requireConfigured_eq_ok, run_queryRow_eq_ok,
    run_pure_eq_ok, decide_eq_true_eq, Bool.and_eq_true] at hrun
  obtain ⟨hsusp, _, t, htgt, -, row, hrow, -, -, -, -, -, hwaiting, rfl, rfl⟩ := hrun
  obtain ⟨-, rfl⟩ := targetLive_of_validateTarget htgt
  exact ⟨hsusp, hrow, hwaiting, rfl⟩

private theorem resumeOperation_eq (h : (resumeOperation admission).run s = .ok (u, s')) :
    ∃ op, s.operations.get? admission.intentId = some op ∧ op.stage = .suspendedWaitingDependency ∧
      s' = { s with
        operations := s.operations.modify (fun key _ => key = admission.intentId)
          fun row => { row with stage := .accepted, admission } } := by
  simp only [resumeOperation, updateOperations, checks, run_modify_eq_ok, Option.any_eq_true,
    decide_eq_true_eq] at h
  obtain ⟨⟨op, hop, hstage⟩, rfl⟩ := h
  exact ⟨op, hop, hstage, rfl⟩

/-- A resumption that commits has taken the source fence again. -/
theorem resumeHostCleanup_resumes {reply}
    (h : (resumeHostCleanup config.codec access).run s = .ok (reply, s')) :
    Effect config s (.resumeHostCleanup access) s' ∧
      ∃ journal journal' source, s.ledger.HasJournal access journal ∧
        s.fences.get? (.source, journal.prepared.target.publicRuntimeId) = some source ∧
        s'.hostIntents.get? access.admission.intentId = some journal' ∧
        journal'.access.admission.sourceEpoch = some (source.epoch + 1) := by
  simp only [resumeHostCleanup, takeFence, updateFences, updateHostCleanup, saveIntent,
    updateHostIntents, checks, run_checkToken_eq_ok, run_queryRow_eq_ok, writes,
    Option.isNone_iff_eq_none, Option.any_eq_true] at h
  obtain ⟨journal, hjour, -, cleanup, t, hresume, root, hroot, hroot_free,
    ⟨source, hsrc, hsource_free⟩, held, hheld, _, t₂, hpar, _, t₃, hchild, -, rfl⟩ := h
  obtain ⟨hsusp, hcleanup, hwaiting, rfl⟩ := checkResume_eq hresume
  have hepoch : held.epoch = source.epoch + 1 := by
    rw [get?_modify, hsrc] at hheld
    simp only [Option.map_some, decide_true, if_true, Option.some.injEq] at hheld
    rw [← hheld]
  obtain ⟨op, hop, hop_stage, rfl⟩ := resumeOperation_eq hpar
  obtain ⟨child, hchild_op, hchild_stage, rfl⟩ := resumeOperation_eq hchild
  -- the parent's stage has just changed, so the child is another operation
  have hdist : cleanup.childId ≠ access.admission.intentId := by
    intro heq
    simp only [get?_modify, heq, hop, Option.map_some, decide_true, if_true,
      Option.some.injEq] at hchild_op
    rw [← hchild_op] at hchild_stage
    exact absurd hchild_stage (by simp)
  simp only [get?_modify, hdist, decide_false, Bool.false_eq_true, if_false,
    Option.map_id'] at hchild_op
  rw [hepoch]
  exact ⟨.resume hjour hsusp hcleanup hwaiting ⟨hroot, hroot_free⟩
    ⟨hsrc, hsource_free⟩ rfl hop hop_stage hdist hchild_op hchild_stage, journal, _,
    source, hjour, hsrc, get?_modify_key_self hjour.stored _, rfl⟩

private theorem finishHostCleanup_effect
    (h : (finishHostCleanup config.codec access).run s = .ok (u, s')) :
    Effect config s (.finishHostCleanup access) s' := by
  simp only [finishHostCleanup, checks, run_checkToken_eq_ok] at h
  obtain ⟨journal, hjour, -, h⟩ := h
  split at h
  · obtain ⟨-, rfl⟩ := Tx.run_pure_eq_ok.1 h
    exact .quiet _
  · rename_i hunfin
    split at h
    · rename_i hres
      simp only [endDelegation, setStage, updateOperations, updateHostCleanup, saveIntent,
        updateHostIntents, checks, writes, Bool.and_eq_true, decide_eq_true_eq,
        Option.filter_eq_some_iff] at h
      obtain ⟨_, t, hact, hsettled, -, cleanup, hcleanup, hprep, -, -, rfl⟩ := h
      obtain ⟨⟨op, hruns⟩, rfl⟩ := runsHost_of_checkActive hjour hact
      exact .endDelegation hruns (by simpa using hres) hsettled hcleanup hprep
    · rename_i hres
      simp only [releaseHold, updateHostAllocations, deleteRefs, saveIntent, updateHostIntents,
        run_bind_eq_ok, run_modify_eq_ok, exists_eq_left, exists_const] at h
      subst h
      exact .finishCleanup hjour hunfin (by simpa using hres)

/-! ## The split route -/

private theorem saveSession_effect {record}
    (h : (saveSession record).run s = .ok (u, s')) : Effect config s (.saveSession record) s' := by
  simp only [saveSession, checks, run_modify_eq_ok, Bool.not_eq_true'] at h
  obtain ⟨-, hsplit, -, rfl⟩ := h
  exact .saveSession hsplit

private theorem saveCheckpoint_effect {record} (h : (saveCheckpoint record).run s = .ok (u, s')) :
    Effect config s (.saveCheckpoint record) s' := by
  simp only [saveCheckpoint, checks, run_insertRow_eq_ok, Bool.not_eq_true'] at h
  obtain ⟨hsplit, hfree, -, rfl⟩ := h
  exact .saveCheckpoint hsplit hfree

/-! ## Every call -/

/-- **Inversion**: a committed call had one of the effects. -/
theorem effect_of_commit {event} (hcom : Commit config s event s') :
    Effect config s event.1 s' := by
  obtain ⟨call, answer⟩ := event
  have hframe := (exec_within config call).run_eq _ _ _ hcom
  cases call <;> obtain ⟨_, h, rfl⟩ := run_answering_eq_ok.1 hcom
  case prepareJointOperation => exact (prepareJointOperation_commits config h).1
  case claimJointNativeSend => exact (claimJointNativeSend_commits config h).1
  case appendJointNativeStep => exact (appendJointNativeStep_commits config h).1
  case recordJointNativeResult => exact (recordJointNativeResult_commits config h).1
  case publishJointSession => exact (publishJointSession_commits config h).1
  case publishJointCheckpoint => exact (publishJointCheckpoint_commits config h).1
  case finishJointTurn => exact (finishJointTurn_settles config h).1
  case beginJointCompensation => exact (beginJointCompensation_commits config h).1
  case finishJointCompensation => exact (finishJointCompensation_commits config h).1
  case finishJointRelease => exact (finishJointRelease_commits config h).1
  -- these write the table of cancellations and nothing else, which the frame says
  case prepareJointCancel | prepareJointCancelNative | claimJointCancelSend |
      recordJointCancelResult =>
    rw [hframe]
    exact .cancel _
  case prepareJointCheckpointBoundary => exact prepareJointCheckpointBoundary_effect h
  case confirmJointCheckpointBoundary => exact confirmJointCheckpointBoundary_effect h
  case invalidateJointTurn => exact invalidateJointTurn_effect h
  case registerHostTarget => exact registerHostTarget_effect h
  case prepareHost => exact (prepareHost_commits config h).1
  case claimHostStep => exact (claimHostStep_commits config h).1
  case recordHostStep => exact (recordHostStep_commits config h).1
  case recordHostRecovery => exact recordHostRecovery_effect h
  case finishHost => exact settleHost_effect (.inl ⟨rfl, rfl⟩) h
  case failStaleHostRead => exact failStaleRead_effect (.inl rfl) h
  case finishHostRead before after _ => exact settleHost_effect (.inr ⟨before, after, rfl⟩) h
  case prepareHostCleanup => exact prepareHostCleanup_effect h
  case suspendHostCleanup => exact suspendHostCleanup_effect h
  case releaseHostDependency =>
    rw [hframe]
    exact .dependency _
  case resumeHostCleanup => exact (resumeHostCleanup_resumes h).1
  case finishHostCleanup => exact finishHostCleanup_effect h
  case saveSession => exact saveSession_effect h
  case saveCheckpoint => exact saveCheckpoint_effect h
  case deleteCheckpoint =>
    obtain ⟨-, rfl⟩ := h
    exact .deleteCheckpoint
  case saveOperationIntent | deleteOperationIntent =>
    rw [hframe]
    exact .intents _

end XGovernor.Joint
