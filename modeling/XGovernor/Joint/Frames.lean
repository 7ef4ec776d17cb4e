import XGovernor.Joint.Inversion

/-!
# Footprints of calls

The tables that each call may write.  Everything else is as before, whatever the call did.  The
footprint of a call is a mask (`Call.footprint`); that its transaction stays within it follows from
the rules of `Tx.Within`, one for each way to read or write the store.
-/

namespace XGovernor.Joint

open Domain Lib Lib.Tx

/-! ## Rules for the store -/

section Rules

variable {m : Mask Db} {result : Except SessionDomainError Unit} {request : JointPrepareRequest}
  {admission : JointAdmission}

theorem within_queryRow {K V : Type} [DecidableEq K] {table : Db → Table K V} {key : K} :
    (queryRow table key).Within m :=
  within_of_reads fun _ _ _ h => (run_queryRow_eq_ok.1 h).2

theorem within_checked : (checked result).Within m :=
  within_of_reads fun _ _ _ h => (run_checked_eq_ok.1 h).2

theorem within_validatedAs {text} : (validatedAs text result).Within m :=
  within_of_reads fun _ _ _ h => (run_validatedAs_eq_ok.1 h).2

theorem within_operation : (operation admission).Within m :=
  within_of_reads fun _ _ _ h => (run_operation_eq_ok.1 h).2.2

theorem within_refuseHost : (refuseHost request).Within m :=
  within_of_reads fun _ _ _ h => (run_refuseHost_eq_ok.1 h).2

theorem within_checkFences :
    (checkFences request admission).Within m :=
  within_of_reads fun _ _ _ h => (run_checkFences_eq_ok.1 h).2

theorem within_insertRow {K V : Type} [DecidableEq K] {table : Db → Table K V}
    {write : Db → Table K V → Db} {clashes : K → V → Bool} {key : K} {row : V}
    (h : ∀ db t, write db t = m.copy (write db t) db) :
    (insertRow table write clashes key row).Within m := by
  refine ⟨fun s a s' hrun => ?_⟩
  obtain ⟨-, -, rfl⟩ := run_insertRow_eq_ok.1 hrun
  exact h s _

end Rules

/-! ## Footprints -/

/-- The tables of a call, taken from `t`; all others are those of `s`. -/
def Call.written : Call → Db → Db → Db
  | .prepareJointOperation _, t, s =>
    { s with
      publicClaims := t.publicClaims
      bindings := t.bindings
      refs := t.refs
      workspaceClaims := t.workspaceClaims
      roots := t.roots
      fences := t.fences
      operations := t.operations
      turns := t.turns
      jointSessions := t.jointSessions
      reservations := t.reservations
      steps := t.steps }
  | .claimJointNativeSend _ _, t, s =>
    { s with steps := t.steps, operations := t.operations, hostWorkspace := t.hostWorkspace }
  | .appendJointNativeStep _ _, t, s => { s with steps := t.steps }
  | .recordJointNativeResult _ _ _ _ _, t, s =>
    { s with steps := t.steps, operations := t.operations, objects := t.objects }
  | .publishJointSession _ _, t, s =>
    { s with
      jointSessions := t.jointSessions
      refs := t.refs
      operations := t.operations
      bindings := t.bindings
      reservations := t.reservations
      fences := t.fences }
  | .publishJointCheckpoint _ _, t, s =>
    { s with
      jointCheckpoints := t.jointCheckpoints
      refs := t.refs
      operations := t.operations
      bindings := t.bindings
      reservations := t.reservations
      fences := t.fences }
  | .finishJointTurn _ _, t, s =>
    { s with
      jointSessions := t.jointSessions
      turns := t.turns
      operations := t.operations
      cancelBoundaries := t.cancelBoundaries
      hostWorkspace := t.hostWorkspace
      fences := t.fences }
  | .beginJointCompensation _, t, s =>
    { s with bindings := t.bindings, operations := t.operations }
  | .finishJointCompensation _, t, s =>
    { s with
      refs := t.refs
      bindings := t.bindings
      workspaceClaims := t.workspaceClaims
      reservations := t.reservations
      operations := t.operations
      publicClaims := t.publicClaims
      fences := t.fences }
  | .finishJointRelease _ _ _ _, t, s =>
    { s with
      refs := t.refs
      jointSessions := t.jointSessions
      jointCheckpoints := t.jointCheckpoints
      bindings := t.bindings
      workspaceClaims := t.workspaceClaims
      reservations := t.reservations
      operations := t.operations
      fences := t.fences }
  | .prepareJointCancel _ _ _, t, s | .prepareJointCancelNative _ _, t, s
  | .claimJointCancelSend _, t, s | .recordJointCancelResult _ _ _, t, s =>
    { s with turnCancels := t.turnCancels }
  | .prepareJointCheckpointBoundary _ _, t, s =>
    { s with cancelCheckpoints := t.cancelCheckpoints }
  | .confirmJointCheckpointBoundary _ _, t, s =>
    { s with cancelCheckpoints := t.cancelCheckpoints, cancelBoundaries := t.cancelBoundaries }
  | .invalidateJointTurn _, t, s => { s with jointSessions := t.jointSessions }
  | .registerHostTarget _ _, t, s =>
    { s with
      hostRoots := t.hostRoots
      hostTargets := t.hostTargets
      hostWorkspace := t.hostWorkspace }
  | .prepareHost _, t, s =>
    { s with
      fences := t.fences
      operations := t.operations
      steps := t.steps
      hostAllocations := t.hostAllocations
      refs := t.refs
      hostIntents := t.hostIntents }
  | .claimHostStep _ _, t, s =>
    { s with
      steps := t.steps
      hostWorkspace := t.hostWorkspace
      operations := t.operations
      hostIntents := t.hostIntents }
  | .recordHostStep _ _ _, t, s =>
    { s with steps := t.steps, operations := t.operations, hostIntents := t.hostIntents }
  | .recordHostRecovery _ _, t, s => { s with hostIntents := t.hostIntents }
  | .finishHost _ _, t, s | .failStaleHostRead _, t, s | .finishHostRead _ _ _ _, t, s =>
    { s with
      hostAllocations := t.hostAllocations
      refs := t.refs
      operations := t.operations
      hostWorkspace := t.hostWorkspace
      fences := t.fences
      hostIntents := t.hostIntents }
  | .prepareHostCleanup _ _ _, t, s =>
    { s with
      operations := t.operations
      hostCleanup := t.hostCleanup
      hostDependencies := t.hostDependencies
      hostIntents := t.hostIntents }
  | .suspendHostCleanup _, t, s | .resumeHostCleanup _, t, s =>
    { s with
      operations := t.operations
      hostCleanup := t.hostCleanup
      fences := t.fences
      hostIntents := t.hostIntents }
  | .releaseHostDependency _ _, t, s => { s with hostDependencies := t.hostDependencies }
  | .finishHostCleanup _, t, s =>
    { s with
      operations := t.operations
      hostCleanup := t.hostCleanup
      hostAllocations := t.hostAllocations
      refs := t.refs
      hostIntents := t.hostIntents }
  | .saveSession _, t, s => { s with sessions := t.sessions }
  | .saveCheckpoint _, t, s | .deleteCheckpoint _, t, s => { s with checkpoints := t.checkpoints }
  | .saveOperationIntent _ _, t, s | .deleteOperationIntent _, t, s =>
    { s with snapshotOperations := t.snapshotOperations }

/-- The footprint of a call. -/
def Call.footprint (call : Call) : Mask Db where
  copy := call.written
  copy_self := by cases call <;> intros <;> rfl
  copy_copy := by cases call <;> intros <;> rfl

/-- **Frame rule**: a call writes the tables of its footprint only. -/
theorem exec_within (config call) : (exec config call).Within call.footprint := by
  cases call
  all_goals
    simp only [exec, answering, prepareJointOperation, validated, admitOperation,
      claimPublicIdentity, admitBinding, admitExisting, admitNew, admitRoot,
      acquireFences, admitTurn, admitParentReference, claimJointNativeSend,
      appendJointNativeStep, recordJointNativeResult, publishJointSession, publishNewSession,
      publishJointCheckpoint, publishNewCheckpoint, completedNative, settledNative,
      requireStableBoundary, publish, finishJointTurn, settleTurn, beginJointCompensation,
      finishJointCompensation,
      finishJointRelease, release, retireRecord, prepareJointCancel, prepareJointCancelNative,
      claimJointCancelSend, recordJointCancelResult, prepareJointCheckpointBoundary,
      confirmJointCheckpointBoundary, invalidateJointTurn, registerHostTarget, validateTarget,
      requireConfigured, prepareHost, loadIntent, admitHost, checkHostCapacity, acquireHostFence,
      claimHostStep, checkIntent, checkToken, checkActive, claimNative, recordHostStep,
      recordNative, recordHostRecovery, finishHost, failStaleHostRead, finishHostRead, settleHost,
      failStaleRead, publishHost, publishedEvidence, artifactEvidence, releaseHold, settleStage,
      prepareHostCleanup, suspendHostCleanup, releaseHostDependency, resumeHostCleanup,
      checkResume, resumeOperation, finishHostCleanup, endDelegation, saveIntent, saveSession,
      saveCheckpoint, deleteCheckpoint, saveOperationIntent, deleteOperationIntent]
  all_goals
    repeat' first
      | intro _
      | with_reducible apply within_bind
      | with_reducible apply within_pure
      | with_reducible apply within_get
      | with_reducible apply within_require
      | with_reducible apply within_expect
      | with_reducible apply within_queryRow
      | with_reducible apply within_operation
      | with_reducible apply within_refuseHost
      | with_reducible apply within_checkFences
      | with_reducible apply within_checked
      | with_reducible apply within_validatedAs
      | with_reducible apply within_ite
      | with_reducible apply within_when
      | with_reducible apply within_forSome
      | with_reducible apply within_forEach
      | with_reducible apply within_insertRow
      | with_reducible apply within_fail
      | (apply within_modify; intro _; rfl)
      | rfl
      | split
      | simp only [checkParent, reserve, checkResource, recordResource, sightObject,
          observeAbsence, insertPublicClaim, insertBinding, insertWorkspaceClaim, insertRoot,
          insertOperation, insertTurn, insertReservation, insertRef, insertStep,
          insertJointSession, insertJointCheckpoint, insertHostTarget, insertHostWorkspace,
          insertHostAllocation, insertHostIntent, insertHostCleanup, insertHostDependency]

end XGovernor.Joint
