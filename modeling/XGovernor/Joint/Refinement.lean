import XGovernor.Joint.Commits

/-!
# The store refines the ledger

Every committed call is one step of the ledger, with the event that an observer of the call
and its answer can tell.  Runs of the store are therefore runs of the ledger, and what
holds of every ledger that steps lead to holds of every reachable store.
-/

namespace XGovernor.Joint

open Domain Lib Table Tx
open Ledger (Step Event)

variable {config : StoreConfig} {s s' : Db} {u : Unit} {admission : JointAdmission}
  {native : JointNativeIntent} {context : JointOperationContext}

/-! ## Cancellation -/

/-- The registration of a cancellation keeps one that is there. -/
private theorem addTurnCancel_refines {id}
    (h : (addTurnCancel id ⟨context, none, none⟩).run s = .ok (u, s')) :
    Step s.ledger .internal s'.ledger := by
  have e := ledger_addTurnCancel h
  cases hrow : s.ledger.cancels id with
  | none =>
    refine (Step.prepareCancel id ⟨context, none, none⟩ ?_).to ?_
    · simp [hrow]
    · simp only [e, extended_key hrow]
  | some row => exact Step.internal.to (by simp only [e, extended_of_some hrow])

theorem prepareJointCancel_refines {session turnId reply}
    (h : (prepareJointCancel context session turnId).run s = .ok (reply, s')) :
    Step s.ledger .internal s'.ledger := by
  simp only [prepareJointCancel, checks, run_expect_eq_ok] at h
  obtain ⟨binding, -, -, h⟩ := h
  split at h
  · obtain ⟨-, rfl⟩ := Tx.run_pure_eq_ok.1 h
    exact .internal
  · simp only [checks, writes, run_queryRow_eq_ok] at h
    obtain ⟨-, turn, -, op, -, -, _, t, hreg, identity, -, -, rfl⟩ := h
    rcases Tx.run_when_eq_ok.1 hreg with ⟨-, hreg⟩ | ⟨-, rfl⟩
    · simp only [checks, run_checkFences_eq_ok] at hreg
      exact addTurnCancel_refines hreg.2
    · exact .internal

theorem prepareJointCancelNative_refines {reply}
    (h : (prepareJointCancelNative admission native).run s = .ok (reply, s')) :
    Step s.ledger .internal s'.ledger := by
  simp only [prepareJointCancelNative, checks, run_validatedAs_eq_ok, run_operation_eq_ok,
    run_checkFences_eq_ok, writes, run_queryRow_eq_ok] at h
  obtain ⟨-, op, -, -, -, -, original, -, step, -, outcome, -, -, cancel, hcanc, _, t, hstore,
    -, rfl⟩ := h
  rcases Tx.run_when_eq_ok.1 hstore with ⟨-, hstore⟩ | ⟨-, rfl⟩
  · refine (Step.prepareCancel admission.intentId { cancel with native := some native } ?_).to ?_
    · intro old hold
      rw [← Option.mem_unique hcanc hold]
    · simp only [ledger_updateTurnCancels hstore, modified_key (m := s.ledger.cancels) hcanc]
  · exact .internal

theorem claimJointCancelSend_refines {claimed}
    (h : (claimJointCancelSend admission).run s = .ok (claimed, s')) :
    Step s.ledger (if claimed then .cancelDispatch admission.intentId else .internal)
      s'.ledger := by
  simp only [claimJointCancelSend, checks, run_operation_eq_ok] at h
  obtain ⟨op, -, -, h⟩ := h
  split at h
  · obtain ⟨rfl, rfl⟩ := Tx.run_pure_eq_ok.1 h
    exact .internal
  · simp only [checks, run_checkFences_eq_ok, run_pure_eq_ok] at h
    obtain ⟨-, _, t, hupd, rfl, rfl⟩ := h
    have e := ledger_updateTurnCancels hupd
    cases hclaim : (s.turnCancels.get? admission.intentId).any fun row =>
        row.native.isSome && row.outcome.isNone with
    | true =>
      obtain ⟨row, hrow, hmatch⟩ := (Option.any_eq_true _ _).1 hclaim
      simp only [Bool.and_eq_true, Option.isNone_iff_eq_none] at hmatch
      refine (Step.claimCancel (L := s.ledger) hrow hmatch.2).to ?_
      have hupdated := modified_eq_update (m := s.ledger.cancels) hrow
        (p := fun id row => id = admission.intentId && row.native.isSome && row.outcome.isNone)
        (by simp [hmatch]) (fun k v h => by simp at h; exact h.1.1)
        fun row => { row with outcome := some sentUnknown }
      simp only [e, hupdated]
    | false =>
      have hsame := modified_of_no_match (m := s.ledger.cancels)
        (p := fun id row => id = admission.intentId && row.native.isSome && row.outcome.isNone)
        (fun id row hrow => by
          by_cases hid : id = admission.intentId
          · subst hid
            change s.turnCancels.get? _ = _ at hrow
            simpa [hrow] using hclaim
          · simp [hid])
        fun row => { row with outcome := some sentUnknown }
      exact Step.internal.to (by simp only [e, hsame])

theorem recordJointCancelResult_refines {outcome}
    (h : (recordJointCancelResult admission native outcome).run s = .ok (u, s')) :
    Step s.ledger .internal s'.ledger := by
  simp only [recordJointCancelResult, checks, run_operation_eq_ok, run_queryRow_eq_ok] at h
  obtain ⟨op, -, -, cancel, hcanc, -, h⟩ := h
  split at h
  · obtain ⟨-, rfl⟩ := Tx.run_pure_eq_ok.1 h
    exact .internal
  · simp only [checks] at h
    refine (Step.recordCancel (L := s.ledger) outcome hcanc).to ?_
    simp only [ledger_updateTurnCancels h.2, modified_key (m := s.ledger.cancels) hcanc]

/-! ## Calls -/

/-- What a report that is stored says about the objects of its binding.  A report that
repeats the stored one says nothing. -/
def reportEvent (s : Db) (admission : JointAdmission) (step : String)
    (outcome : JointNativeOutcome) : Event :=
  match s.steps.get? (admission.intentId, step) with
  | none => .internal
  | some row =>
    if row.outcome = some (mergeOutcome row.outcome outcome) then .internal
    else .sightings
      (Ledger.sightingsOf admission row.native outcome.state outcome.resources)

/-- The event of a committed call and its answer. -/
def eventOf (s : Db) : Call × Reply → Event
  | (.claimJointNativeSend admission step, .native (some _)) =>
    .dispatch admission.intentId step
  | (.recordJointNativeResult admission step _ _ outcome, _) =>
    reportEvent s admission step outcome
  | (.claimHostStep access step, .bool true) =>
    .hostDispatch access.admission.intentId step
  | (.claimJointCancelSend admission, .bool true) => .cancelDispatch admission.intentId
  | _ => .internal

/-- **Refinement**: a committed call is a step of the ledger. -/
theorem commit_refines {event} (hcom : Commit config s event s') :
    Step s.ledger (eventOf s event) s'.ledger := by
  obtain ⟨call, answer⟩ := event
  have heff := effect_of_commit hcom
  -- which tables the call writes; most calls write few tables of the ledger, or none
  have hframe := (exec_within config call).run_eq _ _ _ hcom
  cases call <;> obtain ⟨_, h, rfl⟩ := run_answering_eq_ok.1 hcom
  case prepareJointOperation => exact (prepareJointOperation_commits config h).2
  case claimJointNativeSend reply =>
    have hstep := (claimJointNativeSend_commits config h).2
    cases reply with
    | none => exact hstep
    | some native => exact hstep
  case appendJointNativeStep => exact (appendJointNativeStep_commits config h).2
  case recordJointNativeResult =>
    rcases (recordJointNativeResult_commits config h).2 with
      ⟨row, hrow, hsame, rfl⟩ | ⟨row, hrow, hnew, -, h⟩
    · simp only [eventOf, reportEvent, hrow, ← hsame, if_true]
      exact .internal
    · simpa only [eventOf, reportEvent, hrow, hnew, if_false] using h
  case publishJointSession => exact (publishJointSession_commits config h).2
  case publishJointCheckpoint => exact (publishJointCheckpoint_commits config h).2
  case finishJointTurn => exact (finishJointTurn_settles config h).2.1
  case beginJointCompensation => exact (beginJointCompensation_commits config h).2
  case finishJointCompensation => exact (finishJointCompensation_commits config h).2
  case finishJointRelease => exact (finishJointRelease_commits config h).2
  case prepareJointCancel => exact prepareJointCancel_refines h
  case prepareJointCancelNative => exact prepareJointCancelNative_refines h
  case claimJointCancelSend claimed =>
    have hstep := claimJointCancelSend_refines h
    cases claimed <;> exact hstep
  case recordJointCancelResult => exact recordJointCancelResult_refines h
  case prepareHost => exact (prepareHost_commits config h).2
  case claimHostStep claimed =>
    have hstep := (claimHostStep_commits config h).2
    cases claimed <;> exact hstep
  case recordHostStep => exact (recordHostStep_commits config h).2
  case recordHostRecovery | finishHost | failStaleHostRead | finishHostRead |
      prepareHostCleanup | suspendHostCleanup | resumeHostCleanup | finishHostCleanup =>
    exact heff.refines_host ((congrArg Db.turnCancels hframe).trans rfl) trivial
  -- boundaries, targets and the split route are not in the ledger
  all_goals exact Step.internal.to ((congrArg Db.ledger hframe).trans rfl)

/-- Runs of the store are runs of the ledger. -/
theorem run_refines {s₀ tr} (h : Run (Commit config) s₀ tr s) :
    Run Step s₀.ledger (tr.map fun e => (e.1.ledger, eventOf e.1 e.2)) s.ledger :=
  h.map fun _ _ _ hcom => commit_refines hcom

theorem ledger_reached (h : StoreReachable config s) :
    s.ledger.Reached := by
  obtain ⟨tr, hrun⟩ := h
  exact ⟨_, run_refines hrun⟩

end XGovernor.Joint
