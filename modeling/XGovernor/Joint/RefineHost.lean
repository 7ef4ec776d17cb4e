import XGovernor.Joint.RefineAdmission

/-!
# Refinement: Host operations

Every committed Host transaction is a step of the ledger.  The checks of a stored record
and of its target do not write; what they establish is stated once and used by all.
-/

namespace XGovernor.Joint

open Domain Lib Table Tx Ledger
open Ledger (Step Event)

variable {s s' : Db} {u : Unit} {codec : HostCodec}
variable {t : HostTargetV1} {p : HostCapabilityPolicyV1} {id : String} {h : HostIntentV1}
  {access : HostAccessTokenV1} {prepared : HostPreparedV1} {reply result : Json}
  {revisions : Option (String × String)} {observation : HostObservationV1} {step : Nat}

/-! ## Checks -/

/-- What the ledger knows about an accepted target. -/
structure LiveTarget (s : Db) (t : HostTargetV1) : Prop where
  live : ∃ row, s.ledger.bindings t.liveBinding.bindingId = some row ∧ row.state = .active ∧
    row.generation = t.bindingGeneration
  root : ∃ row, s.ledger.bindings t.rootBindingId = some row ∧ row.state = .active

private theorem liveTarget_of_targetLive (h : targetLive s t = true) :
    LiveTarget s t := by
  simp only [targetLive, Option.any_eq_true, Bool.and_eq_true, decide_eq_true_eq] at h
  obtain ⟨session, -, b, hb, r, -, rb, hrb, _, -, hmatch⟩ := h
  obtain ⟨⟨⟨⟨⟨⟨⟨⟨⟨⟨⟨⟨⟨hlive, hact⟩, hgen⟩, -⟩, -⟩, -⟩, -⟩, hroot⟩, hroot_active⟩, -⟩, -⟩,
    -⟩, -⟩, -⟩ := hmatch
  rw [hlive] at hb
  rw [hroot] at hrb
  exact ⟨⟨b, hb, hact, hgen⟩, ⟨rb, hrb, hroot_active⟩⟩

theorem targetLive_of_validateTarget (h : (validateTarget codec t p).run s = .ok (u, s')) :
    targetLive s t = true ∧ s' = s := by
  simp only [validateTarget, checks, run_checked_eq_ok, run_queryRow_eq_ok] at h
  obtain ⟨-, -, hlive, root, -, -, session, -, -, rfl⟩ := h
  exact ⟨hlive, rfl⟩

@[simp] theorem run_requireConfigured_eq_ok {error : StoreError} :
    (requireConfigured t p error).run s = .ok (u, s') ↔
      s.hostTargets.get? t.publicRuntimeId = some ⟨t, p⟩ ∧ s' = s := by
  simp only [requireConfigured, checks, run_queryRow_eq_ok, Bool.and_eq_true, decide_eq_true_eq]
  constructor
  · rintro ⟨row, hrow, rfl, rfl, rfl⟩
    exact ⟨hrow, rfl⟩
  · rintro ⟨hrow, rfl⟩
    exact ⟨_, hrow, rfl, rfl, rfl⟩

theorem run_loadIntent_eq_ok :
    (loadIntent codec id).run s = .ok (h, s') ↔
      s.ledger.hosts id = some h ∧ verifyIntent codec h = .ok () ∧ s' = s := by
  simp only [loadIntent, checks, writes, run_checked_eq_ok]
  constructor
  · rintro ⟨_, hrow, hver, rfl, rfl⟩
    exact ⟨hrow, hver, rfl⟩
  · rintro ⟨hrow, hver, rfl⟩
    exact ⟨h, hrow, hver, rfl, rfl⟩

theorem run_checkToken_eq_ok :
    (checkToken codec access).run s = .ok (h, s') ↔
      s.ledger.HasJournal access h ∧ verifyIntent codec h = .ok () ∧ s' = s := by
  simp only [checkToken, checks, run_loadIntent_eq_ok, run_pure_eq_ok, decide_eq_true_eq]
  constructor
  · rintro ⟨_, hrow, hver, htoken, rfl, rfl⟩
    exact ⟨⟨hrow, htoken⟩, hver, rfl⟩
  · rintro ⟨⟨hrow, htoken⟩, hver, rfl⟩
    exact ⟨h, hrow, hver, htoken, rfl, rfl⟩

theorem runsHost_of_checkActive (hjour : s.ledger.HasJournal access h)
    (hrun : (checkActive codec access h).run s = .ok (u, s')) :
    (∃ op, s.ledger.RunsHost access h op) ∧ s' = s := by
  simp only [checkActive, checks, run_operation_eq_ok, run_checkFences_eq_ok,
    run_requireConfigured_eq_ok, Bool.and_eq_true, decide_eq_true_eq] at hrun
  obtain ⟨op, hop, htoken, hact, hrunning, hfenced, _, t, htgt, -, rfl⟩ := hrun
  obtain ⟨-, rfl⟩ := targetLive_of_validateTarget htgt
  exact ⟨⟨op, ⟨hop, htoken, hfenced⟩, hjour, hact, hrunning⟩, rfl⟩

theorem runsHost_of_checkIntent (hrun : (checkIntent codec access).run s = .ok (h, s')) :
    (∃ op, s.ledger.RunsHost access h op) ∧ s' = s := by
  simp only [checkIntent, checks, run_checkToken_eq_ok, run_pure_eq_ok] at hrun
  obtain ⟨_, hjour, -, _, t, hact, rfl, rfl⟩ := hrun
  exact runsHost_of_checkActive hjour hact

theorem Ledger.HasJournal.id_eq {L : Ledger} (hjour : L.HasJournal access h) :
    h.access.admission.intentId = access.admission.intentId := by
  rw [hjour.token]

/-! ## Registration and admission -/

/-- What a Host admission finds at its fences, and the fences after. -/
theorem acquireHostFence_ledger {epochs}
    (h : (acquireHostFence prepared).run s = .ok (epochs, s')) :
    ∃ root source, s.ledger.fences (.root, prepared.target.rootId) = some root ∧
      root.holder = none ∧
      ensured s.ledger.fences (.source, prepared.target.publicRuntimeId)
        prepared.target.rootId prepared.target.tenantKey
        (.source, prepared.target.publicRuntimeId) = some source ∧
      source.rootId = prepared.target.rootId ∧ source.holder = none ∧
      epochs = (root.epoch, source.epoch + 1) ∧
      s'.ledger = { s.ledger with
        fences := taken (ensured s.ledger.fences
          (.source, prepared.target.publicRuntimeId) prepared.target.rootId
          prepared.target.tenantKey) (.source, prepared.target.publicRuntimeId)
          prepared.context.intentId } := by
  simp only [acquireHostFence, checks, run_queryRow_eq_ok, run_pure_eq_ok, Bool.and_eq_true,
    decide_eq_true_eq, Option.isNone_iff_eq_none] at h
  obtain ⟨root, hroot, hfree, _, t₁, hensure, source, hsrc, hid, -, hsource_free, _, t₂,
    htake, held, hheld, rfl, rfl⟩ := h
  have e₁ := ledger_ensureFence hensure
  have e₂ := ledger_takeFence htake
  change t₁.ledger.fences _ = _ at hsrc
  change s'.ledger.fences _ = _ at hheld
  have hepoch : held.epoch = source.epoch + 1 := by
    simp only [e₂, taken, hsrc, Option.map_some, if_true, Option.some.injEq] at hheld
    rw [← hheld]
  simp only [e₁] at hsrc
  exact ⟨root, source, hroot, hfree, hsrc, hid, hsource_free, by rw [hepoch], by simp only [e₂, e₁]⟩

/-- **The admission of a Host operation.** -/
private theorem admitHost_commits (config)
    (hver : verifyRequest prepared = .ok ()) (hlive : targetLive s prepared.target = true)
    (h : (admitHost config.codec prepared).run s = .ok (access, s')) :
    Effect config s (.prepareHost prepared) s' ∧ Step s.ledger .internal s'.ledger := by
  simp only [admitHost, run_bind_eq_ok, run_pure_eq_ok] at h
  obtain ⟨_, t₁, hcap, epochs, t₂, hfence, _, t₃, hoper, _, t₄, hnat, _, t₅,
    halloc, _, t₆, hhold, _, t₇, hint, -, rfl⟩ := h
  simp only [checkHostCapacity, checks, Bool.and_eq_true, decide_eq_true_eq] at hcap
  obtain ⟨hcount, -, hbytes, rfl⟩ := hcap
  obtain ⟨root, source, hroot, hroot_free, hsrc, hsource_root, hsource_free, hepochs, hledg⟩ :=
    acquireHostFence_ledger hfence
  have hfences : t₂.ledger.fences = _ := congrArg fences hledg
  -- the transaction is followed table by table: fences, operation, steps, allocation, hold, journal
  obtain ⟨fences, rfl⟩ : ∃ fences, t₂ = { t₁ with fences } := by
    refine ⟨_, Tx.Within.run_eq (m := fenceMask) ?_ _ _ _ hfence⟩
    exact within_bind within_queryRow fun _ => within_bind within_require fun _ =>
      within_bind (within_modify fun _ => rfl) fun _ =>
      within_bind within_queryRow fun _ => within_bind within_require fun _ =>
      within_bind (within_modify fun _ => rfl) fun _ =>
      within_bind within_queryRow fun _ => within_pure
  obtain ⟨hfresh, -, rfl⟩ := run_insertRow_eq_ok.1 hoper
  have hadded := insertSteps_ledger hnat
  have hsteps : t₄ = stepMask.copy t₄ _ :=
    (within_forEach fun _ => within_insertRow fun _ _ => rfl).run_eq _ _ _ hnat
  rw [hsteps] at halloc
  obtain ⟨hunallocated, -, rfl⟩ := run_insertRow_eq_ok.1 halloc
  obtain ⟨hunheld, -, rfl⟩ := run_insertRow_eq_ok.1 hhold
  obtain ⟨hunrecorded, -, rfl⟩ := run_insertRow_eq_ok.1 hint
  constructor
  · exact .admitHost
      { frame := rfl
        verified := hver
        live := hlive
        fresh := hfresh
        capacity := ⟨hcount, by simpa only [Bool.and_eq_true, decide_eq_true_eq] using hbytes⟩
        unallocated := hunallocated
        allocations := rfl
        unheld := hunheld
        refs := rfl
        unrecorded := hunrecorded
        admitted := ⟨epochs, root.epoch, source, rfl, rfl, hsrc, hsource_free, hepochs, hfences⟩ }
  · obtain ⟨hlive, rootBinding, hroot_bound, hroot_active⟩ := liveTarget_of_targetLive hlive
    refine (Step.admitHost (L := t₁.ledger)
      (newHostIntent config.codec prepared (hostAccess config.codec prepared epochs))
      (operation_of_verifyRequest hver) (native_eq_nil_iff_of_verifyRequest hver) hfresh
      hunheld hunrecorded hlive hroot_bound hroot_active hroot hroot_free hsrc hsource_root
      hsource_free hepochs hadded rfl rfl rfl ⟨rfl, rfl, rfl⟩).to ?_
    have hrefs : t₁.refs.get? (.hostHold, prepared.context.intentId) = none := hunheld
    have hhosts : t₁.hostIntents.get? prepared.context.intentId = none := hunrecorded
    simp only [stepMask, Db.ledger, get?_add_eq, extended_key hfresh,
      extended_key hrefs, extended_key hhosts] at hfences ⊢
    rw [hfences]

theorem prepareHost_commits (config)
    (h : (prepareHost config.codec prepared).run s = .ok (access, s')) :
    Effect config s (.prepareHost prepared) s' ∧ Step s.ledger .internal s'.ledger := by
  simp only [prepareHost, checks, run_checked_eq_ok, run_requireConfigured_eq_ok] at h
  obtain ⟨hver, _, t, htgt, -, h⟩ := h
  obtain ⟨hlive, rfl⟩ := targetLive_of_validateTarget htgt
  split at h
  · simp only [checks, run_loadIntent_eq_ok, run_pure_eq_ok] at h
    obtain ⟨old, -, -, -, -, rfl⟩ := h
    exact ⟨.quiet _, .internal⟩
  · exact admitHost_commits config hver hlive h

/-! ## Steps -/

theorem claimHostStep_commits (config) {claimed : Bool}
    (h : (claimHostStep config.codec access step).run s = .ok (claimed, s')) :
    Effect config s (.claimHostStep access step) s' ∧ Step s.ledger
      (if claimed then .hostDispatch access.admission.intentId step else .internal)
      s'.ledger := by
  simp only [claimHostStep, checks, Bool.and_eq_true, decide_eq_true_eq] at h
  obtain ⟨journal, t, hcheck, hbound, -, h⟩ := h
  obtain ⟨⟨op, hruns⟩, rfl⟩ := runsHost_of_checkIntent hcheck
  split at h
  -- the step was claimed before, and nothing is written
  · obtain ⟨rfl, rfl⟩ := Tx.run_pure_eq_ok.1 h
    exact ⟨.quiet _, .internal⟩
  · rename_i hunc
    have hnone : journal.observations[step]? = some none := by
      rw [List.getElem?_eq_getElem hbound] at hunc ⊢
      simpa using hunc
    simp only [setStage, updateOperations, saveIntent, updateHostIntents, run_bind_eq_ok,
      writes, run_when_eq_ok, Bool.not_eq_true', Bool.not_eq_false', exists_and_left,
      exists_eq_left, exists_const] at h
    obtain ⟨_, t₁, hnat, rfl, rfl⟩ := h
    have hop : t.operations.get? access.admission.intentId = some op := hruns.stored
    have hjour : t.hostIntents.get? access.admission.intentId = some journal :=
      hruns.journal.stored
    have hid : (journal.claimed step).access.admission.intentId = access.admission.intentId :=
      hruns.journal.id_eq
    -- a read has no native step to mark
    rcases hnat with ⟨hread, hnat⟩ | ⟨hread, rfl⟩
    · simp only [claimNative, updateSteps, updateHostWorkspace, checks, writes] at hnat
      obtain ⟨n, hn, rfl⟩ := hnat
      have hsome : journal.prepared.request.isRead = false →
          journal.prepared.native[step]?.isSome := fun _ => by simp [hn]
      have heff : Effect config t (.claimHostStep access step) _ :=
        .claimHost hruns hnone hsome
      simp only [hread, hn, Option.any_some, Bool.false_eq_true, if_false] at heff
      refine ⟨heff, (Step.claimHost (journal.claimed step) hruns hnone rfl rfl rfl hsome).to ?_⟩
      have hclaimed : Table.modified t.steps.get?
          (fun key row => key = (access.admission.intentId, n.step) && row.outcome.isNone)
          (fun row => { row with outcome := some sentUnknown }) =
          claimedStep t.steps.get? access.admission.intentId (some n) := by
        funext key
        simp [Table.modified, claimedStep]
      simp only [Db.ledger, get?_modify_eq, hclaimed, hread, hn, Bool.false_eq_true, if_false,
        hid, modified_key hop, modified_key hjour]
    · have hsome : journal.prepared.request.isRead = false →
          journal.prepared.native[step]?.isSome := fun hnot => by simp [hread] at hnot
      have heff : Effect config t₁ (.claimHostStep access step) _ :=
        .claimHost hruns hnone hsome
      simp only [hread, if_true] at heff
      refine ⟨heff, (Step.claimHost (journal.claimed step) hruns hnone rfl rfl rfl hsome).to ?_⟩
      simp only [Db.ledger, get?_modify_eq, hread, if_true, hid, modified_key hop,
        modified_key hjour]

/-- The report on the native step of a Host step, if it has one. -/
private theorem recordNative_eq {native}
    (h : (Tx.forSome native fun n => recordNative id n observation).run s = .ok (u, s')) :
    (∀ n, native = some n →
      ∃ row outcome, s.steps.get? (id, n.step) = some row ∧ row.outcome = some outcome ∧
        (outcome.state.isTerminal = true →
          outcome.state = observation.state ∧ outcome.payload = observation.payload)) ∧
    ∃ steps, s' = { s with steps } ∧ steps.get? = reportedStep s.steps.get? id native
      ⟨observation.state, [], observation.payload⟩ := by
  rcases Tx.run_forSome_eq_ok.1 h with ⟨n, rfl, hrep⟩ | ⟨rfl, rfl⟩
  · simp only [recordNative, updateSteps, checks, run_queryRow_eq_ok, writes] at hrep
    obtain ⟨row, hrow, outcome, hout, himm, rfl⟩ := hrep
    refine ⟨?_, _, rfl, ?_⟩
    · rintro _ ⟨⟩
      refine ⟨row, outcome, hrow, hout, fun hterm => ?_⟩
      simp only [hterm, Bool.true_and, Bool.not_eq_true', Bool.or_eq_false_iff,
        decide_eq_false_iff_not, not_not] at himm
      exact himm
    · funext key
      simp [get?_modify, reportedStep]
  · refine ⟨by simp, _, rfl, ?_⟩
    funext key
    simp [reportedStep]

theorem recordHostStep_commits (config)
    (h : (recordHostStep config.codec access step observation).run s = .ok (u, s')) :
    Effect config s (.recordHostStep access step observation) s' ∧
      Step s.ledger .internal s'.ledger := by
  simp only [recordHostStep, checks, run_expect_eq_ok] at h
  obtain ⟨journal, t, hcheck, old, hold, h⟩ := h
  obtain ⟨⟨op, hruns⟩, rfl⟩ := runsHost_of_checkIntent hcheck
  split at h
  · obtain ⟨-, rfl⟩ := Tx.run_pure_eq_ok.1 h
    exact ⟨.quiet _, .internal⟩
  · simp only [setStage, updateOperations, saveIntent, updateHostIntents, checks,
      run_modify_eq_ok] at h
    obtain ⟨hunset, hterm, _, t₁, hnat, rfl⟩ := h
    have hclaimed : journal.observations[step]? = some (some old) := by
      simpa [Option.join_eq_some_iff] using hold
    have hunset : old.settled = false := by simpa using hunset
    have hterm : observation.settled = true → observation.state.isTerminal = true := by
      simpa [imp_iff_not_or] using hterm
    obtain ⟨himm, steps, rfl, hsteps⟩ := recordNative_eq hnat
    refine ⟨.recordHost hruns hclaimed hunset hterm, ?_⟩
    have hnext := ite_eq_or_eq (allSettled (journal.observed step observation) = true)
      Stage.accepted Stage.unknown
    refine (Step.recordHost (L := t.ledger) (journal.observed step observation) hruns hclaimed
      hunset hterm hnext.symm himm rfl rfl rfl).to ?_
    have hop : t.operations.get? access.admission.intentId = some op := hruns.stored
    have hjour : t.hostIntents.get? access.admission.intentId = some journal :=
      hruns.journal.stored
    have hid : (journal.observed step observation).access.admission.intentId =
        access.admission.intentId := hruns.journal.id_eq
    simp only [Db.ledger, hsteps, get?_modify_eq, hid, modified_key hop, modified_key hjour]

/-! ## Settlement -/

private theorem artifactEvidence_eq {before after evidence}
    (hrun : (artifactEvidence codec access h result before after).run s =
      .ok (evidence, s')) : s' = s := by
  simp only [artifactEvidence, requireStableBoundary, checks, writes, run_queryRow_eq_ok] at hrun
  obtain ⟨-, -, path, -, transfer, -, encoded, -, bytes, -, -, workspace, -, -, rfl⟩ := hrun
  rfl

theorem publishedEvidence_eq {evidence}
    (hrun : (publishedEvidence codec access h result revisions).run s = .ok (evidence, s')) :
    s' = s := by
  unfold publishedEvidence at hrun
  split at hrun
  · simp only [run_bind_eq_ok, run_pure_eq_ok] at hrun
    obtain ⟨_, t, hev, -, rfl⟩ := hrun
    exact artifactEvidence_eq hev
  · simp only [checks, run_pure_eq_ok] at hrun
    exact hrun.2.2

/-! ## Effects -/

/-- The effects of calls that settle, suspend, resume or clean up a Host operation are steps of the
ledger. -/
theorem Effect.refines_host {config : StoreConfig} {call : Call} (heff : Effect config s call s')
    (hcancels : s'.turnCancels = s.turnCancels) (hcall : match call with
      | .recordHostRecovery .. | .failStaleHostRead .. | .finishHost .. | .finishHostRead ..
      | .prepareHostCleanup .. | .suspendHostCleanup .. | .resumeHostCleanup ..
      | .finishHostCleanup .. => True | _ => False) : Step s.ledger .internal s'.ledger := by
  cases heff with
  | quiet | intents => exact .internal
  | cancel turnCancels =>
    obtain rfl : turnCancels = s.turnCancels := hcancels
    exact .internal
  | @recover access evidence h op runs =>
    refine (Step.noteHost { h with recoveryEvidence := h.recoveryEvidence ++ [evidence] } []
      runs.journal rfl rfl rfl rfl (by simp)).to ?_
    simp only [Db.ledger, dropped_nil, savedIntents_get? runs.journal.stored
      { h with recoveryEvidence := h.recoveryEvidence ++ [evidence] } runs.journal.id_eq]
  | @failStale _ access h op _ journal _ stored token active running _ native =>
    refine (Step.settleHost h.staleRead [(.hostHold, access.admission.intentId)] stored token
      journal active running (.inr (.inr native)) rfl rfl (.inr ⟨native, _, rfl⟩)
      ⟨rfl, HostState.noConfusion⟩ (by simp)).to ?_
    simp only [Db.ledger, freedFences_get?, get?_modify_eq, get?_erase_eq, erased_key,
      modified_key stored, savedIntents_get? journal.stored h.staleRead journal.id_eq]
  | @publishHost _ access h op result evidence _ runs _ settled =>
    -- the hold is given back unless a cleanup is still pending
    have hrefs : ∃ keys : List (RefKind × String),
        (∀ key ∈ keys, key = (.hostHold, access.admission.intentId)) ∧
        (if leavesNothing access h result then
            s.refs.erase fun key _ => key = (.hostHold, access.admission.intentId)
          else s.refs).get? = dropped s.refs.get? keys := by
      split
      · exact ⟨[(.hostHold, access.admission.intentId)], by simp, by rw [get?_erase_eq, erased_key]⟩
      · exact ⟨[], by simp, by rw [dropped_nil]⟩
    obtain ⟨keys, hkeys, hrefs⟩ := hrefs
    have hquiet : allSettled h = true ∨ ∀ o ∈ h.observations, o = none := by
      simpa only [List.all_eq_true, Option.isNone_iff_eq_none] using settled
    refine (Step.settleHost (h.published result evidence (leavesNothing access h result)) keys
      runs.stored runs.token runs.journal runs.active runs.running (hquiet.imp id .inl) rfl rfl
      (.inl rfl) ⟨rfl, ?_⟩ hkeys).to ?_
    · simp only [HostIntentV1.published]
      split <;> simp
    · simp only [Db.ledger, freedFences_get?, get?_modify_eq, hrefs,
        modified_key (m := s.operations.get?) runs.stored,
        savedIntents_get? runs.journal.stored (h.published ..) runs.journal.id_eq]
  | @delegateCleanup access childId _ h op _ runs settled fresh undelegated =>
    refine (Step.delegateCleanup { h with cleanupState := .delegated } runs settled fresh
      undelegated rfl rfl rfl rfl).to ?_
    simp only [Db.ledger, get?_add_eq, extended_key fresh,
      extended_key undelegated, savedIntents_get? runs.journal.stored
        { h with cleanupState := .delegated } runs.journal.id_eq]
  | @suspend access h op cleanup runs settled delegated waiting =>
    refine (Step.suspendCleanup (h.suspended cleanup.childId op.stage) runs settled delegated
      waiting rfl rfl rfl rfl).to ?_
    -- one update of two rows is the restaging of the two operations
    have hops : Table.modified s.operations.get?
        (fun key _ => key = access.admission.intentId || key = cleanup.childId)
        (fun row => { row with stage := .suspendedWaitingDependency }) =
        restaged s.operations.get? [access.admission.intentId, cleanup.childId]
          .suspendedWaitingDependency := by
      funext key
      simp [Table.modified, restaged]
    simp only [Db.ledger, freedFences_get?, get?_modify_eq, hops,
      modified_key delegated, savedIntents_get? runs.journal.stored (h.suspended ..)
        runs.journal.id_eq]
  | @resume access h op child cleanup root source admission journal suspended delegated _ root_free
      source_free admission_eq stored op_suspended distinct child_stored child_suspended =>
    subst admission_eq
    refine (Step.resumeCleanup (h.resumed { access with admission := { access.admission with
        sourceEpoch := some (source.epoch + 1), rootEpoch := root.epoch } }) journal suspended
      delegated root_free.1 root_free.2 source_free.1 source_free.2 stored op_suspended distinct
      child_stored child_suspended rfl rfl rfl rfl rfl).to ?_
    -- the second update reads what the first one leaves: the child is another operation
    have hchild : Function.update s.operations.get? access.admission.intentId (some { op with
        stage := .accepted
        admission := { access.admission with
          sourceEpoch := some (source.epoch + 1), rootEpoch := root.epoch } }) cleanup.childId =
        some child := (Function.update_of_ne distinct ..).trans child_stored
    simp only [Db.ledger, get?_modify_eq, modified_eq_taken, modified_key stored,
      modified_key hchild, modified_key delegated]
    rw [savedIntents_get? journal.stored _ rfl]
    rfl
  | @endDelegation access h op cleanup runs _ settled delegated =>
    refine (Step.endDelegation { h with cleanupState := .none } runs settled delegated rfl rfl rfl
      rfl).to ?_
    have hops : Table.modified s.operations.get? (fun key _ => key = cleanup.childId)
        (fun row => { row with stage := .settled }) =
        restaged s.operations.get? [cleanup.childId] .settled := by
      funext key
      simp [Table.modified, restaged]
    simp only [Db.ledger, stagedOperation, get?_modify_eq, hops,
      modified_key delegated, savedIntents_get? runs.journal.stored
        { h with cleanupState := .none } runs.journal.id_eq]
  | @finishCleanup access h journal =>
    refine (Step.noteHost { h with cleanupState := .done } [(.hostHold, access.admission.intentId)]
      journal rfl rfl rfl rfl (by simp)).to ?_
    simp only [Db.ledger, get?_erase_eq, erased_key,
      savedIntents_get? journal.stored { h with cleanupState := .done } journal.id_eq]
  | _ => exact hcall.elim

end XGovernor.Joint
