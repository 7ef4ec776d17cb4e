import XGovernor.Joint.Operations
import XGovernor.Joint.Refinement

/-!
# At-most-once dispatch

The permission to send a native message is that its row has no outcome yet, and the step
that grants it writes one.  No step takes an outcome back, so the permission is granted at
most once: for a native step of an operation, for a step of a Host operation, and for the
cancellation of a turn.  What is reported later only adds to what was reported, until the report
is terminal.
-/

namespace XGovernor.Joint.Ledger

open Domain Lib Function

variable {L L' : Ledger} {event : Event} {key : String × String}

/-! ## What was sent stays sent -/

/-- The native step has an outcome. -/
def Sent (L : Ledger) (key : String × String) : Prop :=
  ∃ row, L.steps key = some row ∧ row.outcome ≠ none

/-- The step of the Host operation was observed. -/
def HostSent (L : Ledger) (id : String) (index : Nat) : Prop :=
  ∃ h, L.hosts id = some h ∧ ∃ o, h.observations[index]? = some (some o)

/-- The cancellation has an outcome. -/
def CancelSent (L : Ledger) (id : String) : Prop :=
  ∃ row, L.cancels id = some row ∧ row.outcome ≠ none

theorem Step.sent_stays (h : Step L event L') (hsent : L.Sent key) :
    L'.Sent key := by
  obtain ⟨row, hrow, hout⟩ := hsent
  obtain ⟨row', hrow', hmove⟩ := h.steps.stays hrow
  exact ⟨row', hrow', hmove.outcome hout⟩

theorem Step.hostSent_stays (h : Step L event L') {id index}
    (hsent : L.HostSent id index) : L'.HostSent id index := by
  obtain ⟨j, hj, o, ho⟩ := hsent
  obtain ⟨j', hj', hmove⟩ := h.hosts.stays hj
  exact ⟨j', hj', hmove.observed index o ho⟩

theorem Step.cancelSent_stays (h : Step L event L') {id} (hsent : L.CancelSent id) :
    L'.CancelSent id := by
  obtain ⟨row, hrow, hout⟩ := hsent
  have hupd : ∀ {key : String} {new : TurnCancelRow},
      (∀ old, L.cancels key = some old → old.outcome ≠ none → new.outcome ≠ none) →
      L'.cancels = update L.cancels key (some new) → L'.CancelSent id := by
    intro key new hnew hcancels
    rw [CancelSent, hcancels]
    by_cases hid : id = key
    · subst hid
      exact ⟨new, update_self .., hnew row hrow hout⟩
    · exact ⟨row, by rw [update_of_ne hid, hrow], hout⟩
  cases h with
  | prepareCancel _ _ kept =>
    exact hupd (fun old hold hne => by rw [kept old hold]; exact hne) rfl
  | claimCancel | recordCancel => exact hupd (fun _ _ _ => by simp) rfl
  | _ => exact ⟨row, hrow, hout⟩

/-! ## A send is granted once -/

theorem Step.sent_of_dispatch {id step} (h : Step L (.dispatch id step) L') :
    ¬ L.Sent (id, step) ∧ L'.Sent (id, step) := by
  cases h with
  | dispatch _ _ stored unclaimed =>
    refine ⟨?_, _, update_self .., by simp⟩
    rintro ⟨row, hrow, hout⟩
    rw [Option.mem_unique hrow stored] at hout
    exact hout unclaimed

theorem Step.hostSent_of_hostDispatch {id index} (h : Step L (.hostDispatch id index) L') :
    ¬ L.HostSent id index ∧ L'.HostSent id index := by
  cases h with
  | claimHost _ runs unclaimed _ _ observations_eq =>
    refine ⟨?_, _, update_self .., claimedObservation, ?_⟩
    · rintro ⟨j, hj, o, ho⟩
      rw [Option.mem_unique hj runs.journal.stored, unclaimed] at ho
      exact absurd ho (by simp)
    · rw [observations_eq]
      exact List.getElem?_set_self (List.getElem?_eq_some_iff.1 unclaimed).1

theorem Step.cancelSent_of_cancelDispatch {id} (h : Step L (.cancelDispatch id) L') :
    ¬ L.CancelSent id ∧ L'.CancelSent id := by
  cases h with
  | claimCancel stored unclaimed =>
    refine ⟨?_, _, update_self .., by simp⟩
    rintro ⟨row, hrow, hout⟩
    rw [Option.mem_unique hrow stored] at hout
    exact hout unclaimed

variable {L₀ : Ledger} {tr : List (Ledger × Event)}

/-- In every run, each send is granted at most once. -/
theorem granted_once_of_run (h : Run Step L₀ tr L) :
    (∀ id step, tr.countP (fun e => decide (e.2 = .dispatch id step)) ≤ 1) ∧
    (∀ id index, tr.countP (fun e => decide (e.2 = .hostDispatch id index)) ≤ 1) ∧
    (∀ id, tr.countP (fun e => decide (e.2 = .cancelDispatch id)) ≤ 1) := by
  refine ⟨fun id step => ?_, fun id index => ?_, fun id => ?_⟩
  · refine h.countP_le_one (fun L => L.Sent (id, step)) ?_
      fun _ _ _ hstep hsent => hstep.sent_stays hsent
    intro L event L' hstep hfires
    obtain rfl : event = _ := of_decide_eq_true hfires
    exact hstep.sent_of_dispatch
  · refine h.countP_le_one (fun L => L.HostSent id index) ?_
      fun _ _ _ hstep hsent => hstep.hostSent_stays hsent
    intro L event L' hstep hfires
    obtain rfl : event = _ := of_decide_eq_true hfires
    exact hstep.hostSent_of_hostDispatch
  · refine h.countP_le_one (fun L => L.CancelSent id) ?_
      fun _ _ _ hstep hsent => hstep.cancelSent_stays hsent
    intro L event L' hstep hfires
    obtain rfl : event = _ := of_decide_eq_true hfires
    exact hstep.cancelSent_of_cancelDispatch

/-! ## Native history -/

/-- A report retains an earlier one: its objects stay in front, and a terminal one is final. -/
structure Retains (o o' : JointNativeOutcome) : Prop where
  resources : o.resources <+: o'.resources
  terminal : o.state.isTerminal = true → o' = o

theorem Retains.refl (o) : Retains o o :=
  ⟨List.prefix_refl _, fun _ => rfl⟩

theorem Retains.trans {o o' o''} (h : Retains o o') (h' : Retains o' o'') :
    Retains o o'' where
  resources := h.resources.trans h'.resources
  terminal := by
    intro hterm
    cases h.terminal hterm
    exact h'.terminal hterm

theorem Step.retains (h : Step L event L') (sound : L.Sound)
    {row o} (hrow : L.steps key = some row) (ho : row.outcome = some o) :
    ∃ row' o', L'.steps key = some row' ∧ row'.outcome = some o' ∧ Retains o o' := by
  obtain ⟨row', hrow', hmove⟩ := h.steps.stays hrow
  cases hmove with
  | same => exact ⟨_, o, hrow', ho, .refl o⟩
  | @reported new _ reports =>
    refine ⟨_, new, hrow', rfl, ?_⟩
    cases reports with
    | sent unsent => cases unsent.symm.trans ho
    | ordinary _ _ unsettled retained =>
      refine ⟨retained o ho, fun hterm => ?_⟩
      cases (unsettled o ho).symm.trans hterm
    | host journal bare immutable =>
      -- the report of a Host operation names no objects, and neither did the one before
      obtain ⟨op, hop, hjour⟩ := sound.journal _ _ journal
      have hbare : o.resources = [] := sound.bare key.1 key.2 op row o hop hjour.host hrow ho
      refine ⟨⟨new.resources, by simp [hbare]⟩, fun hterm => ?_⟩
      cases o
      cases new
      simp_all

end XGovernor.Joint.Ledger

namespace XGovernor.Joint

open Domain Lib
open Ledger (Event Retains)

/-! ## Dispatch of the store -/

/-- The call was answered with the permission to send the native step. -/
def grantsNativeSend (id step : String) : Call × Reply → Bool
  | (.claimJointNativeSend admission step', .native (some _)) =>
    admission.intentId = id && step' = step
  | _ => false

/-- The call was answered with the permission to dispatch the step of the Host operation. -/
def grantsHostStep (id : String) (index : Nat) : Call × Reply → Bool
  | (.claimHostStep access index', .bool true) =>
    access.admission.intentId = id && index' = index
  | _ => false

/-- The call was answered with the permission to send the cancellation of the turn. -/
def grantsCancelSend (id : String) : Call × Reply → Bool
  | (.claimJointCancelSend admission, .bool true) => admission.intentId = id
  | _ => false

variable {e : Call × Reply} {s : Db}

private theorem eventOf_of_grantsNativeSend {id step}
    (h : grantsNativeSend id step e = true) : eventOf s e = .dispatch id step := by
  unfold grantsNativeSend at h
  split at h
  · simp only [Bool.and_eq_true, decide_eq_true_eq] at h
    simp [eventOf, h]
  · exact Bool.noConfusion h

private theorem eventOf_of_grantsHostStep {id index} (h : grantsHostStep id index e = true) :
    eventOf s e = .hostDispatch id index := by
  unfold grantsHostStep at h
  split at h
  · simp only [Bool.and_eq_true, decide_eq_true_eq] at h
    simp [eventOf, h]
  · exact Bool.noConfusion h

private theorem eventOf_of_grantsCancelSend {id}
    (h : grantsCancelSend id e = true) : eventOf s e = .cancelDispatch id := by
  unfold grantsCancelSend at h
  split at h
  · simp only [decide_eq_true_eq] at h
    simp [eventOf, h]
  · exact Bool.noConfusion h

/-- Answers that go with an event are as many as the event in the run of the ledger. -/
private theorem countP_le_of_eventOf {grants : Call × Reply → Bool} {event : Event}
    (hgrants : ∀ s e, grants e = true → eventOf s e = event) (tr : List (Db × (Call × Reply)))
    (hle : (tr.map fun e => (e.1.ledger, eventOf e.1 e.2)).countP
      (fun e => decide (e.2 = event)) ≤ 1) : tr.countP (fun e => grants e.2) ≤ 1 := by
  rw [List.countP_map] at hle
  refine Nat.le_trans (List.countP_mono_left fun e _ he => ?_) hle
  exact decide_eq_true (hgrants e.1 e.2 he)

/-- **At-most-once dispatch**: in every run of the store, each native step, each step of a
Host operation and each cancellation of a turn is granted at most once. -/
theorem dispatch_at_most_once {config : StoreConfig} {tr : List (Db × (Call × Reply))} {s : Db}
    (h : Run (Commit config) Db.empty tr s) :
    (∀ id step, tr.countP (fun e => grantsNativeSend id step e.2) ≤ 1) ∧
    (∀ id index, tr.countP (fun e => grantsHostStep id index e.2) ≤ 1) ∧
    (∀ id, tr.countP (fun e => grantsCancelSend id e.2) ≤ 1) := by
  obtain ⟨hnat, hhost, hcanc⟩ := Ledger.granted_once_of_run (run_refines h)
  exact ⟨fun id step => countP_le_of_eventOf (fun _ _ => eventOf_of_grantsNativeSend) tr
      (hnat id step),
    fun id index => countP_le_of_eventOf (fun _ _ => eventOf_of_grantsHostStep) tr
      (hhost id index),
    fun id => countP_le_of_eventOf (fun _ _ => eventOf_of_grantsCancelSend) tr (hcanc id)⟩

/-- Of two claims of one send, one is granted. -/
theorem dispatch_once_of_two_claims :
    (traceAll smallConfig
      [.prepareJointOperation openRequest, .claimJointNativeSend openAdmission "create",
        .claimJointNativeSend openAdmission "create"] Db.empty).countP
      (fun e => grantsNativeSend "open" "create" e.2) = 1 :=
  Nat.le_antisymm ((dispatch_at_most_once (run_execAll smallConfig _ Db.empty)).1 "open" "create")
    (by decide +kernel)

/-! ## Native history of the store -/

/-- **Native history is monotone**: from any reachable database on, no call loses an object that
was reported for a native step or changes a terminal report, and a result that would change one
fails and is rolled back. -/
theorem native_history_monotone {config : StoreConfig} {s : Db} (h : StoreReachable config s) :
    (∀ tr s' key row o, Run (Commit config) s tr s' → s.steps.get? key = some row →
      row.outcome = some o →
      ∃ row' o', s'.steps.get? key = some row' ∧ row'.outcome = some o' ∧ Retains o o') ∧
    ∀ admission step operationId digest outcome row o,
      s.steps.get? (admission.intentId, step) = some row → row.outcome = some o →
      o.state.isTerminal = true → mergeOutcome (some o) outcome ≠ o →
      (∃ error, (exec config (.recordJointNativeResult admission step operationId digest
        outcome)).run s = .error error) ∧
      execAll config [.recordJointNativeResult admission step operationId digest outcome] s =
        s := by
  refine ⟨?_, ?_⟩
  · intro tr s' key row o hrun hrow ho
    refine h.run_invariant hrun (P := fun t => ∃ row' o', t.steps.get? key = some row' ∧
      row'.outcome = some o' ∧ Retains o o') ⟨row, o, hrow, ho, .refl o⟩ ?_
    rintro t event t' hreach ⟨row₁, o₁, hrow₁, ho₁, hretains⟩ hcom
    obtain ⟨row₂, o₂, hrow₂, ho₂, hnext⟩ :=
      (commit_refines hcom).retains (ledger_reached hreach).sound hrow₁ ho₁
    exact ⟨row₂, o₂, hrow₂, ho₂, hretains.trans hnext⟩
  · intro admission step operationId digest outcome row o hrow ho hterm hchg
    cases hrun : (exec config
      (.recordJointNativeResult admission step operationId digest outcome)).run s with
    | error error => exact ⟨⟨error, rfl⟩, by simp [execAll, hrun]⟩
    | ok result =>
      obtain ⟨_, hcom, -⟩ := run_answering_eq_ok.1 hrun
      rcases (recordJointNativeResult_commits config hcom).2 with
        ⟨row', hrow', hsame, -⟩ | ⟨row', hrow', -, hunset, -⟩ <;>
      cases hrow.symm.trans hrow'
      · rw [ho] at hsame
        exact absurd (Option.some.inj hsame).symm hchg
      · cases (hunset o ho).symm.trans hterm

/-- Once the creation of a session was reported complete, it cannot be reported failed under the
same ids. -/
theorem native_history_of_created_session :
    let s := execAll smallConfig (openCalls.take 3) Db.empty
    let report := Call.recordJointNativeResult openAdmission "create"
      "00000000-0000-0000-0000-000000000001"
      "0000000000000000000000000000000000000000000000000000000000000000" ⟨.failed, [], .null⟩
    (∃ error, (exec smallConfig report).run s = .error error) ∧ execAll smallConfig [report] s = s :=
  (native_history_monotone (storeReachable_execAll smallConfig (openCalls.take 3))).2 openAdmission
    "create" _ _ _ ⟨openRequest.native.head (by decide), some ⟨.completed, [⟨"root", "object"⟩],
      .null⟩⟩ _ (by decide +kernel) rfl rfl (by decide)

end XGovernor.Joint
