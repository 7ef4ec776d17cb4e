import XGovernor.Mcts.Http

/-!
# Tenants and their search runs

The routes of search runs are mounted where tenants can reach them, and the record of a run is
filed under its id alone: reading and cancelling take no account of who asks, and the task that a
call spawns writes its outcome into whatever record has the id by then.  A request is isolated
when its answer does not depend on the runs of other tenants and it leaves their runs alone.

A request of a tenant is more than its handler: the sections of the task that a `create_run`
spawns belong to the tenant that made the call, also after the call has returned.  The state does
not say who that was, the history does (`MadeBy`).  `isolated_iff` says which sections of a
tenant's requests are isolated: exactly those that the missing check would let through.
-/

namespace XGovernor.Mcts

open Lib App Function Table

/-! ## The isolation of a request -/

/-- The run was created by a tenant other than `t`. -/
def MctsRunRecord.Foreign (t : String) (record : MctsRunRecord) : Prop :=
  ∃ other, record.creator.tenantId = some other ∧ other ≠ t

/-- The cancellation flag of a run and its value. -/
def Server.flagOf (s : Server) (runId : String) : Option (Nat × Bool) :=
  (s.cancellations.get? runId).map fun flag => (flag, s.flags flag)

/-- The states differ only in the runs of tenants other than `t`. -/
def Alike (t : String) (s s' : Server) : Prop :=
  ∀ runId record, ¬record.Foreign t →
    (s.runs.get? runId = some record ↔ s'.runs.get? runId = some record) ∧
    (s.runs.get? runId = some record → s.flagOf runId = s'.flagOf runId)

/-- The runs of tenants other than `t` keep their status and their flag. -/
def Unharmed (t : String) (s s' : Server) : Prop :=
  ∀ runId record, s.runs.get? runId = some record → record.Foreign t →
    ∃ record', s'.runs.get? runId = some record' ∧ record'.Foreign t ∧
      record'.status = record.status ∧ s'.flagOf runId = s.flagOf runId

/-- What the routes that read and cancel answer. -/
def response (s : Server) : Label → Option (Except MctsApiError MctsRunView)
  | .getRun runId => some (getRun s runId)
  | .cancelRun runId => some (cancelRun s runId).1
  | _ => none

/-- The call is made with the credentials of tenant `t`. -/
def CreatePhase.OfTenant (t : String) : CreatePhase → Prop
  | checked creation | prepared creation | spawned creation | flagged creation =>
    creation.context.tenantId = some t
  | returned _ => False

/-- In the history `tr`, call `i` was made with the credentials of tenant `t`. -/
def MadeBy (t : String) (tr : List (Server × Label)) (i : Nat) : Prop :=
  ∃ before context request uuid,
    (before, .checkRun i (some context) request uuid) ∈ tr ∧ context.tenantId = some t

/-- The label is part of a request of tenant `t`, or of the task that such a request spawned. -/
def ByTenant (t : String) (tr : List (Server × Label)) (s : Server) : Label → Prop
  | .getRun _ | .cancelRun _ => True
  | .checkRun _ context _ _ => ∃ ctx, context = some ctx ∧ ctx.tenantId = some t
  | .prepare i _ | .launch i _ | .insertCancellation i | .insertRecord i =>
    ∃ phase, s.creates i = some phase ∧ phase.OfTenant t
  | .execute i _ | .updateRecord i | .removeCancellation i => MadeBy t tr i

/-- **Isolation of a request of tenant `t`.** -/
def Isolated (config : MctsLaunchConfig) (t : String) (s : Server) (label : Label) : Prop :=
  (∀ s', Alike t s s' → response s label = response s' label) ∧
    ∀ s', Step config s label s' → Unharmed t s s'

/-- The run that a request names is there and is not another tenant's; a call that creates a run
does not meet another tenant's run under its id when it writes; its task meets another tenant's
run neither with a status to replace nor with a flag to drop. -/
def Permitted (t : String) (s : Server) : Label → Prop
  | .getRun runId | .cancelRun runId =>
    ∃ record, s.runs.get? runId = some record ∧ ¬record.Foreign t
  | .insertCancellation i => ∀ creation, s.creates i = some (.spawned creation) →
      ∀ record, s.runs.get? creation.request.runId = some record → ¬record.Foreign t
  | .insertRecord i => ∀ creation, s.creates i = some (.flagged creation) →
      ∀ record, s.runs.get? creation.request.runId = some record → ¬record.Foreign t
  | .updateRecord i => ∀ request outcome, s.tasks i = some (.executed request outcome) →
      ∀ record, s.runs.get? request.runId = some record → record.Foreign t →
        (record.finish outcome).status = record.status
  | .removeCancellation i => ∀ runId prepared, s.tasks i = some (.updated runId prepared) →
      ∀ record, s.runs.get? runId = some record → record.Foreign t →
        s.cancellations.get? runId = none
  | _ => True

/-! ## Every flag has one run -/

/-- The run under whose id a call has entered its flag. -/
def CreatePhase.flaggedRunId? : CreatePhase → Option String
  | flagged creation => some creation.request.runId
  | returned (.ok view) => some view.runId
  | _ => none

/-- An entry of the cancellations was made by the call its flag belongs to. -/
def FlagsOwned (s : Server) : Prop :=
  ∀ runId i, s.cancellations.get? runId = some i →
    ∃ phase, s.creates i = some phase ∧ phase.flaggedRunId? = some runId

/-- The call whose section comes before its writes. -/
def Label.early? : Label → Option Nat
  | .checkRun i _ _ _ | .prepare i _ | .launch i _ => some i
  | _ => none

/-- The sections of a call before its writes touch neither map. -/
theorem Step.early {config s s' label i}
    (hstep : Step config s label s') (hlabel : label.early? = some i) :
    (∀ old, s.creates i = some old → old.flaggedRunId? = none) ∧
      ∃ phase tasks, s' = { s.setCreate i phase with tasks } := by
  cases hstep <;> cases hlabel
  case checkRun hnew =>
    refine ⟨by simp [hnew], ?_⟩
    unfold Server.checkRun
    repeat' split
    all_goals exact ⟨_, _, rfl⟩
  case prepare hphase =>
    refine ⟨by simp [hphase, CreatePhase.flaggedRunId?], ?_⟩
    unfold Server.prepare
    split <;> exact ⟨_, _, rfl⟩
  case launch hphase =>
    refine ⟨by simp [hphase, CreatePhase.flaggedRunId?], ?_⟩
    unfold Server.launch
    repeat' split
    all_goals exact ⟨_, _, rfl⟩

/-- A call that has not entered its flag may get on. -/
theorem FlagsOwned.setCreate {s} (h : FlagsOwned s) {i phase}
    (hquiet : ∀ old, s.creates i = some old → old.flaggedRunId? = none) :
    FlagsOwned (s.setCreate i phase) := by
  intro runId j hj
  obtain ⟨other, hother, hrunId⟩ := h runId j hj
  have hne : j ≠ i := by
    rintro rfl
    simp [hquiet other hother] at hrunId
  exact ⟨other, by simpa [Server.setCreate, update_of_ne hne] using hother, hrunId⟩

theorem FlagsOwned.step {config s s' label}
    (h : FlagsOwned s) (hstep : Step config s label s') : FlagsOwned s' := by
  have hearly := fun i => hstep.early (i := i)
  cases hstep with
  | checkRun | prepare | launch =>
    obtain ⟨hquiet, phase, tasks, heq⟩ := hearly _ rfl
    rw [heq]
    exact h.setCreate hquiet
  | @insertCancellation i creation hphase =>
    intro runId j hj
    simp only [Server.insertCancellation, Server.setCreate, get?_upsert, update_apply] at hj ⊢
    split_ifs at hj with hkey
    · obtain rfl := Option.some.inj hj
      exact ⟨_, if_pos rfl, by rw [hkey]; rfl⟩
    · obtain ⟨other, hother, hrunId⟩ := h runId j hj
      have hne : j ≠ i := by
        rintro rfl
        cases hphase.symm.trans hother
        cases hrunId
      exact ⟨other, by rwa [if_neg hne], hrunId⟩
  | @insertRecord i creation hphase =>
    intro runId j hj
    obtain ⟨other, hother, hrunId⟩ := h runId j hj
    by_cases hij : j = i
    · subst hij
      cases hphase.symm.trans hother
      exact ⟨_, update_self .., hrunId⟩
    · exact ⟨other, by simpa [Server.insertRecord, Server.setCreate, hij] using hother, hrunId⟩
  | execute => exact h
  | updateRecord =>
    unfold Server.updateRecord
    split <;> exact h
  | removeCancellation =>
    intro runId j hj
    simp only [Server.removeCancellation, Server.setTask, get?_erase] at hj
    exact h runId j (Option.filter_eq_some_iff.1 hj).1
  | getRun => exact h
  | cancelRun =>
    unfold cancelRun
    split <;> exact h

theorem flagsOwned_of_reachable {config s}
    (hreach : Reachable (Step config) Server.initial s) : FlagsOwned s :=
  Reachable.invariant (P := FlagsOwned) (by simp [FlagsOwned, Server.initial])
    (fun _ _ _ h hstep => h.step hstep) hreach

/-- Two runs never share a flag. -/
theorem FlagsOwned.injective {s} (h : FlagsOwned s) {runId runId' i}
    (hi : s.cancellations.get? runId = some i) (hi' : s.cancellations.get? runId' = some i) :
    runId = runId' := by
  obtain ⟨phase, hphase, hrunId⟩ := h runId i hi
  obtain ⟨phase', hphase', hrunId'⟩ := h runId' i hi'
  cases hphase.symm.trans hphase'
  exact Option.mem_unique hrunId hrunId'

/-! ## The answer to a request -/

variable {record : MctsRunRecord}

section Answers

variable {t runId : String} {s : Server}

/-- A state in which another tenant has a run under an id that is free, or taken by another
tenant's run, here. -/
def Server.withForeign (s : Server) (t runId : String) : Server :=
  { s with
    runs := s.runs.upsert runId
      { runId, status := .running
        request := ⟨"mcts", "mock", none, none, runId, none, .null⟩
        rootStatePrepared := false
        rootStateId := none
        outcome := none
        error := none
        creator := .tenant (t ++ "+") "principal" ⟨none, [], none⟩ } }

/-- The same state without the run. -/
def Server.without (s : Server) (runId : String) : Server :=
  { s with runs := s.runs.erase fun key _ => key = runId }

theorem other_ne (t) : t ++ "+" ≠ t := by
  intro h
  have := congrArg String.length h
  simp at this

section

variable (hfree : ∀ record, s.runs.get? runId = some record → record.Foreign t)
include hfree

theorem alike_withForeign :
    Alike t s (s.withForeign t runId) := by
  intro key record hown
  refine ⟨?_, fun _ => rfl⟩
  simp only [Server.withForeign, get?_upsert]
  by_cases hkey : key = runId
  · subst hkey
    rw [if_pos rfl]
    constructor
    · exact fun h => absurd (hfree record h) hown
    · intro h
      obtain rfl := Option.some.inj h
      exact absurd ⟨_, rfl, other_ne t⟩ hown
  · rw [if_neg hkey]

theorem alike_without :
    Alike t s (s.without runId) := by
  intro key record hown
  refine ⟨?_, fun _ => rfl⟩
  simp only [Server.without, get?_erase]
  by_cases hkey : key = runId
  · subst hkey
    constructor
    · exact fun h => absurd (hfree record h) hown
    · intro h
      cases hget : s.runs.get? key <;> simp [hget] at h
  · cases s.runs.get? key <;> simp [hkey]

end

/-- **The answers name everybody's runs.**  A route whose answer tells a run that is there from
one that is not answers alike only about a run that is not another tenant's. -/
theorem permitted_of_same_answer (answer : Server → Except MctsApiError MctsRunView)
    (hfound : ∀ s record, s.runs.get? runId = some record → ∃ view, answer s = .ok view)
    (hmissing : ∀ s, s.runs.get? runId = none → ∃ error, answer s = .error error)
    (hsame : ∀ s', Alike t s s' → answer s = answer s') :
    ∃ record, s.runs.get? runId = some record ∧ ¬record.Foreign t := by
  by_contra hnone
  have hfree : ∀ record, s.runs.get? runId = some record → record.Foreign t := by
    intro record hrec
    by_contra hown
    exact hnone ⟨record, hrec, hown⟩
  obtain ⟨view, hview⟩ := hfound (s.withForeign t runId) _
    (by rw [Server.withForeign, get?_upsert, if_pos rfl])
  obtain ⟨error, herror⟩ := hmissing (s.without runId) (by
    cases hget : s.runs.get? runId <;> simp [Server.without, get?_erase, hget])
  have h := (hsame _ (alike_withForeign hfree)).symm.trans (hsame _ (alike_without hfree))
  rw [hview, herror] at h
  cases h

theorem getRun_found (h : s.runs.get? runId = some record) :
    getRun s runId = .ok record.view := by
  simp [getRun, h]

theorem cancelRun_found (h : s.runs.get? runId = some record) :
    (cancelRun s runId).1 = .ok record.cancel.view := by
  simp [cancelRun, h]

theorem same_answer_iff {answer : Server → Except MctsApiError MctsRunView}
    {view : MctsRunRecord → MctsRunView}
    (hfound : ∀ {s record}, s.runs.get? runId = some record → answer s = .ok (view record))
    (hmissing : ∀ s, s.runs.get? runId = none → ∃ error, answer s = .error error) :
    (∀ s', Alike t s s' → answer s = answer s') ↔
      ∃ record, s.runs.get? runId = some record ∧ ¬record.Foreign t := by
  constructor
  · exact permitted_of_same_answer answer (fun s record h => ⟨_, hfound h⟩) hmissing
  · rintro ⟨record, hrec, hown⟩ s' halike
    rw [hfound hrec, hfound (((halike runId record hown).1).1 hrec)]

theorem same_get_iff : (∀ s', Alike t s s' → getRun s runId = getRun s' runId) ↔
    ∃ record, s.runs.get? runId = some record ∧ ¬record.Foreign t :=
  same_answer_iff getRun_found fun s h => ⟨_, by rw [getRun, h]⟩

theorem same_cancel_iff :
    (∀ s', Alike t s s' → (cancelRun s runId).1 = (cancelRun s' runId).1) ↔
      ∃ record, s.runs.get? runId = some record ∧ ¬record.Foreign t :=
  same_answer_iff cancelRun_found fun s h => ⟨_, by rw [cancelRun, h]⟩

end Answers

/-! ## The effect of a request -/

section Effects

variable {config : MctsLaunchConfig} {t : String} {s s' : Server} {i : Nat} {creation : Creation}

/-- A step that leaves both maps and the flags alone harms nobody. -/
theorem unharmed_of_same (hruns : s'.runs = s.runs) (hentr : s'.cancellations = s.cancellations)
    (hflags : s'.flags = s.flags) : Unharmed t s s' := by
  intro runId record hrec hfor
  exact ⟨record, by rw [hruns, hrec], hfor, rfl, by simp [Server.flagOf, hentr, hflags]⟩

theorem unharmed_cancel (hflags : FlagsOwned s) {runId}
    (hrec : s.runs.get? runId = some record) (hown : ¬record.Foreign t) :
    Unharmed t s (cancelRun s runId).2 := by
  intro other foreign hother hfor
  have hne : other ≠ runId := by
    rintro rfl
    exact hown (Option.mem_unique hrec hother ▸ hfor)
  refine ⟨foreign, ?_, hfor, rfl, ?_⟩
  · simp [cancelRun, hrec, get?_upsert, hne, hother]
  · simp only [cancelRun, hrec, Server.flagOf]
    cases hentry : s.cancellations.get? runId with
    | none => rfl
    | some flag =>
      cases hentry' : s.cancellations.get? other with
      | none => rfl
      | some flag' =>
        have hdist : flag' ≠ flag := by
          rintro rfl
          exact hne (hflags.injective hentry' hentry)
        simp [update_of_ne hdist]

theorem unharmed_insertCancellation_iff (hflags : FlagsOwned s)
    (hphase : s.creates i = some (.spawned creation)) :
    Unharmed t s (s.insertCancellation i creation) ↔
      ∀ record, s.runs.get? creation.request.runId = some record → ¬record.Foreign t := by
  have hflag : ∀ runId, (s.insertCancellation i creation).flagOf runId =
      if runId = creation.request.runId then some (i, s.flags i) else s.flagOf runId := by
    intro runId
    simp only [Server.flagOf, Server.insertCancellation, Server.setCreate, get?_upsert]
    split <;> rfl
  constructor
  · intro hunharmed record hrec hfor
    obtain ⟨_, _, _, _, hsame⟩ := hunharmed _ record hrec hfor
    rw [hflag, if_pos rfl] at hsame
    -- The call has not entered its flag before, so the entry is a new one.
    obtain ⟨flag, hentry, heq⟩ := Option.map_eq_some_iff.1 hsame.symm
    obtain rfl := (Prod.mk.inj heq).1
    obtain ⟨phase, hphase', hrunId⟩ := hflags _ flag hentry
    cases hphase.symm.trans hphase'
    cases hrunId
  · intro hown runId record hrec hfor
    refine ⟨record, hrec, hfor, rfl, ?_⟩
    rw [hflag, if_neg]
    rintro rfl
    exact hown record hrec hfor

theorem unharmed_insertRecord_iff (htenant : creation.context.tenantId = some t) :
    Unharmed t s (s.insertRecord config i creation) ↔
      ∀ record, s.runs.get? creation.request.runId = some record → ¬record.Foreign t := by
  constructor
  · intro hunharmed record hrec hfor
    obtain ⟨record', hrec', hfor', -⟩ := hunharmed _ record hrec hfor
    simp only [Server.insertRecord, Server.setCreate, get?_upsert, if_true,
      Option.some.injEq] at hrec'
    obtain ⟨other, hother, hne⟩ := hrec' ▸ hfor'
    exact hne (Option.mem_unique hother htenant)
  · intro hown runId record hrec hfor
    refine ⟨record, ?_, hfor, rfl, rfl⟩
    simp only [Server.insertRecord, Server.setCreate, get?_upsert]
    rw [if_neg, hrec]
    rintro rfl
    exact hown record hrec hfor

theorem MctsRunRecord.finish_creator {outcome} :
    (record.finish outcome).creator = record.creator := by
  unfold MctsRunRecord.finish
  repeat' split
  all_goals rfl

theorem unharmed_updateRecord_iff {runId outcome} :
    Unharmed t s (s.updateRecord i runId outcome) ↔
      ∀ record, s.runs.get? runId = some record → record.Foreign t →
        (record.finish outcome).status = record.status := by
  cases hget : s.runs.get? runId with
  | none =>
    refine iff_of_true ?_ (by simp)
    simp only [Server.updateRecord, hget]
    exact unharmed_of_same rfl rfl rfl
  | some record =>
    simp only [Server.updateRecord, hget, Option.some.injEq, forall_eq']
    constructor
    · intro hunharmed hfor
      obtain ⟨record', hrec', -, hstat, -⟩ := hunharmed runId record hget hfor
      simp only [Server.setTask, get?_upsert, if_true, Option.some.injEq] at hrec'
      exact hrec' ▸ hstat
    · intro hsame other foreign hother hfor
      simp only [Server.setTask, get?_upsert]
      by_cases hkey : other = runId
      · subst hkey
        cases hget.symm.trans hother
        refine ⟨_, if_pos rfl, ?_, hsame hfor, rfl⟩
        -- The task does not touch the creator, so the run stays the other tenant's.
        rwa [MctsRunRecord.Foreign, MctsRunRecord.finish_creator]
      · exact ⟨foreign, by rw [if_neg hkey, hother], hfor, rfl, rfl⟩

theorem unharmed_removeCancellation_iff {runId} :
    Unharmed t s (s.removeCancellation i runId) ↔
      ∀ record, s.runs.get? runId = some record → record.Foreign t →
        s.cancellations.get? runId = none := by
  have hflag : ∀ other, (s.removeCancellation i runId).flagOf other =
      if other = runId then none else s.flagOf other := by
    intro other
    simp only [Server.flagOf, Server.removeCancellation, Server.setTask, get?_erase]
    by_cases hkey : other = runId <;> cases hget : s.cancellations.get? other <;>
      simp [hkey]
  constructor
  · intro hunharmed record hrec hfor
    obtain ⟨_, _, _, _, hsame⟩ := hunharmed runId record hrec hfor
    rw [hflag, if_pos rfl] at hsame
    exact Option.map_eq_none_iff.1 hsame.symm
  · intro hnone other record hrec hfor
    refine ⟨record, hrec, hfor, rfl, ?_⟩
    rw [hflag]
    split_ifs with hkey
    · subst hkey
      simp [Server.flagOf, hnone record hrec hfor]
    · rfl

end Effects

def tenantContext : SecurityContext :=
  .tenant "a" "alice" ⟨none, [], none⟩

/-- Tenant `a` creates a run. -/
def tenantCall : List Label :=
  [.checkRun 0 (some tenantContext) sampleRequest "",
    .prepare 0 (.error ""), .launch 0 (.ok ()), .insertCancellation 0, .insertRecord 0]

end XGovernor.Mcts
