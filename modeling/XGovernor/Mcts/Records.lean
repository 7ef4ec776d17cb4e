import XGovernor.Mcts.Http
import XGovernor.Mcts.Outcome

/-!
# The record of a finished run

A call that creates a run spawns the task before it writes the record, and the lookup of the run
id is separated from the write by an await.  A task that is fast enough therefore finds no record
to finish, and two calls with one run id may both find it free.  Where neither happens, the record
of every finished run is there, with a terminal status, and its cancellation entry is gone.
-/

namespace XGovernor.Mcts

open Lib App Function Table CreatePhase

variable {phase : CreatePhase} {runId : String} {request : MctsRunRequest}
  {outcome : Except PluginHostError MctsRunOutcome} {creation : Creation} {env : Environment}
  {task : TaskPhase}

/-! ## What is proved of the runs -/

/-- **Finished runs are settled.**  When a successful call and its task have both ended, the
record is terminal and the cancellation entry is gone. -/
def RunsSettled (s : Server) : Prop :=
  ∀ i view runId, s.creates i = some (.returned (.ok view)) → s.tasks i = some (.done runId) →
    (∃ record, s.runs.get? view.runId = some record ∧ record.status.isTerminal = true) ∧
      s.cancellations.get? view.runId = none

/-- At most one call for a run id succeeds. -/
def CreatesUnique (s : Server) : Prop :=
  ∀ i j view view', s.creates i = some (.returned (.ok view)) →
    s.creates j = some (.returned (.ok view')) → view.runId = view'.runId → i = j

namespace CreatePhase

/-- The run id of a call between its lookup and its write. -/
def pending? : CreatePhase → Option String
  | checked creation | prepared creation | spawned creation | flagged creation =>
    some creation.request.runId
  | returned _ => none

/-- The run id of a call that was not refused. -/
def runId? : CreatePhase → Option String
  | checked creation | prepared creation | spawned creation | flagged creation =>
    some creation.request.runId
  | returned (.ok view) => some view.runId
  | returned (.error _) => none

/-- The call has passed the point where its task is spawned. -/
def launched : CreatePhase → Bool
  | checked _ | prepared _ => false
  | spawned _ | flagged _ | returned _ => true

end CreatePhase

/-- **The order the handlers rely on.**  A call looks its run id up only while no other call is
between the lookup and the write for that id, and a task writes its outcome only after the call
that spawned it has written the record. -/
def InOrder (s : Server) : Label → Prop
  | .checkRun _ _ request uuid => ∀ request', validateCreate request uuid = .ok request' →
      ∀ j phase, s.creates j = some phase → phase.pending? ≠ some request'.runId
  | .updateRecord i => ∃ result, s.creates i = some (.returned result)
  | _ => True

/-! ## The invariant -/

/-- What the phase of a task says about its call and its record. -/
def TaskFits (s : Server) (phase : CreatePhase) : TaskPhase → Prop
  | .executing request => phase.launched = true ∧ phase.runId? = some request.runId
  | .executed request outcome => phase.launched = true ∧ phase.runId? = some request.runId ∧
      ∀ o, outcome = .ok o → o.status.isTerminal = true
  | .updated runId _ => phase.pending? = none ∧ phase.runId? = some runId ∧
      ∃ record, s.runs.get? runId = some record ∧ record.status.isTerminal = true
  | .done runId => phase.pending? = none ∧ phase.runId? = some runId ∧
      (∃ record, s.runs.get? runId = some record ∧ record.status.isTerminal = true) ∧
      s.cancellations.get? runId = none

structure Tidy (s : Server) : Prop where
  unique : ∀ i j phase phase' runId, s.creates i = some phase → s.creates j = some phase' →
    phase.runId? = some runId → phase'.runId? = some runId → i = j
  absent : ∀ i phase runId, s.creates i = some phase → phase.pending? = some runId →
    s.runs.get? runId = none
  present : ∀ i phase runId, s.creates i = some phase → phase.pending? = none →
    phase.runId? = some runId → ∃ record, s.runs.get? runId = some record
  task : ∀ i task, s.tasks i = some task → ∃ phase, s.creates i = some phase ∧ TaskFits s phase task

theorem CreatePhase.runId?_of_pending (h : phase.pending? = some runId) :
    phase.runId? = some runId := by
  cases phase <;> simp_all [pending?, runId?]

/-- A task exists only once its call has spawned it. -/
theorem TaskFits.launched {s} (h : TaskFits s phase task) :
    phase.launched = true := by
  cases task with
  | executing | executed => exact h.1
  | updated | done =>
    obtain ⟨hpend, -⟩ := h
    cases phase <;> simp_all [pending?, launched]

theorem Tidy.initial : Tidy Server.initial where
  unique := by simp [Server.initial]
  absent := by simp [Server.initial]
  present := by simp [Server.initial]
  task := by simp [Server.initial]

/-- The outcomes a task writes are terminal. -/
theorem terminal_of_execute {outcome} (h : execute request env = some (.ok outcome)) :
    outcome.status.isTerminal = true := by
  unfold execute at h
  split at h
  · simp at h
  · split at h
    · cases h
    · simp at h
    · rename_i hloop
      obtain ⟨view, -, -, hterm, hverd⟩ := sound_of_runLoop hloop
      simp only [Option.some.injEq, Except.ok.injEq] at h
      simp only [RunProgress.verdict, Prod.mk.injEq] at hverd
      rw [← h, ← hverd.1]
      exact hterm

theorem MctsRunRecord.terminal_finish (record : MctsRunRecord)
    (hout : ∀ o, outcome = .ok o → o.status.isTerminal = true) :
    (record.finish outcome).status.isTerminal = true := by
  unfold finish
  split
  · rename_i hstat
    rw [hstat]
    rfl
  · cases outcome with
    | ok outcome => exact hout outcome rfl
    | error error => rfl

theorem MctsRunRecord.terminal_cancel (record : MctsRunRecord) :
    record.cancel.status.isTerminal = true := by
  unfold cancel
  split
  · rename_i hstat
    rcases hstat with hstat | hstat <;> rw [hstat] <;> rfl
  · rfl

section Steps

variable {config : MctsLaunchConfig} {s : Server} {i : Nat}

/-- A call whose phase changes without a write: it stands for the same run as before, or it was
refused before its task was spawned. -/
theorem Tidy.setCreate (h : Tidy s) {phase'} (hphase : s.creates i = some phase)
    (hsame : phase'.pending? = phase.pending? ∧ phase'.runId? = phase.runId? ∧
        (phase.launched = true → phase'.launched = true) ∨
      phase'.pending? = none ∧ phase'.runId? = none ∧ phase.launched = false) :
    Tidy (s.setCreate i phase') := by
  obtain ⟨huniq, habs, hpres, htask⟩ := h
  constructor <;> simp only [Server.setCreate, update_apply]
  · grind
  · grind
  · grind
  · intro j task hj
    obtain ⟨other, hj', hfits⟩ := htask j task hj
    have hlaunched := hfits.launched
    cases task <;> simp only [TaskFits] at hfits ⊢ <;> grind

theorem Tidy.checkRun (h : Tidy s) {context uuid}
    (hnew : s.creates i = none) (horder : InOrder s (.checkRun i context request uuid)) :
    Tidy (s.checkRun i context request uuid) := by
  -- A call that is refused at once never stands for a run.
  have href : ∀ error, Tidy (s.setCreate i (.returned (.error error))) := by
    obtain ⟨huniq, habs, hpres, htask⟩ := h
    intro error
    constructor <;> simp only [Server.setCreate, update_apply]
    · grind [runId?]
    · grind [pending?]
    · grind [runId?]
    · intro j task hj
      obtain ⟨other, hj', hfits⟩ := htask j task hj
      exact ⟨other, by grind, hfits⟩
  unfold Server.checkRun
  split
  · exact href _
  · rename_i request' hvalid
    split
    · exact href _
    · rename_i hfree
      rw [Option.not_isSome_iff_eq_none] at hfree
      have hpend := horder request' hvalid
      obtain ⟨huniq, habs, hpres, htask⟩ := h
      -- No call that was not refused stands for this run id: it has neither a record nor a
      -- pending write.
      have hfresh : ∀ j phase, s.creates j = some phase → phase.runId? ≠ some request'.runId := by
        intro j phase hj hrunId
        cases hphase : phase.pending? with
        | none =>
          obtain ⟨record, hrec⟩ := hpres j phase _ hj hphase hrunId
          simp [hrec] at hfree
        | some runId =>
          refine hpend j phase hj ?_
          rw [hphase, ← hrunId, runId?_of_pending hphase]
      constructor <;> simp only [Server.setCreate, update_apply]
      · grind [runId?]
      · grind [pending?]
      · grind [pending?]
      · intro j task hj
        obtain ⟨other, hj', hfits⟩ := htask j task hj
        exact ⟨other, by grind, hfits⟩

theorem runId_of_prepareRootState {request' prepared answer}
    (h : prepareRootState config request answer = .ok (request', prepared)) :
    request'.runId = request.runId := by
  unfold prepareRootState at h
  grind

section

variable (h : Tidy s)
include h

theorem Tidy.prepare {prepared} (hphase : s.creates i = some (.checked creation)) :
    Tidy (s.prepare config i creation prepared) := by
  unfold Server.prepare
  split
  · exact h.setCreate hphase (.inr ⟨rfl, rfl, rfl⟩)
  · rename_i hprep
    have hrunId := runId_of_prepareRootState hprep
    refine h.setCreate hphase (.inl ⟨?_, ?_, ?_⟩) <;>
      simp [pending?, runId?, launched, hrunId]

theorem Tidy.launch {host} (hphase : s.creates i = some (.prepared creation)) :
    Tidy (s.launch config i creation host) := by
  unfold Server.launch
  split
  · split
    · exact h.setCreate hphase (.inr ⟨rfl, rfl, rfl⟩)
    · split
      · exact h.setCreate hphase (.inr ⟨rfl, rfl, rfl⟩)
      · obtain ⟨huniq, habs, hpres, htask⟩ := h
        constructor <;> simp only [Server.setCreate, Server.setTask, update_apply]
        · grind [runId?]
        · grind [pending?]
        · grind [pending?]
        · intro j task hj
          by_cases hij : j = i
          · subst hij
            rw [if_pos rfl] at hj ⊢
            obtain rfl := Option.some.inj hj
            exact ⟨_, rfl, rfl, rfl⟩
          · rw [if_neg hij] at hj ⊢
            exact htask j task hj
  · exact h.setCreate hphase (.inl ⟨rfl, rfl, fun _ => rfl⟩)

theorem Tidy.insertCancellation (hphase : s.creates i = some (.spawned creation)) :
    Tidy (s.insertCancellation i creation) := by
  obtain ⟨huniq, habs, hpres, htask⟩ := h
  constructor <;> simp only [Server.insertCancellation, Server.setCreate, update_apply]
  · grind [runId?]
  · grind [pending?]
  · grind [pending?, runId?]
  · intro j task hj
    obtain ⟨phase, hj', hfits⟩ := htask j task hj
    cases task <;> simp only [TaskFits] at hfits ⊢ <;>
      grind [pending?, runId?, launched, get?_upsert]

theorem Tidy.insertRecord (hphase : s.creates i = some (.flagged creation)) :
    Tidy (s.insertRecord config i creation) := by
  obtain ⟨huniq, habs, hpres, htask⟩ := h
  have hrunId : (creation.record config).view.runId = creation.request.runId := rfl
  constructor <;> simp only [Server.insertRecord, Server.setCreate, update_apply, get?_upsert]
  · grind [runId?]
  · grind [pending?, runId?, runId?_of_pending]
  · intro j phase runId hj hpend hphase'
    by_cases hkey : runId = creation.request.runId
    · exact ⟨_, if_pos hkey⟩
    · grind [runId?]
  · intro j task hj
    obtain ⟨phase, hj', hfits⟩ := htask j task hj
    cases task <;> simp only [TaskFits, get?_upsert] at hfits ⊢ <;>
      grind [pending?, runId?, launched]

/-- A task that gets on without a write to the records. -/
theorem Tidy.setTask (htask : ∃ phase, s.creates i = some phase ∧ TaskFits s phase task) :
    Tidy (s.setTask i task) where
  unique := h.unique
  absent := h.absent
  present := h.present
  task := by
    intro j other hj
    rcases update_cases hj with ⟨rfl, ⟨⟩⟩ | ⟨-, hj⟩
    · exact htask
    · exact h.task j other hj

/-- A record that is there may be replaced by a terminal one. -/
theorem Tidy.finishRecord {old record}
    (hold : s.runs.get? runId = some old) (hterm : record.status.isTerminal = true) :
    Tidy { s with runs := s.runs.upsert runId record } := by
  obtain ⟨huniq, habs, hpres, htask⟩ := h
  constructor <;> simp only [get?_upsert]
  · exact huniq
  · grind
  · grind
  · intro j task hj
    obtain ⟨phase, hj', hfits⟩ := htask j task hj
    refine ⟨phase, hj', ?_⟩
    cases task <;> simp only [TaskFits, get?_upsert] at hfits ⊢ <;> grind

theorem Tidy.execute (hphase : s.tasks i = some (.executing request))
    (hout : execute request env = some outcome) :
    Tidy (s.setTask i (.executed request outcome)) := by
  obtain ⟨phase, hcreate, hlaunched, hrunId⟩ := h.task i _ hphase
  refine h.setTask ⟨phase, hcreate, hlaunched, hrunId, ?_⟩
  rintro o rfl
  exact terminal_of_execute hout

theorem Tidy.updateRecord (hphase : s.tasks i = some (.executed request outcome))
    (horder : InOrder s (.updateRecord i)) :
    Tidy (s.updateRecord i request.runId outcome) := by
  obtain ⟨phase, hcreate, -, hrunId, hout⟩ := h.task i _ hphase
  obtain ⟨result, hret⟩ := horder
  obtain rfl : phase = .returned result := Option.mem_unique hcreate hret
  -- The call has returned, so there is a record to update.
  obtain ⟨record, hrec⟩ := h.present i _ _ hcreate rfl hrunId
  have hterm := record.terminal_finish hout
  rw [Server.updateRecord, hrec]
  refine (h.finishRecord hrec hterm).setTask ⟨_, hcreate, rfl, hrunId, _, ?_, hterm⟩
  rw [get?_upsert, if_pos rfl]

theorem Tidy.removeCancellation {preparedStateId}
    (hphase : s.tasks i = some (.updated runId preparedStateId)) :
    Tidy (s.removeCancellation i runId) := by
  obtain ⟨phase, hcreate, hpend, hrunId, hrec⟩ := h.task i _ hphase
  have herased :
      Tidy { s with cancellations := s.cancellations.erase fun key _ => key = runId } := by
    obtain ⟨huniq, habs, hpres, htask⟩ := h
    refine ⟨huniq, habs, hpres, ?_⟩
    intro j task hj
    obtain ⟨other, hj', hfits⟩ := htask j task hj
    refine ⟨other, hj', ?_⟩
    cases task <;> simp only [TaskFits, get?_erase] at hfits ⊢ <;> grind
  refine herased.setTask ⟨phase, hcreate, hpend, hrunId, hrec, ?_⟩
  cases hentry : s.cancellations.get? runId <;> simp [get?_erase, hentry]

theorem Tidy.cancelRun (runId) : Tidy (cancelRun s runId).2 := by
  unfold Mcts.cancelRun
  split
  · exact h
  · rename_i record hrec
    obtain ⟨huniq, habs, hpres, htask⟩ := h.finishRecord hrec record.terminal_cancel
    exact ⟨huniq, habs, hpres, htask⟩

/-- **Every step in order keeps the records tidy.** -/
theorem Tidy.step {label s'} (hstep : Step config s label s') (horder : InOrder s label) :
    Tidy s' := by
  cases hstep with
  | checkRun hnew => exact h.checkRun hnew horder
  | prepare hphase => exact h.prepare hphase
  | launch hphase => exact h.launch hphase
  | insertCancellation hphase => exact h.insertCancellation hphase
  | insertRecord hphase => exact h.insertRecord hphase
  | execute hphase hout => exact h.execute hphase hout
  | updateRecord hphase => exact h.updateRecord hphase horder
  | removeCancellation hphase => exact h.removeCancellation hphase
  | getRun => exact h
  | cancelRun => exact h.cancelRun _

theorem Tidy.settled : RunsSettled s := by
  intro i view runId hcreate htask
  obtain ⟨phase, hcreate', -, hrunId, hrec, hentry⟩ := h.task i _ htask
  cases hcreate.symm.trans hcreate'
  obtain rfl : view.runId = runId := Option.some.inj hrunId
  exact ⟨hrec, hentry⟩

theorem Tidy.creates_unique : CreatesUnique s := by
  intro i j view view' hi hj hsame
  exact h.unique i j _ _ view.runId hi hj rfl (by simp [runId?, hsame])

end

end Steps

/-- **Runs in order settle their records.**  In every run whose lookups and updates come in the
order the handlers rely on, every finished run is settled and no run id is created twice. -/
theorem records_settled (config : MctsLaunchConfig) (tr : List (Server × Label)) (s : Server)
    (hrun : Run (Step config) Server.initial tr s) (horder : ∀ e ∈ tr, InOrder e.1 e.2) :
    RunsSettled s ∧ CreatesUnique s := by
  have htidy : Tidy s := (hrun.restrict horder).invariant Tidy.initial
    fun _ _ _ htidy hstep => htidy.step hstep.1 hstep.2
  exact ⟨htidy.settled, htidy.creates_unique⟩

/-! ## Two schedules of one request -/

/-- The call and its task, the task last. -/
def slowTask : List Label :=
  [.checkRun 0 none sampleRequest "", .prepare 0 (.error ""), .launch 0 (.ok ()),
    .insertCancellation 0, .insertRecord 0, .execute 0 brokenPlugin, .updateRecord 0,
    .removeCancellation 0]

/-- The task of the call ends before the call has written anything. -/
def fastTask : List Label :=
  [.checkRun 0 none sampleRequest "", .prepare 0 (.error ""), .launch 0 (.ok ()),
    .execute 0 brokenPlugin, .updateRecord 0, .removeCancellation 0, .insertCancellation 0,
    .insertRecord 0]

/-- Two calls look the run id up before either writes. -/
def twoCalls : List Label :=
  [.checkRun 0 none sampleRequest "", .checkRun 1 none sampleRequest "", .prepare 0 (.error ""),
    .prepare 1 (.error ""), .launch 0 (.ok ()), .launch 1 (.ok ()), .insertCancellation 0,
    .insertRecord 0, .insertCancellation 1, .insertRecord 1]

/-- The first schedule is in order: the call and its task end, and the record says so. -/
theorem slowTask_settled : ∃ tr s, Run (Step ⟨true⟩) Server.initial tr s ∧
    (∃ view, s.creates 0 = some (.returned (.ok view))) ∧ s.tasks 0 = some (.done "run") ∧
    RunsSettled s ∧ CreatesUnique s := by
  have hsched : Along (Server.next ⟨true⟩) InOrder
      (fun s => (∃ view, s.creates 0 = some (.returned (.ok view))) ∧
        s.tasks 0 = some (.done "run")) Server.initial slowTask := by
    refine ⟨?_, trivial, trivial, trivial, trivial, trivial, ⟨_, rfl⟩, trivial, ⟨_, rfl⟩, rfl⟩
    intro request' _ j phase hj
    cases hj
  obtain ⟨tr, s, hrun, horder, hcreate, htask⟩ := hsched.run step_of_next
  exact ⟨tr, s, hrun, hcreate, htask, records_settled ⟨true⟩ tr s hrun horder⟩

/-- **A fast task and a second call.**  In one run the record of the ended run stays `running` and
its cancellation entry stays; in another, two calls for one run id succeed. -/
theorem records_unsettled :
    (∃ tr s, Run (Step ⟨true⟩) Server.initial tr s ∧
      (s.runs.get? "run").map MctsRunRecord.status = some .running ∧
      s.cancellations.get? "run" = some 0 ∧ ¬RunsSettled s) ∧
    ∃ tr s, Run (Step ⟨true⟩) Server.initial tr s ∧ ¬CreatesUnique s := by
  constructor
  · have hsched : Along (Server.next ⟨true⟩) (fun _ _ => True)
        (fun s => (s.runs.get? "run").map MctsRunRecord.status = some .running ∧
          s.cancellations.get? "run" = some 0 ∧ ¬RunsSettled s) Server.initial fastTask := by
      refine ⟨trivial, trivial, trivial, trivial, trivial, trivial, trivial, trivial, rfl, rfl, ?_⟩
      intro hsettled
      have hentry : some 0 = none := (hsettled 0 _ _ rfl rfl).2
      cases hentry
    obtain ⟨tr, s, hrun, -, hfinal⟩ := hsched.run step_of_next
    exact ⟨tr, s, hrun, hfinal⟩
  · have hsched : Along (Server.next ⟨true⟩) (fun _ _ => True) (fun s => ¬CreatesUnique s)
        Server.initial twoCalls := by
      refine ⟨trivial, trivial, trivial, trivial, trivial, trivial, trivial, trivial, trivial,
        trivial, ?_⟩
      intro huniq
      exact absurd (huniq 0 1 _ _ rfl rfl rfl) (by decide)
    obtain ⟨tr, s, hrun, -, hfinal⟩ := hsched.run step_of_next
    exact ⟨tr, s, hrun, hfinal⟩

end XGovernor.Mcts
