import XGovernor.Lib.TransitionSystem
import XGovernor.Mcts.Capabilities

/-!
# Jobs

A turn or a command of a plugin is a job: a task works on it and leaves its outcome in a table,
where `wait_job` looks for it.  The entry of a turn has two writers.  The task is spawned first,
and the call that spawned it then enters the job as running; which of them is first is up to the
scheduler.
-/

namespace XGovernor.Mcts

open Lib Function

structure HostJobOutcome where
  status : JobStatus
  output : String
  exitCode : Option Int
  usage : List (String × Nat)
  failure : Option Failure
  deriving DecidableEq

def HostJobOutcome.terminal (outcome : HostJobOutcome) : Bool :=
  outcome.status = .completed || outcome.status = .failed

def runningJob : HostJobOutcome := ⟨.running, "", none, [], none⟩

/-! ## What a task makes of what it is told -/

/-- Input, output and total tokens, if they are known. -/
abbrev SessionUsageReport := Option (Nat × Nat × Nat)

def usageToMap : SessionUsageReport → List (String × Nat)
  | none => []
  | some (input, output, total) =>
    [("input_tokens", input), ("output_tokens", output), ("total_tokens", total)]

inductive SessionEvent where
  | outputDelta (delta : String)
  | toolActivity (summary : Option String)
  | turnCompleted (usage : SessionUsageReport)
  | turnFailed (message : String) (usage : SessionUsageReport)
  | interactionRequested (prompt : String)
  | extension
  /-- The stream was closed. -/
  | closed

/-- One turn of the loop of `drain_turn_events`: the output so far, or the outcome. -/
def drainEvent (output : String) : SessionEvent → String ⊕ HostJobOutcome
  | .outputDelta delta => .inl (output ++ delta)
  | .toolActivity summary => .inl (output ++ summary.elim "" (· ++ "\n"))
  | .turnCompleted usage => .inr ⟨.completed, output, some 0, usageToMap usage, none⟩
  | .turnFailed message usage =>
    .inr ⟨.failed, output, none, usageToMap usage, some ⟨"turn-failed", message⟩⟩
  | .interactionRequested prompt => .inl (output ++ "interaction requested: " ++ prompt ++ "\n")
  | .extension => .inl output
  | .closed => .inr ⟨.failed, output, none, [],
      some ⟨"event-stream-closed", "runtime event stream closed before terminal event"⟩⟩

structure SessionExecResult where
  stdout : String
  stderr : String
  exitCode : Option Int
  timedOut : Bool

/-- The outcome of a command. -/
def execOutcome : Except String SessionExecResult → HostJobOutcome
  | .ok result =>
    { status := if result.timedOut then .failed else .completed
      output := result.stdout ++ result.stderr
      exitCode := result.exitCode
      usage := []
      failure := if result.timedOut then some ⟨"exec-timed-out", "mcts exec timed out"⟩ else none }
  | .error error => ⟨.failed, error, none, [], some ⟨"exec-failed", error⟩⟩

/-! ## The host -/

inductive Task where
  | draining (output : String)
  | executing
  | ended (outcome : HostJobOutcome)

/-- A job: whether the call that made it has returned, and how far its task is. -/
structure Job where
  accepted : Bool
  task : Task

structure JobHost where
  /-- `next_job`; job ids are these numbers behind `mcts-job-`. -/
  next : Nat
  cancelled : Bool
  /-- The table. -/
  jobs : Nat → Option HostJobOutcome
  /-- The jobs that were made. -/
  made : Nat → Option Job

inductive JobEvent where
  /-- `agent_turn` up to the spawning of the task. -/
  | agentTurn
  /-- `agent_turn` for a submission without an event stream. -/
  | duplicate
  /-- `agent_turn` enters the job and returns. -/
  | storeJob (id : Nat)
  | exec
  | received (id : Nat) (event : SessionEvent)
  | executed (id : Nat) (result : Except String SessionExecResult)
  | cancel

namespace JobHost

def initial : JobHost := ⟨1, false, fun _ => none, fun _ => none⟩

def make (s : JobHost) (job : Job) : JobHost :=
  { s with next := s.next + 1, made := update s.made s.next (some job) }

/-- The task leaves its outcome. -/
def finish (s : JobHost) (id : Nat) (job : Job) (outcome : HostJobOutcome) : JobHost :=
  { s with
    jobs := update s.jobs id (some outcome)
    made := update s.made id (some { job with task := .ended outcome }) }

def step (s : JobHost) : JobEvent → Option JobHost
  | .agentTurn => some (s.make ⟨false, .draining ""⟩)
  | .duplicate => some { s with next := s.next + 1 }
  | .storeJob id =>
    match s.made id with
    | some ⟨false, task⟩ => some { s with
        jobs := update s.jobs id (some runningJob)
        made := update s.made id (some ⟨true, task⟩) }
    | _ => none
  | .exec => some (s.make ⟨true, .executing⟩)
  | .received id event =>
    match s.made id with
    | some ⟨accepted, .draining output⟩ =>
      match drainEvent output event with
      | .inl output => some { s with
          made := update s.made id (some ⟨accepted, .draining output⟩) }
      | .inr outcome => some (s.finish id ⟨accepted, .draining output⟩ outcome)
    | _ => none
  | .executed id result =>
    match s.made id with
    | some ⟨accepted, .executing⟩ =>
      some (s.finish id ⟨accepted, .executing⟩ (execOutcome result))
    | _ => none
  | .cancel => some { s with cancelled := true }

/-- One turn of the loop of `wait_job`. -/
def pollJob (s : JobHost) (runId : String) (id : Nat) :
    Option (Except PluginHostError HostJobOutcome) :=
  if s.cancelled then some (.error (.cancelled ("mcts run " ++ runId ++
    " cancelled while waiting for job mcts-job-" ++ toString id)))
  else ((s.jobs id).filter HostJobOutcome.terminal).map .ok

end JobHost

abbrev JobStep (s : JobHost) (event : JobEvent) (s' : JobHost) : Prop := s.step event = some s'

/-! ## Finished jobs -/

/-- How the job ended, if it did. -/
def JobHost.endedWith (s : JobHost) (id : Nat) : Option HostJobOutcome :=
  (s.made id).bind fun job =>
    match job.task with
    | .ended outcome => some outcome
    | _ => none

/-- A turn ends only after `agent_turn` has entered its job. -/
def EntersFirst (s : JobHost) : JobEvent → Prop
  | .received id event => ∀ job output outcome, s.made id = some job →
      job.task = .draining output → drainEvent output event = .inr outcome → job.accepted = true
  | _ => True

/-- What the table says about a job. -/
def Entered : Option Job → Option HostJobOutcome → Prop
  | none, entry => entry = none
  | some ⟨_, .draining _⟩, entry => ∀ outcome ∈ entry, outcome.terminal = false
  | some ⟨accepted, .executing⟩, entry => accepted = true ∧ entry = none
  | some ⟨accepted, .ended outcome⟩, entry =>
    accepted = true ∧ outcome.terminal = true ∧ entry = some outcome

structure Settled (s : JobHost) : Prop where
  fresh : ∀ id, s.next ≤ id → s.made id = none
  entered : ∀ id, Entered (s.made id) (s.jobs id)

/-- The entries of finished jobs are the same. -/
def KeepsFinished (s s' : JobHost) : Prop :=
  ∀ id outcome, s.jobs id = some outcome → outcome.terminal = true → s'.jobs id = some outcome

section

variable {s s' : JobHost} {id : Nat} {job : Job} {entry : Option HostJobOutcome}

theorem Settled.initial : Settled .initial := ⟨fun _ _ => rfl, fun _ => rfl⟩

theorem drainEvent_terminal {output event outcome}
    (h : drainEvent output event = .inr outcome) : outcome.terminal = true := by
  cases event <;> cases h <;> rfl

theorem execOutcome_terminal (result : Except String SessionExecResult) :
    (execOutcome result).terminal = true := by
  rcases result with error | ⟨_, _, _, _ | _⟩ <;> rfl

section

variable (h : Settled s)
include h

theorem Settled.lt (hid : s.made id = some job) : id < s.next := by
  by_contra hle
  cases (h.fresh id (Nat.le_of_not_lt hle)).symm.trans hid

theorem Settled.entered_of {made} (hid : s.made id = made) :
    Entered made (s.jobs id) :=
  hid ▸ h.entered id

/-- One job changes, and its entry unless that is final. -/
theorem Settled.change (hnext : s.next ≤ s'.next) (hid : id < s'.next)
    (hmade : s'.made = update s.made id (some job)) (hjobs : s'.jobs = update s.jobs id entry)
    (hent : Entered (some job) entry)
    (hopen : entry = s.jobs id ∨ ∀ outcome ∈ s.jobs id, outcome.terminal = false) :
    Settled s' ∧ KeepsFinished s s' := by
  refine ⟨⟨fun other hother => ?_, fun other => ?_⟩, fun other outcome hentry hterm => ?_⟩
  · rw [hmade, update_of_ne (by omega)]
    exact h.fresh other (Nat.le_trans hnext hother)
  · rw [hmade, hjobs]
    by_cases heq : other = id
    · simpa [heq] using hent
    · simpa [heq] using h.entered other
  · rw [hjobs]
    by_cases heq : other = id
    · subst heq
      rcases hopen with rfl | hopen
      · simpa using hentry
      · cases (hopen outcome hentry).symm.trans hterm
    · simpa [heq] using hentry

theorem Settled.step {event} (hfirst : EntersFirst s event)
    (hstep : JobStep s event s') : Settled s' ∧ KeepsFinished s s' := by
  -- an entry is replaced only where there is none, or one that is not terminal
  have hnothing : ∀ id, s.jobs id = none → ∀ outcome ∈ s.jobs id, outcome.terminal = false := by
    intro id hnone outcome hentry
    cases hnone.symm.trans hentry
  cases event with
  | agentTurn | exec =>
    cases hstep
    have hfree : s.jobs s.next = none := h.entered_of (h.fresh _ (Nat.le_refl _))
    refine h.change (Nat.le_succ _) (Nat.lt_succ_self _) rfl (update_eq_self s.next s.jobs).symm
      ?_ (.inl rfl)
    simp [Entered, hfree]
  | duplicate =>
    cases hstep
    exact ⟨⟨fun id hid => h.fresh id (Nat.le_of_succ_le hid), h.entered⟩, fun _ _ h _ => h⟩
  | cancel =>
    cases hstep
    exact ⟨⟨h.fresh, h.entered⟩, fun _ _ h _ => h⟩
  | storeJob id =>
    rcases hjob : s.made id with _ | ⟨_ | _, task⟩ <;>
      simp only [JobStep, JobHost.step, hjob] at hstep <;> cases hstep
    have hent := h.entered_of hjob
    cases task with
    | draining output =>
      refine h.change (Nat.le_refl _) (h.lt hjob) rfl rfl ?_ (.inr hent)
      rintro _ ⟨⟩
      rfl
    | executing | ended => cases hent.1
  | received id event =>
    rcases hjob : s.made id with _ | ⟨accepted, output | _ | _⟩ <;>
      simp only [JobStep, JobHost.step, hjob] at hstep <;> try cases hstep
    have hent := h.entered_of hjob
    split at hstep <;> cases hstep
    · exact h.change (Nat.le_refl _) (h.lt hjob) rfl (update_eq_self id s.jobs).symm hent
        (.inl rfl)
    -- the last event ends the job, which the call has entered before by assumption
    next outcome hdrain =>
      exact h.change (Nat.le_refl _) (h.lt hjob) rfl rfl
        ⟨hfirst _ _ _ hjob rfl hdrain, drainEvent_terminal hdrain, rfl⟩ (.inr hent)
  | executed id result =>
    rcases hjob : s.made id with _ | ⟨accepted, _ | _ | _⟩ <;>
      simp only [JobStep, JobHost.step, hjob] at hstep <;> cases hstep
    have hent := h.entered_of hjob
    exact h.change (Nat.le_refl _) (h.lt hjob) rfl rfl
      ⟨hent.1, execOutcome_terminal result, rfl⟩ (.inr (hnothing id hent.2))

/-- What a poll finds of an accepted job. -/
theorem Settled.poll (hjob : s.made id = some job)
    (hrunning : s.cancelled = false) (runId : String) :
    s.pollJob runId id = (s.endedWith id).map .ok := by
  have hent := h.entered_of hjob
  simp only [JobHost.pollJob, JobHost.endedWith, hrunning, hjob]
  rcases job with ⟨accepted, output | _ | outcome⟩
  · cases hentry : s.jobs id with
    | none => rfl
    | some outcome => simp [hent outcome hentry]
  · simp [hent.2]
  · simp [hent.2.1, hent.2.2]

end

end

/-- **A finished job stays finished**: in every run in which no turn ends before its job is
entered, no step changes the entry of a finished job, and in the state it leads to `wait_job` gets
the outcome of a job as soon as its turn or command has ended, and polls again before that. -/
theorem finished_stays (tr : List (JobHost × JobEvent)) (s : JobHost)
    (hrun : Run JobStep .initial tr s) (hfirst : ∀ e ∈ tr, EntersFirst e.1 e.2) :
    (∀ e ∈ tr, ∀ s', JobStep e.1 e.2 s' → ∀ id outcome, e.1.jobs id = some outcome →
      outcome.terminal = true → s'.jobs id = some outcome) ∧
    ∀ id job runId, s.made id = some job → s.cancelled = false →
      s.pollJob runId id = (s.endedWith id).map .ok := by
  constructor
  · intro e he s' hs'
    have hsettled := hrun.invariant_at Settled.initial
      (fun _ _ _ h hfirst hstep => (h.step hfirst hstep).1) hfirst e he
    exact (hsettled.step (hfirst e he) hs').2
  · intro id job runId hjob hrunning
    have hsettled := (hrun.restrict hfirst).invariant Settled.initial
      fun _ _ _ h hstep => (h.step hstep.2 hstep.1).1
    exact hsettled.poll hjob hrunning runId

/-- A turn that ends after its job is entered: the poll finds its outcome. -/
theorem entered_turn_stays : ∃ tr s, Run JobStep .initial tr s ∧
    (∀ e ∈ tr, EntersFirst e.1 e.2) ∧ (s.endedWith 1).isSome ∧
    s.pollJob "run" 1 = (s.endedWith 1).map .ok := by
  have hsched : Along JobHost.step EntersFirst
      (fun s => (s.made 1).isSome ∧ !s.cancelled ∧ (s.endedWith 1).isSome)
      .initial [.agentTurn, .storeJob 1, .received 1 (.turnCompleted none)] := by
    refine ⟨trivial, trivial, ?_, rfl, rfl, rfl⟩
    rintro _ _ _ ⟨⟩ - -
    rfl
  obtain ⟨tr, s, hrun, hfirst, hjob, hrunning, hended⟩ := hsched.run fun _ _ _ => id
  obtain ⟨job, hjob⟩ := Option.isSome_iff_exists.1 hjob
  exact ⟨tr, s, hrun, hfirst, hended,
    (finished_stays tr s hrun hfirst).2 1 job "run" hjob (by simpa using hrunning)⟩

/-- A turn that ends at once: its outcome is replaced by the entry of a running job. -/
theorem early_turn_lost : ∃ tr s, Run JobStep .initial tr s ∧
    (∃ e ∈ tr, (e.1.jobs 1).any HostJobOutcome.terminal = true) ∧
    s.jobs 1 = some runningJob ∧ (s.endedWith 1).isSome ∧ s.pollJob "run" 1 = none := by
  have hended : Run JobStep .initial _ _ :=
    .snoc (l := .received 1 (.turnCompleted none)) (.snoc (l := .agentTurn) .nil rfl) rfl
  exact ⟨_, _, .snoc (l := .storeJob 1) hended rfl,
    ⟨_, List.mem_append_right _ (List.mem_singleton_self _), rfl⟩, rfl, rfl, rfl⟩

end XGovernor.Mcts
