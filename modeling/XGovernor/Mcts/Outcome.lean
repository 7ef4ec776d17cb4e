import XGovernor.Mcts.Run
import Mathlib.Data.List.Induction
import Mathlib.Data.List.TakeWhile

/-!
# What the outcome of a run is made of

The progress of a run is a fold over the signals the host heard: each may carry a status, a result
or a failure, and each writes what it carries over what was there.  An outcome is coherent when
the first signal with a terminal status decides it.  Nothing in the loop protects that first
signal, so coherence is a condition on the plugin's messages; `outcome_coherent_iff` says which.
-/

namespace XGovernor.Mcts

open Domain Signal

variable {signal : Signal} {status : MctsRunStatus} {progress : RunProgress} {view view' : View}
  {arrivals : List Arrival} {env : Environment} {rest : List Arrival} {turn : Nat}

/-! ## What a signal carries -/

namespace Signal

def status? : Signal → Option MctsRunStatus
  | notified (.pluginStarted _) _ _ => some .running
  | notified (.pluginCompleted _) _ _ => some .completed
  | notified (.pluginCancelled _) _ _ => some .cancelled
  | notified (.pluginFailed _) _ _ => some .failed
  | notified .other _ _ => none
  | snapshot status =>
    if status = "completed" then some .completed
    else if status = "failed" then some .failed
    else if status = "cancelled" then some .cancelled
    else none
  | startAnswered => some .running
  | hostCancelled => some .cancelled

def result? : Signal → Option CompletionResult
  | notified (.pluginCompleted params) _ _ => some params.result
  | _ => none

def failure? : Signal → Option Failure
  | notified (.pluginFailed params) _ _ => some params.failure
  | _ => none

/-- A terminal notification, a terminal wait snapshot or the host's cancellation. -/
def isTerminal (signal : Signal) : Bool :=
  signal.status?.any MctsRunStatus.isTerminal

/-- What a signal makes of the progress. -/
def apply (signal : Signal) (progress : RunProgress) : RunProgress :=
  match signal with
  | notified notification runMap nowMs =>
    match applyNotification notification progress runMap nowMs with
    | .ok progress => progress
    | .error _ => progress
  | snapshot status => applySnapshot status progress
  | startAnswered => { progress with status := .running }
  | hostCancelled =>
    { progress with status := .cancelled, summary := some "cancelled by host" }

/-- A result is only heard after the check of its apply plan. -/
def Checked : Signal → Prop
  | notified (.pluginCompleted params) runMap nowMs =>
    ApplyPlanValidator.validate params.result params.runId runMap nowMs = .ok ()
  | _ => True

/-- The signal says again what `first` said, or says nothing. -/
def Repeats (signal first : Signal) : Prop :=
  (signal.status? = none ∨ signal.status? = first.status?) ∧
    (signal.result? = none ∨ signal.result? = first.result?) ∧
    (signal.failure? = none ∨ signal.failure? = first.failure?)

end Signal

/-- The part of the progress that says how the run ended. -/
def RunProgress.verdict (progress : RunProgress) :
    MctsRunStatus × Option CompletionResult × Option Failure :=
  (progress.status, progress.result, progress.failure)

/-- The progress after a sequence of signals. -/
def replay (heard : List Signal) : RunProgress :=
  heard.foldl (fun progress signal => signal.apply progress) {}

/-- The signals before the first terminal one. -/
def beforeTerminal (heard : List Signal) : List Signal :=
  heard.takeWhile fun signal => !signal.isTerminal

/-- The first terminal signal and all later ones. -/
def fromTerminal (heard : List Signal) : List Signal :=
  heard.dropWhile fun signal => !signal.isTerminal

/-- **Coherence of an outcome.**  The first terminal signal gives the status, a completed run has
the result of a notification that was heard and whose apply plan was checked then, a failed run
has a failure, and after the first terminal signal the status, the result and the failure stay as
they are. -/
def Coherent (outcome : MctsRunOutcome) (heard : List Signal) : Prop :=
  ∃ first after, fromTerminal heard = first :: after ∧ first.status? = some outcome.status ∧
    (outcome.status = .completed → ∃ params runMap nowMs,
      notified (.pluginCompleted params) runMap nowMs ∈ heard ∧
      outcome.result = some params.result ∧
      ApplyPlanValidator.validate params.result params.runId runMap nowMs = .ok ()) ∧
    (outcome.status = .failed → outcome.failure.isSome) ∧
    ∀ k, (replay (beforeTerminal heard ++ first :: after.take k)).verdict =
      (replay (beforeTerminal heard ++ [first])).verdict

/-- The first terminal signal is not a snapshot that claims a result or a failure without carrying
it, and every later signal repeats the first terminal one. -/
def Consistent (heard : List Signal) : Prop :=
  ∀ first after, fromTerminal heard = first :: after →
    first ≠ .snapshot "completed" ∧ first ≠ .snapshot "failed" ∧
      ∀ signal ∈ after, signal.Repeats first

/-! ## One signal -/

attribute [local simp] Signal.status? Signal.result? Signal.failure? in
/-- Every signal writes what it carries and keeps the rest. -/
theorem Signal.verdict_apply (hchk : signal.Checked) (progress) :
    (signal.apply progress).verdict =
      (signal.status?.getD progress.status, signal.result?.or progress.result,
        signal.failure?.or progress.failure) := by
  cases signal with
  | notified notification runMap nowMs =>
    cases notification with
    | pluginCompleted params =>
      simp only [Checked] at hchk
      simp [apply, applyNotification, hchk, RunProgress.verdict]
    | _ => simp [apply, applyNotification, RunProgress.verdict]
  | snapshot status =>
    simp only [apply, applySnapshot, status?, result?, failure?, RunProgress.verdict]
    split_ifs <;> simp
  | startAnswered | hostCancelled =>
    simp [apply, RunProgress.verdict]

theorem Signal.result?_of_not_terminal (hterm : signal.isTerminal = false) :
    signal.result? = none := by
  rcases signal with ⟨_ | _ | _ | _ | _, _, _⟩ | _ | _ | _ <;>
    simp_all [isTerminal, status?, result?, MctsRunStatus.isTerminal]

theorem Signal.failure?_of_not_terminal (hterm : signal.isTerminal = false) :
    signal.failure? = none := by
  rcases signal with ⟨_ | _ | _ | _ | _, _, _⟩ | _ | _ | _ <;>
    simp_all [isTerminal, status?, failure?, MctsRunStatus.isTerminal]

/-- The only snapshot with a given terminal status is the one with its text. -/
theorem Signal.status?_snapshot {text} (hstat : (snapshot text).status? = some status) :
    text = "completed" ∧ status = .completed ∨ text = "failed" ∧ status = .failed ∨
      text = "cancelled" ∧ status = .cancelled := by
  simp only [status?] at hstat
  split_ifs at hstat with hcomp hfailed hcanc
  · exact .inl ⟨hcomp, (Option.some.inj hstat).symm⟩
  · exact .inr (.inl ⟨hfailed, (Option.some.inj hstat).symm⟩)
  · exact .inr (.inr ⟨hcanc, (Option.some.inj hstat).symm⟩)

/-- A signal that ends a run as completed is the notification unless it is a snapshot. -/
theorem Signal.notified_of_completed (hstat : signal.status? = some .completed)
    (hsnap : signal ≠ .snapshot "completed") :
    ∃ params runMap nowMs, signal = .notified (.pluginCompleted params) runMap nowMs := by
  cases signal with
  | notified notification runMap nowMs => cases notification <;> simp_all [status?]
  | snapshot text =>
    obtain ⟨rfl, -⟩ | ⟨-, h⟩ | ⟨-, h⟩ := status?_snapshot hstat
    · exact absurd rfl hsnap
    · cases h
    · cases h
  | startAnswered | hostCancelled => simp [status?] at hstat

theorem Signal.failure?_of_failed (hstat : signal.status? = some .failed)
    (hsnap : signal ≠ .snapshot "failed") : signal.failure?.isSome := by
  cases signal with
  | notified notification runMap nowMs => cases notification <;> simp_all [status?, failure?]
  | snapshot text =>
    obtain ⟨-, h⟩ | ⟨rfl, -⟩ | ⟨-, h⟩ := status?_snapshot hstat
    · cases h
    · exact absurd rfl hsnap
    · cases h
  | startAnswered | hostCancelled => simp [status?] at hstat

/-- A signal leaves a verdict alone exactly when it repeats it. -/
theorem Signal.verdict_apply_eq_iff {first} (hchk : signal.Checked)
    (hfirst : first.status? = some status)
    (hprog : progress.verdict = (status, first.result?, first.failure?)) :
    (signal.apply progress).verdict = progress.verdict ↔ signal.Repeats first := by
  obtain ⟨hstat, hres, hfail⟩ :
      progress.status = status ∧ progress.result = first.result? ∧
        progress.failure = first.failure? := by
    simpa [RunProgress.verdict] using hprog
  rw [verdict_apply hchk, hprog, hstat, hres, hfail, Repeats, hfirst]
  cases signal.status? <;> cases signal.result? <;> cases signal.failure? <;> simp

/-! ## All signals of a run -/

theorem replay_concat (heard : List Signal) (signal) :
    replay (heard ++ [signal]) = signal.apply (replay heard) := by
  simp [replay]

/-- What the host knows is what it heard, and every result it heard was checked. -/
structure View.Sound (view : View) : Prop where
  progress : view.progress = replay view.heard
  checked : ∀ signal ∈ view.heard, signal.Checked

theorem View.Sound.empty : View.Sound {} where
  progress := rfl
  checked := by simp

theorem View.Sound.hear (hsound : view.Sound) (hchk : signal.Checked)
    (hprog : progress = signal.apply view.progress) : (view.hear signal progress).Sound where
  progress := by
    show progress = replay (view.heard ++ [signal])
    rw [replay_concat, hprog, hsound.progress]
  checked := by
    intro other hother
    rcases List.mem_append.1 hother with hother | hother
    · exact hsound.checked other hother
    · rwa [List.mem_singleton.1 hother]

/-- A notification that was accepted is one whose result was checked. -/
theorem checked_of_applyNotification {notification progress' runMap nowMs}
    (happly : applyNotification notification progress runMap nowMs = .ok progress') :
    (notified notification runMap nowMs).Checked := by
  cases notification with
  | pluginCompleted params =>
    simp only [applyNotification] at happly
    split at happly
    · cases happly
    · rename_i hvalid
      exact hvalid
  | _ => trivial

section

variable (hsound : view.Sound)
include hsound

theorem View.Sound.dispatch {id response}
    (hdisp : Mcts.dispatch id view arrivals = some (.ok (response, view', rest))) :
    view'.Sound := by
  -- The induction follows the receive loop: only an accepted notification changes the view.
  fun_induction Mcts.dispatch id view arrivals with
  | case1 | case2 | case3 | case6 | case8 => simp at hdisp
  | case4 =>
    simp only [Option.some.injEq, Except.ok.injEq, Prod.mk.injEq] at hdisp
    exact hdisp.2.1 ▸ hsound
  | case5 | case7 =>
    rename_i ih
    exact ih hsound hdisp
  | case9 view arrival rest _ notification _ progress happly ih =>
    refine ih (hsound.hear (checked_of_applyNotification happly) ?_) hdisp
    simp [apply, happly]

theorem View.Sound.afterStart :
    (Mcts.afterStart view).Sound := by
  unfold Mcts.afterStart
  split
  · exact hsound.hear trivial rfl
  · exact hsound

theorem View.Sound.waitOnce
    (hwait : Mcts.waitOnce env turn view arrivals = some (.ok (view', rest))) : view'.Sound := by
  obtain ⟨response, answered, status, hdisp, rfl⟩ := dispatch_of_waitOnce hwait
  exact (hsound.dispatch hdisp).hear trivial rfl

/-- The wait loop is left with a terminal status, whatever its messages were. -/
theorem View.Sound.waitLoop {fuel}
    (hloop : Mcts.waitLoop env fuel turn view arrivals = some (.ok view')) :
    view'.Sound ∧ view'.progress.isTerminal = true := by
  induction fuel generalizing turn view arrivals with
  | zero => simp [Mcts.waitLoop] at hloop
  | succ fuel ih =>
    simp only [Mcts.waitLoop] at hloop
    split at hloop
    · rename_i hterm
      simp only [Option.some.injEq, Except.ok.injEq] at hloop
      exact hloop ▸ ⟨hsound, hterm⟩
    · split at hloop
      · simp only [Option.some.injEq, Except.ok.injEq] at hloop
        subst hloop
        exact ⟨hsound.hear trivial rfl, rfl⟩
      · split at hloop
        · cases hloop
        · simp at hloop
        · rename_i hwait
          exact ih (hsound.waitOnce hwait) hloop

end

/-- **An outcome is the replay of what was heard**, and its status is terminal. -/
theorem sound_of_runLoop {outcome heard} (hrun : runLoop env = some (.ok (outcome, heard))) :
    ∃ view : View, view.Sound ∧ view.heard = heard ∧ view.progress.isTerminal = true ∧
      view.progress.verdict = (outcome.status, outcome.result, outcome.failure) := by
  unfold runLoop at hrun
  split at hrun
  · simp at hrun
  · split at hrun
    · cases hrun
    · simp at hrun
    · rename_i hinitialize
      have hsound := View.Sound.empty.dispatch (dispatch_of_request hinitialize)
      split at hrun
      · simp at hrun
      · split at hrun
        · cases hrun
        · simp at hrun
        · rename_i hstart
          have hsound := (hsound.dispatch (dispatch_of_request hstart)).afterStart
          split at hrun
          · simp at hrun
          · split at hrun
            · cases hrun
            · simp at hrun
            · rename_i view hloop
              obtain ⟨hsound, hterm⟩ := hsound.waitLoop hloop
              split at hrun
              · simp at hrun
              · obtain ⟨rfl, rfl⟩ := hrun
                exact ⟨view, hsound, rfl, hterm, rfl⟩

/-! ## Before, at and after the first terminal signal -/

/-- Signals without a terminal status leave neither a terminal status nor a result nor a
failure. -/
theorem replay_of_not_terminal {heard} (hchk : ∀ signal ∈ heard, signal.Checked)
    (hbef : ∀ signal ∈ heard, signal.isTerminal = false) :
    (replay heard).isTerminal = false ∧ (replay heard).result = none ∧
      (replay heard).failure = none := by
  induction heard using List.reverseRecOn with
  | nil => exact ⟨rfl, rfl, rfl⟩
  | append_singleton heard signal ih =>
    obtain ⟨hstat, hres, hfail⟩ := ih (fun other hother => hchk other (by simp [hother]))
      (fun other hother => hbef other (by simp [hother]))
    have hterm := hbef signal (by simp)
    have hverd := verdict_apply (hchk signal (by simp)) (replay heard)
    rw [signal.result?_of_not_terminal hterm, signal.failure?_of_not_terminal hterm,
      hres, hfail] at hverd
    simp only [RunProgress.verdict, Prod.mk.injEq] at hverd
    rw [replay_concat]
    refine ⟨?_, hverd.2.1, hverd.2.2⟩
    rw [RunProgress.isTerminal, hverd.1]
    revert hterm hstat
    cases hsig : signal.status? <;> simp [isTerminal, hsig, RunProgress.isTerminal]

theorem beforeTerminal_append (heard : List Signal) :
    beforeTerminal heard ++ fromTerminal heard = heard :=
  List.takeWhile_append_dropWhile

theorem not_terminal_of_before {heard} (hsig : signal ∈ beforeTerminal heard) :
    signal.isTerminal = false := by
  simpa using List.mem_takeWhile_imp hsig

section FirstTerminal

variable {heard after : List Signal} {first : Signal}

theorem terminal_of_from (hfrom : fromTerminal heard = first :: after) :
    ∃ status, first.status? = some status ∧ status.isTerminal = true := by
  have hhead := List.head?_dropWhile_not (fun signal : Signal => !signal.isTerminal) heard
  rw [show heard.dropWhile _ = first :: after from hfrom] at hhead
  simpa [isTerminal, Option.any_eq_true] using hhead

section

variable (hchk : ∀ signal ∈ heard, signal.Checked) (hfrom : fromTerminal heard = first :: after)
include hchk hfrom

/-- The first terminal signal alone decides the verdict at that point. -/
theorem verdict_at_first (hstat : first.status? = some status) :
    (replay (beforeTerminal heard ++ [first])).verdict =
      (status, first.result?, first.failure?) := by
  have hmem : ∀ signal, signal ∈ beforeTerminal heard ++ first :: after → signal ∈ heard := by
    intro signal hsig
    rwa [← hfrom, beforeTerminal_append] at hsig
  have hbef : ∀ signal ∈ beforeTerminal heard, signal.Checked := fun signal hsig =>
    hchk signal (hmem signal (List.mem_append_left _ hsig))
  obtain ⟨_, hres, hfail⟩ := replay_of_not_terminal hbef
    (fun signal hsig => not_terminal_of_before hsig)
  rw [replay_concat, verdict_apply (hchk first (hmem first (by simp))), hstat, hres, hfail]
  simp

/-- **The verdict stands exactly when it is repeated.** -/
theorem verdict_stands_iff :
    (∀ k, (replay (beforeTerminal heard ++ first :: after.take k)).verdict =
      (replay (beforeTerminal heard ++ [first])).verdict) ↔
      ∀ signal ∈ after, signal.Repeats first := by
  obtain ⟨status, hstat, _⟩ := terminal_of_from hfrom
  have hfirst := verdict_at_first hchk hfrom hstat
  have hafter : ∀ signal ∈ after, signal.Checked := by
    intro signal hsig
    refine hchk signal ?_
    rw [← beforeTerminal_append heard, hfrom]
    simp [hsig]
  -- One more signal of `after` is one more `apply`.
  have hstep : ∀ k (hk : k < after.length),
      replay (beforeTerminal heard ++ first :: after.take (k + 1)) =
        after[k].apply (replay (beforeTerminal heard ++ first :: after.take k)) := by
    intro k hk
    rw [← replay_concat, List.take_succ_eq_append_getElem hk]
    simp
  constructor
  · intro hstands signal hsig
    obtain ⟨k, hk, rfl⟩ := List.getElem_of_mem hsig
    refine (verdict_apply_eq_iff (hafter _ hsig) hstat
      ((hstands k).trans hfirst)).1 ?_
    rw [← hstep k hk, hstands, hstands]
  · intro hrepeats k
    induction k with
    | zero => simp
    | succ k ih =>
      by_cases hk : k < after.length
      · have hmem : after[k] ∈ after := List.getElem_mem hk
        rw [hstep k hk, ← ih]
        exact (verdict_apply_eq_iff (hafter _ hmem) hstat (ih.trans hfirst)).2
          (hrepeats _ hmem)
      · rw [List.take_of_length_le (by omega)] at ih ⊢
        exact ih

end

end FirstTerminal

/-- Every outcome has a first terminal signal. -/
theorem exists_first_terminal (hsound : view.Sound) (hterm : view.progress.isTerminal = true) :
    ∃ first after, fromTerminal view.heard = first :: after := by
  cases hfrom : fromTerminal view.heard with
  | cons first after => exact ⟨first, after, rfl⟩
  | nil =>
    have hbef : beforeTerminal view.heard = view.heard := by
      simpa [hfrom] using beforeTerminal_append view.heard
    have hquiet := (replay_of_not_terminal hsound.checked fun signal hsig =>
      not_terminal_of_before (hbef ▸ hsig)).1
    rw [← hsound.progress, hterm] at hquiet
    exact absurd hquiet (by decide)

/-- **An outcome is coherent exactly when the plugin's messages are consistent.** -/
theorem outcome_coherent_iff (env : Environment) (outcome : MctsRunOutcome) (heard : List Signal)
    (hrun : runLoop env = some (.ok (outcome, heard))) :
    Coherent outcome heard ↔ Consistent heard := by
  obtain ⟨view, hsound, rfl, hterm, hverd⟩ := sound_of_runLoop hrun
  obtain ⟨first, after, hfrom⟩ := exists_first_terminal hsound hterm
  obtain ⟨status, hstat, _⟩ := terminal_of_from hfrom
  have hfirst := verdict_at_first hsound.checked hfrom hstat
  have hstands := verdict_stands_iff hsound.checked hfrom
  -- The verdict of the outcome is the one after all later signals.
  have hlast : (replay (beforeTerminal view.heard ++ first :: after.take after.length)).verdict =
      (outcome.status, outcome.result, outcome.failure) := by
    rw [List.take_length, ← hfrom, beforeTerminal_append, ← hsound.progress, hverd]
  constructor
  -- a first terminal signal without its payload would leave an outcome without it
  · rintro ⟨first', after', hfrom', -, hcomp, hfailed, hsame⟩
    obtain ⟨rfl, rfl⟩ := List.cons.inj (hfrom.symm.trans hfrom')
    have hout := hlast.symm.trans ((hsame _).trans hfirst)
    simp only [Prod.mk.injEq] at hout
    obtain ⟨rfl, hres, hfail⟩ := hout
    intro other rest hother
    obtain ⟨rfl, rfl⟩ := List.cons.inj (hfrom.symm.trans hother)
    refine ⟨?_, ?_, hstands.1 hsame⟩
    · rintro rfl
      obtain ⟨params, _, _, -, hsome, -⟩ := hcomp (Option.some.inj hstat.symm)
      rw [hres] at hsome
      exact absurd hsome (by simp [result?])
    · rintro rfl
      have hsome := hfailed (Option.some.inj hstat.symm)
      rw [hfail] at hsome
      exact absurd hsome (by simp [failure?])
  · intro hconsistent
    obtain ⟨hcomp, hfailed, hrepeats⟩ := hconsistent first after hfrom
    have hsame := hstands.2 hrepeats
    have hout := hlast.symm.trans ((hsame _).trans hfirst)
    simp only [Prod.mk.injEq] at hout
    obtain ⟨rfl, hres, hfail⟩ := hout
    refine ⟨first, after, hfrom, hstat, ?_, ?_, hsame⟩
    · intro hstat'
      obtain ⟨params, runMap, nowMs, rfl⟩ :=
        notified_of_completed (hstat.trans (congrArg some hstat')) hcomp
      have hmem : notified (.pluginCompleted params) runMap nowMs ∈ view.heard := by
        rw [← beforeTerminal_append view.heard, hfrom]
        simp
      exact ⟨params, runMap, nowMs, hmem, hres, hsound.checked _ hmem⟩
    · intro hstat'
      rw [hfail]
      exact failure?_of_failed (hstat.trans (congrArg some hstat')) hfailed

/-! ## Two conversations -/

/-- The response to the request `id`. -/
def answer (id : String) (result : Option Json := none) : Arrival where
  message := .ok (.response ⟨.string id, result, none⟩)

/-- The result of a wait request. -/
def waitResult (status : String) : Json :=
  .object [("run_id", .string "run"), ("status", .string status), ("sequence", .number 1)]

/-- A result without candidates and without a plan. -/
def plainResult : CompletionResult where
  status := "completed"
  summary := "done"
  answer := "answer"
  stopReason := "node_budget"
  selectedCandidateId := none
  candidates := []
  evidence := []
  limitations := []
  applyPlan := none

/-- The plugin reports its result and answers the pending wait with the same status. -/
def steadyRun : Environment where
  arrivals := [answer "mcts-run-initialize", answer "mcts-run-start",
    { message := .ok (.notification (.pluginCompleted ⟨"run", 1, plainResult⟩)) },
    answer "mcts-run-wait" (some (waitResult "completed"))]

/-- The plugin reports a failure and answers the pending wait with another status. -/
def changedRun : Environment where
  arrivals := [answer "mcts-run-initialize", answer "mcts-run-start",
    { message := .ok (.notification
      (.pluginFailed ⟨"run", 1, ⟨"oom", "out of memory"⟩, "failed"⟩)) },
    answer "mcts-run-wait" (some (waitResult "completed"))]

/-- The condition is met by a plugin that reports its result once and repeats the status. -/
theorem steadyRun_coherent : ∃ outcome heard,
    runLoop steadyRun = some (.ok (outcome, heard)) ∧ outcome.result = some plainResult ∧
      Coherent outcome heard := by
  refine ⟨_, _, rfl, rfl, (outcome_coherent_iff steadyRun _ _ rfl).2 ?_⟩
  intro first after hfrom
  obtain ⟨rfl, rfl⟩ := List.cons.inj (hfrom.symm.trans rfl)
  refine ⟨by simp, by simp, ?_⟩
  intro signal hsig
  rw [List.mem_singleton.1 hsig]
  exact ⟨.inr rfl, .inl rfl, .inl rfl⟩

/-- **The last status wins.**  The run failed, and is returned as completed, with the failure of
the notification and without a result. -/
theorem changedRun_incoherent : ∃ outcome heard,
    runLoop changedRun = some (.ok (outcome, heard)) ∧ outcome.status = .completed ∧
      outcome.result = none ∧ outcome.failure = some ⟨"oom", "out of memory"⟩ ∧
      ¬Coherent outcome heard := by
  refine ⟨_, _, rfl, rfl, rfl, rfl, ?_⟩
  rintro ⟨first, after, hfrom, hstat, -⟩
  obtain ⟨rfl, rfl⟩ := List.cons.inj (hfrom.symm.trans rfl)
  cases hstat

end XGovernor.Mcts
