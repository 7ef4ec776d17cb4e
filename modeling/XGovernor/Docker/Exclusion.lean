import XGovernor.Docker.Cancellation

/-!
# Exclusion of helpers

A helper that failed, was interrupted or whose call was dropped may have left processes behind in
its container.  The journal keeps the container from new helpers until it has been stopped and
started again.  The calls, the guards of dropped calls, the recoveries and the deletion write the
journal in sections that interleave; `Orderly` ties the point that each call has reached to the
journal and to what the helpers before it have left.
-/

namespace XGovernor.Docker

open Domain Lib Function Container

/-! ## What a run has left behind -/

/-- A helper may have left something behind: it gave no answer, or it says that its command timed
out or that it failed. -/
def Unclean : Except String Json → Bool
  | .error _ => true
  | .ok answer =>
    (answer.field "value").field "timed_out" = .bool true || answer.field "code" = .string "failed"

/-- The test of the code finds out about all of them. -/
theorem needsReset_eq_unclean (output) :
    needsReset (output.mapError .transport) = Unclean output := by
  cases output <;> rfl

/-- The step ends a helper and leaves the container dirty. -/
def Soils (s : Container) : Label → Bool
  | .helper _ output => Unclean output
  | .interrupt _ => true
  | .drop i => match s.tasks i with
    | some (.call _ (.running _)) => true
    | _ => false
  -- The helper has answered, but the generation was retired meanwhile.
  | .advance i => match s.tasks i with
    | some (.call call (.answered _)) => call.epoch ≠ s.generation
    | _ => false
  | _ => false

/-- The step completes a successful stop and start of the container. -/
def Mends (s : Container) : Label → Bool
  | .command i result =>
    result.isOk && (s.tasks i).any isStarting && (s.state.set .ready).isOk
  | _ => false

def after (s : Container) (label : Label) (soiled : Bool) : Bool :=
  if Mends s label then false else soiled || Soils s label

/-- A helper has left the container dirty, and it was not restarted since. -/
def spoiled (tr : List (Container × Label)) : Bool :=
  tr.foldl (fun soiled e => after e.1 e.2 soiled) false

def Container.InFlight (s : Container) (i : Nat) : Prop :=
  ∃ call woken, s.tasks i = some (.call call (.running woken))

/-- The step starts the helper of a call. -/
def Starts (s : Container) (label : Label) (s' : Container) : Prop :=
  ∃ i call woken, label = .advance i ∧ s.tasks i = some (.call call (.armed woken)) ∧ s'.InFlight i

/-! ## The invariant -/

def CallPoint.Fits (state : ContainerState) (soiled : Bool) : CallPoint → Prop
  | .stateChecked | .armed _ => (state = .ready ∨ state.stopping = true) ∧ soiled = false
  | .running _ => (state = .executing ∨ state.stopping = true) ∧ soiled = false
  | .answered response =>
    (state = .executing ∨ state.stopping = true) ∧ soiled = needsReset response
  | .recovering _ _ _ => soiled = true
  | _ => True

def Task.Fits (state : ContainerState) (soiled : Bool) : Task → Prop
  | .call _ point => point.Fits state soiled
  | _ => True

/-- `stopped` says that the journal has been in a state that is only left to be closed. -/
structure Orderly (s : Container) (soiled stopped : Bool) : Prop where
  gate : ∀ i task, s.tasks i = some task → task.holds = true → s.gate = some i
  fits : ∀ i task, s.tasks i = some task → task.Fits s.state soiled
  blocked : soiled = true → s.state ≠ .ready
  stays : stopped = true → s.state.stopping = true

variable {s s' : Container} {label : Label} {i : Nat} {task : Task} {soiled stopped : Bool}

attribute [local grind] Task.Fits CallPoint.Fits ContainerState.stopping

/-- A step that leaves the container dirty is about a call whose helper was started. -/
theorem busy_of_soils (hstep : Step s label s') (hsoils : Soils s label = true) :
    ∃ i c point, s.tasks i = some (.call c point) ∧
      ((∃ woken, point = .running woken) ∨ ∃ response, point = .answered response) := by
  cases label with
  | helper i | interrupt i =>
    simp only [Step, Container.next] at hstep
    split at hstep
    · exact ⟨i, _, _, ‹_›, .inl ⟨_, rfl⟩⟩
    · cases hstep
  | drop i =>
    simp only [Soils] at hsoils
    split at hsoils
    · exact ⟨i, _, _, ‹_›, .inl ⟨_, rfl⟩⟩
    · cases hsoils
  | advance i =>
    simp only [Soils] at hsoils
    split at hsoils
    · exact ⟨i, _, _, ‹_›, .inr ⟨_, rfl⟩⟩
    · cases hsoils
  | _ => cases hsoils

namespace Orderly

section

variable (h : Orderly s soiled stopped)
include h

/-- A task moves on.  Either it is inside the gate, where no other task relies on the journal, or
it changes nothing that a task inside relies on. -/
theorem put {soiled'} (htasks : s'.tasks = update s.tasks i (some task))
    (hfits : task.Fits s'.state soiled') (hblocked : soiled' = true → s'.state ≠ .ready)
    (hstays : s.state.stopping = true → s'.state.stopping = true)
    (hholds : task.holds = true → s'.gate = some i)
    (hoth : s.gate = some i ∨ (s'.gate = s.gate ∨ s.gate = none) ∧ soiled' = soiled ∧
      (s'.state = s.state ∨ s'.state.stopping = true)) :
    Orderly s' soiled' (stopped || s.state.stopping) := by
  obtain ⟨gate, fits, blocked, stays⟩ := h
  refine ⟨fun j other hj => ?_, fun j other hj => ?_, hblocked, by grind⟩
  all_goals rcases update_cases (htasks ▸ hj) with ⟨rfl, ⟨⟩⟩ | ⟨hne, hj⟩
  · exact hholds
  · grind
  · exact hfits
  · cases other with
    | call c point => cases point <;> grind [Task.holds]
    | _ => trivial

/-- What a call has found out up to the point before still holds. -/
theorem fits_of_origin (hmoved : Moved s label i task s') :
    task.Fits s'.state (after s label soiled) := by
  have horig := hmoved.origin
  cases task with
  | call c point =>
    cases point with
    | stateChecked =>
      obtain ⟨rfl, htask, hready, hstate⟩ := horig
      exact ⟨.inl hstate, by simpa [after, Mends, Soils, htask, hready] using h.blocked⟩
    | armed =>
      obtain ⟨rfl, htask, hstate⟩ := horig
      have hfits := h.fits i _ htask
      simpa [Task.Fits, CallPoint.Fits, after, Mends, Soils, htask, hstate] using hfits
    | running =>
      obtain ⟨rfl, htask, -, hstate⟩ := horig
      exact ⟨.inl hstate, by simpa [after, Mends, Soils, htask] using (h.fits i _ htask).2⟩
    | answered response =>
      obtain ⟨⟨woken, htask⟩, hstate, hlabel⟩ := horig
      obtain ⟨hjour, hclean⟩ := h.fits i _ htask
      refine ⟨hstate ▸ hjour, ?_⟩
      rcases hlabel with ⟨output, rfl, rfl⟩ | ⟨rfl, rfl⟩
      · simp [after, Mends, Soils, hclean, needsReset_eq_unclean]
      · simp [after, Mends, Soils, hclean, needsReset]
    | recovering =>
      rcases horig with ⟨rfl, htask, hreset⟩ | ⟨⟨result, rfl⟩, htask⟩
      · obtain ⟨-, hsoiled⟩ := h.fits i _ htask
        rcases hreset with hepoch | hreset
        · simp [Task.Fits, CallPoint.Fits, after, Mends, Soils, htask, hepoch]
        · simp [Task.Fits, CallPoint.Fits, after, Mends, Soils, htask, hsoiled, hreset]
      · have hsoiled := h.fits i _ htask
        simpa [Task.Fits, CallPoint.Fits, after, Mends, Soils, htask, isStarting] using hsoiled
    | _ => trivial
  | _ => trivial

/-- Only a recovery or a helper that has left nothing makes the container ready. -/
theorem blocked_of_moved (hstep : Step s label s')
    (hmoved : Moved s label i task s') : after s label soiled = true → s'.state ≠ .ready := by
  intro hsoiled hready
  rcases hmoved.ready hready with hbef | ⟨result, rfl, hok, hstart, hset⟩ |
    ⟨c, response, rfl, htask, hepoch, hreset⟩
  · -- The helper of a call runs, or has just answered, and the journal says so.
    have hclean : soiled = false := by simpa [hbef] using h.blocked
    have hsoils : Soils s label = true := by
      unfold after at hsoiled
      split_ifs at hsoiled
      simpa [hclean] using hsoiled
    obtain ⟨j, c, point, hj, hpoint⟩ := busy_of_soils hstep hsoils
    have hfits := h.fits j _ hj
    rw [hbef] at hfits
    rcases hpoint with ⟨woken, rfl⟩ | ⟨response, rfl⟩ <;> simp [Task.Fits, CallPoint.Fits,
      ContainerState.stopping] at hfits
  · simp [after, Mends, hok, hstart, hset] at hsoiled
  · obtain ⟨-, hclean⟩ := h.fits i _ htask
    simp [after, Mends, Soils, htask, hepoch, hclean, hreset] at hsoiled

/-- A notification changes no point of a call but for its mark. -/
theorem notifyWaiters : Orderly s.notifyWaiters soiled stopped := by
  refine ⟨fun j other hj hholds => ?_, fun j other hj => ?_, h.blocked, h.stays⟩
  all_goals obtain ⟨task, htask, rfl⟩ := Option.map_eq_some_iff.1 hj
  · exact h.gate j task htask (Guarded.holds_wake task ▸ hholds)
  · have hfits := h.fits j task htask
    cases task with
    | call c point => cases point <;> exact hfits
    | _ => trivial

theorem step (hstep : Step s label s') :
    Orderly s' (after s label soiled) (stopped || s.state.stopping) := by
  rcases step_cases h.gate hstep with ⟨i, task, hmoved⟩ | ⟨i, reason, rfl, htask, rfl⟩ |
    ⟨i, reason, rfl, htask, rfl⟩ | ⟨i, c, rfl, htask, rfl⟩
  · refine h.put hmoved.tasks (h.fits_of_origin hmoved) (h.blocked_of_moved hstep hmoved)
      hmoved.stops hmoved.holds (hmoved.outside.imp_right ?_)
    rintro ⟨⟨entry, rfl⟩ | rfl, hgate, hstate⟩
    · exact ⟨hgate, by simp [after, Mends, Soils], hstate⟩
    · exact ⟨hgate, by simp [after, Mends, Soils], hstate⟩
  all_goals simp only [after, Mends, Soils, htask, Bool.false_eq_true, if_false, Bool.or_false]
  · refine h.put rfl trivial h.blocked id (fun hholds => h.gate i _ htask ?_)
      (.inr ⟨.inl rfl, rfl, .inl rfl⟩)
    cases reason <;> simp_all [Task.holds]
  · have hgate := h.gate i _ htask
    cases reason with
    | dropped => exact h.notifyWaiters.put rfl trivial h.blocked id nofun (.inl (hgate rfl))
    | _ => exact h.notifyWaiters.put rfl trivial h.blocked id nofun (.inr ⟨.inl rfl, rfl, .inl rfl⟩)
  · obtain ⟨gate, fits, blocked, stays⟩ := h
    constructor <;> grind [update_apply]

end

end Orderly

/-! ## Runs -/

theorem orderly_of_run {generation turn state tr}
    (hrun : Run Step (.idle generation turn state) tr s) :
    Orderly s (spoiled tr) (tr.any fun e => e.1.state.stopping) := by
  refine hrun.history_invariant
    (P := fun tr s => Orderly s (spoiled tr) (tr.any fun e => e.1.state.stopping))
    (by constructor <;> simp [Container.idle, spoiled]) fun tr s label s' _ h hstep => ?_
  simpa [spoiled] using h.step hstep

/-- **Helpers exclude each other.**  In every interleaving of the tasks of a container, at most one
helper is in flight; a helper starts only while the journal says that the container is ready, and
not before the container was stopped and started again if a helper has left it dirty; and a
container that was being closed or stopped to protect the host is never ready again. -/
theorem helpers_exclusive (generation : Nat) (turn : Option (String × Bool))
    (state : ContainerState) (tr : List (Container × Label)) (s : Container)
    (hrun : Run Step (.idle generation turn state) tr s) :
    (∀ i j, s.InFlight i → s.InFlight j → i = j) ∧
    (∀ label s', Step s label s' → Starts s label s' → s.state = .ready ∧ spoiled tr = false) ∧
    ∀ e ∈ tr, e.1.state.stopping = true → s.state ≠ .ready := by
  have h := orderly_of_run hrun
  refine ⟨?_, ?_, fun e he hstop hready => ?_⟩
  · rintro i j ⟨call, woken, hi⟩ ⟨call', woken', hj⟩
    exact Option.some.inj ((h.gate i _ hi rfl).symm.trans (h.gate j _ hj rfl))
  · rintro _ s' hstep ⟨i, call, woken, rfl, htask, call', woken', hrunning⟩
    obtain ⟨hstate, hclean⟩ := h.fits i _ htask
    refine ⟨hstate.resolve_right fun hstop => ?_, hclean⟩
    -- The journal does not let a container that is being stopped go back to work.
    simp only [Step, Container.next, htask, Option.bind_some, Container.advance] at hstep
    cases hstep
    revert hrunning hstop
    unfold start
    cases s.state <;> simp [ContainerState.stopping, ContainerState.set, ContainerState.allows,
      leave, setTask]
  · have := h.stays (List.any_eq_true.2 ⟨e, he, hstop⟩)
    simp [hready, ContainerState.stopping] at this

/-- A call is dropped while its helper runs: the container stays closed to new helpers. -/
theorem no_helper_after_drop : ∃ tr s, Run Step (.idle 0 none .ready) tr s ∧
    s.state = .executing ∧ ∀ label s', Step s label s' → ¬Starts s label s' := by
  have hsched : Along Container.next (fun _ _ => True) (fun s => s.state = .executing)
      (.idle 0 none .ready) [.enter 0 (.call none "/workspace/a"), .lock 0, .advance 0, .advance 0,
        .advance 0, .advance 0, .advance 0, .drop 0] :=
    ⟨trivial, trivial, trivial, trivial, trivial, trivial, trivial, trivial, rfl⟩
  obtain ⟨tr, s, hrun, -, hstate⟩ := hsched.run step_of_next
  refine ⟨tr, s, hrun, hstate, fun label s' hstep hstarts => ?_⟩
  have hready := ((helpers_exclusive 0 none .ready tr s hrun).2.1 label s' hstep hstarts).1
  rw [hstate] at hready
  cases hready

end XGovernor.Docker
