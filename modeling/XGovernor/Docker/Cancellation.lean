import XGovernor.Docker.Sections

/-!
# Cancellation of helper calls

Retiring the generation of a container stops its work: a call that compares its epoch later gives
up, and a call that is armed gets the notification.  Between the comparison and the arming a call
is exposed: it has compared the old generation, and a notification passes it by.  The tasks that
close a container write their intent to the journal first, which an exposed call finds when it
starts its helper; a cancelled turn leaves no such mark.
-/

namespace XGovernor.Docker

open Domain Lib Function

/-! ## What is to be kept -/

/-- The call has compared its epoch and is not armed yet. -/
def CallPoint.exposed : CallPoint → Bool
  | epochChecked | turnChecked | stateChecked => true
  | _ => false

/-- Some task has retired the generation and has not notified yet. -/
def Notifying (s : Container) : Prop :=
  ∃ i reason, s.tasks i = some (.retire reason .retired)

/-- **No lost cancellation.**  A helper that runs although its generation is retired can be
interrupted, or the notification that lets it be interrupted is on its way. -/
def Interruptible (s : Container) : Prop :=
  ∀ i call woken, s.tasks i = some (.call call (.running woken)) →
    call.epoch ≠ s.generation → Notifying s ∨ ∃ s', Step s (.interrupt i) s'

/-- A turn is not cancelled while a call is exposed. -/
def Unexposed (s : Container) : Label → Prop
  | .advance i =>
    s.tasks i = some (.retire .blockTurn .marked) ∨ s.tasks i = some (.retire .cancel .marked) →
      ∀ j call point, s.tasks j = some (.call call point) → point.exposed = false
  | _ => True

/-- What a call on a retired generation may rely on. -/
def CallPoint.Safe (stopping notifying : Prop) : CallPoint → Prop
  | epochChecked | turnChecked | stateChecked => stopping
  | armed woken => stopping ∨ woken = true ∨ notifying
  | running woken => woken = true ∨ notifying
  | _ => True

def Task.Safe (generation : Nat) (stopping notifying : Prop) : Task → Prop
  | .call c point => c.epoch ≠ generation → point.Safe stopping notifying
  | .retire reason .marked => reason.stops = true → stopping
  | _ => True

structure Guarded (s : Container) : Prop where
  gate : ∀ i task, s.tasks i = some task → task.holds = true → s.gate = some i
  safe : ∀ i task, s.tasks i = some task → task.Safe s.generation (s.state.stopping = true)
    (Notifying s)

variable {notifying stopping : Prop} {notifying' stopping' : Prop} {point : CallPoint}
  {generation : Nat}

theorem CallPoint.Safe.mono (h : point.Safe stopping notifying) (hstop : stopping → stopping')
    (hnotif : notifying → notifying') : point.Safe stopping' notifying' := by
  cases point with
  | epochChecked | turnChecked | stateChecked => exact hstop h
  | armed => exact h.imp hstop (Or.imp_right hnotif)
  | running => exact h.imp_right hnotif
  | _ => trivial

theorem Task.Safe.mono {task : Task} (h : task.Safe generation stopping notifying)
    (hstop : stopping → stopping') (hnotif : notifying → notifying') :
    task.Safe generation stopping' notifying' := by
  cases task with
  | call c point => exact fun hepoch => (h hepoch).mono hstop hnotif
  | retire reason point =>
    cases point with
    | marked => exact fun hreason => hstop (h hreason)
    | _ => trivial
  | _ => trivial

namespace Guarded

variable {s s' : Container} {label : Label} {i : Nat} {task : Task} {c : Call} {reason : Retirement}

theorem idle (generation) (turn : Option (String × Bool)) (state) :
    Guarded (.idle generation turn state) :=
  ⟨nofun, nofun⟩

theorem interruptible (h : Guarded s) : Interruptible s := by
  intro i call woken htask hepoch
  rcases h.safe i _ htask hepoch with rfl | hnotif
  · exact .inr ⟨_, by simp only [Step, Container.next, htask]; rfl⟩
  · exact .inl hnotif

/-! ## Steps -/

/-- A task moves on and the gate changes hands only through it.  `notifying` is what the calls
may expect afterwards. -/
theorem update (s : Container) (notifying : Prop)
    (htasks : s'.tasks = Function.update s.tasks i (some task)) (hnotif : notifying → Notifying s')
    (hsafe : task.Safe s'.generation (s'.state.stopping = true) notifying)
    (hholds : task.holds = true → s'.gate = some i)
    (hoth : ∀ j other, j ≠ i → s.tasks j = some other →
      other.Safe s'.generation (s'.state.stopping = true) notifying ∧
        (other.holds = true → s'.gate = some j)) : Guarded s' := by
  constructor
  · intro j other hj hheld
    rcases update_cases (htasks ▸ hj) with ⟨rfl, ⟨⟩⟩ | ⟨heq, hj⟩
    · exact hholds hheld
    · exact (hoth j other heq hj).2 hheld
  · intro j other hj
    rcases update_cases (htasks ▸ hj) with ⟨rfl, ⟨⟩⟩ | ⟨heq, hj⟩
    · exact hsafe.mono id hnotif
    · exact (hoth j other heq hj).1.mono id hnotif

section

variable (h : Guarded s)
include h

/-- What a call relies on when it comes to a point, it has relied on at the point before. -/
theorem safe_of_origin (hmoved : Moved s label i task s') :
    task.Safe s.generation (s'.state.stopping = true) (Notifying s) := by
  have horig := hmoved.origin
  cases task with
  | call c point =>
    intro hepoch
    cases point with
    | epochChecked => exact absurd horig hepoch
    | turnChecked => exact hmoved.stops (h.safe i _ horig hepoch)
    | stateChecked => exact hmoved.stops (h.safe i _ horig.2.1 hepoch)
    | armed => exact .inl (hmoved.stops (h.safe i _ horig.2.1 hepoch))
    | running woken =>
      -- A container that is being stopped does not start a helper.
      obtain ⟨-, htask, hgoing, -⟩ := horig
      exact (h.safe i _ htask hepoch).resolve_left (by simp [hgoing])
    | _ => trivial
  | retire reason point =>
    cases point with
    | marked => exact horig
    | _ => trivial
  | _ => trivial

theorem moved (hmoved : Moved s label i task s') : Guarded s' := by
  refine update s (Notifying s) hmoved.tasks ?_ (hmoved.generation ▸ h.safe_of_origin hmoved)
    hmoved.holds fun j other hne hj => ⟨?_, ?_⟩
  · rintro ⟨j, reason, hj⟩
    have hne : j ≠ i := fun heq => hmoved.quiet reason (heq ▸ hj)
    exact ⟨j, reason, by simpa [hmoved.tasks, hne] using hj⟩
  · exact hmoved.generation ▸ (h.safe j other hj).mono hmoved.stops id
  · intro hheld
    have hgate := h.gate j other hj hheld
    rcases hmoved.outside with hi | ⟨-, hsame | hfree, -⟩
    · exact absurd (Option.some.inj (hgate.symm.trans hi)) hne
    · exact hsame.trans hgate
    · rw [hfree] at hgate
      cases hgate

/-- Retiring the generation reaches an exposed call only if the journal says that the container
stops. -/
theorem stopping_of_exposed (htask : s.tasks i = some (.retire reason .marked))
    (hexposed : reason = .blockTurn ∨ reason = .cancel →
      ∀ j call point, s.tasks j = some (.call call point) → point.exposed = false)
    {j} (hj : s.tasks j = some (.call c point))
    (hpoint : point.exposed = true) : s.state.stopping = true := by
  cases reason with
  | delete | shutdown | resourceStop => exact h.safe i _ htask rfl
  | blockTurn => simp [hexposed (.inl rfl) j c point hj] at hpoint
  | cancel => simp [hexposed (.inr rfl) j c point hj] at hpoint
  | dropped =>
    -- The dropped call still holds the gate, and so does the exposed one.
    have hheld : (Task.call c point).holds = true := by
      cases point <;> simp_all [CallPoint.exposed, Task.holds]
    have heq : j = i :=
      Option.mem_unique (h.gate j _ hj hheld) (h.gate i _ htask rfl)
    subst heq
    rw [htask] at hj
    cases hj

/-- **Retiring the generation.**  Every armed call will be notified by the same task. -/
theorem retire (htask : s.tasks i = some (.retire reason .marked))
    (hexposed : reason = .blockTurn ∨ reason = .cancel →
      ∀ j call point, s.tasks j = some (.call call point) → point.exposed = false) :
    Guarded ({ s with generation := s.generation + 1 }.setTask i (.retire reason .retired)) := by
  refine update s True rfl
    (fun _ => ⟨i, reason, by simp [Container.setTask]⟩) trivial
    (fun hholds => h.gate i _ htask ?_) fun j other _ hj => ⟨?_, h.gate j other hj⟩
  · cases reason <;> simp_all [Task.holds]
  · cases other with
    | call c point =>
      intro _
      cases point with
      | epochChecked | turnChecked | stateChecked =>
          exact h.stopping_of_exposed htask hexposed hj rfl
      | armed => exact .inr (.inr trivial)
      | running => exact .inr trivial
      | _ => trivial
    | retire other point =>
      cases point with
      | marked => exact h.safe j _ hj
      | _ => trivial
    | _ => trivial

end

theorem holds_wake (task) : (Container.wake task).holds = task.holds := by
  cases task with
  | call c point => cases point <;> rfl
  | _ => rfl

/-- A call that was notified waits for nobody. -/
theorem safe_wake (h : task.Safe generation stopping notifying) :
    (Container.wake task).Safe generation stopping False := by
  cases task with
  | call c point =>
    cases point with
    | armed => exact fun _ => .inr (.inl rfl)
    | running => exact fun _ => .inl rfl
    | _ => exact h
  | retire reason point =>
    cases point with
    | marked => exact h
    | _ => trivial
  | _ => trivial

section

variable (h : Guarded s)
include h

/-- **Notifying.**  Every call that is armed has its notification, so the task may go on. -/
theorem notifyWaiters (htask : s.tasks i = some (.retire reason .retired)) :
    Guarded (s.notifyWaiters.afterNotify i reason) := by
  have hoth : ∀ j other, s.notifyWaiters.tasks j = some other →
      other.Safe s.generation (s.state.stopping = true) False ∧
        (other.holds = true → s.gate = some j) := by
    intro j other hj
    obtain ⟨task, hj', rfl⟩ := Option.map_eq_some_iff.1 hj
    exact ⟨safe_wake (h.safe j task hj'), fun hholds => h.gate j task hj'
      (holds_wake task ▸ hholds)⟩
  have hset : ∀ point, (Task.retire reason point).Safe s.generation
    (s.state.stopping = true) False →
      (Task.retire reason point).holds = false →
      Guarded (s.notifyWaiters.setTask i (.retire reason point)) := by
    intro point hsafe hholds
    refine update s.notifyWaiters False rfl False.elim hsafe ?_ fun j other _ hj =>
      hoth j other hj
    simp [hholds]
  cases reason with
  | blockTurn | shutdown | cancel | delete | resourceStop => exact hset _ trivial rfl
  | dropped =>
    refine update s.notifyWaiters False rfl False.elim trivial nofun fun j other hne hj => ?_
    obtain ⟨hsafe, hgate⟩ := hoth j other hj
    refine ⟨hsafe, fun hholds => ?_⟩
    have := (hgate hholds).symm.trans (h.gate i _ htask rfl)
    exact absurd (Option.some.inj this) hne

/-- A call that is dropped while it waits is gone. -/
theorem remove (htask : s.tasks i = some (.call c .waiting)) :
    Guarded { s with tasks := Function.update s.tasks i none } := by
  constructor
  · intro j other hj hholds
    by_cases heq : j = i
    · simp [heq] at hj
    · exact h.gate j other (by simpa [heq] using hj) hholds
  · intro j other hj
    by_cases heq : j = i
    · simp [heq] at hj
    · refine (h.safe j other (by simpa [heq] using hj)).mono id ?_
      rintro ⟨k, reason, hk⟩
      have hne : k ≠ i := by
        rintro rfl
        rw [htask] at hk
        cases hk
      exact ⟨k, reason, by simpa [hne] using hk⟩

theorem step (hstep : Step s label s') (hexposed : Unexposed s label) : Guarded s' := by
  rcases step_cases h.gate hstep with ⟨i, task, hmoved⟩ | ⟨i, reason, rfl, htask, rfl⟩ |
    ⟨i, reason, rfl, htask, rfl⟩ | ⟨i, c, rfl, htask, rfl⟩
  · exact h.moved hmoved
  · refine h.retire htask fun hreason => hexposed ?_
    rcases hreason with rfl | rfl
    · exact .inl htask
    · exact .inr htask
  · exact h.notifyWaiters htask
  · exact h.remove htask

end

end Guarded

/-! ## Runs -/

/-- **No lost cancellation.**  In every interleaving of calls with the tasks that stop or cancel
the work of a container, if no turn is cancelled while a call is exposed, then a helper that runs
on a retired generation can always be interrupted. -/
theorem calls_interruptible (generation : Nat) (turn : Option (String × Bool))
    (state : ContainerState) (tr : List (Container × Label)) (s : Container)
    (hrun : Run Step (.idle generation turn state) tr s)
    (hexposed : ∀ e ∈ tr, Unexposed e.1 e.2) : Interruptible s := by
  have hrun' : Run (fun s label s' => Step s label s' ∧ Unexposed s label)
      (.idle generation turn state) tr s := hrun.restrict hexposed
  have hguard : Guarded s := hrun'.invariant (Guarded.idle generation turn state)
    fun _ _ _ h hstep => h.step hstep.1 hstep.2
  exact hguard.interruptible

/-- A turn begins and a call of that turn comes up to the point where it is exposed last. -/
def exposedCall : List Label :=
  [.enter 0 (.beginTurn "t"), .lock 0, .advance 0, .enter 1 (.call (some "t") "/workspace/a"),
    .lock 1, .advance 1, .advance 1, .advance 1]

/-- The turn is cancelled: it is marked, the generation is retired, the calls are notified. -/
def cancellation : List Label :=
  [.enter 2 (.cancel (some "t")), .advance 2, .advance 2]

/-- A call that is armed and has started its helper when its turn is cancelled is interrupted. -/
theorem armed_call_interruptible : ∃ tr s, Run Step (.idle 0 none .ready) tr s ∧
    s.tasks 1 = some (.call ⟨0, some "t", "/workspace/a"⟩ (.running true)) ∧ s.generation = 1 ∧
    Interruptible s := by
  have hsched : Along Container.next Unexposed
      (fun s => s.tasks 1 = some (.call ⟨0, some "t", "/workspace/a"⟩ (.running true)) ∧
        s.generation = 1)
      (.idle 0 none .ready) (exposedCall ++ [.advance 1, .advance 1] ++ cancellation) := by
    have hnone : ∀ {s : Container} {i : Nat} {task : Task}, s.tasks i = some task →
        task ≠ .retire .blockTurn .marked → task ≠ .retire .cancel .marked →
        Unexposed s (.advance i) := by
      intro s i task htask hblock hcanc hreason
      rw [htask] at hreason
      simp [hblock, hcanc] at hreason
    refine ⟨trivial, trivial, hnone rfl nofun nofun, trivial, trivial, hnone rfl nofun nofun,
      hnone rfl nofun nofun, hnone rfl nofun nofun, hnone rfl nofun nofun, hnone rfl nofun nofun,
      trivial, ?_, hnone rfl nofun nofun, rfl, rfl⟩
    intro _ j call point hj
    -- The only call is the armed one; the other tasks are the turn and the cancellation.
    match j, hj with
    | 1, hj => cases hj; rfl
    | 0, hj => cases hj
    | 2, hj => cases hj
    | n + 3, hj => cases hj
  obtain ⟨tr, s, hrun, hall, hcall, hgen⟩ := hsched.run step_of_next
  exact ⟨tr, s, hrun, hcall, hgen, calls_interruptible 0 none .ready tr s hrun hall⟩

/-- **A lost cancellation.**  The turn is cancelled after the call has made all its checks and
before it is armed.  The helper starts although its generation is retired and its turn cancelled;
nothing can interrupt it, the cancellation waits for the gate, and the helper runs to its end. -/
theorem exposed_call_uninterruptible : ∃ tr s, Run Step (.idle 0 none .ready) tr s ∧
    s.tasks 1 = some (.call ⟨0, some "t", "/workspace/a"⟩ (.running false)) ∧
    s.generation = 1 ∧ s.turn = some ("t", true) ∧ s.tasks 2 = some (.retire .cancel .waiting) ∧
    s.gate = some 1 ∧ ¬Interruptible s ∧
    ∃ s', Step s (.helper 1 (.ok (.object [("ok", .bool true)]))) s' := by
  have hsched : Along Container.next (fun _ _ => True)
      (fun s => s.tasks 1 = some (.call ⟨0, some "t", "/workspace/a"⟩ (.running false)) ∧
        s.generation = 1 ∧ s.turn = some ("t", true) ∧
        s.tasks 2 = some (.retire .cancel .waiting) ∧ s.gate = some 1 ∧ ¬Interruptible s ∧
        ∃ s', Step s (.helper 1 (.ok (.object [("ok", .bool true)]))) s')
      (.idle 0 none .ready) (exposedCall ++ cancellation ++ [.advance 1, .advance 1]) := by
    refine ⟨trivial, trivial, trivial, trivial, trivial, trivial, trivial, trivial, trivial,
      trivial, trivial, trivial, trivial, rfl, rfl, rfl, rfl, rfl, fun hinterruptible => ?_, _, rfl⟩
    rcases hinterruptible 1 _ _ rfl (by decide) with ⟨j, reason, hj⟩ | ⟨s', hs'⟩
    · match j, hj with
      | 0, hj => cases hj
      | 1, hj => cases hj
      | 2, hj => cases hj
      | n + 3, hj => cases hj
    · cases hs'
  obtain ⟨tr, s, hrun, -, hfinal⟩ := hsched.run step_of_next
  exact ⟨tr, s, hrun, hfinal⟩

end XGovernor.Docker
