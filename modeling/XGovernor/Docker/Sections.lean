import XGovernor.Docker.Call

/-!
# Sections of tasks

What a step of the interleaving does, said once for every invariant of a container.  A step moves
one task on, and touches the gate and the journal in few ways; or it retires the generation,
notifies the calls that are armed, or takes away a call that was dropped while it waited.
-/

namespace XGovernor.Docker

open Domain Lib Function Container

/-- The states that a container leaves only to be closed. -/
def ContainerState.stopping : ContainerState → Bool
  | resourceStopped | closing | closed => true
  | _ => false

variable {state state' : ContainerState}

/-- A container that is being stopped takes no other state. -/
theorem ContainerState.set_cases {previous : ContainerState} (h : previous.set state = .ok state') :
    (state.stopping = true ∧ state'.stopping = true) ∨
      (previous.stopping = false ∧ state' = state) := by
  cases previous <;> cases state <;> cases h <;> decide

/-- The tasks that hold the gate. -/
def Task.holds : Task → Bool
  | .call _ .waiting | .call _ (.returned _) => false
  | .call _ _ => true
  | .retire .dropped .marked | .retire .dropped .retired => true
  | .retire _ .locked | .retire _ (.recovering _) => true
  | .retire _ _ => false
  | .beginTurn _ point | .finishTurn _ point =>
    match point with
    | .locked | .recovering _ => true
    | _ => false

/-- The tasks that stop the container have written so to the journal. -/
def Retirement.stops : Retirement → Bool
  | delete | shutdown | resourceStop => true
  | _ => false

variable {s s' : Container} {label : Label} {i : Nat} {task : Task}

/-- Where a call was before it came to this point, and what the journal says now. -/
def CallPoint.Origin (s : Container) (label : Label) (i : Nat) (c : Call)
    (state : ContainerState) : CallPoint → Prop
  | epochChecked => c.epoch = s.generation
  | turnChecked => s.tasks i = some (.call c .epochChecked)
  | stateChecked => label = .advance i ∧ s.tasks i = some (.call c .turnChecked) ∧
      s.state = .ready ∧ state = .ready
  | armed _ => label = .advance i ∧ s.tasks i = some (.call c .stateChecked) ∧ state = s.state
  | running woken => label = .advance i ∧ s.tasks i = some (.call c (.armed woken)) ∧
      s.state.stopping = false ∧ state = .executing
  | answered response => (∃ woken, s.tasks i = some (.call c (.running woken))) ∧ state = s.state ∧
      ((∃ output, label = .helper i output ∧ response = output.mapError .transport) ∨
        (label = .interrupt i ∧ response = .error interruption))
  | recovering _ interrupted response =>
      (label = .advance i ∧ s.tasks i = some (.call c (.answered response)) ∧
        (c.epoch ≠ s.generation ∨ needsReset response = true)) ∨
      ((∃ result, label = .command i result) ∧
        s.tasks i = some (.call c (.recovering .stopping interrupted response)))
  | _ => True

def Task.Origin (s : Container) (label : Label) (i : Nat) (state : ContainerState) : Task → Prop
  | .call c point => point.Origin s label i c state
  | .retire reason .marked => reason.stops = true → state.stopping = true
  | _ => True

/-- A recovery is completed, or the helper of a call has left nothing behind. -/
def Readies (s : Container) (label : Label) (i : Nat) : Prop :=
  (∃ result, label = .command i result ∧ result.isOk = true ∧
    (s.tasks i).any isStarting = true ∧ (s.state.set .ready).isOk = true) ∨
  ∃ c response, label = .advance i ∧ s.tasks i = some (.call c (.answered response)) ∧
    c.epoch = s.generation ∧ needsReset response = false

/-- The task moves on.  Outside the gate it leaves the journal alone, or it writes there that the
container is to be stopped. -/
structure Moved (s : Container) (label : Label) (i : Nat) (task : Task) (s' : Container) :
    Prop where
  tasks : s'.tasks = update s.tasks i (some task)
  generation : s'.generation = s.generation
  quiet : ∀ reason, s.tasks i ≠ some (.retire reason .retired)
  holds : task.holds = true → s'.gate = some i
  outside : s.gate = some i ∨ ((∃ entry, label = .enter i entry) ∨ label = .lock i) ∧
    (s'.gate = s.gate ∨ s.gate = none) ∧ (s'.state = s.state ∨ s'.state.stopping = true)
  stops : s.state.stopping = true → s'.state.stopping = true
  ready : s'.state = .ready → s.state = .ready ∨ Readies s label i
  origin : task.Origin s label i s'.state

/-- The task moves on without the gate that it had. -/
theorem Moved.released (h : Moved s label i task s') (hgate : s.gate = some i)
    (hholds : task.holds = false) : Moved s label i task { s' with gate := none } :=
  ⟨h.tasks, h.generation, h.quiet, by simp [hholds], .inl hgate, h.stops, h.ready, h.origin⟩

theorem Moved.turned (h : Moved s label i task s') (turn : Option (String × Bool)) :
    Moved s label i task { s' with turn } :=
  ⟨h.tasks, h.generation, h.quiet, h.holds, h.outside, h.stops, h.ready, h.origin⟩

/-- The task is inside the gate and has no notification to make. -/
structure Inside (s : Container) (i : Nat) : Prop where
  gate : s.gate = some i
  quiet : ∀ reason, s.tasks i ≠ some (.retire reason .retired)

namespace Inside

variable (hi : Inside s i)
include hi

theorem keep (horig : task.Origin s label i s.state) : Moved s label i task (s.setTask i task) :=
  ⟨rfl, rfl, hi.quiet, fun _ => hi.gate, .inl hi.gate, id, .inl, horig⟩

theorem leave (hholds : task.holds = false) (horig : task.Origin s label i s.state) :
    Moved s label i task (s.leave i task) :=
  (hi.keep horig).released hi.gate hholds

section

variable (hset : s.state.set state = .ok state') (hready : state = .ready → Readies s label i)
include hset hready

/-- The task writes the journal.  It needs a reason to make the container ready. -/
theorem write (horig : task.Origin s label i state') :
    Moved s label i task ({ s with state := state' }.setTask i task) := by
  refine ⟨rfl, rfl, hi.quiet, fun _ => hi.gate, .inl hi.gate, fun hstop => ?_, fun heq => ?_, horig⟩
  · rcases ContainerState.set_cases hset with ⟨-, hstop'⟩ | ⟨hgoing, -⟩
    · exact hstop'
    · cases hgoing.symm.trans hstop
  · rcases ContainerState.set_cases hset with ⟨-, hstop'⟩ | ⟨-, rfl⟩
    · obtain rfl : state' = .ready := heq
      cases hstop'
    · exact .inr (hready heq)

theorem writeLeave (hholds : task.holds = false) (horig : task.Origin s label i state') :
    Moved s label i task ({ s with state := state' }.leave i task) :=
  (hi.write hset hready horig).released hi.gate hholds

end

/-- The task begins a recovery. -/
theorem recover {s₁ : Container} (hs₁ : s.recover = some s₁)
    (horig : task.Origin s label i s₁.state) : Moved s label i task (s₁.setTask i task) := by
  unfold Container.recover at hs₁
  split at hs₁
  · cases hs₁
  · split at hs₁ <;> cases hs₁
    rename_i hset
    exact hi.write hset nofun horig

end Inside

attribute [local grind] Task.Origin CallPoint.Origin Task.holds setTask leave Container.drop finish
  clearTurn ContainerState.stopping Retirement.stops Readies
attribute [local grind →] ContainerState.set_cases

section

variable (htask : s.tasks i = some task) (hgate : task.holds = true → s.gate = some i)
include htask hgate

theorem inside (hholds : task.holds = true) (hquiet : ∀ reason, task ≠ .retire reason .retired) :
    Inside s i :=
  ⟨hgate hholds, fun reason heq => hquiet reason (Option.mem_unique htask heq)⟩

/-- **The next section of a task** moves it on, retires the generation or notifies the calls. -/
theorem advance_cases (hstep : s.advance i task = some s') :
    (∃ task', Moved s (.advance i) i task' s') ∨
    (∃ reason, task = .retire reason .marked ∧
      s' = { s with generation := s.generation + 1 }.setTask i (.retire reason .retired)) ∨
    ∃ reason, task = .retire reason .retired ∧ s' = s.notifyWaiters.afterNotify i reason := by
  unfold Container.advance at hstep
  split at hstep <;> cases hstep
  case h_7 => exact .inr (.inl ⟨_, rfl, rfl⟩)
  case h_8 => exact .inr (.inr ⟨_, rfl, rfl⟩)
  all_goals
    left
    have hi := inside htask hgate rfl nofun
    try simp only [checkEpoch, checkTurn, checkState, start, settle, retireDirty,
      Container.beginTurn, Container.finishTurn]
    repeat' split
    -- The task stays inside the gate or leaves it, and may write the journal before.
    all_goals first
      | exact ⟨_, hi.leave rfl trivial⟩
      | exact ⟨_, (hi.leave rfl (by trivial)).turned _⟩
      | exact ⟨_, hi.recover ‹_› (by grind)⟩
      | exact ⟨_, hi.keep (by grind)⟩
      | exact ⟨_, hi.write ‹_› (by nofun) (by grind)⟩
      | exact ⟨_, hi.writeLeave ‹_› (by grind) rfl trivial⟩

/-- The end of a recovery, which may have made the container ready just before. -/
theorem recovered_moved {outcome}
    (hstate : state = s.state ∨ s.state.set .ready = .ok state ∧ Readies s label i)
    (hstep : { s with state }.recovered i outcome task = some s') :
    ∃ task', Moved s label i task' s' := by
  have hput : Inside s i → ∀ task', task'.Origin s label i state →
      Moved s label i task' ({ s with state }.setTask i task') := by
    intro hi task' horig
    rcases hstate with rfl | ⟨hset, hready⟩
    · exact hi.keep horig
    · exact hi.write hset (fun _ => hready) horig
  unfold Container.recovered at hstep
  split at hstep
  · have hi := inside htask hgate rfl nofun
    split at hstep <;> cases hstep
    · exact ⟨_, (hput hi _ (by trivial)).released hi.gate rfl⟩
    · exact ⟨_, hput hi _ nofun⟩
  · rename_i reason point
    have hi := inside htask hgate (by cases reason <;> rfl) nofun
    cases hstep
    exact ⟨_, (hput hi _ (by trivial)).released hi.gate (by cases reason <;> rfl)⟩
  · have hi := inside htask hgate rfl nofun
    split at hstep <;> cases hstep
    · exact ⟨_, ((hput hi _ (by trivial)).released hi.gate rfl).turned _⟩
    · exact ⟨_, (hput hi _ (by trivial)).released hi.gate rfl⟩
  · cases hstep

/-- **The end of a Docker command** moves its task on. -/
theorem command_moved {result} (hstep : s.command i result task = some s') :
    ∃ task', Moved s (.command i result) i task' s' := by
  unfold Container.command at hstep
  split at hstep
  case h_3 =>
    split at hstep
    · rename_i hstopped
      cases hstep
      unfold Container.stopped at hstopped
      split at hstopped
      · cases hstopped
      · rename_i hstart
        repeat' split at hstopped
        · exact recovered_moved htask hgate (.inl rfl) hstopped
        · exact recovered_moved htask hgate (.inl rfl) hstopped
        · cases hstopped
          unfold toStarting at hstart
          split at hstart <;> cases hstart <;>
            exact ⟨_, (inside htask hgate (by grind) nofun).keep (by grind)⟩
    · unfold Container.started at hstep
      split_ifs at hstep with hstart
      repeat' split at hstep
      · exact recovered_moved htask hgate (.inl rfl) hstep
      · rename_i hset
        refine recovered_moved htask hgate (.inr ⟨hset, .inl ⟨_, rfl, rfl, ?_, ?_⟩⟩) hstep
        · simp [htask, hstart]
        · rw [hset]
          rfl
      · exact recovered_moved htask hgate (.inl rfl) hstep
  all_goals
    cases hstep
    have hi := inside htask hgate rfl nofun
    unfold retireCommand
    repeat' split
    all_goals first
      | exact ⟨_, hi.leave rfl trivial⟩
      | exact ⟨_, hi.writeLeave ‹_› (by nofun) rfl trivial⟩

theorem dropCall_cases (hstep : s.dropCall i task = some s') :
    (∃ task', Moved s (.drop i) i task' s') ∨
      ∃ c, task = .call c .waiting ∧ s' = { s with tasks := update s.tasks i none } := by
  unfold Container.dropCall at hstep
  split at hstep <;> cases hstep
  · exact .inr ⟨_, rfl, rfl⟩
  all_goals exact .inl ⟨_, (inside htask hgate rfl nofun).keep nofun⟩

end

/-- **A new task** leaves the journal alone, or writes there that the container is to be
stopped. -/
theorem enter_moved (hnew : s.tasks i = none) (entry) :
    ∃ task, Moved s (.enter i entry) i task (s.enter i entry) := by
  unfold Container.enter
  split <;> try unfold cancelTurn
  all_goals try unfold markState
  all_goals
    repeat' split
    all_goals refine ⟨_, rfl, rfl, ?_, ?_, ?_, ?_, ?_, ?_⟩ <;> grind

/-- **What a step does.** -/
theorem step_cases (hgate : ∀ i task, s.tasks i = some task → task.holds = true → s.gate = some i)
    (hstep : Step s label s') :
    (∃ i task, Moved s label i task s') ∨
    (∃ i reason, label = .advance i ∧ s.tasks i = some (.retire reason .marked) ∧
      s' = { s with generation := s.generation + 1 }.setTask i (.retire reason .retired)) ∨
    (∃ i reason, label = .advance i ∧ s.tasks i = some (.retire reason .retired) ∧
      s' = s.notifyWaiters.afterNotify i reason) ∨
    ∃ i c, label = .drop i ∧ s.tasks i = some (.call c .waiting) ∧
      s' = { s with tasks := update s.tasks i none } := by
  cases label with
  | enter i entry =>
    simp only [Step, Container.next] at hstep
    split_ifs at hstep with hnew
    cases hstep
    exact .inl ⟨i, enter_moved (Option.isNone_iff_eq_none.1 hnew) entry⟩
  | lock i =>
    simp only [Step, Container.next] at hstep
    split_ifs at hstep with hfree
    obtain ⟨task, hlocked, rfl⟩ := Option.map_eq_some_iff.1 hstep
    obtain ⟨old, hold, hlocked⟩ := Option.bind_eq_some_iff.1 hlocked
    rw [Option.isNone_iff_eq_none] at hfree
    unfold locked at hlocked
    split at hlocked <;> cases hlocked <;>
      refine .inl ⟨i, _, rfl, rfl, ?_, ?_, ?_, ?_, ?_, ?_⟩ <;> grind
  | advance i =>
    obtain ⟨task, htask, hnext⟩ := Option.bind_eq_some_iff.1 hstep
    -- the two exceptions touch other tasks: the new generation, and the wake-up of the waiters
    rcases advance_cases htask (hgate i task htask) hnext with
      hmoved | ⟨reason, rfl, rfl⟩ | ⟨reason, rfl, rfl⟩
    · exact .inl ⟨i, hmoved⟩
    · exact .inr (.inl ⟨i, reason, rfl, htask, rfl⟩)
    · exact .inr (.inr (.inl ⟨i, reason, rfl, htask, rfl⟩))
  | helper i | interrupt i =>
    simp only [Step, Container.next] at hstep
    split at hstep <;> cases hstep
    rename_i htask
    exact .inl ⟨i, _, (inside htask (hgate i _ htask) rfl nofun).keep (by grind)⟩
  | command i result =>
    obtain ⟨task, htask, hnext⟩ := Option.bind_eq_some_iff.1 hstep
    exact .inl ⟨i, command_moved htask (hgate i task htask) hnext⟩
  | drop i =>
    obtain ⟨task, htask, hnext⟩ := Option.bind_eq_some_iff.1 hstep
    rcases dropCall_cases htask (hgate i task htask) hnext with hmoved | ⟨c, rfl, rfl⟩
    · exact .inl ⟨i, hmoved⟩
    · exact .inr (.inr (.inr ⟨i, c, rfl, htask, rfl⟩))

end XGovernor.Docker
