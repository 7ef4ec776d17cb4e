import XGovernor.Lib.TransitionSystem

/-!
# Turns and flights

A backend runs at most one turn at a time.  Each supervised process of a turn is a flight; it is
registered while its turn is current and open, and it is done when its supervising task has heard
from the process.  Ending a turn blocks it, waits until its flights are done and lets the next
turn begin.  Under the lenient policy an unclean flight ends the wait at once.

`Step` is the interleaving of those operations.  A flight that was taken out of the map is not
gone: its task and its process go on, so the state also keeps every flight that was ever
registered.
-/

namespace XGovernor.E2b

open Lib Function

structure OperationContext where
  turnId : String
  operationId : String
  deriving DecidableEq

/-- A flight as the control knows it.  Its status is behind a lock of its own. -/
structure ControlFlight where
  context : OperationContext
  tag : String
  deriving DecidableEq

structure FlightStatus where
  ready : Bool := false
  cancelled : Bool := false
  done : Bool := false
  clean : Bool := false

structure ControlState where
  closed : Bool := false
  /-- The current turn and whether it is blocked. -/
  turn : Option (String × Bool) := none
  flights : List ControlFlight := []
  /-- The status of every flight, by its tag. -/
  status : String → FlightStatus := fun _ => {}
  /-- Every flight that was registered; nothing reads it. -/
  registered : List ControlFlight := []
  /-- The calls of `drain` that wait: their turn and whether they finish it. -/
  drains : Nat → Option (String × Bool) := fun _ => none

namespace ControlState

variable (s : ControlState)

/-- `check`. -/
def check (context : OperationContext) : Except String Unit :=
  if s.closed || context.operationId.isEmpty || s.turn ≠ some (context.turnId, false) then
    .error "stale or cancelled E2B tool context"
  else
    .ok ()

/-- `register`; the tag of the new flight is a fresh identifier. -/
def register (context : OperationContext) (tag : String) : Except String ControlState :=
  match s.check context with
  | .error error => .error error
  | .ok _ =>
    .ok { s with
      flights := ⟨context, tag⟩ :: s.flights
      registered := ⟨context, tag⟩ :: s.registered
      status := update s.status tag {} }

/-- `confirm_shutdown`. -/
def confirmShutdown : ControlState :=
  { s with closed := true, turn := none, flights := [] }

/-- `begin_turn`. -/
def beginTurn (turn : String) : Except String ControlState :=
  if s.closed || turn.isEmpty || s.turn.isSome || !s.flights.isEmpty then
    .error "E2B turn or cleanup already pending"
  else
    .ok { s with turn := some (turn, false) }

/-- The flights in the map that belong to a turn. -/
def flightsOf (turn : String) : List ControlFlight :=
  s.flights.filter fun flight => flight.context.turnId = turn

/-- `block_turn`. -/
def blockTurn (turn : String) : ControlState :=
  { s with
    turn := s.turn.map fun (id, blocked) => (id, if id = turn then true else blocked)
    status := fun tag =>
      if (s.flightsOf turn).any fun flight => flight.tag = tag then
        { s.status tag with cancelled := true }
      else
        s.status tag }

/-- The end of a turn: its flights leave the map. -/
def release (turn : String) : ControlState :=
  { s with
    flights := s.flights.filter fun flight => flight.context.turnId ≠ turn
    turn := none }

/-- Some flight of the turn is done and its cleanup is not confirmed. -/
def unclean (turn : String) : Bool :=
  (s.flightsOf turn).any fun flight => (s.status flight.tag).done && !(s.status flight.tag).clean

/-- One turn of the loop of `drain`: `none` goes on waiting. -/
def poll (lenient : Bool) (s : ControlState) (turn : String) (finish : Bool) :
    Option (Except String Unit) × ControlState :=
  if !s.turn.any fun (id, _) => id = turn then (some (.ok ()), s)
  else if s.unclean turn then
    if lenient then (some (.ok ()), if finish then s.release turn else s)
    else (some (.error "E2B process cleanup is unconfirmed; turn remains blocked"), s)
  else if (s.flightsOf turn).all fun flight => (s.status flight.tag).done then
    (some (.ok ()), if finish then s.release turn else s)
  else
    (none, s)

/-- The end of a flight, as its task reports it. -/
def complete (tag : String) (clean : Bool) : ControlState :=
  { s with status := update s.status tag { s.status tag with done := true, clean } }

end ControlState

/-! ## The interleaving -/

inductive ControlLabel where
  | register (context : OperationContext) (tag : String)
  | complete (tag : String) (clean : Bool)
  | beginTurn (turn : String)
  | blockTurn (turn : String)
  | drain (i : Nat) (turn : String) (finish : Bool)
  /-- The call looks at the flights. -/
  | poll (i : Nat)
  /-- The deadline of the call has passed. -/
  | timeout (i : Nat)
  | confirmShutdown

/-- The step a label takes, if it can be taken.  `drain` begins with a block; a call that has its
answer is over. -/
def ControlState.next (lenient : Bool) (s : ControlState) : ControlLabel → Option ControlState
  | .register context tag =>
    if s.registered.any fun flight => flight.tag = tag then none
    else
      match s.register context tag with
      | .ok s' => some s'
      | .error _ => some s
  | .complete tag clean =>
    if (s.registered.any fun flight => flight.tag = tag) && !(s.status tag).done then
      some (s.complete tag clean)
    else none
  | .beginTurn turn =>
    match s.beginTurn turn with
    | .ok s' => some s'
    | .error _ => some s
  | .blockTurn turn => some (s.blockTurn turn)
  | .drain i turn finish =>
    if (s.drains i).isNone then
      some { s.blockTurn turn with drains := update s.drains i (some (turn, finish)) }
    else none
  | .poll i =>
    match s.drains i with
    | none => none
    | some (turn, finish) =>
      match s.poll lenient turn finish with
      | (none, s') => some s'
      | (some _, s') => some { s' with drains := update s'.drains i none }
  | .timeout i =>
    match s.drains i with
    | none => none
    | some _ => some { s with drains := update s.drains i none }
  | .confirmShutdown => some s.confirmShutdown

def ControlStep (lenient : Bool) (s : ControlState) (label : ControlLabel) (s' : ControlState) :
    Prop :=
  s.next lenient label = some s'

theorem controlStep_of_next (lenient : Bool) (s label s') (h : s.next lenient label = some s') :
    ControlStep lenient s label s' := h

/-! ## The fence -/

/-- Every flight that was registered for the turn is done. -/
def TurnDone (s : ControlState) (turn : String) : Prop :=
  ∀ flight ∈ s.registered, flight.context.turnId = turn → (s.status flight.tag).done = true

/-- **The fence at one step.**  A drain that returns success, and a turn that begins, find every
earlier flight done: those of the drained turn, and those of every turn but the new one. -/
def Fenced (lenient : Bool) (s : ControlState) : ControlLabel → Prop
  | .poll i => ∀ turn finish, s.drains i = some (turn, finish) →
      (s.poll lenient turn finish).1 = some (.ok ()) → TurnDone s turn
  | .beginTurn turn => ∀ s', s.beginTurn turn = .ok s' → ∀ earlier, TurnDone s earlier
  | _ => True

/-- Under the lenient policy, a drain looks at an unclean flight only when every flight of its
turn is done. -/
def Settled (lenient : Bool) (s : ControlState) : ControlLabel → Prop
  | .poll i => lenient = true → ∀ turn finish, s.drains i = some (turn, finish) →
      s.unclean turn = true → ∀ flight ∈ s.flightsOf turn, (s.status flight.tag).done = true
  | _ => True

/-- The flights that run are in the map, and the map holds flights of the current turn only. -/
structure Guarded (s : ControlState) : Prop where
  running : ∀ flight ∈ s.registered, (s.status flight.tag).done = false → flight ∈ s.flights
  current : ∀ flight ∈ s.flights, ∃ blocked, s.turn = some (flight.context.turnId, blocked)
  known : ∀ flight ∈ s.flights, flight ∈ s.registered

theorem Guarded.initial : Guarded {} := by
  constructor <;> simp

section Steps

variable {lenient : Bool} {s s' : ControlState} {turn : String}

/-- Nothing of a turn runs when its flights in the map are done. -/
theorem Guarded.turnDone (h : Guarded s)
    (hdone : ∀ flight ∈ s.flightsOf turn, (s.status flight.tag).done = true) :
    TurnDone s turn := by
  intro flight hfl hturn
  by_contra hrunning
  have hmap := h.running flight hfl (Bool.eq_false_iff.2 hrunning)
  exact hrunning (hdone flight (List.mem_filter.2 ⟨hmap, by simpa using hturn⟩))

/-- A drain that returns success: the turn is not current, or its flights are done. -/
theorem done_of_poll (finish : Bool) (h : Guarded s)
    (hsettled : lenient = true → s.unclean turn = true →
      ∀ flight ∈ s.flightsOf turn, (s.status flight.tag).done = true)
    (hpoll : (s.poll lenient turn finish).1 = some (.ok ())) :
    ∀ flight ∈ s.flightsOf turn, (s.status flight.tag).done = true := by
  unfold ControlState.poll at hpoll
  split at hpoll
  · rename_i hcur
    intro flight hfl
    obtain ⟨hmap, hturn⟩ := List.mem_filter.1 hfl
    obtain ⟨blocked, hblocked⟩ := h.current flight hmap
    simp only [hblocked, Option.any_some, Bool.not_eq_true', decide_eq_false_iff_not] at hcur
    exact absurd (of_decide_eq_true hturn) hcur
  · split at hpoll
    · rename_i hunclean
      split at hpoll
      · rename_i hlenient
        exact hsettled hlenient hunclean
      · simp at hpoll
    · split at hpoll
      · rename_i hall
        exact List.all_eq_true.1 hall
      · simp at hpoll

section

variable (h : Guarded s) {label : ControlLabel}
include h

/-- **The fence holds at every settled step.** -/
theorem Guarded.fenced (hsettled : Settled lenient s label) : Fenced lenient s label := by
  cases label with
  | poll i =>
    intro turn finish hdrain hpoll
    exact h.turnDone
      (done_of_poll finish h (fun hlenient => hsettled hlenient turn finish hdrain) hpoll)
  | beginTurn turn =>
    intro s' hbegin earlier
    unfold ControlState.beginTurn at hbegin
    split_ifs at hbegin with hpend
    simp only [Bool.or_eq_true, not_or, Bool.not_eq_true, Bool.not_eq_false',
      List.isEmpty_iff] at hpend
    refine h.turnDone fun flight hfl => ?_
    simp [ControlState.flightsOf, hpend.2] at hfl
  | _ => trivial

theorem Guarded.release (hdone : ∀ flight ∈ s.flightsOf turn, (s.status flight.tag).done = true)
    (hturn : s.turn.any (fun (id, _) => id = turn) = true) : Guarded (s.release turn) := by
  -- The map holds flights of the current turn only, so it is empty now.
  have hempty : (s.release turn).flights = [] := by
    refine List.filter_eq_nil_iff.2 fun flight hfl => ?_
    obtain ⟨blocked, hblocked⟩ := h.current flight hfl
    simpa [hblocked] using hturn
  constructor
  · intro flight hfl hrunning
    have hmap := h.running flight hfl hrunning
    obtain ⟨blocked, hblocked⟩ := h.current flight hmap
    have hmem : flight ∈ s.flightsOf turn :=
      List.mem_filter.2 ⟨hmap, by simpa [hblocked] using hturn⟩
    have hrunning' : (s.status flight.tag).done = false := hrunning
    rw [hdone flight hmem] at hrunning'
    cases hrunning'
  · simp [hempty]
  · simp [hempty]

theorem Guarded.poll (finish : Bool) (hsettled : lenient = true → s.unclean turn = true →
      ∀ flight ∈ s.flightsOf turn, (s.status flight.tag).done = true) :
    Guarded (s.poll lenient turn finish).2 := by
  have hdone := done_of_poll finish h hsettled
  unfold ControlState.poll at hdone ⊢
  split_ifs at hdone ⊢ with hcur hunclean hlenient hfin hall hfin
  · exact h
  · exact h.release (hdone rfl) (by simpa using hcur)
  · exact h
  · exact h
  · exact h.release (hdone rfl) (by simpa using hcur)
  · exact h
  · exact h

theorem Guarded.blockTurn (turn) : Guarded (s.blockTurn turn) := by
  have hdone : ∀ tag, ((s.blockTurn turn).status tag).done = (s.status tag).done := by
    intro tag
    simp only [ControlState.blockTurn]
    split <;> rfl
  constructor
  · intro flight hfl hrunning
    rw [hdone] at hrunning
    exact h.running flight hfl hrunning
  · intro flight hfl
    obtain ⟨blocked, hblocked⟩ := h.current flight hfl
    exact ⟨if flight.context.turnId = turn then true else blocked,
      by simp [ControlState.blockTurn, hblocked]⟩
  · exact h.known

theorem Guarded.register {context tag}
    (hfresh : ¬(s.registered.any fun flight => flight.tag = tag) = true)
    (hreg : s.register context tag = .ok s') : Guarded s' := by
  unfold ControlState.register ControlState.check at hreg
  split at hreg
  · cases hreg
  · rename_i hcheck
    split_ifs at hcheck with hstale
    obtain rfl := Except.ok.inj hreg
    simp only [Bool.or_eq_true, decide_eq_true_eq, not_or, not_not] at hstale
    have hnew : ∀ flight ∈ s.registered, flight.tag ≠ tag := by simpa using hfresh
    constructor
    · intro flight hfl hrunning
      rcases List.mem_cons.1 hfl with rfl | hold
      · exact List.mem_cons_self
      · simp only [update_of_ne (hnew flight hold)] at hrunning
        exact List.mem_cons_of_mem _ (h.running flight hold hrunning)
    · intro flight hfl
      rcases List.mem_cons.1 hfl with rfl | hold
      · exact ⟨false, hstale.2⟩
      · exact h.current flight hold
    · intro flight hfl
      rcases List.mem_cons.1 hfl with rfl | hold
      · exact List.mem_cons_self
      · exact List.mem_cons_of_mem _ (h.known flight hold)

theorem Guarded.complete (tag : String) (clean : Bool) :
    Guarded (s.complete tag clean) := by
  refine ⟨fun flight hfl hrunning => ?_, h.current, h.known⟩
  by_cases htag : flight.tag = tag
  · simp [ControlState.complete, htag] at hrunning
  · simp only [ControlState.complete, update_of_ne htag] at hrunning
    exact h.running flight hfl hrunning

theorem Guarded.beginTurn (hbegin : s.beginTurn turn = .ok s') : Guarded s' := by
  unfold ControlState.beginTurn at hbegin
  split_ifs at hbegin with hpend
  obtain rfl := Except.ok.inj hbegin
  simp only [Bool.or_eq_true, not_or, Bool.not_eq_true, Bool.not_eq_false',
    List.isEmpty_iff] at hpend
  exact ⟨h.running, by simp [hpend.2], h.known⟩

/-- The calls that wait are no part of the fence. -/
theorem Guarded.setDrains (drains : Nat → Option (String × Bool)) :
    Guarded { s with drains } :=
  ⟨h.running, h.current, h.known⟩

theorem Guarded.step (hstep : ControlStep lenient s label s')
    (hsettled : Settled lenient s label) (hopen : label ≠ .confirmShutdown) : Guarded s' := by
  cases label <;> simp only [ControlStep, ControlState.next] at hstep
  case register context tag =>
    split_ifs at hstep with hfresh
    split at hstep
    · rename_i hreg
      exact Option.some.inj hstep ▸ h.register hfresh hreg
    · exact Option.some.inj hstep ▸ h
  case complete tag clean =>
    split_ifs at hstep
    exact Option.some.inj hstep ▸ h.complete tag clean
  case beginTurn turn =>
    split at hstep
    · rename_i hbegin
      exact Option.some.inj hstep ▸ h.beginTurn hbegin
    · exact Option.some.inj hstep ▸ h
  case blockTurn turn => exact Option.some.inj hstep ▸ h.blockTurn turn
  case drain i turn finish =>
    split_ifs at hstep
    exact Option.some.inj hstep ▸ (h.blockTurn turn).setDrains _
  case poll i =>
    split at hstep
    · cases hstep
    · rename_i turn finish hdrain
      have hpoll := h.poll finish fun hlenient =>
        hsettled hlenient turn finish hdrain
      split at hstep
      · rename_i heq
        rw [heq] at hpoll
        exact Option.some.inj hstep ▸ hpoll
      · rename_i heq
        rw [heq] at hpoll
        exact Option.some.inj hstep ▸ hpoll.setDrains _
  case timeout i =>
    split at hstep
    · cases hstep
    · exact Option.some.inj hstep ▸ h.setDrains _
  case confirmShutdown => exact absurd rfl hopen

end

end Steps

/-- **The fence between turns.**  In every run before a confirmed shutdown, under either policy,
if a lenient drain never looks at an unclean flight while another flight of its turn is running,
then every drain that succeeds and every turn that begins finds all earlier flights done. -/
theorem turns_fenced (lenient : Bool) (tr : List (ControlState × ControlLabel)) (s : ControlState)
    (hrun : Run (ControlStep lenient) {} tr s) (hopen : ∀ e ∈ tr, e.2 ≠ .confirmShutdown)
    (hsettled : ∀ e ∈ tr, Settled lenient e.1 e.2) : ∀ e ∈ tr, Fenced lenient e.1 e.2 := by
  intro e he
  have hallowed : ∀ e ∈ tr, Settled lenient e.1 e.2 ∧ e.2 ≠ .confirmShutdown :=
    fun e he => ⟨hsettled e he, hopen e he⟩
  have hguard : Guarded e.1 := hrun.invariant_at Guarded.initial
    (fun s label _ h (hlabel : Settled lenient s label ∧ label ≠ .confirmShutdown) hstep =>
      h.step hstep hlabel.1 hlabel.2) hallowed e he
  exact hguard.fenced (hsettled e he)

/-- Two flights of one turn, the first of which ends uncleanly. -/
def uncleanFlights : List ControlLabel :=
  [.beginTurn "one", .register ⟨"one", "a"⟩ "a", .register ⟨"one", "b"⟩ "b", .complete "a" false]

/-- A lenient drain that waits for the second flight keeps the fence: it succeeds although the
first flight is unclean, and the next turn begins. -/
theorem lenient_fenced : ∃ tr s, Run (ControlStep true) {} tr s ∧ s.turn = some ("two", false) ∧
    (s.registered.length = 2 ∧ TurnDone s "one") ∧ ∀ e ∈ tr, Fenced true e.1 e.2 := by
  have hsched : Along (ControlState.next true)
      (fun s label => label ≠ .confirmShutdown ∧ Settled true s label)
      (fun s => s.turn = some ("two", false) ∧ s.registered.length = 2 ∧ TurnDone s "one") {}
      (uncleanFlights ++
        [.complete "b" true, .drain 0 "one" true, .poll 0, .beginTurn "two"]) := by
    refine ⟨⟨by simp, trivial⟩, ⟨by simp, trivial⟩, ⟨by simp, trivial⟩, ⟨by simp, trivial⟩,
      ⟨by simp, trivial⟩, ⟨by simp, trivial⟩, ⟨by simp, ?_⟩, ⟨by simp, trivial⟩, rfl, rfl, ?_⟩
    · -- the drain does look at the unclean flight, but both flights are done by then
      intro _ turn finish hdrain _
      obtain ⟨⟩ := hdrain
      decide
    · unfold TurnDone
      decide
  obtain ⟨tr, s, hrun, hall, hturn, hdone⟩ := hsched.run (controlStep_of_next true)
  exact ⟨tr, s, hrun, hturn, hdone, turns_fenced true tr s hrun (fun e he => (hall e he).1)
    fun e he => (hall e he).2⟩

/-- **One unclean flight releases the other.**  Under the lenient policy the drain succeeds and
the next turn begins while flight `b` of the first turn is still running. -/
theorem lenient_unfenced : ∃ tr s, Run (ControlStep true) {} tr s ∧
    (∀ e ∈ tr, e.2 ≠ .confirmShutdown) ∧ (s.status "b").done = false ∧ ¬Fenced true s (.poll 0) ∧
    ∃ s₁ s₂, ControlStep true s (.poll 0) s₁ ∧ s₁.beginTurn "two" = .ok s₂ ∧
      (s₁.status "b").done = false ∧ ¬Fenced true s₁ (.beginTurn "two") := by
  have hb : ∀ s : ControlState, ⟨⟨"one", "b"⟩, "b"⟩ ∈ s.registered →
      (s.status "b").done = false → ¬TurnDone s "one" := by
    intro s hmem hrunning hdone
    have := hdone ⟨⟨"one", "b"⟩, "b"⟩ hmem rfl
    rw [hrunning] at this
    cases this
  have hsched : Along (ControlState.next true) (fun _ label => label ≠ .confirmShutdown)
      (fun s => (s.status "b").done = false ∧ ¬Fenced true s (.poll 0) ∧
        ∃ s₁ s₂, ControlStep true s (.poll 0) s₁ ∧ s₁.beginTurn "two" = .ok s₂ ∧
          (s₁.status "b").done = false ∧ ¬Fenced true s₁ (.beginTurn "two")) {}
      (uncleanFlights ++ [.drain 0 "one" true]) := by
    refine ⟨by simp, by simp, by simp, by simp, by simp, rfl, ?_, _, _, rfl, rfl, rfl, ?_⟩
    · intro hfenced
      exact hb _ List.mem_cons_self rfl (hfenced "one" true rfl rfl)
    · intro hfenced
      exact hb _ List.mem_cons_self rfl (hfenced _ rfl "one")
  obtain ⟨tr, s, hrun, hopen, hfinal⟩ := hsched.run (controlStep_of_next true)
  exact ⟨tr, s, hrun, hopen, hfinal⟩

end XGovernor.E2b
