import XGovernor.App.Bookings
import XGovernor.Lib.Interleaving

/-!
# Whether a closed session stays closed

The calls on a session read its record, change it and save it, with other calls in between.  A
session that is stored as closed stays so in every interleaving in which no call is under way that
might still write an older status: nothing but `close` and `reclaim` starts on a closed session,
nothing but these is in flight on a session when it is closed, and no new session is stored under
the id of a closed one.  The source checks none of this.
-/

namespace XGovernor.App

open Domain Joint Manager Lib Function

/-! ## The calls -/

/-- The calls that read and save session records, and the task of a turn. -/
inductive RecordCall where
  | close (ctx : SecurityContext) (runtimeId : String) (lease : SessionLeaseClaim)
  | reclaim (ctx : SecurityContext) (runtimeId : String)
  | openSession (ctx : SecurityContext) (request : SessionOpenRequest)
  | submitTurn (ctx : SecurityContext) (request : SessionTurnRequest)
  | forward (kind runtimeId turnId : String) (events : List RuntimeEvent)
  | answerInteraction (ctx : SecurityContext) (request : SessionInteractionRequest)
  | cancel (ctx : SecurityContext) (runtimeId : String) (turnId : Option String)
  | exec (ctx : SecurityContext) (request : SessionExecRequest)
  | checkpoint (ctx : SecurityContext) (request : SessionCheckpointRequest)
  | fork (ctx : SecurityContext) (request : SessionForkRequest)

namespace RecordCall

/-- A program whose result nobody looks at. -/
def discard {α : Type} (p : AppM α) : AppM Unit :=
  p.bind fun _ => pure ()

def body (config : Config) : RecordCall → AppM Unit
  | close ctx runtimeId lease => discard (App.close config ctx runtimeId lease)
  | reclaim ctx runtimeId => discard (App.reclaim config ctx runtimeId)
  | openSession ctx request => discard (App.openSession config ctx request)
  | submitTurn ctx request => discard (App.submitTurn config ctx request)
  | forward kind runtimeId turnId events => App.forward kind runtimeId turnId events
  | answerInteraction ctx request => discard (App.answerInteraction config ctx request)
  | cancel ctx runtimeId turnId => App.cancel config ctx runtimeId turnId
  | exec ctx request => discard (App.exec config ctx request)
  | checkpoint ctx request => discard (App.checkpoint config ctx request)
  | fork ctx request => discard (App.fork config ctx request)

/-- The sessions that the call was made on and may write a status other than closed to. -/
def uses : RecordCall → List String
  | close _ _ _ | reclaim _ _ => []
  | openSession _ request => request.runtimeId.toList
  | submitTurn _ request => [request.runtimeId]
  | forward _ runtimeId _ _ => [runtimeId]
  | answerInteraction _ request => [request.runtimeId]
  | cancel _ runtimeId _ => [runtimeId]
  | exec _ request => [request.runtimeId]
  | checkpoint _ request => [request.runtimeId]
  | fork _ request => [request.parentRuntimeId]

/-- The calls that may store a session under an id that they were not made on. -/
def creates : RecordCall → Bool
  | openSession _ _ | fork _ _ => true
  | _ => false

end RecordCall

/-- The calls side by side; nothing waits for anything. -/
def recordSystem (config : Config) :
    System Env State Effect Effect.Reply SessionDomainError RecordCall where
  handle := handle config
  body := RecordCall.body config
  enabled := fun _ _ => True
  suspends := Effect.suspends

instance (config : Config) (s e) : Decidable ((recordSystem config).enabled s e) :=
  .isTrue trivial

abbrev RecordPool := Pool State Effect Effect.Reply SessionDomainError RecordCall

/-- No call is in flight. -/
def State.idlePool (s : State) : RecordPool where
  state := s
  threads := fun _ => none

/-- The step starts no call on a closed session, closes no session that a call in flight was made
on, and stores no new session under the id of a closed one. -/
def Careful (pool : RecordPool) : Move Env RecordCall → Prop
  | .start _ c => ∀ id ∈ c.uses, NotClosed pool.state.store id
  | .perform i _ => ∀ c site record onDrop k,
      pool.threads i = some (c, .perform (.saveSession site record) onDrop k) →
        (record.status = .closed → ∀ c', pool.InFlight c' → record.runtimeId ∉ c'.uses) ∧
        (c.creates = true → record.runtimeId ∉ c.uses → NotClosed pool.state.store record.runtimeId)
  | .drop _ | .finish _ => True

/-- A careful step, in which joint owners use the transactions of their own repository. -/
def CarefulStep (store : StoreConfig) (config : Config) (pool : RecordPool)
    (move : Move Env RecordCall) (pool' : RecordPool) : Prop :=
  (recordSystem config).Step pool move pool' ∧ Careful pool move ∧
    ∀ i env, move = .perform i env → OwnerActs store env

/-! ## What a call may save -/

/-- A lookup returns the record that stands under the id. -/
def Keyed : (e : Effect) → e.Reply → Prop
  | .getSession _ id, .ok (some record) => record.runtimeId = id
  | _, _ => True

/-- A call closes sessions, writes to the sessions it was made on, or creates one. -/
def Permitted (c : RecordCall) : Effect → Prop
  | .saveSession _ record =>
    record.status = .closed ∨ record.runtimeId ∈ c.uses ∨ c.creates = true
  | _ => True

/-- The condition on an effect and on the guards that are alive. -/
def Allowed (c : RecordCall) (e : Effect) (onDrop : State → State) : Prop :=
  Permitted c e ∧ ∀ s, (onDrop s).store = s.store

section Rules

variable {c : RecordCall} {ctx : SecurityContext} {id : String}

theorem Allowed.of_writesRecords {e} (he : e.writesRecords = false) :
    Allowed c e fun s => s := by
  refine ⟨?_, fun _ => rfl⟩
  cases e <;> trivial

theorem Allowed.owner (call) : Allowed c (.owner call) fun s => s :=
  ⟨trivial, fun _ => rfl⟩

theorem readRules_allowed (c) (Own : SessionRecord → Prop) :
    ReadRules (Allowed c) Own where
  passive := fun _ he _ => .of_writesRecords (Effect.writesRecords_of_passive he)
  owner := fun _ _ _ => .owner _

theorem Allowed.guard {e onDrop} (h : Allowed c e onDrop) (runtimeId operationId : String) :
    Allowed c e fun s => (onDrop s).release runtimeId operationId := by
  refine ⟨h.1, fun s => ?_⟩
  rw [release_store]
  exact h.2 s

/-- A call writes back the session it was made on. -/
theorem discipline_allowed (hid : id ∈ c.uses) :
    Discipline (Allowed c) fun record => record.runtimeId = id where
  toReadRules := readRules_allowed c _
  save := by
    intro site old new _ hold hback
    refine ⟨.inr (.inl ?_), fun _ => rfl⟩
    rw [hback.runtimeId, hold]
    exact hid

theorem lookupRules_allowed (c ctx id) :
    LookupRules ctx id Keyed (Allowed c) fun record => record.runtimeId = id where
  toReadRules := readRules_allowed c _
  neutral := fun _ he _ => .of_writesRecords he
  read := fun hread _ => hread

theorem callRules_allowed (hid : id ∈ c.uses) (ctx) :
    CallRules ctx id Keyed (Allowed c) fun record => record.runtimeId = id where
  toDiscipline := discipline_allowed hid
  neutral := (lookupRules_allowed c ctx id).neutral
  read := (lookupRules_allowed c ctx id).read
  guard := fun _ _ _ he => he.guard _ _

theorem closeRules_allowed (c ctx id) :
    CloseRules ctx id Keyed (Allowed c) fun record => record.runtimeId = id where
  toLookupRules := lookupRules_allowed c ctx id
  destroy := fun _ _ _ => ⟨trivial, fun _ => rfl⟩
  closed := fun _ _ _ _ hclosed => ⟨.inl hclosed, fun _ => rfl⟩
  slot := fun _ => .of_writesRecords rfl

theorem createRules_allowed (hcreates : c.creates = true) (ctx id) :
    CreateRules ctx id (Allowed c) where
  neutral := fun _ he => .of_writesRecords he
  instances := fun _ _ _ _ => ⟨trivial, fun _ => rfl⟩
  publish := fun _ => ⟨.inr (.inr hcreates), fun _ => rfl⟩

/-- A call that may create a session may also attach to one under the id it was given or has
generated. -/
theorem openRules_allowed (hcreates : c.creates = true) (ctx) (requested : Option String) :
    OpenRules ctx requested Keyed (Allowed c) fun _ => True where
  neutral := fun _ he _ => .of_writesRecords he
  owner := fun call _ => .owner call
  attach := fun _ =>
    { toReadRules := readRules_allowed c _
      save := fun _ _ _ => ⟨.inr (.inr hcreates), fun _ => rfl⟩
      neutral := fun _ he _ => .of_writesRecords he
      read := fun _ _ => trivial
      guard := fun _ _ _ he => he.guard _ _ }
  create := fun _ _ => createRules_allowed hcreates ctx _

end Rules

/-- **Every call** saves only what it may. -/
theorem RecordCall.runs_body (config : Config) (c : RecordCall) :
    (c.body config).Runs Keyed (Allowed c) := by
  have hdiscard {α : Type} {p : AppM α} (hp : p.Runs Keyed (Allowed c)) :
      (discard p).Runs Keyed (Allowed c) := hp.bind fun _ => trivial
  cases c with
  | close ctx runtimeId lease =>
    exact hdiscard ((closeRules_allowed _ ctx runtimeId).runs_close lease)
  | reclaim ctx runtimeId => exact hdiscard (closeRules_allowed _ ctx runtimeId).runs_reclaim
  | openSession ctx request => exact hdiscard (openRules_allowed rfl ctx _).runs_openSession
  | submitTurn ctx request => exact hdiscard (callRules_allowed (.head _) ctx).runs_submitTurn
  | forward kind runtimeId turnId events =>
    exact (discipline_allowed (.head _)).runs_forwardFrom id (fun _ _ => .of_writesRecords rfl) kind
      turnId 0 events
  | answerInteraction ctx request =>
    exact hdiscard (callRules_allowed (.head _) ctx).runs_answerInteraction
  | cancel ctx runtimeId turnId => exact (callRules_allowed (.head _) ctx).runs_cancel turnId
  | exec ctx request => exact hdiscard (callRules_allowed (.head _) ctx).runs_exec
  | checkpoint ctx request =>
    exact hdiscard ((callRules_allowed (.head _) ctx).runs_checkpoint
      (fun hown hback => hback.runtimeId.trans hown) fun _ => ⟨trivial, fun _ => rfl⟩)
  | fork ctx request =>
    exact hdiscard ((callRules_allowed (.head _) ctx).runs_fork
      fun target _ => createRules_allowed rfl ctx target)

/-! ## One step -/

/-- The status that is stored for a split session. -/
def statusAt (db : Db) (id : String) : Option SessionStatus :=
  (db.sessions.get? id).map (·.status)

theorem notClosed_iff {db} {id : String} :
    NotClosed db id ↔ statusAt db id ≠ some .closed := by
  unfold NotClosed statusAt
  cases db.sessions.get? id <;> simp

theorem statusAt_saved {db db' record} (hsess : db'.sessions.get? = savedSessions db record) :
    statusAt db' = update (statusAt db) record.runtimeId (some record.status) := by
  change Option.map _ ∘ db'.sessions.get? = _
  rw [hsess, savedSessions, Function.comp_update]
  rfl

section Step

variable {store : StoreConfig} {config : Config} {env : Env} {s : State}

/-- Only a save changes a split session. -/
theorem statusAt_handle (howner : OwnerActs store env) (h : StoreReachable store s.store) {e}
    (he : ∀ site record, e ≠ .saveSession site record) :
    statusAt (handle config env s e).2.store = statusAt s.store := by
  have hsess : (handle config env s e).2.store.sessions = s.store.sessions := by
    cases e with
    | saveSession site record => exact absurd rfl (he site record)
    | owner call => exact (howner.kept call h).2.2
    | reserveTenantSession tenant limit => rw [handle_store rfl]
    | releaseTenantSession tenant => rfl
    | _ => exact (handle_sessions rfl).1
  unfold statusAt
  rw [hsess]

theorem keyed_handle (h : StoreReachable store s.store) (e) :
    Keyed e (App.handle config env s e).1 := by
  cases e with
  | getSession site id =>
    rcases handle_getSession config env s site id with ⟨_, -, hread⟩ | ⟨_, -, hread⟩
    · rw [hread]
      cases hfound : Joint.readSession s.store id with
      | none => trivial
      | some record => exact readSession_runtimeId h hfound
    · rw [hread]
      trivial
  | _ => trivial

end Step

/-- Transactions have led to the store, the calls save what they may, and none of them was made on
a session that is closed. -/
structure Untouched (store : StoreConfig) (pool : RecordPool) : Prop where
  reachable : StoreReachable store pool.state.store
  keeps : pool.Keeps (fun _ => Keyed) Allowed
  notClosed : ∀ c, pool.InFlight c → ∀ id ∈ c.uses, NotClosed pool.state.store id

section Runs

variable {store : StoreConfig} {config : Config} {pool pool' : RecordPool}
  {move : Move Env RecordCall}

section

variable (h : Untouched store pool) (hstep : CarefulStep store config pool move pool')
include h hstep

/-- What a careful step does to the stored statuses: nothing, or it saves one record, under an id
that is not closed unless the record is, and that no call in flight was made on if it is. -/
theorem Untouched.status_cases :
    statusAt pool'.state.store = statusAt pool.state.store ∨
      ∃ record : SessionRecord,
        statusAt pool'.state.store = update (statusAt pool.state.store) record.runtimeId
          (some record.status) ∧
        (record.status ≠ .closed → NotClosed pool.state.store record.runtimeId) ∧
        (record.status = .closed → ∀ c, pool.InFlight c → record.runtimeId ∉ c.uses) := by
  obtain ⟨hstep, hcare, howner⟩ := hstep
  rcases h.keeps.state_cases hstep with
    hstate | ⟨i, env, c, e, onDrop, k, rfl, hthr, hallowed, hstate⟩ |
      ⟨i, c, e, onDrop, -, -, hallowed, hstate⟩
  · rw [hstate]
    exact .inl rfl
  · rw [hstate]
    by_cases hsave : ∃ site record, e = .saveSession site record
    · obtain ⟨site, record, rfl⟩ := hsave
      rcases handle_saveSession config env pool.state site record with
        ⟨-, sessions, hsess, hhandle⟩ | ⟨-, error, hhandle⟩
      · have hcond := hcare c site record onDrop k hthr
        have hsaved : statusAt (pool.state.withStore { pool.state.store with sessions }).store =
            update (statusAt pool.state.store) record.runtimeId (some record.status) :=
          statusAt_saved hsess
        refine .inr ⟨record, ?_, fun hopen => ?_, hcond.1⟩
        · show statusAt (handle config env pool.state (.saveSession site record)).2.store = _
          rw [hhandle]
          exact hsaved
        · -- a call saves another status only where it was made on the session, or creates it
          by_cases hused : record.runtimeId ∈ c.uses
          · exact h.notClosed c ⟨i, _, hthr⟩ _ hused
          · rcases hallowed.1 with hclosed | hmem | hcreates
            · exact absurd hclosed hopen
            · exact absurd hmem hused
            · exact hcond.2 hcreates hused
      · left
        show statusAt (handle config env pool.state (.saveSession site record)).2.store = _
        rw [hhandle]
    · left
      -- all other effects leave the statuses alone, those of a joint owner as the store does
      exact statusAt_handle (howner i env rfl) h.reachable
        fun site record he => hsave ⟨site, record, he⟩
  · left
    rw [hstate]
    rw [hallowed.2]

theorem Untouched.reachable_step :
    StoreReachable store pool'.state.store := by
  obtain ⟨hstep, -, howner⟩ := hstep
  rcases h.keeps.state_cases hstep with
    hstate | ⟨i, env, c, e, onDrop, k, rfl, -, -, hstate⟩ |
      ⟨i, c, e, onDrop, -, -, hallowed, hstate⟩
  · rw [hstate]
    exact h.reachable
  · rw [hstate]
    exact storeReachable_handle (howner i env rfl) h.reachable e
  · rw [hstate, hallowed.2]
    exact h.reachable

theorem Untouched.notClosed_step :
    ∀ c, pool'.InFlight c → ∀ id ∈ c.uses, NotClosed pool'.state.store id := by
  intro c hc id hid
  rw [notClosed_iff]
  rcases hstep.1.inFlight hc with hold | ⟨i, rfl⟩
  · have hbef := notClosed_iff.mp (h.notClosed c hold id hid)
    rcases h.status_cases hstep with hsame | ⟨record, hsaved, -, hclosing⟩
    · rw [hsame]
      exact hbef
    · rw [hsaved]
      by_cases hrec : id = record.runtimeId
      · subst hrec
        rw [update_self]
        intro hclosed
        exact hclosing (Option.some.inj hclosed) c hold hid
      · rw [update_of_ne hrec]
        exact hbef
  · -- the call has just started, and the state is the one it started in
    have hstart : NotClosed pool.state.store id := hstep.2.1 id hid
    rcases hstep with ⟨hmove, -, -⟩
    cases hmove
    exact notClosed_iff.mp hstart

/-- **One careful step** keeps the calls apart from closed sessions. -/
theorem Untouched.step :
    Untouched store pool' where
  reachable := h.reachable_step hstep
  keeps := h.keeps.step (RecordCall.runs_body config)
    (fun _ _ e _ => keyed_handle h.reachable e) hstep.1
  notClosed := h.notClosed_step hstep

/-- A closed session is closed after the step. -/
theorem Untouched.closed_step
    {id} (hclosed : statusAt pool.state.store id = some .closed) :
    statusAt pool'.state.store id = some .closed := by
  rcases h.status_cases hstep with hsame | ⟨record, hsaved, hopening, -⟩
  · rw [hsame, hclosed]
  · rw [hsaved]
    by_cases hid : id = record.runtimeId
    · subst hid
      rw [update_self]
      by_contra hother
      have hopen : record.status ≠ .closed := fun hstat => hother (by rw [hstat])
      exact notClosed_iff.mp (hopening hopen) hclosed
    · rw [update_of_ne hid, hclosed]

end

end Runs

/-- **Closed is absorbing** in every interleaving of careful steps: a session that is stored as
closed at some point is stored as closed at every later point. -/
theorem closed_is_absorbing (store : StoreConfig) (config : Config) (s₀ : State)
    (tr tr' : List (RecordPool × Move Env RecordCall)) (pool pool' : RecordPool)
    (hstore : StoreReachable store s₀.store)
    (hrun : Run (CarefulStep store config) s₀.idlePool tr pool)
    (hlater : Run (CarefulStep store config) pool tr' pool') (id : String)
    (hclosed : statusAt pool.state.store id = some .closed) :
    statusAt pool'.state.store id = some .closed := by
  have hidle : Untouched store s₀.idlePool := by
    refine ⟨hstore, fun i c p hthr => ?_, ?_⟩
    · cases hthr
    · rintro c ⟨i, p, hthr⟩
      cases hthr
  have hpool : Untouched store pool := hrun.invariant hidle fun _ _ _ h hstep => h.step hstep
  refine (hlater.invariant (P := fun pool => Untouched store pool ∧
    statusAt pool.state.store id = some .closed) ⟨hpool, hclosed⟩ ?_).2
  rintro pool move pool' ⟨h, hclosed⟩ hstep
  exact ⟨h.step hstep, h.closed_step hstep hclosed⟩

/-! ## Checking a run -/

/-- `Careful`, for a pool whose calls have numbers below `n`. -/
def carefulBelow (n : Nat) (pool : RecordPool) : Move Env RecordCall → Bool
  | .start _ c => c.uses.all fun id => statusAt pool.state.store id ≠ some .closed
  | .perform i _ =>
    match pool.threads i with
    | some (c, .perform (.saveSession _ record) _ _) =>
      (record.status ≠ .closed || (List.range n).all fun j =>
        (pool.threads j).all fun thread => !thread.1.uses.contains record.runtimeId) &&
      (!c.creates || c.uses.contains record.runtimeId ||
        statusAt pool.state.store record.runtimeId ≠ some .closed)
    | _ => true
  | .drop _ | .finish _ => true

/-- The moves can be made, are careful, and lead to a pool as described. -/
def leads (config : Config) (n : Nat) (pool : RecordPool) (moves : List (Move Env RecordCall))
    (post : RecordPool → Bool) : Bool :=
  ((recordSystem config).replay pool moves).any fun run =>
    (run.1.all fun step => carefulBelow n step.1 step.2) && post run.2

section Check

variable {store : StoreConfig} {config : Config} {n : Nat} {pool pool' : RecordPool}

theorem careful_of_below {move} (hfree : ∀ j, n ≤ j → pool.threads j = none)
    (h : carefulBelow n pool move = true) : Careful pool move := by
  cases move with
  | start i c =>
    intro id hid
    exact notClosed_iff.mpr (of_decide_eq_true (List.all_eq_true.mp h id hid))
  | perform i env =>
    intro c site record onDrop k hthr
    simp only [carefulBelow, hthr, Bool.and_eq_true, Bool.or_eq_true, decide_eq_true_eq,
      List.all_eq_true, List.mem_range, Bool.not_eq_true', List.contains_eq_mem] at h
    refine ⟨fun hclosed c' hflight hmem => ?_, fun hcreates hnew => ?_⟩
    · obtain ⟨j, p, hj⟩ := hflight
      have hlt : j < n := by
        by_contra hle
        cases (hfree j (Nat.le_of_not_lt hle)).symm.trans hj
      have hother := h.1.resolve_left (fun hne => hne hclosed) j hlt
      rw [hj] at hother
      simp [hmem] at hother
    · rw [notClosed_iff]
      rcases h.2 with (hnone | hused) | hopen
      · cases hcreates.symm.trans hnone
      · exact absurd hused hnew
      · exact hopen
  | drop i => trivial
  | finish i => trivial

/-- The moves of a checked run are careful steps, and no call has a number from `n` on. -/
theorem carefulRun_of_check {tr : List (RecordPool × Move Env RecordCall)}
    (hrun : Run (recordSystem config).Step pool tr pool')
    (hfree : ∀ j, n ≤ j → pool.threads j = none)
    (htr : ∀ step ∈ tr, step.2.thread < n ∧ carefulBelow n step.1 step.2 = true ∧
      ∀ i env, step.2 = .perform i env → OwnerActs store env) :
    Run (CarefulStep store config) pool tr pool' ∧ ∀ j, n ≤ j → pool'.threads j = none := by
  have hlast {tr pool'} (hrun : Run (recordSystem config).Step pool tr pool')
      (hlt : ∀ step ∈ tr, step.2.thread < n) (j) (hj : n ≤ j) : pool'.threads j = none := by
    rw [System.threads_of_ne hrun fun step hmem => (Nat.lt_of_lt_of_le (hlt step hmem) hj).ne]
    exact hfree j hj
  refine ⟨?_, hlast hrun fun step hmem => (htr step hmem).1⟩
  induction hrun with
  | nil => exact .nil
  | @snoc tr mid last move hrun hstep ih =>
    have hinit (step) (hmem : step ∈ tr) := htr step (List.mem_append_left _ hmem)
    obtain ⟨-, hcheck, howner⟩ := htr (mid, move) (by simp)
    have hmid := hlast hrun fun step hmem => (hinit step hmem).1
    exact (ih hinit).snoc ⟨hstep, careful_of_below hmid hcheck, howner⟩

/-- The run that some moves make, if the check finds its steps careful. -/
theorem exists_carefulRun {moves : List (Move Env RecordCall)} {post : RecordPool → Bool}
    (hfree : ∀ j, n ≤ j → pool.threads j = none)
    (hmoves : ∀ move ∈ moves, move.thread < n ∧
      ∀ i env, move = .perform i env → OwnerActs store env)
    (h : leads config n pool moves post = true) :
    ∃ tr pool', Run (CarefulStep store config) pool tr pool' ∧
      (∀ j, n ≤ j → pool'.threads j = none) ∧ post pool' = true := by
  obtain ⟨⟨tr, pool'⟩, hreplay, hchk⟩ := (Option.any_eq_true _ _).mp h
  simp only [Bool.and_eq_true, List.all_eq_true] at hchk
  obtain ⟨hrun, rfl⟩ := System.run_of_replay hreplay
  have htr (step) (hmem : step ∈ tr) : step.2 ∈ tr.map Prod.snd := List.mem_map_of_mem hmem
  obtain ⟨hrun, hlast⟩ := carefulRun_of_check hrun hfree
    fun step hmem => ⟨(hmoves _ (htr step hmem)).1, hchk.1 step hmem,
      (hmoves _ (htr step hmem)).2⟩
  exact ⟨tr, pool', hrun, hlast, hchk.2⟩

end Check

namespace Sample

/-- One open session. -/
def oneOpen : State :=
  stateWith [session "t" "r" .idle]

def turnRequest : SessionTurnRequest :=
  { runtimeId := "r", text := "", llm := none, reasoningEffort := none, clientRequestId := none,
    lease := noLease, ext := [] }

/-- `n` effects of one call. -/
def performs (i n : Nat) : List (Move Env RecordCall) :=
  List.replicate n (.perform i env)

/-- A call that is made and left alone, with `n` effects. -/
def alone (c : RecordCall) (n : Nat) : List (Move Env RecordCall) :=
  .start 0 c :: performs 0 n ++ [.finish 0]

end Sample

/-- A turn is submitted on a closed session: its runtime is gone, the restoration fails, and the
session is stored as failed. -/
theorem turn_on_closed_session_reopens :
    ∃ tr pool tr' pool', Run (recordSystem (Sample.config [("e2b", "m")])).Step
        Sample.oneOpen.idlePool tr pool ∧ statusAt pool.state.store "r" = some .closed ∧
      Run (recordSystem (Sample.config [("e2b", "m")])).Step pool tr' pool' ∧
      statusAt pool'.state.store "r" = some .failed := by
  let sys := recordSystem (Sample.config [("e2b", "m")])
  let closing := (sys.replay Sample.oneOpen.idlePool
    (Sample.alone (.close (Sample.tenant "t") "r" Sample.noLease) 12)).get (by decide +kernel)
  let submitting := (sys.replay closing.2
    (Sample.alone (.submitTurn (Sample.tenant "t") Sample.turnRequest) 6)).get (by decide +kernel)
  exact ⟨closing.1, closing.2, submitting.1, submitting.2, System.run_replay _, by decide +kernel,
    System.run_replay _, by decide +kernel⟩

namespace Sample

/-- A turn is submitted on the one session, and while it is under way the other one is closed. -/
def closeBeside : List (Move Env RecordCall) :=
  .start 1 (.submitTurn (tenant "t") { turnRequest with runtimeId := "b" }) :: performs 1 3 ++
    alone (.close (tenant "t") "a" noLease) 12

/-- The closed session is closed once more, and the turn goes on. -/
def closeAgain : List (Move Env RecordCall) :=
  alone (.close (tenant "t") "a" noLease) 12 ++ performs 1 3 ++ [.finish 1]

theorem moves_below {moves : List (Move Env RecordCall)}
    (h : moves = closeBeside ∨ moves = closeAgain) (move) (hmem : move ∈ moves) :
    move.thread < 2 ∧ ∀ i env', move = .perform i env' → OwnerActs smallConfig env' := by
  have howner : OwnerActs smallConfig env := fun _ _ _ => ⟨[], .nil⟩
  rcases h with rfl | rfl
  all_goals
    simp only [closeBeside, closeAgain, alone, performs, List.cons_append, List.append_assoc,
      List.mem_cons, List.mem_append, List.mem_replicate, List.not_mem_nil, or_false] at hmem
    grind [Move.thread]

/-- The turn is under way, and goes on to fail after the second close. -/
def closedOnce (pool : RecordPool) : Bool :=
  statusAt pool.state.store "a" = some .closed && (pool.threads 1).isSome &&
    leads (config [("e2b", "m")]) 2 pool closeAgain fun last =>
      statusAt last.state.store "b" = some .failed

end Sample

/-- A session is closed while a turn of another one is under way, and closed once more before that
turn ends: the turn stores its failure, and the closed session stays closed. -/
theorem second_close_stays_closed :
    ∃ tr pool tr' pool', Run (CarefulStep smallConfig (Sample.config [("e2b", "m")]))
        Sample.twoOpen.idlePool tr pool ∧
      statusAt pool.state.store "a" = some .closed ∧ (pool.threads 1).isSome = true ∧
      Run (CarefulStep smallConfig (Sample.config [("e2b", "m")])) pool tr' pool' ∧
      statusAt pool'.state.store "b" = some .failed ∧
      statusAt pool'.state.store "a" = some .closed := by
  have hstore : StoreReachable smallConfig Sample.twoOpen.store :=
    storeReachable_execAll smallConfig
      [.saveSession (Sample.session "t" "a" .idle), .saveSession (Sample.session "t" "b" .idle)]
  have hfirst : leads (Sample.config [("e2b", "m")]) 2 Sample.twoOpen.idlePool Sample.closeBeside
      Sample.closedOnce = true := by decide +kernel
  obtain ⟨tr, pool, hrun, hfree, hpost⟩ := exists_carefulRun (fun _ _ => rfl)
    (Sample.moves_below (.inl rfl)) hfirst
  simp only [Sample.closedOnce, Bool.and_eq_true, decide_eq_true_eq] at hpost
  obtain ⟨⟨hclosed, hflight⟩, hagain⟩ := hpost
  obtain ⟨tr', pool', hlater, -, hfailed⟩ := exists_carefulRun hfree
    (Sample.moves_below (.inr rfl)) hagain
  exact ⟨tr, pool, tr', pool', hrun, hclosed, hflight, hlater, of_decide_eq_true hfailed,
    closed_is_absorbing smallConfig _ _ tr tr' pool pool' hstore hrun hlater "a" hclosed⟩

end XGovernor.App
