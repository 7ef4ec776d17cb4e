import XGovernor.Manager.Moves

/-!
# Quotas and registry under concurrent calls

Starts, loads, stops, destructions and sweeps in any interleaving, with no reconciliation running.
Two things are asked of the run: the provider hands out each instance id once, and a deletion that
a call asks for right after a lookup is of the instance that it found.  All calls but the sweep do
the latter by themselves; a sweep deletes the instance that its queue entry names, which need not be
the one that is registered by then.
-/

namespace XGovernor.Manager

open Lib Function

/-! ## Careful runs -/

/-- An instance that the provider hands out has a new id. -/
def freshInstance (known : List String) : (e : Effect) → e.Reply → Bool
  | .create _ _, .ok instance_ | .load _, .ok instance_ => instance_.instanceId ∉ known
  | _, _ => true

/-- What a step does, for a check of the effect, its reply and the effect that comes next. -/
def checkStep (config : Config) (check : (e : Effect) → e.Reply → Option Effect → Bool)
    (pool : CallPool) : Move Answers Call → Bool
  | .perform i answer =>
    match pool.threads i with
    | some (_, .perform (.manager e) _ k) =>
      check e (pool.state.reply config answer e)
        ((k (pool.state.reply config answer e)).head.bind WorldEffect.inner)
    | _ => true
  | _ => true

/-- The provider hands out new ids only. -/
def uniqueIds (config : Config) (pool : CallPool) (move : Move Answers Call) : Bool :=
  checkStep config (fun e r _ => freshInstance pool.state.issued e r) pool move

/-- No reconciliation is started. -/
def ordinary : Move Answers Call → Bool
  | .start _ call =>
    match call with
    | .reconcile => false
    | _ => true
  | _ => true

/-- The steps of ordinary calls with a provider that hands out new ids. -/
def OrdinaryStep (config : Config) (pool : CallPool) (move : Move Answers Call)
    (pool' : CallPool) : Prop :=
  (callSystem config).Step pool move pool' ∧ ordinary move ∧ uniqueIds config pool move

/-- **A careful step**: in addition, what is deleted right after a lookup is what was found. -/
def CarefulStep (config : Config) (pool : CallPool) (move : Move Answers Call)
    (pool' : CallPool) : Prop :=
  OrdinaryStep config pool move pool' ∧ checkStep config foundIsDeleted pool move

section

variable {config : Config} {answer : Answers} {w : World} {pool pool' : CallPool}
  {φ : Nat → Place} {i : Nat} {runtimeId : String} {stage : Stage} {e : Effect}
  {move : Move Answers Call} {effect : WorldEffect} {place : Place}

theorem check_of_perform {check : (e : Effect) → e.Reply → Option Effect → Bool} {call : Call}
    {onDrop : World → World} {k : e.Reply → WorldM Unit}
    (hcheck : checkStep config check pool (.perform i answer) = true)
    (hthr : pool.threads i = some (call, .perform (.manager e) onDrop k)) :
    check e (pool.state.reply config answer e)
      ((k (pool.state.reply config answer e)).head.bind WorldEffect.inner) = true := by
  simpa only [checkStep, hthr] using hcheck

/-! ## One effect -/

/-- **Every effect that a call may perform** keeps the books in order. -/
theorem Accounted.perform (h : Accounted w.manager w.issued φ)
    (hi : φ i = some (runtimeId, stage)) (hallows : stage.Allows runtimeId e)
    (hfresh : freshInstance w.issued e (w.reply config answer e) = true) :
    Accounted (w.handle config answer (.manager e)).2.manager
      (w.handle config answer (.manager e)).2.issued
      (update φ i (some (runtimeId, stage.next e (w.reply config answer e)))) := by
  have hfits := h.fits i _ _ hi
  -- effects on the outside leave the books alone; none comes between a release and the removal
  have hstay (hstage : ∀ id, stage ≠ .released id) :
      Accounted w.manager w.issued (update φ i (some (runtimeId, stage))) :=
    h.stay hi hstage rfl rfl rfl rfl rfl rfl hfits
  cases e with
  | lookup key =>
    obtain ⟨rfl, rfl⟩ := hallows
    dsimp only [World.handle, World.reply, Manager.handle]
    cases hentry : w.manager.instances key with
    | none =>
      exact h.stay hi (by simp) rfl rfl rfl rfl rfl rfl (by simp [Stage.next, Stage.Fits,
        State.instanceAt, hentry])
    | some bound =>
      have hid : w.manager.instanceAt key = some bound.instance_.instanceId := by
        simp [State.instanceAt, hentry]
      -- an entry that is found under its lock is tracked: only its releaser could have untracked it
      exact h.stay hi (by simp) rfl rfl rfl rfl rfl rfl ⟨hid, h.tracked_of_entry hi (by simp) hid⟩
  | reserve owner limit =>
    obtain rfl := hallows
    dsimp only [World.handle, World.reply, Manager.handle]
    rcases w.manager.reserve_cases config owner limit with hgranted | ⟨error, href⟩
    · rw [hgranted]
      exact h.reserve hi
    · rw [href]
      exact hstay (by simp)
  | rollbackReservation owner => exact h.rollback hi hallows
  | trackInstance id owner =>
    obtain rfl := hallows
    exact h.track hi
  | insert key bound =>
    obtain ⟨rfl, owner, rfl⟩ := hallows
    exact h.insert hi
  | releaseInstance id =>
    obtain rfl := hallows
    exact h.release hi
  | remove key =>
    obtain ⟨rfl, id, rfl⟩ := hallows
    exact h.remove hi
  | create _ _ | load _ =>
    obtain rfl := hallows
    dsimp only [World.handle, World.reply, Manager.handle] at hfresh ⊢
    generalize answer _ = r at hfresh ⊢
    cases r with
    -- the id is new, so nobody can hold it
    | ok instance_ => exact h.obtain hi fun k hk => of_decide_eq_true hfresh (h.issued k _ hk)
    | error error => exact hstay (by simp)
  | recordCreated key owner instance_ =>
    obtain ⟨rfl, rfl⟩ := hallows
    dsimp only [World.handle, World.reply, Manager.handle]
    cases answer (.recordCreated key owner instance_) with
    | ok _ => exact h.stay hi (by simp) rfl rfl rfl rfl rfl rfl hfits
    | error error => exact hstay (by simp)
  | recordDeleted key =>
    obtain ⟨rfl, hloose⟩ := hallows
    have hstage : ∀ id, stage ≠ .released id := by
      rintro id rfl
      exact hloose
    dsimp only [World.handle, World.reply, Manager.handle]
    cases answer (.recordDeleted key) with
    | ok _ => exact hstay hstage
    | error error => exact hstay hstage
  | queueRelease pending => exact h.stay hi hallows rfl rfl rfl rfl rfl rfl hfits
  | takeDue | rehydrateOne _ _ | clearRestoreError _ | noteRestoreError _ _ | runtimeLock _ =>
    exact hallows.elim
  | restoreError _ | newRequestId | acquireAdmission _ | sleep _ _ | attach _ | listActive
  | delete _ | checkpoint _ | inspect _ => exact hstay hallows

/-! ## Calls in flight -/

/-- Where the calls in flight are, and that the books and the locks agree with it. -/
structure InOrder (pool : CallPool) (φ : Nat → Place) : Prop where
  places : pool.Places callProtocol none (· = none) φ
  accounted : Accounted pool.state.manager pool.state.issued φ
  locks : ∀ i runtimeId stage, φ i = some (runtimeId, stage) → pool.state.locked runtimeId = true

/-- The queue is no part of the books. -/
theorem Accounted.requeue {m known} (h : Accounted m known φ)
    (queue : List PendingRelease) : Accounted { m with pendingRelease := queue } known φ :=
  ⟨h.alone, h.fits, h.distinct, h.issued, h.tracked, h.untracked, h.finite, h.counts, h.total⟩

/-- Locks are taken and given back by the calls that hold them. -/
private theorem locks_update {locked : String → Bool}
    (hplace : ∀ key stage, place = some (key, stage) → locked key = true)
    (hoth : ∀ j key stage, j ≠ i → φ j = some (key, stage) → locked key = true) :
    ∀ j key stage, update φ i place j = some (key, stage) → locked key = true := by
  intro j key stage hj
  rcases update_cases hj with ⟨hji, hj⟩ | ⟨hji, hj⟩
  · exact hplace key stage hj
  · exact hoth j key stage hji hj

private theorem InOrder.perform_effect (h : InOrder pool φ)
    (hen : pool.state.enabled effect) (hallowed : callProtocol.allowed (φ i) effect)
    (hfresh : ∀ e, effect = .manager e →
      freshInstance pool.state.issued e (pool.state.reply config answer e) = true)
    (hstate : pool'.state = (pool.state.handle config answer effect).2)
    (hpl : pool'.Places callProtocol none (· = none) (update φ i
      (callProtocol.next (φ i) effect (pool.state.handle config answer effect).1))) :
    InOrder pool' (update φ i
      (callProtocol.next (φ i) effect (pool.state.handle config answer effect).1)) := by
  refine ⟨hpl, ?_, ?_⟩ <;> rw [hstate] <;> clear hpl
  · cases effect with
    | lock runtimeId =>
      refine h.accounted.lock hallowed fun j stage hj => ?_
      exact nomatch (h.locks j runtimeId stage hj).symm.trans hen
    | unlock runtimeId =>
      obtain ⟨stage, hi, hloose⟩ := hallowed
      exact h.accounted.unlock hi hloose
    | manager e =>
      cases hi : φ i with
      | none =>
        -- without a lock only the queue of pending releases is read
        have htake : e = .takeDue := by
          simpa only [callProtocol, managerProtocol, hi] using hallowed
        subst htake
        have hsame : update φ i none = φ := Function.update_eq_self_iff.mpr hi.symm
        show Accounted _ pool.state.issued (update φ i none)
        rw [hsame]
        exact h.accounted.requeue _
      | some place =>
        obtain ⟨runtimeId, stage⟩ := place
        have hallows : stage.Allows runtimeId e := by
          simpa only [callProtocol, managerProtocol, hi] using hallowed
        exact h.accounted.perform hi hallows (hfresh e rfl)
  · cases effect with
    | lock runtimeId =>
      refine locks_update ?_ ?_
      · rintro key stage ⟨⟩
        exact update_self ..
      · intro j key stage _ hj
        by_cases hkey : key = runtimeId
        · exact hkey ▸ update_self ..
        · exact (update_of_ne hkey ..).trans (h.locks j key stage hj)
    | unlock runtimeId =>
      obtain ⟨stage, hi, -⟩ := hallowed
      -- every other lock is still held: no two calls are under one
      refine locks_update nofun fun j key other hji hj => ?_
      have hkey : key ≠ runtimeId := by
        rintro rfl
        exact hji (h.accounted.alone _ _ _ _ _ hj hi)
      exact (update_of_ne hkey ..).trans (h.locks j key other hj)
    | manager e =>
      have hlocked : (pool.state.handle config answer (.manager e)).2.locked = pool.state.locked :=
        World.surroundings_locked ..
      rw [hlocked]
      refine locks_update (fun key stage hplace => ?_) fun j key stage _ hj =>
        h.locks j key stage hj
      obtain ⟨⟨key', stage'⟩, hi, heq⟩ := Option.map_eq_some_iff.mp hplace
      obtain ⟨rfl, -⟩ := Prod.mk.inj heq
      exact h.locks i key' stage' hi

theorem InOrder.step (h : InOrder pool φ) (hcare : CarefulStep config pool move pool') :
    InOrder pool' ((callSystem config).carry callProtocol.next none φ (pool, move)) := by
  obtain ⟨⟨hstep, hord, huniq⟩, hfound⟩ := hcare
  have hbody : ∀ i call, move = .start i call → ((callSystem config).body call).Follows callProtocol
      (fun place _ => place = none) none := by
    rintro i call rfl
    refine follows_body config ?_
    rintro rfl
    cases hord
  rcases h.places.step_cases hbody (fun _ => rfl) hstep with ⟨i, call, rfl, hstate, hidle, hpl⟩ |
    ⟨i, rfl, hstate, hrest, hpl⟩ |
    ⟨i, answer, call, e, onDrop, k, rfl, hthr, hen, hallowed, hstate, hpl⟩
  · have hsame : (callSystem config).carry callProtocol.next none φ (pool, .start i call) = φ :=
      Function.update_eq_self_iff.mpr hidle.symm
    rw [hsame]
    exact ⟨hpl, hstate ▸ h.accounted, hstate ▸ h.locks⟩
  · have hsame : update φ i none = φ := Function.update_eq_self_iff.mpr hrest.symm
    rw [hsame] at hpl
    show InOrder pool' (update φ i none)
    rw [hsame]
    exact ⟨hpl, hstate ▸ h.accounted, hstate ▸ h.locks⟩
  · rw [System.carry_perform _ _ _ hthr]
    refine h.perform_effect hen hallowed ?_ hstate (hpl ?_)
    · rintro e rfl
      exact check_of_perform huniq hthr
    · cases e with
      | lock _ => trivial
      | unlock _ => trivial
      | manager e => exact check_of_perform hfound hthr

/-! ## Runs -/

/-- Where every call is after a run. -/
def placesOf (config : Config) (tr : List (CallPool × Move Answers Call)) : Nat → Place :=
  (callSystem config).carried callProtocol.next none tr

/-- The owner of the place that a call has reserved and not yet given back or passed on to a
registered instance. -/
def nextReservation (held : Option String) : (e : WorldEffect) → e.Reply → Option String
  | .manager (.reserve owner _), .ok () => some owner
  | .manager (.rollbackReservation _), _ | .manager (.insert _ _), _ => none
  | _, _ => held

/-- **The reservations in flight** after a run. -/
def reservations (config : Config) (tr : List (CallPool × Move Answers Call)) :
    Nat → Option String :=
  (callSystem config).carried nextReservation none tr

/-- The instance that a call released last. -/
def nextReleased (last : Option String) : (e : WorldEffect) → e.Reply → Option String
  | .manager (.releaseInstance id), _ => some id
  | _, _ => last

def lastReleased (config : Config) (tr : List (CallPool × Move Answers Call)) :
    Nat → Option String :=
  (callSystem config).carried nextReleased none tr

/-- The counters are exact, and the provider has handed out what is registered. -/
structure World.Settled (w : World) : Prop where
  exact : w.manager.Exact
  issued : ∀ key id, w.manager.instanceAt key = some id → id ∈ w.issued

variable {tr : List (CallPool × Move Answers Call)} {w₀ : World}

theorem run_inOrder (hsettled : w₀.Settled) (hrun : Run (CarefulStep config) w₀.idlePool tr pool) :
    InOrder pool (placesOf config tr) := by
  refine hrun.history_invariant (P := fun tr pool => InOrder pool (placesOf config tr)) ?_ ?_
  · exact ⟨⟨nofun, fun _ _ => rfl⟩, hsettled.exact.accounted hsettled.issued, nofun⟩
  · intro tr pool move pool' _ h hstep
    rw [placesOf, System.carried_snoc]
    exact h.step hstep

/-- A stage's reservation follows the reservations that are made and given back. -/
theorem Stage.next_reservation (hallows : stage.Allows runtimeId e) (r : e.Reply) :
    (stage.next e r).reservation = nextReservation stage.reservation (.manager e) r := by
  cases e with
  | lookup _ | recordCreated _ _ _ =>
    obtain ⟨rfl, rfl⟩ := hallows
    cases r <;> rfl
  | reserve _ _ => cases r <;> rfl
  | create _ _ | load _ =>
    obtain rfl := hallows
    cases r <;> rfl
  | trackInstance _ _ | releaseInstance _ =>
    obtain rfl := hallows
    rfl
  | remove key =>
    obtain ⟨rfl, id, rfl⟩ := hallows
    rfl
  | _ => rfl

/-- A stage with a released instance was reached by releasing it. -/
theorem Stage.eq_releaseInstance (hallows : stage.Allows runtimeId e) {r id}
    (hnext : stage.next e r = .released id) : e = .releaseInstance id := by
  cases e with
  | releaseInstance id' =>
    obtain rfl := Stage.released.inj hnext
    rfl
  | lookup _ => cases r <;> cases hnext
  | reserve _ _ | create _ _ | load _ =>
    obtain rfl := hallows
    cases r <;> cases hnext
  | recordCreated _ _ _ =>
    obtain ⟨-, rfl⟩ := hallows
    cases r <;> cases hnext
  | trackInstance _ _ | rollbackReservation _ | insert _ _ | remove _ => cases hnext
  | recordDeleted _ =>
    obtain rfl : stage = .released id := hnext
    exact hallows.2.elim
  | takeDue | rehydrateOne _ _ | clearRestoreError _ | noteRestoreError _ _ | runtimeLock _ =>
    exact hallows.elim
  | queueRelease _ | restoreError _ | newRequestId | acquireAdmission _ | sleep _ _ | attach _
  | listActive | delete _ | checkpoint _ | inspect _ => exact (hallows id hnext).elim

/-- The place in the quota that a call has reserved. -/
def reservationAt (place : Place) : Option String :=
  place.bind (·.2.reservation)

theorem reservationAt_next (hallowed : callProtocol.allowed place effect) (r : effect.Reply) :
    reservationAt (callProtocol.next place effect r) =
      nextReservation (reservationAt place) effect r := by
  cases effect with
  | lock _ =>
    obtain rfl := hallowed
    rfl
  | unlock _ =>
    obtain ⟨stage, rfl, hloose⟩ := hallowed
    cases stage <;> first | exact hloose.elim | rfl
  | manager e =>
    cases place with
    | none =>
      obtain rfl := hallowed
      rfl
    | some place => exact Stage.next_reservation hallowed r

/-- What a call has reserved can be read off its effects. -/
theorem reservations_eq (hsettled : w₀.Settled)
    (hrun : Run (CarefulStep config) w₀.idlePool tr pool) (i) :
    reservationAt (placesOf config tr i) = reservations config tr i := by
  induction hrun generalizing i with
  | nil => rfl
  | @snoc tr pool pool' move hrun hstep ih =>
    have hpl := (run_inOrder hsettled hrun).places
    rw [reservations, placesOf, System.carried_snoc, System.carried_snoc]
    refine System.carry_rel (fun place held => reservationAt place = held) rfl ?_ ih i
    intro j answer call effect onDrop k _ hthr
    rw [← ih j]
    exact reservationAt_next (hpl.running j call _ hthr).1 _

/-- The instance that was released last is the one whose entry is about to be removed. -/
def ReleasedLast (place : Place) (last : Option String) : Prop :=
  ∀ runtimeId id, place = some (runtimeId, .released id) → last = some id

/-- A call that is about to remove an entry has released its instance. -/
theorem lastReleased_of_run (hsettled : w₀.Settled)
    (hrun : Run (CarefulStep config) w₀.idlePool tr pool) (i) :
    ReleasedLast (placesOf config tr i) (lastReleased config tr i) := by
  induction hrun generalizing i with
  | nil => exact fun _ _ h => by cases h
  | @snoc tr pool pool' move hrun hstep ih =>
    have hpl := (run_inOrder hsettled hrun).places
    rw [lastReleased, placesOf, System.carried_snoc, System.carried_snoc]
    refine System.carry_rel ReleasedLast (fun _ _ h => by cases h) ?_ ih i
    intro j answer call effect onDrop k _ hthr runtimeId id hplace
    have hallowed := (hpl.running j call _ hthr).1
    cases effect with
    | lock _ | unlock _ => cases hplace
    | manager e =>
      obtain ⟨⟨key, stage⟩, hold, heq⟩ := Option.map_eq_some_iff.mp hplace
      obtain ⟨rfl, hnext⟩ := Prod.mk.inj heq
      rw [show placesOf config tr j = some (key, stage) from hold] at hallowed
      obtain rfl := Stage.eq_releaseInstance hallowed hnext
      rfl

end

end XGovernor.Manager
