import XGovernor.Manager.Quota

/-!
# What a retried deletion removes

A failed deletion is queued with the instance it was for, and a sweep later deletes that instance
and then removes the entry of its runtime.  In a careful run the entry is the one of the deleted
instance, and the counters are exact.  The source does not see to it that runs are careful: the
sweep looks only whether the runtime is registered at all, so when it was stopped and started again
in the meantime the entry of the new instance is removed.
-/

namespace XGovernor.Manager

open Lib

/-! ## The steps of `finish_release` -/

section Finish

variable {config : Config} {tr : List (CallPool × Move Answers Call)} {pool pool' : CallPool}
  {i : Nat} {runtimeId instanceId : String} {w₀ : World}

/-- Call `i` is about to take one of the three steps of `finish_release` for a runtime and an
instance. -/
inductive FinishStep (config : Config) (tr : List (CallPool × Move Answers Call))
    (pool : CallPool) (i : Nat) (runtimeId instanceId : String) : Prop where
  | recordDeleted {call : Call} {onDrop : World → World}
      {k : Except ProviderControlError Unit → WorldM Unit}
      (hthr : pool.threads i = some (call, .perform (.manager (.recordDeleted runtimeId)) onDrop k))
      (hnext : ∀ r, (k r).head = some (.manager (.releaseInstance instanceId)))
  | releaseInstance {call : Call} {onDrop : World → World} {k : Unit → WorldM Unit}
      (hthr : pool.threads i =
        some (call, .perform (.manager (.releaseInstance instanceId)) onDrop k))
      (hnext : (k ()).head = some (.manager (.remove runtimeId)))
  | remove {call : Call} {onDrop : World → World} {k : Unit → WorldM Unit}
      (hthr : pool.threads i = some (call, .perform (.manager (.remove runtimeId)) onDrop k))
      (hlast : lastReleased config tr i = some instanceId)

/-- An entry, what it is counted for and its row in the ledger are as before. -/
structure World.SameAt (w w' : World) (key : String) : Prop where
  registered : w'.manager.instances key = w.manager.instances key
  counted : w'.manager.ownerAt key = w.manager.ownerAt key
  recorded : w'.ledger.get? key = w.ledger.get? key

/-- A call may perform an effect of the manager other than `takeDue` under its lock only. -/
private theorem allowed_place {φ : Nat → Place} {e : Effect}
    (hallowed : callProtocol.allowed (φ i) (.manager e)) (he : e ≠ .takeDue) :
    ∃ key stage, φ i = some (key, stage) ∧ stage.Allows key e := by
  cases hi : φ i with
  | none =>
    rw [hi] at hallowed
    exact (he hallowed).elim
  | some place =>
    rw [hi] at hallowed
    exact ⟨place.1, place.2, rfl, hallowed⟩

section

variable (hsettled : w₀.Settled) (hrun : Run (CarefulStep config) w₀.idlePool tr pool)
  (hfin : FinishStep config tr pool i runtimeId instanceId)
include hsettled hrun hfin

/-- The entry that is registered is the one that `finish_release` is about. -/
theorem FinishStep.instanceAt :
    pool.state.manager.instanceAt runtimeId = some instanceId := by
  have horder := run_inOrder hsettled hrun
  have hfits := horder.accounted.fits i
  cases hfin with
  | recordDeleted hthr hnext =>
    have hfol := horder.places.running i _ _ hthr
    obtain ⟨key, stage, hi, rfl, hloose⟩ := allowed_place hfol.1 nofun
    -- the next effect shows which instance was found
    have hrest := (hfol.2 (.ok ()) rfl).allowed_of_head (hnext _)
    rw [hi] at hrest
    obtain rfl : stage = .found instanceId := hrest
    exact (hfits _ _ hi).1
  | releaseInstance hthr hnext =>
    have hfol := horder.places.running i _ _ hthr
    obtain ⟨key, stage, hi, rfl⟩ := allowed_place hfol.1 nofun
    have hrest := (hfol.2 () rfl).allowed_of_head hnext
    rw [hi] at hrest
    obtain ⟨rfl, -⟩ : runtimeId = key ∧ ∃ id, _ := hrest
    exact (hfits _ _ hi).1
  | remove hthr hlast =>
    have hfol := horder.places.running i _ _ hthr
    obtain ⟨key, stage, hi, rfl, id, rfl⟩ := allowed_place hfol.1 nofun
    obtain rfl := Option.some.inj
      ((lastReleased_of_run hsettled hrun i _ _ hi).symm.trans hlast)
    exact (hfits _ _ hi).1

/-- The other entries stay as they are. -/
theorem FinishStep.sameAt {answer}
    (hstep : (callSystem config).Step pool (.perform i answer) pool') {key}
    (hkey : key ≠ runtimeId) : pool.state.SameAt pool'.state key := by
  have horder := run_inOrder hsettled hrun
  have hentry := hfin.instanceAt hsettled hrun
  cases hfin with
  | recordDeleted hthr _ =>
    rw [hstep.perform_state hthr]
    refine ⟨rfl, rfl, ?_⟩
    show (pool.state.surroundings (.recordDeleted runtimeId)
      (answer (.recordDeleted runtimeId))).ledger.get? key = _
    cases answer (.recordDeleted runtimeId) with
    | ok _ =>
      show (pool.state.recordDeleted runtimeId).ledger.get? key = _
      simp [World.recordDeleted, Table.get?_modify, hkey]
    | error error => rfl
  | releaseInstance hthr _ =>
    rw [hstep.perform_state hthr]
    refine ⟨congrFun (State.releaseInstance_instances _ _) key, ?_, rfl⟩
    -- another entry has another id, whose owner stays
    show (pool.state.manager.releaseInstance instanceId).ownerAt key = _
    rw [State.ownerAt, State.releaseInstance_instanceAt, State.ownerAt]
    cases hid : pool.state.manager.instanceAt key with
    | none => rfl
    | some id =>
      refine State.releaseInstance_owners_of_ne ?_
      rintro rfl
      exact hkey (Sum.inl.inj (horder.accounted.distinct (.inl key) (.inl runtimeId) id hid hentry))
  | remove hthr _ =>
    rw [hstep.perform_state hthr]
    have hinst : (pool.state.manager.unregistered runtimeId).instances key =
        pool.state.manager.instances key := Function.update_of_ne hkey ..
    refine ⟨hinst, ?_, rfl⟩
    show (pool.state.manager.unregistered runtimeId).ownerAt key = _
    rw [State.ownerAt, State.instanceAt, hinst]
    rfl

end

end Finish

/-! ## A runtime that is stopped and started again -/

variable {runtimeId : String} {pool : CallPool} {id : String} {i : Nat}

namespace Sample

def config : Config :=
  { kind := "docker", maxSandboxesPerOwner := 2, maxSandboxesGlobal := 4, maxAttempts := 1,
    baseDelayMs := 1, maxDelayMs := 1 }

def bound (id : String) : BoundInstance :=
  { instance_ := { backendId := "b", instanceId := id, capabilities := [] }
    backend := { workspaceRoot := "/w" } }

/-- A provider that creates the given instance, and deletes or fails to. -/
def answer (id : String) (deletes : Bool) : Answers
  | .lookup _ | .restoreError _ => none
  | .reserve _ _ | .recordCreated _ _ _ | .recordDeleted _ => .ok ()
  | .takeDue => [{ runtimeId := "r", record := bound "x", attempt := 0 }]
  | .newRequestId => "q"
  | .create _ _ | .load _ => .ok (bound id).instance_
  | .attach _ => .ok (bound id).backend
  | .listActive => .ok []
  | .delete _ => if deletes then .ok () else .error (.transport "down")
  | .checkpoint _ => .error (.transport "down")
  | .inspect _ => .error (.transport "down")
  | .rollbackReservation _ | .trackInstance _ _ | .insert _ _ | .releaseInstance _ | .remove _
  | .queueRelease _ | .rehydrateOne _ _ | .clearRestoreError _ | .noteRestoreError _ _
  | .runtimeLock _ | .acquireAdmission _ | .sleep _ _ => ()

/-- A manager that was just created, with an empty ledger. -/
def world : World :=
  { manager := .init, ledger := .empty, locked := fun _ => false, issued := [] }

/-- A call that is made alone, as far as the given number of effects. -/
def first (call : Call) (effects : Nat) (answer : Answers) : List (Move Answers Call) :=
  .start 0 call :: List.replicate effects (.perform 0 answer)

/-- A call that is made alone and ends. -/
def whole (call : Call) (effects : Nat) (answer : Answers) : List (Move Answers Call) :=
  first call effects answer ++ [.finish 0]

def start : Call := .startInstance "r" "b" "o" .null none

/-- A start, a stop whose deletion fails, a stop, and another start. -/
def restarted : List (Move Answers Call) :=
  whole start 11 (answer "x" false) ++ whole (.stopInstance "r") 5 (answer "x" false) ++
    whole (.stopInstance "r") 7 (answer "x" true) ++ whole start 11 (answer "y" true)

/-- Entries are made for one runtime only. -/
def insertsAt (runtimeId : String) (pool : CallPool) (move : Move Answers Call) : Bool :=
  checkStep config (fun e _ _ => match e with | .insert key _ => key = runtimeId | _ => true)
    pool move

variable {tr : List (CallPool × Move Answers Call)}

/-- The other runtimes have no entry then. -/
theorem instances_none (hrun : Run (callSystem config).Step world.idlePool tr pool)
    (hinserts : ∀ step ∈ tr, insertsAt runtimeId step.1 step.2 = true) {key}
    (hkey : key ≠ runtimeId) : pool.state.manager.instances key = none := by
  induction hrun with
  | nil => rfl
  | @snoc tr pool pool' move hrun hstep ih =>
    have hnone := ih fun step hmem => hinserts step (List.mem_append_left _ hmem)
    have hinsert := hinserts (pool, move) (by simp)
    cases hstep with
    | start _ | finish _ _ => exact hnone
    | drop _ hsusp => cases hsusp
    | @perform i answer call e onDrop k hthr _ =>
      cases e with
      | lock _ | unlock _ => exact hnone
      | manager e =>
        by_contra hsome
        obtain ⟨bound, hbound⟩ := Option.ne_none_iff_exists'.mp hsome
        rcases handle_instances hbound with hold | rfl
        · exact nomatch hnone.symm.trans hold
        · exact hkey (of_decide_eq_true (check_of_perform hinsert hthr))

/-- Ordinary calls with new ids that pass a further check. -/
def ordinaryAnd (check : CallPool → Move Answers Call → Bool) (pool : CallPool)
    (move : Move Answers Call) : Bool :=
  ordinary move && uniqueIds config pool move && check pool move

theorem run_ordinary {check} (hrun : Run (callSystem config).Step world.idlePool tr pool)
    (hchk : ∀ step ∈ tr, ordinaryAnd check step.1 step.2 = true) :
    Run (OrdinaryStep config) world.idlePool tr pool ∧ ∀ step ∈ tr, check step.1 step.2 = true := by
  simp only [ordinaryAnd, Bool.and_eq_true] at hchk
  exact ⟨hrun.restrict fun step hmem => (hchk step hmem).1, fun step hmem => (hchk step hmem).2⟩

theorem settled : world.Settled where
  exact := State.exact_init
  issued := nofun

/-- The runtime whose entry call `i` is about to remove. -/
def removing (pool : CallPool) (i : Nat) : Option String :=
  match pool.threads i with
  | some (_, .perform (.manager (.remove runtimeId)) _ _) => some runtimeId
  | _ => none

theorem finishStep {instanceId} (hrem : removing pool i = some runtimeId)
    (hlast : lastReleased config tr i = some instanceId) :
    FinishStep config tr pool i runtimeId instanceId := by
  unfold removing at hrem
  split at hrem
  next hthr =>
    obtain rfl := Option.some.inj hrem
    exact .remove hthr hlast
  next => cases hrem

end Sample

/-! ## What is removed -/

/-- **What `finish_release` removes**: in a careful run every removal of an entry is a step of
`finish_release`; each of its steps for a runtime and an instance is taken while that instance is
registered for that runtime, and leaves every other runtime's entry registered, counted and
recorded as it is. -/
theorem finish_release_removes_named_instance (config : Config) (w₀ : World)
    (hsettled : w₀.Settled) (tr : List (CallPool × Move Answers Call)) (pool : CallPool)
    (hrun : Run (CarefulStep config) w₀.idlePool tr pool) (i : Nat) (runtimeId : String) :
    (∀ call onDrop k, pool.threads i =
        some (call, .perform (.manager (.remove runtimeId)) onDrop k) →
      ∃ instanceId, FinishStep config tr pool i runtimeId instanceId) ∧
    ∀ instanceId, FinishStep config tr pool i runtimeId instanceId →
      pool.state.manager.instanceAt runtimeId = some instanceId ∧
      ∀ answer pool', (callSystem config).Step pool (.perform i answer) pool' →
        ∀ key, key ≠ runtimeId → pool.state.SameAt pool'.state key := by
  refine ⟨fun call onDrop k hthr => ?_, fun instanceId hfin => ⟨?_, ?_⟩⟩
  · have hfol := (run_inOrder hsettled hrun).places.running i _ _ hthr
    obtain ⟨key, stage, hi, rfl, id, rfl⟩ := allowed_place hfol.1 nofun
    exact ⟨id, .remove hthr (lastReleased_of_run hsettled hrun i _ _ hi)⟩
  · exact hfin.instanceAt hsettled hrun
  · exact fun answer pool' hstep key hkey => hfin.sameAt hsettled hrun hstep hkey

/-- A stop that has deleted the registered instance is about to remove its entry. -/
theorem stop_removes_its_instance :
    ∃ tr pool, Run (CarefulStep Sample.config) Sample.world.idlePool tr pool ∧
      FinishStep Sample.config tr pool 0 "r" "x" ∧
      pool.state.manager.instanceAt "r" = some "x" := by
  obtain ⟨tr, pool, hrun, hchk, hpost⟩ := (callSystem Sample.config).exists_run
    Sample.world.idlePool
    (Sample.whole Sample.start 11 (Sample.answer "x" true) ++
      Sample.first (.stopInstance "r") 5 (Sample.answer "x" true))
    (Sample.ordinaryAnd (checkStep Sample.config foundIsDeleted))
    (fun tr pool => Sample.removing pool 0 = some "r" &&
      lastReleased Sample.config tr 0 = some "x") (by decide +kernel)
  simp only [Bool.and_eq_true, decide_eq_true_eq] at hpost
  obtain ⟨hord, hfound⟩ := Sample.run_ordinary hrun hchk
  have hcare : Run (CarefulStep Sample.config) Sample.world.idlePool tr pool :=
    hord.restrict hfound
  have hfin : FinishStep Sample.config tr pool 0 "r" "x" :=
    Sample.finishStep hpost.1 hpost.2
  exact ⟨tr, pool, hcare, hfin, ((finish_release_removes_named_instance Sample.config
    Sample.world Sample.settled tr pool hcare 0 "r").2 "x" hfin).1⟩

/-- A runtime is started, stopped with a deletion that fails, stopped, and started again.  The sweep
then deletes the first instance once more and is about to remove the entry of the second. -/
theorem sweep_removes_restarted_instance :
    ∃ tr pool, Run (OrdinaryStep Sample.config) Sample.world.idlePool tr pool ∧
      FinishStep Sample.config tr pool 0 "r" "x" ∧ pool.state.manager.instanceAt "r" = some "y" ∧
      (pool.state.ledger.get? "r").map (·.active) = some false := by
  obtain ⟨tr, pool, hrun, hchk, hpost⟩ := (callSystem Sample.config).exists_run
    Sample.world.idlePool
    (Sample.restarted ++ Sample.first .retryPendingReleasesOnce 6 (Sample.answer "y" true))
    (Sample.ordinaryAnd fun _ _ => true)
    (fun tr pool => Sample.removing pool 0 = some "r" &&
      lastReleased Sample.config tr 0 = some "x" && pool.state.manager.instanceAt "r" = some "y" &&
      (pool.state.ledger.get? "r").map (·.active) = some false) (by decide +kernel)
  simp only [Bool.and_eq_true, decide_eq_true_eq] at hpost
  obtain ⟨⟨⟨hrem, hlast⟩, hentry⟩, hrow⟩ := hpost
  exact ⟨tr, pool, (Sample.run_ordinary hrun hchk).1, Sample.finishStep hrem hlast, hentry, hrow⟩

/-! ## Ceilings -/

/-- A reservation that is granted to anybody but the operator leaves the owner's count within its
limit and the total within the global cap. -/
def KeepsCeilings (config : Config) (step : CallPool × Move Answers Call) : Prop :=
  ∀ i answer call owner limit onDrop k, step.2 = .perform i answer →
    step.1.threads i = some (call, .perform (.manager (.reserve owner limit)) onDrop k) →
    (step.1.state.handle config answer (.manager (.reserve owner limit))).1 = .ok () →
    owner ≠ adminOwnerRef →
    let after := (step.1.state.handle config answer (.manager (.reserve owner limit))).2.manager
    after.counts owner ≤ limit.getD config.maxSandboxesPerOwner ∧
      after.total ≤ config.maxSandboxesGlobal

theorem State.reserve_ceilings {config : Config} {m : State} {owner : String} {limit : Option Nat}
    (hgranted : (m.reserve config owner limit).1 = .ok ()) (howner : owner ≠ adminOwnerRef) :
    (m.reserve config owner limit).2.counts owner ≤ limit.getD config.maxSandboxesPerOwner ∧
      (m.reserve config owner limit).2.total ≤ config.maxSandboxesGlobal := by
  dsimp only [reserve] at hgranted ⊢
  split at hgranted
  · cases hgranted
  next hcap =>
    split at hgranted
    · cases hgranted
    next hglobal =>
      rw [if_neg hcap, if_neg hglobal]
      simp only [howner, ne_eq, not_false_eq_true, true_and, not_le] at hcap hglobal
      simp only [counted, Function.update_self]
      omega

/-- After it has released an instance a call can only remove its entry. -/
theorem Stage.eq_remove_of_released {e}
    (hallows : (Stage.released id).Allows runtimeId e) : e = .remove runtimeId := by
  cases e with
  | remove key => rw [hallows.1]
  | rollbackReservation _ =>
    rcases hallows with h | ⟨_, h⟩ <;> cases h
  | lookup _ | recordCreated _ _ _ | recordDeleted _ => cases hallows.2
  | insert _ _ =>
    obtain ⟨-, _, h⟩ := hallows
    cases h
  | reserve _ _ | create _ _ | load _ | trackInstance _ _ | releaseInstance _ | takeDue
  | rehydrateOne _ _ | clearRestoreError _ | noteRestoreError _ _ | runtimeLock _ => cases hallows
  | _ => exact (hallows id rfl).elim

theorem Places.head_of_released {φ} (h : pool.Places callProtocol none (· = none) φ)
    (hi : φ i = some (runtimeId, .released id)) :
    ∃ call p, pool.threads i = some (call, p) ∧ p.head = some (.manager (.remove runtimeId)) := by
  cases hthr : pool.threads i with
  | none => exact nomatch hi.symm.trans (h.absent i hthr)
  | some thread =>
    obtain ⟨call, p⟩ := thread
    have hfol := h.running i call p hthr
    rw [hi] at hfol
    refine ⟨call, p, rfl, ?_⟩
    cases p with
    | ret _ => cases hfol
    | fail _ => cases hfol
    | perform effect onDrop k =>
      cases effect with
      | lock _ => cases hfol.1
      | unlock _ =>
        obtain ⟨stage, heq, hloose⟩ := hfol.1
        obtain ⟨-, rfl⟩ := Prod.mk.inj (Option.some.inj heq)
        exact hloose.elim
      | manager e =>
        obtain rfl := Stage.eq_remove_of_released hfol.1
        rfl

/-- **Quota ceilings**: in a careful run from exact counters the total is the sum of the counts,
every owner's count is the number of its registered instances and of its reservations in flight,
and no reservation that is granted exceeds a ceiling.  An instance that is still registered but
counted for nobody is about to be removed. -/
theorem counts_cover_instances_and_reservations (config : Config) (w₀ : World)
    (hsettled : w₀.Settled) (tr : List (CallPool × Move Answers Call)) (pool : CallPool)
    (hrun : Run (CarefulStep config) w₀.idlePool tr pool) :
    let m := pool.state.manager
    Totals m.counts m.total ∧
    (FiniteSupport m.ownerAt ∧ FiniteSupport (reservations config tr) ∧
      ∀ owner, m.counts owner = tally m.ownerAt owner + tally (reservations config tr) owner) ∧
    (∀ runtimeId, m.instances runtimeId ≠ none → m.ownerAt runtimeId = none →
      ∃ i call p, pool.threads i = some (call, p) ∧ p.head = some (.manager (.remove runtimeId))) ∧
    ∀ step ∈ tr, KeepsCeilings config step := by
  have horder := run_inOrder hsettled hrun
  have hslots : slots pool.state.manager (placesOf config tr) =
      Sum.elim pool.state.manager.ownerAt (reservations config tr) := by
    rw [← funext (reservations_eq hsettled hrun)]
    rfl
  have hfinite := hslots ▸ horder.accounted.finite
  refine ⟨horder.accounted.total, ⟨hfinite.inl, hfinite.inr, fun owner => ?_⟩, ?_, ?_⟩
  · rw [horder.accounted.counts, hslots, tally_sum_elim hfinite.inl hfinite.inr]
  · intro runtimeId hreg hnobody
    obtain ⟨bound, hbound⟩ := Option.ne_none_iff_exists'.mp hreg
    have hentry : pool.state.manager.instanceAt runtimeId = some bound.instance_.instanceId := by
      rw [State.instanceAt, hbound]
      rfl
    rw [State.ownerAt, hentry] at hnobody
    obtain ⟨i, hi⟩ := horder.accounted.untracked runtimeId _ hentry hnobody
    exact ⟨i, Places.head_of_released horder.places hi⟩
  · rintro ⟨pool, move⟩ - i answer call owner limit onDrop k - - hgranted howner
    exact State.reserve_ceilings hgranted howner

/-- A start that has reserved a place is counted. -/
theorem reservation_is_counted :
    ∃ tr pool, Run (CarefulStep Sample.config) Sample.world.idlePool tr pool ∧
      reservations Sample.config tr 0 = some "o" ∧
      pool.state.manager.counts "o" = tally pool.state.manager.ownerAt "o" +
        tally (reservations Sample.config tr) "o" := by
  obtain ⟨tr, pool, hrun, hchk, hpost⟩ := (callSystem Sample.config).exists_run
    Sample.world.idlePool
    (Sample.first Sample.start 3 (Sample.answer "x" true))
    (Sample.ordinaryAnd (checkStep Sample.config foundIsDeleted))
    (fun tr _ => reservations Sample.config tr 0 = some "o") (by decide +kernel)
  obtain ⟨hord, hfound⟩ := Sample.run_ordinary hrun hchk
  have hcare : Run (CarefulStep Sample.config) Sample.world.idlePool tr pool :=
    hord.restrict hfound
  exact ⟨tr, pool, hcare, of_decide_eq_true hpost,
    (counts_cover_instances_and_reservations Sample.config Sample.world Sample.settled tr pool
      hcare).2.1.2.2 "o"⟩

/-- After the same sweep nothing is registered or reserved, but the second instance is still
counted. -/
theorem sweep_leaks_place_of_restarted_instance :
    ∃ tr pool, Run (OrdinaryStep Sample.config) Sample.world.idlePool tr pool ∧
      pool.state.manager.counts "o" ≠ tally pool.state.manager.ownerAt "o" +
        tally (reservations Sample.config tr) "o" := by
  obtain ⟨tr, pool, hrun, hchk, hpost⟩ := (callSystem Sample.config).exists_run
    Sample.world.idlePool
    (Sample.restarted ++ Sample.whole .retryPendingReleasesOnce 8 (Sample.answer "y" true))
    (Sample.ordinaryAnd fun pool move => Sample.insertsAt "r" pool move && move.thread = 0)
    (fun tr pool => pool.state.manager.counts "o" = 1 &&
      (pool.state.manager.instances "r").isNone && reservations Sample.config tr 0 = none)
    (by decide +kernel)
  obtain ⟨hord, hsteps⟩ := Sample.run_ordinary hrun hchk
  simp only [Bool.and_eq_true, decide_eq_true_eq, Option.isNone_iff_eq_none] at hpost hsteps
  obtain ⟨⟨hcount, hentry⟩, hresv⟩ := hpost
  have hnobody : pool.state.manager.ownerAt = fun _ => none := by
    funext key
    have hnone : pool.state.manager.instances key = none := by
      by_cases hkey : key = "r"
      · exact hkey ▸ hentry
      · exact Sample.instances_none hrun (fun step hmem => (hsteps step hmem).1) hkey
    simp [State.ownerAt, State.instanceAt, hnone]
  have hnothing : reservations Sample.config tr = fun _ => none := by
    funext i
    by_cases hi : i = 0
    · exact hi ▸ hresv
    · refine System.carried_of_ne _ _ fun step hmem => ?_
      rw [(hsteps step hmem).2]
      exact Ne.symm hi
  refine ⟨tr, pool, hord, ?_⟩
  rw [hcount, hnobody, hnothing, tally_none, tally_none]
  decide

end XGovernor.Manager
