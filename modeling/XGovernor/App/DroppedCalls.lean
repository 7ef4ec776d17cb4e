import XGovernor.App.Dropped
import XGovernor.App.Failures

/-!
# What a dropped call leaves behind

The calls that create a session and the submission of a turn, dropped at any of their awaits.  A
drop leaves no reservation and no claim exactly at the awaits outside the windows described in
`TimedCall.Window`.
-/

namespace XGovernor.App

open Domain Joint Manager Lib Prog

variable {config : Config} {env : Env} {ctx : SecurityContext} {s s' t : State}
variable {α : Type} {plan : ForkPlan} {state : OpaqueRuntimeState}
  {request : SessionForkRequest} {turn : SessionTurnRequest} {operationId runtimeId kind : String}
  {s₂ : State}

/-! ## Forks -/

/-- Whether the instance manager hands out an instance for the fork. -/
def ForkPlan.loads (plan : ForkPlan) (config : Config) (env : Env) (ctx : SecurityContext)
    (m : String → Manager.State) : Bool :=
  match env.answer (.runtime plan.kind .exported (.exportCheckpointState
      plan.request.parentRuntimeId)), plan.provider with
  | .ok _, .ok (providerId, key) =>
    match ((plan.captureInstance (config.managers key)).eval (Manager.handle (config.managers key)
        (env.managerAnswers key .capture)) (m key)).1 with
    | .ok snapshot =>
      ((plan.loadInstance ctx providerId snapshot.snapshotId).eval (Manager.handle
        (config.managers key) (env.managerAnswers key .start)) (m key)).1.isOk
    | .error _ => false
  | _, _ => false

section Forks

variable {loaded : Prop} (h : SlotStage ctx loaded s t) {providerId key : String}
include h

/-- A failure of a fork before its instance is started. -/
theorem Stage.forgetState_fail {site}
    (hsite : Effect.HoldsSlot loaded (.runtime kind site (.deleteCheckpointState state))) (error) :
    DropsAs config env (CountedDrop ctx loaded s) ((forgetState kind site state).bind fun _ =>
      (releaseSlot ctx).bind fun _ => (.fail error : AppM SessionOpenResponse)) t :=
  h.bind ⟨.of_resources rfl rfl fun _ => hsite, fun _ _ => trivial⟩ fun _ _ _ _ =>
    dropsAs_releaseSlot_fail _

/-- The new instance of a fork, and what follows. -/
theorem Stage.loadForked {snapshotId}
    (hloaded : loaded ↔ ((plan.loadInstance ctx providerId snapshotId).eval (Manager.handle
      (config.managers key) (env.managerAnswers key .start)) (t.managers key)).1.isOk = true) :
    DropsAs config env (CountedDrop ctx loaded s)
      (loadForked ctx plan providerId key state snapshotId) t := by
  refine h.obtain_bind (passive_loadSnapshot _ _ _) rfl (fun e hfail => ?_)
    fun backend t₁ hok h => ?_
  · -- nothing is held: the snapshot is deleted and the exported state is forgotten
    have hnone : ¬ loaded := fun hl => Bool.false_ne_true (hfail.symm.trans (hloaded.mp hl))
    refine h.bind (runs_manager_passive (passive_deleteSnapshot _ _) fun e he =>
      .of_resources he rfl fun _ => ⟨rfl, ?_⟩) fun _ t' _ h => ?_
    · simp [Effect.HoldsPlace, Effect.instanceHeld, hnone]
    · exact h.forgetState_fail (Effect.holdsSlot rfl rfl rfl) _
  · refine h.bind (runs_manager_passive (passive_deleteSnapshot _ _) fun e he =>
      .of_resources he rfl fun _ => .inr ⟨rfl, hloaded.mpr hok⟩) fun _ t' _ h => ?_
    exact h.drops (endsHeld_startForked _ _ _)

/-- The snapshot of a fork, and what follows. -/
theorem Stage.captureForked
    (hexport : env.answer (.runtime plan.kind .exported (.exportCheckpointState
      plan.request.parentRuntimeId)) = .ok state) (hprov : plan.provider = .ok (providerId, key))
    (hloaded : loaded ↔ plan.loads config env ctx t.managers = true) :
    DropsAs config env (CountedDrop ctx loaded s)
      (captureForked config ctx plan providerId key state) t := by
  refine h.bind (runs_manager_passive (passive_captureInstance plan _) fun e he =>
    .of_resources he rfl fun _ => Effect.holdsSlot rfl rfl rfl) fun captured t' heval h => ?_
  rw [eval_manager_passive (passive_captureInstance plan _), Prod.mk.injEq,
    Except.ok.injEq] at heval
  obtain ⟨hcapt, rfl⟩ := heval
  cases captured with
  | error e => exact h.forgetState_fail (Effect.holdsSlot rfl rfl rfl) _
  | ok snapshot =>
    refine h.perform_bind rfl rfl (fun _ => Effect.holdsSlot rfl rfl rfl)
      fun saved t' _ hman h => ?_
    refine dropsAs_orFail_bind fun _ _ => h.loadForked (hloaded.trans ?_)
    simp only [ForkPlan.loads, hexport, hprov, hcapt, hman]

section

variable (hloaded : loaded ↔ plan.loads config env ctx t.managers = true)
include hloaded

/-- The export of a fork, and what follows. -/
theorem Stage.exportForked :
    DropsAs config env (CountedDrop ctx loaded s) (exportForked config ctx plan) t := by
  refine h.perform_bind rfl rfl (fun _ => Effect.holdsSlot rfl rfl rfl)
    fun exported t' hexport hman h => ?_
  cases exported with
  | error e => exact dropsAs_releaseSlot_fail _
  | ok state =>
    refine h.perform_bind rfl rfl (fun _ => Effect.holdsSlot rfl rfl rfl)
      fun saved t'' _ hman' h => dropsAs_orFail_bind fun _ _ => ?_
    cases hprov : plan.provider with
    | error e => exact h.forgetState_fail (Effect.holdsSlot rfl rfl rfl) _
    | ok provider =>
      exact h.captureForked hexport hprov (by rwa [hman', hman])

theorem Stage.forkReserved :
    DropsAs config env (CountedDrop ctx loaded s) (forkReserved config ctx plan) t := by
  dsimp only [App.forkReserved, bind_def]
  split
  · refine h.perform_bind rfl rfl (fun _ => Effect.holdsSlot rfl rfl rfl)
      fun saved t' _ hman h => dropsAs_orFail_bind fun _ _ => ?_
    exact h.exportForked (by rwa [hman])
  · exact h.exportForked hloaded

end

end Forks

/-! ## Before the slot -/

/-- A program that reserves nothing and is awaited outside the windows. -/
abbrev FreeCall (p : AppM α) : Prop :=
  p.Runs (fun _ _ => True) (Quiet fun e => e.exposed = false)

/-- A call that has reserved nothing. -/
abbrev FreeStage (D : Effect × State → Prop) (s t : State) : Prop :=
  Stage D (fun e => e.exposed = false) s t

theorem freeStage (s) {loaded : Prop} : FreeStage (CountedDrop ctx loaded s) s s :=
  ⟨.refl s, .of_unreserved, fun _ he => countedDrop_free he⟩

theorem Effect.keepsGate_of_passive {e : Effect} (he : e.passive = true) : e.keepsGate = true := by
  cases e <;> first | rfl | simp [Effect.passive] at he

/-- What a call does to the sessions it owns it does before it reserves anything. -/
theorem discipline_free : Discipline (Quiet fun e => e.exposed = false) fun _ => True where
  passive := fun _ he hearly => .of_resources (Effect.keepsResources_of_passive he)
    (Effect.keepsGate_of_passive he) fun _ => hearly
  save := fun hsite _ _ => .of_resources rfl rfl fun _ => hsite
  owner := fun _ _ _ => .of_resources rfl rfl fun _ => rfl

theorem freeCall_targetRuntimeId (requested : Option String) :
    FreeCall (targetRuntimeId requested) := by
  cases requested with
  | some runtimeId => trivial
  | none => exact ⟨discipline_free.passive _ rfl rfl, fun _ _ => trivial⟩

/-- The owner of a joint session keeps its own accounts. -/
theorem free_owner (call) : Quiet (fun e => e.exposed = false) (.owner call) id :=
  .of_resources rfl rfl fun _ => rfl

theorem freeCall_requireSession (site) (hsite : site.exposed = false) (runtimeId) :
    FreeCall (requireSession ctx site runtimeId) := by
  refine .orFail fun _ =>
    ⟨discipline_free.passive _ rfl hsite, fun found _ => ?_⟩
  rcases found with error | _ | record
  · trivial
  · trivial
  · exact .require fun _ => trivial

/-- One effect before the slot. -/
theorem freeCall_passive {e} (he : e.passive = true) (hearly : e.exposed = false) :
    FreeCall (perform e) :=
  ⟨discipline_free.passive _ he hearly, fun _ _ => trivial⟩

/-- The slot, and what follows it. -/
theorem Stage.reserveSlot_bind {loaded : Prop} {f : Unit → AppM α}
    (h : FreeStage (CountedDrop ctx loaded s) s t)
    (hf : t.SlotFree ctx → SlotStage ctx loaded s (t.slotReserved ctx) →
      DropsAs config env (CountedDrop ctx loaded s) (f ()) (t.slotReserved ctx)) :
    DropsAs config env (CountedDrop ctx loaded s) ((reserveSlot ctx).bind f) t := by
  have hsync : (reserveSlot ctx).Obeys (fun _ _ => True) fun e => e.suspends = false := by
    unfold reserveSlot
    cases ctx.tenantId with
    | none => trivial
    | some tenant =>
      refine ⟨rfl, fun r _ => ?_⟩
      cases r <;> trivial
  intro x hx
  rcases Prog.mem_drops_bind.mp hx with hx | ⟨_, s', heval, hx⟩
  · simp [hsync.drops_eq_nil] at hx
  · rcases reserveSlot_eval config env ctx t with ⟨hfree, hresv⟩ | ⟨-, e, hfail⟩
    · obtain ⟨-, rfl⟩ := Prod.mk.inj (hresv.symm.trans heval)
      refine hf hfree ⟨?_, .of_unreserved, fun _ he => countedDrop_slot he⟩ x hx
      obtain ⟨⟨hslots, husage⟩, hgate⟩ := h.same
      unfold State.slotReserved
      cases ctx.tenantId with
      | none => exact h.same
      | some tenant => exact ⟨⟨by simp only [hslots], husage⟩, hgate⟩
    · cases hfail.symm.trans heval

/-! ## The calls -/

theorem drops_openSession {request : SessionOpenRequest} :
    DropsAs config env (CountedDrop ctx False s) (openSession config ctx request) s := by
  refine (freeStage s).bind (freeCall_targetRuntimeId _) fun runtimeId t _ h => ?_
  refine h.bind (runs_orFail _) fun _ t _ h => ?_
  refine h.bind (freeCall_passive rfl rfl) fun found t _ h => ?_
  refine h.bind (runs_orFail _) fun found t _ h => ?_
  cases found with
  | some record =>
    exact h.drops ((discipline_free.runs_reattach (fun _ => trivial) _ _).settles _)
  | none =>
    refine h.bind (runs_admitOpen config request (discipline_free.passive _ rfl rfl))
      fun admission t _ h => ?_
    split
    · exact h.drops ((runs_openJoint discipline_free.passive (fun call _ => free_owner call)
        _ _ _ _).settles _)
    · exact h.reserveSlot_bind fun _ h => h.openReserved

theorem drops_loadCheckpoint {request : SessionLoadRequest} :
    DropsAs config env (CountedDrop ctx False s) (loadCheckpoint config ctx request) s := by
  refine (freeStage s).bind (freeCall_passive rfl rfl) fun found t _ h => ?_
  refine h.bind (runs_orFail _) fun joint t _ h => ?_
  cases joint with
  | some checkpoint =>
    refine h.bind (freeCall_targetRuntimeId _) fun runtimeId t _ h => ?_
    exact h.drops ((runs_loadJoint discipline_free.passive (fun call _ => free_owner call)
      _ _ _).settles _)
  | none =>
    refine h.bind (freeCall_passive rfl rfl) fun _ t _ h => ?_
    refine h.bind (freeCall_targetRuntimeId _) fun runtimeId t _ h => ?_
    dsimp only [admitLoad, bind_def]
    rw [Prog.bind_assoc]
    refine h.bind (freeCall_passive rfl rfl) fun found t _ h => ?_
    rw [Prog.bind_assoc]
    refine h.bind (runs_orFail _) fun found t _ h => ?_
    split
    · exact List.forall_mem_nil _
    · simp only [Prog.bind_assoc]
      refine h.bind (runs_orFail _) fun registration t _ h => ?_
      refine h.bind (runs_orFail _) fun _ t _ h => ?_
      exact h.reserveSlot_bind fun _ h => h.loadReserved

/-- A fork is admitted with one plan. -/
theorem ForkAdmitted.unique {plan' s₂'} (h : ForkAdmitted config env ctx request s plan s₂)
    (h' : ForkAdmitted config env ctx request s plan' s₂') : plan = plan' := by
  obtain ⟨parent, hpar, hadm⟩ := h.parent
  obtain ⟨parent', hpar', hadm'⟩ := h'.parent
  obtain rfl := Except.ok.inj (hpar.found.symm.trans hpar'.found)
  have hsame := Prod.mk.inj (Except.ok.inj (Prod.mk.inj (hadm.symm.trans hadm')).1)
  rw [h.plan_eq, h'.plan_eq, hsame.1, hsame.2]

/-- The fork is admitted, and the instance manager hands out an instance for it. -/
def ForkLoads (config : Config) (env : Env) (ctx : SecurityContext) (s : State)
    (request : SessionForkRequest) : Prop :=
  ∃ plan s₂, ForkAdmitted config env ctx request s plan s₂ ∧
    plan.loads config env ctx s.managers = true

theorem ForkAdmitted.forkLoads_iff (h : ForkAdmitted config env ctx request s plan s₂) :
    ForkLoads config env ctx s request ↔ plan.loads config env ctx s₂.managers = true := by
  rw [h.sameResources.managers]
  constructor
  · rintro ⟨plan', s₂', h', hloads⟩
    rwa [h.unique h']
  · exact fun hloads => ⟨plan, s₂, h, hloads⟩

/-- The part of a fork that holds its parent. -/
theorem drops_forkHeld {parent : SessionRecord} (hpar : ForkParent config env ctx request s parent)
    (hgate : s.active request.parentRuntimeId = none) :
    DropsAs config env (CountedDrop ctx (ForkLoads config env ctx s request)
      (s.held request.parentRuntimeId env.operationId)) (forkHeld config ctx request parent)
      (s.held request.parentRuntimeId env.operationId) := by
  refine (freeStage _).bind (discipline_free.runs_admitFork trivial) fun admitted s₂ hadm h => ?_
  refine h.bind (freeCall_targetRuntimeId _) fun runtimeId s₂' htgt h => ?_
  obtain ⟨hid, rfl⟩ := Prod.mk.inj ((targetRuntimeId_eval _ _).symm.trans htgt)
  obtain rfl := Except.ok.inj hid
  refine h.bind (freeCall_passive rfl rfl) fun now s₂' hnow h => ?_
  obtain ⟨rfl, rfl⟩ : env.answer (.now .publish) = now ∧ s₂ = s₂' := by
    simpa [perform, Prog.effect, handle] using hnow
  refine h.reserveSlot_bind fun hslot h => h.forkReserved ?_
  rw [slotReserved_managers]
  exact ForkAdmitted.forkLoads_iff ⟨⟨parent, hpar, hadm⟩, hgate, rfl, rfl, rfl, hslot⟩

/-- Giving a held session back undoes holding it. -/
theorem release_active (hgate : s.active runtimeId = none)
    (hheld : s'.active = (s.held runtimeId operationId).active) :
    (s'.release runtimeId operationId).active = s.active := by
  have hclaimed : s'.active runtimeId = some operationId := by
    rw [hheld]
    exact Function.update_self ..
  unfold State.release
  rw [if_pos hclaimed]
  rw [hheld]
  simp [State.held, ← hgate]

theorem CountedDrop.of_held {loaded : Prop} {y} (hgate : s.active runtimeId = none)
    (h : CountedDrop ctx loaded (s.held runtimeId operationId) y) :
    CountedDrop ctx loaded s (y.1, y.2.release runtimeId operationId) := by
  have hrel := sameResources_release y.2 runtimeId operationId
  refine ⟨release_active hgate h.gate, Iff.trans ?_ h.counts⟩
  constructor
  · rintro ⟨hslots, husage⟩
    exact ⟨hrel.slots.symm.trans hslots, fun key => by rw [← hrel.managers]; exact husage key⟩
  · rintro ⟨hslots, husage⟩
    exact ⟨hrel.slots.trans hslots, fun key => by rw [hrel.managers]; exact husage key⟩

theorem drops_fork :
    DropsAs config env (CountedDrop ctx (ForkLoads config env ctx s request) s)
      (fork config ctx request) s := by
  refine (freeStage s).bind (freeCall_passive rfl rfl) fun _ s' hlock h => ?_
  obtain rfl : s = s' := (Prod.mk.inj hlock).2
  refine h.bind (freeCall_requireSession _ rfl _) fun parent s' hfound h => ?_
  obtain rfl : s = s' := by
    have hstate := (passiveCall_requireSession ctx .lookup request.parentRuntimeId).eval config
      env s
    rw [hfound] at hstate
    exact hstate.symm
  refine h.bind (runs_orFail _) fun _ s' hsplit h => ?_
  rw [Prog.eval_orFail, Prod.mk.injEq] at hsplit
  obtain ⟨hsplit, rfl⟩ := hsplit
  refine h.bind (discipline_free.runs_checkLeaseHolder _ _) fun _ s' hlease h => ?_
  obtain rfl : s = s' := by
    have hstate := (passiveCall_checkLeaseHolder config request.parentRuntimeId request.lease).eval
      config env s
    rw [hlease] at hstate
    exact hstate.symm
  have hpar : ForkParent config env ctx request s parent :=
    ⟨congrArg Prod.fst hfound, hsplit, congrArg Prod.fst hlease⟩
  refine h.bind (freeCall_passive rfl rfl) fun fresh s' hfresh h => ?_
  obtain ⟨rfl, rfl⟩ : env.answer (.nextTurnId .operation) = fresh ∧ s = s' := by
    simpa [perform, Prog.effect, handle] using hfresh
  intro x hx
  rw [bind_def, perform, effect_bind, drops_perform] at hx
  cases hgate : s.active request.parentRuntimeId with
  | some active => simp [Effect.suspends, handle, State.claim, hgate] at hx
  | none =>
    simp only [Effect.suspends, handle, State.claim, hgate, Bool.false_eq_true, if_false,
      List.nil_append] at hx
    rw [Prog.drops_guarded rfl, List.mem_map] at hx
    obtain ⟨y, hy, rfl⟩ := hx
    exact (drops_forkHeld hpar hgate y hy).of_held hgate

/-! ## Submitting a turn -/

/-- A drop that leaves a claim exactly at the await in which the turn is submitted. -/
abbrev TurnDrop (s : State) (x : Effect × State) : Prop :=
  Unreserved s x.2 ↔ x.1.exposed = false

theorem freeStage_turn (s) : FreeStage (TurnDrop s) s s :=
  ⟨.refl s, fun ht h => Iff.trans ⟨(·.trans ht.symm), (·.trans ht)⟩ h,
    fun _ he => ⟨fun _ => he, fun _ => .refl s⟩⟩

/-- The claim of a turn survives the submission that is awaited. -/
theorem Stage.startTurn (h : FreeStage (TurnDrop s) s t) :
    DropsAs config env (TurnDrop s) (startTurn turn kind) t := by
  refine h.bind (freeCall_passive rfl rfl) fun turnId t _ h x hx => ?_
  rw [bind_def, perform, effect_bind, drops_perform] at hx
  cases hgate : t.active turn.runtimeId with
  | some active => simp [Effect.suspends, handle, State.claim, hgate] at hx
  | none =>
    simp only [Effect.suspends, handle, State.claim, hgate, Bool.false_eq_true, if_false,
      List.nil_append] at hx
    rw [bind_def, perform, effect_bind, drops_perform, List.mem_append] at hx
    rcases hx with hx | hx
    · simp only [Effect.suspends, if_true, handle, id_eq, List.mem_cons, List.not_mem_nil,
        or_false, or_self] at hx
      subst hx
      refine ⟨fun hclean => ?_, by simp [Effect.exposed]⟩
      have hact := congrFun (hclean.gate.trans h.same.gate.symm) turn.runtimeId
      simp [hgate] at hact
    · -- nothing is awaited after the runtime has answered
      rw [Prog.Runs.drops_eq_nil] at hx
      · simp at hx
      · split
        · exact ⟨rfl, fun _ _ => trivial⟩
        · split
          · exact ⟨rfl, fun _ _ => ⟨rfl, fun _ _ => trivial⟩⟩
          · exact ⟨rfl, fun _ _ => trivial⟩

theorem Stage.submitSplitTurn {record} (h : FreeStage (TurnDrop s) s t) :
    DropsAs config env (TurnDrop s) (submitSplitTurn config turn record) t := by
  refine h.bind (runs_orFail _) fun registration t _ h => ?_
  refine h.bind (runs_orFail _) fun _ t _ h => ?_
  refine h.bind (discipline_free.runs_ensureRuntimeAttached trivial) fun _ t _ h => ?_
  refine h.bind (discipline_free.runs_checkLeaseHolder _ _) fun _ t _ h => ?_
  refine h.bind (runs_require _ _) fun _ t _ h => ?_
  refine h.bind (runs_require _ _) fun _ t _ h => ?_
  cases turn.clientRequestId with
  | none => exact h.startTurn
  | some clientRequestId =>
    refine h.bind (freeCall_passive rfl rfl) fun replayed t _ h => ?_
    cases replayed with
    | some turnId => exact List.forall_mem_nil _
    | none => exact h.startTurn

/-- The owner admits a joint turn before the gate is set. -/
theorem settles_submitJointTurn (record binding turn) :
    (submitJointTurn config ctx record binding turn).Settles Effect.suspends
      (Quiet fun e => e.exposed = false) := by
  refine (discipline_free.runs_checkLeaseHolder _ _).settles_bind fun _ => ?_
  refine (runs_orFail _).settles_bind fun _ => ?_
  refine .inl ⟨discipline_free.passive _ rfl rfl, fun _ => ?_⟩
  refine .inl ⟨discipline_free.passive _ rfl rfl, fun turnId => ?_⟩
  refine .inl ⟨free_owner _, fun submitted => ?_⟩
  refine (runs_orFail _).settles_bind fun submitted => ?_
  split
  · exact .inr ⟨rfl, fun _ => ⟨rfl, fun _ _ => trivial⟩⟩
  · trivial

theorem drops_submitTurn :
    DropsAs config env (TurnDrop s) (submitTurn config ctx turn) s := by
  refine (freeStage_turn s).bind (freeCall_requireSession _ rfl _) fun record t _ h => ?_
  split
  · exact h.drops (settles_submitJointTurn _ _ _)
  · exact h.submitSplitTurn

/-! ## The calls with a time limit -/

/-- The calls whose drops matter: they take a reservation or a claim. -/
inductive TimedCall where
  | create (call : Creation)
  | submitTurn (request : SessionTurnRequest)

namespace TimedCall

/-- The awaits a call passes, each with a state in which it leaves the application when it is
dropped there. -/
def drops (config : Config) (env : Env) (ctx : SecurityContext) (s : State) :
    TimedCall → List (Effect × State)
  | create call => (call.run config ctx).drops (handle config env) Effect.suspends s
  | submitTurn request =>
    (App.submitTurn config ctx request).drops (handle config env) Effect.suspends s

/-- The awaits at which a drop leaves something behind.  For a creation these are the awaits of a
tenant's call after its slot is taken, and those of any call after an instance is admitted; for a
submission it is the await of the runtime, where the turn holds the gate. -/
def Window (config : Config) (env : Env) (ctx : SecurityContext) (s : State) (e : Effect) :
    TimedCall → Prop
  | create (.openSession _) | create (.loadCheckpoint _) => e.Reserving ctx False
  | create (.fork request) => e.Reserving ctx (ForkLoads config env ctx s request)
  | submitTurn _ => e.exposed = true

end TimedCall

theorem CountedDrop.unreserved_iff {loaded : Prop} {x}
    (h : CountedDrop ctx loaded s x) : Unreserved s x.2 ↔ ¬ x.1.Reserving ctx loaded :=
  ⟨fun hclean => h.counts.mp hclean.toSameCounts, fun hout => ⟨h.counts.mpr hout, h.gate⟩⟩

/-- **Dropped calls**: a call that is dropped at an await leaves the slots, the counters of the
instance managers and the gate as they were exactly if the await is outside its window. -/
theorem dropped_call_unreserved_iff (config : Config) (env : Env) (ctx : SecurityContext)
    (call : TimedCall) (s : State) (x : Effect × State) (hx : x ∈ call.drops config env ctx s) :
    Unreserved s x.2 ↔ ¬ call.Window config env ctx s x.1 := by
  match call with
  | .create (.openSession request) => exact (drops_openSession x hx).unreserved_iff
  | .create (.loadCheckpoint request) => exact (drops_loadCheckpoint x hx).unreserved_iff
  | .create (.fork request) => exact (drops_fork x hx).unreserved_iff
  | .submitTurn request =>
    refine (drops_submitTurn x hx).trans ?_
    simp [TimedCall.Window]

/-- A tenant's `open` runs out of time while its model is probed: the slot stays taken, and a quota
of one session is used up. -/
theorem open_dropped_at_probe_keeps_slot :
    ∃ x ∈ (TimedCall.create (.openSession (Sample.openRequest "r"))).drops
        (Sample.config [("e2b", "m")]) Sample.env (Sample.tenant "t") Sample.state,
      x.2.tenantSessions "t" = 1 ∧ ¬ Unreserved Sample.state x.2 := by
  refine ⟨_, List.mem_of_getElem? (i := 4) rfl, rfl, fun hclean => ?_⟩
  exact absurd (congrFun hclean.slots "t") (by decide)

/-- The same call may be dropped while it looks for the session. -/
theorem open_dropped_at_lookup_outside :
    ¬ (TimedCall.create (.openSession (Sample.openRequest "r"))).Window
      (Sample.config [("e2b", "m")]) Sample.env (Sample.tenant "t") Sample.state
      (.getSession .lookup "r") :=
  (dropped_call_unreserved_iff (Sample.config [("e2b", "m")]) Sample.env (Sample.tenant "t")
    (.create (.openSession (Sample.openRequest "r"))) Sample.state
    (.getSession .lookup "r", Sample.state) (List.mem_of_getElem? (i := 0) rfl)).mp
      (Unreserved.refl Sample.state)

end XGovernor.App
