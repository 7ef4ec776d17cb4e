import XGovernor.App.Admitted
import XGovernor.App.Rollback

/-!
# Dropped calls

A call whose future is dropped at an await runs no error branch; only the guard of a held session
acts.  Whatever the call has reserved by then stays reserved.  The awaits at which that happens are
those between the reservation and its release: all awaits of a tenant's creation after its slot,
all awaits of any creation after the place at the instance manager, and the await in which a
submitted turn reaches its runtime.
-/

namespace XGovernor.App

open Domain Joint Manager Lib Prog

variable {config : Config} {env : Env} {ctx : SecurityContext} {s t t' : State}
variable {a b : State} {e : Effect} {loaded : Prop} {here : Effect → Prop}
  {key runtimeId owner : String}

/-! ## Reservations -/

/-- The slots and the counters of the instance managers are as before. -/
structure SameCounts (s s' : State) : Prop where
  slots : s'.tenantSessions = s.tenantSessions
  usage : ∀ key, (s'.managers key).usage = (s.managers key).usage

/-- No reservation and no claim was taken. -/
structure Unreserved (s s' : State) : Prop extends SameCounts s s' where
  gate : s'.active = s.active

theorem SameCounts.refl (s) : SameCounts s s := ⟨rfl, fun _ => rfl⟩

theorem SameCounts.trans {c} (hab : SameCounts a b) (hbc : SameCounts b c) :
    SameCounts a c :=
  ⟨hbc.slots.trans hab.slots, fun key => (hbc.usage key).trans (hab.usage key)⟩

theorem SameCounts.symm (h : SameCounts a b) : SameCounts b a :=
  ⟨h.slots.symm, fun key => (h.usage key).symm⟩

theorem Unreserved.refl (s) : Unreserved s s := ⟨.refl s, rfl⟩

theorem Unreserved.trans {c} (hab : Unreserved a b) (hbc : Unreserved b c) :
    Unreserved a c :=
  ⟨hab.toSameCounts.trans hbc.toSameCounts, hbc.gate.trans hab.gate⟩

theorem Unreserved.symm (h : Unreserved a b) : Unreserved b a :=
  ⟨h.toSameCounts.symm, h.gate.symm⟩

/-- The effects that leave the gate as it is. -/
def Effect.keepsGate : Effect → Bool
  | claim _ _ | release _ _ | occupy _ _ | forgetSession _ => false
  | _ => true

/-- The effects that leave the counters of the instance managers as they are. -/
def Effect.keepsUsage : Effect → Bool
  | manager _ _ e => e.keepsUsage
  | _ => true

theorem handle_gate (he : e.keepsGate = true) :
    (handle config env s e).2.active = s.active := by
  cases e with
  | reserveTenantSession tenant limit =>
    dsimp only [handle, State.reserveTenantSession]
    split <;> rfl
  | getSession _ _ | saveSession _ _ | getCheckpoint _ | getJointCheckpoint _ _
  | saveCheckpoint _ | deleteCheckpoint _ | saveIntent _ _ _ | deleteIntent _ =>
    dsimp only [handle, commit]
    split
    · rfl
    · split <;> rfl
  | _ => first | rfl | simp [Effect.keepsGate] at he

theorem handle_usage (he : e.keepsUsage = true) (key) :
    ((handle config env s e).2.managers key).usage = (s.managers key).usage := by
  cases e with
  | manager key' site e =>
    dsimp only [handle]
    by_cases hkey : key = key'
    · subst hkey
      rw [Function.update_self]
      exact Manager.handle_usage he
    · rw [Function.update_of_ne hkey]
  | reserveTenantSession tenant limit =>
    dsimp only [handle, State.reserveTenantSession]
    split <;> rfl
  | releaseTenantSession tenant => rfl
  | _ => rw [(handle_resources config env s (by rfl)).2]

/-! ## The awaits of a creation -/

/-- The effects that are awaited while a creation holds a place at the instance manager. -/
def Effect.instanceHeld : Effect → Bool
  | manager _ .start e => !e.isLock
  | manager _ .recheck _ | manager _ .rollback _ => true
  | runtime _ .start _ | runtime _ .unstarted _ | runtime _ .discard _ | runtime _ .publish _
  | runtime _ .rollback _ => true
  | getSession .recheck _ | saveSession .publish _ | deleteIntent _ | lockPublication
  | ensureUnclaimed _ => true
  | _ => false

/-- The deletion of the snapshot that a fork has loaded its instance from. -/
def Effect.isDiscard : Effect → Bool
  | manager _ .discard _ => true
  | _ => false

/-- The awaits at which a creation has its place at the instance manager. -/
abbrev Effect.HoldsPlace (loaded : Prop) (e : Effect) : Prop :=
  e.instanceHeld = true ∨ (e.isDiscard = true ∧ loaded)

/-- The awaits between the slot and the place. -/
abbrev Effect.HoldsSlot (loaded : Prop) (e : Effect) : Prop :=
  e.exposed = true ∧ ¬ e.HoldsPlace loaded

/-- The awaits at which a dropped creation leaves a reservation. -/
def Effect.Reserving (ctx : SecurityContext) (loaded : Prop) (e : Effect) : Prop :=
  (ctx.tenantId.isSome ∧ e.exposed = true) ∨ e.instanceHeld = true ∨ (e.isDiscard = true ∧ loaded)

/-- A drop that gives back the gate, and that leaves no reservation exactly outside the awaits
listed. -/
structure CountedDrop (ctx : SecurityContext) (loaded : Prop) (s : State) (x : Effect × State) :
    Prop where
  gate : x.2.active = s.active
  counts : SameCounts s x.2 ↔ ¬ x.1.Reserving ctx loaded

theorem Effect.HoldsPlace.exposed (he : e.HoldsPlace loaded) : e.exposed = true := by
  unfold HoldsPlace at he
  cases e with
  | manager _ site _ | getSession site _ | saveSession site _ =>
    cases site <;> first | rfl | simp [instanceHeld, isDiscard] at he
  | runtime kind site call =>
    cases site <;> first | (cases call <;> rfl) | simp [instanceHeld, isDiscard] at he
  | _ => first | rfl | simp [instanceHeld, isDiscard] at he

theorem Effect.holdsSlot (hexp : e.exposed = true) (hheld : e.instanceHeld = false)
    (hdiscard : e.isDiscard = false) : e.HoldsSlot loaded :=
  ⟨hexp, by simp [hheld, hdiscard]⟩

theorem CountedDrop.of_unreserved (ht : Unreserved t t') (h : CountedDrop ctx loaded s (e, t)) :
    CountedDrop ctx loaded s (e, t') :=
  ⟨ht.gate.trans h.gate, Iff.trans
    ⟨(·.trans ht.symm.toSameCounts), (·.trans ht.toSameCounts)⟩ h.counts⟩

/-- Nothing is reserved before the slot. -/
theorem countedDrop_free (he : e.exposed = false) : CountedDrop ctx loaded s (e, s) := by
  refine ⟨rfl, fun _ => ?_, fun _ => .refl s⟩
  rintro (⟨-, hexp⟩ | hplace)
  · exact Bool.false_ne_true (he.symm.trans hexp)
  · exact Bool.false_ne_true (he.symm.trans (Effect.HoldsPlace.exposed hplace))

/-- **A dropped creation of a tenant keeps its slot.** -/
theorem countedDrop_slot (he : e.HoldsSlot loaded) :
    CountedDrop ctx loaded s (e, s.slotReserved ctx) := by
  cases hten : ctx.tenantId with
  | none =>
    have hsame : s.slotReserved ctx = s := by simp [State.slotReserved, hten]
    rw [hsame]
    refine ⟨rfl, fun _ => ?_, fun _ => .refl s⟩
    rintro (⟨hsome, -⟩ | hplace)
    · simp [hten] at hsome
    · exact he.2 hplace
  | some tenant =>
    refine ⟨by simp [State.slotReserved, hten], fun hsame => ?_,
      fun hout => absurd (.inl ⟨by simp [hten], he.1⟩) hout⟩
    have hcount := congrFun hsame.slots tenant
    simp [State.slotReserved, hten] at hcount

theorem slotReserved_active : (s.slotReserved ctx).active = s.active := by
  unfold State.slotReserved
  cases ctx.tenantId <;> rfl

/-- **A dropped creation keeps its place.** -/
theorem countedDrop_place (key owner) (ht : Unreserved (s.slotReserved ctx) t)
    (hgate : t'.active = t.active)
    (husage : (t'.managers key).usage = ((t.managers key).counted owner).usage)
    (he : e.HoldsPlace loaded) : CountedDrop ctx loaded s (e, t') := by
  refine ⟨hgate.trans (ht.gate.trans slotReserved_active), fun hsame => ?_,
    fun hout => absurd (.inr he) hout⟩
  have hbef : (t.managers key).usage = (s.managers key).usage := by
    rw [ht.usage, slotReserved_managers]
  have htotal := congrArg Prod.snd (husage.symm.trans ((hsame.usage key).trans hbef.symm))
  simp [Manager.State.usage, Manager.State.counted] at htotal

/-! ## Stages of a call -/

/-- The effects that keep what is reserved, awaited only where `here` allows it. -/
structure Quiet (here : Effect → Prop) (e : Effect) (onDrop : State → State) : Prop where
  slots : e.keepsSlots = true
  usage : e.keepsUsage = true
  gate : e.keepsGate = true
  awaited : e.suspends = true → here e
  unguarded : onDrop = id

theorem Quiet.of_resources (hrsrc : e.keepsResources = true) (hgate : e.keepsGate = true)
    (hawaited : e.suspends = true → here e) : Quiet here e id := by
  refine ⟨?_, ?_, hgate, hawaited, rfl⟩
  · cases e <;> first | rfl | simp [Effect.keepsResources] at hrsrc
  · cases e with
    | manager key site e => exact (Manager.Effect.keepsUsage_of_passive hrsrc).1
    | _ => rfl

theorem Quiet.step {onDrop} (h : Quiet here e onDrop) :
    Unreserved s (handle config env s e).2 :=
  ⟨⟨handle_slots h.slots, handle_usage h.usage⟩, handle_gate h.gate⟩

/-- Wherever the program is dropped, what it leaves is as `D` says. -/
abbrev DropsAs (config : Config) (env : Env) (D : Effect × State → Prop) {α : Type} (p : AppM α)
    (t : State) : Prop :=
  ∀ x ∈ p.drops (handle config env) Effect.suspends t, D x

/-- A call in `t` has what it has in `base`, and may be dropped at the awaits in `here`. -/
structure Stage (D : Effect × State → Prop) (here : Effect → Prop) (base t : State) : Prop where
  same : Unreserved base t
  stable : ∀ {e t t'}, Unreserved t t' → D (e, t) → D (e, t')
  dropped : ∀ e, here e → D (e, base)

section Stages

variable {D : Effect × State → Prop} {base : State} {α β : Type} {p : AppM α} {f : α → AppM β}

/-- What is reserved after the last await does not matter. -/
theorem Stage.drops (h : Stage D here base t) (hp : p.Settles Effect.suspends (Quiet here)) :
    DropsAs config env D p t := by
  intro x hx
  refine hp.drops_invariant (I := Unreserved base) (J := fun e s => D (e, s)) ?_ ?_ h.same hx
  · intro s e _ hs he
    exact hs.trans he.step
  · rintro s e _ hs hsusp ⟨-, -, -, hawaited, rfl⟩
    exact h.stable hs (h.dropped e (hawaited hsusp))

/-- A part of a call that reserves nothing, and what follows. -/
theorem Stage.bind (h : Stage D here base t) (hp : p.Runs (fun _ _ => True) (Quiet here))
    (hf : ∀ a t', p.eval (handle config env) t = (.ok a, t') → Stage D here base t' →
      DropsAs config env D (f a) t') : DropsAs config env D (p.bind f) t := by
  intro x hx
  rcases Prog.mem_drops_bind.mp hx with hx | ⟨a, t', heval, hx⟩
  · exact h.drops (hp.settles _) x hx
  · have hstate := hp.eval_invariant (h := handle config env) (I := Unreserved base)
      (fun _ _ _ hs he => ⟨trivial, hs.trans he.step⟩) h.same
    rw [heval] at hstate
    exact hf a t' heval ⟨hstate, h.stable, h.dropped⟩ x hx

theorem dropsAs_orFail_bind {x} (hf : ∀ a, x = .ok a → DropsAs config env D (f a) t) :
    DropsAs config env D ((orFail x).bind f) t := by
  cases x with
  | error e => exact List.forall_mem_nil _
  | ok a => exact hf a rfl

theorem sync_releaseSlot_fail (error) :
    ((releaseSlot ctx).bind fun _ => (.fail error : AppM α)).Obeys (fun _ _ => True)
      fun e => e.suspends = false := by
  unfold releaseSlot
  cases ctx.tenantId with
  | none => trivial
  | some tenant => exact ⟨rfl, fun _ _ => trivial⟩

/-- Giving the slot back is the last thing a failed creation does. -/
theorem dropsAs_releaseSlot_fail (error) :
    DropsAs config env D ((releaseSlot ctx).bind fun _ => (.fail error : AppM α)) t := by
  intro x hx
  simp [(sync_releaseSlot_fail error).drops_eq_nil] at hx

end Stages

/-! ## While a place is held -/

/-- The end of a creation, which begins when the new session has its instance. -/
abbrev EndsHeld (loaded : Prop) {α : Type} (p : AppM α) : Prop :=
  p.Settles Effect.suspends (Quiet (Effect.HoldsPlace loaded))

theorem Quiet.held (hrsrc : e.keepsResources = true) (hgate : e.keepsGate = true)
    (hheld : e.suspends = true → e.instanceHeld = true) : Quiet (Effect.HoldsPlace loaded) e id :=
  .of_resources hrsrc hgate fun hs => .inl (hheld hs)

theorem endsHeld_abandonInstance {α : Type} (error) :
    EndsHeld loaded (abandonInstance ctx key runtimeId error : AppM α) := by
  refine Prog.Settles.bind (Prog.Settles.attempt (Embedding.settles_lift (fun _ => rfl) ?_
    Manager.settles_stopInstance)) (fun _ => sync_releaseSlot_fail error) fun _ => ?_
  · rintro e _ ⟨he, rfl⟩
    rw [lifted_id]
    exact ⟨rfl, he, rfl, fun _ => .inl rfl, rfl⟩
  · unfold releaseSlot
    cases ctx.tenantId with
    | none => trivial
    | some tenant => exact .inr ⟨rfl, fun _ => trivial⟩

theorem endsHeld_abandonRuntime {α : Type} (kind : String) (error) :
    EndsHeld loaded (abandonRuntime ctx kind key runtimeId error : AppM α) :=
  .inl ⟨.held rfl rfl fun _ => rfl, fun _ => endsHeld_abandonInstance error⟩

theorem quiet_exportRuntimeSnapshot (kind : String) :
    (exportRuntimeSnapshot kind runtimeId).Runs (fun _ _ => True)
      (Quiet (Effect.HoldsPlace loaded)) := by
  refine ⟨.held rfl rfl fun _ => rfl, fun state _ => ?_⟩
  cases state with
  | error error => trivial
  | ok state =>
    refine ⟨.held rfl rfl fun _ => rfl, fun llm _ => ?_⟩
    cases llm <;> trivial

theorem endsHeld_publishOpened (request admission)
    (now : Nat) (snapshot : OpaqueRuntimeState × Option ResolvedLlm) :
    EndsHeld loaded (publishOpened config ctx request admission key runtimeId now snapshot) := by
  refine .inl ⟨.held rfl rfl fun _ => rfl, fun saved => ?_⟩
  cases saved with
  | error error => exact endsHeld_abandonRuntime _ _
  | ok _ =>
    split
    · exact .inl ⟨.held rfl rfl fun _ => rfl, fun _ => trivial⟩
    · trivial

theorem endsHeld_startOpened (request admission startRequest) (now : Nat) (backend) :
    EndsHeld loaded (startOpened config ctx request admission key startRequest now backend) := by
  refine .inl ⟨.held rfl rfl fun _ => rfl, fun started => ?_⟩
  dsimp only [ret_bind]
  split
  · exact endsHeld_abandonInstance _
  · refine (quiet_exportRuntimeSnapshot _).settles_bind fun snapshot => ?_
    split
    · exact endsHeld_publishOpened _ _ _ _
    · exact endsHeld_publishOpened _ _ _ _
    · exact endsHeld_abandonRuntime _ _

theorem endsHeld_startLoaded (request checkpoint) (intentId : String) (backend) :
    EndsHeld loaded (startLoaded ctx request checkpoint key runtimeId intentId backend) := by
  refine .inl ⟨.held rfl rfl fun _ => rfl, fun started => ?_⟩
  dsimp only [ret_bind]
  split
  · exact endsHeld_abandonInstance _
  · refine (quiet_exportRuntimeSnapshot _).settles_bind fun snapshot => ?_
    split
    · exact endsHeld_abandonRuntime _ _
    · refine .inl ⟨.held rfl rfl nofun, fun now => ?_⟩
      refine .inl ⟨.held rfl rfl fun _ => rfl, fun saved => ?_⟩
      cases saved with
      | error error => exact endsHeld_abandonRuntime _ _
      | ok _ =>
        refine .inl ⟨.held rfl rfl fun _ => rfl, fun deleted => ?_⟩
        cases deleted <;> trivial

theorem quiet_recheckSource (closed inactive : String) :
    (recheckSource runtimeId key closed inactive).Runs (fun _ _ => True)
      (Quiet (Effect.HoldsPlace loaded)) :=
  ⟨.held rfl rfl fun _ => rfl, fun _ _ => .orFail fun _ =>
    .require fun _ => (runs_manager_passive Manager.passive_inspectInstance
      fun _ he => .held he rfl fun _ => rfl).bind fun _ =>
        .orFail fun _ => runs_require _ _⟩

theorem endsHeld_startForked (plan state backend) :
    EndsHeld loaded (startForked ctx plan key state backend) := by
  refine .inl ⟨.held rfl rfl fun _ => rfl, fun started => ?_⟩
  dsimp only [ret_bind]
  split
  · exact .inl ⟨.held rfl rfl fun _ => rfl, fun _ => endsHeld_abandonInstance _⟩
  · refine .inl ⟨.held rfl rfl fun _ => rfl, fun _ => ?_⟩
    refine (quiet_exportRuntimeSnapshot _).settles_bind fun snapshot => ?_
    split
    · exact endsHeld_abandonRuntime _ _
    · refine .inl ⟨.held rfl rfl fun _ => rfl, fun _ => ?_⟩
      refine (quiet_recheckSource _ _).settles_bind fun _ => ?_
      refine .inl ⟨.held rfl rfl fun _ => rfl, fun saved => ?_⟩
      cases saved with
      | error error => exact endsHeld_abandonRuntime _ _
      | ok _ => trivial

/-! ## Between the slot and the place -/

/-- A creation that has its slot and no place yet. -/
abbrev SlotStage (ctx : SecurityContext) (loaded : Prop) (s t : State) : Prop :=
  Stage (CountedDrop ctx loaded s) (Effect.HoldsSlot loaded) (s.slotReserved ctx) t

/-- A creation that has its place. -/
abbrev PlaceStage (ctx : SecurityContext) (loaded : Prop) (s t : State) : Prop :=
  Stage (CountedDrop ctx loaded s) (Effect.HoldsPlace loaded) t t

section Slot

variable {α : Type}

section

variable (h : SlotStage ctx loaded s t)
include h

/-- One effect between the slot and the place, and what follows. -/
theorem Stage.perform_bind {f : e.Reply → AppM α}
    (hrsrc : e.keepsResources = true) (hgate : e.keepsGate = true)
    (hslot : e.suspends = true → e.HoldsSlot loaded)
    (hf : ∀ r t', (handle config env t e).1 = r → t'.managers = t.managers →
      SlotStage ctx loaded s t' → DropsAs config env (CountedDrop ctx loaded s) (f r) t') :
    DropsAs config env (CountedDrop ctx loaded s) ((perform e).bind f) t := by
  refine h.bind ⟨.of_resources hrsrc hgate hslot, fun _ _ => trivial⟩ fun r t' heval ht' => ?_
  obtain ⟨hr, rfl⟩ := Prod.mk.inj heval
  exact hf r _ (Except.ok.inj hr) (handle_resources config env t hrsrc).2 ht'

/-- Obtaining an instance is dropped with the slot while it waits for the lock of its runtime, and
with the place afterwards. -/
theorem Stage.obtain_bind {duplicate : String} {limit : Option Nat}
    {obtain_ : ManagerM ProviderInstance} {p : ManagerM OperationBackend}
    {f : Except ProviderControlError OperationBackend → AppM α} (hobtain : Manager.Passive obtain_)
    (hp : p = (runtimeLock runtimeId).bind fun _ =>
      admitInstance runtimeId ctx.ownerRef limit duplicate obtain_)
    (herror : ∀ e, (p.eval (Manager.handle (config.managers key) (env.managerAnswers key .start))
        (t.managers key)).1.isOk = false →
      DropsAs config env (CountedDrop ctx loaded s) (f (.error e)) t)
    (hok : ∀ backend t₁, (p.eval (Manager.handle (config.managers key)
        (env.managerAnswers key .start)) (t.managers key)).1.isOk = true →
      PlaceStage ctx loaded s t₁ →
      DropsAs config env (CountedDrop ctx loaded s) (f (.ok backend)) t₁) :
    DropsAs config env (CountedDrop ctx loaded s) ((manager key .start p).bind f) t := by
  subst hp
  intro x hdrop
  rcases Prog.mem_drops_bind.mp hdrop with hx | ⟨outcome, t', heval, hx⟩
  · rw [drops_manager, List.mem_map] at hx
    obtain ⟨⟨e, m⟩, hx, rfl⟩ := hx
    simp only [runtimeLock, Manager.perform, effect_bind, drops_perform,
      Manager.Effect.suspends, if_true, Manager.handle, id_eq, List.mem_append, List.mem_cons,
      Prod.mk.injEq, List.not_mem_nil, or_false, or_self] at hx
    rcases hx with ⟨rfl, rfl⟩ | hx
    · rw [withManager_self]
      exact h.stable h.same (h.dropped _ (Effect.holdsSlot rfl rfl rfl))
    -- the lock is held from here on, and the place with it
    · obtain ⟨hlock, husage⟩ := admitInstance_drops hobtain hx
      refine countedDrop_place key ctx.ownerRef h.same rfl ?_
        (.inl (by simpa [Effect.instanceHeld] using hlock))
      simpa [State.withManager] using husage
  · rw [eval_manager, Prod.mk.injEq, Except.ok.injEq] at heval
    obtain ⟨rfl, rfl⟩ := heval
    have hobtains : Obtains (config.managers key) (env.managerAnswers key .start) (t.managers key)
        runtimeId ctx.ownerRef ((runtimeLock runtimeId).bind fun _ =>
          admitInstance runtimeId ctx.ownerRef limit duplicate obtain_) :=
      obtains_admitInstance hobtain
    rcases hobtains with ⟨e, hp⟩ | ⟨bound, hfree, hp⟩
    · rw [hp, withManager_self] at hx
      exact herror e (by rw [hp]; rfl) x hx
    · rw [hp] at hx
      refine hok bound.backend _ (by rw [hp]; rfl) ⟨.refl _, .of_unreserved, fun e he => ?_⟩ x hx
      refine countedDrop_place key ctx.ownerRef h.same rfl ?_ he
      simp [State.withManager]
      rfl

theorem Stage.openReserved {request : SessionOpenRequest} {admission : OpenAdmission} :
    DropsAs config env (CountedDrop ctx loaded s)
      (openReserved config ctx request admission runtimeId) t := by
  refine h.perform_bind rfl rfl (fun _ => Effect.holdsSlot rfl rfl rfl) fun probed t _ _ h => ?_
  split
  · exact dropsAs_releaseSlot_fail _
  · refine h.perform_bind rfl rfl nofun fun now t _ _ h => ?_
    refine dropsAs_orFail_bind fun provider _ => ?_
    refine h.obtain_bind (passive_createWithRetry _ _) rfl (fun e _ => ?_) fun backend t₁ _ h => ?_
    · exact dropsAs_releaseSlot_fail _
    · exact h.drops (endsHeld_startOpened _ _ _ _ _)

theorem Stage.loadReserved {request : SessionLoadRequest} {checkpoint : CheckpointRecord}
    {registration : RuntimeRegistration} :
    DropsAs config env (CountedDrop ctx loaded s)
      (loadReserved ctx request checkpoint registration runtimeId) t := by
  refine dropsAs_orFail_bind fun provider _ => ?_
  refine h.perform_bind rfl rfl (fun _ => Effect.holdsSlot rfl rfl rfl) fun saved t _ _ h => ?_
  refine dropsAs_orFail_bind fun _ _ => ?_
  refine h.obtain_bind (passive_loadSnapshot _ _ _) rfl (fun e _ => ?_) fun backend t₁ _ h => ?_
  · exact dropsAs_releaseSlot_fail _
  · exact h.drops (endsHeld_startLoaded _ _ _ _)

end

end Slot

end XGovernor.App
