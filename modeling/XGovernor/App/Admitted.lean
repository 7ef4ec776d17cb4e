import XGovernor.App.Creation

/-!
# Which calls create a session

A call of `open`, `load_checkpoint` or `fork` reaches the creation of a split session only if its
admission succeeds and a slot is free.  Otherwise it leaves the slots and the instance managers
as they are.
-/

namespace XGovernor.App

open Domain Joint Manager Lib Prog

variable {config : Config} {env : Env} {ctx : SecurityContext} {s : State}

/-! ## Slots and managers untouched -/

/-- The slots and the managers are as before. -/
structure SameResources (s s' : State) : Prop where
  slots : s'.tenantSessions = s.tenantSessions
  managers : s'.managers = s.managers

theorem SameResources.refl (s) : SameResources s s := ⟨rfl, rfl⟩

theorem SameResources.symm {a b} (h : SameResources a b) : SameResources b a :=
  ⟨h.slots.symm, h.managers.symm⟩

theorem SameResources.trans {a b c} (hab : SameResources a b) (hbc : SameResources b c) :
    SameResources a c :=
  ⟨hbc.slots.trans hab.slots, hbc.managers.trans hab.managers⟩

variable {request : SessionForkRequest} {α : Type} {runtimeId : String} {admission : OpenAdmission}
  {parent : SessionRecord} {p : AppM α}

/-- A program that touches neither slots nor managers. -/
abbrev KeepsResources (p : AppM α) : Prop :=
  p.Obeys (fun _ _ => True) fun e => e.keepsResources = true

theorem KeepsResources.eval (hp : KeepsResources p) (config env s) :
    SameResources s (p.eval (handle config env) s).2 := by
  refine hp.eval_invariant (I := fun s' => SameResources s s') ?_ (SameResources.refl s)
  intro s' e _ hs' he
  have hstep := handle_resources config env s' he
  exact ⟨trivial, hs'.trans ⟨hstep.1, hstep.2⟩⟩

/-- Looking after one's own sessions touches neither slots nor managers. -/
theorem discipline_keepsResources :
    Discipline (fun e _ => e.keepsResources = true) fun _ => True where
  passive := fun _ he _ => Effect.keepsResources_of_passive he
  save := fun _ _ _ => rfl
  owner := fun _ _ _ => rfl

/-- A program that leaves the state. -/
abbrev PassiveCall (p : AppM α) : Prop :=
  p.Obeys (fun _ _ => True) fun e => e.passive = true

theorem PassiveCall.eval (hp : PassiveCall p) (config env s) :
    (p.eval (handle config env) s).2 = s := by
  refine hp.eval_invariant (I := fun s' => s' = s) ?_ rfl
  rintro s' e _ rfl he
  exact ⟨trivial, handle_of_passive he⟩

/-- The runtime id a call is about: the requested one, or a generated one. -/
def Env.targetId (env : Env) (requested : Option String) : String :=
  requested.getD (env.answer (.nextRuntimeId .target))

theorem targetRuntimeId_eval (requested : Option String) (s) :
    (targetRuntimeId requested).eval (handle config env) s = (.ok (env.targetId requested), s) := by
  cases requested <;> rfl

/-! ## Opening -/

theorem passiveCall_admitOpen (config ctx request) :
    PassiveCall (admitOpen config ctx request) :=
  runs_admitOpen config request rfl

theorem keepsResources_reattach (request record runtimeId)
    : KeepsResources (reattach config ctx request record runtimeId) :=
  discipline_keepsResources.runs_reattach (fun _ => trivial) request runtimeId

theorem keepsResources_openJoint (request admission owner runtimeId) :
    KeepsResources (openJoint config ctx request admission owner runtimeId) :=
  runs_openJoint discipline_keepsResources.passive
    (fun _ _ => rfl) request admission owner runtimeId

/-- An `open` creates a split session: the id is free, the request is admitted on the split route
and the tenant has a slot. -/
structure OpenAdmitted (config : Config) (env : Env) (ctx : SecurityContext)
    (request : SessionOpenRequest) (s : State) (admission : OpenAdmission) : Prop where
  named : env.targetId request.runtimeId ≠ ""
  lookup : ∃ found, env.answer (.getSession .lookup (env.targetId request.runtimeId)) = .ok found
  free : readSession s.store (env.targetId request.runtimeId) = none
  admitted : ((admitOpen config ctx request).eval (handle config env) s).1 = .ok admission
  split : admission.registration.jointLifecycle = none
  slot : s.SlotFree ctx

theorem requireNonEmptyRuntimeId_of_ne (h : runtimeId ≠ "") :
    requireNonEmptyRuntimeId runtimeId = .ok () := by
  simp [requireNonEmptyRuntimeId, ensure, h]

/-- The registration an admission is about. -/
theorem admitOpen_registration {request}
    (h : ((admitOpen config ctx request).eval (handle config env) s).1 = .ok admission) :
    registration config (request.runtimeKind.getD config.defaultRuntimeKind) =
      .ok admission.registration := by
  have hreturns : (admitOpen config ctx request).Returns fun admission =>
      registration config (request.runtimeKind.getD config.defaultRuntimeKind) =
        .ok admission.registration := by
    dsimp only [admitOpen, bind_def]
    cases registration config (request.runtimeKind.getD config.defaultRuntimeKind) with
    | error e => trivial
    | ok registration =>
      rw [orFail_ok, ret_bind]
      exact .bind _ fun _ => .bind _ fun _ => .bind _ fun _ => .bind _ fun _ => .bind _ fun _ =>
        .bind _ fun _ => rfl
  exact hreturns.eval h

/-- An `open` is admitted and goes on with its slot; or it stops where it began, attaches to a
stored session, or takes the joint route. -/
theorem openSession_cases (config env ctx request s) :
    (∃ admission, OpenAdmitted config env ctx request s admission ∧
      (openSession config ctx request).eval (handle config env) s =
        (openReserved config ctx request admission (env.targetId request.runtimeId)).eval
          (handle config env) (s.slotReserved ctx)) ∨
    (∀ admission, ¬ OpenAdmitted config env ctx request s admission) ∧
      ((∃ e, (openSession config ctx request).eval (handle config env) s = (.error e, s)) ∨
      (∃ record, readSession s.store (env.targetId request.runtimeId) = some record ∧
        (openSession config ctx request).eval (handle config env) s =
          (reattach config ctx request record (env.targetId request.runtimeId)).eval
            (handle config env) s) ∨
      ∃ admission owner,
        ((admitOpen config ctx request).eval (handle config env) s).1 = .ok admission ∧
        admission.registration.jointLifecycle = some owner ∧
        (openSession config ctx request).eval (handle config env) s =
          (openJoint config ctx request admission owner (env.targetId request.runtimeId)).eval
            (handle config env) s) := by
  dsimp only [openSession, perform, bind_def]
  rw [eval_bind_ok (targetRuntimeId_eval ..)]
  by_cases hnamed : env.targetId request.runtimeId = ""
  · refine .inr ⟨fun _ h => h.named hnamed, .inl ?_⟩
    rw [hnamed]
    exact ⟨_, rfl⟩
  rw [requireNonEmptyRuntimeId_of_ne hnamed]
  simp only [orFail, ret_bind, effect_bind, eval_perform]
  rcases handle_getSession config env s .lookup (env.targetId request.runtimeId) with
    ⟨b, hlookup, hread⟩ | ⟨e, herror, hread⟩
  · rw [hread]
    cases hfree : readSession s.store (env.targetId request.runtimeId) with
    | some record =>
      -- the id is in use: the call attaches to the stored session
      exact .inr ⟨fun _ h => (by cases hfree.symm.trans h.free), .inr (.inl ⟨record, rfl, rfl⟩)⟩
    | none =>
      have hstate := (passiveCall_admitOpen config ctx request).eval config env s
      dsimp only [ret_bind, openFresh, bind_def]
      rcases hadm : (admitOpen config ctx request).eval (handle config env) s with
        ⟨e | admission, s'⟩
      · obtain rfl : s' = s := by rw [hadm] at hstate; exact hstate
        exact .inr ⟨fun _ h => (by cases (congrArg Prod.fst hadm).symm.trans h.admitted),
          .inl ⟨e, eval_bind_error hadm⟩⟩
      · obtain rfl : s' = s := by rw [hadm] at hstate; exact hstate
        have hadmitted := congrArg Prod.fst hadm
        rw [eval_bind_ok hadm]
        cases hsplit : admission.registration.jointLifecycle with
        | some owner =>
          -- a registration with a joint lifecycle takes no slot here
          refine .inr ⟨fun other h => ?_, .inr (.inr ⟨admission, owner, rfl, hsplit, rfl⟩)⟩
          cases hadmitted.symm.trans h.admitted
          cases hsplit.symm.trans h.split
        | none =>
          rcases reserveSlot_eval config env ctx s' with ⟨hslot, hresv⟩ | ⟨hfull, e, hfail⟩
          · exact .inl ⟨admission, ⟨hnamed, ⟨b, hlookup⟩, hfree, hadmitted, hsplit, hslot⟩,
              eval_bind_ok hresv⟩
          · exact .inr ⟨fun _ h => hfull h.slot, .inl ⟨e, eval_bind_error hfail⟩⟩
  · rw [hread]
    -- the store did not answer the lookup
    refine .inr ⟨fun _ h => ?_, .inl ⟨e, rfl⟩⟩
    obtain ⟨found, hfound⟩ := h.lookup
    cases herror.symm.trans hfound

/-- An admitted `open` goes on with its slot. -/
theorem OpenAdmitted.eval {request} (h : OpenAdmitted config env ctx request s admission) :
    (openSession config ctx request).eval (handle config env) s =
      (openReserved config ctx request admission (env.targetId request.runtimeId)).eval
        (handle config env) (s.slotReserved ctx) := by
  rcases openSession_cases config env ctx request s with ⟨_, h', heval⟩ | ⟨hnone, -⟩
  · cases h'.admitted.symm.trans h.admitted
    exact heval
  · exact absurd h (hnone admission)

/-- An `open` that creates nothing leaves slots and managers. -/
theorem openSession_sameResources {request}
    (h : ∀ admission, ¬ OpenAdmitted config env ctx request s admission) :
    SameResources s ((openSession config ctx request).eval (handle config env) s).2 := by
  rcases openSession_cases config env ctx request s with ⟨admission, hadmitted, -⟩ |
    ⟨-, ⟨e, hfail⟩ | ⟨record, -, hatt⟩ | ⟨admission, owner, -, -, hjoint⟩⟩
  · exact absurd hadmitted (h admission)
  · rw [hfail]
    exact .refl s
  · rw [hatt]
    exact (keepsResources_reattach request record _).eval config env s
  · rw [hjoint]
    exact (keepsResources_openJoint request admission owner _).eval config env s

/-! ## Loading -/

/-- A `load_checkpoint` creates a split session: the checkpoint is a split one of the caller whose
deletion is not announced, its runtime is registered and accepts the model, and the tenant has a
slot. -/
@[mk_iff] structure LoadAdmitted (config : Config) (env : Env) (ctx : SecurityContext)
    (request : SessionLoadRequest) (s : State) (checkpoint : CheckpointRecord)
    (registration : RuntimeRegistration) : Prop where
  route : ∃ found, env.answer (.getJointCheckpoint .route request.checkpointId) = .ok found
  split : s.store.jointCheckpoints.get? request.checkpointId = none
  lookup : ∃ found, env.answer (.getCheckpoint request.checkpointId) = .ok found
  found : readCheckpoint s.store request.checkpointId = some checkpoint
  owned : ctx.owns checkpoint.tenantId = true
  registered : App.registration config checkpoint.runtimeState.runtimeKind = .ok registration
  validated : registration.validateLlmConfig request.llm = .ok ()
  slot : s.SlotFree ctx

theorem keepsResources_loadJoint (request checkpoint runtimeId) :
    KeepsResources (loadJoint config ctx request checkpoint runtimeId) :=
  runs_loadJoint discipline_keepsResources.passive (fun _ _ => rfl) request checkpoint runtimeId

/-- The admission of a split checkpoint gets the slot, or fails and leaves the state. -/
theorem admitLoad_cases (config ctx) {request}
    (hroute : ∃ found, env.answer (.getJointCheckpoint .route request.checkpointId) = .ok found)
    (hsplit : s.store.jointCheckpoints.get? request.checkpointId = none) :
    (∃ checkpoint registration, LoadAdmitted config env ctx request s checkpoint registration ∧
      (admitLoad config ctx request).eval (handle config env) s =
        (.ok (checkpoint, registration), s.slotReserved ctx)) ∨
    (∀ checkpoint registration,
      ¬ LoadAdmitted config env ctx request s checkpoint registration) ∧
        ∃ e, (admitLoad config ctx request).eval (handle config env) s = (.error e, s) := by
  dsimp only [admitLoad, perform, bind_def]
  rw [effect_bind, eval_perform]
  rcases handle_getCheckpoint config env s request.checkpointId with
    ⟨b, hlookup, hread⟩ | ⟨e, herror, hread⟩
  · rw [hread]
    dsimp only [orFail, ret_bind]
    cases hfound : (readCheckpoint s.store request.checkpointId).filter
        fun checkpoint => ctx.owns checkpoint.tenantId with
    | none =>
      refine .inr ⟨fun checkpoint _ h => ?_, _, rfl⟩
      simp [h.found, h.owned] at hfound
    | some checkpoint =>
      obtain ⟨hsto, howned⟩ := Option.filter_eq_some_iff.mp hfound
      dsimp only
      cases hreg : App.registration config checkpoint.runtimeState.runtimeKind with
      | error e =>
        refine .inr ⟨fun _ _ h => ?_, e, rfl⟩
        cases hsto.symm.trans h.found
        cases hreg.symm.trans h.registered
      | ok registration =>
        dsimp only [ret_bind]
        cases hvalid : registration.validateLlmConfig request.llm with
        | error e =>
          refine .inr ⟨fun _ _ h => ?_, _, rfl⟩
          cases hsto.symm.trans h.found
          cases hreg.symm.trans h.registered
          cases hvalid.symm.trans h.validated
        | ok _ =>
          dsimp only [Except.mapError, ret_bind]
          rcases reserveSlot_eval config env ctx s with ⟨hslot, hresv⟩ | ⟨hfull, e, hfail⟩
          · exact .inl ⟨checkpoint, registration, ⟨hroute, hsplit, ⟨b, hlookup⟩, hsto, howned,
              hreg, hvalid, hslot⟩, eval_bind_ok hresv⟩
          · exact .inr ⟨fun _ _ h => hfull h.slot, e, eval_bind_error hfail⟩
  · rw [hread]
    exact .inr ⟨by simp [loadAdmitted_iff, herror], e, rfl⟩

/-- A `load_checkpoint` is admitted and goes on with its slot; or it stops where it began, or takes
the joint route. -/
theorem loadCheckpoint_cases (config env ctx request s) :
    (∃ checkpoint registration, LoadAdmitted config env ctx request s checkpoint registration ∧
      (loadCheckpoint config ctx request).eval (handle config env) s =
        (loadReserved ctx request checkpoint registration (env.targetId request.runtimeId)).eval
          (handle config env) (s.slotReserved ctx)) ∨
    (∀ checkpoint registration, ¬ LoadAdmitted config env ctx request s checkpoint registration) ∧
      ((∃ e, (loadCheckpoint config ctx request).eval (handle config env) s = (.error e, s)) ∨
      ∃ row, s.store.jointCheckpoints.get? request.checkpointId = some row ∧
        (loadCheckpoint config ctx request).eval (handle config env) s =
          (loadJoint config ctx request row.body (env.targetId request.runtimeId)).eval
            (handle config env) s) := by
  dsimp only [loadCheckpoint, perform, bind_def]
  rw [effect_bind, eval_perform]
  rcases handle_getJointCheckpoint config env s .route request.checkpointId with
    ⟨b, hroute, hread⟩ | ⟨e, herror, hread⟩
  · rw [hread]
    cases hsplit : s.store.jointCheckpoints.get? request.checkpointId with
    | none =>
      dsimp only [orFail, ret_bind, Option.map, Option.isSome, Bool.false_eq_true, if_false,
        effect_bind]
      rw [if_neg Bool.false_ne_true, eval_perform]
      rw [eval_bind_ok (targetRuntimeId_eval ..)]
      rcases admitLoad_cases config ctx ⟨b, hroute⟩ hsplit with
        ⟨checkpoint, registration, hadmitted, heval⟩ | ⟨hnone, e, hfail⟩
      · exact .inl ⟨checkpoint, registration, hadmitted, eval_bind_ok heval⟩
      · exact .inr ⟨hnone, .inl ⟨e, eval_bind_error hfail⟩⟩
    | some row =>
      refine .inr ⟨by simp [loadAdmitted_iff, hsplit], .inr ⟨row, rfl, ?_⟩⟩
      dsimp only [orFail, ret_bind, Option.map, Option.isSome]
      rw [if_pos rfl, eval_bind_ok (targetRuntimeId_eval ..)]
  · rw [hread]
    exact .inr ⟨by simp [loadAdmitted_iff, herror], .inl ⟨e, rfl⟩⟩

/-- An admitted `load_checkpoint` goes on with its slot. -/
theorem LoadAdmitted.eval {request checkpoint registration}
    (h : LoadAdmitted config env ctx request s checkpoint registration) :
    (loadCheckpoint config ctx request).eval (handle config env) s =
      (loadReserved ctx request checkpoint registration (env.targetId request.runtimeId)).eval
        (handle config env) (s.slotReserved ctx) := by
  rcases loadCheckpoint_cases config env ctx request s with ⟨_, _, h', heval⟩ | ⟨hnone, -⟩
  · cases h'.found.symm.trans h.found
    cases h'.registered.symm.trans h.registered
    exact heval
  · exact absurd h (hnone checkpoint registration)

/-- A `load_checkpoint` that creates nothing leaves slots and managers. -/
theorem loadCheckpoint_sameResources {request} (h : ∀ checkpoint registration,
      ¬ LoadAdmitted config env ctx request s checkpoint registration) :
    SameResources s ((loadCheckpoint config ctx request).eval (handle config env) s).2 := by
  rcases loadCheckpoint_cases config env ctx request s with
    ⟨checkpoint, registration, hadmitted, -⟩ | ⟨-, ⟨e, hfail⟩ | ⟨row, -, hjoint⟩⟩
  · exact absurd hadmitted (h checkpoint registration)
  · rw [hfail]
    exact .refl s
  · rw [hjoint]
    exact (keepsResources_loadJoint request row.body _).eval config env s

/-! ## Forking -/

theorem passiveCall_requireSession (ctx site runtimeId) :
    PassiveCall (requireSession ctx site runtimeId) := by
  refine .orFail fun _ => ⟨rfl, fun found _ => ?_⟩
  rcases found with error | _ | record
  · trivial
  · trivial
  · exact .require fun _ => trivial

/-- The session that a lookup found is stored, and the caller owns it. -/
theorem requireSession_eval_ok {site record}
    (h : ((requireSession ctx site runtimeId).eval (handle config env) s).1 = .ok record) :
    readSession s.store runtimeId = some record ∧ ctx.owns record.tenantId = true := by
  dsimp only [requireSession, perform, bind_def] at h
  cases hid : requireNonEmptyRuntimeId runtimeId with
  | error e => simp [hid, orFail] at h
  | ok _ =>
    rw [hid, orFail_ok, ret_bind, effect_bind, eval_perform] at h
    rcases handle_getSession config env s site runtimeId with ⟨b, -, hread⟩ | ⟨e, -, hread⟩
    · rw [hread, orFail_ok, ret_bind] at h
      cases hfound : readSession s.store runtimeId with
      | none => simp [hfound] at h
      | some found =>
        rw [hfound] at h
        cases howns : ctx.owns found.tenantId with
        | false => simp [require, howns] at h
        | true =>
          have hsame : found = record := by simpa [require, howns] using h
          exact ⟨by rw [hsame], by rw [← hsame, howns]⟩
    · simp [hread, orFail] at h

theorem passiveCall_checkLeaseHolder (config runtimeId lease) :
    PassiveCall (checkLeaseHolder config runtimeId lease) := by
  unfold checkLeaseHolder
  split
  · trivial
  · exact ⟨rfl, fun _ _ => runs_orFail _⟩

theorem keepsResources_admitFork (config parent) :
    KeepsResources (admitFork config parent) :=
  discipline_keepsResources.runs_admitFork trivial

/-- The state in which a call holds a session. -/
def State.held (s : State) (runtimeId operationId : String) : State :=
  { s with active := Function.update s.active runtimeId (some operationId) }

/-- The name under which a call holds its session. -/
def Env.operationId (env : Env) : String :=
  "operation-" ++ env.answer (.nextTurnId .operation)

/-- A held call runs while its session is held, and gives it back. -/
theorem eval_claimOperation {rest : AppM α} (hfree : s.active runtimeId = none) :
    (claimOperation runtimeId rest).eval (handle config env) s =
      ((rest.eval (handle config env) (s.held runtimeId env.operationId)).1,
        (rest.eval (handle config env) (s.held runtimeId env.operationId)).2.release runtimeId
          env.operationId) := by
  simp only [claimOperation, perform, bind_def, effect_bind, eval_perform, handle,
    State.claim, hfree]
  exact Prog.eval_guarded ..

theorem eval_claimOperation_of_busy (config env) (rest : AppM α) {active}
    (hbusy : s.active runtimeId = some active) :
    ∃ e, (claimOperation runtimeId rest).eval (handle config env) s = (.error e, s) := by
  simp only [claimOperation, perform, bind_def, effect_bind, eval_perform, handle,
    State.claim, hbusy]
  exact ⟨_, rfl⟩

theorem sameResources_held (s) (runtimeId operationId : String) :
    SameResources s (s.held runtimeId operationId) := ⟨rfl, rfl⟩

theorem sameResources_release (s) (runtimeId operationId : String) :
    SameResources s (s.release runtimeId operationId) := by
  unfold State.release
  split <;> exact ⟨rfl, rfl⟩

/-- The parent passes everything that is checked before it is held. -/
structure ForkParent (config : Config) (env : Env) (ctx : SecurityContext)
    (request : SessionForkRequest) (s : State) (parent : SessionRecord) : Prop where
  found : ((requireSession ctx .lookup request.parentRuntimeId).eval (handle config env) s).1 =
    .ok parent
  split : rejectJointResource parent "fork" = .ok ()
  lease : ((checkLeaseHolder config request.parentRuntimeId request.lease).eval
    (handle config env) s).1 = .ok ()

/-- A fork creates a session: its parent is split, owned, free and admitted, and the tenant has a
slot.  `s₂` is the state when the slot is asked for. -/
structure ForkAdmitted (config : Config) (env : Env) (ctx : SecurityContext)
    (request : SessionForkRequest) (s : State) (plan : ForkPlan) (s₂ : State) : Prop where
  parent : ∃ parent, ForkParent config env ctx request s parent ∧
    (admitFork config parent).eval (handle config env)
      (s.held request.parentRuntimeId env.operationId) = (.ok (plan.parent, plan.registration), s₂)
  gate : s.active request.parentRuntimeId = none
  requested : plan.request = request
  target : plan.runtimeId = env.targetId request.runtimeId
  now : plan.now = env.answer (.now .publish)
  slot : s₂.SlotFree ctx

/-- A fork holds its parent, or fails and leaves the state. -/
theorem fork_cases (config env ctx request s) :
    (∃ parent, ForkParent config env ctx request s parent ∧
      (fork config ctx request).eval (handle config env) s =
        (claimOperation request.parentRuntimeId (forkHeld config ctx request parent)).eval
          (handle config env) s) ∨
    (∀ parent, ¬ ForkParent config env ctx request s parent) ∧
      ∃ e, (fork config ctx request).eval (handle config env) s = (.error e, s) := by
  have hstate := (passiveCall_requireSession ctx .lookup request.parentRuntimeId).eval config env s
  have hstate' := (passiveCall_checkLeaseHolder config request.parentRuntimeId
    request.lease).eval config env s
  dsimp only [fork, perform, bind_def]
  rw [effect_bind, eval_perform]
  simp only [handle]
  rcases hfound : (requireSession ctx .lookup request.parentRuntimeId).eval (handle config env) s
    with ⟨e | parent, s'⟩
  · rw [hfound] at hstate
    obtain rfl : s' = s := hstate
    exact .inr ⟨fun _ h => (by cases (congrArg Prod.fst hfound).symm.trans h.found),
      e, eval_bind_error hfound⟩
  · have hpar := congrArg Prod.fst hfound
    rw [hfound] at hstate
    obtain rfl : s' = s := hstate
    rw [eval_bind_ok hfound]
    cases hsplit : rejectJointResource parent "fork" with
    | error e =>
      refine .inr ⟨fun _ h => ?_, e, rfl⟩
      cases hpar.symm.trans h.found
      cases hsplit.symm.trans h.split
    | ok _ =>
      dsimp only [orFail, ret_bind]
      rcases hlease : (checkLeaseHolder config request.parentRuntimeId request.lease).eval
        (handle config env) s' with ⟨e | _, s''⟩
      · rw [hlease] at hstate'
        obtain rfl : s'' = s' := hstate'
        exact .inr ⟨fun _ h => (by cases (congrArg Prod.fst hlease).symm.trans h.lease),
          e, eval_bind_error hlease⟩
      · rw [hlease] at hstate'
        obtain rfl : s'' = s' := hstate'
        exact .inl ⟨parent, ⟨hpar, hsplit, congrArg Prod.fst hlease⟩, eval_bind_ok hlease⟩

theorem ForkParent.eval_fork (h : ForkParent config env ctx request s parent) :
    (fork config ctx request).eval (handle config env) s =
      (claimOperation request.parentRuntimeId (forkHeld config ctx request parent)).eval
        (handle config env) s := by
  rcases fork_cases config env ctx request s with ⟨_, h', heval⟩ | ⟨hnone, -⟩
  · cases h'.found.symm.trans h.found
    exact heval
  · exact absurd h (hnone parent)

/-- The part of a fork that holds its parent, up to its slot. -/
theorem eval_forkHeld_of_admitFork {parent' registration s₁ s₂}
    (hadm : (admitFork config parent).eval (handle config env) s₁ =
      (.ok (parent', registration), s₂)) :
    (forkHeld config ctx request parent).eval (handle config env) s₁ =
      ((reserveSlot ctx).bind fun _ => forkReserved config ctx
        { request, parent := parent', registration, runtimeId := env.targetId request.runtimeId,
          now := env.answer (.now .publish) }).eval (handle config env) s₂ := by
  dsimp only [forkHeld, perform, bind_def]
  rw [eval_bind_ok hadm, eval_bind_ok (targetRuntimeId_eval ..)]
  rfl

variable {plan : ForkPlan} {s₂ : State}

section

variable (h : ForkAdmitted config env ctx request s plan s₂)
include h

theorem ForkAdmitted.sameResources : SameResources s s₂ := by
  obtain ⟨parent, -, hadm⟩ := h.parent
  have hkept := (keepsResources_admitFork config parent).eval config env
    (s.held request.parentRuntimeId env.operationId)
  rw [hadm] at hkept
  exact (sameResources_held s _ _).trans hkept

theorem ForkAdmitted.plan_eq :
    plan = { request, parent := plan.parent, registration := plan.registration,
             runtimeId := env.targetId request.runtimeId, now := env.answer (.now .publish) } := by
  rw [← h.target, ← h.now]
  exact h.requested ▸ rfl

/-- An admitted fork goes on with its slot, and gives its parent back at the end. -/
theorem ForkAdmitted.eval :
    (fork config ctx request).eval (handle config env) s =
      (((forkReserved config ctx plan).eval (handle config env) (s₂.slotReserved ctx)).1,
        ((forkReserved config ctx plan).eval (handle config env) (s₂.slotReserved ctx)).2.release
          request.parentRuntimeId env.operationId) := by
  obtain ⟨parent, hpar, hadm⟩ := h.parent
  rw [hpar.eval_fork, eval_claimOperation h.gate, eval_forkHeld_of_admitFork hadm, ← h.plan_eq]
  rcases reserveSlot_eval config env ctx s₂ with ⟨-, hslot⟩ | ⟨hfull, -⟩
  · rw [eval_bind_ok hslot]
  · exact absurd h.slot hfull

end

section

variable (h : ∀ plan s₂, ¬ ForkAdmitted config env ctx request s plan s₂)
include h

/-- A fork that creates nothing stops where it began, or after the checks on its held parent. -/
theorem fork_unadmitted :
    (∃ e, (fork config ctx request).eval (handle config env) s = (.error e, s)) ∨
      ∃ parent e, ForkParent config env ctx request s parent ∧
        s.active request.parentRuntimeId = none ∧
        (fork config ctx request).eval (handle config env) s =
          (.error e, ((admitFork config parent).eval (handle config env)
            (s.held request.parentRuntimeId env.operationId)).2.release request.parentRuntimeId
              env.operationId) := by
  rcases fork_cases config env ctx request s with ⟨parent, hpar, heval⟩ | ⟨-, hfail⟩
  · rw [heval]
    cases hgate : s.active request.parentRuntimeId with
    | some active => exact .inl (eval_claimOperation_of_busy config env _ hgate)
    | none =>
      rw [eval_claimOperation hgate]
      rcases hadm : (admitFork config parent).eval (handle config env)
        (s.held request.parentRuntimeId env.operationId) with ⟨e | ⟨parent', registration⟩, s₂⟩
      · have hfail : (forkHeld config ctx request parent).eval (handle config env)
            (s.held request.parentRuntimeId env.operationId) = (.error e, s₂) :=
          eval_bind_error hadm
        exact .inr ⟨parent, e, hpar, rfl, by rw [hfail, hadm]⟩
      · rcases reserveSlot_eval config env ctx s₂ with ⟨hslot, -⟩ | ⟨-, e, hslot⟩
        · exact absurd ⟨⟨parent, hpar, hadm⟩, hgate, rfl, rfl, rfl, hslot⟩
            (h { request, parent := parent', registration,
                 runtimeId := env.targetId request.runtimeId,
                 now := env.answer (.now .publish) } s₂)
        · refine .inr ⟨parent, e, hpar, rfl, ?_⟩
          rw [eval_forkHeld_of_admitFork hadm, eval_bind_error hslot, hadm]
  · exact .inl hfail

/-- A fork that creates nothing leaves slots and managers. -/
theorem fork_sameResources :
    SameResources s ((fork config ctx request).eval (handle config env) s).2 := by
  rcases fork_unadmitted h with ⟨e, hfail⟩ | ⟨parent, e, -, -, hfail⟩
  · rw [hfail]
    exact .refl s
  · rw [hfail]
    exact ((sameResources_held s _ _).trans
      ((keepsResources_admitFork config parent).eval config env _)).trans
        (sameResources_release _ _ _)

end

end XGovernor.App
