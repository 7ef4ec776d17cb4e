import XGovernor.App.Accounts

/-!
# Slots over whole sequences of calls

Each completed call books one session in, books one out, or leaves the books alone, provided that
it does not touch a closed session and does not leave through an exit that keeps its slot.
Sequences of such calls keep the count of every tenant equal to the number of its open sessions.
-/

namespace XGovernor.App

open Domain Joint Manager Lib Prog Tx

variable {config : Config} {env : Env} {ctx : SecurityContext} {s s₀ s₁ s' : State}
variable {db : Db} {id runtimeId : String} {record : SessionRecord} {α β : Type} {e : Effect}
  {f : α → AppM β} {p : AppM α}

/-! ## Effects that book nothing -/

/-- The account a record stands for. -/
def SessionRecord.account (record : SessionRecord) : Option String × Bool :=
  (record.tenantId, decide (record.status = .closed))

/-- What a lookup says while the books are those of `db`. -/
def Truthful (db : Db) : (e : Effect) → e.Reply → Prop
  | .getSession _ id, .ok (some record) => db.jointSessions.get? id = none →
      record.runtimeId = id ∧ record.executionBacking.joint = none ∧
        accountAt db id = some (SessionRecord.account record)
  | _, _ => True

/-- The effects that leave the books as they are in `db`. -/
def Unbooked (db : Db) : Effect → Prop
  | .saveSession _ record =>
      accountAt db record.runtimeId = some (SessionRecord.account record)
  | .reserveTenantSession _ _ | .releaseTenantSession _ | .owner _ => False
  | _ => True

theorem accountAt_eq_some (hrow : db.sessions.get? id = some record) :
    accountAt db id = some (SessionRecord.account record) := by
  unfold accountAt
  rw [hrow]
  rfl

/-- A lookup of an id that is not joint returns the split session. -/
theorem Orderly.readSession (h : Orderly db) (hsplit : db.jointSessions.get? id = none)
    (hfound : Joint.readSession db id = some record) :
    record.runtimeId = id ∧ record.executionBacking.joint = none ∧
      accountAt db id = some (SessionRecord.account record) := by
  have hrow : db.sessions.get? id = some record := by
    simpa [Joint.readSession, hsplit] using hfound
  exact ⟨h.keyed hrow, h.split hrow, accountAt_eq_some hrow⟩

/-- A record with the stored account is saved. -/
theorem NotBooked.saveSession (h : NotBooked s₀ s)
    (hacct : accountAt s₀.store record.runtimeId = some (SessionRecord.account record))
    (site) : NotBooked s₀ (handle config env s (.saveSession site record)).2 := by
  rcases handle_saveSession config env s site record with
    ⟨hsaves, sessions, hsess, hhandle⟩ | ⟨-, e, hhandle⟩
  · have hsaved : (s.withStore { s.store with sessions }).store.sessions.get? =
        savedSessions s.store record := hsess
    rw [hhandle]
    refine ⟨⟨h.orderly.saved hsaves.accepted hsaved, h.joint⟩, h.slots, ?_⟩
    rw [accountAt_saved hsaved, h.accounts]
    exact Function.update_eq_iff.mpr ⟨hacct.symm, fun _ _ => rfl⟩
  · rw [hhandle]
    exact h

/-- The effects that touch neither slots nor stored sessions. -/
def Effect.keepsBooks : Effect → Bool
  | reserveTenantSession _ _ | releaseTenantSession _ | saveSession _ _ | owner _ => false
  | _ => true

theorem handle_sessions (he : e.keepsBooks = true) :
    (handle config env s e).2.store.sessions = s.store.sessions ∧
      (handle config env s e).2.store.jointSessions = s.store.jointSessions := by
  cases e with
  | saveCheckpoint record =>
    rcases handle_saveCheckpoint config env s record with hstore | hstore <;> rw [hstore] <;>
      exact ⟨rfl, rfl⟩
  | deleteCheckpoint checkpointId =>
    rcases handle_deleteCheckpoint config env s checkpointId with hstore | hstore <;>
      rw [hstore] <;> exact ⟨rfl, rfl⟩
  | saveIntent site id body =>
    rcases handle_saveIntent config env s site id body with ⟨-, _, hhandle⟩ | ⟨_, -, hhandle⟩ <;>
      rw [hhandle] <;> exact ⟨rfl, rfl⟩
  | deleteIntent id =>
    rcases handle_deleteIntent config env s id with ⟨-, _, hhandle⟩ | ⟨_, -, hhandle⟩ <;>
      rw [hhandle] <;> exact ⟨rfl, rfl⟩
  | reserveTenantSession _ _ | releaseTenantSession _ | saveSession _ _ | owner _ =>
    simp [Effect.keepsBooks] at he
  | _ => rw [handle_store rfl]; exact ⟨rfl, rfl⟩

theorem Effect.keepsSlots_of_keepsBooks (he : e.keepsBooks = true) :
    e.keepsSlots = true := by
  cases e <;> first | rfl | simp [Effect.keepsBooks] at he

/-- **One effect that books nothing** leaves the books, and a lookup tells what they say. -/
theorem NotBooked.step (h : NotBooked s₀ s) (he : Unbooked s₀.store e) :
    Truthful s₀.store e (handle config env s e).1 ∧ NotBooked s₀ (handle config env s e).2 := by
  have hkeeps (hkeeps : e.keepsBooks = true) : NotBooked s₀ (handle config env s e).2 :=
    h.trans (.of_store h.orderly (handle_slots (Effect.keepsSlots_of_keepsBooks hkeeps))
      (handle_sessions hkeeps).1
      (handle_sessions hkeeps).2)
  cases e with
  | getSession site id =>
    refine ⟨?_, hkeeps rfl⟩
    rcases handle_getSession config env s site id with ⟨b, -, hread⟩ | ⟨e, -, hread⟩
    · rw [hread]
      cases hfound : Joint.readSession s.store id with
      | none => trivial
      | some record =>
        intro hsplit
        have hacct := h.orderly.readSession (by rw [h.joint]; exact hsplit) hfound
        rwa [h.accounts] at hacct
    · rw [hread]
      trivial
  | saveSession site record => exact ⟨trivial, h.saveSession he site⟩
  | reserveTenantSession _ _ | releaseTenantSession _ | owner _ => exact he.elim
  | _ => exact ⟨trivial, hkeeps rfl⟩

/-- A program whose effects book nothing leaves the books. -/
theorem NotBooked.eval (h : NotBooked s₀ s) (hp : p.Obeys (Truthful s₀.store) (Unbooked s₀.store)) :
    NotBooked s₀ (p.eval (handle config env) s).2 :=
  hp.eval_invariant (I := fun s' => NotBooked s₀ s') (fun _ _ _ hs he => hs.step he) h

/-! ## Sessions in use -/

/-- An open split session with its stored account. -/
structure Current (db : Db) (record : SessionRecord) : Prop where
  split : record.executionBacking.joint = none
  open_ : record.status ≠ .closed
  account : accountAt db record.runtimeId = some (SessionRecord.account record)

theorem Current.countedAt (h : Current db record) :
    countedAt db record.runtimeId = record.tenantId := by
  unfold App.countedAt
  rw [h.account, SessionRecord.account, decide_eq_false h.open_]
  rfl

/-- No closed session is stored under the id. -/
def NotClosed (db : Db) (id : String) : Prop :=
  ∀ record, db.sessions.get? id = some record → record.status ≠ .closed

/-- The id is not joint, and no closed session is stored under it. -/
structure InUse (db : Db) (id : String) : Prop where
  split : db.jointSessions.get? id = none
  open_ : NotClosed db id

theorem InUse.current (h : InUse db id) (hid : record.runtimeId = id)
    (hsplit : record.executionBacking.joint = none)
    (hacct : accountAt db id = some (SessionRecord.account record)) : Current db record where
  split := hsplit
  open_ := by
    intro hclosed
    unfold accountAt at hacct
    obtain ⟨stored, hrow, hsame⟩ := Option.map_eq_some_iff.mp hacct
    have hstat : decide (stored.status = .closed) = decide (record.status = .closed) :=
      congrArg Prod.snd hsame
    exact h.open_ stored hrow (by simpa [hclosed] using hstat)
  account := by rw [hid]; exact hacct

/-- Writing back an open session books nothing. -/
theorem discipline_unbooked (db) :
    Discipline (fun e _ => Unbooked db e) (Current db) where
  passive := by
    intro e he _
    cases e <;> trivial
  save := by
    intro site old new _ hcur hback
    have hopen : new.status ≠ .closed := fun h => hcur.open_ (hback.closed h)
    show accountAt db new.runtimeId = some (SessionRecord.account new)
    rw [hback.runtimeId, hcur.account, SessionRecord.account, SessionRecord.account,
      hback.tenantId, decide_eq_false hcur.open_, decide_eq_false hopen]
  owner := by
    intro record call hcur hjoint _
    rw [hcur.split] at hjoint
    cases hjoint

/-! ## Calls that leave the books -/

theorem Booking.after (h : NotBooked s s₁) (h' : Booking s₁ s') : Booking s s' := by
  have hcounted : countedAt s₁.store = countedAt s.store := h.countedAt
  cases h' with
  | none h' => exact .none (h.trans h')
  | open_ ctx id h' =>
    refine .open_ ctx id ⟨⟨h'.orderly, h'.joint.trans h.joint⟩, ?_, ?_, ?_⟩
    · rw [h'.slots]
      unfold State.slotReserved
      cases ctx.tenantId <;> simp only [h.slots]
    · rw [← hcounted, h'.free]
    · rw [h'.counted, hcounted]
  | out tenant id h' =>
    refine .out tenant id ⟨⟨h'.orderly, h'.joint.trans h.joint⟩, ?_, ?_, ?_⟩
    · rw [h'.slots]
      cases tenant <;> simp only [State.releaseTenantSession, h.slots]
    · rw [← hcounted, h'.open_]
    · rw [h'.counted, hcounted]

theorem Booking.before (h : Booking s s₁) (h' : NotBooked s₁ s') : Booking s s' := by
  have hcounted : countedAt s'.store = countedAt s₁.store := h'.countedAt
  cases h with
  | none h => exact .none (h.trans h')
  | open_ ctx id h =>
    exact .open_ ctx id ⟨⟨h'.orderly, h'.joint.trans h.joint⟩, h'.slots.trans h.slots, h.free,
      hcounted.trans h.counted⟩
  | out tenant id h =>
    exact .out tenant id ⟨⟨h'.orderly, h'.joint.trans h.joint⟩, h'.slots.trans h.slots, h.open_,
      hcounted.trans h.counted⟩

/-- A part of a call that books nothing, and the rest of the call. -/
theorem booking_bind (hp : p.Obeys (Truthful s₀.store) (Unbooked s₀.store)) (hs : NotBooked s₀ s)
    (hf : ∀ a s₁, p.eval (handle config env) s = (.ok a, s₁) → NotBooked s₀ s₁ →
      Booking s₀ ((f a).eval (handle config env) s₁).2) :
    Booking s₀ ((p.bind f).eval (handle config env) s).2 := by
  have hs₁ : NotBooked s₀ (p.eval (handle config env) s).2 := hs.eval hp
  rcases hpeval : p.eval (handle config env) s with ⟨e | a, s₁⟩
  · rw [eval_bind_error hpeval]
    rw [hpeval] at hs₁
    exact .none hs₁
  · rw [eval_bind_ok hpeval]
    rw [hpeval] at hs₁
    exact hf a s₁ hpeval hs₁

/-- A part of a call that only reads, and the rest of the call. -/
theorem booking_bind_passive (hp : PassiveCall p)
    (horderly : Orderly s.store) (hf : ∀ a, (p.eval (handle config env) s).1 = .ok a →
      Booking s ((f a).eval (handle config env) s).2) :
    Booking s ((p.bind f).eval (handle config env) s).2 := by
  have hstate := hp.eval config env s
  rcases hpeval : p.eval (handle config env) s with ⟨e | a, s₁⟩
  · obtain rfl : s = s₁ := by rw [← hstate, hpeval]
    rw [eval_bind_error hpeval]
    exact .none (.refl horderly)
  · obtain rfl : s = s₁ := by rw [← hstate, hpeval]
    rw [eval_bind_ok hpeval]
    exact hf a (congrArg Prod.fst hpeval)

section

variable (horderly : Orderly s.store)
include horderly

/-- A session that a call looked up. -/
theorem InUse.current_of_requireSession {site} (huse : InUse s.store id)
    (hfound : ((requireSession ctx site id).eval (handle config env) s).1 = .ok record) :
    Current s.store record := by
  obtain ⟨hread, -⟩ := requireSession_eval_ok hfound
  obtain ⟨hid, hsplit, hacct⟩ := horderly.readSession huse.split hread
  exact huse.current hid hsplit hacct

/-- A finished turn leaves the books. -/
theorem notBooked_forward (huse : InUse s.store runtimeId)
    (kind turnId : String) (events : List RuntimeEvent) :
    NotBooked s ((forward kind runtimeId turnId events).eval (handle config env) s).2 := by
  refine (NotBooked.refl horderly).eval ((discipline_unbooked s.store).runs_forwardFrom ?_
    (fun _ _ => trivial) kind turnId 0 events)
  intro record hread
  obtain ⟨hid, hsplit, hacct⟩ := hread huse.split
  exact huse.current hid hsplit hacct

/-- Attaching to a session leaves the books. -/
theorem notBooked_reattach (huse : InUse s.store runtimeId)
    (hread : readSession s.store runtimeId = some record) (request) :
    NotBooked s ((reattach config ctx request record runtimeId).eval (handle config env) s).2 := by
  obtain ⟨hid, hsplit, hacct⟩ := horderly.readSession huse.split hread
  exact (NotBooked.refl horderly).eval ((discipline_unbooked s.store).runs_reattach
    (fun _ => huse.current hid hsplit hacct) request runtimeId)

end

/-! ## Closing -/

theorem forgetClosed_eval (config env runtimeId s) :
    ∃ s', (forgetClosed config runtimeId).eval (handle config env) s = (.ok (), s') ∧
      s'.store = s.store ∧ s'.tenantSessions = s.tenantSessions := by
  dsimp only [forgetClosed]
  split <;> exact ⟨_, rfl, rfl, rfl⟩

section

variable (horderly : Orderly s.store)
include horderly

section

variable (hcur : Current s.store record) (runtimeId : String) (note : Option String)
include hcur

/-- Recording an open session as closed books it out, or fails and leaves the books. -/
theorem booking_recordClosed :
    Booking s ((recordClosed config record runtimeId note).eval (handle config env) s).2 := by
  let closed : SessionRecord := { record with
    status := .closed
    updatedAtMs := env.answer (.now .finalize)
    lastError := note.or record.lastError }
  dsimp only [recordClosed, perform, bind_def]
  have hnow : handle config env s (.now .finalize) = (env.answer (.now .finalize), s) := rfl
  rw [effect_bind, eval_perform, hnow, effect_bind, eval_perform]
  rcases handle_saveSession config env s .finalize closed with
    ⟨hsaves, sessions, hsess, hhandle⟩ | ⟨-, e, hhandle⟩
  · rw [hhandle, orFail_ok, ret_bind]
    obtain ⟨s₁, hforget, hstore, hslots⟩ :=
      forgetClosed_eval config env runtimeId (s.withStore { s.store with sessions })
    have hsaved : s₁.store.sessions.get? = savedSessions s.store closed := by
      rw [hstore]
      exact hsess
    have horderly₁ : Orderly s₁.store := horderly.saved hsaves.accepted hsaved
    have hjoint : s₁.store.jointSessions = s.store.jointSessions := by
      rw [hstore]
      rfl
    rw [eval_bind_ok hforget]
    cases hten : record.tenantId with
    | none =>
      exact .out none record.runtimeId
        ⟨⟨horderly₁, hjoint⟩, hslots, hcur.countedAt.trans hten, countedAt_saved hsaved⟩
    | some tenant =>
      refine .out (some tenant) record.runtimeId
        ⟨⟨horderly₁, hjoint⟩, ?_, hcur.countedAt.trans hten, countedAt_saved hsaved⟩
      exact congrArg (fun slots => Function.update slots tenant (slots tenant - 1)) hslots
  · rw [hhandle]
    exact .none (.refl horderly)

/-- Closing an open split session books it out, or fails and leaves the books. -/
theorem booking_finalizeClosedSession :
    Booking s
      ((finalizeClosedSession config ctx record runtimeId note).eval (handle config env) s).2 := by
  have hfin (registration : RuntimeRegistration) (s₂ : State) (hs₂ : NotBooked s s₂) :
      Booking s (((destroyInstance registration record runtimeId).bind fun _ =>
        recordClosed config record runtimeId note).eval (handle config env) s₂).2 := by
    refine booking_bind ?_ hs₂ fun _ s₃ _ hs₃ => ?_
    · unfold destroyInstance
      split
      · exact Prog.Runs.bind (Embedding.runs_lift (fun _ _ _ => trivial) (runs_true _)).attempt
          fun _ => runs_orFail _
      · trivial
    · have hcur₃ : Current s₃.store record :=
        ⟨hcur.split, hcur.open_, by rw [hs₃.accounts]; exact hcur.account⟩
      exact .after hs₃ (booking_recordClosed hs₃.orderly hcur₃ runtimeId note)
  unfold finalizeClosedSession finalizeSplitSession
  rw [hcur.split]
  refine booking_bind (runs_orFail _) (.refl horderly) fun registration s₁ _ hs₁ => ?_
  refine booking_bind ⟨trivial, fun _ _ => trivial⟩ hs₁ fun stopped s₂ _ hs₂ => ?_
  split
  · exact hfin registration s₂ hs₂
  · exact hfin registration s₂ hs₂
  · exact .none hs₂

end

theorem booking_close (huse : InUse s.store runtimeId) (lease) :
    Booking s ((close config ctx runtimeId lease).eval (handle config env) s).2 := by
  refine booking_bind_passive ⟨rfl, fun _ _ => trivial⟩ horderly fun found _ => ?_
  refine booking_bind_passive (runs_orFail _) horderly fun found _ => ?_
  extract_lets rest
  have hrest : Booking s ((rest ()).eval (handle config env) s).2 :=
    booking_bind_passive (passiveCall_requireSession ctx .lookup runtimeId) horderly
      fun record hfound => booking_bind_passive (passiveCall_checkLeaseHolder config _ _) horderly
        fun _ _ => booking_finalizeClosedSession horderly
          (huse.current_of_requireSession horderly hfound) runtimeId none
  split
  · exact hrest
  · exact hrest

/-- A reclaim leaves a closed or failed session alone, and closes any other. -/
theorem booking_reclaim (hsplit : s.store.jointSessions.get? runtimeId = none) :
    Booking s ((reclaim config ctx runtimeId).eval (handle config env) s).2 := by
  refine booking_bind_passive (passiveCall_requireSession ctx .lookup runtimeId) horderly
    fun record hfound => ?_
  split
  · exact .none (.refl horderly)
  next hopen =>
    obtain ⟨hread, -⟩ := requireSession_eval_ok hfound
    obtain ⟨hid, hbacking, hacct⟩ := horderly.readSession hsplit hread
    have hcur : Current s.store record :=
      ⟨hbacking, fun hclosed => hopen (.inl hclosed), by rw [hid]; exact hacct⟩
    exact booking_finalizeClosedSession horderly hcur runtimeId _

end

/-! ## Creating -/

/-- The id is not counted for anybody: nothing is stored under it, or a closed session. -/
def Spare (db : Db) (id : String) : Prop :=
  ∀ record, db.sessions.get? id = some record → record.status = .closed

theorem Spare.countedAt (h : Spare db id) : countedAt db id = none := by
  rw [countedAt_eq]
  dsimp only
  cases hrow : db.sessions.get? id with
  | none => rfl
  | some record => simp [h record hrow]

theorem spare_of_readSession (h : readSession db id = none) :
    Spare db id := by
  intro record hrow
  cases hjoint : db.jointSessions.get? id <;> simp [readSession, hjoint, hrow] at h

section

variable (horderly : Orderly s.store) {request : SessionForkRequest}
include horderly

theorem booking_openSession {request} (huse : InUse s.store (env.targetId request.runtimeId))
    (hroute : ∀ registration, App.registration config
      (request.runtimeKind.getD config.defaultRuntimeKind) = .ok registration →
        registration.jointLifecycle = none)
    (hclean : ¬ (Creation.openSession request).Leaks config env ctx s) :
    Booking s ((openSession config ctx request).eval (handle config env) s).2 := by
  rcases openSession_cases config env ctx request s with ⟨admission, hadm, heval⟩ |
    ⟨-, ⟨e, hfailed⟩ | ⟨record, hread, hatt⟩ | ⟨admission, owner, hadmits, hjoint, -⟩⟩
  · rw [heval]
    exact (outcome_openReserved ..).booking (fun hleaks => hclean ⟨admission, hadm, hleaks⟩)
      horderly (spare_of_readSession hadm.free).countedAt
  · rw [hfailed]
    exact .none (.refl horderly)
  · rw [hatt]
    exact .none (notBooked_reattach horderly huse hread request)
  · have hsplit := hroute _ (admitOpen_registration hadmits)
    cases hsplit.symm.trans hjoint

theorem booking_loadCheckpoint {request}
    (hsplit : s.store.jointCheckpoints.get? request.checkpointId = none)
    (hspare : Spare s.store (env.targetId request.runtimeId))
    (hclean : ¬ (Creation.loadCheckpoint request).Leaks config env ctx s) :
    Booking s ((loadCheckpoint config ctx request).eval (handle config env) s).2 := by
  rcases loadCheckpoint_cases config env ctx request s with
    ⟨checkpoint, registration, hadm, heval⟩ | ⟨-, ⟨e, hfailed⟩ | ⟨row, hrow, -⟩⟩
  · rw [heval]
    exact (outcome_loadReserved ..).booking
      (fun hleaks => hclean ⟨checkpoint, registration, hadm, hleaks⟩) horderly hspare.countedAt
  · rw [hfailed]
    exact .none (.refl horderly)
  · cases hsplit.symm.trans hrow

/-- The checks of a fork on its held parent leave the books. -/
theorem notBooked_admitFork (huse : InUse s.store request.parentRuntimeId) {parent}
    (hpar : ForkParent config env ctx request s parent) :
    NotBooked s ((admitFork config parent).eval (handle config env)
      (s.held request.parentRuntimeId env.operationId)).2 := by
  have hheld : NotBooked s (s.held request.parentRuntimeId env.operationId) :=
    .of_store horderly rfl rfl rfl
  exact hheld.eval ((discipline_unbooked s.store).runs_admitFork
    (huse.current_of_requireSession horderly hpar.found))

theorem notBooked_release (runtimeId operationId : String) :
    NotBooked s (s.release runtimeId operationId) :=
  .of_store horderly (sameResources_release s _ _).slots (by rw [release_store])
    (by rw [release_store])

theorem booking_fork (huse : InUse s.store request.parentRuntimeId)
    (hspare : Spare s.store (env.targetId request.runtimeId))
    (hclean : ¬ (Creation.fork request).Leaks config env ctx s) :
    Booking s ((fork config ctx request).eval (handle config env) s).2 := by
  by_cases hadm : ∃ plan s₂, ForkAdmitted config env ctx request s plan s₂
  · obtain ⟨plan, s₂, hadm⟩ := hadm
    obtain ⟨parent, hpar, hadmits⟩ := hadm.parent
    have hs₂ : NotBooked s s₂ := by
      have hs₂ := notBooked_admitFork horderly huse hpar
      rwa [hadmits] at hs₂
    -- the admission books nothing, so the id of the new session is still spare
    have hfree : countedAt s₂.store plan.runtimeId = none := by
      rw [hs₂.countedAt, hadm.target, hspare.countedAt]
    have hbooking := (outcome_forkReserved ..).booking
      (fun hleaks => hclean ⟨plan, s₂, hadm, hleaks⟩) hs₂.orderly hfree
    rw [hadm.eval]
    exact (Booking.after hs₂ hbooking).before (notBooked_release hbooking.orderly _ _)
  · rcases fork_unadmitted fun plan s₂ h => hadm ⟨plan, s₂, h⟩ with
      ⟨e, hfailed⟩ | ⟨parent, e, hpar, -, hfailed⟩
    · rw [hfailed]
      exact .none (.refl horderly)
    · rw [hfailed]
      have hs₂ := notBooked_admitFork horderly huse hpar
      exact .none (hs₂.trans (notBooked_release hs₂.orderly _ _))

end

/-! ## Sequences of calls -/

/-- The calls that book sessions, and the end of a turn. -/
inductive BookedCall where
  | openSession (ctx : SecurityContext) (request : SessionOpenRequest)
  | loadCheckpoint (ctx : SecurityContext) (request : SessionLoadRequest)
  | fork (ctx : SecurityContext) (request : SessionForkRequest)
  | close (ctx : SecurityContext) (runtimeId : String) (lease : SessionLeaseClaim)
  | reclaim (ctx : SecurityContext) (runtimeId : String)
  | completeTurn (kind runtimeId turnId : String) (events : List RuntimeEvent)

namespace BookedCall

/-- The state after the call. -/
def after (config : Config) (env : Env) (s : State) : BookedCall → State
  | openSession ctx request => ((App.openSession config ctx request).eval (handle config env) s).2
  | loadCheckpoint ctx request =>
    ((App.loadCheckpoint config ctx request).eval (handle config env) s).2
  | fork ctx request => ((App.fork config ctx request).eval (handle config env) s).2
  | close ctx runtimeId lease =>
    ((App.close config ctx runtimeId lease).eval (handle config env) s).2
  | reclaim ctx runtimeId => ((App.reclaim config ctx runtimeId).eval (handle config env) s).2
  | completeTurn kind runtimeId turnId events =>
    ((forward kind runtimeId turnId events).eval (handle config env) s).2

/-- The call is about split sessions. -/
def OnSplit (config : Config) (env : Env) (s : State) : BookedCall → Prop
  | openSession _ request =>
    s.store.jointSessions.get? (env.targetId request.runtimeId) = none ∧
      ∀ registration, App.registration config
        (request.runtimeKind.getD config.defaultRuntimeKind) = .ok registration →
          registration.jointLifecycle = none
  | loadCheckpoint _ request => s.store.jointCheckpoints.get? request.checkpointId = none
  | fork _ request => s.store.jointSessions.get? request.parentRuntimeId = none
  | close _ runtimeId _ | reclaim _ runtimeId | completeTurn _ runtimeId _ _ =>
    s.store.jointSessions.get? runtimeId = none

/-- The call uses no closed session, creates no session under the id of an open one, and does not
fail at an exit that keeps its slot. -/
def Sound (config : Config) (env : Env) (s : State) : BookedCall → Prop
  | openSession ctx request =>
    NotClosed s.store (env.targetId request.runtimeId) ∧
      ¬ (Creation.openSession request).Leaks config env ctx s
  | loadCheckpoint ctx request =>
    Spare s.store (env.targetId request.runtimeId) ∧
      ¬ (Creation.loadCheckpoint request).Leaks config env ctx s
  | fork ctx request =>
    NotClosed s.store request.parentRuntimeId ∧ Spare s.store (env.targetId request.runtimeId) ∧
      ¬ (Creation.fork request).Leaks config env ctx s
  | close _ runtimeId _ | completeTurn _ runtimeId _ _ => NotClosed s.store runtimeId
  | reclaim _ _ => True

/-- A completed call that is sound; each call meets its own outside. -/
def Step (config : Config) (s : State) (step : BookedCall × Env) (s' : State) : Prop :=
  step.1.OnSplit config step.2 s ∧ step.1.Sound config step.2 s ∧ s' = step.1.after config step.2 s

end BookedCall

/-- **One sound call** books a session in, books one out, or books nothing. -/
theorem BookedCall.booking {call : BookedCall} (horderly : Orderly s.store)
    (hsplit : call.OnSplit config env s) (hsound : call.Sound config env s) :
    Booking s (call.after config env s) := by
  cases call with
  | openSession ctx request =>
    exact booking_openSession horderly ⟨hsplit.1, hsound.1⟩ hsplit.2 hsound.2
  | loadCheckpoint ctx request => exact booking_loadCheckpoint horderly hsplit hsound.1 hsound.2
  | fork ctx request => exact booking_fork horderly ⟨hsplit, hsound.1⟩ hsound.2.1 hsound.2.2
  | close ctx runtimeId lease => exact booking_close horderly ⟨hsplit, hsound⟩ lease
  | reclaim ctx runtimeId => exact booking_reclaim horderly hsplit
  | completeTurn kind runtimeId turnId events =>
    exact .none (notBooked_forward horderly ⟨hsplit, hsound⟩ kind turnId events)

/-- No session is stored as failed. -/
structure NoneFailed (db : Db) : Prop where
  sessions : ∀ id record, db.sessions.get? id = some record → record.status ≠ .failed
  joint : ∀ id row, db.jointSessions.get? id = some row → row.status ≠ .failed

theorem SessionStatus.isActive_eq {status} (h : status ≠ .failed) :
    SessionStatus.isActive status = decide (status ≠ .closed) := by
  cases status <;> first | rfl | exact absurd rfl h

/-- The count that is restored is the number of open sessions, if none has failed. -/
theorem balanced_restored (h : NoneFailed s.store) : Balanced s.restoreTenantSessionCounts := by
  intro tenant
  refine congrArg₂ (· + ·) (Table.count_congr ?_) (Table.count_congr ?_)
  · intro id record hrow
    rw [SessionStatus.isActive_eq (h.sessions id record hrow)]
  · intro id row hrow
    rw [SessionStatus.isActive_eq (h.joint id row hrow)]

/-- **Slots and open sessions**: after any sequence of sound calls from a restored count, the count
of each tenant is the number of its stored sessions that are not closed. -/
theorem tenant_count_eq_openSessions (config : Config) (s₀ s : State)
    (tr : List (State × BookedCall × Env)) (horderly : Orderly s₀.store)
    (hfailed : NoneFailed s₀.store)
    (hrun : Run (BookedCall.Step config) s₀.restoreTenantSessionCounts tr s) (tenant : String) :
    s.tenantSessions tenant = openSessions s.store tenant := by
  have hinv : Orderly s.store ∧ Balanced s := by
    refine hrun.invariant (P := fun s => Orderly s.store ∧ Balanced s)
      ⟨horderly, balanced_restored hfailed⟩ ?_
    rintro s ⟨call, env⟩ s' ⟨hs, hbalanced⟩ ⟨hsplit, hsound, rfl⟩
    have hbooking := call.booking hs hsplit hsound
    exact ⟨hbooking.orderly, hbooking.balanced hbalanced⟩
  exact hinv.2 tenant

namespace Sample

/-- A tenant with two open sessions. -/
def twoOpen : State :=
  stateWith [session "t" "a" .idle, session "t" "b" .idle]

theorem twoOpen_row (hrow : twoOpen.store.sessions.get? id = some record) :
    record = session "t" "a" .idle ∨ record = session "t" "b" .idle := by
  simpa using (stateWith_row hrow).1

theorem orderly_twoOpen : Orderly twoOpen.store where
  keyed := fun hrow => (stateWith_row hrow).2
  split := by
    intro id record hrow
    rcases twoOpen_row hrow with rfl | rfl <;> rfl

theorem noneFailed_twoOpen : NoneFailed twoOpen.store where
  sessions := by
    intro id record hrow
    rcases twoOpen_row hrow with rfl | rfl <;> nofun
  joint := by
    intro id row hrow
    cases hrow

/-- The tenant closes the first one. -/
def closeFirst : BookedCall :=
  .close (tenant "t") "a" noLease

theorem sound_closeFirst (config env) :
    closeFirst.Sound config env twoOpen.restoreTenantSessionCounts := by
  intro record hrow
  rcases twoOpen_row hrow with rfl | rfl <;> nofun

end Sample

/-- The second close of a session gives back the slot of another one: the tenant has an open
session and no slot is taken. -/
theorem second_close_frees_slot_of_other :
    let close := Sample.closeFirst.after (Sample.config [("e2b", "m")]) Sample.env
    let once := close Sample.twoOpen.restoreTenantSessionCounts
    let twice := close once
    once.tenantSessions "t" = 1 ∧ openSessions once.store "t" = 1 ∧
      twice.tenantSessions "t" = 0 ∧ openSessions twice.store "t" = 1 := by
  decide

/-- The first close keeps the count right. -/
theorem first_close_frees_own_slot :
    (Sample.closeFirst.after (Sample.config [("e2b", "m")]) Sample.env
        Sample.twoOpen.restoreTenantSessionCounts).tenantSessions "t" =
      openSessions (Sample.closeFirst.after (Sample.config [("e2b", "m")]) Sample.env
        Sample.twoOpen.restoreTenantSessionCounts).store "t" :=
  tenant_count_eq_openSessions (Sample.config [("e2b", "m")]) Sample.twoOpen _
    [(_, Sample.closeFirst, Sample.env)] Sample.orderly_twoOpen Sample.noneFailed_twoOpen
    (.snoc .nil ⟨rfl, Sample.sound_closeFirst _ _, rfl⟩) "t"

end XGovernor.App
